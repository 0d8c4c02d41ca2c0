import Mathlib.Data.List.Induction
import WebviewBridge.Proofs.Crew.Turns
import WebviewBridge.Proofs.Host.Handlers
import WebviewBridge.Proofs.Host.Record
import WebviewBridge.Proofs.Host.Stored

/-!
# Submissions that are stored side by side

All sessions of a host store their submissions in one file, and all of them write beside it to one
place.  A call that stores a submission makes four moves: it looks at the clock, makes the
directory, writes its record beside the file and renames it.  `Crew.IsStoring` is what holds of a
crew of such calls at any time, with `SubmissionCache.Stage` for each of them; main statement:
`Crew.isStored_runTurns`.
-/

namespace WebviewBridge

/-! ## Calls -/

/-- A call that stores a submission of a session. -/
structure StoreCall where
  session : Session
  submission : SubmitIdea
  creator : CreatorState

/-- What is stored for a call. -/
def StoreCall.record (x : StoreCall) (timestamp : UInt64) : CachedSubmission :=
  { submission := x.submission, creator := x.creator, timestamp }

/-- What carries out steps carries out the first, and goes on if it succeeds. -/
lemma Handling.run_steps_cons (x : FileStep HostError) (xs : List (FileStep HostError)) :
    ExceptT.run (steps (x :: xs)) = .perform (.change x.op) fun a =>
      match (a : Except IoError Unit) with
      | .ok () => ExceptT.run (steps xs)
      | .error e => .done (.error (x.blame e)) := by
  change (Procedure.perform (.change x.op) _) = _
  congr 1
  funext a
  rcases (a : Except IoError Unit) with e | ⟨⟩ <;> rfl

namespace SubmissionCache

variable (k : SubmissionCache) (x : StoreCall) (r : CachedSubmission)

/-- What is done for a call. -/
def procedure : Procedure (Except HostError Unit) := ExceptT.run (k.store x.submission x.creator)

/-- What is left to do after some of the steps that write a record. -/
def remaining (steps : ℕ) : Procedure (Except HostError Unit) :=
  ExceptT.run (Handling.steps ((k.writeSteps r).drop steps))

lemma procedure_eq :
    k.procedure x = .perform .clock fun timestamp => k.remaining (x.record timestamp) 0 := rfl

lemma remaining_zero : ∃ next, k.remaining r 0 =
      .perform (.change (.makeDirs (FilePath.asParent k.dir))) next ∧
    next (.ok ()) = k.remaining r 1 :=
  ⟨_, Handling.run_steps_cons _ _, rfl⟩

lemma remaining_one : ∃ next, k.remaining r 1 =
      .perform (.change (.write (temporaryPath k.path) r.fileText.toUTF8 publicMode)) next ∧
    next (.ok ()) = k.remaining r 2 :=
  ⟨_, Handling.run_steps_cons _ _, rfl⟩

lemma remaining_two : ∃ next, k.remaining r 2 =
      .perform (.change (.rename (temporaryPath k.path) k.path)) next ∧
    next (.ok ()) = .done (.ok ()) ∧
    next (.error .notFound) = .done (.error (.cache k.path IoError.notFound.message)) :=
  ⟨_, Handling.run_steps_cons _ _, rfl, rfl⟩

/-- What a call gets that renames right after a stroke. -/
def outcomeAfter : Stroke → Except HostError Unit
  | .wrote _ => .ok ()
  | .renamed => .error (.cache k.path IoError.notFound.message)

end SubmissionCache

namespace Crew

/-- A crew that begins to store submissions. -/
def storing (k : SubmissionCache) (h : Host) (calls : List StoreCall) :
    Crew (Except HostError Unit) :=
  ofProcedures h (calls.map fun x => (x.session, k.procedure x))

/-- Whether the move of a call after so many others is a stroke: it looks at the clock and makes the
directory before, and does nothing afterwards. -/
def isStroke (moves : ℕ) : Bool := moves == 2 || moves == 3

/-- The workers whose moves are strokes, in order, when others have moved before. -/
def strikers (before : List ℕ) : List ℕ → List ℕ
  | [] => []
  | i :: rest => (if isStroke (before.count i) then [i] else []) ++ strikers (i :: before) rest

lemma strikers_append_singleton (before l : List ℕ) (i : ℕ) :
    strikers before (l ++ [i]) = strikers before l ++
      if isStroke (before.count i + l.count i) then [i] else [] := by
  induction l generalizing before with
  | nil => exact List.append_nil _
  | cons j l ih =>
    rw [List.cons_append, strikers, strikers, ih, List.append_assoc]
    have hcount : (j :: before).count i + l.count i = before.count i + (j :: l).count i := by
      simp only [List.count_cons]
      omega
    rw [hcount]

end Crew

namespace SubmissionCache

open Crew

variable {k : SubmissionCache} {x : StoreCall} {i : ℕ} {history deeds : List Deed} {m : ℕ}
  {p : Procedure (Except HostError Unit)}

/-- How far a call is after some moves. -/
inductive Stage (k : SubmissionCache) (x : StoreCall) (i : ℕ) (history : List Deed) :
    ℕ → Procedure (Except HostError Unit) → Prop
  | ahead (hown : ofWorker i (history.filterMap Deed.stroke?) = []) :
      Stage k x i history 0 (k.procedure x)
  | timed {ts : UInt64} (hts : .performed i .clock ts ∈ history)
      (hown : ofWorker i (history.filterMap Deed.stroke?) = []) :
      Stage k x i history 1 (k.remaining (x.record ts) 0)
  | made {ts : UInt64} (hts : .performed i .clock ts ∈ history)
      (hown : ofWorker i (history.filterMap Deed.stroke?) = []) :
      Stage k x i history 2 (k.remaining (x.record ts) 1)
  | wrote {ts : UInt64} (hts : .performed i .clock ts ∈ history)
      (hown : ofWorker i (history.filterMap Deed.stroke?) =
        [.wrote (x.record ts).fileText.toUTF8]) :
      Stage k x i history 3 (k.remaining (x.record ts) 2)
  | ended {ts : UInt64} (hts : .performed i .clock ts ∈ history) {n : ℕ} (hn : 4 ≤ n)
      {before after : List (ℕ × Stroke)} {s : Stroke}
      (hsplit : history.filterMap Deed.stroke? = before ++ (i, .renamed) :: after)
      (hbefore : ofWorker i before = [.wrote (x.record ts).fileText.toUTF8])
      (hafter : ofWorker i after = []) (hlast : (before.map (·.2)).getLast? = some s) :
      Stage k x i history n (.done (k.outcomeAfter s))

/-- A call is as far as before while others are busy. -/
lemma Stage.append (hs : k.Stage x i history m p)
    (hdeeds : ofWorker i (deeds.filterMap Deed.stroke?) = []) :
    k.Stage x i (history ++ deeds) m p := by
  have hown {own : List Stroke} (h : ofWorker i (history.filterMap Deed.stroke?) = own) :
      ofWorker i ((history ++ deeds).filterMap Deed.stroke?) = own := by
    rw [List.filterMap_append, ofWorker_append, h, hdeeds, List.append_nil]
  cases hs with
  | ahead h => exact .ahead (hown h)
  | timed hts h => exact .timed (List.mem_append_left _ hts) (hown h)
  | made hts h => exact .made (List.mem_append_left _ hts) (hown h)
  | wrote hts h => exact .wrote (List.mem_append_left _ hts) (hown h)
  | @ended ts hts n hn before after s hsplit hbefore hafter hlast =>
    refine .ended (List.mem_append_left _ hts) hn
      (?_ : _ = before ++ (i, .renamed) :: (after ++ deeds.filterMap Deed.stroke?)) hbefore ?_ hlast
    · rw [List.filterMap_append, hsplit, List.append_assoc, List.cons_append]
    · rw [ofWorker_append, hafter, hdeeds, List.append_nil]

/-- Whoever has ended does nothing any more. -/
lemma Stage.rest_eq (hs : k.Stage x i history m p) (hm : 4 ≤ m) : ∃ outcome, p = .done outcome := by
  cases hs with
  | ended => exact ⟨_, rfl⟩
  | _ => omega

end SubmissionCache

namespace Crew

open SubmissionCache

variable {k : SubmissionCache} {h : Host} {x : StoreCall} {calls : List StoreCall}
  {turns : List Turn} {i : ℕ}
  {c c' : Crew (Except HostError Unit)} {w w' : Worker (Except HostError Unit)}

/-- A worker who changes files. -/
lemma move_change {α : Type} {c : Crew α} {w : Worker α} {op : FileOp}
    {next : Except IoError Unit → Procedure α} (hw : c.workers[i]? = some w)
    (hrest : w.rest = .perform (.change op) next) {t : FileTree} {a : Except IoError Unit}
    (hop : op.run c.host.files = (t, a)) :
    c.move (.work i) =
      { host := { c.host with files := t }
        workers := c.workers.set i { w with rest := next a }
        history := c.history ++ [.performed i (.change op) a] } := by
  rw [move, hw]
  simp only [Worker.move, hrest, Host.perform, Host.change, hop]

/-- What holds of a crew while its workers store submissions. -/
structure IsStoring (k : SubmissionCache) (h : Host) (calls : List StoreCall) (turns : List Turn)
    (c : Crew (Except HostError Unit)) : Prop where
  length : c.workers.length = calls.length
  stage : ∀ i w x, c.workers[i]? = some w → calls[i]? = some x →
    k.Stage x i c.history (movesOf i turns) w.rest
  order : c.strokes.map (·.1) =
    (strikers [] (turns.filterMap Turn.worker?)).filter (· < calls.length)
  /-- Nobody has made the directory yet, or the files stand as the strokes so far have left them. -/
  files : c.host.files = h.files ∧ c.strokes = [] ∧ (∀ i < calls.length, movesOf i turns ≤ 1) ∨
    c.host.files.Stands (FilePath.asParent k.dir) k.path (c.strokes.map (·.2))

namespace IsStoring

/-- Something else has happened. -/
lemma elsewhere (hc : c.IsStoring k h calls turns) {t : Turn}
    (ht : ∀ i, t.worker? = some i → calls.length ≤ i) (hworkers : c'.workers = c.workers)
    (hfiles : c'.host.files = c.host.files) {deeds : List Deed}
    (hhistory : c'.history = c.history ++ deeds) (hdeeds : deeds.filterMap Deed.stroke? = []) :
    c'.IsStoring k h calls (turns ++ [t]) := by
  have hmoves (i : ℕ) (hi : i < calls.length) : movesOf i (turns ++ [t]) = movesOf i turns := by
    have hne : t.worker? ≠ some i := fun h => Nat.not_le.2 hi (ht i h)
    rw [movesOf_append_singleton, if_neg hne, Nat.add_zero]
  have hstrokes : c'.strokes = c.strokes := by
    rw [strokes, hhistory, List.filterMap_append, hdeeds, List.append_nil, strokes]
  refine ⟨hworkers ▸ hc.length, ?_, ?_, ?_⟩
  · intro i w x hw hx
    rw [hworkers] at hw
    rw [hmoves i (List.getElem?_eq_some_iff.1 hx).1, hhistory]
    refine (hc.stage i w x hw hx).append ?_
    rw [hdeeds]
    rfl
  · rw [hstrokes, hc.order, List.filterMap_append]
    cases hworker : t.worker? with
    | none => simp [hworker]
    | some i =>
      have hi : ¬i < calls.length := Nat.not_lt.2 (ht i hworker)
      simp only [List.filterMap_cons, List.filterMap_nil, hworker]
      rw [strikers_append_singleton, List.filter_append]
      split <;> simp [hi]
  · rw [hstrokes, hfiles]
    rcases hc.files with ⟨htree, hnone, hothers⟩ | hstands
    · refine Or.inl ⟨htree, hnone, ?_⟩
      intro i hi
      rw [hmoves i hi]
      exact hothers i hi
    · exact Or.inr hstands

/-- A worker has made a move. -/
lemma works (hc : c.IsStoring k h calls turns) (hw : c.workers[i]? = some w)
    (hx : calls[i]? = some x) {h' : Host} {deeds : List Deed}
    (hstage : k.Stage x i (c.history ++ deeds) (movesOf i turns + 1) w'.rest)
    (horder : (deeds.filterMap Deed.stroke?).map (·.1) =
      if isStroke (movesOf i turns) then [i] else [])
    (hfiles : h'.files = h.files ∧ c.strokes ++ deeds.filterMap Deed.stroke? = [] ∧
        movesOf i turns = 0 ∧ (∀ j < calls.length, movesOf j turns ≤ 1) ∨
      h'.files.Stands (FilePath.asParent k.dir) k.path
        ((c.strokes ++ deeds.filterMap Deed.stroke?).map (·.2))) :
    IsStoring k h calls (turns ++ [.move (.work i)])
      { host := h', workers := c.workers.set i w', history := c.history ++ deeds } := by
  obtain ⟨hlt, hi⟩ := List.getElem?_eq_some_iff.1 hw
  have hstrokes : strokes
      { host := h', workers := c.workers.set i w', history := c.history ++ deeds } =
        c.strokes ++ deeds.filterMap Deed.stroke? := List.filterMap_append
  refine ⟨List.length_set.trans hc.length, ?_, ?_, ?_⟩
  · intro j v y hv hy
    by_cases hij : i = j
    · subst hij
      rw [List.getElem?_set_self hlt] at hv
      cases hv
      cases hx.symm.trans hy
      have hmoves : movesOf i (turns ++ [.move (.work i)]) = movesOf i turns + 1 := by
        simp [movesOf_append_singleton, Turn.worker?]
      rw [hmoves]
      exact hstage
    · rw [List.getElem?_set_ne hij] at hv
      have hmoves : movesOf j (turns ++ [.move (.work i)]) = movesOf j turns := by
        simp [movesOf_append_singleton, Turn.worker?, hij]
      rw [hmoves]
      refine (hc.stage j v y hv hy).append ?_
      have hothers : ∀ s ∈ deeds.filterMap Deed.stroke?, s.1 ≠ j := by
        intro s hs
        have hmem : s.1 ∈ (deeds.filterMap Deed.stroke?).map (·.1) := List.mem_map_of_mem hs
        rw [horder] at hmem
        split at hmem
        · rwa [List.mem_singleton.1 hmem]
        · cases hmem
      simpa [ofWorker] using hothers
  · rw [hstrokes, List.map_append, hc.order, horder, List.filterMap_append]
    have hi : i < calls.length := hc.length ▸ hlt
    simp only [List.filterMap_cons, List.filterMap_nil, Turn.worker?]
    rw [strikers_append_singleton, List.filter_append, movesOf, List.count_nil, Nat.zero_add]
    split <;> simp [hi]
  · rw [hstrokes]
    rcases hfiles with ⟨htree, hnone, hfirst, hothers⟩ | hstands
    · refine Or.inl ⟨htree, hnone, ?_⟩
      intro j hj
      rw [movesOf_append_singleton]
      split
      · next hworker =>
        cases hworker
        omega
      · exact hothers j hj
    · exact Or.inr hstands

/-- Once a call has made the directory, the files stand as the strokes have left them. -/
lemma stands (hc : c.IsStoring k h calls turns) (hi : i < calls.length)
    (hmoves : 1 < movesOf i turns) :
    c.host.files.Stands (FilePath.asParent k.dir) k.path (c.strokes.map (·.2)) := by
  rcases hc.files with ⟨-, -, hothers⟩ | hstands
  · exact absurd (hothers i hi) (by omega)
  · exact hstands

/-- A call looks at the clock first. -/
lemma looks (hc : c.IsStoring k h calls turns) (hw : c.workers[i]? = some w)
    (hx : calls[i]? = some x) (hmoves : movesOf i turns = 0) (hrest : w.rest = k.procedure x)
    (hown : ofWorker i c.strokes = []) :
    IsStoring k h calls (turns ++ [.move (.work i)]) (c.move (.work i)) := by
  have hmove : c.move (.work i) =
      { host := c.host
        workers := c.workers.set i { w with rest := k.remaining (x.record c.host.now) 0 }
        history := c.history ++ [.performed i .clock c.host.now] } := by
    rw [procedure_eq] at hrest
    rw [move, hw]
    simp only [Worker.move, hrest, Host.perform]
  have hstrokes : c.strokes ++ [Deed.performed i .clock c.host.now].filterMap Deed.stroke? =
      c.strokes := List.append_nil _
  rw [hmove]
  refine hc.works hw hx ?_ ?_ ?_
  · rw [hmoves]
    refine .timed (List.mem_append_right _ List.mem_cons_self) ?_
    rw [List.filterMap_append]
    exact (congrArg (ofWorker i) hstrokes).trans hown
  · rw [hmoves]
    rfl
  · rw [hstrokes]
    rcases hc.files with ⟨htree, hnone, hothers⟩ | hstands
    · exact Or.inl ⟨htree, hnone, hmoves, hothers⟩
    · exact Or.inr hstands

/-- Then it makes the directory; only the first one changes anything by that. -/
lemma makes (hc : c.IsStoring k h calls turns)
    (hready : h.files.BecomesReady (FilePath.asParent k.dir) k.path)
    (hw : c.workers[i]? = some w) (hx : calls[i]? = some x) (hmoves : movesOf i turns = 1)
    {ts : UInt64} (hts : .performed i .clock ts ∈ c.history)
    (hrest : w.rest = k.remaining (x.record ts) 0) (hown : ofWorker i c.strokes = []) :
    IsStoring k h calls (turns ++ [.move (.work i)]) (c.move (.work i)) := by
  obtain ⟨next, hremaining, hnext⟩ := k.remaining_zero (x.record ts)
  rw [hremaining] at hrest
  obtain ⟨t, hmake, hstands⟩ : ∃ t, c.host.files.makeDirs (FilePath.asParent k.dir) =
      (t, .ok ()) ∧ t.Stands (FilePath.asParent k.dir) k.path (c.strokes.map (·.2)) := by
    rcases hc.files with ⟨htree, hnone, -⟩ | hstands
    · rw [htree, hnone]
      exact ⟨_, Prod.ext rfl hready.made, .nil hready.isReady⟩
    · exact ⟨_, hstands.isReady.makeDirs_eq, hstands⟩
  rw [move_change hw hrest hmake]
  have hstrokes (a : Except IoError Unit) : c.strokes ++
      [Deed.performed i (.change (.makeDirs (FilePath.asParent k.dir))) a].filterMap Deed.stroke? =
        c.strokes := List.append_nil _
  refine hc.works hw hx ?_ ?_ (Or.inr ?_)
  · rw [hmoves, hnext]
    refine .made (List.mem_append_left _ hts) ?_
    rw [List.filterMap_append]
    exact (congrArg (ofWorker i) (hstrokes _)).trans hown
  · rw [hmoves]
    rfl
  · rwa [hstrokes]

/-- Then it writes its record beside the file. -/
lemma writes (hc : c.IsStoring k h calls turns) (hw : c.workers[i]? = some w)
    (hx : calls[i]? = some x) (hmoves : movesOf i turns = 2)
    {ts : UInt64} (hts : .performed i .clock ts ∈ c.history)
    (hrest : w.rest = k.remaining (x.record ts) 1) (hown : ofWorker i c.strokes = []) :
    IsStoring k h calls (turns ++ [.move (.work i)]) (c.move (.work i)) := by
  obtain ⟨next, hremaining, hnext⟩ := k.remaining_one (x.record ts)
  rw [hremaining] at hrest
  have hbefore := hc.stands (List.getElem?_eq_some_iff.1 hx).1 (by omega)
  obtain ⟨t, hwrite, hstands⟩ := hbefore.wrote (x.record ts).fileText.toUTF8 publicMode
  rw [move_change hw hrest hwrite]
  refine hc.works hw hx ?_ ?_ (Or.inr ?_)
  · rw [hmoves, hnext]
    refine .wrote (List.mem_append_left _ hts) ?_
    rw [List.filterMap_append, ofWorker_append]
    change ofWorker i c.strokes ++ _ = _
    rw [hown]
    simp [ofWorker, Deed.stroke?]
  · rw [hmoves]
    rfl
  · simpa [List.filterMap_cons, Deed.stroke?] using hstands

/-- At last it renames what stands beside the file, which may have been written, or renamed already,
by somebody else. -/
lemma renames (hc : c.IsStoring k h calls turns) (hw : c.workers[i]? = some w)
    (hx : calls[i]? = some x) (hmoves : movesOf i turns = 3)
    {ts : UInt64} (hts : .performed i .clock ts ∈ c.history)
    (hrest : w.rest = k.remaining (x.record ts) 2)
    (hown : ofWorker i c.strokes = [.wrote (x.record ts).fileText.toUTF8]) :
    IsStoring k h calls (turns ++ [.move (.work i)]) (c.move (.work i)) := by
  obtain ⟨next, hremaining, hrenamed, hmissed⟩ := k.remaining_two (x.record ts)
  rw [hremaining] at hrest
  have hbefore := hc.stands (List.getElem?_eq_some_iff.1 hx).1 (by omega)
  -- it has made a stroke itself, so there is one before
  obtain ⟨s, hlast⟩ : ∃ s, (c.strokes.map (·.2)).getLast? = some s := by
    cases hs : (c.strokes.map (·.2)).getLast? with
    | some s => exact ⟨s, rfl⟩
    | none =>
      rw [List.getLast?_eq_none_iff, List.map_eq_nil_iff] at hs
      rw [hs] at hown
      cases hown
  obtain ⟨t, a, hrename, hoverall, hstands⟩ : ∃ t a,
      FileOp.run c.host.files (.rename (temporaryPath k.path) k.path) = (t, a) ∧
      next a = .done (k.outcomeAfter s) ∧
      t.Stands (FilePath.asParent k.dir) k.path (c.strokes.map (·.2) ++ [.renamed]) := by
    cases s with
    | wrote content =>
      obtain ⟨t, hrename, hstands⟩ := hbefore.renamed hlast
      refine ⟨t, .ok (), ?_, hrenamed, hstands⟩
      rw [FileOp.run, hrename]
      rfl
    | renamed =>
      obtain ⟨hrename, hstands⟩ := hbefore.missed hlast
      refine ⟨_, .error .notFound, ?_, hmissed, hstands⟩
      rw [FileOp.run, hrename]
      rfl
  rw [move_change hw hrest hrename]
  refine hc.works hw hx ?_ ?_ (Or.inr ?_)
  · rw [hmoves, hoverall]
    refine .ended (List.mem_append_left _ hts) (Nat.le_refl _)
      (?_ : _ = c.strokes ++ (i, .renamed) :: []) hown rfl hlast
    rw [List.filterMap_append]
    rfl
  · rw [hmoves]
    rfl
  · simpa [List.filterMap_cons, Deed.stroke?] using hstands

/-- After that it does nothing. -/
lemma idles (hc : c.IsStoring k h calls turns) (hw : c.workers[i]? = some w)
    (hx : calls[i]? = some x) (hmoves : 4 ≤ movesOf i turns)
    {outcome : Except HostError Unit} (hrest : w.rest = .done outcome)
    (hstage : k.Stage x i c.history (movesOf i turns + 1) w.rest) :
    IsStoring k h calls (turns ++ [.move (.work i)]) (c.move (.work i)) := by
  have hmove : c.move (.work i) =
      { host := c.host, workers := c.workers.set i w, history := c.history ++ [] } := by
    rw [move, hw]
    simp only [Worker.move, hrest]
  have hstroke : isStroke (movesOf i turns) = false := by
    simp only [isStroke, Bool.or_eq_false_iff, beq_eq_false_iff_ne]
    omega
  rw [hmove]
  refine hc.works hw hx ?_ ?_ (Or.inr ?_)
  · rwa [List.append_nil]
  · rw [hstroke]
    rfl
  · simpa using hc.stands (List.getElem?_eq_some_iff.1 hx).1 (by omega)

/-- Whoever's turn it is, the crew goes on storing. -/
lemma work (hc : c.IsStoring k h calls turns)
    (hready : calls ≠ [] → h.files.BecomesReady (FilePath.asParent k.dir) k.path)
    (hw : c.workers[i]? = some w) :
    IsStoring k h calls (turns ++ [.move (.work i)]) (c.move (.work i)) := by
  have hlt : i < c.workers.length := (List.getElem?_eq_some_iff.1 hw).1
  have hi : i < calls.length := hc.length ▸ hlt
  have hx : calls[i]? = some calls[i] := List.getElem?_eq_getElem hi
  have hstage := hc.stage i w calls[i] hw hx
  generalize hn : movesOf i turns = n at hstage
  generalize hrest : w.rest = rest at hstage
  cases hstage with
  | ahead hown => exact hc.looks hw hx hn hrest hown
  | timed hts hown =>
    have hcalls : calls ≠ [] := List.ne_nil_of_length_pos (Nat.zero_lt_of_lt hi)
    exact hc.makes (hready hcalls) hw hx hn hts hrest hown
  | made hts hown => exact hc.writes hw hx hn hts hrest hown
  | wrote hts hown => exact hc.renames hw hx hn hts hrest hown
  | ended hts hle hsplit hbefore hafter hlast =>
    subst hn
    refine hc.idles hw hx hle hrest ?_
    rw [hrest]
    exact .ended hts (Nat.le_succ_of_le hle) hsplit hbefore hafter hlast

/-- Whatever happens next, the crew goes on storing. -/
lemma turn (hc : c.IsStoring k h calls turns)
    (hready : calls ≠ [] → h.files.BecomesReady (FilePath.asParent k.dir) k.path)
    (t : Turn) : IsStoring k h calls (turns ++ [t]) (c.turn t) := by
  cases t with
  | elsewhere h' => exact hc.elsewhere nofun rfl rfl (List.append_nil _).symm rfl
  | move m =>
    cases m with
    | keep =>
      cases hq : c.host.queue with
      | nil =>
        refine hc.elsewhere nofun rfl ?_ rfl ?_
        · simp only [Crew.turn, move, Host.applyNext, hq]
        · rw [keeping, hq]
          rfl
      | cons y ys =>
        refine hc.elsewhere nofun rfl ?_ rfl ?_
        · simp only [Crew.turn, move, Host.applyNext, hq]
          rfl
        · rw [keeping, hq]
          rfl
    | work i =>
      cases hw : c.workers[i]? with
      | some w => exact hc.work hready hw
      | none =>
        have hmove : c.turn (.move (.work i)) = c := by rw [Crew.turn, move, hw]
        rw [hmove]
        refine hc.elsewhere ?_ rfl rfl (List.append_nil _).symm rfl
        intro j hj
        cases hj
        rw [← hc.length]
        exact List.getElem?_eq_none_iff.1 hw

end IsStoring

/-- A crew is storing from when it begins. -/
lemma isStoring_storing (k : SubmissionCache) (h : Host) (calls : List StoreCall) :
    (storing k h calls).IsStoring k h calls [] where
  length := by simp [storing, ofProcedures]
  stage i w x hw hx := by
    have hworker : (storing k h calls).workers[i]? =
        some { session := x.session, rest := k.procedure x } := by
      simp [storing, ofProcedures, hx]
    cases hworker.symm.trans hw
    exact .ahead rfl
  order := rfl
  files := Or.inl ⟨rfl, rfl, fun _ _ => Nat.zero_le _⟩

/-- Whatever happens to a crew that stores submissions each of which could be stored alone, it goes
on storing. -/
lemma isStoring_runTurns
    (halone : ∀ x ∈ calls, ((k.store x.submission x.creator).runOn h x.session).2.2 = .ok ())
    (turns : List Turn) : ((storing k h calls).runTurns turns).IsStoring k h calls turns := by
  have hready : calls ≠ [] → h.files.BecomesReady (FilePath.asParent k.dir) k.path := by
    intro hcalls
    obtain ⟨x, hx⟩ := List.exists_mem_of_ne_nil calls hcalls
    have hstored := halone x hx
    rw [runOn_store] at hstored
    exact FileTree.becomesReady_of_runSteps (k.placeOf_path_ne h.files) (Prod.ext rfl hstored)
  induction turns using List.reverseRecOn with
  | nil => exact isStoring_storing k h calls
  | append_singleton turns t ih =>
    rw [runTurns_append_singleton]
    exact ih.turn hready t

/-- How a call has come to its end: its record, with the time at which it has looked at the clock,
was written once, and was then to be renamed once, right after some stroke. -/
structure Ends (k : SubmissionCache) (x : StoreCall) (i : ℕ) (c : Crew (Except HostError Unit))
    (timestamp : UInt64) (before : List (ℕ × Stroke)) (last : Stroke)
    (after : List (ℕ × Stroke)) : Prop where
  clock : .performed i .clock timestamp ∈ c.history
  strokes : c.strokes = before ++ (i, .renamed) :: after
  own : ofWorker i before = [.wrote (x.record timestamp).fileText.toUTF8]
  once : ofWorker i after = []
  previous : (before.map (·.2)).getLast? = some last

lemma Ends.ofWorker_strokes {timestamp : UInt64} {before after : List (ℕ × Stroke)} {last : Stroke}
    (hends : Ends k x i c timestamp before last after) :
    ofWorker i c.strokes = [.wrote (x.record timestamp).fileText.toUTF8, .renamed] := by
  rw [hends.strokes, ofWorker_append, ofWorker_cons_self, hends.own, hends.once]
  rfl

/-- A call renames once. -/
lemma Ends.before_eq {timestamp : UInt64} {before after before' after' : List (ℕ × Stroke)}
    {last : Stroke} (hends : Ends k x i c timestamp before last after)
    (heq : c.strokes = before' ++ (i, .renamed) :: after') : before' = before := by
  have honce : ((i, .renamed) : ℕ × Stroke) ∉ before ∧ (i, .renamed) ∉ after := by
    simp [← mem_ofWorker_iff, hends.own, hends.once]
  exact ((List.append_cons_inj_of_notMem honce.1 honce.2).1 (hends.strokes.symm.trans heq)).1.symm

/-- So it succeeds if and only if somebody has written right before. -/
lemma Ends.eq_ok_iff {timestamp : UInt64} {before after before' after' : List (ℕ × Stroke)}
    {last : Stroke} (hends : Ends k x i c timestamp before last after)
    (heq : c.strokes = before' ++ (i, .renamed) :: after') :
    k.outcomeAfter last = .ok () ↔ ∃ j content, before'.getLast? = some (j, .wrote content) := by
  obtain rfl := hends.before_eq heq
  have hprevious := hends.previous
  rw [List.getLast?_map, Option.map_eq_some_iff] at hprevious
  obtain ⟨⟨j, s⟩, hlast, rfl⟩ := hprevious
  rw [hlast]
  cases s with
  | wrote content => exact ⟨fun _ => ⟨j, content, rfl⟩, fun _ => rfl⟩
  | renamed => exact ⟨nofun, by simp⟩

/-- What becomes of calls that store submissions side by side. -/
structure IsStored (k : SubmissionCache) (calls : List StoreCall) (turns : List Turn)
    (c : Crew (Except HostError Unit)) : Prop where
  /-- A call never has to wait: it is over after its fourth move. -/
  ends : ∀ i < calls.length, 4 ≤ movesOf i turns →
    ∃ w outcome, c.workers[i]? = some w ∧ w.result? = some outcome
  /-- The turns alone decide who makes a stroke when. -/
  order : c.strokes.map (·.1) =
    (strikers [] (turns.filterMap Turn.worker?)).filter (· < calls.length)
  /-- A call succeeds if the stroke before its renaming is a write, whoever has written, and fails
  otherwise: then somebody else has renamed what it has written. -/
  outcome : ∀ i w outcome, c.workers[i]? = some w → w.result? = some outcome →
    ∃ x timestamp before last after, calls[i]? = some x ∧
      Ends k x i c timestamp before last after ∧ outcome = k.outcomeAfter last
  /-- All calls succeed if and only if nobody makes a stroke between the two of another call. -/
  succeed : c.isIdle = true →
    ((∀ w ∈ c.workers, w.result? = some (.ok ())) ↔ IsPaired c.strokes)
  /-- When all calls are over one of them at least has succeeded, and the file holds the record of
  the call that wrote last, and is loaded as this record. -/
  stored : calls ≠ [] → c.isIdle = true → (∃ w ∈ c.workers, w.result? = some (.ok ())) ∧
    ∃ i x timestamp before after, calls[i]? = some x ∧
      .performed i .clock timestamp ∈ c.history ∧
      c.strokes = before ++ (i, .wrote (x.record timestamp).fileText.toUTF8) :: after ∧
      (∀ s ∈ after, s.2 = .renamed) ∧
      c.host.files.Holds k.path (x.record timestamp).fileText.toUTF8 ∧
      (x.submission.Portable 125 →
        c.host.files.hindrance? (.read (c.host.files.placeOf k.path)) = none →
        k.loaded c.host.files = .ok (some (x.record timestamp)))

namespace IsStoring

/-- Whoever is done has come to an end. -/
lemma exists_ends (hc : c.IsStoring k h calls turns) (hw : c.workers[i]? = some w)
    {outcome : Except HostError Unit} (hresult : w.result? = some outcome) :
    ∃ x timestamp before last after, calls[i]? = some x ∧
      Ends k x i c timestamp before last after ∧ outcome = k.outcomeAfter last := by
  have hi : i < calls.length := hc.length ▸ (List.getElem?_eq_some_iff.1 hw).1
  have hx : calls[i]? = some calls[i] := List.getElem?_eq_getElem hi
  have hstage := hc.stage i w calls[i] hw hx
  rw [Worker.result?] at hresult
  generalize movesOf i turns = n at hstage
  generalize w.rest = rest at hstage hresult
  cases hstage with
  | ended hts hn hsplit hbefore hafter hlast =>
    cases hresult
    exact ⟨_, _, _, _, _, hx, ⟨hts, hsplit, hbefore, hafter, hlast⟩, rfl⟩
  | _ => cases hresult

/-- A call is over after its fourth move. -/
lemma exists_result (hc : c.IsStoring k h calls turns) (hi : i < calls.length)
    (hmoves : 4 ≤ movesOf i turns) :
    ∃ w outcome, c.workers[i]? = some w ∧ w.result? = some outcome := by
  have hlt : i < c.workers.length := hc.length ▸ hi
  have hw : c.workers[i]? = some c.workers[i] := List.getElem?_eq_getElem hlt
  have hstage := hc.stage i _ calls[i] hw (List.getElem?_eq_getElem hi)
  obtain ⟨outcome, hrest⟩ := hstage.rest_eq hmoves
  exact ⟨_, outcome, hw, by rw [Worker.result?, hrest]⟩

/-- Nobody else makes a stroke. -/
lemma lt_length (hc : c.IsStoring k h calls turns) {s : ℕ × Stroke} (hs : s ∈ c.strokes) :
    s.1 < calls.length := by
  have hmem : s.1 ∈ c.strokes.map (·.1) := List.mem_map_of_mem hs
  rw [hc.order, List.mem_filter] at hmem
  simpa using hmem.2

/-- When all calls are over, each has come to an end. -/
lemma exists_ends_of_isIdle (hc : c.IsStoring k h calls turns) (hidle : c.isIdle = true)
    (hi : i < calls.length) :
    ∃ w x timestamp before last after, c.workers[i]? = some w ∧ calls[i]? = some x ∧
      Ends k x i c timestamp before last after ∧ w.result? = some (k.outcomeAfter last) := by
  have hlt : i < c.workers.length := hc.length ▸ hi
  have hw : c.workers[i]? = some c.workers[i] := List.getElem?_eq_getElem hlt
  obtain ⟨outcome, hresult⟩ :=
    Option.isSome_iff_exists.1 (List.all_eq_true.1 hidle _ (List.getElem_mem hlt))
  obtain ⟨x, timestamp, before, last, after, hx, hends, rfl⟩ := hc.exists_ends hw hresult
  exact ⟨_, x, timestamp, before, last, after, hw, hx, hends, hresult⟩

lemma isComplete (hc : c.IsStoring k h calls turns) (hidle : c.isIdle = true) :
    IsComplete c.strokes := by
  intro i
  by_cases hi : i < calls.length
  · obtain ⟨w, x, timestamp, before, last, after, -, -, hends, -⟩ :=
      hc.exists_ends_of_isIdle hidle hi
    exact Or.inr ⟨_, hends.ofWorker_strokes⟩
  · refine Or.inl ?_
    rw [ofWorker, List.map_eq_nil_iff, List.filter_eq_nil_iff]
    intro s hs hsi
    exact hi (of_decide_eq_true hsi ▸ hc.lt_length hs)

/-- All calls succeed in pairs, and only so. -/
lemma succeed_iff (hc : c.IsStoring k h calls turns) (hidle : c.isIdle = true) :
    (∀ w ∈ c.workers, w.result? = some (.ok ())) ↔ IsPaired c.strokes := by
  constructor
  · intro hall
    refine isPaired_of_renamesWritten ?_ (hc.isComplete hidle)
    intro before i after heq
    have hi : i < calls.length := hc.lt_length (s := (i, .renamed)) (by rw [heq]; simp)
    obtain ⟨w, x, timestamp, before', last, after', hw, -, hends, hresult⟩ :=
      hc.exists_ends_of_isIdle hidle hi
    rw [hall w (List.mem_of_getElem? hw)] at hresult
    exact (hends.eq_ok_iff heq).1 (Option.some.inj hresult).symm
  · intro hpaired w hw
    obtain ⟨i, hi, rfl⟩ := List.getElem_of_mem hw
    obtain ⟨w, x, timestamp, before, last, after, hw, -, hends, hresult⟩ :=
      hc.exists_ends_of_isIdle hidle (hc.length ▸ hi)
    obtain ⟨content, hlast⟩ := hpaired.exists_getLast? hends.strokes
    rw [(hends.eq_ok_iff hends.strokes).2 ⟨i, content, hlast⟩] at hresult
    cases (List.getElem?_eq_getElem hi).symm.trans hw
    exact hresult

/-- When all calls are over, the last stroke is a renaming. -/
lemma exists_getLast? (hc : c.IsStoring k h calls turns) (hcalls : calls ≠ [])
    (hidle : c.isIdle = true) : ∃ i, c.strokes.getLast? = some (i, .renamed) := by
  obtain ⟨_, _, _, _, _, _, -, -, hfirst, -⟩ :=
    hc.exists_ends_of_isIdle hidle (List.length_pos_iff.2 hcalls)
  have hne : c.strokes ≠ [] := by
    rw [hfirst.strokes]
    simp
  obtain ⟨⟨i, s⟩, hlast⟩ := Option.ne_none_iff_exists'.1 (mt List.getLast?_eq_none_iff.1 hne)
  obtain ⟨_, _, _, _, _, _, -, -, hends, -⟩ :=
    hc.exists_ends_of_isIdle hidle (hc.lt_length (List.mem_of_getLast? hlast))
  have hown := getLast?_ofWorker hlast
  rw [hends.ofWorker_strokes] at hown
  cases hown
  exact ⟨i, hlast⟩

/-- When all calls are over, the file holds what was written last, and somebody has renamed that. -/
lemma exists_written (hc : c.IsStoring k h calls turns) (hcalls : calls ≠ [])
    (hidle : c.isIdle = true) :
    ∃ i x timestamp before j after, calls[i]? = some x ∧
      .performed i .clock timestamp ∈ c.history ∧
      c.strokes = before ++ (i, .wrote (x.record timestamp).fileText.toUTF8) ::
        (j, .renamed) :: after ∧
      (∀ s ∈ after, s.2 = .renamed) ∧
      c.host.files.Holds k.path (x.record timestamp).fileText.toUTF8 := by
  obtain ⟨last, hlast⟩ := hc.exists_getLast? hcalls hidle
  have hstands : c.host.files.Stands (FilePath.asParent k.dir) k.path (c.strokes.map (·.2)) := by
    rcases hc.files with ⟨-, hnone, -⟩ | hstands
    · rw [hnone] at hlast
      cases hlast
    · exact hstands
  obtain ⟨bytes, hbytes, hholds⟩ := hstands.holds (by rw [List.getLast?_map, hlast]; rfl)
  rw [List.filterMap_map] at hbytes
  obtain ⟨before, ⟨i, s⟩, after, hsplit, hs, hafter⟩ := exists_of_getLast?_filterMap hbytes
  have hrenamed : ∀ s ∈ after, s.2 = .renamed := by
    rintro ⟨j, s⟩ hmem
    cases s with
    | wrote content => cases hafter _ hmem
    | renamed => rfl
  cases s with
  | renamed => cases hs
  | wrote content =>
    cases hs
    -- it is the write of a call, which has written nothing but its record
    have hmem : (i, .wrote bytes) ∈ c.strokes := by
      rw [hsplit]
      simp
    obtain ⟨_, x, timestamp, _, _, _, -, hx, hends, -⟩ :=
      hc.exists_ends_of_isIdle hidle (hc.lt_length hmem)
    have hown := mem_ofWorker_iff.2 hmem
    rw [hends.ofWorker_strokes] at hown
    obtain rfl : bytes = (x.record timestamp).fileText.toUTF8 := by simpa using hown
    cases after with
    | nil =>
      rw [hsplit, List.getLast?_concat] at hlast
      cases hlast
    | cons s after =>
      obtain ⟨j, s⟩ := s
      obtain rfl : s = .renamed := hrenamed (j, s) List.mem_cons_self
      exact ⟨i, x, timestamp, before, j, after, hx, hends.clock, hsplit,
        fun s hs => hrenamed s (List.mem_cons_of_mem _ hs), hholds⟩

end IsStoring

/-- **Submissions that are stored side by side.**  Let any number of calls store their submissions
side by side, each of which could be stored alone, and let anything happen in between that leaves
the files alone.  Every call is over after four moves.  It succeeds if somebody has written right
before its renaming; otherwise somebody else has renamed what it has written, and it fails.  All
calls succeed if and only if nobody makes a stroke between the two of another one.  At least one
succeeds, and in the end the file holds the whole record of the call that wrote last, even if that
call has failed. -/
theorem isStored_runTurns
    (halone : ∀ x ∈ calls, ((k.store x.submission x.creator).runOn h x.session).2.2 = .ok ())
    (turns : List Turn) : IsStored k calls turns ((storing k h calls).runTurns turns) := by
  have hc := isStoring_runTurns halone turns
  refine ⟨fun i => hc.exists_result, hc.order, fun i w outcome hw => hc.exists_ends hw,
    hc.succeed_iff, ?_⟩
  intro hcalls hidle
  obtain ⟨i, x, timestamp, before, j, after, hx, hclock, hstrokes, hafter, hholds⟩ :=
    hc.exists_written hcalls hidle
  constructor
  · have hj : j < calls.length := hc.lt_length (s := (j, .renamed)) (by rw [hstrokes]; simp)
    obtain ⟨w, _, _, _, _, _, hw, -, hends, hresult⟩ := hc.exists_ends_of_isIdle hidle hj
    have hsplit := hstrokes.trans (List.append_cons before _ _)
    rw [(hends.eq_ok_iff hsplit).2 ⟨i, _, List.getLast?_concat⟩] at hresult
    exact ⟨w, List.mem_of_getElem? hw, hresult⟩
  · refine ⟨i, x, timestamp, before, _, hx, hclock, hstrokes, ?_, hholds, ?_⟩
    · rintro s (_ | ⟨_, hs⟩)
      · rfl
      · exact hafter s hs
    · intro hportable hallow
      exact k.loaded_of_holds hholds (CachedSubmission.parse_fileText hportable) hallow

/-- Two sessions submit an idea each. -/
def twoCalls : List StoreCall := [
  { session := { id := ⟨"a"⟩ }, submission := ⟨"r", none, some "/p", []⟩
    creator := .overlayClosedCreatorActive },
  { session := { id := ⟨"b"⟩ }, submission := ⟨"s", none, some "/q", []⟩
    creator := .overlayClosedCreatorActive }]

/-- Below an empty root each of the two is stored alone. -/
lemma runOn_store_twoCalls (x : StoreCall) (_ : x ∈ twoCalls) :
    ((store ⟨""⟩ x.submission x.creator).runOn {} x.session).2.2 = .ok () := by
  rw [runOn_store]
  exact congrArg Prod.snd (runSteps_writeSteps_empty _)

/-- The clock goes on while both are stored, and the second call ends between the strokes of the
first. -/
theorem isStored_runTurns_overlapping :
    let turns : List Turn := [.move (.work 0), .elsewhere { now := 7 }, .move (.work 1),
      .move (.work 0), .move (.work 0), .move (.work 1), .move (.work 1), .move (.work 1),
      .move (.work 0)]
    (∀ x ∈ twoCalls, ((store ⟨""⟩ x.submission x.creator).runOn {} x.session).2.2 = .ok ()) ∧
      IsStored ⟨""⟩ twoCalls turns ((storing ⟨""⟩ {} twoCalls).runTurns turns) :=
  ⟨runOn_store_twoCalls, isStored_runTurns runOn_store_twoCalls _⟩

/-- **A call fails if another one renames what it has written.** -/
theorem result?_storing_overlapping :
    let schedule : List Move :=
      [.work 0, .work 0, .work 0, .work 1, .work 1, .work 1, .work 0, .work 1]
    (∀ x ∈ twoCalls, ((store ⟨""⟩ x.submission x.creator).runOn {} x.session).2.2 = .ok ()) ∧
      ((storing ⟨""⟩ {} twoCalls).run schedule).workers.map Worker.result? = [some (.ok ()),
        some (.error (.cache "creator_submission.json"
          "No such file or directory (os error 2)"))] := by
  intro schedule
  refine ⟨runOn_store_twoCalls, ?_⟩
  have hc := isStoring_runTurns runOn_store_twoCalls (schedule.map .move)
  rw [runTurns_map_move] at hc
  obtain ⟨w, _, hw, hresult⟩ := hc.exists_result (i := 0) (by decide) (by decide)
  obtain ⟨w', _, hw', hresult'⟩ := hc.exists_result (i := 1) (by decide) (by decide)
  obtain ⟨_, _, _, _, _, -, hends, rfl⟩ := hc.exists_ends hw hresult
  obtain ⟨_, _, _, last, _, -, hends', rfl⟩ := hc.exists_ends hw' hresult'
  have horder : ((storing ⟨""⟩ {} twoCalls).run schedule).strokes.map (·.1) = [0, 1, 0, 1] :=
    hc.order
  have hlength := hc.length
  generalize (storing ⟨""⟩ {} twoCalls).run schedule = c at *
  -- the first call writes, and the second one; then the first renames, and the second one
  simp only [List.map_eq_cons_iff, List.map_eq_nil_iff] at horder
  obtain ⟨⟨_, s₁⟩, _, hstrokes, rfl, ⟨_, s₂⟩, _, rfl, rfl, ⟨_, s₃⟩, _, rfl, rfl, ⟨_, s₄⟩, _, rfl,
    rfl, rfl⟩ := horder
  have hown := hends.ofWorker_strokes
  have hown' := hends'.ofWorker_strokes
  rw [hstrokes] at hown hown'
  cases hown
  cases hown'
  have hsplit : c.strokes = [_, (1, .wrote _)] ++ (0, .renamed) :: [(1, .renamed)] := hstrokes
  have hfirst := (hends.eq_ok_iff hsplit).2 ⟨1, _, rfl⟩
  have hsplit' : c.strokes = [_, _, (0, .renamed)] ++ (1, .renamed) :: [] := hstrokes
  have hprevious := hends'.previous
  rw [← hends'.before_eq hsplit'] at hprevious
  obtain rfl : .renamed = last := Option.some.inj hprevious
  have hpath : path ⟨""⟩ = "creator_submission.json" := FilePath.join_empty isFileName_fileName
  have hsecond : outcomeAfter ⟨""⟩ .renamed = .error (.cache "creator_submission.json"
      "No such file or directory (os error 2)") := by
    rw [← hpath]
    rfl
  rw [hfirst] at hresult
  rw [hsecond] at hresult'
  obtain ⟨v, v', hworkers⟩ := List.length_eq_two.1 hlength
  rw [hworkers] at hw hw' ⊢
  cases hw
  cases hw'
  simp [hresult, hresult']

end Crew

end WebviewBridge
