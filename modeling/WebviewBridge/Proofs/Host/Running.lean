import WebviewBridge.Host.Router
import Mathlib.Tactic.Lemma

/-!
# Running procedures and handlers

What it comes to when a procedure is run to its end: one lemma for each way of putting procedures
together, and one for each effect.  Everything said later about a handler is said through these, so
that no proof has to look into a tree of effects again.
-/

namespace WebviewBridge

namespace Procedure

variable {α β : Type}

lemma run_perform (e : Effect) (next : e.Answer → Procedure α) (h : Host) (s : Session) :
    (perform e next).run h s =
      (next (h.perform s e).2.2).run (h.perform s e).1 (h.perform s e).2.1 := rfl

/-- Two procedures one after the other. -/
lemma run_andThen (p : Procedure α) (f : α → Procedure β) (h : Host) (s : Session) :
    (p.andThen f).run h s = (f (p.run h s).2.2).run (p.run h s).1 (p.run h s).2.1 := by
  induction p generalizing h s with
  | done a => rfl
  | perform e next ih => rw [andThen, run_perform, run_perform, ih]

lemma run_bind (p : Procedure α) (f : α → Procedure β) (h : Host) (s : Session) :
    (p >>= f).run h s = (f (p.run h s).2.2).run (p.run h s).1 (p.run h s).2.1 :=
  run_andThen p f h s

end Procedure

namespace Handling

variable {α β : Type} {h h' : Host} {s s' : Session}

/-- Runs a handler to its end. -/
def runOn (x : Handling α) (h : Host) (s : Session) : Host × Session × Except HostError α :=
  Procedure.run (ExceptT.run x) h s

/-- A handler goes on with what the first part gave. -/
lemma runOn_bind_of_ok {x : Handling α} {f : α → Handling β} {a : α}
    (hx : x.runOn h s = (h', s', .ok a)) : (x >>= f).runOn h s = (f a).runOn h' s' := by
  change ((ExceptT.run x).andThen _).run h s = _
  rw [Procedure.run_andThen]
  change Procedure.run (ExceptT.run x) h s = _ at hx
  rw [hx]
  rfl

/-- A handler ends where a part of it fails. -/
lemma runOn_bind_of_error {x : Handling α} {f : α → Handling β} {e : HostError}
    (hx : x.runOn h s = (h', s', .error e)) : (x >>= f).runOn h s = (h', s', .error e) := by
  change ((ExceptT.run x).andThen _).run h s = _
  rw [Procedure.run_andThen]
  change Procedure.run (ExceptT.run x) h s = _ at hx
  rw [hx]
  rfl

lemma runOn_ofEffect (e : Effect) :
    (ofEffect e).runOn h s = ((h.perform s e).1, (h.perform s e).2.1, .ok (h.perform s e).2.2) :=
  rfl

/-- A handler that begins with an effect. -/
lemma runOn_ofEffect_bind (e : Effect) (f : e.Answer → Handling β) :
    (ofEffect e >>= f).runOn h s =
      (f (h.perform s e).2.2).runOn (h.perform s e).1 (h.perform s e).2.1 :=
  runOn_bind_of_ok (runOn_ofEffect e)

lemma runOn_update (c : StateCommand) :
    (update c).runOn h s = ((h.update c).1, s, (h.update c).2) := rfl

lemma runOn_update_bind_of_ok {c : StateCommand} (hc : h.update c = (h', .ok ()))
    (f : Unit → Handling β) : (update c >>= f).runOn h s = (f ()).runOn h' s := by
  refine runOn_bind_of_ok ?_
  rw [runOn_update, hc]

lemma runOn_update_bind_of_error {c : StateCommand} {e : HostError}
    (hc : h.update c = (h', .error e)) (f : Unit → Handling β) :
    (update c >>= f).runOn h s = (h', s, .error e) := by
  refine runOn_bind_of_error ?_
  rw [runOn_update, hc]

lemma runOn_send (m : IncomingMessage) :
    (send m).runOn h s = (h, (s.send m).1, (s.send m).2) := rfl

lemma runOn_emit (e : HostEvent) : (emit e).runOn h s = (h.emit e, s, .ok ()) := rfl

lemma runOn_clock_bind (f : UInt64 → Handling β) :
    ((ofEffect .clock : Handling UInt64) >>= f).runOn h s = (f h.now).runOn h s :=
  runOn_ofEffect_bind .clock f

lemma runOn_creatorState_bind (f : CreatorState → Handling β) :
    ((ofEffect .creatorState : Handling CreatorState) >>= f).runOn h s =
      (f h.state.creator).runOn h s :=
  runOn_ofEffect_bind .creatorState f

lemma runOn_log_bind (level : LogLevel) (message : String) (f : Unit → Handling β) :
    (log level message >>= f).runOn h s = (f ()).runOn (h.note [.bridge level message]) s :=
  runOn_bind_of_ok rfl

lemma runOn_ofExcept_bind_ok (a : α) (f : α → Handling β) :
    (ofExcept (.ok a) >>= f).runOn h s = (f a).runOn h s := runOn_bind_of_ok rfl

lemma runOn_ofExcept_bind_error (e : HostError) (f : α → Handling β) :
    (ofExcept (.error e) >>= f).runOn h s = (h, s, .error e) := runOn_bind_of_error rfl

/-! ### Steps on files -/

lemma perform_change (op : FileOp) :
    h.perform s (.change op) =
      ({ h with files := (op.run h.files).1 }, s, (op.run h.files).2) := rfl

lemma runOn_step (x : FileStep HostError) :
    (step x).runOn h s =
      ({ h with files := (x.op.run h.files).1 }, s, (x.op.run h.files).2.mapError x.blame) := by
  rw [step, runOn_ofEffect_bind, perform_change]
  rcases x.op.run h.files with ⟨files, e | ⟨⟩⟩ <;> rfl

/-- Steps on files are carried out in order until one fails. -/
lemma runOn_steps (xs : List (FileStep HostError)) (h : Host) (s : Session) :
    (steps xs).runOn h s =
      ({ h with files := (runSteps xs h.files).1 }, s, (runSteps xs h.files).2) := by
  induction xs generalizing h with
  | nil => rfl
  | cons x xs ih =>
    have hstep := runOn_step (h := h) (s := s) x
    rcases hrun : x.op.run h.files with ⟨files, e | ⟨⟩⟩
    · rw [hrun] at hstep
      rw [runSteps, hrun]
      exact runOn_bind_of_error hstep
    · rw [hrun] at hstep
      rw [runSteps, hrun]
      exact (runOn_bind_of_ok hstep).trans (ih { h with files })

end Handling

lemma runSteps_singleton {ε : Type} (x : FileStep ε) (t : FileTree) :
    runSteps [x] t = ((x.op.run t).1, (x.op.run t).2.mapError x.blame) := by
  rw [runSteps]
  rcases x.op.run t with ⟨t', e | ⟨⟩⟩ <;> rfl

lemma runSteps_append {ε : Type} (xs ys : List (FileStep ε)) (t : FileTree) :
    runSteps (xs ++ ys) t =
      match runSteps xs t with
      | (t', .ok ()) => runSteps ys t'
      | (t', .error e) => (t', .error e) := by
  induction xs generalizing t with
  | nil => rfl
  | cons x xs ih =>
    rw [List.cons_append, runSteps, runSteps]
    rcases x.op.run t with ⟨t', e | ⟨⟩⟩
    · rfl
    · exact ih t'

/-! ## Commands -/

namespace Host

variable {h : Host}

/-- A keeper that has stopped takes no command. -/
lemma update_of_stopped (hk : h.keeper = .stopped) (c : StateCommand) :
    h.update c = (h, .error (.state "State actor died: channel closed")) := by
  simp only [update, callKeeper, hk, enqueue, if_true]

/-- The keeper works off its queue, and changes nothing but the state. -/
lemma foldl_applyNext (q : List StateCommand) (h : Host) (hq : h.queue = q) :
    ∃ applied log, q.foldl (fun h _ => h.applyNext) h =
      { h with state := h.state.applyAll q, queue := [], applied, log } := by
  induction q generalizing h with
  | nil =>
    refine ⟨h.applied, h.log, ?_⟩
    cases h
    cases hq
    rfl
  | cons c q ih =>
    have hnext : h.applyNext = { h with
        state := h.state.apply c, queue := q, applied := h.applied + 1 }.note
        (h.state.applyLog c) := by
      rw [applyNext, hq]
    obtain ⟨applied, log, hspec⟩ := ih h.applyNext (by rw [hnext]; rfl)
    refine ⟨applied, log, ?_⟩
    rw [List.foldl_cons, hspec, hnext]
    rfl

lemma callKeeper_of_alive (hk : h.keeper ≠ .stopped) :
    ∃ log, h.callKeeper = { h with keeper := .running, log } := by
  cases hkeeper : h.keeper with
  | notStarted =>
    refine ⟨h.log ++ [.bridge .info "Host state actor spawned"], ?_⟩
    rw [callKeeper, hkeeper]
    rfl
  | running =>
    refine ⟨h.log, ?_⟩
    cases h
    cases hkeeper
    rfl
  | stopped => exact absurd hkeeper hk

/-- A command is applied after those that wait; nothing but the state changes. -/
lemma update_of_alive (hk : h.keeper ≠ .stopped) (c : StateCommand) :
    ∃ applied log, h.update c =
      ({ h with
          state := (h.state.applyAll h.queue).apply c, keeper := .running, queue := []
          applied, log }, .ok ()) := by
  obtain ⟨log₁, hcall⟩ := callKeeper_of_alive hk
  obtain ⟨applied, log, hqueue⟩ := foldl_applyNext (h.queue ++ [c])
    { h with keeper := .running, queue := h.queue ++ [c], log := log₁ } rfl
  refine ⟨applied, log, ?_⟩
  rw [update, hcall]
  change ((h.queue ++ [c]).foldl (fun h _ => h.applyNext)
    { h with keeper := .running, queue := h.queue ++ [c], log := log₁ }, _) = _
  rw [hqueue]
  simp only [HostState.applyAll, List.foldl_append, List.foldl_cons, List.foldl_nil]

/-! ## Events -/

/-- The events told once some more are, if anyone listens. -/
def told (h : Host) (es : List HostEvent) : List HostEvent :=
  if h.listened then h.events ++ es else h.events

lemma emit_eq (h : Host) (e : HostEvent) : h.emit e = { h with events := h.told [e] } := by
  rw [emit, told]
  split <;> rfl

@[simp] lemma told_nil (h : Host) : h.told [] = h.events := by
  rw [told, List.append_nil, ite_self]

lemma told_of_listened (hl : h.listened = true) (es : List HostEvent) :
    h.told es = h.events ++ es := if_pos hl

end Host

end WebviewBridge
