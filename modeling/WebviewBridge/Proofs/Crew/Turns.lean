import WebviewBridge.Proofs.Crew.Announcing
import WebviewBridge.Proofs.Files.Strokes

/-!
# Turns and strokes

While workers replace a file, other things may happen that leave the files alone; a turn is a move
of a crew or such a thing.  What is done to the file are strokes (`Crew.strokes`).  When everybody
who has written renames at last, then each renaming comes right after a write only if nobody makes
a stroke between the write and the renaming of another one (`Crew.isPaired_of_renamesWritten`).
-/

namespace WebviewBridge

/-- The stroke that a deed is, if it is one, and who has made it. -/
def Deed.stroke? : Deed → Option (ℕ × Stroke)
  | performed i (.change (.write _ content _)) _ => some (i, .wrote content)
  | performed i (.change (.rename _ _)) _ => some (i, .renamed)
  | _ => none

namespace Crew

variable {α : Type} {i j : ℕ}

/-- What was done to a file, once its directory was there. -/
def strokes (c : Crew α) : List (ℕ × Stroke) := c.history.filterMap Deed.stroke?

/-! ## Turns -/

/-- What may happen next. -/
inductive Turn where
  | move (m : Move)
  /-- Something happens elsewhere that leaves the files alone; the clock may go on. -/
  | elsewhere (h : Host)

/-- The worker whose turn it is. -/
def Turn.worker? : Turn → Option ℕ
  | move (.work i) => some i
  | move .keep | elsewhere _ => none

/-- Lets something happen. -/
def turn (c : Crew α) : Turn → Crew α
  | .move m => c.move m
  | .elsewhere h => { c with host := { h with files := c.host.files } }

/-- Lets one thing happen after the other. -/
def runTurns (c : Crew α) (turns : List Turn) : Crew α := turns.foldl turn c

lemma runTurns_append_singleton (c : Crew α) (turns : List Turn) (t : Turn) :
    c.runTurns (turns ++ [t]) = (c.runTurns turns).turn t := List.foldl_append

lemma runTurns_map_move (c : Crew α) (schedule : List Move) :
    c.runTurns (schedule.map .move) = c.run schedule := List.foldl_map

/-- How many of the turns are those of a worker. -/
def movesOf (i : ℕ) (turns : List Turn) : ℕ := (turns.filterMap Turn.worker?).count i

lemma movesOf_append_singleton (i : ℕ) (turns : List Turn) (t : Turn) :
    movesOf i (turns ++ [t]) = movesOf i turns + if t.worker? = some i then 1 else 0 := by
  rw [movesOf, List.filterMap_append, List.count_append, movesOf]
  cases hworker : t.worker? with
  | none => simp [hworker]
  | some j =>
    by_cases hij : j = i
    · simp [hworker, hij]
    · simp [hworker, hij]

/-! ## Strokes in pairs -/

/-- What is kept last of a list comes from somewhere, and nothing is kept of what follows. -/
lemma exists_of_getLast?_filterMap {β γ : Type} {f : β → Option γ} {l : List β} {b : γ}
    (h : (l.filterMap f).getLast? = some b) :
    ∃ before a after, l = before ++ a :: after ∧ f a = some b ∧ ∀ x ∈ after, f x = none := by
  obtain ⟨kept, hkept⟩ := List.getLast?_eq_some_iff.1 h
  obtain ⟨before, rest, rfl, -, hrest⟩ := List.filterMap_eq_append_iff.1 hkept
  obtain ⟨between, a, after, rfl, -, ha, hafter⟩ := List.filterMap_eq_cons_iff.1 hrest
  exact ⟨before ++ between, a, after, (List.append_assoc ..).symm, ha,
    List.filterMap_eq_nil_iff.1 hafter⟩

variable {l l' : List (ℕ × Stroke)} {content : ByteArray}

lemma ofWorker_append {β : Type} (l l' : List (ℕ × β)) :
    ofWorker i (l ++ l') = ofWorker i l ++ ofWorker i l' := by
  simp [ofWorker]

lemma ofWorker_cons_self {β : Type} (b : β) (l : List (ℕ × β)) :
    ofWorker i ((i, b) :: l) = b :: ofWorker i l := by
  simp [ofWorker]

lemma ofWorker_cons_of_ne {β : Type} (hij : i ≠ j) (b : β) (l : List (ℕ × β)) :
    ofWorker j ((i, b) :: l) = ofWorker j l := by
  simp [ofWorker, hij]

lemma mem_ofWorker_iff {β : Type} {b : β} {l : List (ℕ × β)} :
    b ∈ ofWorker i l ↔ (i, b) ∈ l := by
  simp [ofWorker]

/-- Everybody renames right after writing, and nobody else makes a stroke in between. -/
inductive IsPaired : List (ℕ × Stroke) → Prop
  | nil : IsPaired []
  | cons (i : ℕ) (content : ByteArray) {l : List (ℕ × Stroke)} (hl : IsPaired l) :
      IsPaired ((i, .wrote content) :: (i, .renamed) :: l)

/-- Right before each renaming somebody has written. -/
def RenamesWritten (l : List (ℕ × Stroke)) : Prop :=
  ∀ before i after, l = before ++ (i, .renamed) :: after →
    ∃ j content, before.getLast? = some (j, .wrote content)

/-- Of what was done in pairs each renaming comes right after the write of the same worker. -/
lemma IsPaired.exists_getLast? (hl : IsPaired l) {before after : List (ℕ × Stroke)}
    (heq : l = before ++ (i, .renamed) :: after) :
    ∃ content, before.getLast? = some (i, .wrote content) := by
  induction hl generalizing before with
  | nil => simp at heq
  | cons j content hl ih =>
    match before with
    | [] => simp at heq
    | [_] =>
      simp only [List.cons_append, List.nil_append, List.cons.injEq, Prod.mk.injEq] at heq
      obtain ⟨rfl, ⟨rfl, -⟩, -⟩ := heq
      exact ⟨content, rfl⟩
    | _ :: _ :: before =>
      simp only [List.cons_append, List.cons.injEq] at heq
      obtain ⟨rfl, rfl, heq⟩ := heq
      obtain ⟨content', hlast⟩ := ih heq
      exact ⟨content', by simp [List.getLast?_cons, hlast]⟩

lemma RenamesWritten.of_append (h : RenamesWritten (l ++ l'))
    (hhead : ∀ i, l'.head? ≠ some (i, .renamed)) : RenamesWritten l' := by
  intro before i after heq
  cases before with
  | nil =>
    rw [heq] at hhead
    exact absurd rfl (hhead i)
  | cons s before =>
    obtain ⟨j, content, hlast⟩ := h (l ++ s :: before) i after (by rw [heq, List.append_assoc])
    refine ⟨j, content, ?_⟩
    simpa [List.getLast?_append, List.getLast?_cons] using hlast

/-- Whether a stroke is a write. -/
def isWrite (s : ℕ × Stroke) : Bool := s.2.content?.isSome

@[simp] lemma isWrite_wrote (i : ℕ) (content : ByteArray) :
    isWrite (i, .wrote content) = true := rfl

@[simp] lemma isWrite_renamed (i : ℕ) : isWrite (i, .renamed) = false := rfl

/-- Where each renaming comes right after a write, there are no more renamings than writes, and
fewer if a write comes last. -/
lemma RenamesWritten.countP_le (h : RenamesWritten l) :
    l.countP (!isWrite ·) ≤ l.countP isWrite ∧
      ∀ i content, l.getLast? = some (i, .wrote content) →
        l.countP (!isWrite ·) < l.countP isWrite := by
  induction l using List.reverseRecOn with
  | nil => simp
  | append_singleton l s ih =>
    have hshort : RenamesWritten l := by
      intro before i after heq
      exact h before i (after ++ [s]) (by rw [heq, List.append_assoc, List.cons_append])
    obtain ⟨hle, hlt⟩ := ih hshort
    obtain ⟨i, stroke⟩ := s
    cases stroke with
    | wrote content =>
      rw [List.countP_append, List.countP_append, List.countP_singleton, List.countP_singleton,
        isWrite_wrote]
      exact ⟨Nat.le_succ_of_le hle, fun _ _ _ => Nat.lt_succ_of_le hle⟩
    | renamed =>
      obtain ⟨j, content, hlast⟩ := h l i [] rfl
      rw [List.countP_append, List.countP_append, List.countP_singleton, List.countP_singleton,
        isWrite_renamed]
      exact ⟨hlt j content hlast, by simp⟩

/-- Everybody who has written has renamed. -/
def IsComplete (l : List (ℕ × Stroke)) : Prop :=
  ∀ i, ofWorker i l = [] ∨ ∃ content, ofWorker i l = [.wrote content, .renamed]

/-- How often a worker has made a stroke of some kind. -/
lemma count_map_filter (q : ℕ × Stroke → Bool) (l : List (ℕ × Stroke)) (i : ℕ) :
    ((l.filter q).map (·.1)).count i = (ofWorker i l).countP fun s => q (i, s) := by
  rw [ofWorker, List.count, List.countP_map, List.countP_map, List.countP_filter,
    List.countP_filter]
  refine List.countP_congr ?_
  rintro ⟨j, s⟩ -
  by_cases hij : j = i
  · subst hij
    simp
  · simp [hij]

/-- Where everybody has renamed there are as many renamings as writes. -/
lemma IsComplete.countP_eq (h : IsComplete l) : l.countP (!isWrite ·) = l.countP isWrite := by
  have hperm : ((l.filter (!isWrite ·)).map (·.1)).Perm ((l.filter isWrite).map (·.1)) := by
    rw [List.perm_iff_count]
    intro i
    rw [count_map_filter, count_map_filter]
    rcases h i with hnone | ⟨content, hown⟩
    · rw [hnone]
      rfl
    · rw [hown]
      rfl
  have hlength := hperm.length_eq
  rwa [List.length_map, List.length_map, ← List.countP_eq_length_filter,
    ← List.countP_eq_length_filter] at hlength

/-- **When everybody has renamed, each renaming comes right after a write only in pairs.** -/
theorem isPaired_of_renamesWritten {l : List (ℕ × Stroke)} (h : RenamesWritten l)
    (hcomplete : IsComplete l) : IsPaired l := by
  match l, h, hcomplete with
  | [], _, _ => exact .nil
  | [(i, s)], _, hcomplete =>
    have hown := hcomplete i
    rw [ofWorker_cons_self] at hown
    simp [ofWorker] at hown
  | (i, .renamed) :: (j, s') :: l, h, _ =>
    obtain ⟨_, _, hlast⟩ := h [] i _ rfl
    cases hlast
  | (i, .wrote content) :: (j, .wrote content') :: l, h, hcomplete =>
    -- there are as many renamings as writes, and the first write is not renamed
    have htail : RenamesWritten ((j, .wrote content') :: l) :=
      RenamesWritten.of_append (l := [(i, .wrote content)]) h (by simp)
    have hle := htail.countP_le.1
    have heq := hcomplete.countP_eq
    have hrenamings := List.countP_cons_of_neg (p := (!isWrite ·)) (a := (i, .wrote content))
      (l := (j, .wrote content') :: l) (by simp)
    have hwrites := List.countP_cons_of_pos (p := isWrite) (a := (i, .wrote content))
      (l := (j, .wrote content') :: l) rfl
    omega
  | (i, .wrote content) :: (j, .renamed) :: l, h, hcomplete =>
    by_cases hij : i = j
    · subst hij
      have htail : RenamesWritten l := by
        refine RenamesWritten.of_append (l := [(i, .wrote content), (i, .renamed)]) h ?_
        intro j hhead
        obtain ⟨l, rfl⟩ := List.head?_eq_some_iff.1 hhead
        obtain ⟨_, _, hlast⟩ := h [(i, .wrote content), (i, .renamed)] j l rfl
        cases hlast
      refine .cons i content (isPaired_of_renamesWritten htail ?_)
      intro j
      have hown := hcomplete j
      by_cases hij : i = j
      · subst hij
        rw [ofWorker_cons_self, ofWorker_cons_self] at hown
        exact Or.inl (by simpa using hown)
      · rwa [ofWorker_cons_of_ne hij, ofWorker_cons_of_ne hij] at hown
    · have hown := hcomplete j
      rw [ofWorker_cons_of_ne hij, ofWorker_cons_self] at hown
      simp at hown

end Crew

end WebviewBridge
