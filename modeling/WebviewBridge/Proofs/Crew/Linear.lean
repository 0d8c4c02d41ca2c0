import Mathlib.Logic.Relation
import WebviewBridge.Proofs.Crew.Trace

/-!
# The state of a host is one record

However the workers of a crew take turns, what they see of the state is what they would see of a
plain record to which the commands are applied one at a time, in the order in which they are queued.
Nothing depends on how many commands may wait: besides the moves of a schedule, a worker may queue a
command at any time once it has called the keeper.  Main statement: `Crew.isLinear_of_steps`.
-/

namespace WebviewBridge

namespace Worker

variable {α : Type} {w w' : Worker α} {place : Nat} {h h' : Host} {deeds : List Deed}

/-- A worker starts a keeper only where there is none. -/
lemma keeper_of_started_mem_move (hstart : .started ∈ (w.move place h).2.2) :
    h.keeper = .notStarted := by
  rcases hrest : w.rest with a | ⟨e, next⟩
  · simp [move, hrest] at hstart
  · cases e with
    | update x =>
      simp only [move, hrest] at hstart
      cases herrand : w.errand with
      | ahead =>
        simp only [pursue, herrand] at hstart
        by_contra hkeeper
        rw [if_neg hkeeper] at hstart
        cases hstart
      | called =>
        simp only [pursue, herrand] at hstart
        split at hstart
        · cases hstart
        · split at hstart <;> simp [proceed] at hstart
      | queued t =>
        simp only [pursue, herrand] at hstart
        split at hstart <;> simp [proceed] at hstart
    | _ => simp [move, hrest] at hstart

/-- Nobody does the deeds of another. -/
lemma Moves.worker?_ne (hmoves : w.Moves place h h' w' deeds) {j : Nat} (hj : place ≠ j) :
    ∀ d ∈ deeds, d.worker? ≠ some j := by
  cases hmoves with
  | stays => simp
  | calls hrest herrand hdeeds => rcases hdeeds with rfl | rfl <;> simp [Deed.worker?]
  | queues hrest herrand hk => simpa [Deed.worker?] using hj
  | fails e hrest herrand => simpa [Deed.worker?] using hj
  | learns hrest herrand hout => simpa [Deed.worker?] using hj
  | performs hrest he => simpa [Deed.worker?] using hj

end Worker

namespace Crew

variable {α : Type} {c c' : Crew α} {h : Host}

/-- What may happen next in a crew: a move of a schedule, or a worker queues its command however
many others wait. -/
inductive Steps (c : Crew α) : Crew α → Prop
  | move (m : Move) : c.Steps (c.move m)
  | queue {i : Nat} {w : Worker α} {x : StateCommand} {next : Except HostError Unit → Procedure α}
      (hw : c.workers[i]? = some w) (hrest : w.rest = .perform (.update x) next)
      (herrand : w.errand = .called) (hk : c.host.keeper ≠ .stopped) :
      c.Steps
        { host := { c.host with queue := c.host.queue ++ [x] }
          workers := c.workers.set i
            { w with errand := .queued ⟨c.host.applied + c.host.queue.length⟩ }
          history := c.history ++ [.queued i ⟨c.host.applied + c.host.queue.length⟩ x] }

/-- The moves of a schedule are such steps. -/
lemma steps_run (c : Crew α) (schedule : List Move) :
    Relation.ReflTransGen Steps c (c.run schedule) := by
  induction schedule generalizing c with
  | nil => exact .refl
  | cons m ms ih => exact (ih (c.move m)).head (.move m)

lemma Steps.moves (hstep : c.Steps c') : c.Moves c' := by
  cases hstep with
  | move m => exact c.moves_move m
  | queue hw hrest herrand hk => exact .works hw (.queues hrest herrand hk)

/-- A keeper is started only where there is none. -/
lemma Steps.keeper_eq (hstep : c.Steps c') {deeds : List Deed}
    (heq : c'.history = c.history ++ deeds) (hstart : .started ∈ deeds) :
    c.host.keeper = .notStarted := by
  cases hstep with
  | move m =>
    cases m with
    | work i =>
      rw [Crew.move] at heq
      cases hw : c.workers[i]? with
      | none =>
        rw [hw] at heq
        rw [List.self_eq_append_right.1 heq] at hstart
        cases hstart
      | some w =>
        rw [hw] at heq
        rw [← List.append_cancel_left heq] at hstart
        exact w.keeper_of_started_mem_move hstart
    | keep =>
      rw [← List.append_cancel_left heq, keeping] at hstart
      split at hstart <;> simp at hstart
  | queue hw hrest herrand hk =>
    rw [← List.append_cancel_left heq] at hstart
    simp at hstart

/-- What holds of a crew that began to work on a host: its history is a trace, and whoever waits for
a command has done nothing since it was queued. -/
structure IsRecorded (h : Host) (c : Crew α) : Prop where
  inOrder : c.InOrder h
  trace : IsTrace h c.history
  /-- A keeper that was not started yet was never there. -/
  unstarted : c.host.keeper = .notStarted → h.keeper = .notStarted ∧ .started ∉ c.history
  waits : ∀ i w t, c.workers[i]? = some w → w.errand = .queued t →
    ∃ x next earlier since, w.rest = .perform (.update x) next ∧
      c.history = earlier ++ .queued i t x :: since ∧ ∀ d ∈ since, d.worker? ≠ some i

namespace IsRecorded

/-- Whoever waits goes on waiting while others do something. -/
lemma waits_append (hc : c.IsRecorded h) {i : Nat} {w : Worker α} {t : Ticket}
    (hw : c.workers[i]? = some w) (ht : w.errand = .queued t) {deeds : List Deed}
    (hdeeds : ∀ d ∈ deeds, d.worker? ≠ some i) :
    ∃ x next earlier since, w.rest = .perform (.update x) next ∧
      c.history ++ deeds = earlier ++ .queued i t x :: since ∧ ∀ d ∈ since, d.worker? ≠ some i := by
  obtain ⟨x, next, earlier, since, hrest, hhistory, hsince⟩ := hc.waits i w t hw ht
  refine ⟨x, next, earlier, since ++ deeds, hrest, ?_, ?_⟩
  · rw [hhistory, List.append_assoc, List.cons_append]
  · intro d hd
    rcases List.mem_append.1 hd with hd | hd
    · exact hsince d hd
    · exact hdeeds d hd

/-- The number of commands queued is that of those that were applied or wait. -/
lemma length_queued (hc : c.IsRecorded h) :
    h.applied + (c.history.filterMap Deed.queued?).length =
      c.host.applied + c.host.queue.length := by
  have hlength := congrArg List.length hc.inOrder.commands
  rw [List.length_map, List.length_append] at hlength
  rw [hc.inOrder.count, Nat.add_assoc, ← hlength]
  rfl

/-- What a worker does suits what was done before. -/
lemma suits_of_moves (hc : c.IsRecorded h) {i : Nat} {w w' : Worker α} {h' : Host}
    {deeds : List Deed} (hw : c.workers[i]? = some w) (hmoves : w.Moves i c.host h' w' deeds)
    (hstart : .started ∈ deeds → c.host.keeper = .notStarted) :
    IsTrace h (c.history ++ deeds) := by
  cases hmoves with
  | stays =>
    rw [List.append_nil]
    exact hc.trace
  | calls hrest herrand hdeeds =>
    rcases hdeeds with rfl | rfl
    · exact hc.trace.snoc (hc.unstarted (hstart List.mem_cons_self))
    · rw [List.append_nil]
      exact hc.trace
  | queues hrest herrand hk => exact hc.trace.snoc hc.length_queued.symm
  | fails e hrest herrand => exact hc.trace.snoc ⟨nofun, nofun⟩
  | @learns x next t outcome hrest herrand hout =>
    refine hc.trace.snoc ⟨nofun, ?_⟩
    intro y hy
    obtain ⟨z, next', earlier, since, hrest', hhistory, hsince⟩ := hc.waits i w t hw herrand
    cases hrest.symm.trans hrest'
    obtain ⟨rfl, hlt⟩ := hc.inOrder.outcome (List.mem_of_getElem? hw) herrand hout
    cases hy
    refine ⟨earlier, t, since, hhistory, hsince, ?_⟩
    rw [hc.inOrder.count] at hlt
    exact hlt
  | @performs e next hrest he =>
    refine hc.trace.snoc ⟨?_, ?_⟩
    · intro b hb
      have hstate : c.host.state = h.state.applyAll (c.history.filterMap Deed.applied?) :=
        hc.inOrder.state
      rw [← hstate] at hb
      cases e with
      | creatorState | credentials =>
        cases hb
        rfl
      | _ => cases hb
    · intro x hx
      cases e with
      | update y => exact absurd rfl (he y)
      | _ => cases hx

/-- A worker who goes on waits for what it has queued itself. -/
lemma waits_of_moves (hc : c.IsRecorded h) {i : Nat} {w w' : Worker α} {h' : Host}
    {deeds : List Deed} (hw : c.workers[i]? = some w) (hmoves : w.Moves i c.host h' w' deeds)
    {t : Ticket} (ht : w'.errand = .queued t) :
    ∃ x next earlier since, w'.rest = .perform (.update x) next ∧
      c.history ++ deeds = earlier ++ .queued i t x :: since ∧
        ∀ d ∈ since, d.worker? ≠ some i := by
  cases hmoves with
  | stays =>
    rw [List.append_nil]
    exact hc.waits i w t hw ht
  | calls | fails | learns => cases ht
  | @queues x next hrest herrand hk =>
    cases ht
    exact ⟨x, next, c.history, [], hrest, rfl, by simp⟩
  | @performs e next hrest he =>
    -- whoever waits has nothing else to do first
    obtain ⟨x, next', -, -, hrest', -, -⟩ := hc.waits i w t hw ht
    cases hrest.symm.trans hrest'
    exact absurd rfl (he x)

/-- A keeper that is not there after a move was not there before, and was not started. -/
lemma unstarted_of_moves (hc : c.IsRecorded h) {i : Nat} {w w' : Worker α} {h' : Host}
    {deeds : List Deed} (hmoves : w.Moves i c.host h' w' deeds)
    (hkeeper : h'.keeper = .notStarted) :
    h.keeper = .notStarted ∧ .started ∉ c.history ++ deeds := by
  cases hmoves with
  | stays =>
    rw [List.append_nil]
    exact hc.unstarted hkeeper
  | calls hrest herrand hdeeds =>
    rw [Host.callKeeper] at hkeeper
    split at hkeeper
    · cases hkeeper
    · next hrunning => cases hrunning.symm.trans hkeeper
    · next hstopped => cases hstopped.symm.trans hkeeper
  | queues hrest herrand hk => simpa using hc.unstarted hkeeper
  | fails e hrest herrand => simpa using hc.unstarted hkeeper
  | learns hrest herrand hout => simpa using hc.unstarted hkeeper
  | performs hrest he =>
    obtain ⟨files, log, hperform⟩ := c.host.exists_perform he
    rw [hperform] at hkeeper
    simpa using hc.unstarted hkeeper

/-- Whatever happens next in a crew, its history goes on as a trace. -/
lemma steps (hc : c.IsRecorded h) (hstep : c.Steps c') : c'.IsRecorded h := by
  have hin := hc.inOrder.moves hstep.moves
  have hkeeper := @Steps.keeper_eq _ _ _ hstep
  cases hstep.moves with
  | rests => exact hc
  | @works i w w' h' deeds hw hmoves =>
    refine ⟨hin, hc.suits_of_moves hw hmoves (hkeeper rfl), hc.unstarted_of_moves hmoves, ?_⟩
    intro j v t hv ht
    by_cases hij : i = j
    · subst hij
      rw [List.getElem?_set_self (List.getElem?_eq_some_iff.1 hw).1] at hv
      cases hv
      exact hc.waits_of_moves hw hmoves ht
    · rw [List.getElem?_set_ne hij] at hv
      exact hc.waits_append hv ht (hmoves.worker?_ne hij)
  | @keeps x rest hq log =>
    refine ⟨hin, hc.trace.snoc ⟨hc.inOrder.count, ?_⟩, ?_, ?_⟩
    · have hcommands := hc.inOrder.commands
      rw [hq] at hcommands
      change (c.commands.map (·.2))[c.applied.length]? = some x
      rw [hcommands, List.getElem?_append_right (Nat.le_refl _), Nat.sub_self]
      rfl
    · intro hnone
      simpa using hc.unstarted hnone
    · intro i w t hw ht
      exact hc.waits_append hw ht (by simp [Deed.worker?])

end IsRecorded

/-- A crew is recorded from when it begins on a host where no commands wait. -/
lemma isRecorded_ofProcedures (hq : h.queue = []) (ps : List (Session × Procedure α)) :
    (ofProcedures h ps).IsRecorded h where
  inOrder := inOrder_ofProcedures hq ps
  trace := .nil
  unstarted hkeeper := ⟨hkeeper, List.not_mem_nil⟩
  waits i w t hw ht := by
    obtain ⟨p, hp, rfl⟩ := List.mem_map.1 (List.mem_of_getElem? hw)
    cases ht

/-- What holds of a crew that began to work on a host, however far it came: the state of the host is
a plain record. -/
structure IsLinear (h : Host) (c : Crew α) : Prop where
  /-- At most one keeper was started, and none if there was one. -/
  started : c.history.countP Deed.isStart ≤ 1 ∧
    (h.keeper ≠ .notStarted → c.history.countP Deed.isStart = 0)
  /-- Commands are applied in the order in which they are queued. -/
  applied : c.applied <+: c.commands.map (·.2)
  /-- The state is the one at first with the commands applied that were applied so far. -/
  state : c.host.state = h.state.applyAll c.applied
  /-- A look shows the state after the commands that were applied before it. -/
  looked : ∀ before i e a after, c.history = before ++ .performed i e a :: after →
    ∀ b, e.look (h.state.applyAll (before.filterMap Deed.applied?)) = some b → a = b
  /-- A command that was acknowledged was queued by who had asked for it, and was applied between
  that and the acknowledgement, and at no other time. -/
  acknowledged : ∀ before i x after,
    c.history = before ++ .performed i (.update x) (.ok ()) :: after →
    ∃ earlier t since, before = earlier ++ .queued i t x :: since ∧
      (∀ d ∈ since, d.worker? ≠ some i) ∧ .applied t x ∈ since ∧
      (c.history.filterMap Deed.appliedAs?).count t = 1
  /-- A look at what the command sets, after it was acknowledged, shows this command or one of its
  kind that was queued later. -/
  shown : ∀ before i x middle j e a after,
    c.history =
      before ++ .performed i (.update x) (.ok ()) :: (middle ++ .performed j e a :: after) →
    e.shows? x ≠ none →
    ∃ t t' x', .applied t x ∈ before ∧ .applied t' x' ∈ before ++ middle ∧
      t.number ≤ t'.number ∧ e.shows? x' = some a
  /-- A command changes nothing that it does not set. -/
  separate : ∀ before t x after, c.history = before ++ .applied t x :: after →
    ∀ e : Effect, e.shows? x = none →
      e.look (h.state.applyAll ((before ++ [.applied t x]).filterMap Deed.applied?)) =
        e.look (h.state.applyAll (before.filterMap Deed.applied?))

/-- **The state of a host is one record, whatever the schedule.**  Let any number of workers begin
on a host where no commands wait.  However they take turns with the keeper and with each other, one
keeper at most is started; the state is that of a record to which the commands are applied in the
order in which they are queued; who is told that a command was applied sees it from then on, or a
later one of its kind; and the creator's mode and the credentials are apart from each other. -/
theorem isLinear_of_steps (hq : h.queue = []) (ps : List (Session × Procedure α))
    (hsteps : Relation.ReflTransGen Steps (ofProcedures h ps) c) : c.IsLinear h := by
  have hc : c.IsRecorded h := by
    induction hsteps with
    | refl => exact isRecorded_ofProcedures hq ps
    | tail _ hstep ih => exact ih.steps hstep
  refine ⟨hc.trace.countP_isStart_le, hc.trace.applied_prefix, hc.inOrder.state, ?_, ?_, ?_, ?_⟩
  · intro before i e a after heq
    exact (hc.trace.suits heq).1
  · intro before i x after heq
    obtain ⟨earlier, t, since, hbefore, hsince, happlied⟩ :=
      hc.trace.exists_of_carriedOut heq (e := .update x) (a := .ok ()) rfl
    refine ⟨earlier, t, since, hbefore, hsince, happlied, hc.trace.count_appliedAs? (x := x) ?_⟩
    rw [heq, hbefore]
    simp [happlied]
  · intro before i x middle j e a after heq hx
    obtain ⟨v, hv⟩ := Option.ne_none_iff_exists'.1 hx
    obtain ⟨earlier, t, since, hbefore, -, happlied⟩ :=
      hc.trace.exists_of_carriedOut heq (e := .update x) (a := .ok ()) rfl
    have hmem : .applied t x ∈ before := by
      rw [hbefore]
      simp [happlied]
    rw [← List.cons_append, ← List.append_assoc] at heq
    have htrace : IsTrace h (before ++ .performed i (.update x) (.ok ()) :: middle) := by
      have hwhole := hc.trace
      rw [heq] at hwhole
      exact hwhole.of_append
    obtain ⟨t', x', b, hmem', hle, hshows, hlook⟩ :=
      htrace.exists_shown (List.mem_append_left _ hmem) hv
    have hab : a = b := (hc.trace.suits heq).1 b hlook
    refine ⟨t, t', x', hmem, ?_, hle, by rw [hab, hshows]⟩
    simpa using hmem'
  · intro before t x after _ e hx
    rw [h.state.applyAll_append_applied, e.look_apply, hx, Option.none_or]

/-- Two workers call a keeper before either of them has queued its command; a third looks at what
they set between the two, and the first looks at the end. -/
theorem isLinear_of_steps_overlapping :
    let ps : List (Session × Procedure Unit) := [
      (default, .perform (.update (.setCreatorState .overlayOpen)) fun _ =>
        .perform .creatorState fun _ => .done ()),
      (default, .perform (.update (.setCredentials .empty)) fun _ => .done ()),
      (default, .perform .creatorState fun _ => .perform .credentials fun _ => .done ())]
    let schedule : List Move := [.work 0, .work 1, .work 1, .work 0, .keep, .work 2, .keep, .work 0,
      .work 2, .work 1, .work 0]
    ({} : Host).queue = [] ∧
      Relation.ReflTransGen Steps (ofProcedures {} ps) ((ofProcedures {} ps).run schedule) ∧
      ((ofProcedures {} ps).run schedule).IsLinear {} :=
  ⟨rfl, steps_run _ _, isLinear_of_steps rfl _ (steps_run _ _)⟩

end Crew

end WebviewBridge
