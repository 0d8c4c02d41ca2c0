import Mathlib.Tactic.SplitIfs
import WebviewBridge.Host.Crew
import WebviewBridge.Proofs.Host.Running

/-!
# The commands of a crew

The handlers of a crew queue their commands one at a time, and the keeper applies them in that
order, whatever the schedule.  At every moment the commands that were queued are those that were
applied and those that wait, and behind each that waits there is a worker who waits for it
(`Crew.InOrder`).  Main statement: `Crew.InOrder.run`.
-/

namespace WebviewBridge

/-! ## What the history tells -/

/-- The event that an effect tells the editor about. -/
def Effect.told? : Effect → Option HostEvent
  | emit e => some e
  | _ => none

namespace Deed

/-- The command that was queued, and the worker who did that. -/
def queued? : Deed → Option (Nat × StateCommand)
  | queued i _ x => some (i, x)
  | _ => none

/-- The command that was applied. -/
def applied? : Deed → Option StateCommand
  | applied _ x => some x
  | _ => none

/-- The event that was told, and the worker who did that. -/
def told? : Deed → Option (Nat × HostEvent)
  | performed i e _ => e.told?.map (i, ·)
  | _ => none

end Deed

namespace HostState

variable (s : HostState) (x : StateCommand)

lemma applyAll_append_singleton (xs : List StateCommand) :
    s.applyAll (xs ++ [x]) = (s.applyAll xs).apply x := List.foldl_append

lemma applyAll_append_applied (l : List Deed) (t : Ticket) :
    s.applyAll ((l ++ [Deed.applied t x]).filterMap Deed.applied?) =
      (s.applyAll (l.filterMap Deed.applied?)).apply x := by
  rw [List.filterMap_append]
  exact s.applyAll_append_singleton x _

end HostState

namespace Crew

variable {α : Type}

/-- The commands that were queued, and by whom, oldest first. -/
def commands (c : Crew α) : List (Nat × StateCommand) := c.history.filterMap Deed.queued?

/-- The commands that were applied, oldest first. -/
def applied (c : Crew α) : List StateCommand := c.history.filterMap Deed.applied?

/-- The events that the editor was told about, and by whom, oldest first. -/
def tellings (c : Crew α) : List (Nat × HostEvent) := c.history.filterMap Deed.told?

end Crew

/-! ## What a move is -/

namespace Host

variable {h : Host} {s : Session} {e : Effect}

/-- A call starts the keeper, unless it has stopped. -/
lemma exists_callKeeper (h : Host) : ∃ keeper log, h.callKeeper = { h with keeper, log } ∧
    (keeper = .stopped → h.keeper = .stopped) := by
  rw [callKeeper]
  cases hk : h.keeper with
  | notStarted => exact ⟨.running, _, rfl, by simp⟩
  | running | stopped => exact ⟨h.keeper, h.log, rfl, fun h => hk.symm.trans h⟩

/-- An effect that is no command leaves the state and the keeper alone. -/
lemma exists_perform (he : ∀ x, e ≠ .update x) : ∃ files log,
    (h.perform s e).1 = { h with events := h.told e.told?.toList, files, log } := by
  cases e with
  | update x => exact absurd rfl (he x)
  | emit x => exact ⟨h.files, h.log, h.emit_eq x⟩
  | change op => exact ⟨(op.run h.files).1, h.log, by simp [perform, change, Effect.told?]⟩
  | log entry => exact ⟨h.files, h.log ++ [entry], by simp [perform, note, Effect.told?]⟩
  | _ => exact ⟨h.files, h.log, by simp [perform, Effect.told?]⟩

end Host

/-- The moves of a worker on a host: the host and the worker afterwards, and what was done. -/
inductive Worker.Moves {α : Type} (w : Worker α) (place : Nat) (h : Host) :
    Host → Worker α → List Deed → Prop
  /-- There is nothing to do, or it has to wait. -/
  | stays : w.Moves place h h w []
  | calls {x : StateCommand} {next : Except HostError Unit → Procedure α} {deeds : List Deed}
      (hrest : w.rest = .perform (.update x) next) (herrand : w.errand = .ahead)
      (hdeeds : deeds = [.started] ∨ deeds = []) :
      w.Moves place h h.callKeeper { w with errand := .called } deeds
  | queues {x : StateCommand} {next : Except HostError Unit → Procedure α}
      (hrest : w.rest = .perform (.update x) next) (herrand : w.errand = .called)
      (hk : h.keeper ≠ .stopped) :
      w.Moves place h { h with queue := h.queue ++ [x] }
        { w with errand := .queued ⟨h.applied + h.queue.length⟩ }
        [.queued place ⟨h.applied + h.queue.length⟩ x]
  | fails {x : StateCommand} {next : Except HostError Unit → Procedure α} (e : HostError)
      (hrest : w.rest = .perform (.update x) next) (herrand : w.errand = .called) :
      w.Moves place h h { w with rest := next (.error e), errand := .ahead }
        [.performed place (.update x) (.error e)]
  | learns {x : StateCommand} {next : Except HostError Unit → Procedure α} {t : Ticket}
      {outcome : Except HostError Unit} (hrest : w.rest = .perform (.update x) next)
      (herrand : w.errand = .queued t) (hout : h.outcome? t = some outcome) :
      w.Moves place h h { w with rest := next outcome, errand := .ahead }
        [.performed place (.update x) outcome]
  | performs {e : Effect} {next : e.Answer → Procedure α} (hrest : w.rest = .perform e next)
      (he : ∀ x, e ≠ .update x) :
      w.Moves place h (h.perform w.session e).1
        { w with session := (h.perform w.session e).2.1, rest := next (h.perform w.session e).2.2 }
        [.performed place e (h.perform w.session e).2.2]

/-- A worker who has to have a command applied makes one of these moves. -/
lemma Worker.moves_pursue {α : Type} (w : Worker α) (place : Nat) (h : Host) {x : StateCommand}
    {next : Except HostError Unit → Procedure α} (hrest : w.rest = .perform (.update x) next) :
    w.Moves place h (w.pursue place x next h).1 (w.pursue place x next h).2.1
      (w.pursue place x next h).2.2 := by
  cases herrand : w.errand with
  | ahead =>
    simp only [pursue, herrand]
    refine .calls hrest herrand ?_
    split
    · exact Or.inl rfl
    · exact Or.inr rfl
  | called =>
    simp only [pursue, herrand, Host.enqueue]
    split
    · exact .stays
    · by_cases hk : h.keeper = .stopped
      · rw [if_pos hk]
        exact .fails _ hrest herrand
      · rw [if_neg hk]
        exact .queues hrest herrand hk
  | queued t =>
    simp only [pursue, herrand]
    cases hout : h.outcome? t with
    | none => exact .stays
    | some outcome => exact .learns hrest herrand hout

/-- The move of a worker is one of these. -/
theorem Worker.moves_move {α : Type} (w : Worker α) (place : Nat) (h : Host) :
    w.Moves place h (w.move place h).1 (w.move place h).2.1 (w.move place h).2.2 := by
  rcases hrest : w.rest with a | ⟨e, next⟩
  · simp only [move, hrest]
    exact .stays
  · cases e with
    | update x =>
      simp only [move, hrest]
      exact w.moves_pursue place h hrest
    | _ =>
      simp only [move, hrest]
      exact .performs hrest (by simp)

namespace Crew

variable {α : Type} {c c' : Crew α}

/-- The moves of a crew. -/
inductive Moves (c : Crew α) : Crew α → Prop
  /-- There is nobody to work, or nothing to keep. -/
  | rests : c.Moves c
  | works {i : Nat} {w w' : Worker α} {h' : Host} {deeds : List Deed}
      (hw : c.workers[i]? = some w) (hmoves : w.Moves i c.host h' w' deeds) :
      c.Moves { host := h', workers := c.workers.set i w', history := c.history ++ deeds }
  | keeps {x : StateCommand} {rest : List StateCommand} (hq : c.host.queue = x :: rest)
      (log : List LogEntry) :
      c.Moves { c with
        host := { c.host with
          state := c.host.state.apply x, queue := rest, applied := c.host.applied + 1, log }
        history := c.history ++ [.applied ⟨c.host.applied⟩ x] }

/-- Whoever makes a move, it is one of these. -/
theorem moves_move (c : Crew α) (m : Move) : c.Moves (c.move m) := by
  cases m with
  | work i =>
    rw [move]
    cases hw : c.workers[i]? with
    | none => exact .rests
    | some w => exact .works hw (w.moves_move i c.host)
  | keep =>
    rw [move, keeping, Host.applyNext]
    cases hq : c.host.queue with
    | nil =>
      simp only [List.append_nil]
      exact .rests
    | cons x rest => exact .keeps hq _

lemma Moves.length_workers (hmoves : c.Moves c') : c'.workers.length = c.workers.length := by
  cases hmoves with
  | works hw hmoves => exact List.length_set
  | rests | keeps => rfl

/-- Nobody joins a crew, and nobody leaves it. -/
lemma length_workers_run (c : Crew α) (schedule : List Move) :
    (c.run schedule).workers.length = c.workers.length := by
  induction schedule generalizing c with
  | nil => rfl
  | cons m ms ih => exact (ih (c.move m)).trans (c.moves_move m).length_workers

/-! ## The order of the commands -/

variable {workers : List (Worker α)} {place i : Nat} {w w' : Worker α}

/-- Somebody waits for the command in a place. -/
def Awaited (workers : List (Worker α)) (place : Nat) : Prop :=
  ∃ (i : Nat) (w : Worker α), workers[i]? = some w ∧ w.errand = .queued ⟨place⟩

/-- A worker who goes on leaves the others waiting. -/
lemma Awaited.set (ha : Awaited workers place) (hw : workers[i]? = some w)
    (h : w.errand = .queued ⟨place⟩ → w'.errand = .queued ⟨place⟩) :
    Awaited (workers.set i w') place := by
  obtain ⟨j, v, hv, hplace⟩ := ha
  by_cases hji : i = j
  · subst hji
    rw [hw] at hv
    cases hv
    refine ⟨i, w', ?_, h hplace⟩
    exact List.getElem?_set_self (List.getElem?_eq_some_iff.1 hw).1
  · exact ⟨j, v, (List.getElem?_set_ne hji).trans hv, hplace⟩

/-- What holds of a crew that began to work on a host: its commands are applied in the order in
which they were queued, and its events are told in the order of the tellings. -/
structure InOrder (h : Host) (c : Crew α) : Prop where
  /-- The commands that were queued were applied, or still wait. -/
  commands : c.commands.map (·.2) = c.applied ++ c.host.queue
  count : c.host.applied = h.applied + c.applied.length
  state : c.host.state = h.state.applyAll c.applied
  listened : c.host.listened = h.listened
  events : c.host.events = h.told (c.tellings.map (·.2))
  /-- A keeper that has stopped has no commands. -/
  stopped : c.host.keeper = .stopped → c.host.queue = []
  /-- Somebody waits for each of the commands that wait. -/
  awaited : ∀ p < c.host.queue.length, Awaited c.workers (c.host.applied + p)
  /-- Nobody waits for a command that was not queued. -/
  tickets : ∀ w ∈ c.workers, ∀ t, w.errand = .queued t →
    t.number < c.host.applied + c.host.queue.length

namespace InOrder

variable {h : Host}

/-- What a worker who waits learns is that the command was applied. -/
lemma outcome (hc : c.InOrder h) (hw : w ∈ c.workers) {t : Ticket}
    (herrand : w.errand = .queued t) {outcome : Except HostError Unit}
    (hout : c.host.outcome? t = some outcome) : outcome = .ok () ∧ t.number < c.host.applied := by
  rw [Host.outcome?] at hout
  split_ifs at hout with hlt hk
  · exact ⟨(Option.some.inj hout).symm, hlt⟩
  · have hlast := hc.tickets w hw t herrand
    rw [hc.stopped hk] at hlast
    exact absurd hlast hlt

/-- A worker goes on and queues no command. -/
lemma goes (hc : c.InOrder h) (hw : c.workers[i]? = some w)
    {keeper : StateKeeper} {events : List HostEvent} {files : FileTree} {log : List LogEntry}
    {deeds : List Deed} (hkeeper : keeper = .stopped → c.host.keeper = .stopped)
    (hqueued : deeds.filterMap Deed.queued? = []) (happlied : deeds.filterMap Deed.applied? = [])
    (htold : events = c.host.told ((deeds.filterMap Deed.told?).map (·.2)))
    (hticket : ∀ t, w'.errand = .queued t → w.errand = .queued t)
    (hawaited : ∀ t, w.errand = .queued t →
      w'.errand = .queued t ∨ t.number < c.host.applied) :
    InOrder h {
      host := { c.host with keeper, events, files, log }
      workers := c.workers.set i w'
      history := c.history ++ deeds } where
  commands := by
    simp only [Crew.commands, Crew.applied, List.filterMap_append, hqueued, happlied,
      List.append_nil]
    exact hc.commands
  count := by
    simp only [Crew.applied, List.filterMap_append, happlied, List.append_nil]
    exact hc.count
  state := by
    simp only [Crew.applied, List.filterMap_append, happlied, List.append_nil]
    exact hc.state
  listened := hc.listened
  events := by
    rw [htold, tellings, List.filterMap_append, List.map_append]
    simp only [Host.told, hc.listened, hc.events]
    split
    · exact List.append_assoc ..
    · rfl
  stopped hk := hc.stopped (hkeeper hk)
  awaited p hp := by
    refine (hc.awaited p hp).set hw fun hqueue => ?_
    rcases hawaited _ hqueue with h | h
    · exact h
    · exact absurd h (by simp)
  tickets v hv t ht := by
    rcases List.mem_or_eq_of_mem_set hv with hv | rfl
    · exact hc.tickets v hv t ht
    · exact hc.tickets w (List.mem_of_getElem? hw) t (hticket t ht)

/-- A worker who queues a command waits for it. -/
lemma queues (hc : c.InOrder h) (hw : c.workers[i]? = some w)
    {x : StateCommand} (herrand : w.errand = .called) (hk : c.host.keeper ≠ .stopped) :
    InOrder h {
      host := { c.host with queue := c.host.queue ++ [x] }
      workers := c.workers.set i
        { w with errand := .queued ⟨c.host.applied + c.host.queue.length⟩ }
      history := c.history ++ [.queued i ⟨c.host.applied + c.host.queue.length⟩ x] } where
  commands := by
    simpa [Crew.commands, Crew.applied, List.filterMap_cons, Deed.queued?, Deed.applied?,
      ← List.append_assoc] using hc.commands
  count := by simpa [Crew.applied, List.filterMap_cons, Deed.applied?] using hc.count
  state := by simpa [Crew.applied, List.filterMap_cons, Deed.applied?] using hc.state
  listened := hc.listened
  events := by simpa [tellings, List.filterMap_cons, Deed.told?] using hc.events
  stopped hstopped := absurd hstopped hk
  awaited p hp := by
    rw [List.length_append, List.length_singleton, Nat.lt_succ_iff_lt_or_eq] at hp
    rcases hp with hp | rfl
    · refine (hc.awaited p hp).set hw fun hqueue => ?_
      rw [herrand] at hqueue
      cases hqueue
    · refine ⟨i, _, List.getElem?_set_self (List.getElem?_eq_some_iff.1 hw).1, rfl⟩
  tickets v hv t ht := by
    rw [List.length_append, List.length_singleton]
    rcases List.mem_or_eq_of_mem_set hv with hv | rfl
    · exact Nat.lt_succ_of_lt (hc.tickets v hv t ht)
    · cases ht
      exact Nat.lt_succ_self _

/-- The keeper applies the first command that waits. -/
lemma keeps (hc : c.InOrder h) {x : StateCommand} {rest : List StateCommand}
    (hq : c.host.queue = x :: rest) (log : List LogEntry) :
    InOrder h { c with
      host := { c.host with
        state := c.host.state.apply x, queue := rest, applied := c.host.applied + 1, log }
      history := c.history ++ [.applied ⟨c.host.applied⟩ x] } where
  commands := by
    have hcommands := hc.commands
    rw [hq] at hcommands
    simpa [Crew.commands, Crew.applied, List.filterMap_cons, Deed.queued?, Deed.applied?]
      using hcommands
  count := by
    rw [hc.count, Nat.add_assoc]
    simp [Crew.applied, Deed.applied?]
  state := by
    rw [hc.state]
    simp [Crew.applied, Deed.applied?, HostState.applyAll]
  listened := hc.listened
  events := by simpa [tellings, List.filterMap_cons, Deed.told?] using hc.events
  stopped hk := by
    have hqueue := hc.stopped hk
    rw [hq] at hqueue
    cases hqueue
  awaited p hp := by
    have hlater := hc.awaited (p + 1) (by rw [hq]; exact Nat.succ_lt_succ hp)
    rwa [Nat.add_assoc, Nat.add_comm 1 p]
  tickets v hv t ht := by
    have hlast := hc.tickets v hv t ht
    rw [hq, List.length_cons] at hlast
    change t.number < c.host.applied + 1 + rest.length
    omega

/-- Whoever makes a move, a crew stays in order. -/
lemma moves (hc : c.InOrder h) (hmoves : c.Moves c') : c'.InOrder h := by
  cases hmoves with
  | rests => exact hc
  | works hw hmoves =>
    have hmem := List.mem_of_getElem? hw
    cases hmoves with
    | stays =>
      obtain ⟨hi, rfl⟩ := List.getElem?_eq_some_iff.1 hw
      rw [List.append_nil, List.set_getElem_self]
      exact hc
    | calls hrest herrand hdeeds =>
      obtain ⟨keeper, log, hcall, hkeeper⟩ := c.host.exists_callKeeper
      rw [hcall]
      refine hc.goes hw hkeeper ?_ ?_ ?_ nofun fun t ht => ?_
      · rcases hdeeds with rfl | rfl <;> rfl
      · rcases hdeeds with rfl | rfl <;> rfl
      · rcases hdeeds with rfl | rfl <;> exact c.host.told_nil.symm
      · rw [herrand] at ht
        cases ht
    | queues hrest herrand hk => exact hc.queues hw herrand hk
    | fails e hrest herrand =>
      refine hc.goes hw id rfl rfl c.host.told_nil.symm nofun fun t ht => ?_
      rw [herrand] at ht
      cases ht
    | learns hrest herrand hout =>
      refine hc.goes hw id rfl rfl c.host.told_nil.symm nofun fun t ht => ?_
      rw [herrand] at ht
      cases ht
      exact Or.inr (hc.outcome hmem herrand hout).2
    | @performs e next hrest he =>
      obtain ⟨files, log, hperform⟩ := c.host.exists_perform he
      rw [hperform]
      refine hc.goes hw id rfl rfl ?_ (fun t => id) fun t => Or.inl
      cases e <;> rfl
  | keeps hq log => exact hc.keeps hq log

/-- **A crew stays in order, whatever the schedule.** -/
theorem run (hc : c.InOrder h) (schedule : List Move) : (c.run schedule).InOrder h := by
  induction schedule generalizing c with
  | nil => exact hc
  | cons m ms ih => exact ih (hc.moves (c.moves_move m))

/-- With nobody waiting, all commands that were queued were applied. -/
lemma queue_eq_nil (hc : c.InOrder h) (hidle : ∀ w ∈ c.workers, w.errand = .ahead) :
    c.host.queue = [] := by
  refine List.eq_nil_iff_length_eq_zero.2 (Nat.eq_zero_of_not_pos fun hpos => ?_)
  obtain ⟨i, w, hw, herrand⟩ := hc.awaited 0 hpos
  rw [hidle w (List.mem_of_getElem? hw)] at herrand
  cases herrand

end InOrder

/-- A crew is in order when it begins on a host where no commands wait. -/
lemma inOrder_ofProcedures {h : Host} (hq : h.queue = [])
    (ps : List (Session × Procedure α)) : (ofProcedures h ps).InOrder h where
  commands := hq.symm
  count := rfl
  state := rfl
  listened := rfl
  events := h.told_nil.symm
  stopped _ := hq
  awaited p hp := by
    change p < h.queue.length at hp
    rw [hq] at hp
    exact absurd hp p.not_lt_zero
  tickets w hw t ht := by
    obtain ⟨p, hp, rfl⟩ := List.mem_map.1 hw
    cases ht

end Crew

end WebviewBridge
