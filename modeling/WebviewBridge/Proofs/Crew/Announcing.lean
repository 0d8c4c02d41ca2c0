import Mathlib.Data.List.Induction
import WebviewBridge.Proofs.Crew.Commands
import WebviewBridge.Proofs.Host.Effects

/-!
# Modes set and announced

A handler that sets the creator's mode tells the editor about it next, and about no other mode
(`Creator.announces_handleFrame`).  So a handler owes at most one announcement at a time, and none
once it is done with a frame.  When no handler is at work, each connection has announced the modes
that it has set, in that order, and the creator is in the mode that was set last
(`Crew.run_announced`).

The mode that was announced last may be another one: between the command and the announcement of
one handler, another handler may do both (`Crew.run_crossed`).
-/

namespace WebviewBridge

/-! ## What handlers announce -/

/-- The mode that a command sets. -/
def StateCommand.mode? : StateCommand → Option CreatorState
  | setCreatorState x => some x
  | setCredentials _ | clearCredentials => none

/-- The mode that an event announces. -/
def HostEvent.mode? : HostEvent → Option CreatorState
  | stateChanged x => some x
  | executePlan _ | replaceWorkspaceFolder _ => none

/-- The creator is in the mode that was set last. -/
lemma HostState.creator_applyAll (s : HostState) (xs : List StateCommand) :
    (s.applyAll xs).creator = (xs.filterMap StateCommand.mode?).getLast?.getD s.creator := by
  induction xs using List.reverseRecOn with
  | nil => rfl
  | append_singleton xs x ih =>
    rw [s.applyAll_append_singleton]
    cases x with
    | setCreatorState next => simp [apply, StateCommand.mode?]
    | setCredentials _ | clearCredentials => simpa [apply, StateCommand.mode?] using ih

namespace Effect

/-- The mode that an effect announces. -/
def announced? (e : Effect) : Option CreatorState := e.told?.bind HostEvent.mode?

/-- The mode that an effect has set, if that is its answer. -/
def set? : (e : Effect) → e.Answer → Option CreatorState
  | update x, .ok () => x.mode?
  | _, _ => none

/-- An effect that neither sets a mode nor announces one. -/
def IsQuiet (e : Effect) : Prop := e.announced? = none ∧ ∀ a, e.set? a = none

variable {e : Effect}

/-- Only a command sets a mode. -/
lemma set?_eq_none (he : ∀ x, e ≠ update x) (a : e.Answer) : e.set? a = none := by
  cases e with
  | update x => exact absurd rfl (he x)
  | _ => rfl

/-- What is asked for without a mode is done quietly. -/
lemma IsDueTo.isQuiet {d : Demand} (he : e.IsDueTo d) (hd : d.mode? = none) : e.IsQuiet := by
  cases he with
  | setTokens t =>
    refine ⟨rfl, fun a => ?_⟩
    rcases a with e | ⟨⟩
    · rfl
    · change (Settings.updateCommand t).mode? = none
      rw [Settings.updateCommand]
      split <;> rfl
  | setMode hx =>
    rw [hd] at hx
    cases hx
  | stateChanged hx =>
    rw [hd] at hx
    cases hx
  | _ => exact ⟨rfl, fun _ => rfl⟩

end Effect

namespace Procedure

variable {α β : Type} {p : Procedure α} {owed : Option CreatorState}

/-- A procedure that first announces a mode that was set, if one is owed, and then announces each
mode as soon as it has set it, and no other. -/
def Announces (owed : Option CreatorState) : Procedure α → Prop
  | done _ => owed = none
  | perform e next => e.announced? = owed ∧ ∀ a, (next a).Announces (e.set? a)

/-- A procedure owes one thing only. -/
lemma Announces.unique {owed' : Option CreatorState} (hp : p.Announces owed)
    (hp' : p.Announces owed') : owed = owed' := by
  cases p with
  | done a => exact hp.trans hp'.symm
  | perform e next => exact hp.1.symm.trans hp'.1

lemma announces_bind {f : α → Procedure β} (hp : p.Announces owed)
    (hf : ∀ a, (f a).Announces none) : (p >>= f).Announces owed := by
  induction p generalizing owed with
  | done a =>
    cases hp
    exact hf a
  | perform e next ih => exact ⟨hp.1, fun x => ih x (hp.2 x)⟩

/-- Whoever is quiet owes nothing. -/
lemma All.announces (hp : p.All Effect.IsQuiet) : p.Announces none := by
  induction p with
  | done a => rfl
  | perform e next ih =>
    refine ⟨hp.1.1, fun a => ?_⟩
    rw [hp.1.2 a]
    exact ih a (hp.2 a)

end Procedure

namespace Creator

/-- The mode is announced once it is set. -/
lemma announces_changeState (next : CreatorState) :
    Procedure.Announces none (changeState next).run := by
  refine ⟨rfl, fun r => ?_⟩
  rcases r with e | ⟨⟩
  · rfl
  · exact ⟨rfl, fun _ => rfl⟩

lemma announces_submit (c : Creator) (idea : SubmitIdea) :
    Procedure.Announces none (c.submit idea).run := by
  refine Procedure.announces_bind (announces_changeState _) fun r => ?_
  rcases r with e | ⟨⟩
  · rfl
  · cases hpath : idea.newProjectPath with
    | none => exact ⟨rfl, fun _ => rfl⟩
    | some path =>
      have hquiet : (c.startProject idea path).All Effect.IsQuiet :=
        c.all_startProject idea path ⟨rfl, fun _ => rfl⟩ ⟨rfl, fun _ => rfl⟩
          (fun _ => ⟨rfl, fun _ => rfl⟩) (fun _ => ⟨rfl, fun _ => rfl⟩)
          fun _ => ⟨rfl, fun _ => rfl⟩
      exact hquiet.announces

lemma announces_meet (c : Creator) (m : OutgoingMessage) {d : Demand} (hm : m.Asks d) :
    Procedure.Announces none (c.meet m d).run := by
  cases hmode : d.mode? with
  | none =>
    exact ((c.isDueTo_meet m hm).mono fun _ he => he.isQuiet hmode).announces
  | some x =>
    match d with
    | .close => exact announces_changeState _
    | .idea (.ok idea) => exact c.announces_submit idea

/-- **The handler of a frame announces each mode as soon as it has set it, and no other.** -/
theorem announces_handleFrame (c : Creator) (text : String) :
    (c.handleFrame text).Announces none := by
  have htype : Kind.errorNotice.messageType ≠ Kind.ping.messageType := by decide
  have hreport (m : IncomingMessage) (hm : m.messageType ≠ Kind.ping.messageType)
      (failure : String) : (report m failure).Announces none :=
    ((isDueTo_report (d := .unknown) hm failure).mono fun _ he => he.isQuiet rfl).announces
  cases hm : OutgoingMessage.parse text with
  | error r =>
    rw [handleFrame, hm]
    exact hreport _ htype _
  | ok m =>
    simp only [handleFrame, hm, handleMessage]
    split
    · exact ⟨rfl, fun _ => rfl⟩
    · next hpong =>
      rw [route_eq c hpong]
      refine Procedure.announces_bind (c.announces_meet m m.asks_demand) fun r => ?_
      rcases r with e | ⟨⟩
      · exact hreport _ htype _
      · rfl

/-- Handles the texts of frames one after the other. -/
def handleFrames (c : Creator) : List String → Procedure Unit
  | [] => .done ()
  | text :: rest => c.handleFrame text >>= fun _ => c.handleFrames rest

lemma announces_handleFrames (c : Creator) (texts : List String) :
    (c.handleFrames texts).Announces none := by
  induction texts with
  | nil => rfl
  | cons text rest ih => exact Procedure.announces_bind (c.announces_handleFrame text) fun _ => ih

end Creator

/-! ## What the members of a crew have set and announced -/

namespace Deed

/-- The mode that is going to be set by what was queued, and the worker who did that. -/
def set? (d : Deed) : Option (Nat × CreatorState) :=
  d.queued?.bind fun p => p.2.mode?.map (p.1, ·)

/-- The mode that was announced, and the worker who did that. -/
def announced? (d : Deed) : Option (Nat × CreatorState) :=
  d.told?.bind fun p => p.2.mode?.map (p.1, ·)

end Deed

/-- What a worker has a part in. -/
def ofWorker {β : Type} (i : Nat) (l : List (Nat × β)) : List β :=
  (l.filter fun p => p.1 = i).map (·.2)

section OfWorker

variable {β : Type} {i j : Nat} {l : List (Nat × β)}

lemma ofWorker_append_self (l : List (Nat × β)) (xs : List β) :
    ofWorker i (l ++ xs.map (i, ·)) = ofWorker i l ++ xs := by
  simp [ofWorker, List.filter_map, Function.comp_def]

lemma ofWorker_append_of_ne (hij : i ≠ j) (l : List (Nat × β)) (xs : List β) :
    ofWorker j (l ++ xs.map (i, ·)) = ofWorker j l := by
  simp [ofWorker, List.filter_map, Function.comp_def, hij]

/-- What was done last was done last by the worker who did it. -/
lemma getLast?_ofWorker {b : β} (hl : l.getLast? = some (i, b)) :
    (ofWorker i l).getLast? = some b := by
  obtain ⟨l, rfl⟩ := List.getLast?_eq_some_iff.1 hl
  simp [ofWorker]

end OfWorker

namespace Worker

variable {α : Type} {w w' : Worker α} {owed : Option CreatorState}

/-- A worker has to announce a mode that it has set, before it does anything else.  A mode counts as
set once its command is queued. -/
def Owes (w : Worker α) (owed : Option CreatorState) : Prop :=
  match w.errand with
  | .ahead | .called => w.rest.Announces owed
  | .queued _ => ∃ x next, w.rest = .perform (.update x) next ∧ x.mode? = owed ∧
      (next (.ok ())).Announces owed

lemma owes_iff (hfree : ∀ t, w.errand ≠ .queued t) : w.Owes owed ↔ w.rest.Announces owed := by
  rw [Owes]
  split
  · exact Iff.rfl
  · exact Iff.rfl
  · next t ht => exact absurd ht (hfree t)

/-- The modes that a worker sets with a move, and those that it announces, leave it owing what it
has not announced yet. -/
lemma Owes.moves (hw : w.Owes owed) {i : Nat} {h h' : Host} {deeds : List Deed}
    (hmoves : w.Moves i h h' w' deeds)
    (hok : ∀ t outcome, w.errand = .queued t → h.outcome? t = some outcome → outcome = .ok ()) :
    ∃ xs ys owed', w'.Owes owed' ∧ deeds.filterMap Deed.set? = xs.map (i, ·) ∧
      deeds.filterMap Deed.announced? = ys.map (i, ·) ∧
      owed.toList ++ xs = ys ++ owed'.toList := by
  cases hmoves with
  | stays => exact ⟨[], [], owed, hw, rfl, rfl, List.append_nil _⟩
  | calls hrest herrand hdeeds =>
    rw [Owes, herrand] at hw
    refine ⟨[], [], owed, hw, ?_, ?_, List.append_nil _⟩
    · rcases hdeeds with rfl | rfl <;> rfl
    · rcases hdeeds with rfl | rfl <;> rfl
  | @queues x next hrest herrand hk =>
    rw [Owes, herrand] at hw
    simp only [hrest] at hw
    -- a command announces nothing, so nothing was owed before it
    obtain ⟨rfl, hnext⟩ := hw
    refine ⟨x.mode?.toList, [], x.mode?, ⟨x, next, hrest, rfl, hnext (.ok ())⟩, ?_, rfl, rfl⟩
    cases x <;> rfl
  | @fails x next e hrest herrand =>
    rw [Owes, herrand] at hw
    simp only [hrest] at hw
    obtain ⟨rfl, hnext⟩ := hw
    exact ⟨[], [], none, hnext (.error e), rfl, rfl, rfl⟩
  | @learns x next t outcome hrest herrand hout =>
    rw [Owes, herrand] at hw
    obtain ⟨x', next', hrest', hmode, hnext⟩ := hw
    cases hrest.symm.trans hrest'
    cases hok t outcome herrand hout
    exact ⟨[], [], owed, hnext, rfl, rfl, List.append_nil _⟩
  | @performs e next hrest he =>
    -- a worker who waits for a command has nothing else to do first
    have hfree : ∀ t, w.errand ≠ .queued t := by
      intro t ht
      rw [Owes, ht] at hw
      obtain ⟨x, next', hrest', -⟩ := hw
      cases hrest.symm.trans hrest'
      exact he x rfl
    rw [owes_iff hfree, hrest] at hw
    obtain ⟨rfl, hnext⟩ := hw
    have hrest' := hnext (h.perform w.session e).2.2
    rw [Effect.set?_eq_none he] at hrest'
    refine ⟨[], e.announced?.toList, none, ?_, rfl, ?_, by simp⟩
    · refine Iff.mpr (owes_iff ?_) hrest'
      exact hfree
    · cases e with
      | emit x => cases x <;> rfl
      | _ => rfl

/-- A worker between two frames, or after the last one. -/
def IsResting (c : Creator) (w : Worker Unit) : Prop :=
  w.errand = .ahead ∧ ∃ texts, w.rest = c.handleFrames texts

/-- Whoever is done with everything rests. -/
lemma isResting_of_isSome_result? {c : Creator} {w : Worker Unit}
    (hw : w.result?.isSome = true ∧ w.errand = .ahead) : w.IsResting c := by
  refine ⟨hw.2, [], ?_⟩
  have hdone := hw.1
  rw [result?] at hdone
  split at hdone
  · next hrest => exact hrest
  · cases hdone

/-- A worker who rests owes nothing. -/
lemma IsResting.eq_none {c : Creator} {w : Worker Unit} (hr : w.IsResting c) (hw : w.Owes owed) :
    owed = none := by
  obtain ⟨herrand, texts, hrest⟩ := hr
  rw [Owes, herrand] at hw
  simp only [hrest] at hw
  exact hw.unique (c.announces_handleFrames texts)

end Worker

namespace Crew

variable {α : Type} {c c' : Crew α} {h : Host}

/-- The modes set by the commands that were queued, and by whom, oldest first. -/
def settings (c : Crew α) : List (Nat × CreatorState) :=
  c.commands.filterMap fun p => p.2.mode?.map (p.1, ·)

/-- The modes that the editor was told about, and by whom, oldest first. -/
def announcements (c : Crew α) : List (Nat × CreatorState) :=
  c.tellings.filterMap fun p => p.2.mode?.map (p.1, ·)

lemma settings_eq (c : Crew α) : c.settings = c.history.filterMap Deed.set? :=
  List.filterMap_filterMap

lemma announcements_eq (c : Crew α) : c.announcements = c.history.filterMap Deed.announced? :=
  List.filterMap_filterMap

lemma map_settings (c : Crew α) :
    c.settings.map (·.2) = (c.commands.map (·.2)).filterMap StateCommand.mode? := by
  simp [settings, List.map_filterMap, List.filterMap_map, Function.comp_def]

lemma map_announcements (c : Crew α) :
    c.announcements.map (·.2) = (c.tellings.map (·.2)).filterMap HostEvent.mode? := by
  simp [announcements, List.map_filterMap, List.filterMap_map, Function.comp_def]

/-- Each worker has set the modes that it has announced, and one more if it owes that; nobody else
has set any. -/
def IsBalanced (c : Crew α) : Prop :=
  ∀ i, ∃ owed, (∀ w, c.workers[i]? = some w → w.Owes owed) ∧
    (c.workers[i]? = none → ofWorker i c.settings = []) ∧
    ofWorker i c.settings = ofWorker i c.announcements ++ owed.toList

/-- Whoever makes a move, the workers owe what they have set and not announced. -/
lemma IsBalanced.moves (hc : c.IsBalanced) (hin : c.InOrder h) (hmoves : c.Moves c') :
    c'.IsBalanced := by
  cases hmoves with
  | rests => exact hc
  | @works i w w' h' deeds hw hmoves =>
    obtain ⟨owed, howes, -, hlists⟩ := hc i
    obtain ⟨xs, ys, owed', howes', hset, hannounced, hsum⟩ := (howes w hw).moves hmoves
      fun t outcome ht hout => (hin.outcome (List.mem_of_getElem? hw) ht hout).1
    intro j
    simp only [settings_eq, announcements_eq, List.filterMap_append, hset, hannounced]
    simp only [← settings_eq, ← announcements_eq]
    by_cases hij : i = j
    · subst hij
      have hself : (c.workers.set i w')[i]? = some w' :=
        List.getElem?_set_self (List.getElem?_eq_some_iff.1 hw).1
      refine ⟨owed', fun v hv => ?_, fun hgone => ?_, ?_⟩
      · cases hself.symm.trans hv
        exact howes'
      · cases hself.symm.trans hgone
      · rw [ofWorker_append_self, ofWorker_append_self, hlists, List.append_assoc, hsum,
          ← List.append_assoc]
    · rw [List.getElem?_set_ne hij, ofWorker_append_of_ne hij, ofWorker_append_of_ne hij]
      exact hc j
  | keeps hq log =>
    intro i
    simpa [settings_eq, announcements_eq, List.filterMap_cons, Deed.set?, Deed.announced?,
      Deed.queued?, Deed.told?] using hc i

lemma IsBalanced.run (hc : c.IsBalanced) (hin : c.InOrder h) (schedule : List Move) :
    (c.run schedule).IsBalanced := by
  induction schedule generalizing c with
  | nil => exact hc
  | cons m ms ih =>
    have hmoves := c.moves_move m
    exact ih (hc.moves hin hmoves) (hin.moves hmoves)

/-! ## Connections at rest -/

/-- A crew that begins to handle the frames of connections. -/
def ofConnections (k : Creator) (h : Host) (ks : List (Session × List String)) : Crew Unit :=
  ofProcedures h (ks.map fun p => (p.1, k.handleFrames p.2))

lemma isBalanced_ofConnections (k : Creator) (h : Host) (ks : List (Session × List String)) :
    (ofConnections k h ks).IsBalanced := by
  intro i
  refine ⟨none, fun w hw => ?_, fun _ => rfl, rfl⟩
  obtain ⟨p, hp, rfl⟩ := List.mem_map.1 (List.mem_of_getElem? hw)
  obtain ⟨q, -, rfl⟩ := List.mem_map.1 hp
  exact k.announces_handleFrames q.2

/-- What holds of a crew that began on a host with so many connections, when none of its handlers is
at work. -/
structure IsAnnounced (h : Host) (connections : Nat) (c : Crew α) : Prop where
  /-- All commands were applied, in the order in which they were queued. -/
  applied : c.applied = c.commands.map (·.2)
  /-- The editor got all events, in the order in which they were told. -/
  events : c.host.events = h.events ++ c.tellings.map (·.2)
  /-- Each connection has announced the modes that it has set, in that order. -/
  announced : ∀ i, ofWorker i c.announcements = ofWorker i c.settings
  /-- If no mode was set, the creator is in the mode that it was in. -/
  unchanged : c.settings = [] → c.host.state.creator = h.state.creator
  /-- The creator is in the mode that was set last, which is what the connection that set it
  announced last. -/
  set_last : ∀ i x, c.settings.getLast? = some (i, x) →
    c.host.state.creator = x ∧ (ofWorker i c.announcements).getLast? = some x
  /-- If that connection was the last to announce anything, the creator is in the mode that was
  announced last. -/
  announced_last : ∀ i x y, c.settings.getLast? = some (i, x) →
    c.announcements.getLast? = some (i, y) →
    (c.host.events.filterMap HostEvent.mode?).getLast? = some c.host.state.creator
  /-- With one connection it always is. -/
  announced_single : connections = 1 → c.settings ≠ [] →
    (c.host.events.filterMap HostEvent.mode?).getLast? = some c.host.state.creator

/-- With no commands waiting, the creator is in the mode that was set last. -/
lemma InOrder.creator_eq (hin : c.InOrder h) (hqueue : c.host.queue = []) :
    c.host.state.creator = (c.settings.getLast?.map (·.2)).getD h.state.creator := by
  have hcommands := hin.commands
  rw [hqueue, List.append_nil] at hcommands
  rw [hin.state, HostState.creator_applyAll, ← hcommands, ← map_settings, List.getLast?_map]

/-- Whoever rests owes nothing, so all that was set was announced. -/
lemma IsBalanced.announced {c : Crew Unit} {k : Creator} (hc : c.IsBalanced)
    (hrest : ∀ w ∈ c.workers, w.IsResting k) (i : Nat) :
    ofWorker i c.announcements = ofWorker i c.settings := by
  obtain ⟨owed, howes, hnone, hlists⟩ := hc i
  cases hw : c.workers[i]? with
  | none =>
    rw [hnone hw] at hlists ⊢
    exact (List.append_eq_nil_iff.1 hlists.symm).1
  | some w =>
    cases (hrest w (List.mem_of_getElem? hw)).eq_none (howes w hw)
    rw [hlists]
    exact (List.append_nil _).symm

/-- Whoever has set a mode is a member of the crew. -/
lemma IsBalanced.lt_length (hc : c.IsBalanced) {i : Nat} {x : CreatorState}
    (hx : (ofWorker i c.settings).getLast? = some x) : i < c.workers.length := by
  obtain ⟨owed, -, hnone, -⟩ := hc i
  refine Nat.lt_of_not_le fun hle => ?_
  rw [hnone (List.getElem?_eq_none hle)] at hx
  cases hx

/-- **When no handler is at work, the creator is in the mode that was set last, and the connection
that set it has announced nothing else since.** -/
theorem run_announced (k : Creator) {h : Host} (hq : h.queue = []) (hl : h.listened = true)
    (ks : List (Session × List String)) (schedule : List Move)
    (hrest : ∀ w ∈ ((ofConnections k h ks).run schedule).workers, w.IsResting k) :
    ((ofConnections k h ks).run schedule).IsAnnounced h ks.length := by
  have hstart : (ofConnections k h ks).InOrder h := inOrder_ofProcedures hq _
  have hin := hstart.run schedule
  have hbalanced := (isBalanced_ofConnections k h ks).run hstart schedule
  have hlength : ((ofConnections k h ks).run schedule).workers.length = ks.length := by
    rw [length_workers_run, ofConnections, ofProcedures, List.length_map, List.length_map]
  generalize (ofConnections k h ks).run schedule = c at *
  have hqueue := hin.queue_eq_nil fun w hw => (hrest w hw).1
  have hevents : c.host.events = h.events ++ c.tellings.map (·.2) :=
    hin.events.trans (h.told_of_listened hl _)
  have hset (i : Nat) (x : CreatorState) (hx : c.settings.getLast? = some (i, x)) :
      c.host.state.creator = x ∧ (ofWorker i c.announcements).getLast? = some x := by
    refine ⟨?_, ?_⟩
    · rw [hin.creator_eq hqueue, hx]
      rfl
    · rw [hbalanced.announced hrest]
      exact getLast?_ofWorker hx
  have hlast (i : Nat) (x y : CreatorState) (hx : c.settings.getLast? = some (i, x))
      (hy : c.announcements.getLast? = some (i, y)) :
      (c.host.events.filterMap HostEvent.mode?).getLast? = some c.host.state.creator := by
    have hsame := getLast?_ofWorker hy
    rw [(hset i x hx).2] at hsame
    cases hsame
    rw [(hset i x hx).1, hevents, List.filterMap_append, ← map_announcements,
      List.getLast?_append, List.getLast?_map, hy]
    rfl
  refine ⟨by rw [hin.commands, hqueue, List.append_nil], hevents, hbalanced.announced hrest,
    fun hnil => ?_, hset, hlast, fun hone hne => ?_⟩
  · rw [hin.creator_eq hqueue, hnil]
    rfl
  · -- the only connection has set the last mode, and it has announced the last one
    obtain ⟨⟨i, x⟩, hx⟩ := Option.isSome_iff_exists.1 (List.getLast?_isSome.2 hne)
    have hannounced : c.announcements ≠ [] := by
      intro hnil
      have hset' := (hset i x hx).2
      rw [hnil] at hset'
      cases hset'
    obtain ⟨⟨j, y⟩, hy⟩ := Option.isSome_iff_exists.1 (List.getLast?_isSome.2 hannounced)
    have hi := hbalanced.lt_length (getLast?_ofWorker hx)
    have hj : j < c.workers.length := by
      refine hbalanced.lt_length (x := y) ?_
      rw [← hbalanced.announced hrest]
      exact getLast?_ofWorker hy
    obtain rfl : i = j := by omega
    exact hlast i x y hx hy

/-! ### Handlers that cross -/

/-- A creator whose planner has nothing to say. -/
def silent : Creator := { planner := .unconfigured, cache := ⟨"/"⟩, maxAgeMs := 0, home := none }

/-- The text of a frame that closes the overlay. -/
def closeText : String :=
  "\x7b\"messageId\":\"1\",\"destination\":\"creator\",\"messageType\":\"Close\"\x7d"

/-- The text of a frame that submits an idea. -/
def ideaText : String :=
  "\x7b\"messageId\":\"2\",\"destination\":\"creator\",\"messageType\":\"SubmitIdea\","
    ++ "\"payload\":\x7b\"request\":\"r\"\x7d\x7d"

/-- One connection has closed the overlay.  Before it announces that, an idea is taken in for
another connection, and that is announced. -/
def crossing : Crew Unit :=
  (ofConnections silent {} [(default, [closeText]), (default, [ideaText])]).run
    [.work 0, .work 0, .keep, .work 0, .work 1, .work 1, .keep, .work 1, .work 1, .work 1, .work 0]

theorem run_announced_crossing :
    ({} : Host).queue = [] ∧ ({} : Host).listened = true ∧
      (∀ w ∈ crossing.workers, w.IsResting silent) ∧ crossing.IsAnnounced {} 2 := by
  have hrest : ∀ w ∈ crossing.workers, w.IsResting silent := by
    have hdone : ∀ w ∈ crossing.workers, w.result?.isSome = true ∧ w.errand = .ahead := by
      decide +kernel
    exact fun w hw => Worker.isResting_of_isSome_result? (hdone w hw)
  exact ⟨rfl, rfl, hrest, run_announced silent rfl rfl _ _ hrest⟩

/-- **The mode that was announced last need not be the creator's mode**: not if handlers cross, and
not if nobody listened to the last announcement. -/
theorem run_crossed :
    let unheard := (ofConnections silent
      { (Crew.run (ofConnections silent {} [(default, [ideaText])])
          [.work 0, .work 0, .keep, .work 0, .work 0, .work 0]).host with listened := false }
      [(default, [closeText])]).run [.work 0, .work 0, .keep, .work 0, .work 0]
    (crossing.isIdle = true ∧ crossing.host.listened = true ∧
      crossing.host.state.creator = .overlayClosedCreatorActive ∧
      (crossing.host.events.filterMap HostEvent.mode?).getLast? = some .overlayClosed) ∧
    unheard.isIdle = true ∧ unheard.host.state.creator = .overlayClosed ∧
      (unheard.host.events.filterMap HostEvent.mode?).getLast? =
        some .overlayClosedCreatorActive := by
  decide +kernel

end Crew

end WebviewBridge
