import Mathlib.Logic.Function.Basic
import WebviewBridge.Proofs.Host.Replies

/-!
# Many sessions on one host

A host and its sessions, whose frames are handled one at a time.  Between two frames time may pass,
anyone may change the files, and a session may be closed.  `Creator.Serves` says what one frame does
to what the sessions share; `Floor.run_spec` carries that to runs.
-/

namespace WebviewBridge

open Json

/-! ## One frame -/

namespace Host

/-- A host whose keeper takes commands and has none waiting. -/
structure IsLive (h : Host) : Prop where
  alive : h.keeper ≠ .stopped
  idle : h.queue = []

lemma isLive_of_running {h : Host} (hk : h.keeper = .running) (hq : h.queue = []) : h.IsLive := by
  refine ⟨?_, hq⟩
  rw [hk]
  exact nofun

/-- What is told after some events is told after all of those. -/
lemma told_of_told {h h' : Host} {es : List HostEvent} (hl : h'.listened = h.listened)
    (he : h'.events = h.told es) (es' : List HostEvent) : h'.told es' = h.told (es ++ es') := by
  rw [told, hl, he, told, told]
  split
  · rw [List.append_assoc]
  · rfl

end Host

namespace Creator

/-- The steps on files that a demand leads to. -/
def stepsOf (c : Creator) (now : UInt64) : Demand → List (FileStep HostError)
  | .idea (.ok idea) => c.submitSteps now idea
  | _ => []

/-- The events that a demand leads to. -/
def eventsOf (c : Creator) (now : UInt64) (files : FileTree) : Demand → List HostEvent
  | .close => [.stateChanged .overlayClosed]
  | .idea (.ok idea) => c.submitEvents now files idea
  | _ => []

/-- A host has met a demand: the state, the events and the files are what the demand makes of them.
-/
structure Serves (c : Creator) (h : Host) (d : Demand) (h' : Host) : Prop where
  isLive : h'.IsLive
  listened : h'.listened = h.listened
  state : h'.state = d.stateAfter h.state
  events : h'.events = h.told (c.eventsOf h.now h.files d)
  files : h'.files = (runSteps (c.stepsOf h.now d) h.files).1

variable {c : Creator} {h h' : Host} {s : Session} {d : Demand} {m : OutgoingMessage}

lemma Serves.withLog (hd : c.Serves h d h') (log : List LogEntry) :
    c.Serves h d { h' with log } :=
  ⟨⟨hd.isLive.alive, hd.isLive.idle⟩, hd.listened, hd.state, hd.events, hd.files⟩

/-- Files change, and events are told, only where the creator's mode is set. -/
lemma stepsOf_eq_nil (hmode : d.mode? = none) (now : UInt64) : c.stepsOf now d = [] := by
  cases d with
  | idea content =>
    cases content with
    | error e => rfl
    | ok idea => cases hmode
  | _ => rfl

lemma eventsOf_eq_nil (hmode : d.mode? = none) (now : UInt64) (files : FileTree) :
    c.eventsOf now files d = [] := by
  cases d with
  | idea content =>
    cases content with
    | error e => rfl
    | ok idea => cases hmode
  | close => cases hmode
  | _ => rfl

/-- A demand that sets no mode and brings no tokens leaves everything as it is. -/
lemma serves_self (hl : h.IsLive) (hmode : d.mode? = none) (hupdate : d.update? = none) :
    c.Serves h d h := by
  refine ⟨hl, rfl, ?_, ?_, ?_⟩
  · rw [Demand.stateAfter, hmode, hupdate]
    rfl
  · rw [eventsOf_eq_nil hmode, Host.told_nil]
  · rw [stepsOf_eq_nil hmode]
    rfl

/-- The handler of a demand meets it on any session. -/
lemma serves_meet (hl : h.IsLive) (m : OutgoingMessage) (d : Demand) :
    c.Serves h d ((c.meet m d).runOn h s).1 := by
  cases d with
  | unreadable | pong => exact serves_self hl rfl rfl
  | tokens =>
    rw [meet, runOn_answerTokens]
    exact serves_self hl rfl rfl
  | update content =>
    rw [meet]
    cases content with
    | error e =>
      rw [Handling.runOn_ofExcept_bind_error]
      exact serves_self hl rfl rfl
    | ok t =>
      obtain ⟨applied, log, hupdate⟩ := runOn_updateTokens_of_alive (s := s) hl.alive m t
      rw [Handling.runOn_ofExcept_bind_ok, hupdate, hl.idle]
      exact ⟨Host.isLive_of_running rfl rfl, rfl, rfl, (h.told_nil).symm, rfl⟩
  | draft content =>
    rw [meet]
    cases content with
    | error e =>
      rw [Handling.runOn_ofExcept_bind_error]
      exact serves_self hl rfl rfl
    | ok messages =>
      obtain ⟨log, s', r, hplan⟩ :=
        runOn_streamPlan (h := h) (s := s) m "" (c.planner messages)
      rw [Handling.runOn_ofExcept_bind_ok, draft, hplan]
      exact (serves_self hl rfl rfl).withLog log
  | idea content =>
    rw [meet]
    cases content with
    | error e =>
      rw [Handling.runOn_ofExcept_bind_error]
      exact serves_self hl rfl rfl
    | ok idea =>
      obtain ⟨applied, log, hsubmit⟩ := runOn_submit_of_alive (s := s) hl.alive c idea
      rw [Handling.runOn_ofExcept_bind_ok, hsubmit, hl.idle]
      exact ⟨Host.isLive_of_running rfl rfl, rfl, rfl, rfl, rfl⟩
  | close =>
    obtain ⟨applied, log, hmode⟩ := runOn_changeState_of_alive (s := s) hl.alive .overlayClosed
    rw [meet, hmode, Host.inMode, hl.idle]
    exact ⟨Host.isLive_of_running rfl rfl, rfl, rfl, rfl, rfl⟩
  | unknown =>
    obtain ⟨log, hlog⟩ := runOn_meet_unknown (h := h) (s := s) (c := c) (m := m)
    rw [hlog]
    exact (serves_self hl rfl rfl).withLog log

/-- A frame on any session does to the host what it asks for. -/
lemma serves_handleFrame (hl : h.IsLive) (s : Session) (text : String) :
    c.Serves h (.ofText text) ((c.handleFrame text).run h s).1 := by
  cases hm : OutgoingMessage.parse text with
  | error refusal =>
    obtain ⟨log, hreport⟩ := run_report (h := h) (s := s) (refusalNotice refusal)
      "Failed to report decode error: "
    rw [Demand.ofText_of_error hm, run_handleFrame_of_error hm, hreport]
    exact (serves_self hl rfl rfl).withLog log
  | ok m =>
    rw [Demand.ofText_of_ok hm, run_handleFrame_of_ok hm]
    by_cases hpong : m.messageType = Kind.pong.messageType
    · rw [run_handleMessage_of_pong hpong, OutgoingMessage.demand_of_pong hpong]
      exact serves_self hl rfl rfl
    · -- a failure is reported to the session, which leaves all but the log of the host alone
      have hserves : c.Serves h m.demand ((c.meet m m.demand).runOn h s).1 := serves_meet hl m _
      rcases hrun : (c.meet m m.demand).runOn h s with ⟨h', s', e | ⟨⟩⟩
      · obtain ⟨log, hreport⟩ := run_report (h := h') (s := s') (failureNotice m e)
          "Failed to report handler error: "
        rw [hrun] at hserves
        rw [run_handleMessage_of_error hpong hrun, hreport]
        exact hserves.withLog log
      · rw [hrun] at hserves
        rw [run_handleMessage_of_ok hpong hrun]
        exact hserves

end Creator

/-! ## Runs -/

/-- A host and its sessions. -/
structure Floor (ι : Type) where
  host : Host
  sessions : ι → Session

namespace Floor

/-- What happens on a floor. -/
inductive Turn (ι : Type) where
  /-- A frame of a session is handled to its end. -/
  | frame (i : ι) (text : String)
  /-- Time passes, and anyone changes files. -/
  | meanwhile (files : FileTree) (now : UInt64)
  /-- The queue of a session is closed. -/
  | hangUp (i : ι)

variable {ι : Type}

/-- What the last frame asked for that asked for a thing of some kind. -/
def lastAsked {α : Type} (pick : Demand → Option α) (first : α) (turns : List (Turn ι)) : α :=
  turns.foldl
    (fun last t => match t with
      | .frame _ text => (pick (.ofText text)).getD last
      | _ => last)
    first

lemma lastAsked_append_frame {α : Type} (pick : Demand → Option α) (first : α)
    (turns : List (Turn ι)) (i : ι) (text : String) :
    lastAsked pick first (turns ++ [.frame i text]) =
      (pick (.ofText text)).getD (lastAsked pick first turns) := by
  rw [lastAsked, List.foldl_append]
  rfl

lemma lastAsked_map {α β : Type} (pick : Demand → Option α) (g : α → β) (first : α)
    (turns : List (Turn ι)) :
    lastAsked (fun d => (pick d).map g) (g first) turns = g (lastAsked pick first turns) := by
  induction turns generalizing first with
  | nil => rfl
  | cons t turns ih =>
    cases t with
    | frame i text =>
      change lastAsked (fun d => (pick d).map g)
        (((pick (.ofText text)).map g).getD (g first)) turns = _
      rw [Option.getD_map, ih]
      rfl
    | _ => exact ih first

/-- What was asked for last is as what was there at first, or as something asked for. -/
lemma lastAsked_cases {α : Type} {P : α → Prop} {pick : Demand → Option α} {first : α}
    (hfirst : P first) (hpick : ∀ d x, pick d = some x → P x) (turns : List (Turn ι)) :
    P (lastAsked pick first turns) := by
  induction turns generalizing first with
  | nil => exact hfirst
  | cons t turns ih =>
    cases t with
    | frame i text =>
      change P (lastAsked pick ((pick (.ofText text)).getD first) turns)
      cases hx : pick (.ofText text) with
      | none => exact ih hfirst
      | some x => exact ih (hpick _ x hx)
    | _ => exact ih hfirst

variable [DecidableEq ι]

/-- One thing happens. -/
def turn (c : Creator) (f : Floor ι) : Turn ι → Floor ι
  | .frame i text =>
    let (host, session, _) := (c.handleFrame text).run f.host (f.sessions i)
    { host, sessions := Function.update f.sessions i session }
  | .meanwhile files now => { f with host := { f.host with files, now } }
  | .hangUp i => { f with sessions := Function.update f.sessions i (f.sessions i).close }

/-- Things happen one after another. -/
def run (c : Creator) (f : Floor ι) (turns : List (Turn ι)) : Floor ι := turns.foldl (turn c) f

/-- What is told about a turn on a floor. -/
def eventsAt (c : Creator) (f : Floor ι) : Turn ι → List HostEvent
  | .frame _ text => c.eventsOf f.host.now f.host.files (.ofText text)
  | _ => []

/-- What is told in the course of a run, oldest first. -/
def story (c : Creator) (f : Floor ι) : List (Turn ι) → List HostEvent
  | [] => []
  | t :: turns => f.eventsAt c t ++ (f.turn c t).story c turns

variable {c : Creator} {f : Floor ι}

lemma run_append (turns turns' : List (Turn ι)) :
    f.run c (turns ++ turns') = (f.run c turns).run c turns' := List.foldl_append

lemma turn_frame_session (i : ι) (text : String) :
    (f.turn c (.frame i text)).sessions i =
      ((c.handleFrame text).run f.host (f.sessions i)).2.1 :=
  Function.update_self ..

/-- What a run keeps and what it adds up to. -/
structure Ran (c : Creator) (f : Floor ι) (turns : List (Turn ι)) : Prop where
  isLive : (f.run c turns).host.IsLive
  listened : (f.run c turns).host.listened = f.host.listened
  creator : (f.run c turns).host.state.creator =
    lastAsked Demand.mode? f.host.state.creator turns
  credentials : (f.run c turns).host.state.credentials =
    lastAsked (fun d => d.update?.map Credentials.ofWire) f.host.state.credentials turns
  events : (f.run c turns).host.events = f.host.told (f.story c turns)

/-- A turn is a run of its own. -/
lemma ran_turn (hl : f.host.IsLive) (t : Turn ι) : f.Ran c [t] := by
  cases t with
  | frame i text =>
    have hserves := Creator.serves_handleFrame (c := c) hl (f.sessions i) text
    refine ⟨hserves.isLive, hserves.listened, ?_, ?_, ?_⟩
    · exact congrArg HostState.creator hserves.state
    · exact congrArg HostState.credentials hserves.state
    · rw [story, story, List.append_nil]
      exact hserves.events
  | meanwhile files now =>
    exact ⟨⟨hl.alive, hl.idle⟩, rfl, rfl, rfl, (f.host.told_nil).symm⟩
  | hangUp i => exact ⟨hl, rfl, rfl, rfl, (f.host.told_nil).symm⟩

/-- **Every run of a live host is what its frames add up to.** -/
theorem run_spec (hl : f.host.IsLive) (turns : List (Turn ι)) : f.Ran c turns := by
  induction turns generalizing f with
  | nil => exact ⟨hl, rfl, rfl, rfl, (f.host.told_nil).symm⟩
  | cons t turns ih =>
    -- the rest of the run begins where the first turn ends, with a host that is still live
    have hturn := ran_turn (c := c) hl t
    have hrest := ih hturn.isLive
    refine ⟨hrest.isLive, hrest.listened.trans hturn.listened, ?_, ?_, ?_⟩
    · refine hrest.creator.trans ?_
      rw [hturn.creator]
      rfl
    · refine hrest.credentials.trans ?_
      rw [hturn.credentials]
      rfl
    · refine hrest.events.trans ?_
      have hevents := hturn.events
      rw [story, story, List.append_nil] at hevents
      rw [Host.told_of_told hturn.listened hevents]
      rfl

end Floor

end WebviewBridge
