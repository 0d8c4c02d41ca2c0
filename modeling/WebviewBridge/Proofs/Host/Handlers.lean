import WebviewBridge.Proofs.Host.Demand
import WebviewBridge.Proofs.Host.Running

/-!
# What handlers do

For each demand there is one lemma that says what its handler does: to the host, up to the log and
the number of applied commands; to the session of the frame; and with which outcome.
-/

namespace WebviewBridge

open Json

/-! ## Sessions -/

namespace Session

/-- A session with more messages in its queue. -/
def enqueue (s : Session) (ms : List IncomingMessage) : Session :=
  { s with queue := s.queue ++ ms.map (·.wire) }

variable {s : Session}

lemma enqueue_nil : s.enqueue [] = s := by
  rw [enqueue, List.map_nil, List.append_nil]

lemma enqueue_enqueue (ms ns : List IncomingMessage) :
    (s.enqueue ms).enqueue ns = s.enqueue (ms ++ ns) := by
  rw [enqueue, enqueue, enqueue, List.map_append, List.append_assoc]

lemma send_of_isOpen (hs : s.isOpen = true) (m : IncomingMessage) :
    s.send m = (s.enqueue [m], .ok ()) := by
  rw [send, if_pos hs]
  rfl

end Session

/-! ## Handlers -/

namespace Host

/-- A host once its keeper has set the creator's mode and the editor was told about it. -/
def inMode (h : Host) (next : CreatorState) (applied : Nat) (log : List LogEntry) : Host :=
  { h with
      state := { h.state.applyAll h.queue with creator := next }
      keeper := .running, queue := [], applied, events := h.told [.stateChanged next], log }

/-- What is told after a change of mode is told after the news of that change. -/
lemma told_inMode (h : Host) (next : CreatorState) (applied : Nat) (log : List LogEntry)
    (es : List HostEvent) :
    (h.inMode next applied log).told es = h.told (.stateChanged next :: es) := by
  change (if h.listened then h.told [.stateChanged next] ++ es else h.told [.stateChanged next]) = _
  rw [told, told]
  split
  · rw [List.append_assoc, List.singleton_append]
  · rfl

end Host

section Handlers

variable {h : Host} {s : Session}

/-! ### The settings -/

lemma runOn_answerTokens (m : OutgoingMessage) :
    (Settings.answerTokens m).runOn h s =
      (h, (s.send (m.answer (.tokens h.state.credentials.toWire))).1,
        (s.send (m.answer (.tokens h.state.credentials.toWire))).2) :=
  Handling.runOn_ofEffect_bind .credentials _

/-- An update stores the tokens that arrived, also when there are none to store. -/
lemma apply_updateCommand (st : HostState) (t : AccountTokens) :
    st.apply (Settings.updateCommand t) = { st with credentials := .ofWire t } := by
  rw [Settings.updateCommand]
  split
  · next hempty =>
    -- to remove the tokens is to store that there are none
    have hnone : Credentials.ofWire t = .empty := by
      rw [Credentials.isEmpty, Bool.and_eq_true, Option.isNone_iff_eq_none,
        Option.isNone_iff_eq_none] at hempty
      cases hc : Credentials.ofWire t with
      | mk access refresh =>
        rw [hc] at hempty
        obtain ⟨rfl, rfl⟩ := hempty
        rfl
    rw [hnone]
    rfl
  · rfl

lemma runOn_updateTokens_of_stopped (hk : h.keeper = .stopped) (m : OutgoingMessage)
    (t : AccountTokens) :
    (Settings.updateTokens m t).runOn h s =
      (h, s, .error (.state "State actor died: channel closed")) :=
  Handling.runOn_update_bind_of_error (Host.update_of_stopped hk _) _

lemma runOn_updateTokens_of_alive (hk : h.keeper ≠ .stopped) (m : OutgoingMessage)
    (t : AccountTokens) :
    ∃ applied log, (Settings.updateTokens m t).runOn h s =
      ({ h with
          state := { h.state.applyAll h.queue with credentials := .ofWire t }
          keeper := .running, queue := [], applied, log },
        (s.send m.acknowledgement).1, (s.send m.acknowledgement).2) := by
  obtain ⟨applied, log, hupdate⟩ := Host.update_of_alive hk (Settings.updateCommand t)
  refine ⟨applied, log, ?_⟩
  rw [apply_updateCommand] at hupdate
  rw [Settings.updateTokens, Handling.runOn_update_bind_of_ok hupdate, Handling.runOn_send]

/-! ### The creator's mode -/

lemma runOn_changeState_of_stopped (hk : h.keeper = .stopped) (next : CreatorState) :
    (Creator.changeState next).runOn h s =
      (h, s, .error (.state "State actor died: channel closed")) :=
  Handling.runOn_update_bind_of_error (Host.update_of_stopped hk _) _

lemma runOn_changeState_of_alive (hk : h.keeper ≠ .stopped) (next : CreatorState) :
    ∃ applied log, (Creator.changeState next).runOn h s =
      (h.inMode next applied log, s, .ok ()) := by
  obtain ⟨applied, log, hupdate⟩ := Host.update_of_alive hk (.setCreatorState next)
  refine ⟨applied, log, ?_⟩
  rw [Creator.changeState, Handling.runOn_update_bind_of_ok hupdate, Handling.runOn_emit,
    Host.emit_eq]
  rfl

/-! ### Plans -/

/-- What a generator's script makes of a plan so far: it is told each time it grows, up to its end
or the first failure. -/
def planPayloads : (plan : String) → List PlanItem → List Payload
  | plan, [] => [.planCompleted plan]
  | plan, .chunk text :: rest => .planStream (plan ++ text) :: planPayloads (plan ++ text) rest
  | _, .failure e :: _ => [.errorNotice ("Failed to create plan: " ++ e.planNotice)]
  | plan, .pause _ :: rest => planPayloads plan rest

/-- A plan grows some times, and then is completed or fails. -/
lemma exists_planPayloads_eq (plan : String) (script : List PlanItem) :
    ∃ (plans : List String) (last : Payload),
      planPayloads plan script = plans.map .planStream ++ [last] ∧
        (last.kind = .planCompleted ∨ last.kind = .errorNotice) := by
  induction script generalizing plan with
  | nil => exact ⟨[], .planCompleted plan, rfl, Or.inl rfl⟩
  | cons item rest ih =>
    cases item with
    | chunk text =>
      obtain ⟨plans, last, hrest, hlast⟩ := ih (plan ++ text)
      refine ⟨(plan ++ text) :: plans, last, ?_, hlast⟩
      rw [planPayloads, hrest]
      rfl
    | failure e => exact ⟨[], _, rfl, Or.inr rfl⟩
    | pause ms => exact ih plan

/-- A plan that is streamed leaves everything but the log alone. -/
lemma runOn_streamPlan (m : OutgoingMessage) (plan : String) (script : List PlanItem) :
    ∃ log s' r, (Creator.streamPlan m plan script).runOn h s = ({ h with log }, s', r) := by
  induction script generalizing plan h s with
  | nil =>
    rw [Creator.streamPlan, Handling.runOn_log_bind, Handling.runOn_send]
    exact ⟨_, _, _, rfl⟩
  | cons item rest ih =>
    cases item with
    | chunk text =>
      rw [Creator.streamPlan]
      have hsend := Handling.runOn_send (h := h) (s := s) (m.answer (.planStream (plan ++ text)))
      rcases hr : s.send (m.answer (.planStream (plan ++ text))) with ⟨s₁, e | ⟨⟩⟩
      · -- nobody is there any more, and the rest of the plan is not asked for
        rw [hr] at hsend
        rw [Handling.runOn_bind_of_error hsend]
        exact ⟨h.log, s₁, .error e, rfl⟩
      · rw [hr] at hsend
        rw [Handling.runOn_bind_of_ok hsend]
        exact ih (plan ++ text)
    | failure e =>
      rw [Creator.streamPlan, Handling.runOn_log_bind, Handling.runOn_send]
      exact ⟨_, _, _, rfl⟩
    | pause ms => exact ih plan

/-- A plan that is streamed to an open session is told to it piece by piece. -/
lemma runOn_streamPlan_of_isOpen (hs : s.isOpen = true) (m : OutgoingMessage) (plan : String)
    (script : List PlanItem) :
    ∃ log, (Creator.streamPlan m plan script).runOn h s =
      ({ h with log }, s.enqueue ((planPayloads plan script).map m.answer), .ok ()) := by
  induction script generalizing plan h s with
  | nil =>
    rw [Creator.streamPlan, Handling.runOn_log_bind, Handling.runOn_send,
      Session.send_of_isOpen hs]
    exact ⟨_, rfl⟩
  | cons item rest ih =>
    cases item with
    | chunk text =>
      have hsend := Handling.runOn_send (h := h) (s := s) (m.answer (.planStream (plan ++ text)))
      rw [Session.send_of_isOpen hs] at hsend
      obtain ⟨log, hrest⟩ := ih (h := h) (s := s.enqueue [m.answer (.planStream (plan ++ text))])
        hs (plan ++ text)
      refine ⟨log, ?_⟩
      rw [Creator.streamPlan, Handling.runOn_bind_of_ok hsend, hrest, Session.enqueue_enqueue]
      rfl
    | failure e =>
      rw [Creator.streamPlan, Handling.runOn_log_bind, Handling.runOn_send,
        Session.send_of_isOpen hs]
      exact ⟨_, rfl⟩
    | pause ms => exact ih hs plan

/-! ### Ideas -/

/-- The steps on files that a submission takes: those of a new project, which is stored with the
creator at work and then gets its folder. -/
def Creator.submitSteps (c : Creator) (now : UInt64) (idea : SubmitIdea) :
    List (FileStep HostError) :=
  match idea.newProjectPath with
  | none => []
  | some path =>
    c.cache.writeSteps ⟨idea, .overlayClosedCreatorActive, now⟩
      ++ [folderStep (expandHome c.home path)]

/-- What the editor has to act on after a submission. -/
def Creator.sequel (c : Creator) (idea : SubmitIdea) : HostEvent :=
  match idea.newProjectPath with
  | none => .executePlan ⟨idea.request, idea⟩
  | some path => .replaceWorkspaceFolder (expandHome c.home path)

/-- What is told about a submission: that the creator is at work and, if the steps on files could
be taken, the sequel. -/
def Creator.submitEvents (c : Creator) (now : UInt64) (files : FileTree) (idea : SubmitIdea) :
    List HostEvent :=
  .stateChanged .overlayClosedCreatorActive ::
    match (runSteps (c.submitSteps now idea) files).2 with
    | .ok () => [c.sequel idea]
    | .error _ => []

lemma runOn_store (cache : SubmissionCache) (idea : SubmitIdea) (mode : CreatorState) :
    (cache.store idea mode).runOn h s =
      ({ h with files := (runSteps (cache.writeSteps ⟨idea, mode, h.now⟩) h.files).1 }, s,
        (runSteps (cache.writeSteps ⟨idea, mode, h.now⟩) h.files).2) :=
  (Handling.runOn_clock_bind _).trans (Handling.runOn_steps _ h s)

/-- A project is stored with the mode that the creator is in. -/
lemma runOn_startProject (c : Creator) {idea : SubmitIdea} {path : String}
    (hpath : idea.newProjectPath = some path)
    (hmode : h.state.creator = .overlayClosedCreatorActive) :
    ∃ log, (c.startProject idea path).runOn h s =
      ({ h with
          files := (runSteps (c.submitSteps h.now idea) h.files).1
          events := h.told (match (runSteps (c.submitSteps h.now idea) h.files).2 with
            | .ok () => [c.sequel idea]
            | .error _ => [])
          log },
        s, (runSteps (c.submitSteps h.now idea) h.files).2) := by
  have hstore := runOn_store (h := h) (s := s) c.cache idea h.state.creator
  rw [hmode] at hstore
  have hbegin : (c.startProject idea path).runOn h s =
      (do
        c.cache.store idea h.state.creator
        Handling.step (Creator.folderStep (expandHome c.home path))
        Handling.log .info ("Created project folder " ++ expandHome c.home path)
        Handling.emit (.replaceWorkspaceFolder (expandHome c.home path))).runOn h s :=
    Handling.runOn_creatorState_bind _
  have hsteps : c.submitSteps h.now idea =
      c.cache.writeSteps ⟨idea, .overlayClosedCreatorActive, h.now⟩
        ++ [Creator.folderStep (expandHome c.home path)] := by
    rw [Creator.submitSteps, hpath]
  rw [hbegin, hmode]
  rcases hwrite : runSteps (c.cache.writeSteps ⟨idea, .overlayClosedCreatorActive, h.now⟩) h.files
    with ⟨files, e | ⟨⟩⟩
  · -- the submission could not be stored
    have hall : runSteps (c.submitSteps h.now idea) h.files = (files, .error e) := by
      rw [hsteps, runSteps_append, hwrite]
    rw [hwrite] at hstore
    rw [Handling.runOn_bind_of_error hstore, hall]
    exact ⟨h.log, by rw [Host.told_nil]⟩
  · rw [hwrite] at hstore
    rw [Handling.runOn_bind_of_ok hstore]
    have hfolder := Handling.runOn_step (h := { h with files }) (s := s)
      (Creator.folderStep (expandHome c.home path))
    rcases hmake : (Creator.folderStep (expandHome c.home path)).op.run files with ⟨files', e | ⟨⟩⟩
    · -- the folder could not be created
      have hall : runSteps (c.submitSteps h.now idea) h.files =
          (files', .error ((Creator.folderStep (expandHome c.home path)).blame e)) := by
        rw [hsteps, runSteps_append, hwrite]
        simp only [runSteps_singleton, hmake, Except.mapError]
      rw [hmake] at hfolder
      rw [Handling.runOn_bind_of_error hfolder, hall]
      exact ⟨h.log, by rw [Host.told_nil]⟩
    · have hall : runSteps (c.submitSteps h.now idea) h.files = (files', .ok ()) := by
        rw [hsteps, runSteps_append, hwrite]
        simp only [runSteps_singleton, hmake, Except.mapError]
      rw [hmake] at hfolder
      rw [Handling.runOn_bind_of_ok hfolder, Handling.runOn_log_bind, Handling.runOn_emit,
        Host.emit_eq, hall, Creator.sequel, hpath]
      exact ⟨_, rfl⟩

/-- Once the keeper has stopped, a submission fails before anything is stored. -/
lemma runOn_submit_of_stopped (hk : h.keeper = .stopped) (c : Creator) (idea : SubmitIdea) :
    (c.submit idea).runOn h s =
      (h, s, .error (.state "State actor died: channel closed")) := by
  rw [Creator.submit]
  exact Handling.runOn_bind_of_error (runOn_changeState_of_stopped hk _)

/-- A submission sets the creator to work before anything else, whatever comes of it. -/
lemma runOn_submit_of_alive (hk : h.keeper ≠ .stopped) (c : Creator) (idea : SubmitIdea) :
    ∃ applied log, (c.submit idea).runOn h s =
      ({ h with
          state := { h.state.applyAll h.queue with creator := .overlayClosedCreatorActive }
          keeper := .running, queue := [], applied
          files := (runSteps (c.submitSteps h.now idea) h.files).1
          events := h.told (c.submitEvents h.now h.files idea), log },
        s, (runSteps (c.submitSteps h.now idea) h.files).2) := by
  obtain ⟨applied, log, hmode⟩ :=
    runOn_changeState_of_alive (s := s) hk .overlayClosedCreatorActive
  rw [Creator.submit, Handling.runOn_bind_of_ok hmode, Creator.submitEvents]
  rcases hpath : idea.newProjectPath with _ | path
  · -- no project: there is nothing to do on files
    have hnone : c.submitSteps h.now idea = [] := by rw [Creator.submitSteps, hpath]
    refine ⟨applied, log, ?_⟩
    rw [Handling.runOn_emit, Host.emit_eq, Host.told_inMode, hnone, Creator.sequel, hpath]
    rfl
  · obtain ⟨log', hproject⟩ := runOn_startProject (s := s)
      (h := h.inMode .overlayClosedCreatorActive applied log) c hpath rfl
    refine ⟨applied, log', ?_⟩
    simp only [hproject, Host.told_inMode]
    rfl

end Handlers

/-! ## Frames -/

section Frames

variable {h h' : Host} {s s' : Session}

/-- A report is sent, or the failure to send it is logged. -/
lemma run_report (m : IncomingMessage) (failure : String) :
    ∃ log, (Creator.report m failure).run h s = ({ h with log }, (s.send m).1, ()) := by
  have hsend := Handling.runOn_send (h := h) (s := s) m
  change Procedure.run (ExceptT.run (Handling.send m)) h s = _ at hsend
  rw [Creator.report, Procedure.run_bind, hsend]
  rcases (s.send m).2 with e | ⟨⟩
  · exact ⟨_, rfl⟩
  · exact ⟨h.log, rfl⟩

lemma run_report_of_isOpen (hs : s.isOpen = true) (m : IncomingMessage) (failure : String) :
    (Creator.report m failure).run h s = (h, s.enqueue [m], ()) := by
  have hsend := Handling.runOn_send (h := h) (s := s) m
  rw [Session.send_of_isOpen hs] at hsend
  change Procedure.run (ExceptT.run (Handling.send m)) h s = _ at hsend
  rw [Creator.report, Procedure.run_bind, hsend]
  rfl

namespace Creator

/-- The report of a failure to the webview that asked. -/
def failureNotice (m : OutgoingMessage) (e : HostError) : IncomingMessage :=
  m.answer (.errorNotice ("Failed to handle " ++ m.messageType ++ ": " ++ e.display))

/-- The report of a text that is no message; it answers nothing. -/
def refusalNotice (refusal : Refusal) : IncomingMessage :=
  (Payload.errorNotice ("Invalid message: " ++ refusal.message)).announcement

variable {c : Creator} {m : OutgoingMessage}

/-- What nobody knows is logged. -/
lemma runOn_meet_unknown : ∃ log, (c.meet m .unknown).runOn h s = ({ h with log }, s, .ok ()) :=
  ⟨_, rfl⟩

/-- A pong is counted and does nothing else. -/
lemma run_handleMessage_of_pong (hpong : m.messageType = Kind.pong.messageType) :
    (c.handleMessage m).run h s = (h, s.recordPong, ()) := by
  rw [handleMessage, if_pos hpong]
  rfl

lemma run_handleMessage_of_ok (hpong : m.messageType ≠ Kind.pong.messageType)
    (hm : (c.meet m m.demand).runOn h s = (h', s', .ok ())) :
    (c.handleMessage m).run h s = (h', s', ()) := by
  change Procedure.run (ExceptT.run (c.meet m m.demand)) h s = _ at hm
  rw [handleMessage, if_neg hpong, Procedure.run_bind, route_eq c hpong, hm]
  rfl

lemma run_handleMessage_of_error (hpong : m.messageType ≠ Kind.pong.messageType) {e : HostError}
    (hm : (c.meet m m.demand).runOn h s = (h', s', .error e)) :
    (c.handleMessage m).run h s =
      (report (failureNotice m e) "Failed to report handler error: ").run h' s' := by
  change Procedure.run (ExceptT.run (c.meet m m.demand)) h s = _ at hm
  rw [handleMessage, if_neg hpong, Procedure.run_bind, route_eq c hpong, hm]
  rfl

lemma run_handleFrame_of_ok {text : String} (hm : OutgoingMessage.parse text = .ok m) :
    (c.handleFrame text).run h s = (c.handleMessage m).run h s := by
  rw [handleFrame, hm]

lemma run_handleFrame_of_error {text : String} {refusal : Refusal}
    (hm : OutgoingMessage.parse text = .error refusal) :
    (c.handleFrame text).run h s =
      (report (refusalNotice refusal) "Failed to report decode error: ").run h s := by
  rw [handleFrame, hm, refusalNotice]

end Creator

end Frames

end WebviewBridge
