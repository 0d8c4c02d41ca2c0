import WebviewBridge.Proofs.Envelope.RoundTrip
import WebviewBridge.Proofs.Host.Handlers

/-!
# Messages that are handed over and messages that come as frames

A host takes a message as it is, or as the text frame that the connection of a webview writes for
it.  On its way as a text a payload of null becomes an absent one, but no handler tells the two
apart (`Creator.route_arriving`).  So the frame has the effects of the message itself, one by one,
and then a failure is reported.  Main statement: `Creator.handleFrame_posted`.
-/

namespace WebviewBridge

open Json

/-! ## A payload of null -/

namespace OutgoingMessage

variable (m : OutgoingMessage)

/-- An absent payload is read like one of null. -/
lemma getD_payload_arriving : m.arriving.payload.getD .null = m.payload.getD .null := by
  obtain ⟨id, destination, messageType, payload⟩ := m
  cases payload with
  | none => rfl
  | some v =>
    by_cases hnull : v = .null
    · subst hnull
      rfl
    · simp [arriving, Option.filter_some, hnull]

lemma content_arriving {α : Type} (decode : Value → Except Cause α) :
    m.arriving.content decode = m.content decode := by
  have htype : m.arriving.messageType = m.messageType := rfl
  rw [content, content, decodePayload, decodePayload, getD_payload_arriving, htype]

/-- So the message asks for the same. -/
lemma demand_arriving : m.arriving.demand = m.demand := by
  simp only [demand, content_arriving]
  rfl

end OutgoingMessage

/-! ## Handlers -/

namespace Creator

variable (c : Creator) (m : OutgoingMessage)

/-- A plan is streamed in answers, and an answer only needs to know which message it belongs to. -/
lemma streamPlan_arriving (plan : String) (script : List PlanItem) :
    streamPlan m.arriving plan script = streamPlan m plan script := by
  induction script generalizing plan with
  | nil => rfl
  | cons item rest ih =>
    cases item with
    | chunk text => simp only [streamPlan, ih]; rfl
    | failure e => rfl
    | pause ms => simp only [streamPlan, ih]

lemma draft_arriving (messages : List ChatMessage) :
    c.draft m.arriving messages = c.draft m messages :=
  streamPlan_arriving m "" (c.planner messages)

lemma meet_arriving (d : Demand) : c.meet m.arriving d = c.meet m d := by
  cases d with
  | draft content => simp only [meet, draft_arriving]
  | unreadable => rfl
  | pong => rfl
  | tokens => rfl
  | update content => rfl
  | idea content => rfl
  | close => rfl
  | unknown => rfl

variable {m}

/-- **No handler tells a payload of null from an absent one.** -/
theorem route_arriving (hpong : m.messageType ≠ Kind.pong.messageType) :
    c.route m.arriving = c.route m := by
  have hpong' : m.arriving.messageType ≠ Kind.pong.messageType := hpong
  rw [route_eq c hpong, route_eq c hpong', m.demand_arriving, c.meet_arriving]

/-! ## Frames -/

/-- What is logged when the report of a failure finds its session closed. -/
def unreported (s : Session) : LogEntry :=
  .bridge .error ("Failed to report handler error: "
    ++ (HostError.send ("Session " ++ s.id.text ++ " is closed")).display)

lemma run_report_of_isClosed {h : Host} {s : Session} (hs : s.isOpen = false)
    (notice : IncomingMessage) :
    (report notice "Failed to report handler error: ").run h s = (h.note [unreported s], s, ()) := by
  have hsend : s.send notice = (s, .error (.send ("Session " ++ s.id.text ++ " is closed"))) := by
    rw [Session.send, hs, if_neg Bool.false_ne_true]
  have hrun := Handling.runOn_send (h := h) (s := s) notice
  rw [hsend] at hrun
  change Procedure.run (ExceptT.run (Handling.send notice)) h s = _ at hrun
  rw [report, Procedure.run_bind, hrun]
  rfl

/-- Routes a message, and reports its failure to the session. -/
def routeReporting (m : OutgoingMessage) : Procedure Unit := do
  match ← (c.route m).run with
  | .ok () => pure ()
  | .error e => report (failureNotice m e) "Failed to report handler error: "

/-- What a host and a session become when a message is routed and its failure is reported. -/
inductive RoutesReporting (m : OutgoingMessage) (h : Host) (s : Session) : Host → Session → Prop
  | routed {h' : Host} {s' : Session} (hroute : (c.route m).runOn h s = (h', s', .ok ())) :
      RoutesReporting m h s h' s'
  | reported {h' : Host} {s' : Session} {e : HostError}
      (hroute : (c.route m).runOn h s = (h', s', .error e)) (hopen : s'.isOpen = true) :
      RoutesReporting m h s h' (s'.enqueue [failureNotice m e])
  /-- Nobody is there to take the report. -/
  | unreported {h' : Host} {s' : Session} {e : HostError}
      (hroute : (c.route m).runOn h s = (h', s', .error e)) (hclosed : s'.isOpen = false) :
      RoutesReporting m h s (h'.note [unreported s']) s'

lemma exists_routesReporting (m : OutgoingMessage) (h : Host) (s : Session) :
    ∃ h' s', (c.routeReporting m).run h s = (h', s', ()) ∧ c.RoutesReporting m h s h' s' := by
  rcases hroute : (c.route m).runOn h s with ⟨h₁, s₁, r⟩
  have hrun : Procedure.run (ExceptT.run (c.route m)) h s = (h₁, s₁, r) := hroute
  rw [routeReporting, Procedure.run_bind, hrun]
  cases r with
  | ok _ => exact ⟨h₁, s₁, rfl, .routed hroute⟩
  | error e =>
    by_cases hopen : s₁.isOpen = true
    · exact ⟨_, _, run_report_of_isOpen hopen _ _, .reported hroute hopen⟩
    · have hclosed : s₁.isOpen = false := by simpa using hopen
      exact ⟨_, _, run_report_of_isClosed hclosed _, .unreported hroute hclosed⟩

/-- A message that is no pong is handled by routing it. -/
lemma handleMessage_eq (hpong : m.messageType ≠ Kind.pong.messageType) :
    c.handleMessage m = c.routeReporting m := by
  rw [handleMessage, if_neg hpong]
  rfl

lemma routeReporting_arriving (hpong : m.messageType ≠ Kind.pong.messageType) :
    c.routeReporting m.arriving = c.routeReporting m := by
  rw [routeReporting, c.route_arriving hpong]
  rfl

/-- **The frame that a webview writes for a message has the effects of the message itself, one after
the other, and then that of reporting a failure**, on every host and for every session. -/
theorem handleFrame_posted {k : WebviewConnection} (hpong : m.messageType ≠ Kind.pong.messageType)
    (hm : ∀ v ∈ m.payload, v.Portable 126) (hk : k.messenger.transport = .queue) :
    ∃ text, (k.withMessenger (·.handOver m)).1.outbound = k.outbound ++ [text] ∧
      c.handleFrame text = c.routeReporting m ∧
      ∀ h s, ∃ h' s', (c.handleFrame text).run h s = (h', s', ()) ∧
        c.RoutesReporting m h s h' s' := by
  have hframe : c.handleFrame m.wire = c.routeReporting m := by
    have hpong' : m.arriving.messageType ≠ Kind.pong.messageType := hpong
    rw [c.handleFrame_of_parse (OutgoingMessage.parse_wire hm), c.handleMessage_eq hpong',
      c.routeReporting_arriving hpong]
  refine ⟨m.wire, ?_, hframe, ?_⟩
  · rw [WebviewConnection.withMessenger_handOver hk]
  · intro h s
    rw [hframe]
    exact c.exists_routesReporting m h s

/-- An update of the tokens with a payload of null fails when it is handed over, and its frame fails
in the same way: the session is told once, and the host stays as it is. -/
theorem handleFrame_posted_null :
    let m : OutgoingMessage := ⟨⟨"7"⟩, .settings, "updateNellieCredentials", some .null⟩
    let k := WebviewConnection.connect .settings {} fun n => ⟨toString n⟩
    let c : Creator := ⟨fun _ => [], ⟨"data"⟩, 0, none⟩
    let h : Host := {}
    let s : Session := { id := ⟨"s"⟩ }
    m.messageType ≠ Kind.pong.messageType ∧
      ∃ text e, (k.withMessenger (·.handOver m)).1.outbound = [text] ∧
        (c.route m).runOn h s = (h, s, .error e) ∧
        (c.handleFrame text).run h s = (h, s.enqueue [failureNotice m e], ()) := by
  intro m k c h s
  have hpong : m.messageType ≠ Kind.pong.messageType := by decide
  have hnull : ∀ v ∈ m.payload, v.Portable 126 := by
    rintro _ ⟨⟩
    exact ⟨⟨trivial, by decide⟩, trivial⟩
  obtain ⟨text, hqueue, -, hrun⟩ := handleFrame_posted c (k := k) hpong hnull rfl
  obtain ⟨e, hroute⟩ : ∃ e, (c.route m).runOn h s = (h, s, .error e) := ⟨_, rfl⟩
  obtain ⟨h', s', hframe, hroutes⟩ := hrun h s
  refine ⟨hpong, text, e, hqueue, hroute, hframe.trans ?_⟩
  cases hroutes with
  | routed hroute' => cases hroute.symm.trans hroute'
  | reported hroute' _ =>
    cases hroute.symm.trans hroute'
    rfl
  | unreported hroute' hclosed =>
    cases hroute.symm.trans hroute'
    cases hclosed

end Creator

end WebviewBridge
