import WebviewBridge.Proofs.Host.Handlers

/-!
# Drafting a plan

A generator gives a plan piece by piece, up to its end or to its first failure.  The webview that
asked is told all text so far after every piece, and then once how it ended
(`OutgoingMessage.planMessages`).  Nothing that comes after the first failure is told, and once the
session is closed the handler fails at the next message that it tries to send.  Main statement:
`Creator.route_drafts`.
-/

namespace WebviewBridge

open Json

/-! ## What a generator gives -/

namespace PlanItem

/-- The piece that an item adds to a plan. -/
def piece? : PlanItem → Option String
  | chunk text => some text
  | _ => none

/-- The failure that an item tells. -/
def failure? : PlanItem → Option HostError
  | failure e => some e
  | _ => none

/-- The pieces that come before the first failure. -/
def pieces (script : List PlanItem) : List String :=
  (script.takeWhile (·.failure?.isNone)).filterMap piece?

/-- The first failure, if there is one. -/
def firstFailure? (script : List PlanItem) : Option HostError := script.findSome? failure?

end PlanItem

open PlanItem

/-! ## What a webview is told -/

namespace OutgoingMessage

/-- The news of a plan that has got as far as some pieces. -/
def planSoFar (m : OutgoingMessage) (ps : List String) : IncomingMessage where
  messageType := "planCreationStream"
  data := .obj [("plan", .str (String.join ps))]
  id := some m.id

/-- The news of how a plan ended: it is complete, or this failure came instead. -/
def planOutcome (m : OutgoingMessage) (ps : List String) : Option HostError → IncomingMessage
  | none =>
    { messageType := "planCreationCompleted"
      data := .obj [("plan", .str (String.join ps))]
      id := some m.id }
  | some e =>
    { messageType := "error"
      data := .obj [("text", .str ("Failed to create plan: " ++ e.planNotice))]
      id := some m.id }

/-- All news of a plan, in order: one message for each piece, and then one for the end. -/
def planMessages (m : OutgoingMessage) (script : List PlanItem) : List IncomingMessage :=
  (List.range (pieces script).length).map (fun k => m.planSoFar ((pieces script).take (k + 1)))
    ++ [m.planOutcome (pieces script) (firstFailure? script)]

/-- The payloads of a script carry the news of the plan, which goes on from what came before. -/
lemma map_answer_planPayloads (m : OutgoingMessage) (before : List String)
    (script : List PlanItem) :
    (planPayloads (String.join before) script).map m.answer =
      (List.range (pieces script).length).map
          (fun k => m.planSoFar (before ++ (pieces script).take (k + 1)))
        ++ [m.planOutcome (before ++ pieces script) (firstFailure? script)] := by
  induction script generalizing before with
  | nil =>
    have hpieces : pieces [] = [] := rfl
    rw [hpieces, List.append_nil]
    rfl
  | cons item rest ih =>
    cases item with
    | chunk text =>
      have hpieces : pieces (.chunk text :: rest) = text :: pieces rest := rfl
      have hplan : String.join before ++ text = String.join (before ++ [text]) := by
        simp
      have hrest := ih (before ++ [text])
      simp only [List.append_assoc, List.singleton_append] at hrest
      rw [planPayloads, List.map_cons, hplan, hrest, hpieces, List.length_cons,
        List.range_succ_eq_map, List.map_cons, List.map_map]
      rfl
    | failure e =>
      have hpieces : pieces (.failure e :: rest) = [] := rfl
      rw [hpieces, List.append_nil]
      rfl
    | pause ms => exact ih before

lemma map_answer_planPayloads_nil (m : OutgoingMessage) (script : List PlanItem) :
    (planPayloads "" script).map m.answer = m.planMessages script :=
  m.map_answer_planPayloads [] script

end OutgoingMessage

/-! ## Messages that are tried to be sent -/

/-- The message that an effect sends. -/
def Effect.message? : Effect → Option IncomingMessage
  | send m => some m
  | _ => none

namespace Procedure

variable {α β : Type}

/-- The messages that a run tries to send, in order. -/
def attempts : Procedure α → Host → Session → List IncomingMessage
  | done _, _, _ => []
  | perform e next, h, s =>
    e.message?.toList
      ++ (next (h.perform s e).2.2).attempts (h.perform s e).1 (h.perform s e).2.1

/-- Runs a procedure on a session that somebody else closes, once it has taken some messages. -/
def runClosing : Procedure α → (taken : Nat) → Host → Session → Host × Session × α
  | done a, _, h, s => (h, s, a)
  | perform e next, n, h, s =>
    let sending := e.message?.toList.length
    let (h, s, x) := h.perform (if n < sending then s.close else s) e
    (next x).runClosing (n - sending) h s

variable {h : Host} {s : Session}

lemma attempts_send (m : IncomingMessage) (next : Except HostError Unit → Procedure α) :
    (perform (.send m) next).attempts h s =
      m :: (next (s.send m).2).attempts h (s.send m).1 := rfl

/-- The message that comes too late is refused. -/
lemma runClosing_send_zero (m : IncomingMessage) (next : Except HostError Unit → Procedure α) :
    (perform (.send m) next).runClosing 0 h s =
      (next (s.close.send m).2).runClosing 0 h (s.close.send m).1 := rfl

/-- One that comes in time is sent. -/
lemma runClosing_send_succ (m : IncomingMessage) (next : Except HostError Unit → Procedure α)
    (n : Nat) :
    (perform (.send m) next).runClosing (n + 1) h s =
      (next (s.send m).2).runClosing n h (s.send m).1 := rfl

end Procedure

/-- What a session answers that is closed. -/
def Session.closedError (s : Session) : HostError := .send ("Session " ++ s.id.text ++ " is closed")

lemma Session.send_of_isClosed {s : Session} (hs : s.isOpen = false) (m : IncomingMessage) :
    s.send m = (s, .error s.closedError) := by
  rw [send, hs, if_neg Bool.false_ne_true]
  rfl

namespace Handling

variable {α β : Type} {h : Host} {s s' : Session}

/-- The messages that a handler tries to send, in order. -/
def attemptsOn (x : Handling α) (h : Host) (s : Session) : List IncomingMessage :=
  Procedure.attempts (ExceptT.run x) h s

/-- Runs a handler on a session that somebody else closes, once it has taken some messages. -/
def runClosingOn (x : Handling α) (taken : Nat) (h : Host) (s : Session) :
    Host × Session × Except HostError α :=
  Procedure.runClosing (ExceptT.run x) taken h s

/-- A handler that begins by sending a message goes on with the answer of the session. -/
lemma run_send_bind (m : IncomingMessage) (f : Unit → Handling β) :
    ExceptT.run (send m >>= f) = .perform (.send m) (ExceptT.bindCont f) := rfl

lemma attemptsOn_send_bind_of_ok {m : IncomingMessage} (hm : s.send m = (s', .ok ()))
    (f : Unit → Handling β) :
    (send m >>= f).attemptsOn h s = m :: (f ()).attemptsOn h s' := by
  rw [attemptsOn, run_send_bind, Procedure.attempts_send, hm]
  rfl

lemma attemptsOn_send_bind_of_error {m : IncomingMessage} {e : HostError}
    (hm : s.send m = (s', .error e)) (f : Unit → Handling β) :
    (send m >>= f).attemptsOn h s = [m] := by
  rw [attemptsOn, run_send_bind, Procedure.attempts_send, hm]
  rfl

lemma runClosingOn_log_bind (level : LogLevel) (message : String) (f : Unit → Handling β)
    (n : Nat) :
    (log level message >>= f).runClosingOn n h s =
      (f ()).runClosingOn n (h.note [.bridge level message]) s := rfl

lemma runClosingOn_send_zero (m : IncomingMessage) :
    (send m).runClosingOn 0 h s = (h, s.close, .error s.closedError) := by
  have hclosed : s.close.send m = (s.close, .error s.closedError) := Session.send_of_isClosed rfl m
  change (h, s.close.send m) = _
  rw [hclosed]

lemma runClosingOn_send_bind_zero (m : IncomingMessage) (f : Unit → Handling β) :
    (send m >>= f).runClosingOn 0 h s = (h, s.close, .error s.closedError) := by
  have hclosed : s.close.send m = (s.close, .error s.closedError) := Session.send_of_isClosed rfl m
  rw [runClosingOn, run_send_bind, Procedure.runClosing_send_zero, hclosed]
  rfl

lemma runClosingOn_send_bind_succ (hs : s.isOpen = true) (m : IncomingMessage)
    (f : Unit → Handling β) (n : Nat) :
    (send m >>= f).runClosingOn (n + 1) h s = (f ()).runClosingOn n h (s.enqueue [m]) := by
  rw [runClosingOn, run_send_bind, Procedure.runClosing_send_succ, Session.send_of_isOpen hs]
  rfl

end Handling

/-! ## Drafts -/

namespace Creator

variable {h : Host} {s : Session}

/-- All that is tried to be sent to an open session is the news of the plan. -/
lemma attemptsOn_streamPlan_of_isOpen (hs : s.isOpen = true) (m : OutgoingMessage) (plan : String)
    (script : List PlanItem) :
    (streamPlan m plan script).attemptsOn h s = (planPayloads plan script).map m.answer := by
  induction script generalizing plan h s with
  | nil => rfl
  | cons item rest ih =>
    cases item with
    | chunk text =>
      rw [streamPlan, Handling.attemptsOn_send_bind_of_ok (Session.send_of_isOpen hs _),
        ih (s := s.enqueue [m.answer (.planStream (plan ++ text))]) hs (plan ++ text)]
      rfl
    | failure e => rfl
    | pause ms => exact ih hs plan

/-- A closed session refuses the first news of a plan, and is told no more. -/
lemma runOn_streamPlan_of_isClosed (hs : s.isOpen = false) (m : OutgoingMessage) (plan : String)
    (script : List PlanItem) :
    (∃ log, (streamPlan m plan script).runOn h s = ({ h with log }, s, .error s.closedError)) ∧
      (streamPlan m plan script).attemptsOn h s =
        ((planPayloads plan script).map m.answer).take 1 := by
  induction script generalizing plan h with
  | nil =>
    refine ⟨?_, rfl⟩
    rw [streamPlan, Handling.runOn_log_bind, Handling.runOn_send, Session.send_of_isClosed hs]
    exact ⟨_, rfl⟩
  | cons item rest ih =>
    cases item with
    | chunk text =>
      have hrefused := Session.send_of_isClosed hs (m.answer (.planStream (plan ++ text)))
      have hsend := Handling.runOn_send (h := h) (s := s) (m.answer (.planStream (plan ++ text)))
      rw [hrefused] at hsend
      rw [streamPlan]
      exact ⟨⟨h.log, Handling.runOn_bind_of_error hsend⟩,
        Handling.attemptsOn_send_bind_of_error hrefused _⟩
    | failure e =>
      refine ⟨?_, rfl⟩
      rw [streamPlan, Handling.runOn_log_bind, Handling.runOn_send, Session.send_of_isClosed hs]
      exact ⟨_, rfl⟩
    | pause ms => exact ih plan

/-- A session that is closed while the plan is drafted has got the news up to then. -/
lemma runClosingOn_streamPlan (hs : s.isOpen = true) (m : OutgoingMessage) (plan : String)
    (script : List PlanItem) {n : Nat} (hn : n < (planPayloads plan script).length) :
    ∃ log, (streamPlan m plan script).runClosingOn n h s =
      ({ h with log }, (s.enqueue (((planPayloads plan script).map m.answer).take n)).close,
        .error s.closedError) := by
  induction script generalizing plan n h s with
  | nil =>
    obtain rfl : n = 0 := Nat.lt_one_iff.1 hn
    rw [streamPlan, Handling.runClosingOn_log_bind, Handling.runClosingOn_send_zero,
      List.take_zero, Session.enqueue_nil]
    exact ⟨_, rfl⟩
  | cons item rest ih =>
    cases item with
    | chunk text =>
      rw [streamPlan]
      cases n with
      | zero =>
        rw [Handling.runClosingOn_send_bind_zero, List.take_zero, Session.enqueue_nil]
        exact ⟨h.log, rfl⟩
      | succ n =>
        have hrest : n < (planPayloads (plan ++ text) rest).length := Nat.lt_of_succ_lt_succ hn
        obtain ⟨log, hlast⟩ := ih (h := h)
          (s := s.enqueue [m.answer (.planStream (plan ++ text))]) hs (plan ++ text) hrest
        refine ⟨log, ?_⟩
        rw [Handling.runClosingOn_send_bind_succ hs, hlast, Session.enqueue_enqueue]
        rfl
    | failure e =>
      obtain rfl : n = 0 := Nat.lt_one_iff.1 hn
      rw [streamPlan, Handling.runClosingOn_log_bind, Handling.runClosingOn_send_zero,
        List.take_zero, Session.enqueue_nil]
      exact ⟨_, rfl⟩
    | pause ms => exact ih hs plan hn

/-- What a webview gets to know of a plan that it has asked for, as the generator gives it. -/
structure Drafts (c : Creator) (m : OutgoingMessage) (script : List PlanItem) : Prop where
  /-- An open session gets all news of the plan, and no more is even tried to be sent. -/
  told (h : Host) (s : Session) (hs : s.isOpen = true) :
    (∃ log, (c.route m).runOn h s = ({ h with log }, s.enqueue (m.planMessages script), .ok ())) ∧
      (c.route m).attemptsOn h s = m.planMessages script
  /-- The same comes of the frame that asked. -/
  served (h : Host) (s : Session) (hs : s.isOpen = true) (text : String)
    (htext : OutgoingMessage.parse text = .ok m) :
    ∃ log, (c.handleFrame text).run h s = ({ h with log }, s.enqueue (m.planMessages script), ())
  /-- A closed session gets nothing, and the handler fails at the first news. -/
  refused (h : Host) (s : Session) (hs : s.isOpen = false) :
    (∃ log, (c.route m).runOn h s = ({ h with log }, s, .error s.closedError)) ∧
      (c.route m).attemptsOn h s = (m.planMessages script).take 1
  /-- A session that is closed meanwhile has got the news up to then, and the handler fails at the
  next. -/
  interrupted (h : Host) (s : Session) (hs : s.isOpen = true) (n : Nat)
    (hn : n < (m.planMessages script).length) :
    ∃ log, (c.route m).runClosingOn n h s =
      ({ h with log }, (s.enqueue ((m.planMessages script).take n)).close, .error s.closedError)

/-- A request for a plan is met by drafting it. -/
lemma route_eq_streamPlan (c : Creator) {m : OutgoingMessage} {messages : List ChatMessage}
    (hdestination : m.destination = .creator)
    (htype : m.messageType = Kind.processLlm.messageType)
    (hcontent : ChatMessage.decodeRequest (m.payload.getD .null) = .ok messages) :
    m.demand = .draft (.ok messages) ∧ c.route m = streamPlan m "" (c.planner messages) := by
  have hpong : m.messageType ≠ Kind.pong.messageType := by
    rw [htype]
    decide
  have hdemand : m.demand = .draft (.ok messages) := by
    have hok : m.content ChatMessage.decodeRequest = .ok messages :=
      OutgoingMessage.content_eq_ok_iff.2 hcontent
    simp only [OutgoingMessage.demand, if_neg hpong, hdestination, if_pos htype, hok]
  refine ⟨hdemand, ?_⟩
  rw [route_eq c hpong, hdemand]
  rfl

/-- **A webview follows a plan as it grows.**  Whoever asks for a plan is told all text so far after
each piece, and then once how the plan ended: whole, or with the first failure that the generator
told, by the bare message of a plan error and by the full text of any other.  Every message answers
the request.  A closed session gets nothing more. -/
theorem route_drafts (c : Creator) {m : OutgoingMessage} {messages : List ChatMessage}
    (hdestination : m.destination = .creator)
    (htype : m.messageType = Kind.processLlm.messageType)
    (hcontent : ChatMessage.decodeRequest (m.payload.getD .null) = .ok messages) :
    c.Drafts m (c.planner messages) := by
  obtain ⟨hdemand, hroute⟩ := c.route_eq_streamPlan hdestination htype hcontent
  have hpong : m.messageType ≠ Kind.pong.messageType := by
    rw [htype]
    decide
  have hnews := m.map_answer_planPayloads_nil (c.planner messages)
  constructor
  case told =>
    intro h s hs
    rw [hroute, ← hnews]
    exact ⟨runOn_streamPlan_of_isOpen hs m "" _, attemptsOn_streamPlan_of_isOpen hs m "" _⟩
  case served =>
    intro h s hs text htext
    obtain ⟨log, hrun⟩ := runOn_streamPlan_of_isOpen (h := h) hs m "" (c.planner messages)
    rw [← hroute, route_eq c hpong, hnews] at hrun
    exact ⟨log, by rw [run_handleFrame_of_ok htext, run_handleMessage_of_ok hpong hrun]⟩
  case refused =>
    intro h s hs
    rw [hroute, ← hnews]
    exact runOn_streamPlan_of_isClosed hs m "" _
  case interrupted =>
    intro h s hs n hn
    rw [← hnews, List.length_map] at hn
    rw [hroute, ← hnews]
    exact runClosingOn_streamPlan hs m "" _ hn

/-- A generator that gives a piece, an empty one after a while, and then fails; what it would give
afterwards is not told.  Of a failure that is none of the plan the person is told all, its place
included. -/
theorem route_drafts_failing :
    let script (e : HostError) : List PlanItem :=
      [.chunk "a", .pause 5, .chunk "", .failure e, .chunk "b"]
    let c (e : HostError) : Creator := ⟨fun _ => script e, ⟨"data"⟩, 0, none⟩
    let m : OutgoingMessage :=
      ⟨⟨"7"⟩, .creator, "ProcessLLM", some (.obj [("messages", .arr [])])⟩
    let news (text : String) : List IncomingMessage :=
      [⟨"planCreationStream", .obj [("plan", .str "a")], some ⟨"7"⟩⟩,
        ⟨"planCreationStream", .obj [("plan", .str "a")], some ⟨"7"⟩⟩,
        ⟨"error", .obj [("text", .str text)], some ⟨"7"⟩⟩]
    let place : SourceLocation := ⟨"planner", 7, 3⟩
    m.destination = .creator ∧ m.messageType = Kind.processLlm.messageType ∧
      ChatMessage.decodeRequest (m.payload.getD .null) = .ok [] ∧
      (∀ e, (c e).Drafts m (script e)) ∧
      m.planMessages (script (.plan "no more" place)) = news "Failed to create plan: no more" ∧
      m.planMessages (script (.io "disk full" place)) =
        news "Failed to create plan: IO Error: disk full [planner:7:3]" := by
  intro script c m news place
  have hcontent : ChatMessage.decodeRequest (m.payload.getD .null) = .ok [] := rfl
  exact ⟨rfl, rfl, hcontent, fun e => (c e).route_drafts rfl rfl hcontent, by decide, by decide⟩

end Creator

end WebviewBridge
