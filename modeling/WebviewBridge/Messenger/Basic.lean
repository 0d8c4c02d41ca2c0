import WebviewBridge.Config.Basic
import WebviewBridge.Messenger.Action
import WebviewBridge.Messenger.Pending
import WebviewBridge.Messenger.Transport

/-!
# The messenger of a webview

A messenger sends messages to one destination of the host.  A request waits for the first inbound
message with its identifier, at most for the response timeout.  Every inbound message first
answers the request that waits for it, if there is one, and is then told to the listeners for its
type; a `ping` is answered by a `pong` and goes no further.

An answer takes its request out of the table at once, but ends it only when the one who waits
takes it up (`resume`), and then only if the message of the request could be posted.  Who gives a
request up before gets nothing.

An inbound message may set off others: listeners act while they are being told, and a host may
answer while a message is being handed over.  What is still to be done stands on an agenda, and
`step` does its first task.  Tasks that a task sets off go in front of those already there, so
they are done before anything else.

All that happens is recorded in `history`, oldest first.
-/

namespace WebviewBridge

open Json

/-- Something still to be done by a messenger. -/
inductive Task where
  /-- Take in a message. -/
  | receive (message : IncomingMessage)
  /-- Tell a listener about a message. -/
  | tell (listener : Listener) (message : IncomingMessage)
  /-- Do what the listener of that label wants done. -/
  | act (label : String) (action : Action)
  /-- Record what an action of a listener gave. -/
  | note (label : String) (action : Action) (result : ActionResult)

/-- Something that happened to a messenger. -/
inductive Event where
  /-- A request was made. -/
  | requested (id : MessageId) (messageType : String)
  /-- The transport took a message. -/
  | posted (message : OutgoingMessage)
  /-- A message came in. -/
  | arrived (message : IncomingMessage)
  /-- A listener was told about a message, with its content if it asked for a kind. -/
  | told (label : String) (message : IncomingMessage) (content : Option Payload)
  /-- A listener did something. -/
  | acted (label : String) (action : Action) (result : ActionResult)
  /-- A request ended: with its answer, or with an error. -/
  | ended (id : MessageId) (outcome : Except MessengerError IncomingMessage)
  /-- Nobody waits for a request any more. -/
  | abandoned (id : MessageId)

/-- The messenger of a webview. -/
structure Messenger where
  destination : Destination
  /-- How long a request waits for its answer. -/
  timeoutMs : UInt64
  /-- What to do about a message that an absent transport cannot take. -/
  policy : UnavailablePolicy
  transport : Transport
  /-- The identifiers of the messages to come. -/
  freshIds : Nat → MessageId
  /-- The number of identifiers used so far. -/
  issued : Nat := 0
  /-- The present moment, in milliseconds. -/
  now : Nat := 0
  pending : Pending := {}
  /-- The answers that have come in for requests, as long as nobody has taken them up. -/
  replies : List (MessageId × IncomingMessage) := []
  /-- What was wrong with the requests that could not be posted, as long as nobody has taken it
  up. -/
  refusals : List (MessageId × MessengerError) := []
  registry : Registry Listener := {}
  /-- The latest subscription under each label, latest first. -/
  labels : List (String × Subscription) := []
  agenda : List Task := []
  history : List Event := []

namespace Messenger

/-- A messenger with the settings of a configuration. -/
def ofConfig (destination : Destination) (transport : Transport) (config : MessagingConfig)
    (freshIds : Nat → MessageId) : Messenger :=
  { destination, transport, freshIds
    timeoutMs := config.responseTimeoutMs
    policy := config.unavailable }

/-- Records that something happened. -/
def record (m : Messenger) (e : Event) : Messenger := { m with history := m.history ++ [e] }

/-- A new message to the messenger's destination, under an identifier of its own. -/
def compose (m : Messenger) (messageType : String) (payload : Option Value) :
    Messenger × OutgoingMessage :=
  ({ m with issued := m.issued + 1 },
    { id := m.freshIds m.issued, destination := m.destination, messageType, payload })

/-- Hands a message to the transport; gives the answers that came back at once, and whether that
went well.  A message that an absent transport cannot take is dropped where the policy says so. -/
def handOver (m : Messenger) (message : OutgoingMessage) :
    Messenger × List IncomingMessage × Except MessengerError Unit :=
  let handover := m.transport.post message
  match handover.outcome with
  | .ok () => (m.record (.posted message), handover.answers, .ok ())
  | .error e =>
    if e.isUnavailable ∧ m.policy = .ignore then (m, handover.answers, .ok ())
    else (m, handover.answers, .error (.transport e))

/-- Puts tasks in front of the agenda. -/
def schedule (m : Messenger) (tasks : List Task) : Messenger :=
  { m with agenda := tasks ++ m.agenda }

/-- Sends a message for which no answer is awaited; gives what is to be done at once, and the
identifier of the message. -/
def post (m : Messenger) (messageType : String) (payload : Option Value) :
    Messenger × List Task × Except MessengerError MessageId :=
  let (m, message) := m.compose messageType payload
  let (m, answers, outcome) := m.handOver message
  (m, answers.map .receive, outcome.map fun () => message.id)

/-- Answers the request that a message is for, if it waits: the message is kept for the one who
made the request. -/
def resolve (m : Messenger) (message : IncomingMessage) : Messenger :=
  match m.pending.answeredBy? message with
  | some w =>
    { m with pending := m.pending.forget w.id, replies := (w.id, message) :: m.replies }
  | none => m

/-- Takes in a message; gives what is to be done at once.  Everyone registered for its type at
this moment will be told, whatever is registered or removed meanwhile. -/
def receive (m : Messenger) (message : IncomingMessage) : Messenger × List Task :=
  let m := m.record (.arrived message)
  if message.messageType = Kind.ping.messageType then
    let (m, tasks, _) := m.post Kind.pong.messageType none
    (m, tasks)
  else
    let m := m.resolve message
    (m, (m.registry.listeners message.messageType).map (Task.tell · message))

/-- The latest subscription under a label. -/
def subscription? (m : Messenger) (label : String) : Option Subscription := m.labels.lookup label

/-- Removes a registration. -/
def unregister (m : Messenger) (s : Subscription) : Messenger × ActionResult :=
  let (registry, wasLive) := m.registry.unregister s
  ({ m with registry }, .unregistered wasLive)

/-- Carries out an action; gives what is to be done at once, and the result. -/
def perform (m : Messenger) : Action → Messenger × List Task × ActionResult
  | .post messageType payload =>
    let (m, tasks, outcome) := m.post messageType payload
    (m, tasks, .ofPost outcome)
  | .frame text =>
    match IncomingMessage.parse text with
    | .ok message => (m, [.receive message], .received)
    | .error r => (m, [], .failed (.protocol (.envelope r.message)))
  | .receive message => (m, [.receive message], .received)
  | .register label messageType kind reaction =>
    let (registry, s) := m.registry.register messageType { label, kind, reaction }
    ({ m with registry, labels := (label, s) :: m.labels }, [], .registered s)
  | .unregister label =>
    match m.subscription? label with
    | some s =>
      let (m, r) := m.unregister s
      (m, [], r)
    | none => (m, [], .unknownLabel)
  | .unregisterFrom label messageType =>
    match m.subscription? label with
    | some s =>
      let (m, r) := m.unregister ⟨messageType, s.id⟩
      (m, [], r)
    | none => (m, [], .unknownLabel)
  | .count messageType => (m, [], .counted (m.registry.count messageType))
  | .describe => (m, [], .described m.destination m.timeoutMs.toNat)

/-- Tells a listener about a message.  A listener that asked for a kind is passed over when the
content is not of that kind. -/
def tell (m : Messenger) (l : Listener) (message : IncomingMessage) : Messenger × List Task :=
  let reactions := (l.reaction message).map (Task.act l.label)
  match l.kind with
  | none => (m.record (.told l.label message none), reactions)
  | some k =>
    match k.decodePayload (some message.data) with
    | .ok content => (m.record (.told l.label message (some content)), reactions)
    | .error _ => (m, [])

/-- Does one task; gives those that it sets off. -/
def carryOut (m : Messenger) : Task → Messenger × List Task
  | .receive message => m.receive message
  | .tell l message => m.tell l message
  | .act label action =>
    let (m, tasks, result) := m.perform action
    (m, tasks ++ [.note label action result])
  | .note label action result => (m.record (.acted label action result), [])

/-- Does the first task of the agenda. -/
def step (m : Messenger) : Messenger :=
  match m.agenda with
  | [] => m
  | t :: rest =>
    let (m, tasks) := { m with agenda := rest }.carryOut t
    m.schedule tasks

/-- Does up to a number of tasks. -/
def work : Nat → Messenger → Messenger
  | 0, m => m
  | n + 1, m => if m.agenda.isEmpty then m else work n m.step

/-! ## What becomes of requests -/

/-- What there is for the one who waits for a request: that it could not be posted, or else the
answer that has come in, or else that it has waited long enough. -/
def news? (m : Messenger) (id : MessageId) : Option (Except MessengerError IncomingMessage) :=
  match m.refusals.lookup id, m.replies.lookup id with
  | some e, _ => some (.error e)
  | none, some reply => some (.ok reply)
  | none, none => (m.pending.overdue? id m.now).map fun w =>
    .error (.timeout w.messageType m.timeoutMs.toNat)

/-- Nobody waits for a request any more. -/
def dismiss (m : Messenger) (id : MessageId) : Messenger :=
  { m with
    pending := m.pending.forget id
    replies := m.replies.filter (·.1 ≠ id)
    refusals := m.refusals.filter (·.1 ≠ id) }

/-- The one who waits for a request takes up what there is for it, which ends the request; if there
is nothing, it waits on. -/
def resume (m : Messenger) (id : MessageId) : Messenger :=
  match m.news? id with
  | some outcome => (m.dismiss id).record (.ended id outcome)
  | none => m

/-- Whether a request has been made and has neither ended nor been given up. -/
def isOpen (m : Messenger) (id : MessageId) : Bool :=
  id ∈ m.pending.ids ∨ (m.replies.lookup id).isSome ∨ (m.refusals.lookup id).isSome

/-- Stops waiting for a request, whether or not its answer has come in. -/
def abandon (m : Messenger) (id : MessageId) : Messenger :=
  if m.isOpen id then (m.dismiss id).record (.abandoned id) else m

/-- The requests for which there are news. -/
def ready (m : Messenger) : List MessageId :=
  m.refusals.map (·.1) ++ m.replies.map (·.1) ++ (m.pending.due m.now).map (·.id)

/-- Ends the requests for which there are news. -/
def conclude (m : Messenger) : Messenger := m.ready.foldl resume m

/-- The number of tasks after which a messenger is left alone: more than any exchange takes that
comes to an end. -/
def patience : Nat := 1000000

/-- Does all that is to be done, and then ends the requests for which there are news. -/
def settle (m : Messenger) : Messenger := (m.work patience).conclude

/-! ## What is done from outside -/

/-- Carries out an action and all that it sets off. -/
def act (m : Messenger) (action : Action) : Messenger × ActionResult :=
  let (m, tasks, result) := m.perform action
  ((m.schedule tasks).settle, result)

/-- Keeps what was wrong with the message of a request, if it could not be posted. -/
def keepRefusal (m : Messenger) (id : MessageId) : Except MessengerError Unit → Messenger
  | .ok () => m
  | .error e => { m with refusals := (id, e) :: m.refusals }

/-- Makes a request, whose answer is awaited from before it is posted; gives its identifier.  What
the transport answers at once is taken in even if it fails in the end; the outcome is recorded under
the identifier when the request ends. -/
def beginRequest (m : Messenger) (messageType : String) (payload : Option Value) :
    Messenger × MessageId :=
  let (m, message) := m.compose messageType payload
  let entry : Waiting := ⟨message.id, messageType, m.now + m.timeoutMs.toNat⟩
  let m := { m with pending := m.pending.track entry }.record (.requested message.id messageType)
  let (m, answers, outcome) := m.handOver message
  ((m.schedule (answers.map .receive)).keepRefusal message.id outcome, message.id)

/-- Makes a request and does all that it sets off. -/
def request (m : Messenger) (messageType : String) (payload : Option Value) :
    Messenger × MessageId :=
  let (m, id) := m.beginRequest messageType payload
  (m.settle, id)

/-- Lets time pass, and then ends the requests for which there are news. -/
def advance (m : Messenger) (ms : Nat) : Messenger := { m with now := m.now + ms }.conclude

/-- Puts another transport in the place of the present one. -/
def reroute (m : Messenger) (t : Transport) : Messenger := { m with transport := t }

/-- Whether a registration is live. -/
def isLive (m : Messenger) (s : Subscription) : Bool := m.registry.isLive s

/-- The outcome of a request, once it has ended. -/
def outcome? (m : Messenger) (id : MessageId) : Option (Except MessengerError IncomingMessage) :=
  m.history.findSome? fun
    | .ended i o => if i = id then some o else none
    | _ => none

end Messenger

end WebviewBridge
