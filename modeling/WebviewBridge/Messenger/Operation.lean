import WebviewBridge.Messenger.Typed

/-!
# Operations on a messenger

All that a webview can ask of its messenger: to do something at once, or to send a message and
perhaps wait for the reply.  An operation that waits is over when its request has ended.
-/

namespace WebviewBridge

open Json

/-- Something that a webview asks of its messenger. -/
inductive Operation where
  /-- Done at once. -/
  | immediate (a : Action)
  /-- Sends a message and waits for the reply. -/
  | request (messageType : String) (payload : Option Value)
  /-- Sends a message, and waits for the reply if that is wanted. -/
  | send (messageType : String) (payload : Option Value) (wait : Bool)
  /-- Sends a payload of a kind and waits for a reply of another. -/
  | requestTyped (p : Payload) (reply : Kind)
  /-- Sends a payload, and waits for the reply if that is wanted. -/
  | sendTyped (p : Payload) (wait : Bool)

/-- What a webview that has sent a message gets back. -/
inductive Reply where
  /-- It did not wait for anything. -/
  | nothing
  | message (m : IncomingMessage)
  /-- The content of the reply. -/
  | content (p : Payload)
deriving DecidableEq, Repr

/-- What came back, as it is written; nothing if it did not wait. -/
def Reply.text? : Reply → Option String
  | nothing => none
  | message m => some m.wire
  | content p => some p.text

/-- An operation that was begun. -/
inductive Call where
  | finished (r : ActionResult)
  | ended (r : Except MessengerError Reply)
  /-- It waits for a request; with a kind, for content of that kind. -/
  | waiting (id : MessageId) (reply : Option Kind)

namespace Messenger

/-- Begins to wait for a request. -/
def await (reply : Option Kind) (r : Messenger × MessageId) : Messenger × Call :=
  (r.1, .waiting r.2 reply)

/-- Sends a message; a failure is all that matters of the result. -/
def dispatch (m : Messenger) (messageType : String) (payload : Option Value) : Messenger × Call :=
  match m.act (.post messageType payload) with
  | (m, .failed e) => (m, .ended (.error e))
  | (m, _) => (m, .ended (.ok .nothing))

/-- Begins an operation and does all that it sets off. -/
def begin (m : Messenger) : Operation → Messenger × Call
  | .immediate a =>
    let (m, r) := m.act a
    (m, .finished r)
  | .request messageType payload | .send messageType payload true =>
    await none (m.request messageType payload)
  | .send messageType payload false => m.dispatch messageType payload
  | .requestTyped p reply => await (some reply) (m.requestTyped p)
  | .sendTyped p true => await none (m.requestTyped p)
  | .sendTyped p false => m.dispatch p.messageType p.encode

/-- What an operation has come to, if it sent something and does not wait any more. -/
def reply? (m : Messenger) : Call → Option (Except MessengerError Reply)
  | .finished _ => none
  | .ended r => some r
  | .waiting id none => (m.outcome? id).map (·.map .message)
  | .waiting id (some kind) => (m.outcome? id).map fun o => (typedOutcome kind o).map .content

/-- A messenger without its history. -/
def forget (m : Messenger) : Messenger := { m with history := [] }

end Messenger

end WebviewBridge
