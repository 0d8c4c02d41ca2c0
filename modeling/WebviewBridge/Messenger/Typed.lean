import WebviewBridge.Messenger.Basic

/-!
# Typed requests

A typed request sends the content of a payload and decodes the answer as content of the expected
kind.
-/

namespace WebviewBridge

namespace Messenger

/-- Makes a request with a typed payload. -/
def requestTyped (m : Messenger) (p : Payload) : Messenger × MessageId :=
  m.request p.messageType p.encode

end Messenger

/-- The outcome of a typed request whose answer should be of a kind: the content of the answer, or
what is wrong with it. -/
def typedOutcome (kind : Kind) (outcome : Except MessengerError IncomingMessage) :
    Except MessengerError Payload :=
  match outcome with
  | .error e => .error e
  | .ok reply =>
    match decodePayload kind.decode reply.messageType (some reply.data) with
    | .ok p => .ok p
    | .error e => .error (.protocol e)

end WebviewBridge
