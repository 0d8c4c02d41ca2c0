import WebviewBridge.Catalog.Payload
import WebviewBridge.Envelope
import WebviewBridge.Error
import WebviewBridge.Secret

/-!
# Payloads outside the catalogue

Any other payload is a record of values and secrets.  One that holds a secret cannot be written,
so it is never sent.
-/

namespace WebviewBridge

open Json

/-- What a field of a record holds. -/
inductive CustomField where
  | value (v : Value)
  | secret (s : Secret)
deriving DecidableEq, Repr

/-- A payload of a type of its own. -/
structure CustomPayload where
  messageType : String
  fields : List (String × CustomField)
deriving DecidableEq, Repr

namespace CustomPayload

/-- A field as a value, or the refusal of a secret to be written. -/
def encodeField : String × CustomField → Except String (String × Value)
  | (name, .value v) => .ok (name, v)
  | (name, .secret s) => s.write.map fun text => (name, .str text)

/-- The payload as a value. -/
def encode (p : CustomPayload) : Except ProtocolError Value :=
  match p.fields.mapM encodeField with
  | .ok ms => .ok (Value.object ms)
  | .error reason => .error (.encode p.messageType reason)

/-- The message that carries the payload and answers nothing. -/
def announcement (p : CustomPayload) : Except ProtocolError IncomingMessage :=
  p.encode.map (IncomingMessage.broadcast p.messageType)

/-- The message that carries the payload as the answer to a request. -/
def answerTo (p : CustomPayload) (request : OutgoingMessage) :
    Except ProtocolError IncomingMessage :=
  p.encode.map (IncomingMessage.replyTo request p.messageType)

end CustomPayload

end WebviewBridge
