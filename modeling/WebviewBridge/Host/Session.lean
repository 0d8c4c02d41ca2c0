import WebviewBridge.Catalog.Payload
import WebviewBridge.Envelope
import WebviewBridge.Error

/-!
# Sessions

A session is one webview's connection as the host's handlers see it: a queue of frames that go
out, and a count of the pongs that came in.  Once the queue is closed nothing can be sent.
-/

namespace WebviewBridge

open Json

/-- The identifier of a session. -/
structure SessionId where
  text : String
deriving DecidableEq, Repr, Inhabited

/-- The connection of one webview, as handlers see it. -/
structure Session where
  id : SessionId
  isOpen : Bool := true
  /-- The frames that go out, oldest first. -/
  queue : List String := []
  /-- The pongs that came in. -/
  pongs : Nat := 0
deriving DecidableEq, Repr, Inhabited

namespace Session

/-- Puts a message into the queue, unless it is closed. -/
def send (s : Session) (message : IncomingMessage) : Session × Except HostError Unit :=
  if s.isOpen then ({ s with queue := s.queue ++ [message.wire] }, .ok ())
  else (s, .error (.send ("Session " ++ s.id.text ++ " is closed")))

/-- Counts a pong. -/
def recordPong (s : Session) : Session := { s with pongs := s.pongs + 1 }

/-- Closes the queue. -/
def close (s : Session) : Session := { s with isOpen := false }

@[simp] theorem send_id (s : Session) (m : IncomingMessage) : (s.send m).1.id = s.id := by
  unfold send; split <;> rfl

@[simp] theorem send_pongs (s : Session) (m : IncomingMessage) :
    (s.send m).1.pongs = s.pongs := by
  unfold send; split <;> rfl

@[simp] theorem send_isOpen (s : Session) (m : IncomingMessage) :
    (s.send m).1.isOpen = s.isOpen := by
  unfold send; split <;> rfl

end Session

/-! ## The messages of a host -/

namespace OutgoingMessage

/-- The answer to a request with a typed payload. -/
def answer (request : OutgoingMessage) (p : Payload) : IncomingMessage :=
  .replyTo request p.messageType p.data

/-- The answer to a request that only says that it was carried out. -/
def acknowledgement (request : OutgoingMessage) : IncomingMessage :=
  .replyTo request request.messageType .null

end OutgoingMessage

/-- The message that carries a typed payload and answers nothing. -/
def Payload.announcement (p : Payload) : IncomingMessage := .broadcast p.messageType p.data

end WebviewBridge
