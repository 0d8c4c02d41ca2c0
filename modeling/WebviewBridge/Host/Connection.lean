import WebviewBridge.Frame
import WebviewBridge.Host.Router

/-!
# The connections of a host

A host handles the frames of a connection one at a time in the order in which they arrive.  While
a handler waits, further frames wait too; other connections are not held up.  What the handlers
send is written at once.  When the peer is gone, the frames that had arrived are still handled;
the first frame written to it is lost and closes the queue.
-/

namespace WebviewBridge

/-- A handler that waits. -/
structure Waiter where
  /-- When it goes on. -/
  wakeAt : Nat
  /-- What is left to do. -/
  rest : Procedure Unit

/-- One connection of a host. -/
structure HostConnection where
  session : Session
  /-- Frames that arrived and are not handled yet. -/
  inbox : List Frame := []
  waiter : Option Waiter := none
  /-- Whether the peer is gone. -/
  lost : Bool := false
  /-- When the session is pinged next. -/
  nextPing : Option Nat := none
  /-- Frames written and not yet taken by the peer, oldest first. -/
  outbox : List String := []
  /-- Whether the host is done with the connection. -/
  ended : Bool := false

namespace HostConnection

/-- The identifier of the session. -/
def id (k : HostConnection) : SessionId := k.session.id

/-- Writes the queued frames. -/
def write (k : HostConnection) : HostConnection :=
  if k.lost then
    if k.session.queue.isEmpty then k
    else { k with session := { k.session.close with queue := [] } }
  else
    { k with outbox := k.outbox ++ k.session.queue, session := { k.session with queue := [] } }

/-- Sends a message; says whether it was queued. -/
def send (k : HostConnection) (m : IncomingMessage) : HostConnection × Bool :=
  let (session, outcome) := k.session.send m
  ({ k with session }.write, outcome.toBool)

/-- Handles frames until there are no more, one has to wait, or the connection ends. -/
def handleAll (c : Creator) (now : Nat) :
    List Frame → Host → HostConnection → Host × HostConnection
  | [], h, k => (h, { k with inbox := [], ended := k.lost })
  | .close :: _, h, k => (h, { k with inbox := [], ended := true })
  | .other :: rest, h, k => handleAll c now rest h k
  | .text content :: rest, h, k =>
    match (c.handleFrame content).proceed h k.session with
    | (h, session, .finished ()) => handleAll c now rest h { k with session }.write
    | (h, session, .paused ms more) =>
      (h, { k with session, inbox := rest, waiter := some ⟨now + ms, more⟩ }.write)

/-- Handles what has arrived, unless a handler waits. -/
def serve (c : Creator) (now : Nat) (h : Host) (k : HostConnection) : Host × HostConnection :=
  if k.waiter.isSome then (h, k) else handleAll c now k.inbox h k

/-- Goes on with the handler that waits, and then with what has arrived. -/
def resume (c : Creator) (now : Nat) (h : Host) (k : HostConnection) : Host × HostConnection :=
  match k.waiter with
  | none => (h, k)
  | some w =>
    match w.rest.proceed h k.session with
    | (h, session, .finished ()) =>
      handleAll c now k.inbox h { k with session, waiter := none }.write
    | (h, session, .paused ms more) =>
      (h, { k with session, waiter := some ⟨now + ms, more⟩ }.write)

end HostConnection

end WebviewBridge
