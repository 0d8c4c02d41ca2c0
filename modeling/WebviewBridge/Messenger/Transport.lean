import WebviewBridge.Envelope
import WebviewBridge.Error

/-!
# Transports

The way from a webview to its host.  A transport takes a message or refuses it at once; it never
waits for the host.  A host in the same process may answer while the message is being handed
over, even if the handover fails in the end.
-/

namespace WebviewBridge

/-- What comes of handing a message over. -/
structure Handover where
  /-- What comes back before the handover is over, whether or not the message is taken then. -/
  answers : List IncomingMessage := []
  outcome : Except TransportError Unit := .ok ()

/-- What becomes of a message that is handed over. -/
structure Transport where
  post : OutgoingMessage → Handover

namespace Transport

/-- A queue that a host reads from. -/
def queue : Transport := ⟨fun _ => {}⟩

/-- A way that fails for every message. -/
def failing (e : TransportError) : Transport := ⟨fun _ => { outcome := .error e }⟩

/-- A queue whose reader is gone. -/
def abandonedQueue : Transport := failing (.unavailable "host receiver dropped")

/-- No host at all. -/
def detached : Transport where
  post m :=
    let detail := "no host channel attached (dropping " ++ m.messageType ++ ")"
    { outcome := .error (.unavailable detail) }

/-- A host that answers during the handover. -/
def answering (answers : OutgoingMessage → List IncomingMessage) : Transport :=
  ⟨fun m => { answers := answers m }⟩

/-- A connection that has closed. -/
def closed : Transport := failing (.unavailable "bridge connection closed")

end Transport

end WebviewBridge
