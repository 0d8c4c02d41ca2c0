import WebviewBridge.Frame
import WebviewBridge.Messenger.Basic

/-!
# The connection of a webview

A webview's messenger posts into the queue of a connection.  Frames leave the queue one at a time
in the order in which they were posted, and every text frame that comes in is taken in by the
messenger.  The connection closes for good when the host closes it, when reading or writing fails
and when the webview drops it; what is posted afterwards finds no transport.
-/

namespace WebviewBridge

/-- The connection of a webview to its host. -/
structure WebviewConnection where
  messenger : Messenger
  isOpen : Bool := true
  /-- Whether frames are still read. -/
  reading : Bool := true
  /-- Whether frames are still written. -/
  writing : Bool := true
  /-- The frames that wait to be written. -/
  outbound : List String := []
  /-- The frames written so far. -/
  written : List String := []

/-- The texts of the messages that the transport took. -/
def postedFrames (events : List Event) : List String :=
  events.filterMap fun
    | .posted m => some m.wire
    | _ => none

namespace WebviewConnection

/-- A new connection for a destination. -/
def connect (destination : Destination) (config : MessagingConfig) (freshIds : Nat → MessageId) :
    WebviewConnection :=
  { messenger := .ofConfig destination .queue config freshIds }

/-- Lets the messenger do something; what it posts goes into the queue. -/
def withMessenger {α : Type} (c : WebviewConnection) (f : Messenger → Messenger × α) :
    WebviewConnection × α :=
  let (m, x) := f c.messenger
  let posted := postedFrames (m.history.drop c.messenger.history.length)
  ({ c with messenger := m, outbound := c.outbound ++ posted }, x)

/-- Closes the connection for what is posted from now on. -/
def shut (c : WebviewConnection) : WebviewConnection :=
  { c with isOpen := false, messenger := c.messenger.reroute .closed }

/-- Takes in a frame of the host.  A text that writes no message is passed over. -/
def receive (c : WebviewConnection) (frame : Frame) : WebviewConnection :=
  if c.reading then
    match frame with
    | .text content => (c.withMessenger (·.act (.frame content))).1
    | .other => c
    | .close => { c.shut with reading := false }
  else c

/-- Ends reading because it failed. -/
def readFailed (c : WebviewConnection) : WebviewConnection :=
  if c.reading then { c.shut with reading := false } else c

/-- Writes the first frame of the queue. -/
def write (c : WebviewConnection) : WebviewConnection :=
  match c.writing, c.outbound with
  | true, f :: rest => { c with outbound := rest, written := c.written ++ [f] }
  | _, _ => c

/-- Ends writing because it failed for the first frame of the queue. -/
def writeFailed (c : WebviewConnection) : WebviewConnection :=
  match c.writing, c.outbound with
  | true, _ :: rest => { c.shut with writing := false, outbound := rest }
  | _, _ => c

/-- Writes all frames of the queue. -/
def flush (c : WebviewConnection) : WebviewConnection :=
  if c.writing then { c with outbound := [], written := c.written ++ c.outbound } else c

/-- The webview drops the connection. -/
def drop (c : WebviewConnection) : WebviewConnection :=
  { c.shut with reading := false, writing := false }

end WebviewConnection

end WebviewBridge
