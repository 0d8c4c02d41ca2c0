import WebviewBridge.Host.Basic
import WebviewBridge.Host.Creator
import WebviewBridge.Host.Settings

/-!
# Handling frames

A text frame of a session is decoded and goes to the handler of its destination.  Pongs are only
counted.  A frame that cannot be decoded, and a message that cannot be handled, are reported to
the session; when that fails too, nothing more is done.
-/

namespace WebviewBridge

open Json

namespace Creator

/-- Handles a message at its destination. -/
def route (c : Creator) (m : OutgoingMessage) : Handling Unit :=
  match m.destination with
  | .creator => c.handle m
  | .settings => Settings.handle m

/-- Sends a report to the session.  A report that cannot be sent is logged. -/
def report (m : IncomingMessage) (failure : String) : Procedure Unit := do
  match ← (Handling.send m).run with
  | .ok () => pure ()
  | .error e => Procedure.log (.bridge .error (failure ++ e.display))

/-- Handles a message that came as a frame; counts it if it is a pong, and reports a failure. -/
def handleMessage (c : Creator) (m : OutgoingMessage) : Procedure Unit := do
  if m.messageType = Kind.pong.messageType then
    let () ← Procedure.ofEffect .recordPong
  else
    match ← (c.route m).run with
    | .ok () => pure ()
    | .error e =>
      let notice := "Failed to handle " ++ m.messageType ++ ": " ++ e.display
      report (m.answer (.errorNotice notice)) "Failed to report handler error: "

/-- Handles the text of a frame. -/
def handleFrame (c : Creator) (text : String) : Procedure Unit :=
  match OutgoingMessage.parse text with
  | .ok m => c.handleMessage m
  | .error refusal =>
    report (Payload.errorNotice ("Invalid message: " ++ refusal.message)).announcement
      "Failed to report decode error: "

/-- The folder of the project that the text of a frame asks for, if it asks for one. -/
def projectFolder? (c : Creator) (text : String) : Option String := do
  let m ← (OutgoingMessage.parse text).toOption
  guard (m.messageType = Kind.submitIdea.messageType)
  let s ← (SubmitIdea.decode (m.payload.getD .null)).toOption
  s.newProjectPath.map (expandHome c.home)

end Creator

end WebviewBridge
