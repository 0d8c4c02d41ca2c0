import WebviewBridge.Catalog.SubmitIdea
import WebviewBridge.Log

/-!
# The creator's mode and the events of a host

The overlay of the creator is open, closed, or closed while the creator works on a submission.
What the editor around the host has to act on is told to it as events.
-/

namespace WebviewBridge

/-- The mode of the creator. -/
inductive CreatorState where
  | overlayOpen
  | overlayClosed
  | overlayClosedCreatorActive
deriving DecidableEq, Repr

namespace CreatorState

/-- At first the overlay is closed. -/
instance : Inhabited CreatorState := ⟨overlayClosed⟩

/-- The name of a mode in a record. -/
def name : CreatorState → String
  | overlayOpen => "OVERLAY_OPEN"
  | overlayClosed => "OVERLAY_CLOSED"
  | overlayClosedCreatorActive => "OVERLAY_CLOSED_CREATOR_ACTIVE"

/-- The modes by name. -/
def names : List (String × CreatorState) :=
  [("OVERLAY_OPEN", overlayOpen), ("OVERLAY_CLOSED", overlayClosed),
    ("OVERLAY_CLOSED_CREATOR_ACTIVE", overlayClosedCreatorActive)]

/-- The name of a mode in the log. -/
def description : CreatorState → String
  | overlayOpen => "OverlayOpen"
  | overlayClosed => "OverlayClosed"
  | overlayClosedCreatorActive => "OverlayClosedCreatorActive"

end CreatorState

/-- What the editor has to act on. -/
inductive HostEvent where
  | executePlan (request : ExecutePlanRequest)
  /-- The folder was created, and should become the workspace. -/
  | replaceWorkspaceFolder (path : String)
  | stateChanged (state : CreatorState)
deriving DecidableEq, Repr

/-- What the application logs about an event. -/
def HostEvent.entry : HostEvent → LogEntry
  | executePlan r =>
    .app .info ("Execute plan requested (" ++ toString r.plan.utf8ByteSize ++ " chars)")
  | replaceWorkspaceFolder path => .app .info ("Workspace folder replaced with " ++ path)
  | stateChanged s => .app .info ("Creator mode is now " ++ s.description)

end WebviewBridge
