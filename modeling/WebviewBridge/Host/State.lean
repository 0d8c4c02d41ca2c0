import WebviewBridge.Catalog.Tokens
import WebviewBridge.Error
import WebviewBridge.Host.Event

/-!
# The state of a host

A host keeps the creator's mode and the account's credentials.  Both are changed by commands only,
which are applied one at a time in the order in which they were queued.
-/

namespace WebviewBridge

/-- What a host keeps. -/
structure HostState where
  creator : CreatorState := .overlayClosed
  credentials : Credentials := .empty
deriving DecidableEq, Repr, Inhabited

/-- A change of the state. -/
inductive StateCommand where
  | setCreatorState (state : CreatorState)
  | setCredentials (credentials : Credentials)
  | clearCredentials
deriving DecidableEq, Repr

namespace HostState

/-- The state after a command. -/
def apply (s : HostState) : StateCommand → HostState
  | .setCreatorState state => { s with creator := state }
  | .setCredentials credentials => { s with credentials }
  | .clearCredentials => { s with credentials := .empty }

/-- The state after commands, applied in order. -/
def applyAll (s : HostState) (commands : List StateCommand) : HostState := commands.foldl apply s

/-- What is logged when a command is applied to a state. -/
def applyLog (s : HostState) : StateCommand → List LogEntry
  | .setCreatorState state =>
    if s.creator = state then []
    else [.bridge .info ("Creator state: " ++ s.creator.description ++ " -> " ++ state.description)]
  | .setCredentials c =>
    [.bridge .info ("Credentials updated (access token: " ++ toString c.hasAccess
      ++ ", refresh token: " ++ toString c.hasRefresh ++ ")")]
  | .clearCredentials =>
    if s.credentials.isEmpty then
      [.bridge .warn "Clear credentials requested but none were stored"]
    else []

end HostState

/-- Whoever applies the commands: it starts when it is first called, and no command reaches it once
it has stopped. -/
inductive StateKeeper where
  | notStarted
  | running
  | stopped
deriving DecidableEq, Repr, Inhabited

/-- The place of a command among all that were ever queued. -/
structure Ticket where
  number : Nat
deriving DecidableEq, Repr, Inhabited

end WebviewBridge
