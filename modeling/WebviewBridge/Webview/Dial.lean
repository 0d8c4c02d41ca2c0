import WebviewBridge.Error
import WebviewBridge.Handshake.Upgrade
import WebviewBridge.Text.Duration

/-!
# Dialling a host

A webview that cannot connect tries again after a pause, and each pause is half as long again as
the one before.  It gives up when the next pause would not end within the time that it has.
-/

namespace WebviewBridge

/-- Why an attempt to connect failed. -/
inductive DialFailure where
  /-- Nobody listens. -/
  | refused
  /-- The host turned the request down. -/
  | rejected (answer : UpgradeAnswer)
  /-- The host closed the connection without an answer. -/
  | dropped
deriving DecidableEq, Repr

namespace DialFailure

/-- The wording of a failure. -/
def message : DialFailure → String
  | refused => "IO error: " ++ IoError.connectionRefused.message
  | rejected a => "HTTP error: " ++ toString a.status ++ " " ++ a.reason
  | dropped => "WebSocket protocol error: Handshake not finished"

/-- The name of the kind of a failure. -/
def kind : DialFailure → String
  | refused => "Refused"
  | rejected _ => "Rejected"
  | dropped => "Dropped"

/-- What is reported when a webview gives up after a failure. -/
def giveUp (f : DialFailure) (timeoutMs : Nat) : TransportError :=
  .connect ("Could not connect to bridge within " ++ Text.duration timeoutMs ++ ": " ++ f.message)

end DialFailure

namespace Dial

/-- The longest pause, in milliseconds. -/
def longestPause : Nat := 60000

/-- The pause after an attempt, counted from zero, in milliseconds. -/
def pause : Nat → Nat
  | 0 => 500
  | n + 1 => min (pause n * 3 / 2) longestPause

/-- Whether an attempt may follow the one of a number, some time after the first. -/
def mayRetry (timeoutMs elapsedMs attempt : Nat) : Bool := elapsedMs + pause attempt ≤ timeoutMs

end Dial

end WebviewBridge
