import WebviewBridge.Host.Server
import WebviewBridge.Messenger.Operation
import WebviewBridge.Webview.Connection
import WebviewBridge.Webview.Dial

/-!
# A host and its webviews on one machine

Webviews are linked to sessions of a host: frames that a webview posts reach the host in order,
and frames that the host writes to the session reach the webview in order.  Whenever something is
done at either end, frames go to and fro until there are none left.
-/

namespace WebviewBridge

/-- A webview, and the session that it has at the host. -/
structure LinkedWebview where
  session : SessionId
  connection : WebviewConnection

/-- A host and webviews that are linked to it. -/
structure Loopback where
  bridge : BridgeHost
  webviews : List LinkedWebview := []
  /-- The number of attempts to connect that the network refuses before it lets one through. -/
  refusals : Nat := 0

namespace Loopback

/-- Takes what a webview has posted to the host. -/
def carryUp (b : BridgeHost) (w : LinkedWebview) : BridgeHost × LinkedWebview × Bool :=
  let frames := w.connection.outbound
  (b.receive w.session (frames.map .text), { w with connection := w.connection.flush },
    !frames.isEmpty)

/-- Takes what the host has written to a webview. -/
def carryDown (b : BridgeHost) (w : LinkedWebview) : BridgeHost × LinkedWebview × Bool :=
  let (b, frames) := b.collect w.session
  (b, { w with connection := frames.foldl (fun c f => c.receive (.text f)) w.connection },
    !frames.isEmpty)

/-- Takes frames in both directions for each webview; says whether there were any. -/
def carry : List LinkedWebview → BridgeHost → BridgeHost × List LinkedWebview × Bool
  | [], b => (b, [], false)
  | w :: ws, b =>
    let (b, w, up) := carryUp b w
    let (b, w, down) := carryDown b w
    let (b, ws, more) := carry ws b
    (b, w :: ws, up || down || more)

/-- Lets frames go to and fro for up to a number of rounds. -/
def exchange : Nat → Loopback → Loopback
  | 0, l => l
  | n + 1, l =>
    let (bridge, webviews, moved) := carry l.webviews l.bridge
    if moved then exchange n { l with bridge, webviews } else { l with bridge, webviews }

/-- Lets frames go to and fro until there are none left. -/
def settle (l : Loopback) : Loopback := l.exchange Messenger.patience

/-- Does something with the host. -/
def withBridge {α : Type} (l : Loopback) (f : BridgeHost → BridgeHost × α) : Loopback × α :=
  let (bridge, x) := f l.bridge
  ({ l with bridge }.settle, x)

/-- Takes in frames of a session. -/
def receive (l : Loopback) (id : SessionId) (frames : List Frame) : Loopback :=
  settle { l with bridge := l.bridge.receive id frames }

/-- The peer of a session goes away after some last frames. -/
def lose (l : Loopback) (id : SessionId) (frames : List Frame) : Loopback :=
  settle { l with bridge := l.bridge.lose id frames }

/-- The connection of a webview. -/
def webview? (l : Loopback) (id : SessionId) : Option WebviewConnection :=
  (l.webviews.find? (·.session = id)).map (·.connection)

/-- Changes the connection of a webview. -/
def mapWebview (l : Loopback) (id : SessionId) (f : WebviewConnection → WebviewConnection) :
    Loopback :=
  { l with webviews := l.webviews.map fun w =>
      if w.session = id then { w with connection := f w.connection } else w }

/-- Lets the messenger of a webview do something. -/
def withMessenger {α : Type} (l : Loopback) (id : SessionId) (f : Messenger → Messenger × α) :
    Loopback × Option α :=
  match l.webview? id with
  | none => (l, none)
  | some c =>
    let (c, x) := c.withMessenger f
    ((l.mapWebview id fun _ => c).settle, some x)

/-- A webview goes away; what its messenger is left with. -/
def unlink (l : Loopback) (id : SessionId) : Loopback × Option WebviewConnection :=
  (settle { l with
      bridge := l.bridge.lose id [], webviews := l.webviews.filter (·.session ≠ id) },
    (l.webview? id).map (·.drop))

/-- Lets time pass at once: requests that are due end before the host does anything. -/
def advance (l : Loopback) (ms : Nat) : Loopback :=
  let webviews := l.webviews.map fun w =>
    { w with connection := (w.connection.withMessenger fun m => (m.advance ms, ())).1 }
  settle { l with bridge := l.bridge.advance ms, webviews }

/-- Lets time pass in steps of some milliseconds, the last of which may be shorter. -/
def advanceSlowly (l : Loopback) (stepMs ms : Nat) : Loopback :=
  (List.replicate (ms / stepMs) stepMs ++ [ms % stepMs]).foldl advance l

/-- Breaks the connections of all webviews. -/
def breakAll (l : Loopback) : Loopback :=
  { l with webviews := l.webviews.map fun w => { w with connection := w.connection.readFailed } }

/-- The host stops, and with it the connections. -/
def stop (l : Loopback) : Loopback := { l with bridge := l.bridge.stop }.breakAll

/-- Everything as it is, without what is recorded of the past. -/
def forget (l : Loopback) : Loopback :=
  let cleared (c : WebviewConnection) : WebviewConnection :=
    { c with messenger := c.messenger.forget, written := [] }
  { l with
    bridge := { l.bridge with host := l.bridge.host.forget }
    webviews := l.webviews.map fun w => { w with connection := cleared w.connection } }

/-! ## Connecting -/

/-- What is asked for when nothing is named. -/
def rootTarget : String := "/"

/-- An attempt to connect from an address for a target.  A host talks to nobody but the machine
itself, and has no answer to a malformed request. -/
def attempt (l : Loopback) (peer : PeerAddress) (target : String) :
    Loopback × Except DialFailure SessionId :=
  if !l.bridge.listening then (l, .error .refused)
  else
    match l.refusals with
    | r + 1 => ({ l with refusals := r }, .error .refused)
    | 0 =>
      let target := if target.isEmpty then rootTarget else target
      if !peer.isLoopback || !RequestTarget.isWellFormed target.toList then (l, .error .dropped)
      else
        match l.bridge.upgrade target with
        | (bridge, answer, none) => ({ l with bridge }, .error (.rejected answer))
        | (bridge, _, some id) => ({ l with bridge }, .ok id)

/-- Links a webview to a session. -/
def link (l : Loopback) (session : SessionId) (c : WebviewConnection) : Loopback :=
  { l with webviews := l.webviews ++ [{ session, connection := c }] }

/-- Connects a webview with a token.  A refusal of the network is followed by another attempt, as
long as that is allowed, some milliseconds later; anything else that is in the way stays in the
way. -/
def dial (token : String) (timeoutMs waitMs : Nat) (c : WebviewConnection) :
    (attempts : Nat) → (refusals : Nat) → Loopback → Loopback × Except TransportError SessionId
  | n, r + 1, l =>
    if l.bridge.listening ∧ Dial.mayRetry timeoutMs 0 n then
      dial token timeoutMs waitMs c (n + 1) r ({ l with refusals := r }.advance waitMs)
    else ({ l with refusals := r }, .error (DialFailure.refused.giveUp timeoutMs))
  | _, 0, l =>
    match l.attempt .loopback (bridgeTarget token) with
    | (l, .error f) => (l, .error (f.giveUp timeoutMs))
    | (l, .ok id) => (l.link id c, .ok id)

/-- Connects a webview with a token. -/
def connect (l : Loopback) (token : String) (timeoutMs waitMs : Nat) (c : WebviewConnection) :
    Loopback × Except TransportError SessionId :=
  dial token timeoutMs waitMs c 0 l.refusals l

end Loopback

end WebviewBridge
