import WebviewBridge.Frame.Wire
import WebviewBridge.Host.Server

/-!
# Peers

What is at the far end of a connection, as bytes tell.  A peer first sends the head of a request;
once it is let in, its bytes are frames.  A host answers with bytes, and is done with a peer whose
request or frames it cannot make sense of.
-/

namespace WebviewBridge

/-- The far end of a connection. -/
inductive Peer where
  /-- It is sending the head of its request, in packets. -/
  | greeting (head : ByteArray) (packets : Nat)
  /-- It has a session. -/
  | served (id : SessionId) (inlet : Wire.Inlet)
  /-- The host is done with it. -/
  | gone

/-- A host and a peer, and what the host sends at once. -/
structure Exchange where
  bridge : BridgeHost
  peer : Peer
  bytes : ByteArray := .empty

namespace Peer

/-- A peer that has sent nothing. -/
def new : Peer := .greeting .empty 0

/-- Answers the head of a request as far as it has arrived. -/
def greet (b : BridgeHost) (head : ByteArray) (packets : Nat) : Exchange :=
  match RequestHead.ofArrived packets head.toList with
  | .error .incomplete => { bridge := b, peer := .greeting head packets }
  | .error .malformed => { bridge := b, peer := .gone }
  | .ok request =>
    let (b, answer, id) := b.upgrade request.target
    { bridge := b
      peer := match id with
        | some id => .served id {}
        | none => .gone
      bytes := (request.response answer).toUTF8 }

/-- What the host has written to a session, as bytes. -/
def written (b : BridgeHost) (id : SessionId) : BridgeHost × ByteArray :=
  let (b, texts) := b.collect id
  (b, texts.foldl (fun bytes text => bytes ++ Wire.encodeText text) .empty)

/-- Takes in one thing that arrived in a session; adds what is sent to some bytes. -/
def arrive (id : SessionId) (x : BridgeHost × ByteArray) : Wire.Arrival → BridgeHost × ByteArray
  | .frame f =>
    let (b, bytes) := written (x.1.receive id [f]) id
    (b, x.2 ++ bytes)
  | .ping content => (x.1, x.2 ++ Wire.encode .pong content)

/-- The folders of the projects that bytes of a peer ask for. -/
def folders (c : Creator) (p : Peer) (bytes : ByteArray) : List String :=
  match p with
  | .served _ inlet => (inlet.feed bytes).2.1.filterMap fun
    | .frame (.text content) => c.projectFolder? content
    | _ => none
  | _ => []

/-- Takes in a packet of a peer. -/
def receive (b : BridgeHost) (p : Peer) (bytes : ByteArray) : Exchange :=
  match p with
  | .greeting head packets => greet b (head ++ bytes) (packets + 1)
  | .served id inlet =>
    let (inlet, arrivals, fine) := inlet.feed bytes
    let (b, bytes) := arrivals.foldl (arrive id) (b, .empty)
    if fine then { bridge := b, peer := .served id inlet, bytes }
    else { bridge := b.lose id [], peer := .gone, bytes }
  | .gone => { bridge := b, peer := .gone }

/-- The peer goes away without a word. -/
def vanish (b : BridgeHost) : Peer → BridgeHost
  | .served id _ => b.lose id []
  | _ => b

/-- What the host has written to a peer.  It says goodbye when the session has ended. -/
def collect (b : BridgeHost) (p : Peer) : Exchange :=
  match p with
  | .served id inlet =>
    let (b, bytes) := written b id
    if (b.connection? id).isSome then { bridge := b, peer := .served id inlet, bytes }
    else { bridge := b, peer := .gone, bytes := bytes ++ Wire.encode .close .empty }
  | p => { bridge := b, peer := p }

end Peer

end WebviewBridge
