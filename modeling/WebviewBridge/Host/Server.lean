import WebviewBridge.Config.Basic
import WebviewBridge.Handshake.Upgrade
import WebviewBridge.Host.Connection

/-!
# Running hosts

A running host listens on a port, lets in who presents its token, serves the connections and pings
them.  Every connection that was accepted and has not ended is a session; announcements go to all
of them.
-/

namespace WebviewBridge

/-- The address that a connection comes from. -/
structure PeerAddress where
  parts : List Nat
deriving DecidableEq, Repr

/-- Whether an address is one of the machine itself.  A host talks to no other. -/
def PeerAddress.isLoopback (a : PeerAddress) : Bool := a.parts.head? == some 127

/-- The address that webviews connect from. -/
def PeerAddress.loopback : PeerAddress := ⟨[127, 0, 0, 1]⟩

/-- What the system and chance contribute to the start of a host. -/
structure Surroundings where
  /-- The port that is bound when one is asked for. -/
  bind : UInt16 → Except IoError UInt16
  /-- A token that nobody can guess. -/
  freshToken : String
  /-- The identifiers of the sessions to come. -/
  freshSessions : Nat → SessionId

/-- A running host. -/
structure BridgeHost where
  port : UInt16
  token : String
  /-- Milliseconds between two pings, if there are any. -/
  heartbeatMs : Option Nat
  creator : Creator
  freshSessions : Nat → SessionId
  /-- What the connections share. -/
  host : Host
  /-- Milliseconds since the start. -/
  elapsed : Nat := 0
  /-- The number of connections accepted so far. -/
  accepted : Nat := 0
  /-- The connections that were accepted and have not ended, oldest first. -/
  connections : List HostConnection := []
  /-- Whether connections are still taken in. -/
  listening : Bool := true

/-- The period of the pings that a configuration asks for. -/
def HostConfig.heartbeatMs (c : HostConfig) : Option Nat :=
  if c.heartbeatSecs = 0 then none else some (c.heartbeatSecs.toNat * 1000)

/-- The creator of a host with a configuration. -/
def Creator.ofConfig (config : BridgeConfig) (planner : Planner) (dir : String)
    (home : Option String) : Creator :=
  { planner, cache := ⟨dir⟩, maxAgeMs := config.creator.cacheMaxAgeSecs.toNat * 1000, home }

namespace BridgeHost

/-- How a host shows the address that it listens on. -/
def addressText (port : UInt16) : String := bridgeHostname ++ ":" ++ toString port.toNat

/-- Starts a host.  Without a token in the configuration it makes one up. -/
def start (config : BridgeConfig) (creator : Creator) (s : Surroundings) (host : Host) :
    Host × Except HostError BridgeHost :=
  let (token, host) := match config.host.authToken with
    | some token => (token, host)
    | none => (s.freshToken, host.note [.bridge .info "Generated bridge auth token"])
  match s.bind config.host.port with
  | .error e => (host, .error (.ofIo e))
  | .ok port =>
    let host := host.note [.bridge .info ("Bridge host listening on " ++ addressText port)]
    (host, .ok {
      port, token, creator, host, heartbeatMs := config.host.heartbeatMs
      freshSessions := s.freshSessions })

/-! ## Connections -/

/-- The connection of a session. -/
def connection? (b : BridgeHost) (id : SessionId) : Option HostConnection :=
  b.connections.find? (·.id = id)

/-- The number of sessions. -/
def sessionCount (b : BridgeHost) : Nat := b.connections.length

/-- The pongs that came in on all sessions. -/
def pongsReceived (b : BridgeHost) : Nat := b.connections.foldl (fun n k => n + k.session.pongs) 0

/-- Puts a connection in the place of the one of the same session, unless it has ended. -/
def put (b : BridgeHost) (k : HostConnection) : BridgeHost :=
  { b with connections :=
      (b.connections.map fun x => if x.id = k.id then k else x).filter (!·.ended) }

/-- Does something with the connection of a session. -/
def withConnection (b : BridgeHost) (id : SessionId)
    (f : Host → HostConnection → Host × HostConnection) : BridgeHost :=
  match b.connection? id with
  | none => b
  | some k =>
    let (host, k) := f b.host k
    { b with host }.put k

/-- Accepts a connection as a new session. -/
def accept (b : BridgeHost) : BridgeHost × SessionId :=
  let id := b.freshSessions b.accepted
  let k : HostConnection :=
    { session := { id }, nextPing := b.heartbeatMs.map (b.elapsed + ·) }
  ({ b with accepted := b.accepted + 1, connections := b.connections ++ [k] }, id)

/-- Answers a request to upgrade; accepts the connection if the request presents the token. -/
def upgrade (b : BridgeHost) (target : String) : BridgeHost × UpgradeAnswer × Option SessionId :=
  match UpgradeAnswer.ofTarget b.token target.toList with
  | .accepted =>
    let (b, id) := b.accept
    (b, .accepted, some id)
  | .unauthorized => (b, .unauthorized, none)

/-- Takes in frames of a session. -/
def receive (b : BridgeHost) (id : SessionId) (frames : List Frame) : BridgeHost :=
  b.withConnection id fun h k =>
    { k with inbox := k.inbox ++ frames }.serve b.creator b.elapsed h

/-- The peer of a session goes away after some last frames. -/
def lose (b : BridgeHost) (id : SessionId) (frames : List Frame) : BridgeHost :=
  b.withConnection id fun h k =>
    { k with inbox := k.inbox ++ frames, lost := true }.serve b.creator b.elapsed h

/-- Takes the frames that were written to a session. -/
def collect (b : BridgeHost) (id : SessionId) : BridgeHost × List String :=
  match b.connection? id with
  | none => (b, [])
  | some k => (b.put { k with outbox := [] }, k.outbox)

/-! ## Announcements -/

/-- Sends a message to all sessions; gives the number of those whose queue took it. -/
def announce (b : BridgeHost) (m : IncomingMessage) : BridgeHost × Nat :=
  let sent := b.connections.map (·.send m)
  ({ b with connections := sent.map (·.1) }, (sent.filter (·.2)).length)

/-- Sends a typed payload to all sessions. -/
def push (b : BridgeHost) (p : Payload) : BridgeHost × Nat := b.announce p.announcement

/-- Pings all sessions. -/
def pingAll (b : BridgeHost) : BridgeHost × Nat := b.push .ping

/-! ## Time -/

/-- Something that a host does at a certain time. -/
inductive Alarm where
  /-- Goes on with the handler of a session. -/
  | resume (id : SessionId)
  /-- Pings a session. -/
  | ping (id : SessionId) (deadline : Nat)

/-- What a host will do about a connection, with the times. -/
def alarms (k : HostConnection) : List (Nat × Alarm) :=
  (k.waiter.map fun w => (w.wakeAt, Alarm.resume k.id)).toList
    ++ (k.nextPing.map fun t => (t, Alarm.ping k.id t)).toList

/-- What is to be done by now, earliest first. -/
def due (b : BridgeHost) : List Alarm :=
  (((b.connections.flatMap alarms).filter (·.1 ≤ b.elapsed)).mergeSort
    fun x y => decide (x.1 ≤ y.1)).map (·.2)

/-- How many milliseconds late a ping may be without putting off those after it. -/
def pingTolerance : Nat := 5

/-- The time of the ping after one that was due at a deadline. -/
def pingAfter (b : BridgeHost) (deadline : Nat) : Option Nat :=
  b.heartbeatMs.map fun period =>
    if b.elapsed > deadline + pingTolerance then b.elapsed + period else deadline + period

/-- Does what an alarm is for.  Pings end when one cannot be sent. -/
def fire (b : BridgeHost) : Alarm → BridgeHost
  | .resume id => b.withConnection id fun h k => k.resume b.creator b.elapsed h
  | .ping id deadline => b.withConnection id fun h k =>
    let (k, sent) := k.send Payload.ping.announcement
    (h, { k with nextPing := if sent then b.pingAfter deadline else none })

/-- Lets time pass at once; then everything that has become due is done, once. -/
def advance (b : BridgeHost) (ms : Nat) : BridgeHost :=
  let b := { b with elapsed := b.elapsed + ms }
  b.due.foldl fire b

/-! ## Handlers outside sessions -/

/-- Runs what belongs to no session. -/
def run {α : Type} (b : BridgeHost) (p : Procedure α) : BridgeHost × α :=
  let (host, _, x) := p.run b.host default
  ({ b with host }, x)

/-- Carries out the stored submission, if it is fresh. -/
def replay (b : BridgeHost) (remove : Bool) : BridgeHost × Except HostError Bool :=
  b.run (b.creator.replay remove).run

/-- Stops listening and ends all connections.  This is all that is done to a host that nobody holds
any more. -/
def release (b : BridgeHost) : BridgeHost := { b with connections := [], listening := false }

/-- Stops a host, and says so in the log. -/
def stop (b : BridgeHost) : BridgeHost :=
  let entry := LogEntry.bridge .info ("Bridge host on " ++ addressText b.port ++ " stopped")
  { b.release with host := b.host.note [entry] }

end BridgeHost

end WebviewBridge
