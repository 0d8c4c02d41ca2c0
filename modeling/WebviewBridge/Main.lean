import WebviewBridge.App.Program
import WebviewBridge.Files.Difference
import WebviewBridge.Host.Peer
import WebviewBridge.Text.Timestamp
import WebviewBridge.Text.Uuid
import Std.Async
import Std.Sync.Channel

/-!
# The program on a real machine

Reads what the program has to know about the machine, runs it, and brings about what it decides:
changes to files, lines of the log, bytes to peers.  Everything that happens to the program goes
through one queue, so that it is done one thing at a time.
-/

namespace WebviewBridge.Machine

open Std.Async

/-! ## Files -/

/-- The number of the system's reason; it may be told as a negative number. -/
def reasonOf (code : UInt32) : Int := min code.toNat (-code).toNat

/-- The number of the system's reason for a failure, for those that are not about what is there. -/
def reason? : IO.Error → Option Int
  | .resourceBusy code _ | .permissionDenied _ code _ | .hardwareFault code _
  | .resourceExhausted _ code _ | .otherError code _ => some (reasonOf code)
  | _ => none

/-- What is in the way of a use that failed. -/
def hindranceOf (e : IO.Error) : Option Hindrance := do
  let reason ← reason? e
  if h : IoError.os reason ≠ .notFound then some { reason, reason_ne := h } else none

/-- What stands where a path leads on the disk, and what is in the way of reading it. -/
def entry? (path : String) : IO (Option Entry × Option Hindrance) := do
  let p := (← IO.currentDir) / path
  if ← p.isDir then return (some .directory, none)
  if ← p.pathExists then
    match ← (IO.FS.readBinFile p).toBaseIO with
    | .ok content => return (some (.file content publicMode), none)
    | .error e => return (some (.file .empty publicMode), hindranceOf e)
  return (none, none)

/-- Brings a tree up to date about a path and the directories that lead to it. -/
def look (t : FileTree) (path : String) : IO FileTree := do
  let names := FilePath.names path
  (List.range names.length).foldlM (fun t n => do
    let path := FileTree.pathOfNames (FilePath.isAbsolute path) (names.take (n + 1))
    let .ok p := t.locate path | return t
    let (entry, hindrance) ← entry? path
    let t := t.hinder (.read p) hindrance
    match entry with
    | some e => return t.put p e
    | none => return t.erase p) t

/-- Carries an operation out on the disk. -/
def carryOut : FileOp → IO Unit
  | .makeDirs path => IO.FS.createDirAll path
  | .write path content mode => do
    IO.FS.writeBinFile path .empty
    if mode = ownerMode then
      IO.setAccessRights path { user := { read := true, write := true } }
    IO.FS.writeBinFile path content
  | .rename source target => IO.FS.rename source target
  | .remove path => IO.FS.removeFile path

/-- Brings the disk from one state to another. -/
def bring (old new : FileTree) : IO Unit := do
  for op in FileTree.difference old new do
    match ← (carryOut op).toBaseIO with
    | .ok () => pure ()
    | .error e => IO.eprintln (Program.name ++ ": " ++ toString e)

/-! ## The machine at the start -/

/-- Nanoseconds since the first of January 1970. -/
def nanoseconds : IO Nat := do
  return (← Std.Time.Timestamp.now).toNanosecondsSinceUnixEpoch.toInt.toNat

/-- Milliseconds since the first of January 1970. -/
def milliseconds : IO Nat := do return (← nanoseconds) / 1000000

/-- The variables of the process. -/
def environ : IO Variables := do
  return Variables.ofBlock (← IO.FS.readBinFile "/proc/self/environ").toList

/-- The files of the host that it may want to read. -/
def hostFiles (paths : HostPaths) : List String :=
  [BridgeConfig.filePath paths.configDir, FilePath.join paths.logDir logFileName,
    SubmissionCache.path ⟨paths.dataDir⟩, ConnectionInfo.filePath paths.dataDir]

/-- Identifiers that nobody can guess. -/
def freshIdentifiers : IO (Nat → String) := do
  let seed ← IO.getRandomBytes 16
  return fun k => Text.uuid (Sha1.digest (seed.toList ++ Wire.bigEndian 8 k))

/-- What the program finds when it starts, before anything is bound. -/
def prepare : IO Launch := do
  let workingDir := (← IO.currentDir).toString
  let environ ← environ
  let nothing : FileTree := { FileTree.empty with workingDir := FilePath.names workingDir }
  let files ← (DotEnv.candidates workingDir).foldlM look nothing
  let v := DotEnv.loadFrom environ files workingDir
  let files ← match HostPaths.resolve v.userDirs with
    | .ok paths => (hostFiles paths).foldlM look files
    | .error _ => pure files
  let fresh ← freshIdentifiers
  let surroundings : Surroundings :=
    { bind := .ok, freshToken := fresh 0, freshSessions := fun k => ⟨fresh (k + 1)⟩ }
  return { files, environ, workingDir, surroundings, now := UInt64.ofNat (← milliseconds) }

/-! ## The network -/

/-- The address of a port of the machine itself. -/
def address (port : UInt16) : Std.Net.SocketAddress := .v4 ⟨.ofParts 127 0 0 1, port⟩

/-- The port of an address. -/
def portOf : Std.Net.SocketAddress → UInt16
  | .v4 a => a.port
  | .v6 a => a.port

/-- Whether an address is one of the machine itself. -/
def isOwn : Std.Net.SocketAddress → Bool
  | .v4 a => PeerAddress.isLoopback ⟨a.addr.octets.toList.map (·.toNat)⟩
  | .v6 _ => false

/-- A failure to bind a port, as the system tells it. -/
def bindError (e : IO.Error) : IoError := ((reason? e).map .os).getD .addressInUse

/-- Listens on a port; gives the port that was bound. -/
def listen (port : UInt16) : IO (Except IoError (TCP.Socket.Server × UInt16)) := do
  let bound ← (do
    let server ← TCP.Socket.Server.mk
    server.bind (address port)
    server.listen 128
    return (server, portOf (← server.getSockName))).toBaseIO
  return bound.mapError bindError

/-! ## What happens -/

/-- Something that happens to the running program. -/
inductive Happening where
  | arrived (socket : TCP.Socket.Client)
  /-- Bytes came from a guest. -/
  | spoke (guest : Nat) (bytes : ByteArray)
  | left (guest : Nat)
  /-- Time has passed. -/
  | moment
  | interrupted

instance : Inhabited Happening := ⟨.moment⟩

/-- The queue of what happens. -/
abbrev Queue := Std.Channel Happening

/-- Puts something into the queue. -/
def announce (queue : Queue) (h : Happening) : Async Unit := do
  discard (queue.send h)

/-- Takes in connections as long as that is possible. -/
partial def welcome (queue : Queue) (server : TCP.Socket.Server) : Async Unit := do
  announce queue (.arrived (← server.accept))
  welcome queue server

/-- Reads what a guest sends until it is gone. -/
partial def attend (queue : Queue) (guest : Nat) (socket : TCP.Socket.Client) : Async Unit := do
  let bytes ← try socket.recv? (.ofNat RequestHead.packetLimit) catch _ => pure none
  match bytes with
  | some bytes =>
    announce queue (.spoke guest bytes)
    attend queue guest socket
  | none => announce queue (.left guest)

/-- Lets the program know that time passes. -/
partial def tick (queue : Queue) : Async Unit := do
  sleep (.ofNat 200)
  announce queue .moment
  tick queue

/-- Waits for an interrupt. -/
def awaitInterrupt (queue : Queue) : Async Unit := do
  let waiter ← Signal.Waiter.mk .sigint false
  let signal ← waiter.wait
  discard (await signal)
  announce queue .interrupted

/-! ## The running program -/

/-- Someone who is connected. -/
structure Guest where
  number : Nat
  socket : TCP.Socket.Client
  peer : Peer

/-- The running program and the machine as it knows it. -/
structure Running where
  app : RunningApp
  /-- The files as they are on the disk. -/
  disk : FileTree
  /-- When something happened last, in milliseconds. -/
  since : Nat
  guests : List Guest := []
  /-- The number of guests so far. -/
  welcomed : Nat := 0

/-- Writes entries to the terminal and to the log file. -/
def write (paths : HostPaths) (entries : List LogEntry) : IO Unit := do
  let records := (entries.map LogEntry.record).filter LogRecord.isLogged
  if records.isEmpty then return
  let date := Text.timestamp (← nanoseconds)
  let terminal ← IO.getStdout
  terminal.putStr (String.join (records.map (·.terminalLine date)))
  terminal.flush
  IO.FS.withFile (FilePath.join paths.logDir logFileName) .append fun file =>
    file.putStr (String.join (records.map (·.fileLine date)))

/-- Brings about on the machine what the host has decided, and forgets it. -/
def settle (r : Running) : IO Running := do
  let host := r.app.bridge.host.logEvents
  bring r.disk host.files
  write r.app.paths host.log
  return { r with app.bridge.host := host.forget, disk := host.files }

/-- Sends bytes to a guest, unless there are none; a guest who cannot be reached will be gone. -/
def send (socket : TCP.Socket.Client) (bytes : ByteArray) : Async Unit := do
  if !bytes.isEmpty then
    try socket.send bytes catch _ => pure ()

/-- Sends a guest what the host has written; says whether the guest stays. -/
def deliver (bridge : BridgeHost) (g : Guest) : Async (BridgeHost × Option Guest) := do
  let x := g.peer.collect bridge
  send g.socket x.bytes
  match x.peer with
  | .gone =>
    try g.socket.shutdown catch _ => pure ()
    return (x.bridge, none)
  | peer => return (x.bridge, some { g with peer })

/-- Sends all guests what the host has written. -/
def deliverAll (r : Running) : Async Running := do
  let (bridge, guests) ← r.guests.foldlM (fun (bridge, guests) g => do
    let (bridge, g) ← deliver bridge g
    return (bridge, guests ++ g.toList)) (r.app.bridge, [])
  return { r with app.bridge := bridge, guests }

/-- Takes in bytes of a guest. -/
def hear (r : Running) (g : Guest) (bytes : ByteArray) : Async Running := do
  let b := r.app.bridge
  let paths := b.creator.cache.path :: g.peer.folders b.creator bytes
  let disk ← paths.foldlM (fun t path => (look t path : IO FileTree)) r.disk
  let x := g.peer.receive { b with host.files := disk } bytes
  send g.socket x.bytes
  let guests := r.guests.map fun h => if h.number = g.number then { g with peer := x.peer } else h
  return { r with app.bridge := x.bridge, disk, guests }

/-- Lets the time since the last happening pass. -/
def pass (r : Running) : IO Running := do
  let now ← milliseconds
  let b := r.app.bridge.advance (now - r.since)
  return { r with app.bridge := { b with host.now := UInt64.ofNat now }, since := now }

/-- Does what has to be done about a happening. -/
def respond (queue : Queue) (r : Running) : Happening → Async Running
  | .arrived socket => do
    if isOwn (← socket.getPeerName) then
      background (attend queue r.welcomed socket)
      let g : Guest := ⟨r.welcomed, socket, .new⟩
      return { r with welcomed := r.welcomed + 1, guests := r.guests ++ [g] }
    else
      socket.shutdown
      return r
  | .spoke guest bytes =>
    match r.guests.find? (·.number = guest) with
    | some g => hear r g bytes
    | none => return r
  | .left guest => do
    let leaving := r.guests.filter (·.number = guest)
    return { r with
      app.bridge := leaving.foldl (fun b g => g.peer.vanish b) r.app.bridge
      guests := r.guests.filter (·.number ≠ guest) }
  | .moment | .interrupted => return r

/-- Goes on until there is an interrupt. -/
partial def serve (queue : Queue) (r : Running) : Async Running := do
  let happening ← await (← queue.recv)
  let r ← respond queue (← pass r) happening
  let r ← deliverAll r
  let r ← settle r
  match happening with
  | .interrupted => return r
  | _ => serve queue r

/-- Stops the program. -/
def finish (r : Running) : Async Unit := do
  let r ← deliverAll { r with app := r.app.stop }
  discard (settle r : IO Running)

/-- Serves until there is an interrupt, and stops. -/
def run (server : TCP.Socket.Server) (r : Running) : Async Unit := do
  let queue : Queue ← Std.Channel.new
  background (welcome queue server)
  background (tick queue)
  background (awaitInterrupt queue)
  finish (← serve queue r)

/-- Starts the program on the machine and runs it to its end; gives the exit code. -/
def start : IO UInt32 := do
  let launch ← prepare
  let wanted := (Program.start launch).outcome.toOption.map (·.bridge.port)
  let bound ← wanted.mapM listen
  let bind := fun _ => match bound with
    | some (.ok (_, port)) => .ok port
    | some (.error e) => .error e
    | none => .error .addressInUse
  let p := Program.start { launch with surroundings.bind := bind }
  let host := p.host.logEvents
  bring launch.files host.files
  match HostPaths.resolve launch.allVariables.userDirs with
  | .ok paths => write paths host.log
  | .error _ => pure ()
  match p.outcome, bound with
  | .ok app, some (.ok (server, _)) =>
    (run server {
      app := { app with bridge.host := host.forget }, disk := host.files
      since := ← milliseconds }).block
  | .error e, _ => IO.eprintln (Program.complaint (.error e : Except AppError Unit))
  | .ok _, _ => pure ()
  return UInt32.ofNat (Program.exitCode p.outcome)

end WebviewBridge.Machine

/-- Runs the host of the bridge until it is interrupted. -/
def main : IO UInt32 := WebviewBridge.Machine.start
