import WebviewBridge.App.Connection
import WebviewBridge.App.Paths
import WebviewBridge.Host.Server

/-!
# The running application

The application starts a host, tells launchers how to reach it, and carries out a submission that
was stored before the editor started again.  When it stops, the connection file goes away.
-/

namespace WebviewBridge

namespace Host

/-- Logs the events that the editor was told about. -/
def logEvents (h : Host) : Host :=
  { h.note (h.events.map HostEvent.entry) with events := [] }

/-- Lets something happen to the files. -/
def withFiles {ε : Type} (h : Host) (f : FileTree → FileTree × Except ε Unit) :
    Host × Except ε Unit :=
  let (files, outcome) := f h.files
  ({ h with files }, outcome)

end Host

/-- The running application. -/
structure RunningApp where
  paths : HostPaths
  bridge : BridgeHost

namespace RunningApp

/-- What a launcher has to know about a host. -/
def connectionInfo (b : BridgeHost) : ConnectionInfo := ⟨b.port, ⟨b.token⟩⟩

/-- Carries out the stored submission and says in the log what came of it. -/
def replayStored (b : BridgeHost) : BridgeHost :=
  let (b, outcome) := b.replay true
  let entries := match outcome with
    | .ok true => [LogEntry.app .info "Replayed cached creator submission"]
    | .ok false => []
    | .error e =>
      [LogEntry.app .warn ("Could not replay cached creator submission: " ++ e.display)]
  { b with host := b.host.note entries }

/-- What comes of the attempt to start the application. -/
structure Launched where
  /-- What the connections share, or would have shared. -/
  host : Host
  /-- The bridge host that was started, as the attempt leaves it. -/
  bridge? : Option BridgeHost
  outcome : Except AppError RunningApp

/-- Tries to start the application.  Nobody holds the bridge host any more when launchers cannot be
told how to reach it. -/
def launch (paths : HostPaths) (config : BridgeConfig) (planner : Planner) (home : Option String)
    (s : Surroundings) (host : Host) : Launched :=
  match host.withFiles paths.ensure with
  | (host, .error e) => ⟨host, none, .error e⟩
  | (host, .ok ()) =>
    match BridgeHost.start config (.ofConfig config planner paths.dataDir home) s host with
    | (host, .error e) => ⟨host, none, .error (.ofHost e)⟩
    | (_, .ok b) =>
      match b.host.withFiles ((connectionInfo b).write · paths.dataDir) with
      | (host, .error e) => ⟨host, some { b with host }.release, .error e⟩
      | (host, .ok ()) =>
        let path := ConnectionInfo.filePath paths.dataDir
        let host := host.note [.app .info ("Connection info written to " ++ path)]
        let b := replayStored { b with host }
        ⟨b.host, some b, .ok { paths, bridge := b }⟩

/-- Starts the application. -/
def start (paths : HostPaths) (config : BridgeConfig) (planner : Planner) (home : Option String)
    (s : Surroundings) (host : Host) : Host × Except AppError RunningApp :=
  let x := launch paths config planner home s host
  (x.host, x.outcome)

/-- What is logged when the application is asked to stop. -/
def stoppingEntry (b : BridgeHost) : LogEntry :=
  .app .info ("Shutting down bridge host on port " ++ toString b.port.toNat)

/-- Removes the connection file. -/
def forgetConnection (paths : HostPaths) (h : Host) : Host :=
  { h with files := ConnectionInfo.remove h.files paths.dataDir }

/-- Stops the host and removes the connection file. -/
def stop (a : RunningApp) : RunningApp :=
  let b := { a.bridge with host := a.bridge.host.note [stoppingEntry a.bridge] }.stop
  { a with bridge := { b with host := forgetConnection a.paths b.host.logEvents } }

end RunningApp

end WebviewBridge
