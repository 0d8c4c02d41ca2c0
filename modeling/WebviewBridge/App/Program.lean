import WebviewBridge.App.DotEnv
import WebviewBridge.App.Run
import WebviewBridge.App.Settings

/-!
# The program from start to end

The program takes its variables from the process and a file, opens its log, starts the application
with the configuration found, and stops it when it is interrupted.  Nothing is logged before the
log is open.
-/

namespace WebviewBridge

/-- What the program finds when it starts. -/
structure Launch where
  files : FileTree
  environ : Variables
  workingDir : String
  surroundings : Surroundings
  /-- Milliseconds since the epoch. -/
  now : UInt64

/-- The files as the program sees them from its working directory. -/
def Launch.tree (l : Launch) : FileTree :=
  { l.files with workingDir := FilePath.names l.workingDir }

/-- The variables that the program goes by. -/
def Launch.allVariables (l : Launch) : Variables :=
  DotEnv.loadFrom l.environ l.files l.workingDir

/-- A program that is up: what it runs, and what it has logged. -/
structure Program where
  host : Host
  outcome : Except AppError RunningApp

namespace Program

/-- The name of the program in complaints. -/
def name : String := "nellie-host"

/-- What the program says to the terminal about an outcome: nothing unless it is an error. -/
def complaint {α : Type} : Except AppError α → String
  | .ok _ => ""
  | .error e => name ++ ": " ++ e.message

/-- The exit code after an error, or without one. -/
def exitCode {α : Type} : Except AppError α → Nat
  | .ok _ => 0
  | .error _ => 1

/-- Opens the log for writing at its end. -/
def openLog (t : FileTree) (dir : String) : FileTree × Except AppError Unit :=
  let path := FilePath.join dir logFileName
  if t.isFile path then (t, .ok ())
  else
    runSteps [⟨.write path .empty publicMode,
      fun e => AppError.app ("Failed to create log file " ++ path ++ ": " ++ e.message)⟩] t

/-- What is logged when the log is open. -/
def openingEntries (paths : HostPaths) : List LogEntry :=
  [.app .info ("Bridge host logging at Debug to " ++ FilePath.join paths.logDir logFileName),
    .app .info "Nellie bridge host starting",
    .app .info ("Log directory: " ++ paths.logDir)]

/-- What is logged about credentials that were found in variables. -/
def seedEntries (c : Credentials) : List LogEntry :=
  if c.isEmpty then [] else [.bridge .info "Credentials seeded from environment"]

/-- Logs the error that ends the program. -/
def fail (h : Host) (e : AppError) : Program := ⟨h.note [.app .error e.message], .error e⟩

/-- Starts the application once the log is open. -/
def startLogged (l : Launch) (v : Variables) (paths : HostPaths) (h : Host) : Program :=
  let (config, entries) := loadConfig h.files paths v.environment
  let h := h.note entries
  match config with
  | .error e => fail h e
  | .ok config =>
    let c := v.credentials
    let h := { h with state := { h.state with credentials := c } }.note (seedEntries c)
    match RunningApp.start paths config .unconfigured v.home? l.surroundings h with
    | (h, .error e) => fail h e
    | (h, .ok app) =>
      let port := toString app.bridge.port.toNat
      let h := h.note [.app .info ("Bridge host ready on port " ++ port)]
      ⟨h, .ok { app with bridge := { app.bridge with host := h } }⟩

/-- The levels and messages that the log file holds already; the program writes after them. -/
def logBefore (l : Launch) : List (String × String) :=
  match HostPaths.resolve l.allVariables.userDirs with
  | .error _ => []
  | .ok paths =>
    let text := l.tree.readText (FilePath.join paths.logDir logFileName)
    ((text.toOption.getD "").splitOn "\n").filterMap LogRecord.ofFileLine?

/-- Starts the program. -/
def start (l : Launch) : Program :=
  let v := l.allVariables
  let h : Host := { files := l.tree, now := l.now }
  match HostPaths.resolve v.userDirs with
  | .error e => ⟨h, .error e⟩
  | .ok paths =>
    match h.withFiles paths.ensure with
    | (h, .error e) => ⟨h, .error e⟩
    | (h, .ok ()) =>
      match h.withFiles (openLog · paths.logDir) with
      | (h, .error e) => ⟨h, .error e⟩
      | (h, .ok ()) => startLogged l v paths (h.note (openingEntries paths))

/-- Interrupts the program: what it leaves behind. -/
def stop (p : Program) : Host :=
  match p.outcome with
  | .ok app => app.stop.bridge.host
  | .error _ => p.host

/-- What a launcher can read while the program is up. -/
def connection? (p : Program) : Option ConnectionInfo :=
  p.outcome.toOption.map fun app => RunningApp.connectionInfo app.bridge

end Program

end WebviewBridge
