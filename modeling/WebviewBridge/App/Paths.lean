import WebviewBridge.Error
import WebviewBridge.Files.Step

/-!
# Where the host keeps its files

The configuration has a directory of its own; the log and the runtime data share another.  On a
desktop both lie in the user's standard directories, and all can be put under one root instead.
-/

namespace WebviewBridge

/-- The directories of the host. -/
structure HostPaths where
  /-- Holds the configuration file. -/
  configDir : String
  logDir : String
  /-- Holds the stored submission and the connection file. -/
  dataDir : String
deriving DecidableEq, Repr

/-- What the environment says about the user's directories. -/
structure UserDirs where
  home : Option String
  /-- The directory of all configurations, if it is named. -/
  configHome : Option String
  /-- The directory of all runtime data, if it is named. -/
  dataHome : Option String
deriving DecidableEq, Repr

/-- The name of the host's directories. -/
def appDirName : String := "nellie-bridge"

namespace UserDirs

/-- A named directory counts if it is absolute; otherwise it lies in the home directory. -/
def choose (d : UserDirs) (named : Option String) (inHome : String) : Option String :=
  match named.filter FilePath.isAbsolute with
  | some dir => some dir
  | none => d.home.map fun h => FilePath.join h inHome

/-- The directory of the bridge's configuration. -/
def bridgeConfigDir (d : UserDirs) : Option String :=
  (d.choose d.configHome ".config").map fun dir => FilePath.join dir appDirName

/-- The directory of the bridge's runtime data. -/
def bridgeDataDir (d : UserDirs) : Option String :=
  (d.choose d.dataHome ".local/share").map fun dir => FilePath.join dir appDirName

end UserDirs

namespace HostPaths

/-- The user's standard directories. -/
def resolve (d : UserDirs) : Except AppError HostPaths :=
  match d.bridgeConfigDir, d.bridgeDataDir with
  | none, _ => .error (.app "Could not determine config directory")
  | some _, none => .error (.app "Could not determine data directory")
  | some config, some data => .ok ⟨config, FilePath.join data "logs", data⟩

/-- Everything under one root. -/
def underRoot (root : String) : HostPaths :=
  ⟨FilePath.join root "config", FilePath.join root "logs", FilePath.join root "data"⟩

/-- The step that creates a directory of the host. -/
def ensureStep (dir : String) : FileStep AppError :=
  ⟨.makeDirs dir, fun e => .app ("Failed to create " ++ dir ++ ": " ++ e.message)⟩

/-- The steps that create all directories. -/
def ensureSteps (p : HostPaths) : List (FileStep AppError) :=
  [ensureStep p.configDir, ensureStep p.logDir, ensureStep p.dataDir]

/-- Creates all directories. -/
def ensure (p : HostPaths) (t : FileTree) : FileTree × Except AppError Unit :=
  runSteps p.ensureSteps t

end HostPaths

end WebviewBridge
