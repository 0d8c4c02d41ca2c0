import WebviewBridge.Config.Overrides
import WebviewBridge.Files.Step

/-!
# The configuration file

A configuration is kept as `bridge.json` in a directory.  A missing file stands for the defaults;
only a valid configuration is read or written.
-/

namespace WebviewBridge

open Json

/-- The name of the configuration file. -/
def configFileName : String := "bridge.json"

namespace BridgeConfig

/-- The path of the configuration file in a directory. -/
def filePath (dir : String) : String := FilePath.join dir configFileName

/-- What the configuration file holds. -/
def fileText (c : BridgeConfig) : String := (Value.obj c.members).pretty

/-- Reads the configuration of a directory, and says what is logged. -/
def load (t : FileTree) (dir : String) : Except ConfigError BridgeConfig × List LogEntry :=
  let path := filePath dir
  if !t.exists? path then
    (.ok {}, [.bridge .info ("Config file not found at " ++ path ++ ", using defaults")])
  else
    match t.readText path with
    | .error e => (.error (.read path e), [])
    | .ok text =>
      match parse text with
      | .error r =>
        (.error (.parse path r.message),
          [.bridge .warn ("Failed to parse config JSON at " ++ path ++ ": " ++ r.message)])
      | .ok c =>
        match c.validate with
        | .error e => (.error e, [])
        | .ok () => (.ok c, [.bridge .info ("Config loaded from " ++ path)])

/-- The steps that write a configuration into a directory. -/
def saveSteps (c : BridgeConfig) (dir : String) : List (FileStep ConfigError) :=
  let path := filePath dir
  let temporary := temporaryPath path
  [⟨.makeDirs dir, .write dir⟩,
    ⟨.write temporary c.fileText.toUTF8 publicMode, .write temporary⟩,
    ⟨.rename temporary path, .write path⟩]

/-- Writes a configuration into a directory, unless it is not valid. -/
def save (c : BridgeConfig) (t : FileTree) (dir : String) : FileTree × Except ConfigError Unit :=
  match c.validate with
  | .error e => (t, .error e)
  | .ok () => runSteps (c.saveSteps dir) t

end BridgeConfig

end WebviewBridge
