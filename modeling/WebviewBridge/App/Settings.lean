import WebviewBridge.App.Paths
import WebviewBridge.Config.Store

/-!
# The configuration of the application

A configuration file that cannot be used is replaced by the defaults, so that a bad edit keeps
nobody offline; a bad override is an error.
-/

namespace WebviewBridge

/-- The configuration of the file if it can be used, the defaults otherwise, and what is logged. -/
def baseConfig (t : FileTree) (dir : String) : BridgeConfig × List LogEntry :=
  match BridgeConfig.load t dir with
  | (.ok c, log) => (c, log)
  | (.error e, log) => ({}, log ++ [.app .warn ("Using default bridge config: " ++ e.message)])

/-- The configuration that the application runs with, and what is logged. -/
def loadConfig (t : FileTree) (paths : HostPaths) (env : Environment) :
    Except AppError BridgeConfig × List LogEntry :=
  let (base, log) := baseConfig t paths.configDir
  let o := base.applyOverrides env
  match o.outcome with
  | .ok () => (.ok o.config, log ++ o.log)
  | .error e => (.error (.ofConfig e), log ++ o.log)

end WebviewBridge
