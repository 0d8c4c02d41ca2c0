import WebviewBridge.Json.Record
import WebviewBridge.Json.Printer
import WebviewBridge.Text.Blank
import WebviewBridge.Error

/-!
# The configuration of a bridge

A configuration has four sections.  Every field has a default, so a text may leave out any field
or section.  `BridgeConfig.validate` says which configurations may be used.
-/

namespace WebviewBridge

open Json

/-- What a messenger does with a message when the channel to the host is absent or closed. -/
inductive UnavailablePolicy where
  /-- Drops the message; whoever waits for a reply waits in vain. -/
  | ignore
  /-- Reports the failure. -/
  | fail
deriving DecidableEq, Repr

namespace UnavailablePolicy

/-- The name of a policy. -/
def name : UnavailablePolicy → String
  | ignore => "ignore"
  | fail => "fail"

/-- The policies by name. -/
def names : List (String × UnavailablePolicy) := [("ignore", ignore), ("fail", fail)]

end UnavailablePolicy

/-- Where the host listens and how it greets. -/
structure HostConfig where
  /-- The port; zero for any that is free. -/
  port : UInt16 := 19876
  /-- The token that webviews have to present; made up at startup when absent. -/
  authToken : Option String := none
  /-- Seconds between two pings; zero for none. -/
  heartbeatSecs : UInt64 := 30
deriving DecidableEq, Repr

/-- How messengers wait and give up. -/
structure MessagingConfig where
  responseTimeoutMs : UInt64 := 10000
  unavailable : UnavailablePolicy := .ignore
  connectTimeoutMs : UInt64 := 5000
deriving DecidableEq, Repr

/-- How the creator treats its submissions. -/
structure CreatorConfig where
  /-- The age in seconds at which a stored submission is stale. -/
  cacheMaxAgeSecs : UInt64 := 20
deriving DecidableEq, Repr

/-- The configuration of a bridge. -/
structure BridgeConfig where
  version : UInt32 := 1
  host : HostConfig := {}
  messaging : MessagingConfig := {}
  creator : CreatorConfig := {}
deriving DecidableEq, Repr

instance : Inhabited BridgeConfig := ⟨{}⟩

/-! ## Validation -/

/-- The newest version of the format. -/
def configVersion : UInt32 := 1

/-- The longest time between two pings, in seconds. -/
def maxHeartbeatSecs : UInt64 := 3600

/-- Whether a token may be required of webviews. -/
def tokenIsUsable : Option String → Bool
  | some token => !Text.isBlank token
  | none => true

/-- Refuses a configuration that may not be used, for the first reason that applies. -/
def BridgeConfig.validate (c : BridgeConfig) : Except ConfigError Unit :=
  if c.version = 0 ∨ c.version > configVersion then
    .error (.validation ("Invalid version: " ++ toString c.version.toNat ++ " (expected 1-"
      ++ toString configVersion.toNat ++ ")"))
  else if c.messaging.responseTimeoutMs = 0 then
    .error (.validation "messaging.response_timeout_ms must be greater than 0")
  else if c.host.heartbeatSecs > maxHeartbeatSecs then
    .error (.validation ("host.heartbeat_interval_secs must be at most "
      ++ toString maxHeartbeatSecs.toNat ++ " (0 disables)"))
  else if c.messaging.connectTimeoutMs = 0 then
    .error (.validation "messaging.connect_timeout_ms must be greater than 0")
  else if !tokenIsUsable c.host.authToken then
    .error (.validation "host.auth_token cannot be an empty string")
  else .ok ()

/-! ## Writing -/

/-- The members of the host's section in the order in which they are written. -/
def HostConfig.members (c : HostConfig) : List (String × Value) :=
  [("port", .nat c.port.toNat), ("auth_token", Value.ofString? c.authToken),
    ("heartbeat_interval_secs", .nat c.heartbeatSecs.toNat)]

/-- The members of the messengers' section in the order in which they are written. -/
def MessagingConfig.members (c : MessagingConfig) : List (String × Value) :=
  [("response_timeout_ms", .nat c.responseTimeoutMs.toNat),
    ("unavailable_transport", .str c.unavailable.name),
    ("connect_timeout_ms", .nat c.connectTimeoutMs.toNat)]

/-- The members of the creator's section. -/
def CreatorConfig.members (c : CreatorConfig) : List (String × Value) :=
  [("cache_max_age_secs", .nat c.cacheMaxAgeSecs.toNat)]

/-- The members of a configuration in the order in which they are written. -/
def BridgeConfig.members (c : BridgeConfig) : List (String × Value) :=
  [("version", .nat c.version.toNat), ("host", .obj c.host.members),
    ("messaging", .obj c.messaging.members), ("creator", .obj c.creator.members)]

/-! ## Reading -/

/-- Reads a number of 16 bits. -/
def readUInt16 (room : Nat) : Scan UInt16 := fun c =>
  (naturalValue (UInt16.size - 1) "u16" room c).map fun r => (UInt16.ofNat r.1, r.2)

/-- Reads a number of 32 bits. -/
def readUInt32 (room : Nat) : Scan UInt32 := fun c =>
  (naturalValue (UInt32.size - 1) "u32" room c).map fun r => (UInt32.ofNat r.1, r.2)

/-- Reads a number of 64 bits. -/
def readUInt64 (room : Nat) : Scan UInt64 := fun c =>
  (naturalValue (UInt64.size - 1) "u64" room c).map fun r => (UInt64.ofNat r.1, r.2)

/-- The fields of the host's section found so far. -/
structure HostConfig.Draft where
  port : Option UInt16 := none
  authToken : Option (Option String) := none
  heartbeatSecs : Option UInt64 := none

/-- How the host's section is read. -/
def HostConfig.layout : Layout HostConfig.Draft HostConfig where
  type := "HostConfig"
  empty := {}
  fields := [
    { name := "port", found := (·.port.isSome)
      read := fun room c =>
        (readUInt16 room c).map fun r => (fun d => { d with port := some r.1 }, r.2) },
    { name := "auth_token", found := (·.authToken.isSome)
      read := fun room c =>
        (orNull textValue room c).map fun r => (fun d => { d with authToken := some r.1 }, r.2) },
    { name := "heartbeat_interval_secs", found := (·.heartbeatSecs.isSome)
      read := fun room c =>
        (readUInt64 room c).map fun r => (fun d => { d with heartbeatSecs := some r.1 }, r.2) }]
  finish := fun d =>
    let default : HostConfig := {}
    .ok { port := d.port.getD default.port, authToken := d.authToken.getD default.authToken
          heartbeatSecs := d.heartbeatSecs.getD default.heartbeatSecs }

/-- The fields of the messengers' section found so far. -/
structure MessagingConfig.Draft where
  responseTimeoutMs : Option UInt64 := none
  unavailable : Option UnavailablePolicy := none
  connectTimeoutMs : Option UInt64 := none

/-- How the messengers' section is read. -/
def MessagingConfig.layout : Layout MessagingConfig.Draft MessagingConfig where
  type := "MessagingConfig"
  empty := {}
  fields := [
    { name := "response_timeout_ms", found := (·.responseTimeoutMs.isSome)
      read := fun room c =>
        (readUInt64 room c).map fun r => (fun d => { d with responseTimeoutMs := some r.1 }, r.2) },
    { name := "unavailable_transport", found := (·.unavailable.isSome)
      read := fun room c =>
        (nameValue UnavailablePolicy.names room c).map fun r =>
          (fun d => { d with unavailable := some r.1 }, r.2) },
    { name := "connect_timeout_ms", found := (·.connectTimeoutMs.isSome)
      read := fun room c =>
        (readUInt64 room c).map fun r => (fun d => { d with connectTimeoutMs := some r.1 }, r.2) }]
  finish := fun d =>
    let default : MessagingConfig := {}
    .ok { responseTimeoutMs := d.responseTimeoutMs.getD default.responseTimeoutMs
          unavailable := d.unavailable.getD default.unavailable
          connectTimeoutMs := d.connectTimeoutMs.getD default.connectTimeoutMs }

/-- How the creator's section is read. -/
def CreatorConfig.layout : Layout (Option UInt64) CreatorConfig where
  type := "CreatorConfig"
  empty := none
  fields := [
    { name := "cache_max_age_secs", found := (·.isSome)
      read := fun room c => (readUInt64 room c).map fun r => (fun _ => some r.1, r.2) }]
  finish := fun d =>
    let default : CreatorConfig := {}
    .ok { cacheMaxAgeSecs := d.getD default.cacheMaxAgeSecs }

/-- The fields of a configuration found so far. -/
structure BridgeConfig.Draft where
  version : Option UInt32 := none
  host : Option HostConfig := none
  messaging : Option MessagingConfig := none
  creator : Option CreatorConfig := none

/-- How a configuration is read. -/
def BridgeConfig.layout : Layout BridgeConfig.Draft BridgeConfig where
  type := "BridgeConfig"
  empty := {}
  fields := [
    { name := "version", found := (·.version.isSome)
      read := fun room c =>
        (readUInt32 room c).map fun r => (fun d => { d with version := some r.1 }, r.2) },
    { name := "host", found := (·.host.isSome)
      read := fun room c =>
        (HostConfig.layout.read room c).map fun r => (fun d => { d with host := some r.1 }, r.2) },
    { name := "messaging", found := (·.messaging.isSome)
      read := fun room c =>
        (MessagingConfig.layout.read room c).map fun r =>
          (fun d => { d with messaging := some r.1 }, r.2) },
    { name := "creator", found := (·.creator.isSome)
      read := fun room c =>
        (CreatorConfig.layout.read room c).map fun r =>
          (fun d => { d with creator := some r.1 }, r.2) }]
  finish := fun d =>
    let default : BridgeConfig := {}
    .ok { version := d.version.getD default.version, host := d.host.getD default.host
          messaging := d.messaging.getD default.messaging
          creator := d.creator.getD default.creator }

/-- The configuration that a text writes, valid or not. -/
def BridgeConfig.parse (text : String) : Except Refusal BridgeConfig :=
  readText BridgeConfig.layout.read text

end WebviewBridge
