import WebviewBridge.Config.Basic
import WebviewBridge.Log

/-!
# Overrides from the environment

Three variables override the port, the token and the time that a messenger waits.  They are
applied in this order, and the result has to be valid.
-/

namespace WebviewBridge

/-- The texts of the environment's variables.  A variable that is no text is not set. -/
abbrev Environment := String → Option String

/-- The variable of the port. -/
def portVariable : String := "NELLIE_BRIDGE_PORT"

/-- The variable of the token. -/
def tokenVariable : String := "NELLIE_BRIDGE_TOKEN"

/-- The variable of the time to wait for a reply, in milliseconds. -/
def timeoutVariable : String := "NELLIE_BRIDGE_TIMEOUT_MS"

/-! ## Numbers in variables -/

/-- Why a text is not a number. -/
inductive NumberFlaw where
  | empty
  | invalidDigit
  | tooLarge
deriving DecidableEq, Repr

/-- The wording of a flaw. -/
def NumberFlaw.message : NumberFlaw → String
  | empty => "cannot parse integer from empty string"
  | invalidDigit => "invalid digit found in string"
  | tooLarge => "number too large to fit in target type"

/-- Reads decimal digits up to a limit; the first character that is no digit, or with which the
number exceeds the limit, decides what is wrong. -/
def parseDigits (limit : Nat) : Nat → List Char → Except NumberFlaw Nat
  | n, [] => .ok n
  | n, c :: cs =>
    if !c.isDigit then .error .invalidDigit
    else
      let m := 10 * n + (c.toNat - '0'.toNat)
      if m > limit then .error .tooLarge else parseDigits limit m cs

/-- Reads a natural number up to a limit: an optional plus sign and at least one digit. -/
def parseNatural (limit : Nat) (text : List Char) : Except NumberFlaw Nat :=
  match text with
  | [] => .error .empty
  | ['+'] => .error .invalidDigit
  | '+' :: cs => parseDigits limit 0 cs
  | cs => parseDigits limit 0 cs

/-- Reads the number in a variable's text, whatever white space surrounds it. -/
def numberOverride (limit : Nat) (variableName value : String) : Except ConfigError Nat :=
  match parseNatural limit (Text.trimChars value.toList) with
  | .ok n => .ok n
  | .error flaw => .error (.environment variableName value flaw.message)

/-! ## Applying -/

/-- What applying overrides leaves: the configuration, what was logged, and the error that
stopped it, if any. -/
structure Overridden where
  config : BridgeConfig
  log : List LogEntry
  outcome : Except ConfigError Unit

/-- Overrides the port. -/
def BridgeConfig.overridePort (c : BridgeConfig) (value : String) : Except ConfigError BridgeConfig :=
  (numberOverride (UInt16.size - 1) portVariable value).map fun n =>
    { c with host := { c.host with port := UInt16.ofNat n } }

/-- Overrides the token. -/
def BridgeConfig.overrideToken (c : BridgeConfig) (value : String) : BridgeConfig :=
  { c with host := { c.host with authToken := some value } }

/-- Overrides the time to wait for a reply. -/
def BridgeConfig.overrideTimeout (c : BridgeConfig) (value : String) :
    Except ConfigError BridgeConfig :=
  (numberOverride (UInt64.size - 1) timeoutVariable value).map fun n =>
    { c with messaging := { c.messaging with responseTimeoutMs := UInt64.ofNat n } }

/-- Applies the override of one variable, if it is set and nothing has failed. -/
def Overridden.step (o : Overridden) (value : Option String)
    (override : BridgeConfig → String → Except ConfigError BridgeConfig)
    (report : BridgeConfig → String) : Overridden :=
  match o.outcome, value with
  | .ok (), some v =>
    match override o.config v with
    | .ok c => { config := c, log := o.log ++ [.bridge .info (report c)], outcome := .ok () }
    | .error e => { o with outcome := .error e }
  | _, _ => o

/-- Applies the overrides of an environment and validates the result.  What was applied before
an error stays applied. -/
def BridgeConfig.applyOverrides (c : BridgeConfig) (env : Environment) : Overridden :=
  let o : Overridden := { config := c, log := [], outcome := .ok () }
  let o := o.step (env portVariable) BridgeConfig.overridePort fun c =>
    "Port overridden from " ++ portVariable ++ ": " ++ toString c.host.port.toNat
  let o := o.step (env tokenVariable) (fun c v => .ok (c.overrideToken v)) fun _ =>
    "Auth token overridden from " ++ tokenVariable
  let o := o.step (env timeoutVariable) BridgeConfig.overrideTimeout fun c =>
    "Response timeout overridden from " ++ timeoutVariable ++ ": "
      ++ toString c.messaging.responseTimeoutMs.toNat ++ "ms"
  match o.outcome with
  | .ok () => { o with outcome := o.config.validate }
  | .error _ => o

end WebviewBridge
