import WebviewBridge.Text.Blank

/-!
# Secrets

A token that may be shown to nobody.  Its descriptions tell at most its length, and it refuses
to be written as part of a message.
-/

namespace WebviewBridge

/-- A token that is never shown by accident. -/
structure Secret where
  /-- The token in clear, for the places that transmit it. -/
  expose : String
deriving DecidableEq, Repr

namespace Secret

/-- The number of bytes of the token. -/
def size (s : Secret) : Nat := s.expose.utf8ByteSize

/-- Whether the token has no characters. -/
def isEmpty (s : Secret) : Bool := s.expose.isEmpty

/-- What the token looks like among other data. -/
def description (s : Secret) : String :=
  "RedactedToken([REDACTED; " ++ toString s.size ++ " chars])"

/-- What the token looks like in a text. -/
def display (_ : Secret) : String := "[REDACTED TOKEN]"

/-- Why a token is not written as part of a message, whatever it is. -/
def writeRefusal : String :=
  "Secret Serialization Refused: RedactedToken cannot be serialized - use expose() explicitly"

/-- Writing a token as part of a message: always refused. -/
def write (_ : Secret) : Except String String := .error writeRefusal

/-- The secret of a token, unless it is blank. -/
def ofToken (token : Option String) : Option Secret :=
  (token.filter fun t => !Text.isBlank t).map Secret.mk

end Secret

/-- How an optional thing looks among other data. -/
def describeOption : Option String → String
  | some text => "Some(" ++ text ++ ")"
  | none => "None"

end WebviewBridge
