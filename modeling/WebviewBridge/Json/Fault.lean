import WebviewBridge.Json.Value
import WebviewBridge.Decimal.Shortest
import WebviewBridge.Text.Quoted

/-!
# Why a JSON text or value is refused

A `Cause` says what is wrong, either with the text itself or with the shape of the data in it.
A `Fault` adds the byte at which a text was refused, and `Refusal` the line and column of that
byte; the data of a value that is already parsed has no position.
-/

namespace WebviewBridge.Json

/-- What stood where something else was expected. -/
inductive Found where
  | null
  | bool (b : Bool)
  | number (n : Number)
  | string (s : String)
  | sequence
  | map
deriving DecidableEq, Repr

/-- The kind of thing that a value is. -/
def Found.ofValue : Value → Found
  | .null => .null
  | .bool b => .bool b
  | .num n => .number n
  | .str s => .string s
  | .arr _ => .sequence
  | .obj _ => .map

/-- A name in backticks. -/
def ticked (s : String) : String := "\x60" ++ s ++ "\x60"

/-- How messages describe what they found. -/
def Found.describe : Found → String
  | .null => "null"
  | .bool b => "boolean " ++ ticked (if b then "true" else "false")
  | .number (.int n) => "integer " ++ ticked (toString n)
  | .number (.double x) => "floating point " ++ ticked (String.ofList x.text)
  | .string s => "string " ++ Text.quoted s
  | .sequence => "sequence"
  | .map => "map"

/-- What is wrong with a text or with the data in it. -/
inductive Cause where
  /-- The text ends where a value has to stand. -/
  | endInValue
  /-- The text ends inside a string. -/
  | endInString
  /-- The text ends inside an array. -/
  | endInList
  /-- The text ends inside an object. -/
  | endInObject
  /-- No value starts with this character. -/
  | expectedValue
  /-- A literal is misspelt. -/
  | expectedIdent
  /-- No colon follows a key. -/
  | expectedColon
  /-- Neither a comma nor the end follows an item of an array. -/
  | expectedListEnd
  /-- Neither a comma nor the end follows a member of an object. -/
  | expectedObjectEnd
  /-- A key does not start with a quote. -/
  | keyNotString
  /-- A comma stands before the closing bracket. -/
  | trailingComma
  /-- Something follows the end. -/
  | trailingCharacters
  /-- A number breaks the grammar of numbers. -/
  | invalidNumber
  /-- A number is too large for a double. -/
  | numberOutOfRange
  /-- An escape that does not exist. -/
  | invalidEscape
  /-- A control below the space inside a string. -/
  | controlCharacter
  /-- The second half of a surrogate pair without the first, or another escape after it. -/
  | loneSurrogate
  /-- The first half of a surrogate pair without an escape after it. -/
  | unfinishedPair
  /-- The nesting is too deep. -/
  | tooDeep
  /-- A value of the wrong type. -/
  | invalidType (found : Found) (expected : String)
  /-- A value of the right type that is not admitted. -/
  | invalidValue (found : Found) (expected : String)
  /-- A sequence or map of the wrong length. -/
  | invalidLength (length : Nat) (expected : String)
  /-- A field without default is absent. -/
  | missingField (name : String)
  /-- A field occurs twice. -/
  | duplicateField (name : String)
  /-- A name that is none of the admitted ones. -/
  | unknownVariant (name : String) (admitted : List String)
  /-- None of the alternatives of a type fits. -/
  | noAlternative (type : String)
deriving DecidableEq, Repr

/-- The admitted names as messages list them. -/
def expectedNames : List String → String
  | [] => "there are no variants"
  | [a] => "expected " ++ ticked a
  | [a, b] => "expected " ++ ticked a ++ " or " ++ ticked b
  | names => "expected one of " ++ String.intercalate ", " (names.map ticked)

/-- The wording of a cause. -/
def Cause.message : Cause → String
  | endInValue => "EOF while parsing a value"
  | endInString => "EOF while parsing a string"
  | endInList => "EOF while parsing a list"
  | endInObject => "EOF while parsing an object"
  | expectedValue => "expected value"
  | expectedIdent => "expected ident"
  | expectedColon => "expected " ++ ticked ":"
  | expectedListEnd => "expected " ++ ticked "," ++ " or " ++ ticked "]"
  | expectedObjectEnd => "expected " ++ ticked "," ++ " or " ++ ticked "\x7d"
  | keyNotString => "key must be a string"
  | trailingComma => "trailing comma"
  | trailingCharacters => "trailing characters"
  | invalidNumber => "invalid number"
  | numberOutOfRange => "number out of range"
  | invalidEscape => "invalid escape"
  | controlCharacter => "control character (\\u0000-\\u001F) found while parsing a string"
  | loneSurrogate => "lone leading surrogate in hex escape"
  | unfinishedPair => "unexpected end of hex escape"
  | tooDeep => "recursion limit exceeded"
  | invalidType found expected => "invalid type: " ++ found.describe ++ ", expected " ++ expected
  | invalidValue found expected =>
    "invalid value: " ++ found.describe ++ ", expected " ++ expected
  | invalidLength n expected => "invalid length " ++ toString n ++ ", expected " ++ expected
  | missingField name => "missing field " ++ ticked name
  | duplicateField name => "duplicate field " ++ ticked name
  | unknownVariant name admitted =>
    "unknown variant " ++ ticked name ++ ", " ++ expectedNames admitted
  | noAlternative type => "data did not match any variant of untagged enum " ++ type

/-- A cause and the byte of the text at which it was noticed. -/
structure Fault where
  cause : Cause
  /-- The number of bytes of the text before that place. -/
  offset : Nat
deriving DecidableEq, Repr

/-- A place in a text: lines count from one, columns are bytes since the line began. -/
structure Position where
  line : Nat
  column : Nat
deriving DecidableEq, Repr

namespace Position

/-- Walks over characters from a byte offset, keeping the line and the offset of its start. -/
def locate (target : Nat) : List Char → (offset line start : Nat) → Position
  | [], _, line, start => ⟨line, target - start⟩
  | c :: cs, offset, line, start =>
    if offset < target then
      if c = '\n' then locate target cs (offset + 1) (line + 1) (offset + 1)
      else locate target cs (offset + c.utf8Size) line start
    else ⟨line, target - start⟩

/-- The place of a byte of a text. -/
def ofOffset (text : List Char) (offset : Nat) : Position := locate offset text 0 1 0

end Position

/-- Why a text was refused, and where. -/
structure Refusal where
  cause : Cause
  position : Position
deriving DecidableEq, Repr

/-- The wording of a refusal, with its position. -/
def Refusal.message (r : Refusal) : String :=
  r.cause.message ++ " at line " ++ toString r.position.line ++ " column "
    ++ toString r.position.column

/-- Finds the line and column of a fault. -/
def Fault.inText (f : Fault) (text : String) : Refusal :=
  ⟨f.cause, Position.ofOffset text.toList f.offset⟩

end WebviewBridge.Json
