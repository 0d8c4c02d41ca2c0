import WebviewBridge.App.Paths
import WebviewBridge.Catalog.Tokens
import WebviewBridge.Config.Overrides
import WebviewBridge.Text.Utf8

/-!
# The variables of the process

A variable holds bytes.  Where a text is wanted, one that is no text counts as not set.
-/

namespace WebviewBridge

/-- The variables of a process with their bytes. -/
abbrev Variables := List (String × List UInt8)

namespace Variables

/-- The variables of a block of bytes in which each is ended by a zero byte. -/
def ofBlock (block : List UInt8) : Variables :=
  (block.splitOn 0).filterMap fun entry =>
    let name := entry.takeWhile (· ≠ 0x3d)
    match entry.drop name.length with
    | _ :: value => (Text.decodeStrict? name).map (·, value)
    | [] => none

/-- The bytes of a variable, if it is set. -/
def bytes? (v : Variables) (name : String) : Option (List UInt8) := v.lookup name

/-- The text of a variable, if it is set to one. -/
def text? (v : Variables) (name : String) : Option String :=
  (v.bytes? name).bind Text.decodeStrict?

/-- The bytes of what a text names, if it is set.  An equals sign in the text ends the name of a
variable, and what follows it is the front of its value, up to another equals sign. -/
def lookUp? (v : Variables) (text : String) : Option (List UInt8) :=
  match text.toList.span (· ≠ '=') with
  | ([], _) => none
  | (name, []) => v.bytes? (String.ofList name)
  | (name, _ :: front) =>
    (v.bytes? (String.ofList name)).bind
      ((front ++ ['=']).flatMap String.utf8EncodeChar).isPrefixOf?

/-- A variable as a path. -/
def path? (v : Variables) (name : String) : Option String :=
  (v.bytes? name).map Text.decodeLossy

/-- Unsets a variable. -/
def unset (v : Variables) (name : String) : Variables := v.filter (·.1 ≠ name)

/-- Sets a variable. -/
def set (v : Variables) (name : String) (bytes : List UInt8) : Variables :=
  (name, bytes) :: v.unset name

/-- The home directory; an empty variable names none. -/
def home? (v : Variables) : Option String := (v.path? "HOME").filter (!·.isEmpty)

/-- The texts of the variables, for overrides. -/
def environment (v : Variables) : Environment := v.text?

/-- What the variables say about the user's directories. -/
def userDirs (v : Variables) : UserDirs :=
  { home := v.home?, configHome := v.path? "XDG_CONFIG_HOME", dataHome := v.path? "XDG_DATA_HOME" }

/-- The account tokens that the variables hold. -/
def credentials (v : Variables) : Credentials :=
  .ofTokens (v.text? "NELLIE_ACCESS_TOKEN") (v.text? "NELLIE_REFRESH_TOKEN")

end Variables

end WebviewBridge
