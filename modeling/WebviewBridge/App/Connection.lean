import WebviewBridge.Config.Basic
import WebviewBridge.Files.Step
import WebviewBridge.Secret

/-!
# The connection file

A running host writes its port and token to a file that only its owner may read, so that a
launcher can connect webviews to it.
-/

namespace WebviewBridge

open Json

/-- What a launcher has to know. -/
structure ConnectionInfo where
  port : UInt16
  token : Secret
deriving DecidableEq, Repr

/-- The name of the connection file. -/
def connectionFileName : String := "bridge_connection.json"

namespace ConnectionInfo

/-- The path of the connection file in a directory. -/
def filePath (dir : String) : String := FilePath.join dir connectionFileName

/-- How the information looks among other data, without the token. -/
def description (i : ConnectionInfo) : String :=
  "ConnectionInfo \x7b port: " ++ toString i.port.toNat ++ ", auth_token: " ++ i.token.description
    ++ " \x7d"

/-- The members of the file in the order in which they are written. -/
def members (i : ConnectionInfo) : List (String × Value) :=
  [("port", .nat i.port.toNat), ("authToken", .str i.token.expose)]

/-- What the file holds. -/
def fileText (i : ConnectionInfo) : String := (Value.obj i.members).pretty

/-- The fields of the file found so far. -/
structure Draft where
  port : Option UInt16 := none
  token : Option String := none

/-- How the file is read. -/
def layout : Layout Draft ConnectionInfo where
  type := "ConnectionFile"
  empty := {}
  fields := [
    { name := "port", found := (·.port.isSome)
      read := fun room c =>
        (readUInt16 room c).map fun r => (fun d => { d with port := some r.1 }, r.2) },
    { name := "authToken", found := (·.token.isSome)
      read := fun room c =>
        (textValue room c).map fun r => (fun d => { d with token := some r.1 }, r.2) }]
  required := 2
  finish := fun d => do
    let port ← required "port" d.port
    let token ← required "authToken" d.token
    .ok ⟨port, ⟨token⟩⟩

/-- The steps that write the file into a directory. -/
def writeSteps (i : ConnectionInfo) (dir : String) : List (FileStep AppError) :=
  let path := filePath dir
  let temporary := temporaryPath path
  [⟨.write temporary i.fileText.toUTF8 ownerMode,
      fun e => .app ("Failed to write " ++ temporary ++ ": " ++ e.message)⟩,
    ⟨.rename temporary path,
      fun e => .app ("Failed to replace " ++ path ++ ": " ++ e.message)⟩]

/-- Writes the file into a directory. -/
def write (i : ConnectionInfo) (t : FileTree) (dir : String) : FileTree × Except AppError Unit :=
  runSteps (i.writeSteps dir) t

/-- Reads the file of a directory. -/
def read (t : FileTree) (dir : String) : Except AppError ConnectionInfo :=
  let path := filePath dir
  match t.readText path with
  | .error e => .error (.app ("Failed to read " ++ path ++ ": " ++ e.message))
  | .ok text =>
    match Json.readText layout.read text with
    | .error r => .error (.app ("Failed to parse " ++ path ++ ": " ++ r.message))
    | .ok i => .ok i

/-- Removes the file of a directory, if that is possible. -/
def remove (t : FileTree) (dir : String) : FileTree := (FileOp.run t (.remove (filePath dir))).1

end ConnectionInfo

end WebviewBridge
