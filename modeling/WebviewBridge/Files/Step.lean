import WebviewBridge.Files.Tree

/-!
# Changes to files as lists of steps

A change to files is a list of single operations, each with the error to report when it fails.
The list runs until a step fails.  A file is replaced by writing its new content beside it and
renaming that over it, so nobody sees a part of the new content under the file's name.
-/

namespace WebviewBridge

/-- One operation on the file tree. -/
inductive FileOp where
  /-- Creates a directory and its missing parents. -/
  | makeDirs (path : String)
  | write (path : String) (content : ByteArray) (mode : Nat)
  | rename (source target : String)
  | remove (path : String)

namespace FileOp

/-- Carries an operation out. -/
def run (t : FileTree) : FileOp → FileTree × Except IoError Unit
  | makeDirs path => t.makeDirs path
  | write path content mode => t.write path content mode
  | rename source target => settle (t.rename source target)
  | remove path => settle (t.remove path)
where
  /-- Keeps the tree as it was when an operation fails. -/
  settle : Except IoError FileTree → FileTree × Except IoError Unit
    | .ok new => (new, .ok ())
    | .error e => (t, .error e)

end FileOp

/-- An operation together with the error that its failure is reported as. -/
structure FileStep (ε : Type) where
  op : FileOp
  blame : IoError → ε

/-- Carries steps out in order until one fails. -/
def runSteps {ε : Type} : List (FileStep ε) → FileTree → FileTree × Except ε Unit
  | [], t => (t, .ok ())
  | s :: rest, t =>
    match s.op.run t with
    | (t, .ok ()) => runSteps rest t
    | (t, .error e) => (t, .error (s.blame e))

/-- The mode of a file that everybody may read. -/
def publicMode : Nat := 0o644

/-- The mode of a file that only its owner may use. -/
def ownerMode : Nat := 0o600

/-- The file beside a file that its new content is written to. -/
def temporaryPath (path : String) : String := path ++ ".tmp"

end WebviewBridge
