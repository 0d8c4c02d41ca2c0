import WebviewBridge.Files.Access
import WebviewBridge.Files.Path

/-!
# A tree of files

The files and directories that the program can see, and the operations on them.  Every operation
either succeeds or fails with the system's reason.  A failed operation leaves the tree as it was,
except that the creation of several directories keeps those already created, and a hindered write
may leave a part of the content.
-/

namespace WebviewBridge

/-- What stands at a place. -/
inductive Entry where
  /-- A file: its bytes, and who may use it, as an octal mode. -/
  | file (content : ByteArray) (mode : Nat)
  | directory

instance : DecidableEq Entry
  | .directory, .directory => isTrue rfl
  | .directory, .file _ _ => isFalse Entry.noConfusion
  | .file _ _, .directory => isFalse Entry.noConfusion
  | .file ⟨a⟩ m, .file ⟨b⟩ n =>
    if h : a = b ∧ m = n then isTrue (by rw [h.1, h.2])
    else isFalse fun e => by cases e; exact h ⟨rfl, rfl⟩

/-- The files and directories below the root. -/
structure FileTree where
  entries : List (Place × Entry)
  /-- Where paths lead from that do not start at the root. -/
  workingDir : Place := []
  /-- What the system has against a use of them. -/
  hindrance? : Access → Option Hindrance := fun _ => none

namespace FileTree

/-- An empty root. -/
def empty : FileTree := { entries := [] }

instance : Inhabited FileTree := ⟨empty⟩

/-! ## Places -/

/-- What stands at a place; the root is always a directory. -/
def get? (t : FileTree) (p : Place) : Option Entry :=
  if p = [] then some .directory else t.entries.lookup p

/-- The tree with an entry at a place. -/
def put (t : FileTree) (p : Place) (e : Entry) : FileTree :=
  { t with entries := (p, e) :: t.entries.filter (·.1 ≠ p) }

/-- The tree without anything at a place. -/
def erase (t : FileTree) (p : Place) : FileTree :=
  { t with entries := t.entries.filter (·.1 ≠ p) }

/-- The greatest number of bytes of a name. -/
def nameLimit : Nat := 255

/-- The greatest number of bytes of a path. -/
def pathLimit : Nat := 4095

/-- Refuses a use that the system has something against. -/
def allow (t : FileTree) (a : Access) : Except IoError Unit :=
  match t.hindrance? a with
  | some x => .error x.error
  | none => .ok ()

/-- The tree where the system has this against a use, or nothing any more. -/
def hinder (t : FileTree) (a : Access) (x : Option Hindrance) : FileTree :=
  if t.hindrance? a = x then t
  else { t with hindrance? := fun b => if b = a then x else t.hindrance? b }

/-- Refuses to go on from what is no directory. -/
def enter (t : FileTree) (p : Place) : Except IoError Unit :=
  match t.get? p with
  | some .directory => .ok ()
  | some (.file _ _) => .error .notDirectory
  | none => .error .notFound

/-- Follows names from a place.  Everything but the last name has to lead to a directory. -/
def follow (t : FileTree) : Place → List String → Except IoError Place
  | p, [] => .ok p
  | p, name :: rest => do
    t.enter p
    if name = "." then follow t p rest
    else if name = ".." then follow t p.dropLast rest
    else if name.utf8ByteSize > nameLimit then .error .nameTooLong
    else follow t (p ++ [name]) rest

/-- The place that a path leads to, whether or not something stands there. -/
def locate (t : FileTree) (path : String) : Except IoError Place :=
  if path.isEmpty then .error .notFound
  else if path.contains '\x00' then .error .nulInPath
  else if path.utf8ByteSize > pathLimit then .error .nameTooLong
  else t.follow (if FilePath.isAbsolute path then [] else t.workingDir) (FilePath.names path)

/-- The place that the path of a file leads to.  No file is behind a path that ends in a slash. -/
def locateFile (t : FileTree) (path : String) : Except IoError Place := do
  let p ← t.locate path
  if FilePath.endsInSlash path then t.enter p
  return p

/-! ## Looking -/

/-- Whether something stands where a path leads. -/
def exists? (t : FileTree) (path : String) : Bool :=
  match t.locateFile path with
  | .ok p => (t.get? p).isSome
  | .error _ => false

/-- Whether a path leads to a directory. -/
def isDirectory (t : FileTree) (path : String) : Bool :=
  match t.locate path with
  | .ok p => t.get? p == some .directory
  | .error _ => false

/-- Whether a path leads to a file. -/
def isFile (t : FileTree) (path : String) : Bool :=
  match t.locateFile path with
  | .ok p =>
    match t.get? p with
    | some (.file _ _) => true
    | _ => false
  | .error _ => false

/-- The bytes of a file. -/
def read (t : FileTree) (path : String) : Except IoError ByteArray := do
  let p ← t.locateFile path
  t.allow (.read p)
  match t.get? p with
  | some (.file content _) => .ok content
  | some .directory => .error .isDirectory
  | none => .error .notFound

/-- The text of a file. -/
def readText (t : FileTree) (path : String) : Except IoError String := do
  let content ← t.read path
  match String.fromUTF8? content with
  | some text => .ok text
  | none => .error .invalidUtf8

/-- The mode of a file. -/
def mode? (t : FileTree) (path : String) : Option Nat :=
  match t.locateFile path with
  | .ok p =>
    match t.get? p with
    | some (.file _ mode) => some mode
    | _ => none
  | .error _ => none

/-- The places below a place with their entries, each as the names that lead on from there. -/
def below (t : FileTree) (p : Place) : List (Place × Entry) :=
  t.entries.filterMap fun e =>
    if p.isPrefixOf e.1 && e.1 ≠ p then some (e.1.drop p.length, e.2) else none

/-- The paths of everything below a directory, in order; those of directories end in a slash. -/
def listing (t : FileTree) (path : String) : List String :=
  match t.locate path with
  | .error _ => []
  | .ok p =>
    let shown (e : Place × Entry) : String :=
      String.intercalate "/" e.1 ++ if e.2 = .directory then "/" else ""
    ((t.below p).map shown).mergeSort fun a b => decide (a ≤ b)

/-! ## Changing -/

/-- The tree with a new directory where a path leads. -/
def makeDir (t : FileTree) (path : String) : Except IoError FileTree := do
  let p ← t.locate path
  match t.get? p with
  | some _ => .error .exists_
  | none =>
    t.allow (.makeDir p)
    .ok (t.put p .directory)

/-- Puts a file at a place, unless the system has something against it. -/
def putFile (t : FileTree) (p : Place) (content : ByteArray) (mode : Nat) :
    FileTree × Except IoError Unit :=
  match t.hindrance? (.write p) with
  | none => (t.put p (.file content mode), .ok ())
  | some x =>
    match x.written with
    | none => (t, .error x.error)
    | some n => (t.put p (.file (content.extract 0 n) mode), .error x.error)

/-- Writes the given bytes to the file where a path leads.  A file that is there already keeps its
mode. -/
def write (t : FileTree) (path : String) (content : ByteArray) (mode : Nat) :
    FileTree × Except IoError Unit :=
  match t.locate path with
  | .error e => (t, .error e)
  | .ok p =>
    if FilePath.endsInSlash path then (t, .error .isDirectory)
    else match t.get? p with
    | some .directory => (t, .error .isDirectory)
    | some (.file _ old) => t.putFile p content old
    | none => t.putFile p content mode

/-- The tree with a file moved to another place, over a file that is there. -/
def rename (t : FileTree) (source target : String) : Except IoError FileTree := do
  let p ← t.locateFile source
  let q ← t.locate target
  t.allow (.rename p q)
  match t.get? p, t.get? q with
  | some (.file content mode), some (.file _ _) | some (.file content mode), none =>
    .ok ((t.erase p).put q (.file content mode))
  | some (.file _ _), some .directory => .error .isDirectory
  | some .directory, _ => .error .isDirectory
  | none, _ => .error .notFound

/-- The tree without the file where a path leads. -/
def remove (t : FileTree) (path : String) : Except IoError FileTree := do
  let p ← t.locateFile path
  t.allow (.remove p)
  match t.get? p with
  | some (.file _ _) => .ok (t.erase p)
  | some .directory => .error .isDirectory
  | none => .error .notFound

/-- The tree without a place and everything below it. -/
def removeAll (t : FileTree) (p : Place) : FileTree :=
  { t with entries := t.entries.filter fun e => !p.isPrefixOf e.1 }

/-! ## Creating directories with their parents -/

/-- The path of some names, from the root or not. -/
def pathOfNames (absolute : Bool) (ns : List String) : String :=
  (if absolute then "/" else "") ++ String.intercalate "/" ns

/-- Creates a directory whose parents exist.  A directory that is there already will do. -/
def ensureDir (t : FileTree) (path : String) : FileTree × Except IoError Unit :=
  match t.makeDir path with
  | .ok t => (t, .ok ())
  | .error e => if t.isDirectory path then (t, .ok ()) else (t, .error e)

/-- Creates a directory and the parents that are missing; the number of names bounds the steps
upwards. -/
def makeDirsFrom (absolute : Bool) :
    (steps : Nat) → List String → FileTree → String → FileTree × Except IoError Unit
  | 0, _, t, path => t.ensureDir path
  | steps + 1, ns, t, path =>
    match t.makeDir path with
    | .ok t => (t, .ok ())
    | .error .notFound =>
      let parent := FilePath.dropLastName ns
      if parent.isEmpty then t.ensureDir path
      else
        match makeDirsFrom absolute steps parent t (pathOfNames absolute parent) with
        | (t, .ok ()) => t.ensureDir path
        | (t, .error e) => (t, .error e)
    | .error e => if t.isDirectory path then (t, .ok ()) else (t, .error e)

/-- Creates a directory and the parents that are missing. -/
def makeDirs (t : FileTree) (path : String) : FileTree × Except IoError Unit :=
  if path.isEmpty then (t, .ok ())
  else
    let ns := FilePath.names path
    makeDirsFrom (FilePath.isAbsolute path) ns.length ns t path

/-- The tree with a file of the given bytes where a path leads, below new parents if they are
missing.  What is in the way stays in the way. -/
def install (t : FileTree) (path : String) (content : ByteArray) (mode : Nat) : FileTree :=
  let parent := FilePath.dropLastName (FilePath.names path)
  let t := (t.makeDirs (pathOfNames (FilePath.isAbsolute path) parent)).1
  (t.write path content mode).1

/-- The tree without what stands where a path leads, and without everything below it.  A directory
that is named by dots is emptied only. -/
def discard (t : FileTree) (path : String) : FileTree :=
  match t.locateFile path with
  | .error _ => t
  | .ok p =>
    let rest := t.removeAll p
    if FilePath.endsInDots path then rest.put p .directory else rest

end FileTree

end WebviewBridge
