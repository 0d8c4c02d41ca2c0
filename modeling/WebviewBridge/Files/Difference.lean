import WebviewBridge.Files.Step

/-!
# From one tree of files to another

The operations that bring files from one state to another.  Directories come first, each after its
parent.  A file is written beside its place and then renamed, and what is gone is removed at last.
-/

namespace WebviewBridge.FileTree

/-- The path of a place. -/
def pathOfPlace (p : Place) : String := pathOfNames true p

/-- The operations that put an entry at a place. -/
def arrange (p : Place) : Entry → List FileOp
  | .directory => [.makeDirs (pathOfPlace p)]
  | .file content mode =>
    let path := pathOfPlace p
    [.write (temporaryPath path) content mode, .rename (temporaryPath path) path]

/-- The entries of a tree that another does not have, those nearer to the root first. -/
def newEntries (old new : FileTree) : List (Place × Entry) :=
  (new.entries.filter fun e => old.get? e.1 ≠ some e.2).mergeSort
    fun x y => decide (x.1.length ≤ y.1.length)

/-- The files of a tree that another does not have. -/
def lostFiles (old new : FileTree) : List Place :=
  (old.entries.filter fun e => e.2 ≠ .directory ∧ new.get? e.1 = none).map (·.1)

/-- The operations that lead from a tree to another. -/
def difference (old new : FileTree) : List FileOp :=
  (newEntries old new).flatMap (fun e => arrange e.1 e.2)
    ++ (lostFiles old new).map fun p => .remove (pathOfPlace p)

end WebviewBridge.FileTree
