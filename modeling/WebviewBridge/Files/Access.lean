import WebviewBridge.IoError

/-!
# Uses of the file system

What is done with the entry at a place, and what may go wrong with it for reasons of the system's
own: the disk is full, a permission is missing, a device fails.
-/

namespace WebviewBridge

/-- The names that lead from the root to a file or directory. -/
abbrev Place := List String

/-- A use of what stands at a place, or shall stand there. -/
inductive Access where
  | read (p : Place)
  | makeDir (p : Place)
  | write (p : Place)
  | rename (source target : Place)
  | remove (p : Place)
deriving DecidableEq, Repr

/-- What is in the way of a use. -/
structure Hindrance where
  /-- The number of the system's reason. -/
  reason : Int
  /-- That nothing stands at a place is never in the way; it is seen from the entries. -/
  reason_ne : IoError.os reason ≠ .notFound := by decide
  /-- For a write: how many bytes the file holds in the end, when it could be opened at all. -/
  written : Option Nat := none
deriving DecidableEq, Repr

/-- The error that a hindrance is reported as. -/
def Hindrance.error (x : Hindrance) : IoError := .os x.reason

end WebviewBridge
