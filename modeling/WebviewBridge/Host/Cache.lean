import WebviewBridge.Config.Basic
import WebviewBridge.Host.Procedure
import WebviewBridge.Text.Duration

/-!
# The stored submission

To open another folder the editor starts again.  So a submission that creates a project is first
stored in a file, together with the creator's mode and the time, and is carried out after the next
start if it is still fresh.
-/

namespace WebviewBridge

open Json

/-- A submission as it is stored. -/
structure CachedSubmission where
  submission : SubmitIdea
  creator : CreatorState
  /-- Milliseconds since the epoch. -/
  timestamp : UInt64
deriving DecidableEq, Repr, Inhabited

namespace CachedSubmission

/-- The members of the record in the order in which they are written. -/
def members (r : CachedSubmission) : List (String × Value) :=
  [("submission", .obj r.submission.members), ("creatorState", .str r.creator.name),
    ("timestamp", .nat r.timestamp.toNat)]

/-- What the file of the record holds. -/
def fileText (r : CachedSubmission) : String := (Value.obj r.members).pretty

/-- The fields of a record found so far. -/
structure Draft where
  submission : Option SubmitIdea := none
  creator : Option CreatorState := none
  timestamp : Option UInt64 := none

/-- How a record is read. -/
def layout : Layout Draft CachedSubmission where
  type := "CachedSubmission"
  empty := {}
  fields := [
    { name := "submission", found := (·.submission.isSome)
      read := fun room c =>
        (SubmitIdea.layout.read room c).map fun r =>
          (fun d => { d with submission := some r.1 }, r.2) },
    { name := "creatorState", found := (·.creator.isSome)
      read := fun room c =>
        (nameValue CreatorState.names room c).map fun r =>
          (fun d => { d with creator := some r.1 }, r.2) },
    { name := "timestamp", found := (·.timestamp.isSome)
      read := fun room c =>
        (readUInt64 room c).map fun r => (fun d => { d with timestamp := some r.1 }, r.2) }]
  required := 3
  finish := fun d => do
    let submission ← required "submission" d.submission
    let creator ← required "creatorState" d.creator
    let timestamp ← required "timestamp" d.timestamp
    .ok { submission, creator, timestamp }

/-- The record that a text writes. -/
def parse (text : String) : Except Refusal CachedSubmission := readText layout.read text

/-- How old a record is, in milliseconds.  A record from the future has no age. -/
def age (r : CachedSubmission) (now : UInt64) : Nat := now.toNat - r.timestamp.toNat

/-- Whether a record is younger than a limit in milliseconds. -/
def isFresh (r : CachedSubmission) (now : UInt64) (maxAgeMs : Nat) : Bool := r.age now < maxAgeMs

end CachedSubmission

/-- The place of the stored submission. -/
structure SubmissionCache where
  dir : String
deriving DecidableEq, Repr, Inhabited

namespace SubmissionCache

/-- The name of the file that a submission is stored in. -/
def fileName : String := "creator_submission.json"

/-- The path of the file. -/
def path (c : SubmissionCache) : String := FilePath.join c.dir fileName

/-- The steps that write a record. -/
def writeSteps (c : SubmissionCache) (r : CachedSubmission) : List (FileStep HostError) :=
  let dir := FilePath.asParent c.dir
  let temporary := temporaryPath c.path
  [⟨.makeDirs dir, fun e => .cache dir e.message⟩,
    ⟨.write temporary r.fileText.toUTF8 publicMode, fun e => .cache temporary e.message⟩,
    ⟨.rename temporary c.path, fun e => .cache c.path e.message⟩]

/-- Stores a submission with the present time. -/
def store (c : SubmissionCache) (submission : SubmitIdea) (creator : CreatorState) :
    Handling Unit := do
  let timestamp : UInt64 ← Handling.ofEffect .clock
  Handling.steps (c.writeSteps { submission, creator, timestamp })

/-- What the content of the file, or the failure to read it, says about the record. -/
def recordOf (c : SubmissionCache) :
    Except IoError String → Except HostError (Option CachedSubmission)
  | .ok text =>
    match CachedSubmission.parse text with
    | .ok r => .ok (some r)
    | .error refusal => .error (.cache c.path refusal.message)
  | .error e => if e = .notFound then .ok none else .error (.cache c.path e.message)

/-- Reads the record, if there is a file. -/
def load (c : SubmissionCache) : Handling (Option CachedSubmission) := do
  let content : Except IoError String ← Handling.ofEffect (.readText c.path)
  Handling.ofExcept (c.recordOf content)

/-- Removes the file, if there is one. -/
def clear (c : SubmissionCache) : Handling Unit := do
  match ← (Handling.ofEffect (.change (.remove c.path)) : Handling (Except IoError Unit)) with
  | .ok () => pure ()
  | .error e => if e = .notFound then pure () else throw (.cache c.path e.message)

/-- Reads the record if it is younger than a limit.  With `remove` the file is removed afterwards,
whether the record was fresh or stale. -/
def takeFresh (c : SubmissionCache) (maxAgeMs : Nat) (remove : Bool) :
    Handling (Option CachedSubmission) := do
  match ← c.load with
  | none =>
    if remove then c.clear
    pure none
  | some r =>
    let now : UInt64 ← Handling.ofEffect .clock
    if r.isFresh now maxAgeMs then
      if remove then c.clear
      pure (some r)
    else
      Handling.log .info ("Cached creator submission is stale (" ++ Text.duration (r.age now)
        ++ " old), not replaying")
      if remove then c.clear
      pure none

end SubmissionCache

end WebviewBridge
