import WebviewBridge.Catalog.Fields
import WebviewBridge.Json.Printer

/-!
# Submitted ideas

The overlay of the creator submits an idea as an object with a request, optionally the type and
the folder of a project to create, and any further members, which are kept.
-/

namespace WebviewBridge

open Json Catalog

/-- An idea that was submitted from the overlay. -/
structure SubmitIdea where
  request : String
  /-- The type of the project to create. -/
  projectType : Option String
  /-- The folder of the project to create. -/
  projectPath : Option String
  /-- All other members of the submission. -/
  extra : Members
deriving DecidableEq, Repr, Inhabited

namespace SubmitIdea

/-- A submission of a request only. -/
def ofRequest (request : String) : SubmitIdea := ⟨request, none, none, []⟩

/-- The project type of a submission that asks for no project. -/
def noProject : String := "NONE"

/-- The folder to create, if the submission asks for a project: it has a path that is not empty,
and its type is not the one that stands for no project. -/
def newProjectPath (s : SubmitIdea) : Option String :=
  match s.projectPath with
  | some path =>
    if path.isEmpty ∨ s.projectType = some noProject then none else some path
  | none => none

/-! ## Writing -/

/-- An optional string as a member, left out when absent. -/
def optionalMember (key : String) : Option String → List (String × Value)
  | some s => [(key, .str s)]
  | none => []

/-- The members of the submission in the order in which they are written. -/
def members (s : SubmitIdea) : List (String × Value) :=
  ("request", .str s.request) :: optionalMember "newProjectType" s.projectType
    ++ optionalMember "newProjectPath" s.projectPath ++ s.extra

/-- The submission as a value. -/
def encode (s : SubmitIdea) : Value := Value.object s.members

/-! ## Reading -/

/-- The members of a submission found so far. -/
structure Draft where
  request : Option String := none
  projectType : Option (Option String) := none
  projectPath : Option (Option String) := none
  extra : List (String × Value) := []

/-- Keeps one member. -/
def Draft.add (d : Draft) (m : String × Value) : Except Cause Draft :=
  match m with
  | (key, v) =>
    if key = "request" then
      if d.request.isSome then .error (.duplicateField key)
      else (decodeText v).map fun s => { d with request := some s }
    else if key = "newProjectType" then
      if d.projectType.isSome then .error (.duplicateField key)
      else (decodeOptionalText v).map fun s => { d with projectType := some s }
    else if key = "newProjectPath" then
      if d.projectPath.isSome then .error (.duplicateField key)
      else (decodeOptionalText v).map fun s => { d with projectPath := some s }
    else .ok { d with extra := d.extra ++ [(key, v)] }

/-- The submission of the members found. -/
def Draft.finish (d : Draft) : Except Cause SubmitIdea := do
  let request ← required "request" d.request
  .ok { request, projectType := d.projectType.join, projectPath := d.projectPath.join
        extra := Members.ofList d.extra }

/-- The submission that a list of members writes. -/
def ofMembers (ms : List (String × Value)) : Except Cause SubmitIdea := do
  let d ← ms.foldlM Draft.add {}
  d.finish

/-- The submission that a value writes. -/
def decode : Value → Except Cause SubmitIdea
  | .obj ms => ofMembers ms
  | v => refuse v (structName "SubmitIdea")

/-- How a submission is read from a text. -/
def layout : Layout Draft SubmitIdea where
  type := "SubmitIdea"
  empty := {}
  fields := [
    { name := "request", found := (·.request.isSome)
      read := fun room c => do
        let (x, c) ← textValue room c
        .ok (fun d => { d with request := some x }, c) },
    { name := "newProjectType", found := (·.projectType.isSome)
      read := fun room c => do
        let (x, c) ← orNull textValue room c
        .ok (fun d => { d with projectType := some x }, c) },
    { name := "newProjectPath", found := (·.projectPath.isSome)
      read := fun room c => do
        let (x, c) ← orNull textValue room c
        .ok (fun d => { d with projectPath := some x }, c) }]
  other := some fun key v d => { d with extra := d.extra ++ [(key, v)] }
  finish := Draft.finish

end SubmitIdea

/-! ## Requests to carry out a plan -/

/-- What the editor is asked to carry out: a plan and the submission that it comes from. -/
structure ExecutePlanRequest where
  plan : String
  submission : SubmitIdea
deriving DecidableEq, Repr

namespace ExecutePlanRequest

/-- The plan of a submission is its request. -/
def ofSubmission (s : SubmitIdea) : ExecutePlanRequest := ⟨s.request, s⟩

/-- The members of the request in the order in which they are written. -/
def members (r : ExecutePlanRequest) : List (String × Value) :=
  ("plan", .str r.plan) :: r.submission.members

/-- The text of the request. -/
def text (r : ExecutePlanRequest) : String := recordText r.members

/-- The members found so far: the plan, and all others in order. -/
structure Draft where
  plan : Option String := none
  others : List (String × Value) := []

/-- How a request is read: the submission is made of all members but the plan. -/
def layout : Layout Draft ExecutePlanRequest where
  type := "ExecutePlanRequest"
  empty := {}
  fields := [
    { name := "plan", found := (·.plan.isSome)
      read := fun room c => do
        let (x, c) ← textValue room c
        .ok (fun d => { d with plan := some x }, c) }]
  other := some fun key v d => { d with others := d.others ++ [(key, v)] }
  finish := fun d => do
    let plan ← required "plan" d.plan
    let submission ← SubmitIdea.ofMembers d.others
    .ok ⟨plan, submission⟩

/-- The request that a text writes. -/
def parse (text : String) : Except Refusal ExecutePlanRequest := readText layout.read text

end ExecutePlanRequest

end WebviewBridge
