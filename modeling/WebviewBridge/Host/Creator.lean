import WebviewBridge.Home
import WebviewBridge.Host.Cache
import WebviewBridge.Host.Planner

/-!
# The creator's messages

The creator drafts plans, and takes in submitted ideas.  A plan is streamed to the webview that
asked for it, each time with all text so far.  An idea closes the overlay while the creator stays
at work; then either its plan is carried out, or a folder is created for a new project, which the
editor has to open.  The submission is stored before that, and carried out after the editor's next
start.
-/

namespace WebviewBridge

/-- What the creator works with. -/
structure Creator where
  planner : Planner
  cache : SubmissionCache
  /-- The age in milliseconds at which a stored submission is stale. -/
  maxAgeMs : Nat
  /-- The home directory, if there is one. -/
  home : Option String

namespace Creator

/-- Sets the creator's mode and tells the editor about it. -/
def changeState (next : CreatorState) : Handling Unit := do
  Handling.update (.setCreatorState next)
  Handling.emit (.stateChanged next)

/-! ## Plans -/

/-- Streams what a generator gives to the webview that asked, up to the first failure. -/
def streamPlan (request : OutgoingMessage) : (plan : String) → List PlanItem → Handling Unit
  | plan, [] => do
    Handling.log .info ("Plan completed (" ++ toString plan.utf8ByteSize ++ " chars)")
    Handling.send (request.answer (.planCompleted plan))
  | plan, .chunk text :: rest => do
    Handling.send (request.answer (.planStream (plan ++ text)))
    streamPlan request (plan ++ text) rest
  | _, .failure e :: _ => do
    Handling.log .error ("Plan creation failed: " ++ e.display)
    Handling.send (request.answer (.errorNotice ("Failed to create plan: " ++ e.planNotice)))
  | plan, .pause ms :: rest => do
    let () ← Handling.ofEffect (.pause ms)
    streamPlan request plan rest

/-- Drafts a plan for a conversation. -/
def draft (c : Creator) (request : OutgoingMessage) (messages : List ChatMessage) :
    Handling Unit :=
  streamPlan request "" (c.planner messages)

/-! ## Ideas -/

/-- The step that creates the folder of a project. -/
def folderStep (folder : String) : FileStep HostError :=
  ⟨.makeDirs folder,
    fun e => .io ("Failed to create folder " ++ folder ++ ": " ++ e.message)⟩

/-- Stores a submission and creates the folder of its project. -/
def startProject (c : Creator) (s : SubmitIdea) (path : String) : Handling Unit := do
  let mode : CreatorState ← Handling.ofEffect .creatorState
  c.cache.store s mode
  let folder := expandHome c.home path
  Handling.step (folderStep folder)
  Handling.log .info ("Created project folder " ++ folder)
  Handling.emit (.replaceWorkspaceFolder folder)

/-- Takes in an idea. -/
def submit (c : Creator) (s : SubmitIdea) : Handling Unit := do
  changeState .overlayClosedCreatorActive
  match s.newProjectPath with
  | none => Handling.emit (.executePlan (.ofSubmission s))
  | some path => c.startProject s path

/-- Carries out the stored submission if it is fresh; says whether it was.  With `remove` it is
removed, fresh or stale. -/
def replay (c : Creator) (remove : Bool) : Handling Bool := do
  match ← c.cache.takeFresh c.maxAgeMs remove with
  | none => pure false
  | some r =>
    Handling.log .info "Replaying cached creator submission"
    changeState r.creator
    Handling.emit (.executePlan (.ofSubmission r.submission))
    pure true

/-! ## Messages -/

/-- Handles a message to the creator.  Types that it does not know are passed over. -/
def handle (c : Creator) (m : OutgoingMessage) : Handling Unit :=
  if m.messageType = Kind.processLlm.messageType then do
    c.draft m (← Handling.decoded ChatMessage.decodeRequest m)
  else if m.messageType = Kind.submitIdea.messageType then do
    c.submit (← Handling.decoded SubmitIdea.decode m)
  else if m.messageType = Kind.close.messageType then
    changeState .overlayClosed
  else
    Handling.log .warn ("Ignoring unknown creator message type: " ++ m.messageType)

end Creator

end WebviewBridge
