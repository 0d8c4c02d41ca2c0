import WebviewBridge.Proofs.Host.Floor

/-!
# The creator's story

The creator is at work from a submission until the overlay is closed, and its overlay is never open
unless a stored submission says so.  What the editor is told, and what is written to the files,
follows frame by frame from the submissions and the closings of a run (`Floor.run_tells`).
-/

namespace WebviewBridge

open Json

/-! ## Submissions and closings -/

/-- A submission asks for no project when it has no path, an empty one, or the type for that. -/
lemma SubmitIdea.newProjectPath_eq_none_iff {idea : SubmitIdea} :
    idea.newProjectPath = none ↔
      idea.projectPath = none ∨ idea.projectPath = some "" ∨ idea.projectType = some "NONE" := by
  rw [newProjectPath]
  cases hpath : idea.projectPath with
  | none => simp
  | some path =>
    by_cases hempty : path = ""
    · simp [hempty]
    · simp [hempty, noProject]

/-- Otherwise it asks for the folder of its path. -/
lemma SubmitIdea.newProjectPath_eq_some {idea : SubmitIdea} {path : String}
    (hpath : idea.projectPath = some path) (hsome : path ≠ "")
    (htype : idea.projectType ≠ some "NONE") : idea.newProjectPath = some path := by
  simp [newProjectPath, hpath, hsome, htype, noProject]

namespace OutgoingMessage

variable {m : OutgoingMessage} {idea : SubmitIdea}

/-- A message to the creator that submits an idea, and decodes. -/
structure Submits (m : OutgoingMessage) (idea : SubmitIdea) : Prop where
  destination : m.destination = .creator
  messageType : m.messageType = Kind.submitIdea.messageType
  decodes : SubmitIdea.decode (m.payload.getD .null) = .ok idea

/-- A message to the creator that closes the overlay. -/
structure Closes (m : OutgoingMessage) : Prop where
  destination : m.destination = .creator
  messageType : m.messageType = Kind.close.messageType

lemma Submits.demand_eq (hm : m.Submits idea) : m.demand = .idea (.ok idea) := by
  rw [demand, hm.destination, hm.messageType, content_eq_ok_iff.2 hm.decodes]
  rfl

lemma Closes.demand_eq (hm : m.Closes) : m.demand = .close := by
  rw [demand, hm.destination, hm.messageType]
  rfl

/-- Only submissions and closings set the creator's mode. -/
lemma mode?_demand_eq_none (hcloses : ¬m.Closes) (hsubmits : ∀ idea, ¬m.Submits idea) :
    m.demand.mode? = none := by
  have hasks := m.asks_demand
  cases hd : m.demand with
  | close =>
    rw [hd] at hasks
    exact absurd ⟨hasks.1, hasks.2⟩ hcloses
  | idea content =>
    rw [hd] at hasks
    cases content with
    | error e => rfl
    | ok idea =>
      exact absurd ⟨hasks.1, hasks.2.1, content_eq_ok_iff.1 hasks.2.2.symm⟩ (hsubmits idea)
  | _ => rfl

end OutgoingMessage

lemma Demand.mode?_ofText_eq_none {text : String}
    (hm : ∀ m, OutgoingMessage.parse text = .ok m → ¬m.Closes ∧ ∀ idea, ¬m.Submits idea) :
    (ofText text).mode? = none := by
  cases hparse : OutgoingMessage.parse text with
  | error refusal =>
    rw [ofText_of_error hparse]
    rfl
  | ok m =>
    rw [ofText_of_ok hparse]
    exact OutgoingMessage.mode?_demand_eq_none (hm m hparse).1 (hm m hparse).2

/-- Only records of a creator at work are written. -/
lemma Creator.exists_record_of_mem_stepsOf {c : Creator} {now : UInt64} {d : Demand}
    {x : FileStep HostError} {path : String} {content : ByteArray} {mode : Nat}
    (hx : x ∈ c.stepsOf now d) (hop : x.op = .write path content mode) :
    ∃ r : CachedSubmission, content = r.fileText.toUTF8 ∧
      r.creator = .overlayClosedCreatorActive := by
  rcases d with _ | _ | _ | _ | _ | (_ | idea) | _ | _
  case idea.ok =>
    rw [stepsOf, submitSteps] at hx
    rcases hproject : idea.newProjectPath with _ | folder
    · rw [hproject] at hx
      cases hx
    · rw [hproject] at hx
      simp only [SubmissionCache.writeSteps, List.mem_append, List.mem_cons, List.not_mem_nil,
        or_false] at hx
      rcases hx with (rfl | rfl | rfl) | rfl
      · cases hop
      · cases hop
        exact ⟨_, rfl, rfl⟩
      · cases hop
      · cases hop
  all_goals cases hx

/-! ## What one frame adds -/

namespace Creator.Serves

variable {c : Creator} {h h' : Host} {d : Demand} {idea : SubmitIdea}

lemma events_of_listened (hd : c.Serves h d h') (hl : h.listened = true) :
    h'.events = h.events ++ c.eventsOf h.now h.files d :=
  hd.events.trans (Host.told_of_listened hl _)

lemma close (hd : c.Serves h .close h') (hl : h.listened = true) :
    h'.state.creator = .overlayClosed ∧
      h'.events = h.events ++ [.stateChanged .overlayClosed] ∧ h'.files = h.files := by
  refine ⟨?_, hd.events_of_listened hl, hd.files⟩
  rw [hd.state]
  rfl

/-- An idea without a project takes no step on files, and is carried out. -/
lemma idea_of_none (hd : c.Serves h (.idea (.ok idea)) h') (hl : h.listened = true)
    (hnone : idea.newProjectPath = none) :
    h'.state.creator = .overlayClosedCreatorActive ∧
      h'.events = h.events ++
        [.stateChanged .overlayClosedCreatorActive, .executePlan ⟨idea.request, idea⟩] ∧
      h'.files = h.files := by
  have hsteps : c.submitSteps h.now idea = [] := by rw [submitSteps, hnone]
  have hsequel : c.sequel idea = .executePlan ⟨idea.request, idea⟩ := by rw [sequel, hnone]
  refine ⟨?_, ?_, ?_⟩
  · rw [hd.state]
    rfl
  · have hevents := hd.events_of_listened hl
    rw [eventsOf, submitEvents, hsteps, hsequel] at hevents
    exact hevents
  · rw [hd.files, stepsOf, hsteps]
    rfl

/-- An idea for a project is stored, and its folder created, before the editor is told. -/
lemma idea_of_some (hd : c.Serves h (.idea (.ok idea)) h') (hl : h.listened = true)
    {path : String} (hsome : idea.newProjectPath = some path) :
    let folder := expandHome c.home path
    let steps := c.cache.writeSteps ⟨idea, .overlayClosedCreatorActive, h.now⟩
      ++ [folderStep folder]
    h'.state.creator = .overlayClosedCreatorActive ∧
      h'.events = h.events ++ .stateChanged .overlayClosedCreatorActive ::
        (match (runSteps steps h.files).2 with
          | .ok () => [.replaceWorkspaceFolder folder]
          | .error _ => []) ∧
      h'.files = (runSteps steps h.files).1 := by
  intro folder steps
  have hsteps : c.submitSteps h.now idea = steps := by rw [submitSteps, hsome]
  have hsequel : c.sequel idea = .replaceWorkspaceFolder folder := by rw [sequel, hsome]
  refine ⟨?_, ?_, ?_⟩
  · rw [hd.state]
    rfl
  · have hevents := hd.events_of_listened hl
    rw [eventsOf, submitEvents, hsteps, hsequel] at hevents
    exact hevents
  · rw [hd.files, stepsOf, hsteps]

/-- What sets no mode leaves the mode, what was told and the files as they are. -/
lemma quiet (hd : c.Serves h d h') (hmode : d.mode? = none) :
    h'.state.creator = h.state.creator ∧ h'.events = h.events ∧ h'.files = h.files := by
  refine ⟨?_, ?_, ?_⟩
  · rw [hd.state, Demand.stateAfter, hmode]
    rfl
  · rw [hd.events, eventsOf_eq_nil hmode, Host.told_nil]
  · rw [hd.files, stepsOf_eq_nil hmode]
    rfl

end Creator.Serves

/-! ## Runs -/

/-- A host at its start, which replayed no record and has someone take its events. -/
structure Host.IsFresh (h : Host) : Prop extends h.IsLive where
  listened : h.listened = true
  creator : h.state.creator = .overlayClosed
  events : h.events = []

namespace Floor

variable {ι : Type} [DecidableEq ι] {c : Creator} {f : Floor ι} {turns : List (Turn ι)}

/-- A run that tells the creator's story: which mode the creator is in, what is told, and what the
next frame adds to both and to the files. -/
structure Tells (c : Creator) (f : Floor ι) (turns : List (Turn ι)) : Prop where
  /-- The mode is that of the last submission or closing. -/
  mode : (f.run c turns).host.state.creator = lastAsked Demand.mode? .overlayClosed turns
  neverOpen : (f.run c turns).host.state.creator ≠ .overlayOpen
  /-- What was told is what the frames add, one after the other. -/
  events : (f.run c turns).host.events = f.story c turns
  closed (i : ι) (text : String) (m : OutgoingMessage) (hm : OutgoingMessage.parse text = .ok m)
    (hc : m.Closes) :
    let h := (f.run c turns).host
    let h' := (f.run c (turns ++ [.frame i text])).host
    h'.state.creator = .overlayClosed ∧
      h'.events = h.events ++ [.stateChanged .overlayClosed] ∧ h'.files = h.files
  /-- An idea without a project is carried out at once. -/
  submitted (i : ι) (text : String) (m : OutgoingMessage) (idea : SubmitIdea)
    (hm : OutgoingMessage.parse text = .ok m) (hs : m.Submits idea)
    (hnone : idea.projectPath = none ∨ idea.projectPath = some "" ∨
      idea.projectType = some "NONE") :
    let h := (f.run c turns).host
    let h' := (f.run c (turns ++ [.frame i text])).host
    h'.state.creator = .overlayClosedCreatorActive ∧
      h'.events = h.events ++
        [.stateChanged .overlayClosedCreatorActive, .executePlan ⟨idea.request, idea⟩] ∧
      h'.files = h.files
  /-- An idea for a project is stored as that of a creator at work, and the editor is told about the
  folder if that and the folder came about. -/
  project (i : ι) (text : String) (m : OutgoingMessage) (idea : SubmitIdea) (path : String)
    (hm : OutgoingMessage.parse text = .ok m) (hs : m.Submits idea)
    (hpath : idea.projectPath = some path) (hsome : path ≠ "")
    (htype : idea.projectType ≠ some "NONE") :
    let h := (f.run c turns).host
    let h' := (f.run c (turns ++ [.frame i text])).host
    let folder := expandHome c.home path
    let steps := c.cache.writeSteps ⟨idea, .overlayClosedCreatorActive, h.now⟩
      ++ [Creator.folderStep folder]
    h'.state.creator = .overlayClosedCreatorActive ∧
      h'.events = h.events ++ .stateChanged .overlayClosedCreatorActive ::
        (match (runSteps steps h.files).2 with
          | .ok () => [.replaceWorkspaceFolder folder]
          | .error _ => []) ∧
      h'.files = (runSteps steps h.files).1
  /-- Whatever a frame writes to a file is the record of a creator at work. -/
  written (i : ι) (text : String) :
    let h := (f.run c turns).host
    let steps := c.stepsOf h.now (.ofText text)
    (f.run c (turns ++ [.frame i text])).host.files = (runSteps steps h.files).1 ∧
      ∀ x ∈ steps, ∀ path content mode, x.op = .write path content mode →
        ∃ r : CachedSubmission, content = r.fileText.toUTF8 ∧
          r.creator = .overlayClosedCreatorActive
  /-- Any other frame leaves the mode, what was told and the files as they are. -/
  quiet (i : ι) (text : String)
    (hm : ∀ m, OutgoingMessage.parse text = .ok m → ¬m.Closes ∧ ∀ idea, ¬m.Submits idea) :
    let h := (f.run c turns).host
    let h' := (f.run c (turns ++ [.frame i text])).host
    h'.state.creator = h.state.creator ∧ h'.events = h.events ∧ h'.files = h.files

/-- What one more frame does to the host of a run. -/
lemma serves_append_frame (hl : f.host.IsLive) (turns : List (Turn ι)) (i : ι) (text : String) :
    c.Serves (f.run c turns).host (.ofText text) (f.run c (turns ++ [.frame i text])).host := by
  rw [run_append]
  exact Creator.serves_handleFrame (run_spec hl turns).isLive _ text

/-- **Every run of a fresh host tells the creator's story.** -/
theorem run_tells (c : Creator) (f : Floor ι) (hf : f.host.IsFresh) (turns : List (Turn ι)) :
    f.Tells c turns := by
  have hrun := run_spec (c := c) hf.toIsLive turns
  have hmode : (f.run c turns).host.state.creator =
      lastAsked Demand.mode? .overlayClosed turns := by
    rw [hrun.creator, hf.creator]
  have hlistened : (f.run c turns).host.listened = true := hrun.listened.trans hf.listened
  have hframe := fun i text => serves_append_frame (c := c) hf.toIsLive turns i text
  refine ⟨hmode, ?_, ?_, ?_, ?_, ?_, ?_, ?_⟩
  · rw [hmode]
    exact lastAsked_cases nofun (fun _ _ => Demand.ne_overlayOpen_of_mode?_eq) turns
  · rw [hrun.events, Host.told_of_listened hf.listened, hf.events, List.nil_append]
  · intro i text m hm hc
    have hserves := hframe i text
    rw [Demand.ofText_of_ok hm, hc.demand_eq] at hserves
    exact hserves.close hlistened
  · intro i text m idea hm hs hnone
    have hserves := hframe i text
    rw [Demand.ofText_of_ok hm, hs.demand_eq] at hserves
    exact hserves.idea_of_none hlistened (SubmitIdea.newProjectPath_eq_none_iff.2 hnone)
  · intro i text m idea path hm hs hpath hsome htype
    have hserves := hframe i text
    rw [Demand.ofText_of_ok hm, hs.demand_eq] at hserves
    exact hserves.idea_of_some hlistened (SubmitIdea.newProjectPath_eq_some hpath hsome htype)
  · intro i text
    refine ⟨(hframe i text).files, ?_⟩
    intro x hx path content mode hop
    exact Creator.exists_record_of_mem_stepsOf hx hop
  · intro i text hm
    exact (hframe i text).quiet (Demand.mode?_ofText_eq_none hm)

/-- An idea without a project, and then the closing of the overlay. -/
theorem run_tells_submission :
    let f : Floor Bool := { host := {}, sessions := fun _ => default }
    let c : Creator :=
      { planner := .unconfigured, cache := ⟨"/"⟩, maxAgeMs := 0, home := none }
    let turns : List (Turn Bool) :=
      [.frame true ("\x7b\"messageId\":\"1\",\"destination\":\"creator\","
          ++ "\"messageType\":\"SubmitIdea\",\"payload\":\x7b\"request\":\"r\"\x7d\x7d"),
        .frame false ("\x7b\"messageId\":\"2\",\"destination\":\"creator\","
          ++ "\"messageType\":\"Close\"\x7d")]
    (f.run c turns).host.state.creator = .overlayClosed ∧
      (f.run c turns).host.events =
        [.stateChanged .overlayClosedCreatorActive, .executePlan ⟨"r", .ofRequest "r"⟩,
          .stateChanged .overlayClosed] := by
  intro f c turns
  have htells := run_tells c f ⟨⟨nofun, rfl⟩, rfl, rfl, rfl⟩ turns
  rw [htells.mode, htells.events]
  exact ⟨by decide +kernel, by decide +kernel⟩

end Floor

end WebviewBridge
