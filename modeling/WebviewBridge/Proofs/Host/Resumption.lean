import WebviewBridge.Proofs.Envelope.RoundTrip
import WebviewBridge.Proofs.Host.Record
import WebviewBridge.Proofs.Host.Stored

/-!
# An idea is carried out as it was submitted

Whether a submission is carried out at once or after the editor has started again, it is the same
submission with all its members (`Creator.handleFrame_resumes`).  What makes the detour over the
file safe is that a record nests no deeper than the frame that brought the submission, so every
record that is written can be read.
-/

namespace WebviewBridge

open Json

namespace OutgoingMessage

variable {text : String} {m : OutgoingMessage} {idea : SubmitIdea}

/-- The payload of a submission is an object. -/
lemma Submits.exists_payload (hs : m.Submits idea) :
    ∃ ms, m.payload = some (.obj ms) ∧ SubmitIdea.decode (.obj ms) = .ok idea := by
  have hdecodes := hs.decodes
  cases hv : m.payload with
  | none =>
    rw [hv] at hdecodes
    cases hdecodes
  | some v =>
    rw [hv] at hdecodes
    cases v with
    | obj ms => exact ⟨ms, rfl, hdecodes⟩
    | _ => cases hdecodes

/-- Every record of a submission of integers that came in a frame can be read again. -/
lemma Submits.parse_fileText (hs : m.Submits idea) (hm : parse text = .ok m)
    (hint : idea.IsIntegral) (mode : CreatorState) (timestamp : UInt64) :
    CachedSubmission.parse (CachedSubmission.fileText ⟨idea, mode, timestamp⟩) =
      .ok ⟨idea, mode, timestamp⟩ := by
  obtain ⟨ms, hpayload, hdecode⟩ := hs.exists_payload
  exact CachedSubmission.parse_fileText
    (SubmitIdea.portable_of_decode (fits_of_parse hm _ hpayload) hdecode hint)

end OutgoingMessage

namespace Creator

variable {c : Creator} {idea : SubmitIdea} {t : FileTree} {now : UInt64}

/-- A submission that was stored stands in the file, whatever becomes of the folder. -/
lemma holds_of_submitSteps {path : String} (hpath : idea.newProjectPath = some path)
    {t₁ : FileTree}
    (hwrite : runSteps (c.cache.writeSteps ⟨idea, .overlayClosedCreatorActive, now⟩) t =
      (t₁, .ok ())) :
    (runSteps (c.submitSteps now idea) t).1.Holds c.cache.path
      (CachedSubmission.fileText ⟨idea, .overlayClosedCreatorActive, now⟩).toUTF8 := by
  have hholds := SubmissionCache.holds_of_writeSteps hwrite
  rw [submitSteps, hpath]
  simp only [runSteps_append, hwrite, runSteps_singleton]
  exact (SubmissionCache.spares_makeDirs c.cache.path t₁ _).holds hholds

/-- A submission that could not be stored has left the file as it was. -/
lemma spares_of_submitSteps {t₁ : FileTree} {e : HostError}
    (hwrite : runSteps (c.cache.writeSteps ⟨idea, .overlayClosedCreatorActive, now⟩) t =
      (t₁, .error e)) :
    FileTree.Spares c.cache.path t (runSteps (c.submitSteps now idea) t).1 := by
  rw [submitSteps]
  cases idea.newProjectPath with
  | none => exact .refl _ t
  | some path =>
    simp only [runSteps_append, hwrite]
    exact SubmissionCache.spares_of_writeSteps hwrite

/-- A later host that has the files of an earlier one, but for what others changed elsewhere, and
may read the stored submission. -/
structure Succeeds (c : Creator) (t : FileTree) (c' : Creator) (h' : Host) : Prop where
  cache : c'.cache = c.cache
  isLive : h'.IsLive
  files : ∃ e : FileTree.Elsewhere c.cache.path, h'.files = e.change t
  readable : h'.files.hindrance? (.read (h'.files.placeOf c.cache.path)) = none

/-- What is carried out of a submission, at once or later. -/
structure Resumes (text : String) (m : OutgoingMessage) (idea : SubmitIdea) : Prop where
  /-- Nothing of the payload is lost but the members that say that something is absent. -/
  encode_eq : ∃ ms, m.payload = some (.obj ms) ∧
    idea.encode = .obj (SubmitIdea.withoutAbsences ms)
  /-- Every record of the submission can be read again. -/
  parse_eq (mode : CreatorState) (timestamp : UInt64) :
    CachedSubmission.parse (CachedSubmission.fileText ⟨idea, mode, timestamp⟩) =
      .ok ⟨idea, mode, timestamp⟩
  atOnce (c : Creator) (h : Host) (s : Session) (hl : h.IsLive)
    (hnone : idea.newProjectPath = none) :
    ((c.handleFrame text).run h s).1.events =
      h.told [.stateChanged .overlayClosedCreatorActive, .executePlan (.ofSubmission idea)]
  later (c : Creator) (h : Host) (s : Session) (hl : h.IsLive) (path : String)
    (hsome : idea.newProjectPath = some path)
    (hsteps : (runSteps (c.submitSteps h.now idea) h.files).2 = .ok ())
    (c' : Creator) (h' : Host) (s' : Session)
    (hlater : c.Succeeds ((c.handleFrame text).run h s).1.files c' h')
    (hfresh : h'.now.toNat - h.now.toNat < c'.maxAgeMs) (remove : Bool)
    (hremove : remove = true →
      h'.files.hindrance? (.remove (h'.files.placeOf c.cache.path)) = none) :
    ((c'.replay remove).runOn h' s').2.2 = .ok true ∧
      ((c'.replay remove).runOn h' s').1.events =
        h'.told [.stateChanged .overlayClosedCreatorActive, .executePlan (.ofSubmission idea)]

/-- A stored record that may be loaded and is fresh is carried out, if it may be removed where that
is wanted. -/
lemma replays_of_loaded {h : Host} (hk : h.keeper ≠ .stopped) {r : CachedSubmission}
    (hload : c.cache.loaded h.files = .ok (some r)) (hfresh : r.isFresh h.now c.maxAgeMs = true)
    {remove : Bool} (hleft : (c.leftovers remove h.files).2 = .ok ()) (s : Session) :
    ((c.replay remove).runOn h s).2.2 = .ok true ∧
      ((c.replay remove).runOn h s).1.events =
        h.told [.stateChanged r.creator, .executePlan (.ofSubmission r.submission)] := by
  obtain ⟨h', outcome, hrun, hreplays⟩ := runOn_replay c remove h s
  rw [hrun]
  cases hreplays with
  | carriedOut _ hload' _ _ =>
    rw [hload] at hload'
    cases hload'
    exact ⟨rfl, rfl⟩
  | nothing hload' hstale _ =>
    rw [hload] at hload'
    cases hload'
    exact absurd hfresh (by rw [hstale r rfl]; exact nofun)
  | notKept hk' _ => exact absurd hk' hk
  | notLoaded hload' =>
    rw [hload] at hload'
    cases hload'
  | notRemoved hleft' =>
    rw [hleft'] at hleft
    cases hleft

/-- **A submission with integers for numbers is carried out as it was submitted**, at once or after
the editor has started again. -/
theorem handleFrame_resumes {text : String} {m : OutgoingMessage} {idea : SubmitIdea}
    (hm : OutgoingMessage.parse text = .ok m) (hs : m.Submits idea)
    (hint : ∀ v ∈ m.payload, v.IsIntegral) : Resumes text m idea := by
  obtain ⟨ms, hpayload, hdecode⟩ := hs.exists_payload
  have hsorted : Members.IsSorted ms := (OutgoingMessage.fits_of_parse hm _ hpayload).1.1
  have hparse := hs.parse_fileText hm
    (SubmitIdea.isIntegral_of_decode hsorted hdecode (hint _ hpayload))
  refine ⟨⟨ms, hpayload, SubmitIdea.encode_of_decode hsorted hdecode⟩, hparse, ?_, ?_⟩
  · intro c h s hl hnone
    have hserves := serves_handleFrame (c := c) hl s text
    rw [Demand.ofText_of_ok hm, hs.demand_eq] at hserves
    rw [hserves.events, eventsOf, submitEvents, submitSteps, sequel, hnone]
    rfl
  · intro c h s hl path hsome hsteps c' h' s' hlater hfresh remove hremove
    have hserves := serves_handleFrame (c := c) hl s text
    rw [Demand.ofText_of_ok hm, hs.demand_eq] at hserves
    -- the file holds the record, and goes on holding it
    have hholds : h'.files.Holds c.cache.path
        (CachedSubmission.fileText ⟨idea, .overlayClosedCreatorActive, h.now⟩).toUTF8 := by
      obtain ⟨elsewhere, hfiles⟩ := hlater.files
      rw [hfiles, hserves.files]
      refine elsewhere.holds ?_
      rcases hwrite : runSteps (c.cache.writeSteps ⟨idea, .overlayClosedCreatorActive, h.now⟩)
        h.files with ⟨t₁, e | ⟨⟩⟩
      · rw [submitSteps, hsome] at hsteps
        simp only [runSteps_append, hwrite] at hsteps
        cases hsteps
      · exact holds_of_submitSteps hsome hwrite
    have hload : c'.cache.loaded h'.files =
        .ok (some ⟨idea, .overlayClosedCreatorActive, h.now⟩) := by
      rw [hlater.cache]
      exact SubmissionCache.loaded_of_holds hholds (hparse _ _) hlater.readable
    refine replays_of_loaded hlater.isLive.alive hload ?_ ?_ s'
    · exact decide_eq_true hfresh
    · rw [leftovers]
      split
      · next hwanted =>
        obtain ⟨t', ht'⟩ := hholds.exists_remove c.cache.endsInSlash_path (hremove hwanted)
        rw [SubmissionCache.cleared, hlater.cache, ht']
      · rfl

/-- A creator that stores submissions below the root. -/
def atRoot : Creator where
  planner := .unconfigured
  cache := ⟨""⟩
  maxAgeMs := 1
  home := none

/-- Below an empty root a submission for a project at the root is stored. -/
lemma files_handleFrame_atRoot {text : String} {m : OutgoingMessage}
    (hm : OutgoingMessage.parse text = .ok m) (hs : m.Submits idea)
    (hpath : idea.newProjectPath = some "/") (s : Session) :
    let r : CachedSubmission := ⟨idea, .overlayClosedCreatorActive, 0⟩
    let t : FileTree :=
      { entries := [([SubmissionCache.fileName], .file r.fileText.toUTF8 publicMode)] }
    runSteps (atRoot.submitSteps 0 idea) FileTree.empty = (t, .ok ()) ∧
      ((atRoot.handleFrame text).run {} s).1.files = t := by
  intro r t
  have hsteps : runSteps (atRoot.submitSteps 0 idea) FileTree.empty = (t, .ok ()) := by
    have hfolder : expandHome atRoot.home "/" = "/" := by decide
    have hwrite : runSteps (atRoot.cache.writeSteps r) FileTree.empty = (t, .ok ()) :=
      SubmissionCache.runSteps_writeSteps_empty r
    rw [submitSteps, hpath]
    simp only [hfolder, runSteps_append, r, hwrite]
    simp only [runSteps, folderStep, FileOp.run, FileTree.makeDirs_root]
  refine ⟨hsteps, ?_⟩
  have hserves := serves_handleFrame (c := atRoot) (h := {}) ⟨by decide, rfl⟩ s text
  rw [Demand.ofText_of_ok hm, hs.demand_eq] at hserves
  rw [hserves.files]
  exact congrArg Prod.fst hsteps

/-- The start after an idea for a project, with a member of its own. -/
theorem handleFrame_resumes_project :
    let text := "\x7b\"messageId\":\"1\",\"destination\":\"creator\","
      ++ "\"messageType\":\"SubmitIdea\",\"payload\":\x7b\"request\":\"r\","
      ++ "\"newProjectPath\":\"/\",\"note\":[1]\x7d\x7d"
    let idea : SubmitIdea := ⟨"r", none, some "/", [("note", .arr [.int 1])]⟩
    let h : Host := { files := ((atRoot.handleFrame text).run {} default).1.files }
    ((atRoot.replay true).runOn h default).2.2 = .ok true ∧
      ((atRoot.replay true).runOn h default).1.events =
        [.stateChanged .overlayClosedCreatorActive, .executePlan (.ofSubmission idea)] := by
  intro text idea
  let m : OutgoingMessage := ⟨⟨"1"⟩, .creator, "SubmitIdea",
    some (.obj [("newProjectPath", .str "/"), ("note", .arr [.int 1]), ("request", .str "r")])⟩
  have hm : OutgoingMessage.parse text = .ok m := by decide +kernel
  have hs : m.Submits idea := ⟨rfl, rfl, by decide +kernel⟩
  have hint : ∀ v ∈ m.payload, v.IsIntegral := by
    have hone : (Value.int 1).IsIntegral := by
      change -(2 : Int) ^ 63 ≤ 1 ∧ (1 : Int) < UInt64.size
      decide
    rintro _ ⟨⟩
    exact ⟨trivial, ⟨hone, trivial⟩, trivial, trivial⟩
  obtain ⟨hsteps, hfiles⟩ := files_handleFrame_atRoot hm hs rfl default
  rw [hfiles]
  intro h
  have hlater : atRoot.Succeeds ((atRoot.handleFrame text).run {} default).1.files atRoot h := by
    rw [hfiles]
    exact ⟨rfl, ⟨by decide, rfl⟩, ⟨.hindering _ fun _ => none, rfl⟩, rfl⟩
  exact (handleFrame_resumes hm hs hint).later atRoot {} default ⟨by decide, rfl⟩ "/" rfl
    (congrArg Prod.snd hsteps) atRoot h default hlater (by decide) true fun _ => rfl

end Creator

end WebviewBridge
