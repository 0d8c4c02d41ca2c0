import Mathlib.Data.List.Induction
import WebviewBridge.Proofs.Host.Once

/-!
# Refused submissions

A submission for a project takes three steps: the creator's mode is set, the record is stored, and
the folder is created.  Whichever fails, the submission is answered with an error.  Whatever a
replay carries out later was stored by some frame (`Site.carriesOut_or_quiet`), so a submission that
failed in one of the first two steps is never carried out (`Site.run_sparesRefused`).  When the
folder cannot be created the record stays in the file, and the next replay carries it out
(`Site.replay_refused`).
-/

namespace WebviewBridge

open Json

namespace Site

variable {k : SubmissionCache} {x : Site k} {s : Session} {text : String} {m : OutgoingMessage}

/-- A submission that is answered with an error. -/
structure Refuses (x : Site k) (s : Session) (text : String) (m : OutgoingMessage) : Prop where
  parses : OutgoingMessage.parse text = .ok m
  destination : m.destination = .creator
  messageType : m.messageType = Kind.submitIdea.messageType
  isOpen : s.isOpen = true
  answer : ∃ notice, ((x.creator.handleFrame text).run x.host s).2.1.queue =
    s.queue ++ [(m.answer (.errorNotice notice)).wire]

/-- The creator's mode could not be set, or the record of a project could not be stored. -/
def FailsEarly (x : Site k) (idea : SubmitIdea) : Prop :=
  x.host.keeper = .stopped ∨ idea.newProjectPath.isSome = true ∧
    ∃ e, (runSteps (k.writeSteps (x.recordOf idea)) x.host.files).2 = .error e

/-- The record was stored, and then the folder could not be created. -/
def FailsAtFolder (x : Site k) (idea : SubmitIdea) : Prop :=
  x.Stores idea ∧ ∃ e, (runSteps (x.creator.submitSteps x.host.now idea) x.host.files).2 = .error e

/-- A step of a submission fails early or when the folder is to be created. -/
lemma fails_iff {idea : SubmitIdea} :
    (x.host.keeper = .stopped ∨
      ∃ e, (runSteps (x.creator.submitSteps x.host.now idea) x.host.files).2 = .error e) ↔
      x.FailsEarly idea ∨ x.FailsAtFolder idea := by
  have hsteps {path : String} (hpath : idea.newProjectPath = some path) :
      x.creator.submitSteps x.host.now idea = k.writeSteps (x.recordOf idea) ++
        [Creator.folderStep (expandHome x.creator.home path)] := by
    rw [Creator.submitSteps, hpath]
    exact congrArg (· ++ _) (x.writeSteps_eq _)
  constructor
  · rintro (hk | ⟨e, he⟩)
    · exact Or.inl (Or.inl hk)
    by_cases hk : x.host.keeper = .stopped
    · exact Or.inl (Or.inl hk)
    cases hpath : idea.newProjectPath with
    | none =>
      rw [Creator.submitSteps, hpath] at he
      cases he
    | some path =>
      have hproject : idea.newProjectPath.isSome = true := by rw [hpath]; rfl
      rcases hwrite : runSteps (k.writeSteps (x.recordOf idea)) x.host.files with ⟨t, e' | ⟨⟩⟩
      · exact Or.inl (Or.inr ⟨hproject, e', by rw [hwrite]⟩)
      · exact Or.inr ⟨⟨hk, hproject, by rw [hwrite]; rfl⟩, e, he⟩
  · rintro ((hk | ⟨hproject, e, he⟩) | ⟨-, he⟩)
    · exact Or.inl hk
    · obtain ⟨path, hpath⟩ := Option.isSome_iff_exists.1 hproject
      refine Or.inr ⟨e, ?_⟩
      rw [hsteps hpath, runSteps_append]
      rcases hwrite : runSteps (k.writeSteps (x.recordOf idea)) x.host.files with ⟨t, e' | ⟨⟩⟩ <;>
        rw [hwrite] at he <;> cases he
      rfl
    · exact Or.inr he

/-- **A submission that decodes is refused when one of its steps fails.** -/
theorem refuses_iff {idea : SubmitIdea} (hm : OutgoingMessage.parse text = .ok m)
    (hs : m.Submits idea) (hopen : s.isOpen = true) :
    x.Refuses s text m ↔ x.FailsEarly idea ∨ x.FailsAtFolder idea := by
  rw [← fails_iff]
  obtain ⟨h', added, pongs, hresponds, hrun⟩ := x.creator.exists_respondsTo x.host hopen text
  rw [Creator.RespondsTo, hm] at hresponds
  simp only [hs.demand_eq] at hresponds
  cases hresponds with
  | submitted _ _ hk hsteps =>
    constructor
    · rintro ⟨-, -, -, -, notice, hanswer⟩
      rw [hrun] at hanswer
      simp [Session.enqueue] at hanswer
    · rintro (hstopped | ⟨e, he⟩)
      · exact absurd hstopped hk
      · rw [hsteps] at he
        cases he
  | notSubmitted _ _ e hfail =>
    constructor
    · rintro -
      exact hfail.imp_right fun he => ⟨e, he⟩
    · rintro -
      exact ⟨hm, hs.destination, hs.messageType, hopen, _, by rw [hrun]; rfl⟩

/-- What failed early has stored nothing. -/
lemma FailsEarly.not_stores {idea : SubmitIdea} (h : x.FailsEarly idea) : ¬x.Stores idea := by
  rintro ⟨hk, -, hwrite⟩
  rcases h with hstopped | ⟨-, e, herror⟩
  · exact hk hstopped
  · rw [herror] at hwrite
    cases hwrite

/-- A frame stores nothing if none of the submissions that it may bring is stored. -/
lemma record?_eq_none (hm : OutgoingMessage.parse text = .ok m)
    (h : ∀ idea, m.Submits idea → ¬x.Stores idea) : x.record? text = none := by
  rw [record?]
  split
  · next idea hdemand =>
    obtain ⟨m', hm', hs⟩ := Demand.exists_submits hdemand
    rw [hm] at hm'
    cases hm'
    exact if_neg (h idea hs)
  · rfl

/-! ## Where a record comes from -/

/-- The record that was stored last was stored by a frame, and by none after it. -/
lemma exists_origin {last : CachedSubmission} {turns : List (Turn k)} (hx : x.stored = [])
    (hlast : (x.run turns).stored.getLast? = some last) :
    ∃ n s text, turns[n]? = some (.frame s text) ∧
      (x.run (turns.take n)).record? text = some last := by
  induction turns using List.reverseRecOn with
  | nil =>
    have hnil : x.stored.getLast? = some last := hlast
    rw [hx] at hnil
    cases hnil
  | append_singleton turns t ih =>
    -- either the last turn has stored the record, or it was there before
    have hearlier (hsame : (x.run (turns ++ [t])).stored = (x.run turns).stored) :
        ∃ n s text, (turns ++ [t])[n]? = some (.frame s text) ∧
          (x.run ((turns ++ [t]).take n)).record? text = some last := by
      rw [hsame] at hlast
      obtain ⟨n, s, text, hn, hrecord⟩ := ih hlast
      obtain ⟨hlt, -⟩ := List.getElem?_eq_some_iff.1 hn
      refine ⟨n, s, text, ?_, ?_⟩
      · rw [List.getElem?_append_left hlt, hn]
      · rw [List.take_append_of_le_length (Nat.le_of_lt hlt), hrecord]
    rw [run_append] at hearlier hlast
    cases t with
    | frame s text =>
      cases hr : (x.run turns).record? text with
      | none =>
        refine hearlier ?_
        change (x.run turns).stored ++ _ = _
        rw [hr]
        exact List.append_nil _
      | some r =>
        refine ⟨turns.length, s, text, ?_, ?_⟩
        · rw [List.getElem?_append_right (Nat.le_refl _), Nat.sub_self]
          rfl
        · rw [List.take_left, hr]
          change ((x.run turns).stored ++ _).getLast? = _ at hlast
          rw [hr, Option.toList_some, List.getLast?_append, List.getLast?_singleton] at hlast
          exact hlast
    | replay => exact hearlier rfl
    | restart c hc h => exact hearlier rfl
    | «meanwhile» e now => exact hearlier rfl

/-! ## Replays -/

/-- What a replay comes to that removes the file or leaves it. -/
def replayWith (x : Site k) (remove : Bool) : Host × Except HostError Bool :=
  let r := (x.creator.replay remove).runOn x.host default
  (r.1, r.2.2)

/-- A replay after some turns carries out what the frame in place `n` has stored. -/
structure CarriesOut (x : Site k) (turns : List (Turn k)) (remove : Bool) (n : Nat) : Prop where
  outcome : ((x.run turns).replayWith remove).2 = .ok true
  origin : ∃ s text last r, turns[n]? = some (.frame s text) ∧
    (x.run (turns.take n)).record? text = some last ∧
    CachedSubmission.parse last.fileText = .ok r ∧
    ((x.run turns).replayWith remove).1.events = (x.run turns).host.told
      [.stateChanged r.creator, .executePlan (.ofSubmission r.submission)]

/-- A replay tells nothing. -/
structure IsQuiet (x : Site k) (remove : Bool) : Prop where
  outcome : (x.replayWith remove).2 ≠ .ok true
  events : (x.replayWith remove).1.events = x.host.events

/-- **A replay carries out what some frame has stored, or it tells nothing.** -/
theorem carriesOut_or_quiet (hx : x.IsNew) (turns : List (Turn k)) (remove : Bool) :
    (∃ n, x.CarriesOut turns remove n) ∨ (x.run turns).IsQuiet remove := by
  have hsound := sound_run hx.sound turns
  obtain ⟨h', outcome, hrun, hreplays⟩ :=
    Creator.runOn_replay (x.run turns).creator remove (x.run turns).host default
  have hreplay : (x.run turns).replayWith remove = (h', outcome) := by rw [replayWith, hrun]
  cases hreplays with
  | carriedOut hk hload hfresh hleft =>
    obtain ⟨last, hlast, -, hparse, -⟩ := exists_last_of_loaded hsound.file hload
    obtain ⟨n, s, text, hn, hrecord⟩ := exists_origin hx.stored hlast
    exact Or.inl ⟨n, by rw [hreplay], s, text, last, _, hn, hrecord, hparse, by rw [hreplay]⟩
  | notKept _ _ | nothing _ _ _ | notLoaded _ | notRemoved _ =>
    exact Or.inr ⟨by rw [hreplay]; exact nofun, by rw [hreplay]⟩

/-- A replay that leaves the file is as good as another host that goes on with it. -/
theorem exists_restart_eq (hx : x.host.queue = []) :
    ∃ h, x.turn (.restart x.creator x.cache_eq h) = { x with host := (x.replayWith false).1 } := by
  obtain ⟨h', outcome, hrun, hreplays⟩ := Creator.runOn_replay x.creator false x.host default
  have hreplay : (x.replayWith false).1 = h' := by rw [replayWith, hrun]
  have hsame : h'.files = x.host.files ∧ h'.queue = [] := by
    cases hreplays with
    | carriedOut _ _ _ hleft =>
      cases hleft
      exact ⟨rfl, rfl⟩
    | notKept _ hleft =>
      cases hleft
      exact ⟨rfl, hx⟩
    | nothing _ _ hleft =>
      cases hleft
      exact ⟨rfl, hx⟩
    | notLoaded _ => exact ⟨rfl, hx⟩
    | notRemoved _ => exact ⟨rfl, hx⟩
  refine ⟨h', ?_⟩
  rw [turn, hreplay, ← hsame.1, ← hsame.2]

/-! ## A folder in the place of the record -/

/-- A submission of a project whose folder is to be where the record is stored. -/
def crossedText : String :=
  "\x7b\"messageId\":\"1\",\"destination\":\"creator\",\"messageType\":\"SubmitIdea\","
    ++ "\"payload\":\x7b\"request\":\"r\",\"newProjectPath\":\"/creator_submission.json\"\x7d\x7d"

/-- The message that the text writes. -/
def crossedMessage : OutgoingMessage :=
  ⟨⟨"1"⟩, .creator, "SubmitIdea", some (.obj [("newProjectPath", .str "/creator_submission.json"),
    ("request", .str "r")])⟩

/-- What is submitted. -/
def crossedIdea : SubmitIdea := ⟨"r", none, some "/creator_submission.json", []⟩

lemma parse_crossedText : OutgoingMessage.parse crossedText = .ok crossedMessage := by
  decide +kernel

lemma submits_crossedMessage : crossedMessage.Submits crossedIdea :=
  ⟨rfl, rfl, by decide +kernel⟩

lemma parse_recordOf_crossedIdea :
    CachedSubmission.parse (atRoot.recordOf crossedIdea).fileText =
      .ok (atRoot.recordOf crossedIdea) :=
  submits_crossedMessage.parse_fileText parse_crossedText (fun _ hv => absurd hv List.not_mem_nil)
    _ _

/-- The files once the record is stored. -/
def crossedFiles : FileTree :=
  { entries := [([SubmissionCache.fileName],
      .file (atRoot.recordOf crossedIdea).fileText.toUTF8 publicMode)] }

lemma runSteps_writeSteps_crossedIdea :
    runSteps (SubmissionCache.writeSteps ⟨""⟩ (atRoot.recordOf crossedIdea)) FileTree.empty =
      (crossedFiles, .ok ()) := SubmissionCache.runSteps_writeSteps_empty _

/-- The record is stored, and then it is in the way of the folder. -/
lemma exists_runSteps_crossedIdea :
    ∃ e, runSteps (Creator.atRoot.submitSteps 0 crossedIdea) FileTree.empty =
      (crossedFiles, .error e) := by
  have hfolder : expandHome Creator.atRoot.home "/creator_submission.json" =
      "/creator_submission.json" := by decide
  have hlocate : crossedFiles.locate "/creator_submission.json" =
      .ok [SubmissionCache.fileName] := by
    rw [FileTree.locate_eq_follow (by decide) (by simp) (by decide)]
    rfl
  have hmake : crossedFiles.makeDirs "/creator_submission.json" =
      (crossedFiles, .error .exists_) := FileTree.makeDirs_of_file hlocate rfl
  have hsteps : Creator.atRoot.submitSteps 0 crossedIdea =
      SubmissionCache.writeSteps ⟨""⟩ (atRoot.recordOf crossedIdea) ++
        [Creator.folderStep (expandHome Creator.atRoot.home "/creator_submission.json")] := rfl
  rw [hsteps, hfolder, runSteps_append, runSteps_writeSteps_crossedIdea]
  simp only [runSteps_singleton, Creator.folderStep, FileOp.run, hmake]
  exact ⟨_, rfl⟩

lemma failsAtFolder_crossedIdea : atRoot.FailsAtFolder crossedIdea := by
  obtain ⟨e, hsteps⟩ := exists_runSteps_crossedIdea
  refine ⟨⟨nofun, rfl, ?_⟩, e, congrArg Prod.snd hsteps⟩
  change (runSteps (SubmissionCache.writeSteps ⟨""⟩ _) FileTree.empty).2.isOk = true
  rw [runSteps_writeSteps_crossedIdea]
  rfl

/-! ## What becomes of a refused submission -/

/-- **A submission that failed before its folder was to be created is never carried out**: whatever
happens next, a replay carries out what another frame has stored, or it tells nothing. -/
theorem run_sparesRefused (x : Site k) (hx : x.IsNew) (before after : List (Turn k)) (s : Session)
    (text : String) (m : OutgoingMessage) (hrefuses : (x.run before).Refuses s text m)
    (hfails : ∀ idea, m.Submits idea → (x.run before).FailsEarly idea) (remove : Bool) :
    (∃ n, n ≠ before.length ∧ x.CarriesOut (before ++ .frame s text :: after) remove n) ∨
      (x.run (before ++ .frame s text :: after)).IsQuiet remove := by
  have hnone : (x.run before).record? text = none :=
    record?_eq_none hrefuses.parses fun idea hs => (hfails idea hs).not_stores
  rcases carriesOut_or_quiet hx (before ++ .frame s text :: after) remove with ⟨n, hn⟩ | hquiet
  · refine Or.inl ⟨n, ?_, hn⟩
    rintro rfl
    obtain ⟨s', text', last, r, hframe, hrecord, -⟩ := hn.origin
    rw [List.getElem?_append_right (Nat.le_refl _), Nat.sub_self] at hframe
    cases hframe
    rw [List.take_left, hnone] at hrecord
    cases hrecord
  · exact Or.inr hquiet

/-- A submission to a host whose keeper has stopped is not carried out after the next start. -/
theorem run_sparesRefused_stopped :
    let x : Site ⟨""⟩ := { atRoot with host := { keeper := .stopped } }
    x.IsNew ∧ x.Refuses { id := ⟨"s"⟩ } crossedText crossedMessage ∧
      (x.run [.frame { id := ⟨"s"⟩ } crossedText, .restart .atRoot rfl {}]).IsQuiet true := by
  intro x
  have hnew : x.IsNew := ⟨rfl, rfl, rfl, rfl⟩
  have hrefuses : x.Refuses { id := ⟨"s"⟩ } crossedText crossedMessage :=
    (refuses_iff parse_crossedText submits_crossedMessage rfl).2 (Or.inl (Or.inl rfl))
  refine ⟨hnew, hrefuses, ?_⟩
  rcases run_sparesRefused x hnew [] [.restart .atRoot rfl {}] { id := ⟨"s"⟩ } crossedText
    crossedMessage hrefuses (fun _ _ => Or.inl rfl) true with ⟨n, hn, hcarries⟩ | hquiet
  · -- the only other turn is no frame
    obtain ⟨s, text, last, r, hframe, -⟩ := hcarries.origin
    match n with
    | 0 => exact absurd rfl hn
    | 1 => cases hframe
    | n + 2 => cases hframe
  · exact hquiet

/-- **A submission whose folder could not be created is carried out by the next host**, if nothing
is in the way of its record and that is still fresh. -/
theorem replay_of_failsAtFolder {idea : SubmitIdea} {r : CachedSubmission}
    (hidle : x.host.queue = []) (hm : OutgoingMessage.parse text = .ok m) (hs : m.Submits idea)
    (hfails : x.FailsAtFolder idea)
    (hparse : CachedSubmission.parse (x.recordOf idea).fileText = .ok r)
    (hallow : ∀ a, ((x.creator.handleFrame text).run x.host s).1.files.hindrance? a = none)
    (c : Creator) (hc : c.cache = k) (h : Host) (hk : h.keeper ≠ .stopped)
    (hfresh : r.isFresh h.now c.maxAgeMs = true) (remove : Bool) :
    ((x.run [.frame s text, .restart c hc h]).replayWith remove).2 = .ok true ∧
      ((x.run [.frame s text, .restart c hc h]).replayWith remove).1.events =
        h.told [.stateChanged r.creator, .executePlan (.ofSubmission r.submission)] := by
  subst hc
  have hrecord : x.record? text = some (x.recordOf idea) := by
    rw [record?, Demand.ofText_of_ok hm, hs.demand_eq]
    exact if_pos hfails.1
  have hholds := holds_of_record? hidle s hrecord
  refine Creator.replays_of_loaded (h := { h with
    files := ((x.creator.handleFrame text).run x.host s).1.files, queue := [] }) hk
    (SubmissionCache.loaded_of_holds hholds hparse (hallow _)) hfresh ?_ default
  cases remove with
  | true =>
    obtain ⟨t, ht⟩ := hholds.exists_remove (SubmissionCache.endsInSlash_path _) (hallow _)
    rw [Creator.leftovers, if_pos rfl, SubmissionCache.cleared, ht]
  | false => rfl

/-- **A submission that is refused because its folder cannot be created is carried out after the
next start.** -/
theorem replay_refused :
    let x := atRoot.run [.frame { id := ⟨"s"⟩ } crossedText, .restart .atRoot rfl {}]
    atRoot.IsNew ∧ atRoot.Refuses { id := ⟨"s"⟩ } crossedText crossedMessage ∧
      crossedMessage.Submits crossedIdea ∧ (x.replayWith true).2 = .ok true ∧
      (x.replayWith true).1.events =
        [.stateChanged .overlayClosedCreatorActive, .executePlan (.ofSubmission crossedIdea)] := by
  have hrefuses := (refuses_iff (x := atRoot) (s := { id := ⟨"s"⟩ }) parse_crossedText
    submits_crossedMessage rfl).2 (Or.inr failsAtFolder_crossedIdea)
  have hallow (a : Access) : ((atRoot.creator.handleFrame crossedText).run atRoot.host
      { id := ⟨"s"⟩ }).1.files.hindrance? a = none := by
    obtain ⟨e, hsteps⟩ := exists_runSteps_crossedIdea
    have hserves := Creator.serves_handleFrame (c := atRoot.creator) (h := atRoot.host)
      ⟨nofun, rfl⟩ { id := ⟨"s"⟩ } crossedText
    rw [Demand.ofText_of_ok parse_crossedText, submits_crossedMessage.demand_eq] at hserves
    rw [hserves.files]
    exact congrArg (fun r => r.1.hindrance? a) hsteps
  exact ⟨atRoot_isNew, hrefuses, submits_crossedMessage, replay_of_failsAtFolder rfl
    parse_crossedText submits_crossedMessage failsAtFolder_crossedIdea parse_recordOf_crossedIdea
    hallow .atRoot rfl {} nofun rfl true⟩

end Site

end WebviewBridge
