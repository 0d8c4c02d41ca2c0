import WebviewBridge.Proofs.Host.Resumption

/-!
# Stored submissions are carried out once

What becomes of one cache directory over any number of hosts: frames are handled, the stored
submission is replayed, another host takes over, time passes, and others change files elsewhere.
At every moment the file is missing, or it holds the record that was stored last, which was not
carried out yet (`Site.Sound`).  Main statement: `Site.run_carriesOutOnce`.  What is carried out is
the record that the file writes; a number that is no integer may come back as a neighbouring one
(`Site.replay_rounds`).
-/

namespace WebviewBridge

open Json

/-! ## A host without a keeper -/

namespace Creator

variable {c : Creator} {h : Host} {s : Session}

/-- Without its keeper a host does no more about a demand than to write to its log. -/
lemma runOn_meet_of_stopped (hk : h.keeper = .stopped) (m : OutgoingMessage) (d : Demand) :
    ∃ log s' r, (c.meet m d).runOn h s = ({ h with log }, s', r) := by
  cases d with
  | unreadable | pong => exact ⟨h.log, s, .ok (), rfl⟩
  | tokens =>
    rw [meet, runOn_answerTokens]
    exact ⟨h.log, _, _, rfl⟩
  | update content =>
    rw [meet]
    cases content with
    | error e => exact ⟨h.log, s, _, Handling.runOn_ofExcept_bind_error e _⟩
    | ok t =>
      rw [Handling.runOn_ofExcept_bind_ok, runOn_updateTokens_of_stopped hk]
      exact ⟨h.log, s, _, rfl⟩
  | draft content =>
    rw [meet]
    cases content with
    | error e => exact ⟨h.log, s, _, Handling.runOn_ofExcept_bind_error e _⟩
    | ok messages =>
      rw [Handling.runOn_ofExcept_bind_ok, draft]
      exact runOn_streamPlan m "" (c.planner messages)
  | idea content =>
    rw [meet]
    cases content with
    | error e => exact ⟨h.log, s, _, Handling.runOn_ofExcept_bind_error e _⟩
    | ok idea =>
      rw [Handling.runOn_ofExcept_bind_ok, runOn_submit_of_stopped hk]
      exact ⟨h.log, s, _, rfl⟩
  | close =>
    rw [meet, runOn_changeState_of_stopped hk]
    exact ⟨h.log, s, _, rfl⟩
  | unknown =>
    obtain ⟨log, hlog⟩ := runOn_meet_unknown (h := h) (s := s) (c := c) (m := m)
    exact ⟨log, s, _, hlog⟩

/-- Nor does it about a frame. -/
lemma run_handleFrame_of_stopped (hk : h.keeper = .stopped) (s : Session) (text : String) :
    ∃ log, ((c.handleFrame text).run h s).1 = { h with log } := by
  cases hm : OutgoingMessage.parse text with
  | error refusal =>
    obtain ⟨log, hreport⟩ := run_report (h := h) (s := s) (refusalNotice refusal)
      "Failed to report decode error: "
    rw [run_handleFrame_of_error hm, hreport]
    exact ⟨log, rfl⟩
  | ok m =>
    rw [run_handleFrame_of_ok hm]
    by_cases hpong : m.messageType = Kind.pong.messageType
    · rw [run_handleMessage_of_pong hpong]
      exact ⟨h.log, rfl⟩
    · obtain ⟨log, s', e | ⟨⟩, hmeet⟩ := runOn_meet_of_stopped (c := c) (s := s) hk m m.demand
      · obtain ⟨log', hreport⟩ := run_report (h := { h with log }) (s := s') (failureNotice m e)
          "Failed to report handler error: "
        rw [run_handleMessage_of_error hpong hmeet, hreport]
        exact ⟨log', rfl⟩
      · rw [run_handleMessage_of_ok hpong hmeet]
        exact ⟨log, rfl⟩

end Creator

/-- A frame that asks for an idea to be taken in is a submission. -/
lemma Demand.exists_submits {text : String} {idea : SubmitIdea}
    (h : ofText text = .idea (.ok idea)) :
    ∃ m, OutgoingMessage.parse text = .ok m ∧ m.Submits idea := by
  cases hm : OutgoingMessage.parse text with
  | error refusal =>
    rw [ofText_of_error hm] at h
    cases h
  | ok m =>
    have hasks := m.asks_demand
    rw [← ofText_of_ok hm, h] at hasks
    exact ⟨m, rfl, hasks.1, hasks.2.1, OutgoingMessage.content_eq_ok_iff.1 hasks.2.2.symm⟩

/-! ## Sites -/

/-- A cache directory with the host at work on it, and what became of the submissions so far. -/
structure Site (k : SubmissionCache) where
  creator : Creator
  cache_eq : creator.cache = k
  host : Host
  /-- Every record that was stored, oldest first. -/
  stored : List CachedSubmission := []
  /-- For every submission that was replayed, how many records had been stored by then. -/
  replayed : List Nat := []

namespace Site

/-- What happens at a site. -/
inductive Turn (k : SubmissionCache) where
  /-- A frame of some session is handled to its end. -/
  | frame (s : Session) (text : String)
  /-- The stored submission is carried out if it is fresh, and removed. -/
  | replay
  /-- Another host goes on with the files. -/
  | restart (c : Creator) (hc : c.cache = k) (h : Host)
  /-- Time passes, and others change files elsewhere, or what the system has against their use. -/
  | meanwhile (e : FileTree.Elsewhere k.path) (now : UInt64)

variable {k : SubmissionCache}

/-- The record of a submission that comes in now. -/
def recordOf (x : Site k) (idea : SubmitIdea) : CachedSubmission :=
  ⟨idea, .overlayClosedCreatorActive, x.host.now⟩

/-- Whether a submission is stored: it is one for a project, and every step of storing succeeds. -/
def Stores (x : Site k) (idea : SubmitIdea) : Prop :=
  x.host.keeper ≠ .stopped ∧ idea.newProjectPath.isSome = true ∧
    (runSteps (k.writeSteps (x.recordOf idea)) x.host.files).2.isOk = true

instance (x : Site k) (idea : SubmitIdea) : Decidable (x.Stores idea) :=
  inferInstanceAs (Decidable (_ ∧ _))

/-- The record that a frame stores. -/
def record? (x : Site k) (text : String) : Option CachedSubmission :=
  match Demand.ofText text with
  | .idea (.ok idea) => if x.Stores idea then some (x.recordOf idea) else none
  | _ => none

/-- What a replay comes to: the host afterwards, and the outcome. -/
def replay (x : Site k) : Host × Except HostError Bool :=
  let r := (x.creator.replay true).runOn x.host default
  (r.1, r.2.2)

/-- One thing happens. -/
def turn (x : Site k) : Turn k → Site k
  | .frame s text =>
    { x with
      host := ((x.creator.handleFrame text).run x.host s).1
      stored := x.stored ++ (x.record? text).toList }
  | .replay =>
    { x with
      host := x.replay.1
      replayed := x.replayed ++ match x.replay.2 with
        | .ok true => [x.stored.length]
        | _ => [] }
  | .restart c hc h =>
    { x with creator := c, cache_eq := hc, host := { h with files := x.host.files, queue := [] } }
  | .meanwhile e now => { x with host := { x.host with files := e.change x.host.files, now } }

/-- Things happen one after another. -/
def run (x : Site k) (turns : List (Turn k)) : Site k := turns.foldl turn x

lemma run_append (x : Site k) (turns turns' : List (Turn k)) :
    x.run (turns ++ turns') = (x.run turns).run turns' := List.foldl_append

/-- The file is missing, or holds the record that was stored last. -/
def HasLast (x : Site k) : Prop :=
  x.host.files.Lacks k.path ∨ ∃ last, x.stored.getLast? = some last ∧
    x.host.files.Holds k.path last.fileText.toUTF8 ∧ ∀ i ∈ x.replayed, i < x.stored.length

/-- What is true of a site at every moment. -/
structure Sound (x : Site k) : Prop where
  idle : x.host.queue = []
  file : x.HasLast
  once : x.replayed.Pairwise (· < ·)
  bound : ∀ i ∈ x.replayed, 0 < i ∧ i ≤ x.stored.length
  readable : ∀ r ∈ x.stored, r.submission.IsIntegral →
    CachedSubmission.parse r.fileText = .ok r

variable {x : Site k} {text : String} {r : CachedSubmission}

lemma path_eq (x : Site k) : x.creator.cache.path = k.path := by rw [x.cache_eq]

lemma writeSteps_eq (x : Site k) (r : CachedSubmission) :
    x.creator.cache.writeSteps r = k.writeSteps r := by rw [x.cache_eq]

/-! ### Frames -/

/-- A record that a frame has stored stands in the file. -/
lemma holds_of_record? (hx : x.host.queue = []) (s : Session) (hr : x.record? text = some r) :
    ((x.creator.handleFrame text).run x.host s).1.files.Holds k.path r.fileText.toUTF8 := by
  rw [record?] at hr
  split at hr
  · next idea hdemand =>
    split_ifs at hr with hstored
    cases hr
    obtain ⟨hk, hproject, hok⟩ := hstored
    obtain ⟨path, hpath⟩ := Option.isSome_iff_exists.1 hproject
    have hserves := Creator.serves_handleFrame (c := x.creator) ⟨hk, hx⟩ s text
    rw [hdemand] at hserves
    rw [hserves.files]
    rcases hwrite : runSteps (k.writeSteps (x.recordOf idea)) x.host.files with ⟨t, e | ⟨⟩⟩
    · rw [hwrite] at hok
      cases hok
    · rw [← x.writeSteps_eq] at hwrite
      rw [← x.path_eq]
      exact Creator.holds_of_submitSteps hpath hwrite
  · cases hr

/-- A frame that stores no record leaves the file alone. -/
lemma spares_of_record? (hx : x.host.queue = []) (s : Session) (hr : x.record? text = none) :
    FileTree.Spares k.path x.host.files
      ((x.creator.handleFrame text).run x.host s).1.files := by
  by_cases hk : x.host.keeper = .stopped
  · obtain ⟨log, hrun⟩ := Creator.run_handleFrame_of_stopped (c := x.creator) hk s text
    rw [hrun]
    exact .refl _ _
  have hserves := Creator.serves_handleFrame (c := x.creator) ⟨hk, hx⟩ s text
  rw [hserves.files]
  rw [record?] at hr
  split at hr
  · next idea hdemand =>
    rw [hdemand, Creator.stepsOf]
    cases hproject : idea.newProjectPath with
    | none =>
      rw [Creator.submitSteps, hproject]
      exact .refl _ _
    | some path =>
      rcases hwrite : runSteps (k.writeSteps (x.recordOf idea)) x.host.files with ⟨t, e | ⟨⟩⟩
      · rw [← x.writeSteps_eq] at hwrite
        rw [← x.path_eq]
        exact Creator.spares_of_submitSteps hwrite
      -- had every step of storing succeeded, the submission would have been stored
      · have hstores : x.Stores idea := ⟨hk, by rw [hproject]; rfl, by rw [hwrite]; rfl⟩
        rw [if_pos hstores] at hr
        cases hr
  · next hother =>
    have hsteps : x.creator.stepsOf x.host.now (.ofText text) = [] := by
      cases hdemand : Demand.ofText text with
      | idea content =>
        cases content with
        | error e => rfl
        | ok idea => exact absurd hdemand (hother idea)
      | _ => rfl
    rw [hsteps]
    exact .refl _ _

/-- A record of integers that a frame has stored can be read again. -/
lemma parse_of_record? (hr : x.record? text = some r) (hint : r.submission.IsIntegral) :
    CachedSubmission.parse r.fileText = .ok r := by
  rw [record?] at hr
  split at hr
  · next idea hdemand =>
    split_ifs at hr
    cases hr
    obtain ⟨m, hm, hs⟩ := Demand.exists_submits hdemand
    exact hs.parse_fileText hm hint _ _
  · cases hr

lemma idle_frame (hx : x.host.queue = []) (s : Session) (text : String) :
    ((x.creator.handleFrame text).run x.host s).1.queue = [] := by
  by_cases hk : x.host.keeper = .stopped
  · obtain ⟨log, hrun⟩ := Creator.run_handleFrame_of_stopped (c := x.creator) hk s text
    rw [hrun]
    exact hx
  · exact (Creator.serves_handleFrame (c := x.creator) ⟨hk, hx⟩ s text).isLive.idle

lemma sound_frame (hx : x.Sound) (s : Session) (text : String) :
    (x.turn (.frame s text)).Sound := by
  have hidle := idle_frame hx.idle s text
  cases hr : x.record? text with
  | none =>
    have hspares := spares_of_record? hx.idle s hr
    have hstored : (x.turn (.frame s text)).stored = x.stored := by simp [turn, hr]
    refine ⟨hidle, ?_, hx.once, ?_, ?_⟩
    · rw [HasLast, hstored]
      refine hx.file.imp hspares.lacks ?_
      rintro ⟨last, hlast, hholds, hnew⟩
      exact ⟨last, hlast, hspares.holds hholds, hnew⟩
    · rw [hstored]
      exact hx.bound
    · rw [hstored]
      exact hx.readable
  | some r =>
    have hholds := holds_of_record? hx.idle s hr
    have hstored : (x.turn (.frame s text)).stored = x.stored ++ [r] := by simp [turn, hr]
    -- everything that was replayed came before this record
    have hbefore : ∀ i ∈ x.replayed, i < (x.stored ++ [r]).length := by
      intro i hi
      have hi := (hx.bound i hi).2
      rw [List.length_append, List.length_singleton]
      omega
    refine ⟨hidle, Or.inr ⟨r, ?_, hholds, ?_⟩, hx.once, ?_, ?_⟩
    · rw [hstored, List.getLast?_append, List.getLast?_singleton, Option.some_or]
    · rw [hstored]
      exact hbefore
    · rw [hstored]
      exact fun i hi => ⟨(hx.bound i hi).1, Nat.le_of_lt (hbefore i hi)⟩
    · rw [hstored]
      intro r' hr' hint
      rcases List.mem_append.1 hr' with hr' | hr'
      · exact hx.readable r' hr' hint
      · obtain rfl := List.mem_singleton.1 hr'
        exact parse_of_record? hr hint

/-! ### Replays -/

/-- Once the file is out of the way there is none. -/
lemma lacks_of_leftovers {t : FileTree} (hx : x.HasLast)
    (hleft : x.creator.leftovers true x.host.files = (t, .ok ())) : t.Lacks k.path := by
  rw [Creator.leftovers, if_pos rfl, x.cache_eq] at hleft
  refine SubmissionCache.lacks_of_cleared hleft (hx.imp_right ?_)
  rintro ⟨last, -, hholds, -⟩
  exact ⟨_, hholds⟩

/-- What is loaded is what the record that was stored last writes. -/
lemma exists_last_of_loaded (hx : x.HasLast)
    (hload : x.creator.cache.loaded x.host.files = .ok (some r)) :
    ∃ last, x.stored.getLast? = some last ∧ x.host.files.Holds k.path last.fileText.toUTF8 ∧
      CachedSubmission.parse last.fileText = .ok r ∧ ∀ i ∈ x.replayed, i < x.stored.length := by
  obtain ⟨text, hcontent, hparse⟩ := SubmissionCache.exists_of_loaded hload
  rw [x.cache_eq] at hcontent
  rcases hx with hlacks | ⟨last, hlast, hholds, hnew⟩
  · rw [hlacks] at hcontent
    cases hcontent
  -- the bytes of the file decide the text that was loaded
  · have htext : last.fileText = text := by
      rw [hholds.content?_eq, Option.some.injEq] at hcontent
      have hsame := FileTree.fromUTF8?_toUTF8 last.fileText
      rw [hcontent, FileTree.fromUTF8?_toUTF8] at hsame
      exact (Option.some.inj hsame).symm
    rw [← htext] at hparse
    exact ⟨last, hlast, hholds, hparse, hnew⟩

/-- What a replay at a site comes to. -/
inductive Replays (x : Site k) : Prop
  /-- The record that was stored last is carried out as the file writes it.  The file is gone. -/
  | carriedOut {last r : CachedSubmission} (hout : x.replay.2 = .ok true)
      (hlast : x.stored.getLast? = some last)
      (hholds : x.host.files.Holds k.path last.fileText.toUTF8)
      (hparse : CachedSubmission.parse last.fileText = .ok r)
      (hnew : ∀ i ∈ x.replayed, i < x.stored.length) (hage : r.age x.host.now < x.creator.maxAgeMs)
      (hidle : x.replay.1.queue = [])
      (hevents : x.replay.1.events =
        x.host.told [.stateChanged r.creator, .executePlan (.ofSubmission r.submission)])
      (hgone : x.replay.1.files.Lacks k.path)
  /-- Nothing is told.  If that is no failure the file is gone. -/
  | quiet (hout : x.replay.2 ≠ .ok true) (hidle : x.replay.1.queue = x.host.queue)
      (hevents : x.replay.1.events = x.host.events)
      (hfiles : x.replay.1.files = x.host.files ∨ x.replay.1.files.Lacks k.path)
      (hgone : ∀ b, x.replay.2 = .ok b → x.replay.1.files.Lacks k.path)

lemma replays_of_hasLast (hx : x.HasLast) : x.Replays := by
  obtain ⟨h', outcome, hrun, hreplays⟩ := Creator.runOn_replay x.creator true x.host default
  have hreplay : x.replay = (h', outcome) := by rw [replay, hrun]
  have hquiet (hout : outcome ≠ .ok true) (hidle : h'.queue = x.host.queue)
      (hevents : h'.events = x.host.events)
      (hfiles : h'.files = x.host.files ∨ h'.files.Lacks k.path)
      (hgone : ∀ b, outcome = .ok b → h'.files.Lacks k.path) : x.Replays := by
    refine .quiet ?_ ?_ ?_ ?_ ?_ <;> rw [hreplay] <;> assumption
  cases hreplays with
  | carriedOut hk hload hfresh hleft =>
    obtain ⟨last, hlast, hholds, hparse, hnew⟩ := exists_last_of_loaded hx hload
    refine .carriedOut ?_ hlast hholds hparse hnew (of_decide_eq_true hfresh) ?_ ?_ ?_ <;>
      rw [hreplay]
    exact lacks_of_leftovers hx hleft
  | notKept _ hleft =>
    exact hquiet nofun rfl rfl (Or.inr (lacks_of_leftovers hx hleft)) nofun
  | nothing _ _ hleft =>
    have hlacks := lacks_of_leftovers hx hleft
    exact hquiet nofun rfl rfl (Or.inr hlacks) fun _ _ => hlacks
  | notLoaded _ => exact hquiet nofun rfl rfl (Or.inl rfl) nofun
  | notRemoved _ => exact hquiet nofun rfl rfl (Or.inl rfl) nofun

lemma turn_replay_of_eq (h : x.replay.2 = .ok true) :
    x.turn .replay =
      { x with host := x.replay.1, replayed := x.replayed ++ [x.stored.length] } := by
  rw [turn, h]

lemma turn_replay_of_ne (h : x.replay.2 ≠ .ok true) :
    x.turn .replay = { x with host := x.replay.1 } := by
  simp only [turn, List.append_nil]

lemma sound_replay (hx : x.Sound) : (x.turn .replay).Sound := by
  cases replays_of_hasLast hx.file with
  | carriedOut hout hlast hholds hparse hnew hage hidle hevents hgone =>
    have hpos : 0 < x.stored.length := by
      rw [List.length_pos_iff]
      intro hnil
      rw [hnil] at hlast
      cases hlast
    rw [turn_replay_of_eq hout]
    refine ⟨hidle, Or.inl hgone, ?_, ?_, hx.readable⟩
    -- the record that stood in the file was stored after all that was replayed before
    · rw [List.pairwise_append]
      refine ⟨hx.once, List.pairwise_singleton _ _, fun i hi j hj => ?_⟩
      obtain rfl := List.mem_singleton.1 hj
      exact hnew i hi
    · intro i hi
      rcases List.mem_append.1 hi with hi | hi
      · exact hx.bound i hi
      · obtain rfl := List.mem_singleton.1 hi
        exact ⟨hpos, Nat.le_refl _⟩
  | quiet hout hidle hevents hfiles hgone =>
    rw [turn_replay_of_ne hout]
    refine ⟨hidle.trans hx.idle, ?_, hx.once, hx.bound, hx.readable⟩
    rcases hfiles with hsame | hlacks
    · rw [HasLast, hsame]
      exact hx.file
    · exact Or.inl hlacks

/-! ### Runs -/

/-- **Whatever happens, a site stays sound.** -/
theorem sound_turn (hx : x.Sound) (t : Turn k) : (x.turn t).Sound := by
  cases t with
  | frame s text => exact sound_frame hx s text
  | replay => exact sound_replay hx
  | restart c hc h => exact ⟨rfl, hx.file, hx.once, hx.bound, hx.readable⟩
  | «meanwhile» e now =>
    refine ⟨hx.idle, ?_, hx.once, hx.bound, hx.readable⟩
    refine hx.file.imp e.lacks ?_
    rintro ⟨last, hlast, hholds, hnew⟩
    exact ⟨last, hlast, e.holds hholds, hnew⟩

lemma sound_run (hx : x.Sound) (turns : List (Turn k)) : (x.run turns).Sound := by
  induction turns generalizing x with
  | nil => exact hx
  | cons t turns ih => exact ih (sound_turn hx t)

/-- Records are stored, and never forgotten. -/
lemma stored_length_le_turn (x : Site k) (t : Turn k) :
    x.stored.length ≤ (x.turn t).stored.length := by
  cases t with
  | frame s text =>
    change _ ≤ (x.stored ++ _).length
    rw [List.length_append]
    exact Nat.le_add_right _ _
  | _ => exact Nat.le_refl _

lemma stored_length_le_run (x : Site k) (turns : List (Turn k)) :
    x.stored.length ≤ (x.run turns).stored.length := by
  induction turns generalizing x with
  | nil => exact Nat.le_refl _
  | cons t turns ih => exact Nat.le_trans (x.stored_length_le_turn t) (ih (x.turn t))

/-- Where there is no file, none comes about before another record is stored. -/
lemma lacks_turn (hx : x.Sound) (hlacks : x.host.files.Lacks k.path) {t : Turn k}
    (hsame : (x.turn t).stored.length = x.stored.length) :
    (x.turn t).host.files.Lacks k.path := by
  cases t with
  | frame s text =>
    have hnone : x.record? text = none := by
      cases hr : x.record? text with
      | none => rfl
      | some r =>
        simp [turn, hr] at hsame
    exact (spares_of_record? hx.idle s hnone).lacks hlacks
  | replay =>
    cases replays_of_hasLast hx.file with
    | carriedOut hout _ _ _ _ _ _ _ hgone =>
      rw [turn_replay_of_eq hout]
      exact hgone
    | quiet hout _ _ hfiles _ =>
      rw [turn_replay_of_ne hout]
      rcases hfiles with hfiles | hgone
      · simpa only [hfiles] using hlacks
      · exact hgone
  | restart c hc h => exact hlacks
  | «meanwhile» e now => exact e.lacks hlacks

lemma lacks_run (hx : x.Sound) (hlacks : x.host.files.Lacks k.path) {turns : List (Turn k)}
    (hsame : (x.run turns).stored.length = x.stored.length) :
    (x.run turns).host.files.Lacks k.path := by
  induction turns generalizing x with
  | nil => exact hlacks
  | cons t turns ih =>
    have hfirst := x.stored_length_le_turn t
    have hrest := (x.turn t).stored_length_le_run turns
    change ((x.turn t).run turns).stored.length = _ at hsame
    -- nothing is forgotten, so nothing was stored in the first turn either
    have hturn : (x.turn t).stored.length = x.stored.length := by omega
    exact ih (sound_turn hx t) (lacks_turn hx hlacks hturn) (hsame.trans hturn.symm)

/-- A site at its beginning: nothing was stored, and there is no file. -/
structure IsNew (x : Site k) : Prop where
  idle : x.host.queue = []
  lacks : x.host.files.Lacks k.path
  stored : x.stored = []
  replayed : x.replayed = []

lemma IsNew.sound (hx : x.IsNew) : x.Sound := by
  refine ⟨hx.idle, Or.inl hx.lacks, ?_, ?_, ?_⟩
  · rw [hx.replayed]
    exact .nil
  · rw [hx.replayed]
    exact nofun
  · rw [hx.stored]
    exact nofun

/-- Every stored record is replayed at most once, and nothing else is. -/
structure CarriesOutOnce (x : Site k) : Prop where
  /-- A record that a frame stores stands in the file. -/
  stores (s : Session) (text : String) (r : CachedSubmission) (h : x.record? text = some r) :
    (x.turn (.frame s text)).host.files.Holds k.path r.fileText.toUTF8
  /-- No other frame touches the file. -/
  spares (s : Session) (text : String) (h : x.record? text = none) :
    FileTree.Spares k.path x.host.files (x.turn (.frame s text)).host.files
  /-- No two submissions were replayed without another record being stored in between. -/
  once : x.replayed.Pairwise (· < ·)
  bound : ∀ i ∈ x.replayed, 0 < i ∧ i ≤ x.stored.length
  /-- A replay carries out the fresh record that was stored last and is still there, as the file
  writes it; that is the record itself when its numbers are integers. -/
  carriedOut (h : x.replay.2 = .ok true) : ∃ last r, x.stored.getLast? = some last ∧
    x.host.files.Holds k.path last.fileText.toUTF8 ∧
    CachedSubmission.parse last.fileText = .ok r ∧ (last.submission.IsIntegral → r = last) ∧
    r.age x.host.now < x.creator.maxAgeMs ∧
    x.replay.1.events =
      x.host.told [.stateChanged r.creator, .executePlan (.ofSubmission r.submission)]
  /-- Any other outcome goes without events. -/
  quiet (h : x.replay.2 ≠ .ok true) : x.replay.1.events = x.host.events
  /-- A replay that does not fail leaves no file. -/
  gone (b : Bool) (h : x.replay.2 = .ok b) : x.replay.1.files.Lacks k.path
  /-- Without a file nothing is replayed until another record is stored. -/
  never (h : x.host.files.Lacks k.path) (turns : List (Turn k))
    (hsame : (x.run turns).stored.length = x.stored.length) :
    (x.run turns).replay.2 ≠ .ok true

/-- **Whatever happens to a cache directory, every stored record is replayed at most once.** -/
theorem run_carriesOutOnce (x : Site k) (hx : x.IsNew) (turns : List (Turn k)) :
    (x.run turns).CarriesOutOnce := by
  -- all that follows is said of one moment, but for the last fact
  have hsound := sound_run hx.sound turns
  generalize x.run turns = y at hsound ⊢
  refine ⟨fun s _ _ => holds_of_record? hsound.idle s, fun s _ => spares_of_record? hsound.idle s,
    hsound.once, hsound.bound, ?_, ?_, ?_, ?_⟩
  · intro htrue
    cases replays_of_hasLast hsound.file with
    | @carriedOut last r hout hlast hholds hparse hnew hage hidle hevents hgone =>
      refine ⟨last, r, hlast, hholds, hparse, fun hint => ?_, hage, hevents⟩
      have hsame := hsound.readable last (List.mem_of_getLast? hlast) hint
      rw [hparse] at hsame
      exact Except.ok.inj hsame
    | quiet hout => exact absurd htrue hout
  · intro hne
    cases replays_of_hasLast hsound.file with
    | carriedOut hout => exact absurd hout hne
    | quiet _ _ hevents => exact hevents
  · intro b hb
    cases replays_of_hasLast hsound.file with
    | carriedOut _ _ _ _ _ _ _ _ hgone => exact hgone
    | quiet _ _ _ _ hgone => exact hgone b hb
  · intro hlacks turns' hsame
    have hlater := lacks_run hsound hlacks hsame
    cases replays_of_hasLast (sound_run hsound turns').file with
    | carriedOut _ _ hholds => exact absurd hlater hholds.not_lacks
    | quiet hout => exact hout

/-- A site with an empty root. -/
def atRoot : Site ⟨""⟩ where
  creator := .atRoot
  cache_eq := rfl
  host := {}

lemma atRoot_isNew : atRoot.IsNew := ⟨rfl, rfl, rfl, rfl⟩

/-- After the next start, what the record of a submission reads as is replayed. -/
lemma replay_atRoot {text : String} {m : OutgoingMessage} {idea : SubmitIdea}
    {r : CachedSubmission} (hm : OutgoingMessage.parse text = .ok m) (hs : m.Submits idea)
    (hpath : idea.newProjectPath = some "/")
    (hparse : CachedSubmission.parse (atRoot.recordOf idea).fileText = .ok r) :
    let x := atRoot.run [.frame default text, .restart .atRoot rfl {}]
    x.stored = [atRoot.recordOf idea] ∧ x.replay.2 = .ok true ∧
      x.replay.1.events =
        [.stateChanged r.creator, .executePlan (.ofSubmission r.submission)] := by
  intro x
  obtain ⟨hsteps, hfiles⟩ := Creator.files_handleFrame_atRoot hm hs hpath default
  have hrecord : atRoot.record? text = some (atRoot.recordOf idea) := by
    have hdemand : Demand.ofText text = .idea (.ok idea) := by
      rw [Demand.ofText_of_ok hm, hs.demand_eq]
    have hstores : atRoot.Stores idea := by
      refine ⟨by decide, by rw [hpath]; rfl, ?_⟩
      change (runSteps (SubmissionCache.writeSteps ⟨""⟩ _) FileTree.empty).2.isOk = true
      rw [SubmissionCache.runSteps_writeSteps_empty]
      rfl
    rw [record?, hdemand]
    exact if_pos hstores
  have hholds : x.host.files.Holds Creator.atRoot.cache.path
      (atRoot.recordOf idea).fileText.toUTF8 := holds_of_record? rfl default hrecord
  have hallowed (a : Access) : x.host.files.hindrance? a = none := by
    change FileTree.hindrance? ((Creator.atRoot.handleFrame text).run {} default).1.files a = none
    rw [hfiles]
  have hfresh : r.isFresh x.host.now Creator.atRoot.maxAgeMs = true := by
    refine decide_eq_true ?_
    change 0 - r.timestamp.toNat < 1
    omega
  have hleft : (Creator.atRoot.leftovers true x.host.files).2 = .ok () := by
    obtain ⟨t, ht⟩ := hholds.exists_remove (SubmissionCache.endsInSlash_path _) (hallowed _)
    rw [Creator.leftovers, if_pos rfl, SubmissionCache.cleared, ht]
  have hkeeper : x.host.keeper ≠ .stopped := fun hk => by cases hk
  refine ⟨?_, Creator.replays_of_loaded hkeeper
    (SubmissionCache.loaded_of_holds hholds hparse (hallowed _)) hfresh hleft default⟩
  change [] ++ (atRoot.record? text).toList = _
  rw [hrecord]
  rfl

/-- A submission with a note is replayed after the next start, and not a second time. -/
theorem run_carriesOutOnce_note :
    let text := "\x7b\"messageId\":\"1\",\"destination\":\"creator\","
      ++ "\"messageType\":\"SubmitIdea\",\"payload\":\x7b\"request\":\"r\","
      ++ "\"newProjectPath\":\"/\",\"note\":\"n\"\x7d\x7d"
    let idea : SubmitIdea := ⟨"r", none, some "/", [("note", .str "n")]⟩
    let turns : List (Turn ⟨""⟩) := [.frame default text, .restart .atRoot rfl {}]
    atRoot.IsNew ∧ (atRoot.run turns).replay.2 = .ok true ∧
      (atRoot.run turns).replay.1.events =
        [.stateChanged .overlayClosedCreatorActive, .executePlan (.ofSubmission idea)] ∧
      (atRoot.run (turns ++ [.replay])).replay.2 ≠ .ok true := by
  intro text idea turns
  let m : OutgoingMessage := ⟨⟨"1"⟩, .creator, "SubmitIdea",
    some (.obj [("newProjectPath", .str "/"), ("note", .str "n"), ("request", .str "r")])⟩
  have hm : OutgoingMessage.parse text = .ok m := by decide +kernel
  have hs : m.Submits idea := ⟨rfl, rfl, by decide +kernel⟩
  have hparse : CachedSubmission.parse (atRoot.recordOf idea).fileText =
      .ok (atRoot.recordOf idea) := by
    refine hs.parse_fileText hm ?_ _ _
    rintro _ hv
    obtain rfl := List.mem_singleton.1 hv
    trivial
  obtain ⟨-, htrue, hevents⟩ := replay_atRoot hm hs rfl hparse
  have hgone := (run_carriesOutOnce atRoot atRoot_isNew turns).gone true htrue
  have hagain := run_carriesOutOnce atRoot atRoot_isNew (turns ++ [.replay])
  have hrun : atRoot.run (turns ++ [.replay]) = (atRoot.run turns).turn .replay := run_append ..
  refine ⟨atRoot_isNew, htrue, hevents, ?_⟩
  rw [hrun, turn_replay_of_eq htrue] at hagain ⊢
  exact hagain.never hgone [] rfl

/-- **A number that is no integer may come back as a neighbouring one**, so what is replayed is not
always what was stored. -/
theorem replay_rounds :
    let text := "\x7b\"messageId\":\"1\",\"destination\":\"creator\","
      ++ "\"messageType\":\"SubmitIdea\",\"payload\":\x7b\"request\":\"r\","
      ++ "\"newProjectPath\":\"/\",\"note\":2.3e-30\x7d\x7d"
    let x := atRoot.run [.frame default text, .restart .atRoot rfl {}]
    atRoot.IsNew ∧ x.replay.2 = .ok true ∧ ∃ last, x.stored.getLast? = some last ∧
      x.replay.1.events ≠
        x.host.told [.stateChanged last.creator, .executePlan (.ofSubmission last.submission)] := by
  intro text x
  let idea (significand : Nat) : SubmitIdea :=
    ⟨"r", none, some "/", [("note", .num (.double ⟨false, significand, -151⟩))]⟩
  let m : OutgoingMessage := ⟨⟨"1"⟩, .creator, "SubmitIdea",
    some (.obj [("newProjectPath", .str "/"),
      ("note", .num (.double ⟨false, 6565339386447416, -151⟩)), ("request", .str "r")])⟩
  have hm : OutgoingMessage.parse text = .ok m := by decide +kernel
  have hs : m.Submits (idea 6565339386447416) := ⟨rfl, rfl, by decide +kernel⟩
  have hparse : CachedSubmission.parse (atRoot.recordOf (idea 6565339386447416)).fileText =
      .ok (atRoot.recordOf (idea 6565339386447415)) := by decide +kernel
  obtain ⟨hstored, htrue, hevents⟩ := replay_atRoot hm hs rfl hparse
  refine ⟨atRoot_isNew, htrue, atRoot.recordOf (idea 6565339386447416), ?_, ?_⟩
  · rw [hstored]
    rfl
  · rw [hevents]
    change [HostEvent.stateChanged _, .executePlan (.ofSubmission (idea 6565339386447415))] ≠
      [.stateChanged _, .executePlan (.ofSubmission (idea 6565339386447416))]
    decide +kernel

end Site

end WebviewBridge
