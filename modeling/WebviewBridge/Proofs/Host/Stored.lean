import WebviewBridge.Proofs.Files.Replaced
import WebviewBridge.Proofs.Host.Story

/-!
# Storing, loading and replaying

What storing a record leaves behind, whether it succeeds or not
(`SubmissionCache.holds_of_writeSteps`, `SubmissionCache.spares_of_writeSteps`), what it comes to
when the record is taken (`Creator.runOn_takeFresh`), and what a replay comes to
(`Creator.runOn_replay`): it carries out a fresh record once the file is removed, or it tells
nothing.
-/

namespace WebviewBridge

open Json

/-! ## The file -/

namespace SubmissionCache

variable {k : SubmissionCache} {t t' : FileTree} {r : CachedSubmission} {e : HostError}

lemma isFileName_fileName : FilePath.IsFileName fileName := by
  constructor <;> decide

lemma isFileName_temporary : FilePath.IsFileName (temporaryPath fileName) := by
  constructor <;> decide

lemma endsInSlash_path (k : SubmissionCache) : FilePath.endsInSlash k.path = false :=
  FilePath.endsInSlash_join k.dir isFileName_fileName

/-- Writing beside the file leaves the file alone. -/
lemma placeOf_path_ne (k : SubmissionCache) (t : FileTree) :
    t.placeOf k.path ≠ t.placeOf (temporaryPath k.path) :=
  (t.placeOf_temporaryPath_ne k.dir isFileName_fileName isFileName_temporary).symm

/-- So does making directories. -/
lemma spares_makeDirs (path : String) (t : FileTree) (dir : String) :
    FileTree.Spares path t (t.makeDirs dir).1 :=
  ⟨[], t.changesOnly_makeDirs dir, List.not_mem_nil⟩

/-- A record that was stored stands in the file. -/
lemma holds_of_writeSteps (h : runSteps (k.writeSteps r) t = (t', .ok ())) :
    t'.Holds k.path r.fileText.toUTF8 := by
  obtain ⟨t₁, -, h⟩ := exists_of_runSteps_cons h
  exact FileTree.holds_of_replaceSteps h

/-- A record that could not be stored has left the file as it was. -/
lemma spares_of_writeSteps (h : runSteps (k.writeSteps r) t = (t', .error e)) :
    FileTree.Spares k.path t t' := by
  have hdirs := spares_makeDirs k.path t (FilePath.asParent k.dir)
  rcases failed_of_runSteps_cons h with ⟨reason, hd⟩ | ⟨t₁, hd, h⟩
  · rw [FileOp.run] at hd
    rwa [hd] at hdirs
  · rw [FileOp.run] at hd
    rw [hd] at hdirs
    refine hdirs.trans ⟨_, FileTree.changesOnly_of_replaceSteps h, ?_⟩
    simpa using k.placeOf_path_ne t₁

/-- Below an empty root a record is stored. -/
lemma runSteps_writeSteps_empty (r : CachedSubmission) :
    runSteps (writeSteps ⟨""⟩ r) FileTree.empty =
      ({ entries := [([fileName], .file r.fileText.toUTF8 publicMode)] }, .ok ()) := by
  have hpath : path ⟨""⟩ = fileName := FilePath.join_empty isFileName_fileName
  have hdirs : FileTree.empty.makeDirs (FilePath.asParent "") = (FileTree.empty, .ok ()) := by
    have hdir : FilePath.asParent "" = "" := by decide +kernel
    rw [hdir]
    rfl
  rw [writeSteps, hpath, runSteps, FileOp.run, hdirs]
  exact FileTree.runSteps_replaceSteps_empty isFileName_fileName isFileName_temporary
    (by simp [fileName]) (by simp [temporaryPath, fileName]) (by decide) (by decide)

/-- What becomes of the files when the file is removed, if there is one. -/
def cleared (k : SubmissionCache) (t : FileTree) : FileTree × Except HostError Unit :=
  match t.remove k.path with
  | .ok t' => (t', .ok ())
  | .error e => (t, if e = .notFound then .ok () else .error (.cache k.path e.message))

lemma runOn_clear (k : SubmissionCache) (h : Host) (s : Session) :
    k.clear.runOn h s =
      ({ h with files := (k.cleared h.files).1 }, s, (k.cleared h.files).2) := by
  rw [clear, Handling.runOn_ofEffect_bind, Handling.perform_change, cleared, FileOp.run]
  cases hr : h.files.remove k.path with
  | ok t => rfl
  | error e =>
    simp only [FileOp.run.settle]
    split_ifs <;> rfl

/-- Once the file is removed, if there was one, there is none. -/
lemma lacks_of_cleared (h : k.cleared t = (t', .ok ()))
    (hfile : t.Lacks k.path ∨ ∃ bytes, t.Holds k.path bytes) : t'.Lacks k.path := by
  rw [cleared] at h
  split at h
  · next t₁ hr =>
    cases h
    exact FileTree.lacks_of_remove hr
  · next e hr =>
    split_ifs at h with he
    · cases h
      rcases hfile with hlacks | ⟨bytes, hholds⟩
      · exact hlacks
      · exact absurd (he ▸ hr) (hholds.remove_ne_notFound k.endsInSlash_path)
    · cases h

/-- Nothing has changed if the file could not be removed. -/
lemma cleared_of_error (h : k.cleared t = (t', .error e)) : t' = t := by
  rw [cleared] at h
  split at h
  · cases h
  · exact (congrArg Prod.fst h).symm

/-- What is loaded: the record that the file writes, if there is a file. -/
def loaded (k : SubmissionCache) (t : FileTree) : Except HostError (Option CachedSubmission) :=
  k.recordOf (t.readText k.path)

lemma runOn_load (k : SubmissionCache) (h : Host) (s : Session) :
    k.load.runOn h s = (h, s, k.loaded h.files) := by
  rw [load, loaded]
  refine (Handling.runOn_ofEffect_bind (.readText k.path) _).trans ?_
  change (Handling.ofExcept (k.recordOf (h.files.readText k.path))).runOn h s = _
  cases k.recordOf (h.files.readText k.path) <;> rfl

/-- The file can be read, and its text writes the record. -/
def IsWritten (k : SubmissionCache) (t : FileTree) (r : CachedSubmission) : Prop :=
  ∃ text, t.readText k.path = .ok text ∧ CachedSubmission.parse text = .ok r

/-- Reading says that there is no file. -/
def IsMissing (k : SubmissionCache) (t : FileTree) : Prop :=
  t.readText k.path = .error .notFound

lemma loaded_eq_some_iff : k.loaded t = .ok (some r) ↔ k.IsWritten t r := by
  constructor
  · intro h
    rw [loaded] at h
    cases htext : t.readText k.path with
    | ok text =>
      rw [htext, recordOf] at h
      split at h
      · next r' hparse =>
        cases h
        exact ⟨text, htext, hparse⟩
      · cases h
    | error e =>
      rw [htext, recordOf] at h
      split_ifs at h
      cases h
  · rintro ⟨text, htext, hparse⟩
    rw [loaded, htext, recordOf, hparse]

lemma loaded_eq_none_iff : k.loaded t = .ok none ↔ k.IsMissing t := by
  rw [loaded, IsMissing]
  cases htext : t.readText k.path with
  | ok text =>
    rw [recordOf]
    split <;> simp
  | error e => by_cases he : e = .notFound <;> simp [recordOf, he]

/-- A record that was loaded is what the file writes. -/
lemma exists_of_loaded (h : k.loaded t = .ok (some r)) :
    ∃ text : String, t.content? (t.placeOf k.path) = some text.toUTF8 ∧
      CachedSubmission.parse text = .ok r := by
  obtain ⟨text, htext, hparse⟩ := loaded_eq_some_iff.1 h
  exact ⟨text, FileTree.content?_of_readText htext, hparse⟩

/-- A file that holds a record is loaded, unless the system is against it. -/
lemma loaded_of_holds {text : String} (h : t.Holds k.path text.toUTF8)
    (hparse : CachedSubmission.parse text = .ok r)
    (hallow : t.hindrance? (.read (t.placeOf k.path)) = none) : k.loaded t = .ok (some r) :=
  loaded_eq_some_iff.2 ⟨text, h.readText k.endsInSlash_path hallow, hparse⟩

/-- The file is there, and writes no record. -/
def IsCorrupt (k : SubmissionCache) (t : FileTree) : Prop :=
  ∃ bytes, t.content? (t.placeOf k.path) = some bytes ∧
    ∀ (text : String) r, bytes = text.toUTF8 → CachedSubmission.parse text ≠ .ok r

/-- Nothing is loaded of a corrupt file. -/
lemma IsCorrupt.loaded_ne (h : k.IsCorrupt t) (r : CachedSubmission) :
    k.loaded t ≠ .ok (some r) := by
  intro hload
  obtain ⟨bytes, hbytes, hcorrupt⟩ := h
  obtain ⟨text, htext, hparse⟩ := exists_of_loaded hload
  rw [hbytes] at htext
  exact hcorrupt text r (Option.some.inj htext) hparse

end SubmissionCache

/-! ## Taking and replaying -/

namespace Creator

variable {c : Creator} {h : Host} {s : Session}

/-- The files after a replay, and whether the stored record could be removed if that was wanted. -/
def leftovers (c : Creator) (remove : Bool) (t : FileTree) : FileTree × Except HostError Unit :=
  if remove then c.cache.cleared t else (t, .ok ())

/-- What it comes to when the record is taken: what is handed out, and the host afterwards. -/
inductive Takes (c : Creator) (remove : Bool) (h : Host) :
    Except HostError (Option CachedSubmission) → Host → Prop
  /-- What was loaded is handed out, unless it is stale. -/
  | taken {stored : Option CachedSubmission} {t : FileTree} {log : List LogEntry}
      (hload : c.cache.loaded h.files = .ok stored)
      (hleft : c.leftovers remove h.files = (t, .ok ())) :
      Takes c remove h (.ok (stored.filter fun r => r.isFresh h.now c.maxAgeMs))
        { h with files := t, log }
  | notLoaded {e : HostError} (hload : c.cache.loaded h.files = .error e) :
      Takes c remove h (.error e) h
  /-- What could not be removed is not handed out. -/
  | notRemoved {stored : Option CachedSubmission} {e : HostError} {log : List LogEntry}
      (hload : c.cache.loaded h.files = .ok stored)
      (hleft : c.leftovers remove h.files = (h.files, .error e)) :
      Takes c remove h (.error e) { h with log }

lemma runOn_takeFresh_of_error {e : HostError} (hload : c.cache.loaded h.files = .error e)
    (remove : Bool) :
    (c.cache.takeFresh c.maxAgeMs remove).runOn h s = (h, s, .error e) := by
  refine Handling.runOn_bind_of_error ?_
  rw [SubmissionCache.runOn_load, hload]

/-- The record is handed out if it is fresh, and removed in any case if that is wanted. -/
lemma runOn_takeFresh_of_ok {stored : Option CachedSubmission}
    (hload : c.cache.loaded h.files = .ok stored) (remove : Bool) :
    ∃ log, (c.cache.takeFresh c.maxAgeMs remove).runOn h s =
      ({ h with files := (c.leftovers remove h.files).1, log }, s,
        (c.leftovers remove h.files).2.map fun _ =>
          stored.filter fun r => r.isFresh h.now c.maxAgeMs) := by
  have hloaded := c.cache.runOn_load h s
  rw [hload] at hloaded
  -- what is handed out is known before the file is removed
  have hclear (log : List LogEntry) (x : Option CachedSubmission) :
      (do
        c.cache.clear
        pure x : Handling (Option CachedSubmission)).runOn { h with log } s =
        ({ h with files := (c.cache.cleared h.files).1, log }, s,
          (c.cache.cleared h.files).2.map fun _ => x) := by
    have hrun := c.cache.runOn_clear { h with log } s
    rcases hc : c.cache.cleared h.files with ⟨t, e | ⟨⟩⟩
    · rw [hc] at hrun
      exact Handling.runOn_bind_of_error hrun
    · rw [hc] at hrun
      exact Handling.runOn_bind_of_ok hrun
  rw [SubmissionCache.takeFresh, Handling.runOn_bind_of_ok hloaded]
  cases stored with
  | none =>
    cases remove with
    | true => exact ⟨h.log, hclear h.log none⟩
    | false => exact ⟨h.log, rfl⟩
  | some r =>
    refine (Handling.runOn_clock_bind _).symm ▸ ?_
    simp only [Option.filter_some]
    by_cases hfresh : r.isFresh h.now c.maxAgeMs = true
    · simp only [hfresh, if_true]
      cases remove with
      | true => exact ⟨h.log, hclear h.log (some r)⟩
      | false => exact ⟨h.log, rfl⟩
    · simp only [hfresh, Bool.false_eq_true, if_false]
      rw [Handling.runOn_log_bind]
      cases remove with
      | true => exact ⟨_, hclear _ none⟩
      | false => exact ⟨_, rfl⟩

/-- **To take the record comes to one of three ends.** -/
theorem runOn_takeFresh (c : Creator) (remove : Bool) (h : Host) (s : Session) :
    ∃ h' outcome, (c.cache.takeFresh c.maxAgeMs remove).runOn h s = (h', s, outcome) ∧
      c.Takes remove h outcome h' := by
  cases hload : c.cache.loaded h.files with
  | error e => exact ⟨h, .error e, runOn_takeFresh_of_error hload remove, .notLoaded hload⟩
  | ok stored =>
    obtain ⟨log, htake⟩ := runOn_takeFresh_of_ok (s := s) hload remove
    rcases hleft : c.leftovers remove h.files with ⟨t, e | ⟨⟩⟩
    · have hsame : t = h.files := by
        cases remove with
        | true => exact SubmissionCache.cleared_of_error hleft
        | false => cases hleft
      rw [hleft] at htake
      subst hsame
      exact ⟨_, _, htake, .notRemoved hload hleft⟩
    · rw [hleft] at htake
      exact ⟨_, _, htake, .taken hload hleft⟩

/-- What a replay on a host comes to: its outcome, and the host afterwards. -/
inductive Replays (c : Creator) (remove : Bool) (h : Host) :
    Except HostError Bool → Host → Prop
  /-- A fresh record is carried out once it is out of the way. -/
  | carriedOut {r : CachedSubmission} {t : FileTree} {applied : Nat} {log : List LogEntry}
      (hk : h.keeper ≠ .stopped) (hload : c.cache.loaded h.files = .ok (some r))
      (hfresh : r.isFresh h.now c.maxAgeMs = true)
      (hleft : c.leftovers remove h.files = (t, .ok ())) :
      Replays c remove h (.ok true)
        { h with
            state := { h.state.applyAll h.queue with creator := r.creator }
            keeper := .running, queue := [], applied, files := t, log
            events := h.told [.stateChanged r.creator, .executePlan (.ofSubmission r.submission)] }
  /-- Without its keeper a host tells nothing of a record that it has removed. -/
  | notKept {t : FileTree} {e : HostError} {log : List LogEntry} (hk : h.keeper = .stopped)
      (hleft : c.leftovers remove h.files = (t, .ok ())) :
      Replays c remove h (.error e) { h with files := t, log }
  /-- Without a record, or with a stale one, nothing is told. -/
  | nothing {stored : Option CachedSubmission} {t : FileTree} {log : List LogEntry}
      (hload : c.cache.loaded h.files = .ok stored)
      (hstale : ∀ r ∈ stored, r.isFresh h.now c.maxAgeMs = false)
      (hleft : c.leftovers remove h.files = (t, .ok ())) :
      Replays c remove h (.ok false) { h with files := t, log }
  | notLoaded {e : HostError} (hload : c.cache.loaded h.files = .error e) :
      Replays c remove h (.error e) h
  | notRemoved {e : HostError} {log : List LogEntry}
      (hleft : c.leftovers remove h.files = (h.files, .error e)) :
      Replays c remove h (.error e) { h with log }

/-- **A replay carries out the stored record or tells nothing.** -/
theorem runOn_replay (c : Creator) (remove : Bool) (h : Host) (s : Session) :
    ∃ h' outcome, (c.replay remove).runOn h s = (h', s, outcome) ∧
      c.Replays remove h outcome h' := by
  obtain ⟨h₁, stored, htake, htakes⟩ := c.runOn_takeFresh remove h s
  cases htakes with
  | notLoaded hload => exact ⟨_, _, Handling.runOn_bind_of_error htake, .notLoaded hload⟩
  | notRemoved _ hleft => exact ⟨_, _, Handling.runOn_bind_of_error htake, .notRemoved hleft⟩
  | @taken stored t log hload hleft =>
    rw [replay, Handling.runOn_bind_of_ok htake]
    cases hfresh : stored.filter fun r => r.isFresh h.now c.maxAgeMs with
    | none =>
      refine ⟨_, _, rfl, .nothing hload (fun r hr => ?_) hleft⟩
      cases hr
      simpa using hfresh
    | some r =>
      obtain ⟨rfl, hage⟩ := Option.filter_eq_some_iff.1 hfresh
      simp only
      rw [Handling.runOn_log_bind]
      by_cases hk : h.keeper = .stopped
      · refine ⟨_, _, Handling.runOn_bind_of_error (runOn_changeState_of_stopped ?_ _),
          .notKept hk hleft⟩
        exact hk
      · obtain ⟨applied, log', hmode⟩ := runOn_changeState_of_alive (s := s)
          (h := { h with files := t, log }.note
            [.bridge .info "Replaying cached creator submission"]) hk r.creator
        rw [Handling.runOn_bind_of_ok hmode, Handling.runOn_bind_of_ok (Handling.runOn_emit _),
          Host.emit_eq, Host.told_inMode]
        exact ⟨_, _, rfl, .carriedOut hk hload hage hleft⟩

end Creator

end WebviewBridge
