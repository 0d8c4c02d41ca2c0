import Mathlib.Algebra.Order.Group.Int
import WebviewBridge.Host.Server
import WebviewBridge.Proofs.Host.Stored

/-!
# Taking the stored record

A stored record is handed out while it is young enough.  Its age is a difference of two times of 64
bits, in milliseconds, and the limit is a number of 64 bits of seconds; they are compared as whole
numbers (`CachedSubmission.isFresh_iff`).  A record that was to be removed is gone whenever nothing
went wrong, and when something went wrong nothing was removed.

Main statement: `Creator.takeFresh_handsOut`.
-/

namespace WebviewBridge

/-! ## Ages -/

namespace CachedSubmission

variable {r : CachedSubmission} {seconds now : UInt64}

/-- The age of a record, as an integer, is below a limit in seconds. -/
def IsYoungerThan (r : CachedSubmission) (seconds now : UInt64) : Prop :=
  max 0 ((now.toNat : ℤ) - r.timestamp.toNat) < 1000 * seconds.toNat

instance : Decidable (r.IsYoungerThan seconds now) := inferInstanceAs (Decidable (_ < _))

/-- No time and no limit is too large to be compared. -/
lemma isFresh_iff : r.isFresh now (seconds.toNat * 1000) = true ↔ r.IsYoungerThan seconds now := by
  rw [isFresh, age, decide_eq_true_iff, IsYoungerThan]
  omega

/-- The greatest age there is, under the greatest limit and just above another. -/
example :
    let r : CachedSubmission := ⟨default, .overlayClosed, 0⟩
    r.IsYoungerThan 18446744073709551615 18446744073709551615 ∧
      ¬r.IsYoungerThan 18446744073709551 18446744073709551615 := by
  decide

/-- A record from the future has no age. -/
lemma isYoungerThan_of_le (h : now ≤ r.timestamp) :
    r.IsYoungerThan seconds now ↔ seconds ≠ 0 := by
  rw [UInt64.le_iff_toNat_le] at h
  rw [IsYoungerThan, ne_eq, ← UInt64.toNat_inj, UInt64.toNat_zero]
  omega

/-- A record as old as the limit is stale. -/
lemma not_isYoungerThan_of_eq (h : now.toNat = r.timestamp.toNat + 1000 * seconds.toNat) :
    ¬r.IsYoungerThan seconds now := by
  rw [IsYoungerThan]
  omega

lemma not_isYoungerThan_zero : ¬r.IsYoungerThan 0 now := by
  rw [IsYoungerThan, UInt64.toNat_zero]
  omega

end CachedSubmission

/-! ## The file -/

namespace SubmissionCache

variable {k : SubmissionCache} {t t' : FileTree} {e : HostError}

/-- Removing the file does not fail.  That there is no file to remove is no failure. -/
def IsRemovable (k : SubmissionCache) (t : FileTree) : Prop :=
  ∀ e, t.remove k.path = .error e → e = .notFound

/-- What keeps a record from being loaded is reported with the path of the file. -/
lemma exists_message_of_loaded (h : k.loaded t = .error e) :
    ∃ message, e = .cache k.path message := by
  rw [loaded] at h
  cases htext : t.readText k.path with
  | ok text =>
    rw [htext, recordOf] at h
    split at h
    · cases h
    · cases h
      exact ⟨_, rfl⟩
  | error reason =>
    rw [htext, recordOf] at h
    split_ifs at h
    cases h
    exact ⟨_, rfl⟩

/-- A file that is there and writes no record is not passed over. -/
lemma exists_loaded_error {bytes : ByteArray} (h : t.Holds k.path bytes)
    (hcorrupt : ∀ (text : String) r, bytes = text.toUTF8 → CachedSubmission.parse text ≠ .ok r) :
    ∃ e, k.loaded t = .error e := by
  rcases hload : k.loaded t with e | _ | r
  · exact ⟨e, rfl⟩
  · exact absurd (loaded_eq_none_iff.1 hload) (h.readText_ne_notFound k.endsInSlash_path)
  · exact absurd hload (IsCorrupt.loaded_ne ⟨bytes, h.content?_eq, hcorrupt⟩ r)

lemma isRemovable_iff : k.IsRemovable t ↔ (k.cleared t).2 = .ok () := by
  rw [IsRemovable, cleared]
  cases t.remove k.path with
  | ok t' => simp
  | error e => by_cases he : e = .notFound <;> simp [he]

/-- A file that reading does not find is removable, unless the system is against it. -/
lemma IsMissing.isRemovable (h : k.IsMissing t)
    (hallow : t.hindrance? (.remove (t.placeOf k.path)) = none) : k.IsRemovable t := by
  intro e he
  rw [FileTree.remove_of_readText_eq_notFound h hallow] at he
  exact (Except.error.inj he).symm

lemma exists_message_of_cleared (h : k.cleared t = (t', .error e)) :
    ∃ message, e = .cache k.path message := by
  rw [cleared] at h
  split at h
  · cases h
  · split_ifs at h
    · cases h
    · cases h
      exact ⟨_, rfl⟩

/-- A file that was cleared away is not there. -/
lemma exists?_of_cleared (h : k.cleared t = (t', .ok ())) : t'.exists? k.path = false := by
  rw [cleared] at h
  split at h
  · next hremove =>
    cases h
    exact FileTree.exists?_of_remove hremove
  · next e hremove =>
    split_ifs at h with he
    · cases h
      exact FileTree.exists?_of_remove_eq_notFound (he ▸ hremove)
    · cases h

/-- To clear the file away is to touch no other. -/
lemma changesOnly_cleared (k : SubmissionCache) (t : FileTree) :
    FileTree.ChangesOnly [t.placeOf k.path] t (k.cleared t).1 := by
  rw [cleared]
  split
  · next hremove => exact FileTree.changesOnly_remove hremove
  · exact .refl _ t

/-- What is handed out when the record is taken with a limit in seconds, and what becomes of the
files. -/
structure HandsOut (k : SubmissionCache) (seconds now : UInt64) (remove : Bool) (t t' : FileTree)
    (outcome : Except HostError (Option CachedSubmission)) : Prop where
  /-- A record is handed out just if the file writes it, it is young enough, and it can be removed
  if that is wanted. -/
  some_iff : ∀ r, outcome = .ok (some r) ↔
    k.IsWritten t r ∧ r.IsYoungerThan seconds now ∧ (remove = true → k.IsRemovable t)
  /-- Nothing is handed out, without anything being wrong, just if there is no file or a stale
  record. -/
  none_iff : outcome = .ok none ↔
    (k.IsMissing t ∨ ∃ r, k.IsWritten t r ∧ ¬r.IsYoungerThan seconds now) ∧
      (remove = true → k.IsRemovable t)
  future : ∀ r, k.IsWritten t r → now ≤ r.timestamp → seconds ≠ 0 →
    (remove = true → k.IsRemovable t) → outcome = .ok (some r)
  limit : ∀ r, now.toNat = r.timestamp.toNat + 1000 * seconds.toNat → outcome ≠ .ok (some r)
  zero : seconds = 0 → ∀ r, outcome ≠ .ok (some r)
  /-- What was to be removed is gone if nothing went wrong, whether it was handed out or not. -/
  gone : remove = true → ∀ stored, outcome = .ok stored → t'.exists? k.path = false
  /-- If something went wrong nothing was removed, and the error names the file. -/
  failed : ∀ e, outcome = .error e → t' = t ∧ ∃ message, e = .cache k.path message
  kept : remove = false → t' = t
  elsewhere : FileTree.ChangesOnly [t.placeOf k.path] t t'
  missing : k.IsMissing t →
    (remove = true → t.hindrance? (.remove (t.placeOf k.path)) = none) → outcome = .ok none
  /-- A file that writes no record is an error, and stays in place. -/
  corrupt : ∀ bytes, t.Holds k.path bytes →
    (∀ (text : String) r, bytes = text.toUTF8 → CachedSubmission.parse text ≠ .ok r) →
    t' = t ∧ ∃ message, outcome = .error (.cache k.path message)

end SubmissionCache

/-! ## Taking -/

namespace Creator

variable {c : Creator} {remove : Bool} {h h' : Host} {seconds : UInt64}
  {outcome : Except HostError (Option CachedSubmission)}

lemma leftovers_eq_ok_iff (t : FileTree) :
    (c.leftovers remove t).2 = .ok () ↔ (remove = true → c.cache.IsRemovable t) := by
  rw [leftovers, SubmissionCache.isRemovable_iff]
  cases remove <;> simp

lemma changesOnly_leftovers (c : Creator) (remove : Bool) (t : FileTree) :
    FileTree.ChangesOnly [t.placeOf c.cache.path] t (c.leftovers remove t).1 := by
  rw [leftovers]
  split_ifs
  · exact c.cache.changesOnly_cleared t
  · exact .refl _ t

namespace Takes

/-- To take the record is to change nothing but files and log. -/
lemma eq_with (ht : c.Takes remove h outcome h') :
    h' = { h with files := h'.files, log := h'.log } := by
  cases ht <;> rfl

/-- What is handed out is what was loaded and is not stale. -/
lemma ok_iff (ht : c.Takes remove h outcome h') (taken : Option CachedSubmission) :
    outcome = .ok taken ↔ ∃ stored, c.cache.loaded h.files = .ok stored ∧
      (stored.filter fun r => r.isFresh h.now c.maxAgeMs) = taken ∧
        (remove = true → c.cache.IsRemovable h.files) := by
  rw [← leftovers_eq_ok_iff]
  cases ht with
  | taken hload hleft => simp [hload, hleft]
  | notLoaded hload => simp [hload]
  | notRemoved _ hleft => simp [hleft]

lemma some_iff (ht : c.Takes remove h outcome h') (hlimit : c.maxAgeMs = seconds.toNat * 1000)
    (r : CachedSubmission) : outcome = .ok (some r) ↔ c.cache.IsWritten h.files r ∧
      r.IsYoungerThan seconds h.now ∧ (remove = true → c.cache.IsRemovable h.files) := by
  rw [ht.ok_iff, hlimit, ← SubmissionCache.loaded_eq_some_iff, ← CachedSubmission.isFresh_iff]
  simp only [Option.filter_eq_some_iff]
  constructor
  · rintro ⟨stored, hload, ⟨rfl, hfresh⟩, hremovable⟩
    exact ⟨hload, hfresh, hremovable⟩
  · rintro ⟨hload, hfresh, hremovable⟩
    exact ⟨some r, hload, ⟨rfl, hfresh⟩, hremovable⟩

lemma none_iff (ht : c.Takes remove h outcome h') (hlimit : c.maxAgeMs = seconds.toNat * 1000) :
    outcome = .ok none ↔
      (c.cache.IsMissing h.files ∨
        ∃ r, c.cache.IsWritten h.files r ∧ ¬r.IsYoungerThan seconds h.now) ∧
      (remove = true → c.cache.IsRemovable h.files) := by
  simp only [ht.ok_iff, hlimit, ← SubmissionCache.loaded_eq_none_iff,
    ← SubmissionCache.loaded_eq_some_iff, ← CachedSubmission.isFresh_iff]
  constructor
  · rintro ⟨_ | r, hload, hstale, hremovable⟩
    · exact ⟨Or.inl hload, hremovable⟩
    · exact ⟨Or.inr ⟨r, hload, by simpa using hstale⟩, hremovable⟩
  · rintro ⟨hload | ⟨r, hload, hstale⟩, hremovable⟩
    · exact ⟨none, hload, rfl, hremovable⟩
    · exact ⟨some r, hload, by simpa using hstale, hremovable⟩

lemma failed {e : HostError} (ht : c.Takes remove h (.error e) h') :
    h'.files = h.files ∧ ∃ message, e = .cache c.cache.path message := by
  cases ht with
  | notLoaded hload => exact ⟨rfl, SubmissionCache.exists_message_of_loaded hload⟩
  | notRemoved _ hleft =>
    cases remove with
    | true => exact ⟨rfl, SubmissionCache.exists_message_of_cleared hleft⟩
    | false => cases hleft

/-- **What is handed out with a limit in seconds.** -/
theorem handsOut (ht : c.Takes remove h outcome h') (hlimit : c.maxAgeMs = seconds.toNat * 1000) :
    c.cache.HandsOut seconds h.now remove h.files h'.files outcome where
  some_iff := ht.some_iff hlimit
  none_iff := ht.none_iff hlimit
  future r hwritten hfuture hseconds hremovable :=
    (ht.some_iff hlimit r).2
      ⟨hwritten, (CachedSubmission.isYoungerThan_of_le hfuture).2 hseconds, hremovable⟩
  limit r hage htaken :=
    CachedSubmission.not_isYoungerThan_of_eq hage ((ht.some_iff hlimit r).1 htaken).2.1
  zero := by
    rintro rfl r htaken
    exact CachedSubmission.not_isYoungerThan_zero ((ht.some_iff hlimit r).1 htaken).2.1
  gone := by
    rintro rfl stored rfl
    cases ht with
    | taken _ hleft => exact SubmissionCache.exists?_of_cleared hleft
  failed := by
    rintro e rfl
    exact ht.failed
  kept := by
    rintro rfl
    cases ht with
    | taken _ hleft => exact (congrArg Prod.fst hleft).symm
    | notLoaded _ | notRemoved _ _ => rfl
  elsewhere := by
    have hleftovers := c.changesOnly_leftovers remove h.files
    cases ht with
    | taken _ hleft => rwa [hleft] at hleftovers
    | notLoaded _ | notRemoved _ _ => exact .refl _ h.files
  missing hmissing hallow :=
    (ht.none_iff hlimit).2
      ⟨Or.inl hmissing, fun hremove => hmissing.isRemovable (hallow hremove)⟩
  corrupt bytes hholds hcorrupt := by
    obtain ⟨e, hload⟩ := SubmissionCache.exists_loaded_error hholds hcorrupt
    cases ht with
    | notLoaded hload =>
      obtain ⟨message, rfl⟩ := SubmissionCache.exists_message_of_loaded hload
      exact ⟨rfl, message, rfl⟩
    | taken hload' _ | notRemoved hload' _ =>
      rw [hload] at hload'
      cases hload'

end Takes

/-- **The stored record is handed out while it is younger than the configuration allows**, and is
removed if that is wanted.  Whatever the times are, nothing wraps; what fails removes nothing. -/
theorem takeFresh_handsOut (config : BridgeConfig) (planner : Planner) (dir : String)
    (home : Option String) (remove : Bool) (h : Host) (s : Session) :
    ∃ h' outcome,
      (SubmissionCache.takeFresh ⟨dir⟩ (ofConfig config planner dir home).maxAgeMs remove).runOn
        h s = (h', s, outcome) ∧
      h' = { h with files := h'.files, log := h'.log } ∧
      SubmissionCache.HandsOut ⟨dir⟩ config.creator.cacheMaxAgeSecs h.now remove h.files h'.files
        outcome := by
  obtain ⟨h', outcome, hrun, htakes⟩ :=
    (ofConfig config planner dir home).runOn_takeFresh remove h s
  exact ⟨h', outcome, hrun, htakes.eq_with, htakes.handsOut rfl⟩

end Creator

end WebviewBridge
