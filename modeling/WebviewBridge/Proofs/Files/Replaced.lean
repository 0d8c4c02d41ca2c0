import WebviewBridge.Proofs.Files.Content

/-!
# A file that is replaced as a whole

New content of a file is written beside it and renamed over it.  Either both succeed and a file of
that content stands where the path leads (`FileTree.holds_of_replaceSteps`), or what stood there
before still does (`FileTree.changesOnly_of_replaceSteps`).  What is then read of the file is what
was written (`FileTree.Holds.readText`).
-/

namespace WebviewBridge

namespace FileTree

variable {t t' : FileTree} {path : String} {bytes : ByteArray} {ps : List Place}

/-- A path leads to a file of the given bytes. -/
structure Holds (t : FileTree) (path : String) (bytes : ByteArray) : Prop where
  locate_eq : t.locate path = .ok (t.placeOf path)
  content?_eq : t.content? (t.placeOf path) = some bytes

/-- No file stands at the place of a path. -/
def Lacks (t : FileTree) (path : String) : Prop := t.content? (t.placeOf path) = none

/-- A tree has become another while nobody touched what stands at the place of a path. -/
def Spares (path : String) (t t' : FileTree) : Prop :=
  ∃ ps, ChangesOnly ps t t' ∧ t.placeOf path ∉ ps

namespace Spares

lemma refl (path : String) (t : FileTree) : Spares path t t := ⟨[], .refl [] t, List.not_mem_nil⟩

lemma trans {t'' : FileTree} (h : Spares path t t') (h' : Spares path t' t'') :
    Spares path t t'' := by
  obtain ⟨ps, hps, hpath⟩ := h
  obtain ⟨qs, hqs, hpath'⟩ := h'
  rw [hps.placeOf] at hpath'
  exact ⟨ps ++ qs, hps.trans hqs, by simp [hpath, hpath']⟩

lemma holds (h : Spares path t t') (hpath : t.Holds path bytes) : t'.Holds path bytes := by
  obtain ⟨ps, hps, hp⟩ := h
  refine ⟨?_, ?_⟩
  · rw [hps.placeOf]
    exact hps.locate hpath.locate_eq
  · rw [hps.placeOf, hps.content _ hp, hpath.content?_eq]

lemma lacks (h : Spares path t t') (hpath : t.Lacks path) : t'.Lacks path := by
  obtain ⟨ps, hps, hp⟩ := h
  rw [Lacks, hps.placeOf, hps.content _ hp, hpath]

end Spares

/-- A change of files by others, who leave alone what a path leads to. -/
structure Elsewhere (path : String) where
  change : FileTree → FileTree
  holds : ∀ {t : FileTree} {bytes : ByteArray}, t.Holds path bytes → (change t).Holds path bytes
  lacks : ∀ {t : FileTree}, t.Lacks path → (change t).Lacks path

lemma spares_hindrance (path : String) (t : FileTree) (hindrance? : Access → Option Hindrance) :
    Spares path t { t with hindrance? } :=
  ⟨[], ⟨rfl, fun _ hp => hp, fun _ _ => rfl⟩, List.not_mem_nil⟩

/-- The system has something else against the uses of files. -/
def Elsewhere.hindering (path : String) (hindrance? : Access → Option Hindrance) :
    Elsewhere path where
  change t := { t with hindrance? }
  holds := (spares_hindrance path _ hindrance?).holds
  lacks := (spares_hindrance path _ hindrance?).lacks

lemma Holds.not_lacks (h : t.Holds path bytes) : ¬t.Lacks path := by
  intro hl
  rw [Lacks, h.content?_eq] at hl
  cases hl

/-! ## Reading and removing -/

lemma locateFile_eq (hpath : FilePath.endsInSlash path = false) :
    t.locateFile path = t.locate path := by
  rw [locateFile, hpath]
  cases t.locate path <;> rfl

lemma fromUTF8?_toUTF8 (s : String) : String.fromUTF8? s.toUTF8 = some s := by
  rw [String.fromUTF8?, String.toUTF8_eq_toByteArray, dif_pos s.isValidUTF8]
  rfl

lemma eq_toUTF8_of_fromUTF8? {s : String} (h : String.fromUTF8? bytes = some s) :
    bytes = s.toUTF8 := by
  rw [String.fromUTF8?] at h
  split at h
  · cases h
    rfl
  · cases h

lemma exists_file_of_content? {p : Place} (h : t.content? p = some bytes) :
    ∃ mode, t.get? p = some (.file bytes mode) := by
  rw [content?] at h
  split at h
  · next content mode hfile =>
    cases h
    exact ⟨mode, hfile⟩
  · cases h

/-- The system reports of nothing in the way that the file is not there. -/
lemma allow_ne_notFound (t : FileTree) (a : Access) : t.allow a ≠ .error .notFound := by
  rw [allow]
  split
  · next x _ =>
    intro h
    exact x.reason_ne (Except.error.inj h)
  · intro h
    cases h

lemma Holds.read_eq (h : t.Holds path bytes) (hpath : FilePath.endsInSlash path = false) :
    t.read path = (t.allow (.read (t.placeOf path))).map fun _ => bytes := by
  obtain ⟨mode, hfile⟩ := exists_file_of_content? h.content?_eq
  rw [read, locateFile_eq hpath, h.locate_eq]
  simp only [bind, Except.bind, hfile]
  cases t.allow (.read (t.placeOf path)) <;> rfl

/-- What is read of a file is what was written to it, unless the system is against it. -/
lemma Holds.readText {s : String} (h : t.Holds path s.toUTF8)
    (hpath : FilePath.endsInSlash path = false)
    (hallow : t.hindrance? (.read (t.placeOf path)) = none) : t.readText path = .ok s := by
  have hread : t.allow (.read (t.placeOf path)) = .ok () := by rw [allow, hallow]
  rw [FileTree.readText, h.read_eq hpath, hread]
  simp only [Except.map, bind, Except.bind, fromUTF8?_toUTF8]

/-- What was read of a file stands in it. -/
lemma content?_of_readText {s : String} (h : t.readText path = .ok s) :
    t.content? (t.placeOf path) = some s.toUTF8 := by
  rw [readText] at h
  obtain ⟨content, hread, h⟩ := bind_eq_ok h
  rw [read] at hread
  obtain ⟨p, hl, hread⟩ := bind_eq_ok hread
  obtain ⟨_, -, hread⟩ := bind_eq_ok hread
  rw [← eq_placeOf_of_locateFile hl]
  split at hread
  · next hp =>
    cases hread
    split at h
    · next htext =>
      cases h
      rw [content?_of_get? hp, eq_toUTF8_of_fromUTF8? htext]
    · cases h
  · cases hread
  · cases hread

/-- What was read of a file stands where its path leads, and the system had nothing against it. -/
lemma holds_of_readText {s : String} (h : t.readText path = .ok s) :
    t.Holds path s.toUTF8 ∧ t.hindrance? (.read (t.placeOf path)) = none := by
  have hcontent := content?_of_readText h
  rw [readText] at h
  obtain ⟨content, hread, -⟩ := bind_eq_ok h
  rw [read] at hread
  obtain ⟨p, hl, hread⟩ := bind_eq_ok hread
  obtain ⟨_, hallow, -⟩ := bind_eq_ok hread
  obtain rfl := eq_placeOf_of_locateFile hl
  refine ⟨⟨locate_of_locateFile hl, hcontent⟩, ?_⟩
  rw [allow] at hallow
  split at hallow
  · cases hallow
  · next hnone => exact hnone

/-- Reading never says of a file that is there that it is not. -/
lemma readText_ne_notFound_of_file {p : Place} {content : ByteArray} {mode : Nat}
    (hl : t.locateFile path = .ok p) (hfile : t.get? p = some (.file content mode)) :
    t.readText path ≠ .error .notFound := by
  have hread : t.read path = (t.allow (.read p)).map fun _ => content := by
    rw [read, hl]
    simp only [bind, Except.bind, hfile]
    cases t.allow (.read p) <;> rfl
  have hallow := t.allow_ne_notFound (.read p)
  rw [readText, hread]
  cases hhindered : t.allow (.read p) with
  | error e =>
    rw [hhindered] at hallow
    exact fun he => hallow (congrArg Except.error (Except.error.inj he))
  | ok _ =>
    simp only [Except.map, bind, Except.bind]
    cases String.fromUTF8? content <;> intro he <;> cases he

lemma Holds.readText_ne_notFound (h : t.Holds path bytes)
    (hpath : FilePath.endsInSlash path = false) : t.readText path ≠ .error .notFound := by
  obtain ⟨mode, hfile⟩ := exists_file_of_content? h.content?_eq
  exact readText_ne_notFound_of_file ((locateFile_eq hpath).trans h.locate_eq) hfile

/-- Nor does it of a file that can be removed. -/
lemma readText_ne_notFound (h : t.remove path = .ok t') : t.readText path ≠ .error .notFound := by
  obtain ⟨⟨content, mode, hfile⟩, -⟩ := exists_of_remove h
  rw [remove] at h
  obtain ⟨p, hl, -⟩ := bind_eq_ok h
  obtain rfl := eq_placeOf_of_locateFile hl
  exact readText_ne_notFound_of_file hl hfile

/-- When reading says that a file is not there, so does removing, unless the system is against
it. -/
lemma remove_of_readText_eq_notFound (h : t.readText path = .error .notFound)
    (hallow : t.hindrance? (.remove (t.placeOf path)) = none) :
    t.remove path = .error .notFound := by
  rw [readText, read] at h
  rw [remove]
  cases hl : t.locateFile path with
  | error e =>
    rw [hl] at h
    cases h
    rfl
  | ok p =>
    have hremove : t.allow (.remove p) = .ok () := by
      rw [allow, eq_placeOf_of_locateFile hl, hallow]
    rw [ok_bind, hremove, ok_bind]
    cases hentry : t.get? p with
    | none => rfl
    | some e =>
      cases e with
      | file content mode =>
        refine absurd ?_ (readText_ne_notFound_of_file hl hentry)
        rw [readText, read, h]
      | directory =>
        rw [hl, ok_bind, hentry] at h
        cases hread : t.allow (.read p) <;> rw [hread] at h <;> cases h
        exact absurd hread (t.allow_ne_notFound _)

/-! ### Files that are not there -/

/-- Nothing is there just if nothing stands where the path leads, if it leads anywhere. -/
lemma exists?_eq_false_iff :
    t.exists? path = false ↔ ∀ p, t.locateFile path = .ok p → t.get? p = none := by
  rw [exists?]
  cases t.locateFile path <;> simp

/-- Once a file is removed it is not there. -/
lemma exists?_of_remove (h : t.remove path = .ok t') : t'.exists? path = false := by
  have hplace := (changesOnly_remove h).placeOf path
  obtain ⟨⟨content, mode, hfile⟩, rfl⟩ := exists_of_remove h
  rw [exists?_eq_false_iff]
  intro p hl
  rw [eq_placeOf_of_locateFile hl, hplace]
  exact get?_erase_self (ne_nil_of_get?_ne (ne_directory_of_file hfile))

/-- What cannot be removed because it is not there is not there. -/
lemma exists?_of_remove_eq_notFound (h : t.remove path = .error .notFound) :
    t.exists? path = false := by
  rw [exists?_eq_false_iff]
  intro p hl
  rw [remove, hl, ok_bind] at h
  cases hallow : t.allow (.remove p) with
  | error e =>
    rw [hallow] at h
    cases h
    exact absurd hallow (t.allow_ne_notFound _)
  | ok _ =>
    rw [hallow, ok_bind] at h
    cases hentry : t.get? p with
    | none => rfl
    | some e => cases e <;> rw [hentry] at h <;> cases h

lemma Holds.remove_eq (h : t.Holds path bytes) (hpath : FilePath.endsInSlash path = false) :
    t.remove path =
      (t.allow (.remove (t.placeOf path))).map fun _ => t.erase (t.placeOf path) := by
  obtain ⟨mode, hfile⟩ := exists_file_of_content? h.content?_eq
  rw [remove, locateFile_eq hpath, h.locate_eq]
  simp only [bind, Except.bind, hfile]
  cases t.allow (.remove (t.placeOf path)) <;> rfl

/-- A file that the system lets go is removed. -/
lemma Holds.exists_remove (h : t.Holds path bytes) (hpath : FilePath.endsInSlash path = false)
    (hallow : t.hindrance? (.remove (t.placeOf path)) = none) : ∃ t', t.remove path = .ok t' := by
  have hremove : t.allow (.remove (t.placeOf path)) = .ok () := by rw [allow, hallow]
  exact ⟨t.erase (t.placeOf path), by rw [h.remove_eq hpath, hremove]; rfl⟩

/-- Removing a file that is there never says that it is not. -/
lemma Holds.remove_ne_notFound (h : t.Holds path bytes)
    (hpath : FilePath.endsInSlash path = false) : t.remove path ≠ .error .notFound := by
  have hne := t.allow_ne_notFound (.remove (t.placeOf path))
  rw [h.remove_eq hpath]
  cases hallow : t.allow (.remove (t.placeOf path)) with
  | error e =>
    rw [hallow] at hne
    exact fun he => hne (congrArg Except.error (Except.error.inj he))
  | ok _ =>
    intro he
    cases he

lemma lacks_of_remove (h : t.remove path = .ok t') : t'.Lacks path := by
  rw [Lacks, (changesOnly_remove h).placeOf]
  exact content?_remove h

end FileTree

/-! ## Replacing -/

/-- The steps that replace a file as a whole. -/
def replaceSteps {ε : Type} (path : String) (content : ByteArray) (mode : Nat)
    (writeBlame renameBlame : IoError → ε) : List (FileStep ε) :=
  [⟨.write (temporaryPath path) content mode, writeBlame⟩,
    ⟨.rename (temporaryPath path) path, renameBlame⟩]

namespace FileTree

variable {t t' : FileTree} {path : String} {content : ByteArray} {mode : Nat} {ε : Type}
  {writeBlame renameBlame : IoError → ε} {e : ε}

/-- A file and the one beside it have different places. -/
lemma placeOf_temporaryPath_ne (t : FileTree) (dir : String) {file : String}
    (hfile : FilePath.IsFileName file) (htemporary : FilePath.IsFileName (temporaryPath file)) :
    t.placeOf (temporaryPath (FilePath.join dir file)) ≠ t.placeOf (FilePath.join dir file) := by
  obtain ⟨base, hbase⟩ := t.exists_placeOf_join dir
  rw [FilePath.temporaryPath_join dir hfile htemporary, hbase _ hfile, hbase _ htemporary]
  intro h
  have hname : temporaryPath file = file := by simpa using h
  have hlength := congrArg String.length hname
  rw [temporaryPath, String.length_append] at hlength
  have hsuffix : ".tmp".length = 4 := by decide
  omega

/-- A file that was replaced holds the new content. -/
theorem holds_of_replaceSteps
    (h : runSteps (replaceSteps path content mode writeBlame renameBlame) t =
      (t', .ok ())) : t'.Holds path content := by
  have hwrite := t.changesOnly_write (temporaryPath path) content mode
  obtain ⟨t₁, hw, h⟩ := exists_of_runSteps_cons h
  obtain ⟨t₂, hr, h⟩ := exists_of_runSteps_cons h
  cases h
  rw [FileOp.run] at hw
  rw [hw] at hwrite
  -- the bytes come from the file beside it, and the path leads where the renaming found it
  have hrename := FileOp.rename_of_run hr
  have hchanges := changesOnly_rename hrename
  obtain ⟨-, -, -, -, hlocate, -⟩ := exists_of_rename hrename
  refine ⟨?_, ?_⟩
  · rw [hchanges.placeOf]
    exact hchanges.locate hlocate
  · rw [hchanges.placeOf, content?_rename hrename, hwrite.placeOf, content?_write hw]

/-- A file of an empty root is replaced, if the system takes its name. -/
lemma runSteps_replaceSteps_empty {file : String} (hfile : FilePath.IsFileName file)
    (htemporary : FilePath.IsFileName (temporaryPath file))
    (hnul : file.contains '\x00' = false) (hnul' : (temporaryPath file).contains '\x00' = false)
    (hlimit : file.utf8ByteSize ≤ nameLimit)
    (hlimit' : (temporaryPath file).utf8ByteSize ≤ nameLimit) :
    runSteps (replaceSteps file content mode writeBlame renameBlame) empty =
      ({ entries := [([file], .file content mode)] }, .ok ()) := by
  have hslash := FilePath.endsInSlash_join "" htemporary
  rw [FilePath.join_empty htemporary] at hslash
  have hwrite : empty.write (temporaryPath file) content mode =
      ({ entries := [([temporaryPath file], .file content mode)] }, .ok ()) := by
    rw [write, locate_of_isFileName htemporary hnul' hlimit' rfl, hslash]
    rfl
  have hrename : rename { entries := [([temporaryPath file], .file content mode)] }
      (temporaryPath file) file = .ok { entries := [([file], .file content mode)] } := by
    rw [rename, locateFile_eq hslash, locate_of_isFileName htemporary hnul' hlimit' rfl,
      locate_of_isFileName hfile hnul hlimit rfl]
    simp only [get?, allow, put, erase, List.lookup_cons, List.lookup_nil, List.filter_cons,
      List.filter_nil, bind, Except.bind, List.nil_append, List.cons_ne_self, if_false,
      beq_self_eq_true, ne_eq, not_true_eq_false, decide_false, Bool.false_eq_true]
    cases [file] == [temporaryPath file] <;> rfl
  simp only [replaceSteps, runSteps, FileOp.run, hwrite, hrename, FileOp.run.settle]

/-- When a file could not be replaced, only the one beside it may have changed. -/
theorem changesOnly_of_replaceSteps
    (h : runSteps (replaceSteps path content mode writeBlame renameBlame) t =
      (t', .error e)) : ChangesOnly [t.placeOf (temporaryPath path)] t t' := by
  have hwrite := t.changesOnly_write (temporaryPath path) content mode
  rcases failed_of_runSteps_cons h with ⟨reason, hw⟩ | ⟨t₁, hw, h⟩
  · rw [FileOp.run] at hw
    rwa [hw] at hwrite
  · rw [FileOp.run] at hw
    rw [hw] at hwrite
    rcases failed_of_runSteps_cons h with ⟨reason, hr⟩ | ⟨t₂, -, h⟩
    · rwa [FileOp.eq_of_run_rename hr]
    · cases h

end FileTree

end WebviewBridge
