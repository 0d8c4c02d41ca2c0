import WebviewBridge.Proofs.Files.Replaced

/-!
# Directories that files can be written in

Once directories were made, the path leads to one (`FileTree.isDirectory_of_makeDirs`), and the
paths of its files lead into it (`FileTree.locate_join`).  A directory that is there is ready
(`FileTree.IsReady`) when a file of it can be written beside and renamed, and one can be written in
(`FileTree.IsWritable`) when it can be made, no directory is in the way of the file and the system
has nothing against the two operations; then, and only then, a file of it is replaced
(`FileTree.IsWritable.exists_replaced` and `FileTree.IsWritable.of_replaced`).  A path that leads
through the name of a file and back makes a directory of that name
(`FileTree.makeDirs_throughName`).
-/

namespace WebviewBridge

/-! ## Names that the system takes -/

/-- A name of a file that the system takes, also with the ending of the file beside it. -/
structure FilePath.IsTaken (file : String) : Prop where
  isFileName : IsFileName file
  temporary : IsFileName (temporaryPath file)
  notMem_nul : '\x00' ∉ file.toList
  short : (temporaryPath file).utf8ByteSize ≤ FileTree.nameLimit

lemma FilePath.endsInSlash_temporaryPath (path : String) :
    endsInSlash (temporaryPath path) = false := by
  have hending : ".tmp".toList = ['.', 't', 'm', 'p'] := by decide
  simp [endsInSlash, temporaryPath, hending]

/-- The name of the file beside is longer by its ending. -/
lemma utf8ByteSize_temporaryPath (file : String) :
    (temporaryPath file).utf8ByteSize = file.utf8ByteSize + 4 := by
  rw [temporaryPath, String.utf8ByteSize_append]
  rfl

/-- Both names are names of files that the system takes. -/
lemma FilePath.IsTaken.of_mem {file name : String} (h : IsTaken file)
    (hname : name ∈ [file, temporaryPath file]) :
    IsFileName name ∧ '\x00' ∉ name.toList ∧ name.utf8ByteSize ≤ FileTree.nameLimit := by
  have hshort := h.short
  simp only [List.mem_cons, List.not_mem_nil, or_false] at hname
  rcases hname with rfl | rfl
  · rw [utf8ByteSize_temporaryPath] at hshort
    exact ⟨h.isFileName, h.notMem_nul, by omega⟩
  · refine ⟨h.temporary, ?_, hshort⟩
    simp [temporaryPath, h.notMem_nul]

namespace FileTree

variable {t t' : FileTree} {dir file path : String} {p q : Place}

/-! ## Making directories -/

lemma isDirectory_of_locate (hl : t.locate path = .ok p) (hp : t.get? p = some .directory) :
    t.isDirectory path = true := by
  rw [isDirectory, hl]
  simp [hp]

/-- Only a directory can be entered. -/
lemma get?_of_enter (h : t.enter p = .ok ()) : t.get? p = some .directory := by
  rw [enter] at h
  split at h
  · assumption
  · cases h
  · cases h

lemma exists_of_isDirectory (h : t.isDirectory path = true) :
    ∃ p, t.locate path = .ok p ∧ t.get? p = some .directory := by
  rw [isDirectory] at h
  split at h
  · next p hl => exact ⟨p, hl, by simpa using h⟩
  · cases h

lemma isDirectory_of_makeDir (h : t.makeDir path = .ok t') : t'.isDirectory path = true := by
  have hchanges := changesOnly_makeDir h
  obtain ⟨p, hl, hp, rfl⟩ := exists_of_makeDir h
  exact isDirectory_of_locate (hchanges.locate hl)
    (get?_put_self (ne_nil_of_get?_ne (ne_directory_of_none hp)) _)

lemma isDirectory_of_ensureDir (h : t.ensureDir path = (t', .ok ())) :
    t'.isDirectory path = true := by
  rw [ensureDir] at h
  split at h
  · next t₁ hmake =>
    cases h
    exact isDirectory_of_makeDir hmake
  · next e hmake =>
    split_ifs at h with hdir
    · cases h
      exact hdir
    · cases h

/-- Whichever way the directory came about, the path leads to it. -/
lemma isDirectory_of_makeDirsFrom {absolute : Bool} {steps : Nat} {names : List String}
    (h : makeDirsFrom absolute steps names t path = (t', .ok ())) : t'.isDirectory path = true := by
  cases steps with
  | zero => exact isDirectory_of_ensureDir h
  | succ steps =>
    rw [makeDirsFrom] at h
    split at h
    · next t₁ hmake =>
      cases h
      exact isDirectory_of_makeDir hmake
    · -- the parent was missing
      simp only at h
      split_ifs at h
      · exact isDirectory_of_ensureDir h
      · split at h
        · exact isDirectory_of_ensureDir h
        · cases h
    · split_ifs at h with hdir
      · cases h
        exact hdir
      · cases h

lemma isDirectory_of_makeDirs (hdir : dir ≠ "") (h : t.makeDirs dir = (t', .ok ())) :
    t'.isDirectory dir = true := by
  rw [makeDirs, if_neg (by simpa using hdir)] at h
  exact isDirectory_of_makeDirsFrom h

/-- Nothing happens when a directory is made that is there already. -/
lemma makeDirs_of_isDirectory (h : t.isDirectory dir = true) : t.makeDirs dir = (t, .ok ()) := by
  obtain ⟨p, hl, hp⟩ := exists_of_isDirectory h
  rw [makeDirs_of_get? hl hp, if_pos h]

/-! ## The files of a directory -/

/-- One more name leads from a directory to what lies in it. -/
lemma follow_append_singleton {names : List String} (h : t.follow p names = .ok q)
    (hq : t.get? q = some .directory) (hfile : FilePath.IsFileName file)
    (hshort : file.utf8ByteSize ≤ nameLimit) :
    t.follow p (names ++ [file]) = .ok (q ++ [file]) := by
  induction names generalizing p with
  | nil =>
    cases h
    have henter : t.enter q = .ok () := by rw [enter, hq]
    have hlong : ¬file.utf8ByteSize > nameLimit := Nat.not_lt.2 hshort
    rw [List.nil_append, follow, henter, ok_bind, if_neg hfile.ne_dot, if_neg hfile.ne_dots,
      if_neg hlong, follow]
  | cons name rest ih =>
    rw [List.cons_append, follow]
    rw [follow] at h
    obtain ⟨_, henter, h⟩ := bind_eq_ok h
    rw [henter, ok_bind]
    split_ifs at h ⊢
    · exact ih h
    · exact ih h
    · exact ih h

/-- What a path that leads somewhere is made of. -/
lemma follow_of_locate (h : t.locate path = .ok p) :
    '\x00' ∉ path.toList ∧ path.utf8ByteSize ≤ pathLimit ∧
      t.follow (if FilePath.isAbsolute path then [] else t.workingDir) (FilePath.names path)
        = .ok p := by
  rw [locate] at h
  split_ifs at h with _ hnul hlong habsolute
  · exact ⟨by simpa using hnul, Nat.not_lt.1 hlong, by rwa [if_pos habsolute]⟩
  · exact ⟨by simpa using hnul, Nat.not_lt.1 hlong, by rwa [if_neg habsolute]⟩

/-- The path of a file leads into its directory, unless it is too long. -/
lemma locate_join (hdir : t.isDirectory dir = true) (hfile : FilePath.IsFileName file)
    (hnul : '\x00' ∉ file.toList) (hshort : file.utf8ByteSize ≤ nameLimit)
    (hlimit : (FilePath.join dir file).utf8ByteSize ≤ pathLimit) :
    t.locate (FilePath.join dir file) = .ok (t.placeOf (FilePath.join dir file)) := by
  obtain ⟨p, hl, hp⟩ := exists_of_isDirectory hdir
  obtain ⟨hnulDir, -, hfollow⟩ := follow_of_locate hl
  have hempty : (FilePath.join dir file).isEmpty = false := by
    rw [String.isEmpty_eq_false_iff]
    intro h
    have hnames := FilePath.names_join dir hfile
    rw [h] at hnames
    have hnone : FilePath.names "" = [] := by decide
    simp [hnone] at hnames
  have hjoin : (FilePath.join dir file).contains '\x00' = false := by
    rw [FilePath.join, hfile.isAbsolute_eq]
    simp only [Bool.false_eq_true, if_false]
    split <;> simp [hnulDir, hnul]
  have hfound : t.locate (FilePath.join dir file) = .ok (p ++ [file]) := by
    rw [locate_eq_follow hempty hjoin hlimit, FilePath.isAbsolute_join dir hfile,
      FilePath.names_join dir hfile]
    exact follow_append_singleton hfollow hp hfile hshort
  rw [hfound, ← eq_placeOf_of_locate hfound]

/-- Both names lead to files of the working directory. -/
lemma locate_of_isTaken (hfile : FilePath.IsTaken file) {name : String}
    (hname : name ∈ [file, temporaryPath file])
    (hdir : t.get? t.workingDir = some .directory) :
    t.locate name = .ok (t.workingDir ++ [name]) := by
  obtain ⟨hisName, hnul, hsize⟩ := hfile.of_mem hname
  exact locate_of_isFileName hisName (by simpa using hnul) hsize hdir

/-! ## Files that can be replaced -/

/-- A file is written where no directory is, unless the system is against it. -/
lemma exists_write (hl : t.locate path = .ok p) (hslash : FilePath.endsInSlash path = false)
    (hfree : t.get? p ≠ some .directory) (hallow : t.hindrance? (.write p) = none)
    (content : ByteArray) (mode : Nat) :
    ∃ mode', t.write path content mode = (t.put p (.file content mode'), .ok ()) := by
  have hput (mode' : Nat) :
      t.putFile p content mode' = (t.put p (.file content mode'), .ok ()) := by
    rw [putFile, hallow]
  rw [write, hl, hslash]
  simp only [Bool.false_eq_true, if_false]
  split
  · next hp => exact absurd hp hfree
  · exact ⟨_, hput _⟩
  · exact ⟨_, hput _⟩

/-- A file is renamed to where no directory is, unless the system is against it. -/
lemma exists_rename {source target : String} {content : ByteArray} {mode : Nat}
    (hs : t.locate source = .ok p) (hslash : FilePath.endsInSlash source = false)
    (hg : t.locate target = .ok q) (hfile : t.get? p = some (.file content mode))
    (hfree : t.get? q ≠ some .directory) (hallow : t.hindrance? (.rename p q) = none) :
    ∃ t', t.rename source target = .ok t' := by
  have hallowed : t.allow (.rename p q) = .ok () := by rw [allow, hallow]
  rw [rename, locateFile_eq hslash, hs, hg, ok_bind, ok_bind, hallowed, ok_bind, hfile]
  cases hq : t.get? q with
  | none => exact ⟨_, rfl⟩
  | some e =>
    cases e with
    | file old mode' => exact ⟨_, rfl⟩
    | directory => exact absurd hq hfree

/-! ## Directories that are ready -/

/-- A directory is there, and a file of it can be replaced: the paths of the file and of the one
beside it lead somewhere, to different places and to no directories, and the system has nothing
against writing and renaming them. -/
structure IsReady (t : FileTree) (dir path : String) : Prop where
  directory : dir = "" ∨ t.isDirectory dir = true
  located : t.locate path = .ok (t.placeOf path)
  beside : t.locate (temporaryPath path) = .ok (t.placeOf (temporaryPath path))
  apart : t.placeOf path ≠ t.placeOf (temporaryPath path)
  free : t.get? (t.placeOf path) ≠ some .directory
  freeBeside : t.get? (t.placeOf (temporaryPath path)) ≠ some .directory
  written : t.hindrance? (.write (t.placeOf (temporaryPath path))) = none
  renamed : t.hindrance? (.rename (t.placeOf (temporaryPath path)) (t.placeOf path)) = none

namespace IsReady

/-- Whoever makes the directory again changes nothing. -/
lemma makeDirs_eq (h : t.IsReady dir path) : t.makeDirs dir = (t, .ok ()) := by
  rcases h.directory with rfl | hdir
  · rfl
  · exact makeDirs_of_isDirectory hdir

/-- A directory stays ready while only files change in it. -/
lemma of_changesOnly {ps : List Place} (h : t.IsReady dir path) (hc : ChangesOnly ps t t')
    (hhindrance : t'.hindrance? = t.hindrance?)
    (hfree : t'.get? (t.placeOf path) ≠ some .directory)
    (hbeside : t'.get? (t.placeOf (temporaryPath path)) ≠ some .directory) :
    t'.IsReady dir path where
  directory := by
    rcases h.directory with rfl | hdir
    · exact Or.inl rfl
    · obtain ⟨p, hl, hp⟩ := exists_of_isDirectory hdir
      exact Or.inr (isDirectory_of_locate (hc.locate hl) (hc.directory p hp))
  located := by
    rw [hc.placeOf]
    exact hc.locate h.located
  beside := by
    rw [hc.placeOf]
    exact hc.locate h.beside
  apart := by
    rw [hc.placeOf, hc.placeOf]
    exact h.apart
  free := by rwa [hc.placeOf]
  freeBeside := by rwa [hc.placeOf]
  written := by
    rw [hc.placeOf, hhindrance]
    exact h.written
  renamed := by
    rw [hc.placeOf, hc.placeOf, hhindrance]
    exact h.renamed

/-- A file is written beside, whatever stands there. -/
lemma write (h : t.IsReady dir path) (content : ByteArray) (mode : Nat) :
    ∃ t', t.write (temporaryPath path) content mode = (t', .ok ()) ∧ t'.IsReady dir path ∧
      t'.content? (t'.placeOf (temporaryPath path)) = some content := by
  obtain ⟨mode', hwrite⟩ := exists_write h.beside (FilePath.endsInSlash_temporaryPath path)
    h.freeBeside h.written content mode
  have hself := get?_put_self (t := t) (ne_nil_of_get?_ne h.freeBeside) (.file content mode')
  have hput := changesOnly_put (e := .file content mode') h.freeBeside
  refine ⟨_, hwrite, h.of_changesOnly hput rfl ?_ (ne_directory_of_file hself), ?_⟩
  · rw [get?_put_of_ne h.apart]
    exact h.free
  · rw [hput.placeOf]
    exact content?_of_get? hself

/-- What stands beside is renamed, and is gone then. -/
lemma rename {content : ByteArray} (h : t.IsReady dir path)
    (hbeside : t.content? (t.placeOf (temporaryPath path)) = some content) :
    ∃ t', t.rename (temporaryPath path) path = .ok t' ∧ t'.IsReady dir path ∧
      t'.get? (t'.placeOf (temporaryPath path)) = none ∧ t'.Holds path content := by
  obtain ⟨mode, hfile⟩ := exists_file_of_content? hbeside
  obtain ⟨t', hrename⟩ := exists_rename h.beside (FilePath.endsInSlash_temporaryPath path)
    h.located hfile h.free h.renamed
  have hchanges := changesOnly_rename hrename
  have hcontent := content?_rename hrename
  obtain ⟨content', mode', -, -, -, rfl⟩ := exists_of_rename hrename
  have hgone : ((t.erase (t.placeOf (temporaryPath path))).put (t.placeOf path)
      (.file content' mode')).get? (t.placeOf (temporaryPath path)) = none := by
    rw [get?_put_of_ne h.apart.symm, get?_erase_self (ne_nil_of_get?_ne h.freeBeside)]
  have hself := get?_put_self (t := t.erase (t.placeOf (temporaryPath path)))
    (ne_nil_of_get?_ne h.free) (.file content' mode')
  have hready := h.of_changesOnly hchanges rfl (ne_directory_of_file hself)
    (ne_directory_of_none hgone)
  refine ⟨_, hrename, hready, ?_, hready.located, ?_⟩
  · rwa [hchanges.placeOf]
  · rw [hchanges.placeOf, hcontent, hbeside]

/-- Where nothing stands beside, nothing is renamed. -/
lemma rename_of_gone (h : t.IsReady dir path)
    (hgone : t.get? (t.placeOf (temporaryPath path)) = none) :
    t.rename (temporaryPath path) path = .error .notFound := by
  have hallowed : t.allow (.rename (t.placeOf (temporaryPath path)) (t.placeOf path)) = .ok () := by
    rw [allow, h.renamed]
  rw [FileTree.rename, locateFile_eq (FilePath.endsInSlash_temporaryPath path), h.beside, ok_bind,
    h.located, ok_bind, hallowed, ok_bind, hgone]

end IsReady

/-- Paths that lead on past a new file have led there before. -/
lemma changesOnly_of_put {p : Place} {content : ByteArray} {mode : Nat}
    (hp : t.get? p ≠ some .directory) : ChangesOnly [p] (t.put p (.file content mode)) t := by
  refine ⟨rfl, ?_, fun q hq => ((changesOnly_put hp).content q hq).symm⟩
  intro q hq
  have hne : q ≠ p := by
    rintro rfl
    rw [get?_put_self (ne_nil_of_get?_ne hp)] at hq
    cases hq
  rwa [get?_put_of_ne hne] at hq

/-- No less will do: where a file of a directory was replaced, the directory was ready. -/
lemma isReady_of_replaceSteps {ε : Type} {content : ByteArray} {mode : Nat}
    {writeBlame renameBlame : IoError → ε} (hdir : dir = "" ∨ t.isDirectory dir = true)
    (hne : t.placeOf path ≠ t.placeOf (temporaryPath path))
    (h : runSteps (replaceSteps path content mode writeBlame renameBlame) t = (t', .ok ())) :
    t.IsReady dir path := by
  obtain ⟨t₁, hw, h⟩ := exists_of_runSteps_cons h
  obtain ⟨t₂, hr, -⟩ := exists_of_runSteps_cons h
  obtain ⟨mode', hbeside, hfreeBeside, hwritten, rfl⟩ := exists_of_write hw
  have hput := changesOnly_put (e := .file content mode') hfreeBeside
  have hrename := FileOp.rename_of_run hr
  obtain ⟨-, -, -, hfree, hlocated, -⟩ := exists_of_rename hrename
  have hrenamed := hindrance?_of_rename hrename
  -- the tree between the write and the renaming differs from the one before at one place only
  rw [hput.placeOf] at hfree hlocated hrenamed
  rw [hput.placeOf] at hrenamed
  rw [get?_put_of_ne hne] at hfree
  exact ⟨hdir, (changesOnly_of_put hfreeBeside).locate hlocated, hbeside, hne, hfree, hfreeBeside,
    hwritten, hrenamed⟩

/-- A directory is there or can be made, and is ready then. -/
structure BecomesReady (t : FileTree) (dir path : String) : Prop where
  made : (t.makeDirs dir).2 = .ok ()
  isReady : (t.makeDirs dir).1.IsReady dir path

/-- A file of a directory that becomes ready is replaced. -/
lemma BecomesReady.exists_runSteps (h : t.BecomesReady dir path) {ε : Type} (content : ByteArray)
    (mode : Nat) (makeBlame writeBlame renameBlame : IoError → ε) :
    ∃ t', runSteps (⟨.makeDirs dir, makeBlame⟩ ::
      replaceSteps path content mode writeBlame renameBlame) t = (t', .ok ()) := by
  obtain ⟨t₁, hwrite, hready, hbeside⟩ := h.isReady.write content mode
  obtain ⟨t₂, hrename, -⟩ := hready.rename hbeside
  have hmade : t.makeDirs dir = ((t.makeDirs dir).1, .ok ()) := Prod.ext rfl h.made
  refine ⟨t₂, ?_⟩
  rw [runSteps, FileOp.run, hmade]
  simp only [replaceSteps, runSteps, FileOp.run, hwrite, hrename, FileOp.run.settle]

/-- Where a file was replaced once its directory was made, the directory has become ready. -/
lemma becomesReady_of_runSteps {ε : Type} {content : ByteArray} {mode : Nat}
    {makeBlame writeBlame renameBlame : IoError → ε}
    (hne : t.placeOf path ≠ t.placeOf (temporaryPath path))
    (h : runSteps (⟨.makeDirs dir, makeBlame⟩ ::
      replaceSteps path content mode writeBlame renameBlame) t = (t', .ok ())) :
    t.BecomesReady dir path := by
  obtain ⟨t₁, hd, h⟩ := exists_of_runSteps_cons h
  have hmade : t.makeDirs dir = (t₁, .ok ()) := hd
  have hchanges := t.changesOnly_makeDirs dir
  obtain rfl : (t.makeDirs dir).1 = t₁ := congrArg Prod.fst hmade
  refine ⟨congrArg Prod.snd hmade, isReady_of_replaceSteps ?_ ?_ h⟩
  · by_cases hdir : dir = ""
    · exact Or.inl hdir
    · exact Or.inr (isDirectory_of_makeDirs hdir hmade)
  · rwa [hchanges.placeOf, hchanges.placeOf]

/-! ## Directories that can be written in -/

/-- A directory in which a file can be written: it is there or can be made, the path of the file
beside is not too long, no directory has the name of one of the two, and the system has nothing
against writing and renaming them. -/
structure IsWritable (t : FileTree) (dir file : String) : Prop where
  made : (t.makeDirs dir).2 = .ok ()
  /-- No name at all stands for the working directory, and nobody makes that one. -/
  workingDir : dir = "" → t.get? t.workingDir = some .directory
  short : (FilePath.join dir (temporaryPath file)).utf8ByteSize ≤ pathLimit
  free : ∀ name ∈ [file, temporaryPath file],
    (t.makeDirs dir).1.get? (t.placeOf (FilePath.join dir name)) ≠ some .directory
  written : (t.makeDirs dir).1.hindrance?
    (.write (t.placeOf (FilePath.join dir (temporaryPath file)))) = none
  renamed : (t.makeDirs dir).1.hindrance?
    (.rename (t.placeOf (FilePath.join dir (temporaryPath file)))
      (t.placeOf (FilePath.join dir file))) = none

namespace IsWritable

/-- The paths of both files lead into the directory. -/
lemma locate_eq (h : t.IsWritable dir file) (hfile : FilePath.IsTaken file) {name : String}
    (hname : name ∈ [file, temporaryPath file]) :
    (t.makeDirs dir).1.locate (FilePath.join dir name) =
      .ok (t.placeOf (FilePath.join dir name)) := by
  obtain ⟨hisName, hnul, hsize⟩ := hfile.of_mem hname
  -- of the two paths the one of the file beside is longer
  have hlimit : (FilePath.join dir name).utf8ByteSize ≤ pathLimit := by
    have hshort := h.short
    have hlonger := utf8ByteSize_temporaryPath (FilePath.join dir file)
    rw [FilePath.temporaryPath_join dir hfile.isFileName hfile.temporary] at hlonger
    simp only [List.mem_cons, List.not_mem_nil, or_false] at hname
    rcases hname with rfl | rfl
    · omega
    · exact hshort
  have hplace := (t.changesOnly_makeDirs dir).placeOf (FilePath.join dir name)
  by_cases hempty : dir = ""
  · -- files are then looked for in the working directory
    subst hempty
    have hnone : t.makeDirs "" = (t, .ok ()) := rfl
    rw [hnone] at hplace ⊢
    have hfound := locate_of_isTaken hfile hname (h.workingDir rfl)
    rw [FilePath.join_empty hisName, hfound, ← eq_placeOf_of_locate hfound]
  · have hdir : (t.makeDirs dir).1.isDirectory dir = true :=
      isDirectory_of_makeDirs hempty (Prod.ext rfl h.made)
    rw [locate_join hdir hisName hnul hsize hlimit, hplace]

/-- A directory that can be written in becomes ready. -/
lemma becomesReady (h : t.IsWritable dir file) (hfile : FilePath.IsTaken file) :
    t.BecomesReady dir (FilePath.join dir file) := by
  have htemporary := FilePath.temporaryPath_join dir hfile.isFileName hfile.temporary
  have hapart := (t.placeOf_temporaryPath_ne dir hfile.isFileName hfile.temporary).symm
  have hplace := (t.changesOnly_makeDirs dir).placeOf
  refine ⟨h.made, ?_, ?_, ?_, ?_, ?_, ?_, ?_, ?_⟩
  · by_cases hdir : dir = ""
    · exact Or.inl hdir
    · exact Or.inr (isDirectory_of_makeDirs hdir (Prod.ext rfl h.made))
  · rw [hplace]
    exact h.locate_eq hfile (by simp)
  · rw [hplace, htemporary]
    exact h.locate_eq hfile (by simp)
  · rwa [hplace, hplace]
  · rw [hplace]
    exact h.free file (by simp)
  · rw [hplace, htemporary]
    exact h.free (temporaryPath file) (by simp)
  · rw [hplace, htemporary]
    exact h.written
  · rw [hplace, hplace, htemporary]
    exact h.renamed

/-- **A file of a directory that can be written in is replaced.** -/
theorem exists_replaced (h : t.IsWritable dir file) (hfile : FilePath.IsTaken file) {ε : Type}
    (content : ByteArray) (mode : Nat) (makeBlame writeBlame renameBlame : IoError → ε) :
    ∃ t', runSteps (⟨.makeDirs dir, makeBlame⟩ ::
      replaceSteps (FilePath.join dir file) content mode writeBlame renameBlame) t
        = (t', .ok ()) :=
  (h.becomesReady hfile).exists_runSteps content mode makeBlame writeBlame renameBlame

/-- No less will do: where a file of a directory was replaced, the directory can be written in. -/
theorem of_replaced (hfile : FilePath.IsTaken file) {ε : Type} {content : ByteArray} {mode : Nat}
    {makeBlame writeBlame renameBlame : IoError → ε}
    (h : runSteps (⟨.makeDirs dir, makeBlame⟩ ::
      replaceSteps (FilePath.join dir file) content mode writeBlame renameBlame) t
        = (t', .ok ())) : t.IsWritable dir file := by
  have htemporary := FilePath.temporaryPath_join dir hfile.isFileName hfile.temporary
  have hapart := (t.placeOf_temporaryPath_ne dir hfile.isFileName hfile.temporary).symm
  have hplace := (t.changesOnly_makeDirs dir).placeOf
  obtain ⟨hmade, -, -, hbeside, -, hfree, hfreeBeside, hwritten, hrenamed⟩ :=
    becomesReady_of_runSteps hapart h
  rw [htemporary, hplace] at hbeside hfreeBeside hwritten
  rw [hplace] at hfree
  rw [htemporary, hplace, hplace] at hrenamed
  obtain ⟨-, hshort, hfollow⟩ := follow_of_locate hbeside
  refine ⟨hmade, ?_, hshort, ?_, hwritten, hrenamed⟩
  · rintro rfl
    have hnone : t.makeDirs "" = (t, .ok ()) := rfl
    rw [hnone, FilePath.join_empty hfile.temporary, hfile.temporary.isAbsolute_eq,
      hfile.temporary.names_eq] at hfollow
    simp only [Bool.false_eq_true, if_false] at hfollow
    rw [follow] at hfollow
    obtain ⟨_, henter, -⟩ := bind_eq_ok hfollow
    exact get?_of_enter henter
  · intro name hname
    simp only [List.mem_cons, List.not_mem_nil, or_false] at hname
    rcases hname with rfl | rfl
    · exact hfree
    · exact hfreeBeside

end IsWritable

/-! ## A directory behind a file's own name -/

section OwnName

variable (h : FilePath.IsTaken file)

include h

/-- The names of a path that leads through the name of a file and back. -/
lemma names_throughName : FilePath.names (file ++ "/..") = [file, ".."] := by
  have happend := FilePath.names_append_slash file ".."
  rw [h.isFileName.names_eq, String.append_assoc] at happend
  exact happend

lemma locate_throughName {t : FileTree} (ht : t.workingDir = []) :
    t.locate (file ++ "/..") = t.follow [] [file, ".."] := by
  obtain ⟨hname, hnul, hsize⟩ := h.of_mem List.mem_cons_self
  have hnames := names_throughName h
  have hempty : (file ++ "/..").isEmpty = false := by
    rw [String.isEmpty_eq_false_iff]
    intro he
    rw [he] at hnames
    cases hnames
  have hshort : (file ++ "/..").utf8ByteSize ≤ pathLimit := by
    have hdots : "/..".utf8ByteSize = 3 := rfl
    have hlimits : nameLimit + 3 ≤ pathLimit := by decide
    rw [String.utf8ByteSize_append]
    omega
  rw [locate_eq_follow hempty (by simp [hnul]) hshort, hnames, ht, ite_self]

/-- A root in which only a directory of the name of a file stands. -/
def rootWithName (file : String) : FileTree := { entries := [([file], .directory)] }

/-- In an empty root a directory comes where a file belongs when a path leads through the file's
name and back. -/
lemma makeDirs_throughName : empty.makeDirs (file ++ "/..") = (rootWithName file, .ok ()) := by
  obtain ⟨hname, hnul, hsize⟩ := h.of_mem List.mem_cons_self
  have hlong : ¬file.utf8ByteSize > nameLimit := Nat.not_lt.2 hsize
  have hself : (rootWithName file).get? [file] = some .directory := by
    simp [get?, rootWithName]
  have hfirst : empty.makeDir (file ++ "/..") = .error .notFound := by
    rw [makeDir, locate_throughName h rfl]
    simp only [follow, if_neg hname.ne_dot, if_neg hname.ne_dots, if_neg hlong]
    rfl
  have hparent : empty.makeDir file = .ok (rootWithName file) := by
    rw [makeDir, locate_of_isTaken h List.mem_cons_self rfl]
    rfl
  have hback : (rootWithName file).locate (file ++ "/..") = .ok [] := by
    have henter : (rootWithName file).enter [file] = .ok () := by rw [enter, hself]
    rw [locate_throughName h rfl]
    simp only [follow, if_neg hname.ne_dot, if_neg hname.ne_dots, if_neg hlong, List.nil_append,
      henter]
    rfl
  have hagain : (rootWithName file).makeDir (file ++ "/..") = .error .exists_ := by
    rw [makeDir, hback]
    rfl
  have hthere := isDirectory_of_locate hback rfl
  have hempty : (file ++ "/..").isEmpty = false := by
    simp [String.isEmpty_eq_false_iff, hname.ne_empty]
  have hup : FilePath.dropLastName [file, ".."] = [file] := by
    simp [FilePath.dropLastName, FilePath.dropDots, hname.ne_dot]
  have hfile : pathOfNames (FilePath.isAbsolute (file ++ "/..")) [file] = file := by
    have hrelative : FilePath.isAbsolute (file ++ "/..") = false := by
      have hfirst := hname.isAbsolute_eq
      obtain ⟨c, cs, hcs⟩ := List.exists_cons_of_ne_nil hname.toList_ne_nil
      rw [FilePath.isAbsolute, hcs] at hfirst
      rw [FilePath.isAbsolute, String.toList_append, hcs]
      exact hfirst
    rw [hrelative, pathOfNames, String.intercalate_singleton]
    exact String.empty_append
  simp only [makeDirs, hempty, Bool.false_eq_true, if_false, names_throughName h, List.length_cons,
    List.length_nil, makeDirsFrom, hfirst, hup, List.isEmpty_cons, hfile, hparent, ensureDir,
    hagain, hthere, if_true]
  rfl

/-- There the file belongs, and its place is taken. -/
lemma get?_rootWithName : empty.placeOf (FilePath.join (file ++ "/..") file) = [file] ∧
    (rootWithName file).get? [file] = some .directory := by
  have hname := h.isFileName
  have hjoin := FilePath.names_join (file ++ "/..") hname
  refine ⟨?_, by simp [get?, rootWithName]⟩
  rw [placeOf, hjoin, names_throughName h, empty, ite_self]
  simp [Place.along, hname.ne_dot, hname.ne_dots]

end OwnName

variable {t t' : FileTree} {made : List Place} {path dir : String} {content : ByteArray}
  {mode : Nat} {ε : Type} {makeBlame writeBlame renameBlame : IoError → ε}

end FileTree

end WebviewBridge
