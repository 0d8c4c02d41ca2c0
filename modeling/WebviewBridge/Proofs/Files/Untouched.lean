import WebviewBridge.Proofs.Files.Replaced

/-!
# What operations pass by

An operation leaves alone what stands at any place that it is not about.  Where nothing stood
nothing comes, but for the directories that are made on the way to another: these are listed by
`FileTree.lineage`.

None of these takes the place of a missing file, unless the way to the directory goes through the
file's own name (`FileTree.LeadsPast`).

Main statements: `FileTree.MakesDirs.untouched`, `FileTree.untouched_replaceSteps` and
`FileTree.untouched_of_replaceSteps`.
-/

namespace WebviewBridge

namespace FileTree

variable {t t' t'' : FileTree} {p q : Place} {path : String} {made : List Place}

/-- What stands at a place stands there still, and no file came where none was. -/
structure Keeps (q : Place) (t t' : FileTree) : Prop where
  entry : ∀ x, t.get? q = some x → t'.get? q = some x
  content : t'.content? q = t.content? q

namespace Keeps

lemma refl (q : Place) (t : FileTree) : Keeps q t t := ⟨fun _ h => h, rfl⟩

lemma trans (h : Keeps q t t') (h' : Keeps q t' t'') : Keeps q t t'' :=
  ⟨fun x hx => h'.entry x (h.entry x hx), h'.content.trans h.content⟩

end Keeps

/-- Nobody touched what stands at a place, and if nothing stood there then nothing does, unless it
is one of the places where directories were made. -/
structure Untouched (made : List Place) (q : Place) (t t' : FileTree) : Prop where
  workingDir : t'.workingDir = t.workingDir
  hindrance : t'.hindrance? = t.hindrance?
  keeps : Keeps q t t'
  get?_eq : q ∉ made → t'.get? q = t.get? q

namespace Untouched

lemma refl (made : List Place) (q : Place) (t : FileTree) : Untouched made q t t :=
  ⟨rfl, rfl, .refl q t, fun _ => rfl⟩

lemma trans (h : Untouched made q t t') (h' : Untouched made q t' t'') : Untouched made q t t'' :=
  ⟨h'.workingDir.trans h.workingDir, h'.hindrance.trans h.hindrance, h.keeps.trans h'.keeps,
    fun hq => (h'.get?_eq hq).trans (h.get?_eq hq)⟩

lemma mono {more : List Place} (h : Untouched made q t t') (hsub : made ⊆ more) :
    Untouched more q t t' :=
  ⟨h.workingDir, h.hindrance, h.keeps, fun hq => h.get?_eq fun hmade => hq (hsub hmade)⟩

/-- It is enough that the same stands at the place. -/
lemma of_get?_eq (hdir : t'.workingDir = t.workingDir) (hhindrance : t'.hindrance? = t.hindrance?)
    (hq : t'.get? q = t.get? q) : Untouched made q t t' where
  workingDir := hdir
  hindrance := hhindrance
  keeps := ⟨fun _ hx => hq.trans hx, content?_congr hq⟩
  get?_eq := fun _ => hq

lemma placeOf (h : Untouched made q t t') (path : String) : t'.placeOf path = t.placeOf path :=
  placeOf_congr h.workingDir path

end Untouched

lemma untouched_put (h : q ≠ p) (e : Entry) : Untouched made q t (t.put p e) :=
  .of_get?_eq rfl rfl (get?_put_of_ne h e)

lemma untouched_erase (h : q ≠ p) : Untouched made q t (t.erase p) :=
  .of_get?_eq rfl rfl (get?_erase_of_ne h)

/-! ## Directories -/

/-- A new directory takes the place of nothing. -/
lemma untouched_makeDir (h : t.makeDir path = .ok t') (q : Place) :
    Untouched [t.placeOf path] q t t' := by
  have hcontent := (changesOnly_makeDir h).content q List.not_mem_nil
  obtain ⟨p, hl, hp, rfl⟩ := exists_of_makeDir h
  obtain rfl := eq_placeOf_of_locate hl
  refine ⟨rfl, rfl, ⟨?_, hcontent⟩, fun hq => get?_put_of_ne (List.ne_of_not_mem_cons hq) _⟩
  intro x hx
  have hne : q ≠ t.placeOf path := by
    rintro rfl
    rw [hp] at hx
    cases hx
  rw [get?_put_of_ne hne, hx]

/-- To make directories is to touch nothing, and nothing comes anywhere else. -/
theorem MakesDirs.untouched {dirs : List String} (h : MakesDirs dirs t t') (q : Place) :
    Untouched (dirs.map t.placeOf) q t t' := by
  induction h with
  | refl t => exact .refl _ q t
  | @step t t₁ t' path hpath hmake _ ih =>
    have hfirst := untouched_makeDir hmake q
    rw [funext hfirst.placeOf] at ih
    exact (hfirst.mono (List.cons_subset.2 ⟨List.mem_map_of_mem hpath, List.nil_subset _⟩)).trans ih

lemma untouched_makeDirs (t : FileTree) (path : String) (q : Place) :
    Untouched ((lineage path).map t.placeOf) q t (t.makeDirs path).1 :=
  (t.makesDirs_makeDirs path).untouched q

/-! ### The places on the way -/

lemma of_mem_forebears {absolute : Bool} {steps : Nat} {ns : List String}
    (hns : ∀ n ∈ ns, FilePath.IsName n) (h : path ∈ forebears absolute steps ns) :
    FilePath.names path ⊆ ns ∧ (absolute = true → FilePath.isAbsolute path = true) := by
  induction steps generalizing ns with
  | zero => cases h
  | succ steps ih =>
    have hsub := FilePath.dropLastName_subset ns
    have hparent : ∀ n ∈ FilePath.dropLastName ns, FilePath.IsName n := fun n hn => hns n (hsub hn)
    simp only [forebears] at h
    split_ifs at h
    · cases h
    rcases List.mem_cons.1 h with rfl | h
    · refine ⟨?_, ?_⟩
      · rwa [FilePath.names_pathOfNames hparent]
      · rintro rfl
        simp [pathOfNames, FilePath.isAbsolute]
    · exact ⟨List.Subset.trans (ih hparent h).1 hsub, (ih hparent h).2⟩

/-- No directory on the way to another one has the name of a file. -/
structure LeadsPast (t : FileTree) (dir file : String) : Prop where
  notMem_names : file ∉ FilePath.names dir
  start : FilePath.isAbsolute dir = true ∨ file ∉ t.workingDir

/-- So the file stands at none of the places where directories are made. -/
lemma LeadsPast.placeOf_notMem {dir file : String} (h : t.LeadsPast dir file)
    (hfile : FilePath.IsFileName file) (parent : String) :
    t.placeOf (FilePath.join parent file) ∉ (lineage dir).map t.placeOf := by
  intro hmade
  obtain ⟨path, hpath, hplace⟩ := List.mem_map.1 hmade
  have hsub : FilePath.names path ⊆ FilePath.names dir ∧
      (FilePath.isAbsolute dir = true → FilePath.isAbsolute path = true) := by
    rcases List.mem_cons.1 hpath with rfl | hpath
    · exact ⟨List.Subset.refl _, id⟩
    · exact of_mem_forebears (fun _ => FilePath.isName_of_mem_names) hpath
  have hmem : file ∈ t.placeOf path := by
    obtain ⟨base, hbase⟩ := t.exists_placeOf_join parent
    rw [hplace, hbase file hfile]
    exact List.mem_append_right _ (List.mem_singleton_self _)
  rw [placeOf] at hmem
  rcases Place.mem_along hmem with hroot | hname
  · split_ifs at hroot with habsolute
    · cases hroot
    · rcases h.start with hdir | hwork
      · exact habsolute (hsub.2 hdir)
      · exact hwork hroot
  · exact h.notMem_names (hsub.1 hname)

/-! ## Files -/

/-- To write a file is to put some bytes where the path leads, or nothing. -/
lemma fst_write_eq (t : FileTree) (path : String) (content : ByteArray) (mode : Nat) :
    (t.write path content mode).1 = t ∨
      ∃ bytes mode',
        (t.write path content mode).1 = t.put (t.placeOf path) (.file bytes mode') := by
  have hput (mode' : Nat) : (t.putFile (t.placeOf path) content mode').1 = t ∨
      ∃ bytes mode'', (t.putFile (t.placeOf path) content mode').1 =
        t.put (t.placeOf path) (.file bytes mode'') := by
    rw [putFile]
    split
    · exact Or.inr ⟨_, _, rfl⟩
    · split
      · exact Or.inl rfl
      · exact Or.inr ⟨_, _, rfl⟩
  rw [write]
  split
  · exact Or.inl rfl
  · next p hl =>
    rw [← eq_placeOf_of_locate hl] at hput ⊢
    split_ifs
    · exact Or.inl rfl
    · split
      · exact Or.inl rfl
      · exact hput _
      · exact hput _

/-- A file that is written, or could not be, leaves all other places alone. -/
lemma untouched_write (made : List Place) (h : q ≠ t.placeOf path) (content : ByteArray)
    (mode : Nat) : Untouched made q t (t.write path content mode).1 := by
  rcases t.fst_write_eq path content mode with hsame | ⟨bytes, mode', hput⟩
  · rw [hsame]
    exact .refl made q t
  · rw [hput]
    exact untouched_put h _

lemma untouched_rename {source target : String} (h : t.rename source target = .ok t')
    (hsource : q ≠ t.placeOf source) (htarget : q ≠ t.placeOf target) :
    Untouched made q t t' := by
  obtain ⟨content, mode, -, -, -, rfl⟩ := exists_of_rename h
  exact (untouched_erase hsource).trans (untouched_put htarget _)

section Replacing

variable {ε : Type} {content : ByteArray} {mode : Nat} {writeBlame renameBlame : IoError → ε}

/-- To replace a file is to touch nothing but the file and the one beside it. -/
theorem untouched_replaceSteps (hpath : q ≠ t.placeOf path)
    (hbeside : q ≠ t.placeOf (temporaryPath path)) :
    Untouched made q t (runSteps (replaceSteps path content mode writeBlame renameBlame) t).1 := by
  have hwrite := untouched_write made hbeside content mode
  rw [replaceSteps, runSteps, FileOp.run]
  split
  · next t₁ heq =>
    rw [heq] at hwrite
    rw [runSteps, FileOp.run]
    cases hrename : t₁.rename (temporaryPath path) path with
    | error e => exact hwrite
    | ok t₂ =>
      refine hwrite.trans (untouched_rename hrename ?_ ?_)
      · rwa [hwrite.placeOf]
      · rwa [hwrite.placeOf]
  · next heq =>
    rw [heq] at hwrite
    exact hwrite

/-- When a file could not be replaced, it was not touched either. -/
theorem untouched_of_replaceSteps {e : ε}
    (h : runSteps (replaceSteps path content mode writeBlame renameBlame) t = (t', .error e))
    (hbeside : q ≠ t.placeOf (temporaryPath path)) : Untouched made q t t' := by
  have hwrite := untouched_write made hbeside content mode
  rcases failed_of_runSteps_cons h with ⟨reason, hw⟩ | ⟨t₁, hw, h⟩
  · rw [FileOp.run] at hw
    rwa [hw] at hwrite
  · rw [FileOp.run] at hw
    rw [hw] at hwrite
    rcases failed_of_runSteps_cons h with ⟨reason, hr⟩ | ⟨t₂, -, h⟩
    · rwa [FileOp.eq_of_run_rename hr]
    · cases h

end Replacing

end FileTree

end WebviewBridge
