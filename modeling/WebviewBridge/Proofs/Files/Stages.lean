import WebviewBridge.Proofs.Files.Untouched

/-!
# What others see while a file is replaced

Operations take time, and others may look at the files meanwhile: directories come one after the
other, a file that is being written holds some first part of its content, and a renaming happens at
once (`FileOp.Passes`).  A file that is replaced as a whole is untouched or has all of the new
content at any time; it is untouched if the steps fail and has the new content if they succeed
(`ReplacesWhole`).  Main statement: `FileTree.replacesWhole_makeDirs`.
-/

namespace WebviewBridge

/-! ## On the way -/

/-- The trees that are there while an operation is carried out. -/
inductive FileOp.Passes (t : FileTree) : FileOp → FileTree → Prop
  | before (op : FileOp) : Passes t op t
  | after (op : FileOp) : Passes t op (op.run t).1
  | makingDirs {path : String} {t' : FileTree}
      (h : FileTree.MakesDirs (FileTree.lineage path) t t') : Passes t (.makeDirs path) t'
  /-- A file that is being written holds some first part of what it shall hold. -/
  | writing {path : String} {content : ByteArray} {mode : Nat} (n mode' : Nat) :
      Passes t (.write path content mode)
        (t.put (t.placeOf path) (.file (content.extract 0 n) mode'))

/-- The trees that are there while steps are carried out. -/
inductive StepsPass {ε : Type} : List (FileStep ε) → FileTree → FileTree → Prop
  | nothing (t : FileTree) : StepsPass [] t t
  | during {x : FileStep ε} {xs : List (FileStep ε)} {t t' : FileTree} (h : x.op.Passes t t') :
      StepsPass (x :: xs) t t'
  | later {x : FileStep ε} {xs : List (FileStep ε)} {t t₁ t' : FileTree}
      (h : x.op.run t = (t₁, .ok ())) (hrest : StepsPass xs t₁ t') : StepsPass (x :: xs) t t'

/-! ## Files that are replaced as a whole -/

/-- Steps that may make directories at some places replace the file of a path as a whole: if they
fail it is untouched, if they succeed it holds the new content and no file is left beside it, and at
any time it is untouched or has all of the new content. -/
structure ReplacesWhole {ε : Type} (t : FileTree) (made : List Place) (path : String)
    (content : ByteArray) (xs : List (FileStep ε)) : Prop where
  failed : ∀ t' e, runSteps xs t = (t', .error e) →
    FileTree.Untouched made (t.placeOf path) t t'
  done : ∀ t', runSteps xs t = (t', .ok ()) →
    t'.Holds path content ∧ t'.get? (t.placeOf (temporaryPath path)) = none
  passed : ∀ t', StepsPass xs t t' →
    FileTree.Untouched made (t.placeOf path) t t' ∨ t'.content? (t.placeOf path) = some content

/-- A directory that is in the way of the file stays there, and the file is not replaced. -/
lemma ReplacesWhole.exists_failed {ε : Type} {t : FileTree} {made : List Place} {path : String}
    {content : ByteArray} {xs : List (FileStep ε)} (h : ReplacesWhole t made path content xs)
    (hdir : t.get? (t.placeOf path) = some .directory) :
    ∃ t' e, runSteps xs t = (t', .error e) ∧ t'.get? (t.placeOf path) = some .directory := by
  have hchanges := changesOnly_runSteps xs t
  rcases hrun : runSteps xs t with ⟨t', e | ⟨⟩⟩
  all_goals
    rw [hrun] at hchanges
    have hstays := hchanges.directory _ hdir
  · exact ⟨t', e, rfl, hstays⟩
  · have hfile := (h.done t' hrun).1.content?_eq
    rw [hchanges.placeOf, FileTree.content?, hstays] at hfile
    cases hfile

namespace FileTree

variable {t t' : FileTree} {made : List Place} {path dir : String} {content : ByteArray}
  {mode : Nat} {ε : Type} {makeBlame writeBlame renameBlame : IoError → ε}

/-- While the file beside is written, in part or in whole, the file is left alone. -/
lemma untouched_of_passes_write (hne : t.placeOf path ≠ t.placeOf (temporaryPath path))
    (h : (FileOp.write (temporaryPath path) content mode).Passes t t') :
    Untouched made (t.placeOf path) t t' := by
  cases h with
  | before => exact .refl made _ t
  | after => exact untouched_write made hne content mode
  | writing n mode' => exact untouched_put hne _

/-- There is nothing between the tree that a renaming finds and the one that it leaves. -/
lemma eq_or_rename_of_passes {source target : String}
    (h : (FileOp.rename source target).Passes t t') :
    t' = t ∨ t.rename source target = .ok t' := by
  cases h with
  | before => exact Or.inl rfl
  | after =>
    rcases hrun : (FileOp.rename source target).run t with ⟨t₁, e | ⟨⟩⟩
    · exact Or.inl (FileOp.eq_of_run_rename hrun)
    · exact Or.inr (FileOp.rename_of_run hrun)

/-- What is known once the file beside is written, or could not be. -/
lemma untouched_of_run_write (made : List Place) {reason : Except IoError Unit}
    (hne : t.placeOf path ≠ t.placeOf (temporaryPath path))
    (h : (FileOp.write (temporaryPath path) content mode).run t = (t', reason)) :
    Untouched made (t.placeOf path) t t' := by
  have hwrite := untouched_write made hne content mode
  rw [FileOp.run] at h
  rwa [h] at hwrite

/-- What is known once it is renamed: the file has the new content, and beside it there is none. -/
lemma renamed_of_rename {t₁ : FileTree} (hne : t.placeOf path ≠ t.placeOf (temporaryPath path))
    (hw : (FileOp.write (temporaryPath path) content mode).run t = (t₁, .ok ()))
    (hr : t₁.rename (temporaryPath path) path = .ok t') :
    t'.content? (t.placeOf path) = some content ∧
      t'.get? (t.placeOf (temporaryPath path)) = none := by
  have hplace := (untouched_of_run_write [] hne hw).placeOf
  have hbytes := content?_rename hr
  obtain ⟨bytes, mode', hsource, -, -, rfl⟩ := exists_of_rename hr
  simp only [hplace] at hsource hbytes ⊢
  rw [content?_write hw] at hbytes
  refine ⟨hbytes, ?_⟩
  rw [get?_put_of_ne hne.symm,
    get?_erase_self (ne_nil_of_get?_ne (ne_directory_of_file hsource))]

/-- **A file is replaced as a whole** by writing beside it and renaming. -/
theorem replacesWhole_replaceSteps (made : List Place)
    (hne : t.placeOf path ≠ t.placeOf (temporaryPath path)) :
    ReplacesWhole t made path content
      (replaceSteps path content mode writeBlame renameBlame) := by
  refine ⟨fun t' e h => untouched_of_replaceSteps h hne, ?_, ?_⟩
  · intro t' h
    refine ⟨holds_of_replaceSteps h, ?_⟩
    obtain ⟨t₁, hw, h⟩ := exists_of_runSteps_cons h
    obtain ⟨t₂, hr, h⟩ := exists_of_runSteps_cons h
    cases h
    exact (renamed_of_rename hne hw (FileOp.rename_of_run hr)).2
  · intro t' h
    cases h with
    | during h => exact Or.inl (untouched_of_passes_write hne h)
    | later hw h =>
      cases h with
      | during h =>
        rcases eq_or_rename_of_passes h with rfl | hr
        · exact Or.inl (untouched_of_run_write made hne hw)
        · exact Or.inr (renamed_of_rename hne hw hr).1
      | later hr h =>
        cases h
        exact Or.inr (renamed_of_rename hne hw (FileOp.rename_of_run hr)).1

/-- **So it is when its directory is made first**, with the parents that are missing. -/
theorem replacesWhole_makeDirs (dir : String)
    (hne : t.placeOf path ≠ t.placeOf (temporaryPath path)) :
    ReplacesWhole t ((lineage dir).map t.placeOf) path content (⟨.makeDirs dir, makeBlame⟩ ::
      replaceSteps path content mode writeBlame renameBlame) := by
  have hmade {t₁ : FileTree} {r : Except IoError Unit}
      (hd : (FileOp.makeDirs dir).run t = (t₁, r)) :
      Untouched ((lineage dir).map t.placeOf) (t.placeOf path) t t₁ := by
    have h := t.untouched_makeDirs dir (t.placeOf path)
    rw [FileOp.run] at hd
    rwa [hd] at h
  -- the rest happens in a tree where all paths lead to the same places
  have hrest {t₁ : FileTree}
      (h : Untouched ((lineage dir).map t.placeOf) (t.placeOf path) t t₁) :
      ReplacesWhole t₁ ((lineage dir).map t.placeOf) path content
        (replaceSteps path content mode writeBlame renameBlame) := by
    refine replacesWhole_replaceSteps _ ?_
    rwa [h.placeOf, h.placeOf]
  refine ⟨?_, ?_, ?_⟩
  · intro t' e h
    rcases failed_of_runSteps_cons h with ⟨reason, hd⟩ | ⟨t₁, hd, h⟩
    · exact hmade hd
    · have hfailed := (hrest (hmade hd)).failed t' e h
      rw [(hmade hd).placeOf] at hfailed
      exact (hmade hd).trans hfailed
  · intro t' h
    obtain ⟨t₁, hd, h⟩ := exists_of_runSteps_cons h
    have hdone := (hrest (hmade hd)).done t' h
    rwa [(hmade hd).placeOf] at hdone
  · intro t' h
    cases h with
    | during h =>
      cases h with
      | before => exact Or.inl (.refl _ _ t)
      | after => exact Or.inl (t.untouched_makeDirs dir _)
      | makingDirs h => exact Or.inl (h.untouched _)
    | later hd h =>
      have hpassed := (hrest (hmade hd)).passed t' h
      rw [(hmade hd).placeOf] at hpassed
      rcases hpassed with hsame | hnew
      · exact Or.inl ((hmade hd).trans hsame)
      · exact Or.inr hnew

end FileTree

end WebviewBridge
