import WebviewBridge.Config.Store
import WebviewBridge.Proofs.Config.Environment
import WebviewBridge.Proofs.Config.Settings
import WebviewBridge.Proofs.Files.Directories

/-!
# Configurations that are kept

A configuration that was saved is loaded as it was, and only a valid one is ever saved or loaded.
A file that leaves something out is loaded as its settings over the defaults.  Main statement:
`BridgeConfig.load_save`.
-/

namespace WebviewBridge

open Json

namespace BridgeConfig

variable {c : BridgeConfig} {t t' : FileTree} {dir text : String}

/-- The system takes the name of the configuration file. -/
lemma isTaken_configFileName : FilePath.IsTaken configFileName := by
  refine ⟨?_, ?_, ?_, ?_⟩
  · constructor <;> decide
  · constructor <;> decide
  · decide
  · decide

/-! ## Loading -/

/-- Whatever stands in the file, what is loaded is valid. -/
lemma validate_of_load (h : (load t dir).1 = .ok c) : c.validate = .ok () := by
  revert h
  fun_cases load t dir with
  | case1 path hexists =>
    -- no file: the defaults are valid
    intro h
    cases h
    exact validate_default
  | case2 path hexists e hread =>
    intro h
    cases h
  | case3 path hexists text hread r hparse =>
    intro h
    cases h
  | case4 path hexists text hread c hparse e hvalid =>
    intro h
    cases h
  | case5 path hexists text hread c hparse hvalid =>
    intro h
    cases h
    exact hvalid

/-- A file that is read and parsed is loaded if it is valid. -/
lemma load_of_holds (h : t.Holds (filePath dir) text.toUTF8)
    (hallow : t.hindrance? (.read (t.placeOf (filePath dir))) = none)
    (hparse : parse text = .ok c) : (load t dir).1 = c.validate.map fun _ => c := by
  have hslash : FilePath.endsInSlash (filePath dir) = false :=
    FilePath.endsInSlash_join dir isTaken_configFileName.isFileName
  have hexists : t.exists? (filePath dir) = true := by
    obtain ⟨mode, hfile⟩ := FileTree.exists_file_of_content? h.content?_eq
    rw [FileTree.exists?, FileTree.locateFile_eq hslash, h.locate_eq]
    simp [hfile]
  have hread : t.readText (filePath dir) = .ok text := h.readText hslash hallow
  rw [load]
  simp only [hexists, hread, hparse, Bool.not_true, Bool.false_eq_true, if_false]
  cases c.validate <;> rfl

/-! ## Saving -/

lemma saveSteps_eq (c : BridgeConfig) (dir : String) :
    c.saveSteps dir = ⟨.makeDirs dir, .write dir⟩ ::
      replaceSteps (filePath dir) c.fileText.toUTF8 publicMode
        (.write (temporaryPath (filePath dir))) (.write (filePath dir)) := rfl

/-- A configuration is saved only if it is valid. -/
lemma runSteps_of_save (h : c.save t dir = (t', .ok ())) :
    c.validate = .ok () ∧ runSteps (c.saveSteps dir) t = (t', .ok ()) := by
  rw [save] at h
  split at h
  · cases h
  · next hvalid => exact ⟨hvalid, h⟩

/-- The file of a configuration that was saved holds all of it. -/
lemma holds_of_save (h : c.save t dir = (t', .ok ())) :
    t'.Holds (filePath dir) c.fileText.toUTF8 := by
  obtain ⟨-, hsteps⟩ := runSteps_of_save h
  rw [saveSteps_eq] at hsteps
  obtain ⟨t₁, -, hreplace⟩ := exists_of_runSteps_cons hsteps
  exact FileTree.holds_of_replaceSteps hreplace

/-- Valid configurations are saved, in directories that can be written in. -/
lemma save_eq_ok_iff :
    (c.save t dir).2 = .ok () ↔ c.validate = .ok () ∧ t.IsWritable dir configFileName := by
  constructor
  · intro hsave
    obtain ⟨hvalid, hsteps⟩ := runSteps_of_save (Prod.ext rfl hsave)
    rw [saveSteps_eq] at hsteps
    exact ⟨hvalid, .of_replaced isTaken_configFileName hsteps⟩
  · rintro ⟨hvalid, hdir⟩
    obtain ⟨t', hsteps⟩ : ∃ t', runSteps (c.saveSteps dir) t = (t', .ok ()) :=
      hdir.exists_replaced isTaken_configFileName c.fileText.toUTF8 publicMode _ _ _
    simp only [save, hvalid, hsteps]

/-- **What was saved is loaded.**  Exactly the valid configurations are saved, in exactly the
directories that can be written in; one that was saved is loaded as it was; whatever the file
holds, what is loaded is valid; and a file of some settings is loaded as what they make of the
defaults, unless that is not valid. -/
theorem load_save :
    (∀ (c : BridgeConfig) (t : FileTree) (dir : String),
      (c.save t dir).2 = .ok () ↔ c.validate = .ok () ∧ t.IsWritable dir configFileName) ∧
    (∀ (c : BridgeConfig) (t t' : FileTree) (dir : String), c.save t dir = (t', .ok ()) →
      t'.hindrance? (.read (t'.placeOf (filePath dir))) = none → (load t' dir).1 = .ok c) ∧
    (∀ (c : BridgeConfig) (t : FileTree) (dir : String), (load t dir).1 = .ok c →
      c.validate = .ok ()) ∧
    ∀ (settings : List Setting) (text : String) (t : FileTree) (dir : String),
      Writes settings text → t.Holds (filePath dir) text.toUTF8 →
      t.hindrance? (.read (t.placeOf (filePath dir))) = none →
      (load t dir).1 = (ofSettings settings).validate.map fun _ => ofSettings settings := by
  refine ⟨?_, ?_, ?_, ?_⟩
  · intro c t dir
    exact save_eq_ok_iff
  · intro c t t' dir hsave hallow
    have hparse : parse c.fileText = .ok c := parse_settings c.writes_fileText
    rw [load_of_holds (holds_of_save hsave) hallow hparse, (runSteps_of_save hsave).1]
    rfl
  · intro c t dir hload
    exact validate_of_load hload
  · intro settings text t dir hwrites hholds hallow
    exact load_of_holds hholds hallow (parse_settings hwrites)

/-- The greatest numbers and a token with a quote come back from an empty root, and a file that
writes one number of one section is loaded with all the other defaults. -/
theorem load_save_empty :
    let c : BridgeConfig := ⟨1, ⟨65535, some "ü\"\n", 3600⟩,
      ⟨18446744073709551615, .fail, 18446744073709551615⟩, ⟨18446744073709551615⟩⟩
    let text := (Value.obj ([Setting.messaging [.connectTimeoutMs 7]].map (·.member))).text
    let t : FileTree := { entries := [([configFileName], .file text.toUTF8 publicMode)] }
    (∃ t', c.save .empty "" = (t', .ok ()) ∧ (load t' "").1 = .ok c ∧ c.validate = .ok ()) ∧
      FileTree.empty.IsWritable "" configFileName ∧
      (load t "").1 = .ok { messaging := { connectTimeoutMs := 7 } } ∧
      ({ messaging := { connectTimeoutMs := 7 } } : BridgeConfig).validate = .ok () := by
  intro c text t
  have htaken := isTaken_configFileName
  have hpath : filePath "" = configFileName := FilePath.join_empty htaken.isFileName
  have hsave : c.save .empty "" =
      ({ entries := [([configFileName], .file c.fileText.toUTF8 publicMode)] }, .ok ()) := by
    have hvalid : c.validate = .ok () := validate_eq_ok_iff.2 (by decide)
    have hnone : FileTree.empty.makeDirs "" = (.empty, .ok ()) := rfl
    simp only [save, hvalid, saveSteps_eq, hpath]
    rw [runSteps, FileOp.run, hnone]
    exact FileTree.runSteps_replaceSteps_empty htaken.isFileName htaken.temporary
      (by simp [configFileName]) (by simp [temporaryPath, configFileName]) (by decide) (by decide)
  obtain ⟨hvalid, hwritable⟩ := (load_save.1 c _ _).1 (congrArg Prod.snd hsave)
  refine ⟨⟨_, hsave, load_save.2.1 c _ _ "" hsave rfl, hvalid⟩, hwritable, ?_⟩
  have hwrites : Writes [.messaging [.connectTimeoutMs 7]] text := by
    refine ⟨List.pairwise_singleton _ _, ?_, [], _, [], isBlank_nil, Value.isText_chars _,
      isBlank_nil, ?_⟩
    · intro i hi
      obtain rfl := List.mem_singleton.1 hi
      exact List.pairwise_singleton _ _
    · rw [List.nil_append, List.append_nil]
      rfl
  have hholds : t.Holds (filePath "") text.toUTF8 := by
    have hlocate : t.locate (filePath "") = .ok [configFileName] := by
      rw [hpath]
      exact FileTree.locate_of_isTaken htaken (by simp) rfl
    have hplaced := FileTree.eq_placeOf_of_locate hlocate
    refine ⟨hplaced ▸ hlocate, ?_⟩
    rw [← hplaced]
    rfl
  have hload := load_save.2.2.2 _ text t "" hwrites hholds rfl
  exact ⟨hload, load_save.2.2.1 _ t "" hload⟩

end BridgeConfig

end WebviewBridge
