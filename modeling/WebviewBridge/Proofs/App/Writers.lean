import WebviewBridge.Proofs.App.Reachable
import WebviewBridge.Proofs.Config.Stored
import WebviewBridge.Proofs.Files.Stages

/-!
# The files that are written

Three files are written: that of the configuration, that of the connection and that of a stored
submission.  Each of them is replaced as a whole, wherever its directory is, whatever stands there
and whichever operation fails.  Main statement: `writers_replaceWhole`.

One thing can come of a failure where nothing stood: a directory, if the path of the file's
directory leads through the file's own name (`save_throughOwnName`).
-/

namespace WebviewBridge

/-- Where the directories of a path are made, with those above them. -/
abbrev FileTree.made (t : FileTree) (dir : String) : List Place := (lineage dir).map t.placeOf

lemma BridgeConfig.replacesWhole_saveSteps (c : BridgeConfig) (t : FileTree) (dir : String) :
    ReplacesWhole t (t.made dir) (filePath dir) c.fileText.toUTF8 (c.saveSteps dir) := by
  have hne := t.placeOf_temporaryPath_ne dir isTaken_configFileName.isFileName
    isTaken_configFileName.temporary
  rw [saveSteps_eq]
  exact FileTree.replacesWhole_makeDirs dir hne.symm

lemma SubmissionCache.replacesWhole_writeSteps (k : SubmissionCache) (r : CachedSubmission)
    (t : FileTree) :
    ReplacesWhole t (t.made (FilePath.asParent k.dir)) k.path r.fileText.toUTF8 (k.writeSteps r) :=
  FileTree.replacesWhole_makeDirs _ (k.placeOf_path_ne t)

lemma ConnectionInfo.replacesWhole_writeSteps (i : ConnectionInfo) (t : FileTree) (dir : String) :
    ReplacesWhole t [] (filePath dir) i.fileText.toUTF8 (i.writeSteps dir) := by
  have hne := t.placeOf_temporaryPath_ne dir isFileName isFileName_temporary
  exact FileTree.replacesWhole_replaceSteps [] hne.symm

/-- **Every file that is written is replaced as a whole.**  Saving a configuration that is not
valid does nothing to the files, and what the others do are steps that replace a file as a whole.
Where nothing stood nothing stands after a failure, unless the path of the directory leads through
the file's own name, so that a directory was made there. -/
theorem writers_replaceWhole :
    (∀ (c : BridgeConfig) (t : FileTree) (dir : String),
      (∀ e, c.validate = .error e → c.save t dir = (t, .error e)) ∧
      (c.validate = .ok () → c.save t dir = runSteps (c.saveSteps dir) t) ∧
      ReplacesWhole t (t.made dir) (BridgeConfig.filePath dir) c.fileText.toUTF8
        (c.saveSteps dir) ∧
      (t.LeadsPast dir configFileName → t.placeOf (BridgeConfig.filePath dir) ∉ t.made dir)) ∧
    (∀ (k : SubmissionCache) (r : CachedSubmission) (h : Host) (s : Session),
      (Handling.steps (k.writeSteps r)).runOn h s =
        ({ h with files := (runSteps (k.writeSteps r) h.files).1 }, s,
          (runSteps (k.writeSteps r) h.files).2) ∧
      ReplacesWhole h.files (h.files.made (FilePath.asParent k.dir)) k.path r.fileText.toUTF8
        (k.writeSteps r) ∧
      (h.files.LeadsPast (FilePath.asParent k.dir) SubmissionCache.fileName →
        h.files.placeOf k.path ∉ h.files.made (FilePath.asParent k.dir))) ∧
    ∀ (i : ConnectionInfo) (t : FileTree) (dir : String),
      i.write t dir = runSteps (i.writeSteps dir) t ∧
      ReplacesWhole t [] (ConnectionInfo.filePath dir) i.fileText.toUTF8 (i.writeSteps dir) := by
  refine ⟨?_, ?_, ?_⟩
  · intro c t dir
    refine ⟨?_, ?_, c.replacesWhole_saveSteps t dir, ?_⟩
    · intro e hinvalid
      simp only [BridgeConfig.save, hinvalid]
    · intro hvalid
      simp only [BridgeConfig.save, hvalid]
    · exact fun hpast => hpast.placeOf_notMem BridgeConfig.isTaken_configFileName.isFileName dir
  · intro k r h s
    refine ⟨Handling.runOn_steps _ h s, k.replacesWhole_writeSteps r h.files, ?_⟩
    exact fun hpast => hpast.placeOf_notMem SubmissionCache.isFileName_fileName k.dir
  · intro i t dir
    exact ⟨rfl, i.replacesWhole_writeSteps t dir⟩

/-- When the disk is full after three bytes, the configuration cannot be saved, and the old file
stays as it is; one of version zero is not even tried to be saved. -/
theorem writers_replaceWhole_full :
    let old : Entry := .file "old".toUTF8 publicMode
    let t : FileTree := {
      entries := [([configFileName], old)]
      hindrance? := fun a =>
        if a = .write [temporaryPath configFileName] then some { reason := 28, written := some 3 }
        else none }
    (∃ e, ({ version := 0 } : BridgeConfig).save t "" = (t, .error e)) ∧
      ∃ t' e, ({} : BridgeConfig).save t "" = (t', .error e) ∧
        t'.get? [configFileName] = some old := by
  intro old t
  have htaken := BridgeConfig.isTaken_configFileName
  refine ⟨⟨_, (writers_replaceWhole.1 _ t "").1 _ rfl⟩, ?_⟩
  obtain ⟨-, hsave, hwhole, -⟩ := writers_replaceWhole.1 {} t ""
  have hpath : BridgeConfig.filePath "" = configFileName := FilePath.join_empty htaken.isFileName
  have hplace : t.placeOf (BridgeConfig.filePath "") = [configFileName] := by
    rw [hpath]
    exact (FileTree.eq_placeOf_of_locate (FileTree.locate_of_isTaken htaken (by simp) rfl)).symm
  -- the write is the step that fails
  have hwrite : t.write (temporaryPath configFileName)
      ({} : BridgeConfig).fileText.toUTF8 publicMode =
        (t.put [temporaryPath configFileName]
          (.file (({} : BridgeConfig).fileText.toUTF8.extract 0 3) publicMode),
          .error (.os 28)) := by
    have hslash := FilePath.endsInSlash_join "" htaken.temporary
    rw [FilePath.join_empty htaken.temporary] at hslash
    have hnone : t.get? [temporaryPath configFileName] = none := by decide
    have hfull : t.hindrance? (.write [temporaryPath configFileName]) =
        some { reason := 28, written := some 3 } := by simp [t]
    have hlocate : t.locate (temporaryPath configFileName) =
        .ok [temporaryPath configFileName] := FileTree.locate_of_isTaken htaken (by simp) rfl
    rw [FileTree.write, hlocate, hslash]
    simp only [Bool.false_eq_true, if_false, hnone, FileTree.putFile, hfull]
    rfl
  have hfails : ∃ t' e, runSteps (BridgeConfig.saveSteps {} "") t = (t', .error e) := by
    have hmade : t.makeDirs "" = (t, .ok ()) := rfl
    simp only [BridgeConfig.saveSteps_eq, hpath, replaceSteps, runSteps, FileOp.run, hmade, hwrite]
    exact ⟨_, _, rfl⟩
  obtain ⟨t', e, hsteps⟩ := hfails
  refine ⟨t', e, (hsave BridgeConfig.validate_default).trans hsteps, ?_⟩
  have hentry := (hwhole.failed t' e hsteps).keeps.entry old
  rw [hplace] at hentry
  exact hentry rfl

/-- An empty root, in which the way to the file's directory goes through the file's own
name: the configuration cannot be saved, and a directory stands where nothing stood. -/
theorem save_throughOwnName :
    let dir := configFileName ++ "/.."
    let place := FileTree.empty.placeOf (BridgeConfig.filePath dir)
    FileTree.empty.get? place = none ∧
      ∃ t' e, ({} : BridgeConfig).save FileTree.empty dir = (t', .error e) ∧
        t'.get? place = some .directory := by
  intro dir place
  have htaken := BridgeConfig.isTaken_configFileName
  obtain ⟨hplace, hstands⟩ := FileTree.get?_rootWithName htaken
  change place = [configFileName] at hplace
  rw [← hplace] at hstands
  have hbeside := (FileTree.rootWithName configFileName).placeOf_temporaryPath_ne dir
    htaken.isFileName htaken.temporary
  refine ⟨by rw [hplace]; rfl, ?_⟩
  obtain ⟨t', e, hrun, hstays⟩ :=
    (FileTree.replacesWhole_replaceSteps [] hbeside.symm).exists_failed hstands
  refine ⟨t', e, ?_, hstays⟩
  rw [BridgeConfig.save, BridgeConfig.validate_default, BridgeConfig.saveSteps_eq]
  simp only [runSteps, FileOp.run, dir, FileTree.makeDirs_throughName htaken]
  exact hrun

end WebviewBridge
