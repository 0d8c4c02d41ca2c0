import WebviewBridge.App.Run
import WebviewBridge.Proofs.Config.Settings
import WebviewBridge.Proofs.Handshake.Dialing
import WebviewBridge.Proofs.Host.Stored

/-!
# A launcher gets in

Once the application has started, the connection file says on which port it listens and with which
token (`RunningApp.IsReachable.read_eq`), and the address made of both is the one under which it is
reached.  Main statement: `RunningApp.start_isReachable`.
-/

namespace WebviewBridge

open Json

/-! ## The connection file -/

namespace ConnectionInfo

variable {i : ConnectionInfo} {t t' : FileTree} {dir : String}

/-- **The connection file is read as the information that was written.** -/
theorem parse_fileText (i : ConnectionInfo) : readText layout.read i.fileText = .ok i := by
  obtain ⟨port, ⟨token⟩⟩ := i
  have hport := (reads_readUInt16 port 126).map fun x (d : Draft) => { d with port := some x }
  have htoken := (reads_textValue token 126).map fun x (d : Draft) =>
    { d with token := some x }
  have hgathers : layout.Gathers 126 {} (members ⟨port, ⟨token⟩⟩) ⟨some port, some token⟩ :=
    .field (f := layout.fields[0]) rfl rfl hport <|
      .field (f := layout.fields[1]) rfl rfl htoken (.nil _)
  exact (hgathers.reads rfl).readText (Value.isText_prettyChars 0 _)

lemma isFileName : FilePath.IsFileName connectionFileName := by
  constructor <;> decide

lemma isFileName_temporary : FilePath.IsFileName (temporaryPath connectionFileName) := by
  constructor <;> decide

/-- A connection file that was written stands in the directory. -/
lemma holds_of_write (h : i.write t dir = (t', .ok ())) :
    t'.Holds (filePath dir) i.fileText.toUTF8 :=
  FileTree.holds_of_replaceSteps h

/-- A connection file that stands in the directory is read, unless the system is against it. -/
lemma read_of_holds (h : t.Holds (filePath dir) i.fileText.toUTF8)
    (hallow : t.hindrance? (.read (t.placeOf (filePath dir))) = none) : read t dir = .ok i := by
  rw [read]
  simp only [h.readText (FilePath.endsInSlash_join dir isFileName) hallow, parse_fileText]

/-- The connection file and the stored submission are two files, also of one directory. -/
lemma placeOf_filePath_ne (t : FileTree) (dir : String) :
    t.placeOf (filePath dir) ≠ t.placeOf (SubmissionCache.path ⟨dir⟩) := by
  obtain ⟨base, hbase⟩ := t.exists_placeOf_join dir
  rw [filePath, hbase _ isFileName, SubmissionCache.path,
    hbase _ SubmissionCache.isFileName_fileName]
  intro h
  have hname : connectionFileName = SubmissionCache.fileName := by simpa using h
  exact absurd hname (by decide)

end ConnectionInfo

/-! ## Replaying at the start -/

/-- A replay does no more to the files than to remove that of the record. -/
lemma Creator.files_replay (c : Creator) (remove : Bool) (h : Host) (s : Session) :
    ((c.replay remove).runOn h s).1.files = h.files ∨
      h.files.remove c.cache.path = .ok ((c.replay remove).runOn h s).1.files := by
  have hcleared {t : FileTree} {r : Except HostError Unit}
      (hleft : c.leftovers remove h.files = (t, r)) :
      t = h.files ∨ h.files.remove c.cache.path = .ok t := by
    rw [leftovers] at hleft
    split at hleft
    · rw [SubmissionCache.cleared] at hleft
      split at hleft
      · next t' hremove =>
        cases hleft
        exact Or.inr hremove
      · cases hleft
        exact Or.inl rfl
    · cases hleft
      exact Or.inl rfl
  obtain ⟨h', outcome, hrun, hreplays⟩ := c.runOn_replay remove h s
  rw [hrun]
  cases hreplays with
  | carriedOut _ _ _ hleft => exact hcleared hleft
  | notKept _ hleft => exact hcleared hleft
  | nothing _ _ hleft => exact hcleared hleft
  | notLoaded _ => exact Or.inl rfl
  | notRemoved hleft => exact Or.inl rfl

/-- So it touches no other file. -/
lemma Creator.spares_replay (c : Creator) (remove : Bool) (h : Host) (s : Session) {path : String}
    (hne : h.files.placeOf path ≠ h.files.placeOf c.cache.path) :
    FileTree.Spares path h.files ((c.replay remove).runOn h s).1.files := by
  rcases c.files_replay remove h s with hsame | hremove
  · rw [hsame]
    exact .refl _ _
  · exact ⟨_, FileTree.changesOnly_remove hremove, by simpa using hne⟩

lemma Creator.hindrance?_replay (c : Creator) (remove : Bool) (h : Host) (s : Session) :
    ((c.replay remove).runOn h s).1.files.hindrance? = h.files.hindrance? := by
  rcases c.files_replay remove h s with hsame | hremove
  · rw [hsame]
  · rw [(FileTree.exists_of_remove hremove).2]
    rfl

/-! ## The start -/

/-- What happened to the files of a host. -/
lemma Host.exists_of_withFiles {ε : Type} {h h' : Host}
    {f : FileTree → FileTree × Except ε Unit} {r : Except ε Unit}
    (hf : h.withFiles f = (h', r)) : f h.files = (h'.files, r) := by
  cases hf
  rfl

namespace BridgeHost

/-- A host that has started listens on the port that was bound, and takes the token of its
configuration or a fresh one. -/
lemma exists_of_start {config : BridgeConfig} {creator : Creator} {s : Surroundings}
    {host host' : Host} {b : BridgeHost} (h : start config creator s host = (host', .ok b)) :
    s.bind config.host.port = .ok b.port ∧ b.token = config.host.authToken.getD s.freshToken ∧
      b.creator = creator := by
  rw [start] at h
  cases htoken : config.host.authToken <;> cases hbind : s.bind config.host.port <;>
    simp only [htoken, hbind] at h <;> cases h <;> exact ⟨rfl, rfl, rfl⟩

/-- The answer of a running host is that to its own token. -/
lemma upgrade_answer (b : BridgeHost) (target : String) :
    (b.upgrade target).2.1 = .ofTarget b.token target.toList := by
  rw [upgrade]
  cases UpgradeAnswer.ofTarget b.token target.toList <;> rfl

end BridgeHost

namespace RunningApp

/-- The application can be reached by those who know its token, and by nobody else. -/
structure IsReachable (a : RunningApp) (t : FileTree) : Prop where
  /-- The connection file says how, to those who may read it. -/
  read_eq (hallow : t.hindrance? (.read (t.placeOf (ConnectionInfo.filePath a.paths.dataDir))) =
    none) : ConnectionInfo.read t a.paths.dataDir = .ok ⟨a.bridge.port, ⟨a.bridge.token⟩⟩
  /-- The target of an address is well-formed, whatever the token in it. -/
  isWellFormed (port : Nat) (token : String) :
    RequestTarget.isWellFormed (pathAndQuery (bridgeUrl port token)) = true
  accepted_iff (port : Nat) (token : String) :
    UpgradeAnswer.ofTarget a.bridge.token (pathAndQuery (bridgeUrl port token)) = .accepted ↔
      token = a.bridge.token
  /-- Who dials what the connection file says is let in. -/
  letIn (i : ConnectionInfo) (hread : ConnectionInfo.read t a.paths.dataDir = .ok i)
    (hallow : t.hindrance? (.read (t.placeOf (ConnectionInfo.filePath a.paths.dataDir))) = none) :
    (a.bridge.upgrade (String.ofList
      (pathAndQuery (bridgeUrl i.port.toNat i.token.expose)))).2.1 = .accepted

/-- Carrying out the stored submission changes nothing but what the connections share. -/
lemma replayStored_eq (b : BridgeHost) :
    ∃ log, replayStored b =
      { b with host := { ((b.creator.replay true).runOn b.host default).1 with log } } := by
  rw [replayStored, BridgeHost.replay, BridgeHost.run, Handling.runOn]
  rcases Procedure.run (ExceptT.run (b.creator.replay true)) b.host default with ⟨h, s, outcome⟩
  exact ⟨_, rfl⟩

/-- It is enough that the connection file is there. -/
lemma isReachable_of_holds {a : RunningApp} {t : FileTree}
    (h : t.Holds (ConnectionInfo.filePath a.paths.dataDir)
      (connectionInfo a.bridge).fileText.toUTF8) : a.IsReachable t := by
  refine ⟨ConnectionInfo.read_of_holds h, ?_, ?_, ?_⟩
  · intro port token
    rw [pathAndQuery_bridgeUrl]
    exact RequestTarget.isWellFormed_bridgeTarget token
  · exact fun port token => UpgradeAnswer.ofTarget_bridgeUrl port a.bridge.token token
  · intro i hread hallow
    rw [ConnectionInfo.read_of_holds h hallow] at hread
    cases hread
    rw [BridgeHost.upgrade_answer, String.toList_ofList, UpgradeAnswer.ofTarget_bridgeUrl]
    rfl

/-- A start is an attempt, without what it leaves of the bridge host. -/
lemma exists_of_start {paths : HostPaths} {config : BridgeConfig} {planner : Planner}
    {home : Option String} {s : Surroundings} {host host' : Host}
    {outcome : Except AppError RunningApp}
    (h : start paths config planner home s host = (host', outcome)) :
    ∃ bridge?, launch paths config planner home s host = ⟨host', bridge?, outcome⟩ := by
  cases h
  exact ⟨_, rfl⟩

/-- **An application that has started can be reached by those who know its token, and by nobody
else**; its port is the one that was bound, and its token that of the configuration, or a fresh one
where that has none. -/
theorem start_isReachable {paths : HostPaths} {config : BridgeConfig} {planner : Planner}
    {home : Option String} {s : Surroundings} {host host' : Host} {a : RunningApp}
    (h : start paths config planner home s host = (host', .ok a)) :
    s.bind config.host.port = .ok a.bridge.port ∧
      a.bridge.token = config.host.authToken.getD s.freshToken ∧ a.paths = paths ∧
      a.IsReachable host'.files := by
  obtain ⟨bridge?, hlaunch⟩ := exists_of_start h
  rw [launch] at hlaunch
  split at hlaunch
  · cases hlaunch
  split at hlaunch
  · cases hlaunch
  · next b hstart =>
    obtain ⟨hbind, htoken, hcreator⟩ := BridgeHost.exists_of_start hstart
    split at hlaunch
    · cases hlaunch
    · next host₂ hwrite =>
      have hholds := ConnectionInfo.holds_of_write (Host.exists_of_withFiles hwrite)
      simp only at hlaunch
      generalize hnoted : host₂.note _ = host₃ at hlaunch
      have hfiles : host₃.files = host₂.files := by
        rw [← hnoted]
        rfl
      rw [← hfiles] at hholds
      -- replaying the stored submission leaves the connection file alone
      obtain ⟨log, hreplay⟩ := replayStored_eq { b with host := host₃ }
      have hne : host₃.files.placeOf (ConnectionInfo.filePath paths.dataDir) ≠
          host₃.files.placeOf b.creator.cache.path := by
        rw [hcreator]
        exact ConnectionInfo.placeOf_filePath_ne _ paths.dataDir
      have hspares := Creator.spares_replay b.creator true host₃ default hne
      rw [hreplay] at hlaunch
      cases hlaunch
      exact ⟨hbind, htoken, rfl, isReachable_of_holds (hspares.holds hholds)⟩

/-- An application in an empty root, with a token that has to be escaped. -/
theorem start_isReachable_root :
    let config : BridgeConfig := { host := { authToken := some "a b&" } }
    let s : Surroundings :=
      { bind := .ok, freshToken := "f", freshSessions := fun _ => ⟨"s"⟩ }
    ∃ host' a, start ⟨"", "", ""⟩ config .unconfigured none s {} = (host', .ok a) ∧
      ConnectionInfo.read host'.files "" = .ok ⟨19876, ⟨"a b&"⟩⟩ ∧
      UpgradeAnswer.ofTarget "a b&" (pathAndQuery (bridgeUrl 19876 "a b&")) = .accepted ∧
      UpgradeAnswer.ofTarget "a b&" (pathAndQuery (bridgeUrl 19876 "a b")) ≠ .accepted := by
  intro config s
  have hstart : ∃ host' a, start ⟨"", "", ""⟩ config .unconfigured none s {} = (host', .ok a) ∧
      host'.files.hindrance? = fun _ => none := by
    have hwrite (i : ConnectionInfo) : i.write FileTree.empty "" =
        ({ entries := [([connectionFileName], .file i.fileText.toUTF8 ownerMode)] }, .ok ()) := by
      have hpath : ConnectionInfo.filePath "" = connectionFileName :=
        FilePath.join_empty ConnectionInfo.isFileName
      rw [ConnectionInfo.write, ConnectionInfo.writeSteps, hpath]
      exact FileTree.runSteps_replaceSteps_empty ConnectionInfo.isFileName
        ConnectionInfo.isFileName_temporary (by simp [connectionFileName])
        (by simp [temporaryPath, connectionFileName]) (by decide) (by decide)
    have hensure : Host.withFiles {} (HostPaths.ensure ⟨"", "", ""⟩) = ({}, .ok ()) := rfl
    rw [start, launch, hensure]
    simp only [BridgeHost.start, config, s, Host.withFiles, Host.note, hwrite]
    refine ⟨_, _, rfl, ?_⟩
    obtain ⟨log, hreplay⟩ := replayStored_eq _
    rw [hreplay]
    exact (Creator.hindrance?_replay _ true _ default).trans rfl
  obtain ⟨host', a, hstart, hindrance⟩ := hstart
  obtain ⟨hport, htoken, hpaths, hreachable⟩ := start_isReachable hstart
  have hdir : a.paths.dataDir = "" := by rw [hpaths]
  have hread := hreachable.read_eq (by rw [hindrance])
  rw [hdir, htoken, ← Except.ok.inj hport] at hread
  have haccepted := hreachable.accepted_iff 19876
  rw [htoken] at haccepted
  exact ⟨host', a, hstart, hread, (haccepted _).2 rfl,
    fun h => absurd ((haccepted _).1 h) (by decide)⟩

end RunningApp

end WebviewBridge
