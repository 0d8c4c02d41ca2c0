import WebviewBridge.Proofs.App.Writers
import WebviewBridge.Proofs.Host.Turns

/-!
# What a start leaves behind

A start makes directories, binds a port, writes the connection file and carries out the stored
submission, in this order.  If one of the first three fails, the start fails and nothing was done to
the connection file and to that of the stored submission; a host that was started all the same is
stopped again.  What becomes of the stored submission fails no start.  When the application stops,
the connection file goes away.

Main statement: `RunningApp.start_isClean`.  One thing can come of a failure where a file was
missing: a directory, if the way to the runtime data leads through the file's own name
(`RunningApp.launch_throughOwnName`).
-/

namespace WebviewBridge

open Json

/-! ## The file of the stored submission -/

namespace SubmissionCache

variable {k : SubmissionCache} {t t' : FileTree}

/-- A file that can be removed was not passed over when the record was loaded. -/
lemma loaded_ne_of_remove (h : t.remove k.path = .ok t') : k.loaded t ≠ .ok none :=
  fun hload => FileTree.readText_ne_notFound h (loaded_eq_none_iff.1 hload)

end SubmissionCache

namespace Creator

variable {c : Creator} {h : Host} {s : Session}

/-- A replay that finds no record to be loaded does nothing. -/
lemma runOn_replay_of_error {e : HostError} (hload : c.cache.loaded h.files = .error e)
    (remove : Bool) : (c.replay remove).runOn h s = (h, s, .error e) :=
  Handling.runOn_bind_of_error (runOn_takeFresh_of_error hload remove)

/-- A corrupt file is left in place. -/
lemma files_replay_of_isCorrupt (hcorrupt : c.cache.IsCorrupt h.files) (remove : Bool) :
    ((c.replay remove).runOn h s).1.files = h.files := by
  cases hload : c.cache.loaded h.files with
  | error e => rw [runOn_replay_of_error hload]
  | ok stored =>
    rcases c.files_replay remove h s with hsame | hremove
    · exact hsame
    · cases stored with
      | none => exact absurd hload (SubmissionCache.loaded_ne_of_remove hremove)
      | some r => exact absurd hload (hcorrupt.loaded_ne r)

/-- A record that could be loaded and removed is gone after a replay, whether it was fresh or
not. -/
lemma files_replay_of_loaded {r : CachedSubmission} {t : FileTree}
    (hload : c.cache.loaded h.files = .ok (some r))
    (hremove : h.files.remove c.cache.path = .ok t) : ((c.replay true).runOn h s).1.files = t := by
  have hleft : c.leftovers true h.files = (t, .ok ()) := by
    rw [leftovers, if_pos rfl, SubmissionCache.cleared, hremove]
  obtain ⟨h', outcome, hrun, hreplays⟩ := c.runOn_replay true h s
  rw [hrun]
  cases hreplays with
  | carriedOut _ _ _ h' | notKept _ h' | nothing _ _ h' =>
    rw [hleft] at h'
    cases h'
    rfl
  | notLoaded h' =>
    rw [hload] at h'
    cases h'
  | notRemoved h' =>
    rw [hleft] at h'
    cases h'

end Creator

/-! ## The start -/

namespace HostPaths

/-- Where the connection file stands. -/
abbrev connectionPath (p : HostPaths) : String := ConnectionInfo.filePath p.dataDir

/-- Where the stored submission stands. -/
abbrev cache (p : HostPaths) : SubmissionCache := ⟨p.dataDir⟩

/-- The places where the directories of the host are made, with those above them. -/
def made (p : HostPaths) (t : FileTree) : List Place :=
  ([p.configDir, p.logDir, p.dataDir].flatMap FileTree.lineage).map t.placeOf

/-- To make directories is to touch nothing. -/
lemma untouched_runSteps_ensureStep (dirs : List String) (q : Place) (t : FileTree) :
    FileTree.Untouched ((dirs.flatMap FileTree.lineage).map t.placeOf) q t
      (runSteps (dirs.map ensureStep) t).1 := by
  induction dirs generalizing t with
  | nil => exact .refl _ q t
  | cons dir dirs ih =>
    have hdir := t.untouched_makeDirs dir q
    rw [List.flatMap_cons, List.map_append, List.map_cons, runSteps, ensureStep, FileOp.run]
    split
    · next t₁ heq =>
      rw [heq] at hdir
      have hrest := ih t₁
      rw [funext hdir.placeOf] at hrest
      exact (hdir.mono (List.subset_append_left _ _)).trans
        (hrest.mono (List.subset_append_right _ _))
    · next heq =>
      rw [heq] at hdir
      exact hdir.mono (List.subset_append_left _ _)

lemma untouched_ensure (p : HostPaths) (q : Place) (t : FileTree) :
    FileTree.Untouched (p.made t) q t (p.ensure t).1 :=
  untouched_runSteps_ensureStep _ q t

end HostPaths

namespace ConnectionInfo

/-- The stored submission is not the file beside the connection file. -/
lemma placeOf_temporaryPath_ne (t : FileTree) (dir : String) :
    t.placeOf (SubmissionCache.path ⟨dir⟩) ≠ t.placeOf (temporaryPath (filePath dir)) := by
  obtain ⟨base, hbase⟩ := t.exists_placeOf_join dir
  rw [filePath, FilePath.temporaryPath_join dir isFileName isFileName_temporary,
    hbase _ isFileName_temporary, SubmissionCache.path, hbase _ SubmissionCache.isFileName_fileName]
  intro h
  have hname : SubmissionCache.fileName = temporaryPath connectionFileName := by simpa using h
  exact absurd hname (by decide)

variable {i : ConnectionInfo} {t t' : FileTree} {dir : String} {made : List Place}

/-- To write the connection file is not to touch the stored submission. -/
lemma untouched_cache_write (i : ConnectionInfo) (made : List Place) (t : FileTree)
    (dir : String) :
    FileTree.Untouched made (t.placeOf (SubmissionCache.path ⟨dir⟩)) t (i.write t dir).1 :=
  FileTree.untouched_replaceSteps (placeOf_filePath_ne t dir).symm
    (placeOf_temporaryPath_ne t dir)

/-- A connection file that could not be written was not touched either. -/
lemma untouched_of_write {e : AppError} (h : i.write t dir = (t', .error e)) :
    FileTree.Untouched made (t.placeOf (filePath dir)) t t' :=
  FileTree.untouched_of_replaceSteps h
    (t.placeOf_temporaryPath_ne dir isFileName isFileName_temporary).symm

end ConnectionInfo

namespace BridgeHost

variable {config : BridgeConfig} {s : Surroundings} (creator : Creator) (host : Host)

/-- A host that starts listens on the port that was bound, and has no sessions yet. -/
lemma start_of_bind_ok {port : UInt16} (hbind : s.bind config.host.port = .ok port) :
    ∃ host' b, start config creator s host = (host', .ok b) ∧ b.port = port ∧
      b.token = config.host.authToken.getD s.freshToken ∧ b.creator = creator ∧
      b.connections = [] ∧ b.listening = true ∧ b.host.files = host.files := by
  rw [start]
  cases config.host.authToken <;> rw [hbind] <;>
    exact ⟨_, _, rfl, rfl, rfl, rfl, rfl, rfl, rfl⟩

lemma start_of_bind_error {e : IoError} (hbind : s.bind config.host.port = .error e) :
    ∃ host', start config creator s host = (host', .error (.ofIo e)) ∧
      host'.files = host.files := by
  rw [start]
  cases config.host.authToken <;> rw [hbind] <;> exact ⟨_, rfl, rfl⟩

end BridgeHost

namespace RunningApp

/-- What a start tells launchers. -/
def announced (config : BridgeConfig) (s : Surroundings) (port : UInt16) : ConnectionInfo :=
  ⟨port, ⟨config.host.authToken.getD s.freshToken⟩⟩

/-- What a start comes to. -/
inductive Starts (paths : HostPaths) (config : BridgeConfig) (planner : Planner)
    (home : Option String) (s : Surroundings) (host : Host) : Launched → Prop
  | notEnsured {host' : Host} {e : AppError}
      (hensure : paths.ensure host.files = (host'.files, .error e)) :
      Starts paths config planner home s host ⟨host', none, .error e⟩
  | notBound {host' : Host} {e : IoError}
      (hensure : paths.ensure host.files = (host'.files, .ok ()))
      (hbind : s.bind config.host.port = .error e) :
      Starts paths config planner home s host ⟨host', none, .error (.ofHost (.ofIo e))⟩
  /-- The host that was started is let go of. -/
  | notWritten {host' : Host} {b : BridgeHost} {t : FileTree} {port : UInt16} {e : AppError}
      (hensure : paths.ensure host.files = (t, .ok ())) (hbind : s.bind config.host.port = .ok port)
      (hwrite : (announced config s port).write t paths.dataDir = (host'.files, .error e)) :
      Starts paths config planner home s host ⟨host', some b.release, .error e⟩
  /-- The stored submission is dealt with once the connection file is written. -/
  | started {h : Host} {t : FileTree} {port : UInt16} {a : RunningApp}
      (hensure : paths.ensure host.files = (t, .ok ())) (hbind : s.bind config.host.port = .ok port)
      (hwrite : (announced config s port).write t paths.dataDir = (h.files, .ok ()))
      (hpaths : a.paths = paths) (hport : a.bridge.port = port)
      (htoken : a.bridge.token = config.host.authToken.getD s.freshToken)
      (hconnections : a.bridge.connections = []) (hlistening : a.bridge.listening = true)
      (hfiles : a.bridge.host.files =
        (((Creator.ofConfig config planner paths.dataDir home).replay true).runOn h
          default).1.files) :
      Starts paths config planner home s host ⟨a.bridge.host, some a.bridge, .ok a⟩

/-- **A start comes to one of four ends.** -/
theorem starts_launch (paths : HostPaths) (config : BridgeConfig) (planner : Planner)
    (home : Option String) (s : Surroundings) (host : Host) :
    Starts paths config planner home s host (launch paths config planner home s host) := by
  rw [launch]
  rcases hensure : host.withFiles paths.ensure with ⟨host₁, e | ⟨⟩⟩
  · exact .notEnsured (Host.exists_of_withFiles hensure)
  have hmade := Host.exists_of_withFiles hensure
  cases hbind : s.bind config.host.port with
  | error e =>
    obtain ⟨host₂, hstart, hfiles⟩ := BridgeHost.start_of_bind_error
      (.ofConfig config planner paths.dataDir home) host₁ hbind
    simp only [hstart]
    rw [← hfiles] at hmade
    exact .notBound hmade hbind
  | ok port =>
    obtain ⟨host₂, b, hstart, hport, htoken, hcreator, hconnections, hlistening, hfiles⟩ :=
      BridgeHost.start_of_bind_ok (.ofConfig config planner paths.dataDir home) host₁ hbind
    have hinfo : connectionInfo b = announced config s port := by
      rw [connectionInfo, announced, hport, htoken]
    simp only [hstart]
    rcases hwritten : b.host.withFiles ((connectionInfo b).write · paths.dataDir) with
      ⟨host₃, e | ⟨⟩⟩
    · have hwrite := Host.exists_of_withFiles hwritten
      rw [hinfo, hfiles] at hwrite
      exact .notWritten hmade hbind hwrite
    · have hwrite := Host.exists_of_withFiles hwritten
      rw [hinfo, hfiles] at hwrite
      simp only
      generalize hnoted : host₃.note _ = host₄
      have hsame : host₄.files = host₃.files := by
        rw [← hnoted]
        rfl
      rw [← hsame] at hwrite
      obtain ⟨log, hreplay⟩ := replayStored_eq { b with host := host₄ }
      refine .started (a := ⟨paths, replayStored { b with host := host₄ }⟩) hmade hbind hwrite rfl
        ?_ ?_ ?_ ?_ ?_ <;> simp only [hreplay]
      · exact hport
      · exact htoken
      · exact hconnections
      · exact hlistening
      · rw [← hcreator]

/-! ## The stop -/

/-- When the application stops, its connection file is removed if that is possible. -/
lemma files_stop (a : RunningApp) :
    (stop a).bridge.host.files = ConnectionInfo.remove a.bridge.host.files a.paths.dataDir := rfl

/-- A file that can be removed is gone. -/
lemma get?_stop {a : RunningApp} {t : FileTree}
    (h : a.bridge.host.files.remove (ConnectionInfo.filePath a.paths.dataDir) = .ok t) :
    (stop a).bridge.host.files.get?
      (a.bridge.host.files.placeOf (ConnectionInfo.filePath a.paths.dataDir)) = none := by
  obtain ⟨⟨content, mode, hfile⟩, herased⟩ := FileTree.exists_of_remove h
  rw [files_stop, ConnectionInfo.remove, FileOp.run, h]
  simp only [FileOp.run.settle, herased]
  exact FileTree.get?_erase_self (FileTree.ne_nil_of_get?_ne (FileTree.ne_directory_of_file hfile))

/-! ## What a start leaves behind -/

/-- A start that loses nothing. -/
structure IsClean (paths : HostPaths) (config : BridgeConfig) (s : Surroundings) (host : Host)
    (x : Launched) : Prop where
  /-- A start succeeds just if the directories can be made, the port can be bound and the connection
  file can be written; the stored submission has no say in it. -/
  succeeds_iff : (∃ a, x.outcome = .ok a) ↔ ∃ t port t',
    paths.ensure host.files = (t, .ok ()) ∧ s.bind config.host.port = .ok port ∧
      (announced config s port).write t paths.dataDir = (t', .ok ())
  /-- A bridge host is started just if the directories can be made and the port can be bound, -/
  bridge_iff : (∃ b, x.bridge? = some b) ↔ ∃ t port,
    paths.ensure host.files = (t, .ok ()) ∧ s.bind config.host.port = .ok port
  /-- and it listens afterwards just if the start succeeded. -/
  listening_iff : (∃ b, x.bridge? = some b ∧ b.listening = true) ↔ ∃ a, x.outcome = .ok a
  /-- If it did not, nobody is ever let in, whatever happens to the bridge host. -/
  shut : ∀ e, x.outcome = .error e → ∀ b, x.bridge? = some b → ∀ ts peer head packets,
    (b.after ts).connections = [] ∧ ((b.after ts).greet peer head packets).peer = .gone
  /-- A start that fails has touched neither the connection file nor the stored submission, except
  that one of its directories may come where nothing stood. -/
  failed : ∀ e, x.outcome = .error e →
    ∀ path ∈ [paths.connectionPath, paths.cache.path],
      FileTree.Untouched (paths.made host.files) (host.files.placeOf path) host.files x.host.files
  /-- After one that succeeds the connection file says on which port the host listens, and with
  which token. -/
  started : ∀ a, x.outcome = .ok a →
    s.bind config.host.port = .ok a.bridge.port ∧
      a.bridge.token = config.host.authToken.getD s.freshToken ∧ a.bridge.connections = [] ∧
      a.paths = paths ∧ x.bridge? = some a.bridge ∧ a.bridge.host = x.host ∧
      x.host.files.Holds paths.connectionPath (connectionInfo a.bridge).fileText.toUTF8
  /-- A record that could be read and removed is gone then, whether it was fresh or not. -/
  consumed : ∀ a, x.outcome = .ok a → ∀ r,
    paths.cache.loaded host.files = .ok (some r) →
    host.files.hindrance? (.remove (host.files.placeOf paths.cache.path)) = none →
    x.host.files.get? (host.files.placeOf paths.cache.path) = none
  /-- A corrupt one is left in place. -/
  corrupt : ∀ a, x.outcome = .ok a → paths.cache.IsCorrupt host.files →
    FileTree.Keeps (host.files.placeOf paths.cache.path) host.files x.host.files
  /-- Whatever became of the host meanwhile, nothing is left of it when the application stops, and
  no connection file if it can be removed. -/
  stopped : ∀ a, x.outcome = .ok a → ∀ b : BridgeHost,
    (stop { a with bridge := b }).bridge.connections = [] ∧
      (stop { a with bridge := b }).bridge.listening = false ∧
      ∀ t, b.host.files.remove paths.connectionPath = .ok t →
        (stop { a with bridge := b }).bridge.host.files.get?
          (b.host.files.placeOf paths.connectionPath) = none
  /-- If it stops at once, the connection file is gone unless the system is against it. -/
  removed : ∀ a, x.outcome = .ok a →
    host.files.hindrance? (.remove (host.files.placeOf paths.connectionPath)) = none →
    (stop a).bridge.host.files.get? (host.files.placeOf paths.connectionPath) = none

namespace Starts

variable {paths : HostPaths} {config : BridgeConfig} {planner : Planner} {home : Option String}
  {s : Surroundings} {host host' : Host} {bridge? : Option BridgeHost} {x : Launched}

lemma succeeds_iff (h : Starts paths config planner home s host x) :
    (∃ a, x.outcome = .ok a) ↔ ∃ t port t', paths.ensure host.files = (t, .ok ()) ∧
      s.bind config.host.port = .ok port ∧
        (announced config s port).write t paths.dataDir = (t', .ok ()) := by
  cases h with
  | started hensure hbind hwrite =>
    exact ⟨fun _ => ⟨_, _, _, hensure, hbind, hwrite⟩, fun _ => ⟨_, rfl⟩⟩
  | notEnsured hensure =>
    refine iff_of_false (not_exists_error_eq_ok _) ?_
    rintro ⟨t, port, t', hensure', _, _⟩
    rw [hensure] at hensure'
    cases hensure'
  | notBound _ hbind =>
    refine iff_of_false (not_exists_error_eq_ok _) ?_
    rintro ⟨t, port, t', _, hbind', _⟩
    rw [hbind] at hbind'
    cases hbind'
  | notWritten hensure hbind hwrite =>
    refine iff_of_false (not_exists_error_eq_ok _) ?_
    rintro ⟨t, port, t', hensure', hbind', hwrite'⟩
    rw [hensure] at hensure'
    rw [hbind] at hbind'
    cases hensure'
    cases hbind'
    rw [hwrite] at hwrite'
    cases hwrite'

lemma bridge_iff (h : Starts paths config planner home s host x) :
    (∃ b, x.bridge? = some b) ↔ ∃ t port,
      paths.ensure host.files = (t, .ok ()) ∧ s.bind config.host.port = .ok port := by
  cases h with
  | started hensure hbind | notWritten hensure hbind =>
    exact ⟨fun _ => ⟨_, _, hensure, hbind⟩, fun _ => ⟨_, rfl⟩⟩
  | notEnsured hensure =>
    refine iff_of_false (by simp) ?_
    rintro ⟨t, port, hensure', _⟩
    rw [hensure] at hensure'
    cases hensure'
  | notBound _ hbind =>
    refine iff_of_false (by simp) ?_
    rintro ⟨t, port, _, hbind'⟩
    rw [hbind] at hbind'
    cases hbind'

/-- A host that was started although the start failed is stopped again. -/
lemma isShut {e : AppError} {b : BridgeHost}
    (h : Starts paths config planner home s host ⟨host', some b, .error e⟩) : b.IsShut := by
  cases h
  exact BridgeHost.isShut_release _

/-- A start that fails has touched neither of the two files. -/
lemma untouched_of_error {e : AppError}
    (h : Starts paths config planner home s host ⟨host', bridge?, .error e⟩) {path : String}
    (hpath : path ∈ [paths.connectionPath, paths.cache.path]) :
    FileTree.Untouched (paths.made host.files) (host.files.placeOf path) host.files
      host'.files := by
  have hmade := paths.untouched_ensure (host.files.placeOf path) host.files
  cases h with
  | notEnsured hensure | notBound hensure _ =>
    rw [hensure] at hmade
    exact hmade
  | @notWritten _ _ t port _ hensure _ hwrite =>
    rw [hensure] at hmade
    refine hmade.trans ?_
    rw [← hmade.placeOf]
    rcases List.mem_pair.1 hpath with rfl | rfl
    · exact ConnectionInfo.untouched_of_write hwrite
    · have hcache := (announced config s port).untouched_cache_write
        (paths.made host.files) t paths.dataDir
      rw [hwrite] at hcache
      exact hcache

end Starts

section Replaying

variable {paths : HostPaths} {host h : Host} {t : FileTree} {i : ConnectionInfo}
  (hensure : paths.ensure host.files = (t, .ok ()))
  (hwrite : i.write t paths.dataDir = (h.files, .ok ()))

include hensure hwrite

/-- Nobody has touched the stored submission when it is its turn. -/
lemma untouched_of_written :
    FileTree.Untouched (paths.made host.files) (host.files.placeOf paths.cache.path) host.files
      h.files := by
  have hmade := paths.untouched_ensure (host.files.placeOf paths.cache.path) host.files
  have hcache := i.untouched_cache_write (paths.made host.files) t paths.dataDir
  rw [hensure] at hmade
  rw [hwrite, hmade.placeOf] at hcache
  exact hmade.trans hcache

lemma spares_of_written :
    FileTree.Spares paths.cache.path host.files h.files := by
  have hdirs := changesOnly_runSteps paths.ensureSteps host.files
  have hfile := changesOnly_runSteps (i.writeSteps paths.dataDir) t
  change FileTree.ChangesOnly _ host.files (paths.ensure host.files).1 at hdirs
  change FileTree.ChangesOnly _ t (i.write t paths.dataDir).1 at hfile
  rw [hensure] at hdirs
  rw [hwrite] at hfile
  refine FileTree.Spares.trans ⟨_, hdirs, List.not_mem_nil⟩ ⟨_, hfile, ?_⟩
  have hbeside := ConnectionInfo.placeOf_temporaryPath_ne t paths.dataDir
  have hpath := (ConnectionInfo.placeOf_filePath_ne t paths.dataDir).symm
  simpa [ConnectionInfo.writeSteps, FileOp.places] using ⟨hbeside, hpath⟩

/-- A record that could be loaded before the start is loaded when it is its turn, and removed if
the system lets it go. -/
lemma exists_remove_of_loaded {r : CachedSubmission}
    (hload : paths.cache.loaded host.files = .ok (some r))
    (hallow : host.files.hindrance? (.remove (host.files.placeOf paths.cache.path)) = none) :
    paths.cache.loaded h.files = .ok (some r) ∧
      ∃ t', h.files.remove paths.cache.path = .ok t' := by
  have huntouched := untouched_of_written hensure hwrite
  obtain ⟨text, htext, hparse⟩ := SubmissionCache.loaded_eq_some_iff.1 hload
  obtain ⟨hholds, hread⟩ := FileTree.holds_of_readText htext
  have hholds' := (spares_of_written hensure hwrite).holds hholds
  rw [← huntouched.hindrance, ← huntouched.placeOf] at hread hallow
  exact ⟨SubmissionCache.loaded_of_holds hholds' hparse hread,
    hholds'.exists_remove (SubmissionCache.endsInSlash_path _) hallow⟩

end Replaying

namespace Starts

variable {paths : HostPaths} {config : BridgeConfig} {planner : Planner} {home : Option String}
  {s : Surroundings} {host host' : Host} {bridge? : Option BridgeHost} {a : RunningApp}

lemma consumed
    (h : Starts paths config planner home s host ⟨host', bridge?, .ok a⟩) {r : CachedSubmission}
    (hload : paths.cache.loaded host.files = .ok (some r))
    (hallow : host.files.hindrance? (.remove (host.files.placeOf paths.cache.path)) = none) :
    host'.files.get? (host.files.placeOf paths.cache.path) = none := by
  cases h with
  | started hensure _ hwrite _ _ _ _ _ hfiles =>
    obtain ⟨hload', t', hremove⟩ := exists_remove_of_loaded hensure hwrite hload hallow
    rw [hfiles, Creator.files_replay_of_loaded (c := .ofConfig config planner paths.dataDir home)
      hload' hremove]
    obtain ⟨⟨content, mode, hfile⟩, rfl⟩ := FileTree.exists_of_remove hremove
    rw [← (untouched_of_written hensure hwrite).placeOf]
    exact FileTree.get?_erase_self
      (FileTree.ne_nil_of_get?_ne (FileTree.ne_directory_of_file hfile))

lemma keeps_of_isCorrupt
    (h : Starts paths config planner home s host ⟨host', bridge?, .ok a⟩)
    (hcorrupt : paths.cache.IsCorrupt host.files) :
    FileTree.Keeps (host.files.placeOf paths.cache.path) host.files host'.files := by
  cases h with
  | @started h _ _ _ hensure _ hwrite _ _ _ _ _ hfiles =>
    have huntouched := untouched_of_written hensure hwrite
    have hcorrupt' : paths.cache.IsCorrupt h.files := by
      rw [SubmissionCache.IsCorrupt, huntouched.placeOf, huntouched.keeps.content]
      exact hcorrupt
    rw [hfiles, Creator.files_replay_of_isCorrupt
      (c := .ofConfig config planner paths.dataDir home) hcorrupt']
    exact huntouched.keeps

/-- After the start the connection file stands where it belongs. -/
lemma holds
    (h : Starts paths config planner home s host ⟨host', bridge?, .ok a⟩) :
    host'.files.Holds paths.connectionPath (connectionInfo a.bridge).fileText.toUTF8 := by
  cases h with
  | @started h _ _ _ _ _ hwrite _ hport htoken _ _ hfiles =>
    have hspares := (Creator.ofConfig config planner paths.dataDir home).spares_replay true h
      default (ConnectionInfo.placeOf_filePath_ne h.files paths.dataDir)
    rw [connectionInfo, hport, htoken, hfiles]
    exact hspares.holds (ConnectionInfo.holds_of_write hwrite)

/-- What the system is against is the same before and after the start, and so is where paths
lead. -/
lemma hindrance?_and_placeOf_eq
    (h : Starts paths config planner home s host ⟨host', bridge?, .ok a⟩)
    (path : String) : host'.files.hindrance? = host.files.hindrance? ∧
      host'.files.placeOf path = host.files.placeOf path := by
  cases h with
  | @started h _ _ _ hensure _ hwrite _ _ _ _ _ hfiles =>
    have huntouched := untouched_of_written hensure hwrite
    have hhindrance := (Creator.ofConfig config planner paths.dataDir home).hindrance?_replay true h
      default
    rw [hfiles, hhindrance, ← huntouched.hindrance, ← huntouched.placeOf]
    refine ⟨rfl, ?_⟩
    rcases (Creator.ofConfig config planner paths.dataDir home).files_replay true h default with
      hsame | hremove
    · rw [hsame]
    · exact (FileTree.changesOnly_remove hremove).placeOf path

/-- If the application stops at once, its connection file is gone unless the system is against
it. -/
lemma get?_stop
    (h : Starts paths config planner home s host ⟨host', bridge?, .ok a⟩)
    (hallow : host.files.hindrance? (.remove (host.files.placeOf paths.connectionPath)) = none) :
    (stop a).bridge.host.files.get? (host.files.placeOf paths.connectionPath) = none := by
  have hholds := h.holds
  obtain ⟨hhindrance, hplace⟩ :=
    h.hindrance?_and_placeOf_eq paths.connectionPath
  rw [← hhindrance, ← hplace] at hallow
  obtain ⟨t, hremove⟩ := hholds.exists_remove
    (FilePath.endsInSlash_join paths.dataDir ConnectionInfo.isFileName) hallow
  rw [← hplace]
  cases h with
  | started _ _ _ hpaths =>
    rw [← hpaths] at hremove ⊢
    exact RunningApp.get?_stop hremove

end Starts

/-- **A start loses nothing.**  If it fails, nobody has touched the connection file and the stored
submission, and a host that was started all the same lets nobody in any more; if it succeeds, the
connection file says how the host is reached, and the stored submission is gone if it could be read
and removed, while a corrupt one is left in place.  When the application stops, it leaves no session
and no connection file. -/
theorem start_isClean (paths : HostPaths) (config : BridgeConfig) (planner : Planner)
    (home : Option String) (s : Surroundings) (host : Host) :
    IsClean paths config s host (launch paths config planner home s host) := by
  have hstarts := starts_launch paths config planner home s host
  generalize launch paths config planner home s host = x at hstarts ⊢
  obtain ⟨host', bridge?, outcome⟩ := x
  constructor <;> simp only
  case succeeds_iff => exact hstarts.succeeds_iff
  case bridge_iff => exact hstarts.bridge_iff
  case listening_iff =>
    cases hstarts with
    | started _ _ _ _ _ _ _ hlistening =>
      exact ⟨fun _ => ⟨_, rfl⟩, fun _ => ⟨_, rfl, hlistening⟩⟩
    | notWritten =>
      refine iff_of_false ?_ (not_exists_error_eq_ok _)
      rintro ⟨b, hb, hlistening⟩
      cases hb
      cases hlistening
    | notEnsured | notBound => simp
  case shut =>
    rintro e rfl b rfl ts peer head packets
    have hshut := hstarts.isShut.after ts
    exact ⟨hshut.connections, by rw [hshut.greet]⟩
  case failed =>
    rintro e rfl path hpath
    exact hstarts.untouched_of_error hpath
  case started =>
    rintro a rfl
    have hholds := hstarts.holds
    cases hstarts with
    | started _ hbind _ hpaths hport htoken hconnections =>
      rw [hport]
      exact ⟨hbind, htoken, hconnections, hpaths, rfl, rfl, hholds⟩
  case consumed =>
    rintro a rfl r hload hallow
    exact hstarts.consumed hload hallow
  case corrupt =>
    rintro a rfl hcorrupt
    exact hstarts.keeps_of_isCorrupt hcorrupt
  case stopped =>
    rintro a rfl b
    refine ⟨rfl, rfl, fun t hremove => ?_⟩
    cases hstarts with
    | started _ _ _ hpaths =>
      rw [← hpaths] at hremove ⊢
      exact get?_stop (a := { a with bridge := b }) hremove
  case removed =>
    rintro a rfl hallow
    exact hstarts.get?_stop hallow

/-- An empty root, in which the way to the runtime data goes through the name of the connection
file: the start fails, and a directory stands where nothing stood. -/
theorem launch_throughOwnName :
    let paths : HostPaths := ⟨"", "", connectionFileName ++ "/.."⟩
    let s : Surroundings :=
      { bind := .ok, freshToken := "f", freshSessions := fun _ => ⟨"s"⟩ }
    let x := launch paths {} .unconfigured none s {}
    let place := FileTree.empty.placeOf paths.connectionPath
    FileTree.empty.get? place = none ∧ (∃ e, x.outcome = .error e) ∧
      x.host.files.get? place = some .directory := by
  intro paths s x place
  have htaken : FilePath.IsTaken connectionFileName :=
    ⟨ConnectionInfo.isFileName, ConnectionInfo.isFileName_temporary, by decide, by decide⟩
  obtain ⟨hplace, hstands⟩ := FileTree.get?_rootWithName htaken
  have hensure : paths.ensure FileTree.empty =
      (FileTree.rootWithName connectionFileName, .ok ()) := by
    have hdir := FileTree.makeDirs_throughName htaken
    have hnone : FileTree.empty.makeDirs "" = (FileTree.empty, .ok ()) := rfl
    simp only [HostPaths.ensure, HostPaths.ensureSteps, HostPaths.ensureStep, paths, runSteps,
      FileOp.run, hnone, hdir]
  change place = [connectionFileName] at hplace
  rw [← hplace] at hstands
  have hwrite (i : ConnectionInfo) : ∃ t' e,
      i.write (FileTree.rootWithName connectionFileName) paths.dataDir = (t', .error e) ∧
        t'.get? place = some .directory :=
    (i.replacesWhole_writeSteps _ paths.dataDir).exists_failed hstands
  have hstarts := starts_launch paths {} .unconfigured none s {}
  change Starts _ _ _ _ _ _ x at hstarts
  refine ⟨by rw [hplace]; rfl, ?_⟩
  generalize x = x' at hstarts
  cases hstarts with
  | notEnsured h =>
    rw [hensure] at h
    cases congrArg Prod.snd h
  | notBound _ hbind => cases hbind
  | notWritten h _ hwritten =>
    rw [hensure] at h
    cases h
    obtain ⟨t', e, hfailed, hstays⟩ := hwrite (announced {} s _)
    rw [hwritten] at hfailed
    cases hfailed
    exact ⟨⟨_, rfl⟩, hstays⟩
  | started h _ hwritten =>
    rw [hensure] at h
    cases h
    obtain ⟨t', e, hfailed, -⟩ := hwrite (announced {} s _)
    rw [hwritten] at hfailed
    cases hfailed

end RunningApp

end WebviewBridge
