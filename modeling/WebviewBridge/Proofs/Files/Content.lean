import WebviewBridge.Proofs.Files.Places

/-!
# What operations do to files

Each operation names the places whose content it may change (`FileOp.places`), and leaves all other
files, and all directories, where they are (`FileOp.changesOnly_run`); so do steps one after another
(`changesOnly_runSteps`).  What succeeds has done what it is for: a file that was written holds the
bytes (`FileTree.content?_write`), a file that was renamed has the content of the other
(`FileTree.content?_rename`), and one that was removed is gone (`FileTree.content?_remove`).
-/

namespace WebviewBridge

namespace FileTree

variable {t t' t'' : FileTree} {p q : Place} {path : String}

/-! ## Entries -/

lemma lookup_filter_ne (h : q ≠ p) (es : List (Place × Entry)) :
    (es.filter (·.1 ≠ p)).lookup q = es.lookup q := by
  induction es with
  | nil => rfl
  | cons e es ih =>
    obtain ⟨k, x⟩ := e
    by_cases hk : k = p
    · subst hk
      have hq : (q == k) = false := by simpa using h
      rw [List.filter_cons_of_neg (by simp), ih, List.lookup_cons, hq]
    · rw [List.filter_cons_of_pos (by simpa using hk), List.lookup_cons, List.lookup_cons, ih]

lemma lookup_filter_self (es : List (Place × Entry)) : (es.filter (·.1 ≠ p)).lookup p = none := by
  rw [List.lookup_eq_none_iff]
  intro e he
  simpa using Ne.symm (by simpa using (List.mem_filter.1 he).2 : e.1 ≠ p)

lemma get?_put_self (hp : p ≠ []) (e : Entry) : (t.put p e).get? p = some e := by
  rw [get?, if_neg hp, put, List.lookup_cons_self]

lemma get?_put_of_ne (h : q ≠ p) (e : Entry) : (t.put p e).get? q = t.get? q := by
  have hq : (q == p) = false := by simpa using h
  rw [get?, get?, put]
  simp only [List.lookup_cons, hq, lookup_filter_ne h]

lemma get?_erase_self (hp : p ≠ []) : (t.erase p).get? p = none := by
  rw [get?, if_neg hp, erase, lookup_filter_self]

lemma get?_erase_of_ne (h : q ≠ p) : (t.erase p).get? q = t.get? q := by
  rw [get?, get?, erase, lookup_filter_ne h]

lemma ne_directory_of_none (h : t.get? p = none) : t.get? p ≠ some .directory := by
  rw [h]
  exact nofun

lemma ne_directory_of_file {content : ByteArray} {mode : Nat}
    (h : t.get? p = some (.file content mode)) : t.get? p ≠ some .directory := by
  rw [h]
  exact nofun

/-- No file stands at the root. -/
lemma ne_nil_of_get?_ne (h : t.get? p ≠ some .directory) : p ≠ [] := by
  rintro rfl
  exact h rfl

/-- The bytes of the file at a place, if a file stands there. -/
def content? (t : FileTree) (p : Place) : Option ByteArray :=
  match t.get? p with
  | some (.file content _) => some content
  | _ => none

lemma content?_congr (h : t'.get? p = t.get? p) : t'.content? p = t.content? p := by
  rw [content?, content?, h]

lemma content?_of_get? {content : ByteArray} {mode : Nat}
    (h : t.get? p = some (.file content mode)) : t.content? p = some content := by
  rw [content?, h]

/-! ## Changes at some places -/

/-- A tree has become another by changes at some places only.  No directory has gone. -/
structure ChangesOnly (ps : List Place) (t t' : FileTree) : Prop where
  workingDir : t'.workingDir = t.workingDir
  directory : ∀ p, t.get? p = some .directory → t'.get? p = some .directory
  content : ∀ p ∉ ps, t'.content? p = t.content? p

namespace ChangesOnly

variable {ps qs : List Place}

lemma refl (ps : List Place) (t : FileTree) : ChangesOnly ps t t :=
  ⟨rfl, fun _ h => h, fun _ _ => rfl⟩

lemma trans (h : ChangesOnly ps t t') (h' : ChangesOnly qs t' t'') :
    ChangesOnly (ps ++ qs) t t'' := by
  refine ⟨h'.workingDir.trans h.workingDir, fun p hp => h'.directory p (h.directory p hp), ?_⟩
  intro p hp
  rw [List.mem_append, not_or] at hp
  exact (h'.content p hp.2).trans (h.content p hp.1)

lemma placeOf (h : ChangesOnly ps t t') (path : String) : t'.placeOf path = t.placeOf path :=
  placeOf_congr h.workingDir path

lemma enter (h : ChangesOnly ps t t') (hp : t.enter p = .ok ()) : t'.enter p = .ok () := by
  rw [FileTree.enter] at hp ⊢
  cases hentry : t.get? p with
  | none =>
    rw [hentry] at hp
    cases hp
  | some e =>
    cases e with
    | file content mode =>
      rw [hentry] at hp
      cases hp
    | directory => rw [h.directory p hentry]

lemma follow (h : ChangesOnly ps t t') {names : List String} (hp : t.follow p names = .ok q) :
    t'.follow p names = .ok q := by
  induction names generalizing p with
  | nil => exact hp
  | cons name rest ih =>
    rw [FileTree.follow] at hp ⊢
    obtain ⟨_, henter, hp⟩ := bind_eq_ok hp
    rw [h.enter henter, ok_bind]
    split_ifs at hp ⊢
    · exact ih hp
    · exact ih hp
    · exact ih hp

/-- A path that led somewhere leads there still. -/
lemma locate (h : ChangesOnly ps t t') (hp : t.locate path = .ok p) : t'.locate path = .ok p := by
  rw [FileTree.locate] at hp ⊢
  rw [h.workingDir]
  split_ifs at hp ⊢
  · exact h.follow hp
  · exact h.follow hp

end ChangesOnly

lemma changesOnly_put {e : Entry} (hp : t.get? p ≠ some .directory) :
    ChangesOnly [p] t (t.put p e) := by
  refine ⟨rfl, ?_, ?_⟩
  · intro q hq
    rw [get?_put_of_ne (by rintro rfl; exact hp hq), hq]
  · intro q hq
    exact content?_congr (get?_put_of_ne (by simpa using hq) e)

lemma changesOnly_erase (hp : t.get? p ≠ some .directory) : ChangesOnly [p] t (t.erase p) := by
  refine ⟨rfl, ?_, ?_⟩
  · intro q hq
    rw [get?_erase_of_ne (by rintro rfl; exact hp hq), hq]
  · intro q hq
    exact content?_congr (get?_erase_of_ne (by simpa using hq))

/-! ## Directories -/

/-- What making a directory that succeeds finds and does. -/
lemma exists_of_makeDir (h : t.makeDir path = .ok t') :
    ∃ p, t.locate path = .ok p ∧ t.get? p = none ∧ t' = t.put p .directory := by
  rw [makeDir] at h
  obtain ⟨p, hl, h⟩ := bind_eq_ok h
  split at h
  · cases h
  · next hp =>
    obtain ⟨_, -, h⟩ := bind_eq_ok h
    cases h
    exact ⟨p, hl, hp, rfl⟩

lemma changesOnly_makeDir (h : t.makeDir path = .ok t') : ChangesOnly [] t t' := by
  obtain ⟨p, -, hp, rfl⟩ := exists_of_makeDir h
  have hfree := ne_directory_of_none hp
  have hput := changesOnly_put (e := .directory) hfree
  refine ⟨rfl, hput.directory, ?_⟩
  intro q _
  -- the new directory holds no bytes, as what stood there before
  by_cases hq : q = p
  · subst hq
    rw [content?, content?, get?_put_self (ne_nil_of_get?_ne hfree), hp]
  · exact hput.content q (by simpa using hq)

/-- The directories above some names that are made with them, nearest first; a number bounds the
steps upwards. -/
def forebears (absolute : Bool) : (steps : Nat) → List String → List String
  | 0, _ => []
  | steps + 1, ns =>
    let parent := FilePath.dropLastName ns
    if parent.isEmpty then [] else pathOfNames absolute parent :: forebears absolute steps parent

/-- A directory, and those above it that are made with it. -/
def lineage (path : String) : List String :=
  let ns := FilePath.names path
  path :: forebears (FilePath.isAbsolute path) ns.length ns

/-- A tree becomes another by making directories of a list one after the other. -/
inductive MakesDirs (dirs : List String) : FileTree → FileTree → Prop
  | refl (t : FileTree) : MakesDirs dirs t t
  | step {t t₁ t' : FileTree} {path : String} (hpath : path ∈ dirs) (h : t.makeDir path = .ok t₁)
      (hrest : MakesDirs dirs t₁ t') : MakesDirs dirs t t'

namespace MakesDirs

variable {dirs more : List String}

lemma single (hpath : path ∈ dirs) (h : t.makeDir path = .ok t') : MakesDirs dirs t t' :=
  .step hpath h (.refl t')

lemma trans (h : MakesDirs dirs t t') (h' : MakesDirs dirs t' t'') : MakesDirs dirs t t'' := by
  induction h with
  | refl t => exact h'
  | step hpath hmake _ ih => exact .step hpath hmake (ih h')

lemma mono (h : MakesDirs dirs t t') (hsub : dirs ⊆ more) : MakesDirs more t t' := by
  induction h with
  | refl t => exact .refl t
  | step hpath hmake _ ih => exact .step (hsub hpath) hmake ih

lemma changesOnly (h : MakesDirs dirs t t') : ChangesOnly [] t t' := by
  induction h with
  | refl t => exact .refl _ t
  | step _ hmake _ ih => exact (changesOnly_makeDir hmake).trans ih

end MakesDirs

lemma makesDirs_ensureDir {dirs : List String} (t : FileTree) (hpath : path ∈ dirs) :
    MakesDirs dirs t (t.ensureDir path).1 := by
  rw [ensureDir]
  split
  · next t' hmake => exact .single hpath hmake
  · split_ifs <;> exact .refl t

lemma makesDirs_makeDirsFrom (absolute : Bool) (steps : Nat) (ns : List String) (t : FileTree)
    (path : String) :
    MakesDirs (path :: forebears absolute steps ns) t
      (makeDirsFrom absolute steps ns t path).1 := by
  induction steps generalizing ns t path with
  | zero => exact makesDirs_ensureDir t List.mem_cons_self
  | succ steps ih =>
    rw [makeDirsFrom]
    split
    · next t' hmake => exact .single List.mem_cons_self hmake
    · simp only
      split_ifs with hempty
      · exact makesDirs_ensureDir t List.mem_cons_self
      -- the parents are made first, and then the directory is tried again
      · have hparent := ih (FilePath.dropLastName ns) t
          (pathOfNames absolute (FilePath.dropLastName ns))
        simp only [forebears, if_neg hempty]
        split
        · next heq =>
          rw [heq] at hparent
          exact (hparent.mono (List.subset_cons_self _ _)).trans
            (makesDirs_ensureDir _ List.mem_cons_self)
        · next heq =>
          rw [heq] at hparent
          exact hparent.mono (List.subset_cons_self _ _)
    · split_ifs <;> exact .refl t

/-- A directory and its missing parents come one after the other, as far as they come. -/
theorem makesDirs_makeDirs (t : FileTree) (path : String) :
    MakesDirs (lineage path) t (t.makeDirs path).1 := by
  rw [makeDirs]
  split_ifs
  · exact .refl t
  · exact makesDirs_makeDirsFrom _ _ _ t path

lemma changesOnly_makeDirs (t : FileTree) (path : String) :
    ChangesOnly [] t (t.makeDirs path).1 :=
  (t.makesDirs_makeDirs path).changesOnly

/-- Where something stands no directory is made; one that stands there will do. -/
lemma makeDirs_of_get? {e : Entry} (hp : t.locate path = .ok p) (he : t.get? p = some e) :
    t.makeDirs path = (t, if t.isDirectory path then .ok () else .error .exists_) := by
  have hdir : t.makeDir path = .error .exists_ := by rw [makeDir, hp, ok_bind, he]
  have hempty : path.isEmpty = false := by
    rw [← Bool.not_eq_true]
    intro hempty
    rw [locate, if_pos hempty] at hp
    cases hp
  rw [makeDirs, hempty, if_neg Bool.false_ne_true]
  simp only
  cases (FilePath.names path).length with
  | zero =>
    simp only [makeDirsFrom, ensureDir, hdir]
    split <;> rfl
  | succ steps =>
    simp only [makeDirsFrom, hdir, IoError.exists_]
    split <;> rfl

/-- The root is there already. -/
lemma makeDirs_root (t : FileTree) : t.makeDirs "/" = (t, .ok ()) := by
  have hroot : t.locate "/" = .ok [] := by
    rw [locate_eq_follow (by decide) (by simp) (by decide)]
    rfl
  have hisDir : t.isDirectory "/" = true := by
    rw [isDirectory, hroot]
    rfl
  rw [makeDirs_of_get? hroot rfl, if_pos hisDir]

/-- Where a file stands no directory can be made. -/
lemma makeDirs_of_file {content : ByteArray} {mode : Nat} (hp : t.locate path = .ok p)
    (hfile : t.get? p = some (.file content mode)) : t.makeDirs path = (t, .error .exists_) := by
  have hisDir : t.isDirectory path = false := by
    rw [isDirectory, hp]
    simp [hfile]
  rw [makeDirs_of_get? hp hfile, hisDir, if_neg Bool.false_ne_true]

/-! ## Files -/

lemma changesOnly_putFile (hp : t.get? p ≠ some .directory) (content : ByteArray) (mode : Nat) :
    ChangesOnly [p] t (t.putFile p content mode).1 := by
  rw [putFile]
  split
  · exact changesOnly_put hp
  · split
    · exact .refl _ t
    · exact changesOnly_put hp

lemma putFile_eq_ok {content : ByteArray} {mode : Nat}
    (h : t.putFile p content mode = (t', .ok ())) :
    t.hindrance? (.write p) = none ∧ t' = t.put p (.file content mode) := by
  rw [putFile] at h
  split at h
  · next hallow =>
    cases h
    exact ⟨hallow, rfl⟩
  · split at h <;> cases h

lemma changesOnly_write (t : FileTree) (path : String) (content : ByteArray) (mode : Nat) :
    ChangesOnly [t.placeOf path] t (t.write path content mode).1 := by
  rw [write]
  split
  · exact .refl _ t
  · next p hl =>
    rw [← eq_placeOf_of_locate hl]
    split_ifs
    · exact .refl _ t
    · split
      · exact .refl _ t
      · next hp => exact changesOnly_putFile (ne_directory_of_file hp) _ _
      · next hp => exact changesOnly_putFile (ne_directory_of_none hp) _ _

/-- What a write that succeeds finds and does. -/
lemma exists_of_write {content : ByteArray} {mode : Nat}
    (h : t.write path content mode = (t', .ok ())) :
    ∃ mode', t.locate path = .ok (t.placeOf path) ∧
      t.get? (t.placeOf path) ≠ some .directory ∧
      t.hindrance? (.write (t.placeOf path)) = none ∧
      t' = t.put (t.placeOf path) (.file content mode') := by
  rw [write] at h
  split at h
  · cases h
  · next p hl =>
    rw [← eq_placeOf_of_locate hl]
    split_ifs at h
    · cases h
    · split at h
      · cases h
      · next old hp =>
        obtain ⟨hallow, rfl⟩ := putFile_eq_ok h
        exact ⟨old, hl, ne_directory_of_file hp, hallow, rfl⟩
      · next hp =>
        obtain ⟨hallow, rfl⟩ := putFile_eq_ok h
        exact ⟨mode, hl, ne_directory_of_none hp, hallow, rfl⟩

/-- A file that was written holds the bytes. -/
lemma content?_write {content : ByteArray} {mode : Nat}
    (h : t.write path content mode = (t', .ok ())) :
    t'.content? (t.placeOf path) = some content := by
  obtain ⟨mode', -, hfree, -, rfl⟩ := exists_of_write h
  exact content?_of_get? (get?_put_self (ne_nil_of_get?_ne hfree) _)

/-- What a renaming that succeeds finds and does. -/
lemma exists_of_rename {source target : String} (h : t.rename source target = .ok t') :
    ∃ content mode, t.get? (t.placeOf source) = some (.file content mode) ∧
      t.get? (t.placeOf target) ≠ some .directory ∧
      t.locate target = .ok (t.placeOf target) ∧
      t' = (t.erase (t.placeOf source)).put (t.placeOf target) (.file content mode) := by
  rw [rename] at h
  obtain ⟨p, hs, h⟩ := bind_eq_ok h
  obtain ⟨q, hg, h⟩ := bind_eq_ok h
  obtain ⟨_, -, h⟩ := bind_eq_ok h
  rw [← eq_placeOf_of_locateFile hs, ← eq_placeOf_of_locate hg]
  split at h
  · next hp hq =>
    cases h
    exact ⟨_, _, hp, ne_directory_of_file hq, hg, rfl⟩
  · next hp hq =>
    cases h
    exact ⟨_, _, hp, ne_directory_of_none hq, hg, rfl⟩
  · cases h
  · cases h
  · cases h

/-- A renaming that succeeds is one that the system has nothing against. -/
lemma hindrance?_of_rename {source target : String} (h : t.rename source target = .ok t') :
    t.hindrance? (.rename (t.placeOf source) (t.placeOf target)) = none := by
  rw [rename] at h
  obtain ⟨p, hs, h⟩ := bind_eq_ok h
  obtain ⟨q, hg, h⟩ := bind_eq_ok h
  obtain ⟨_, hallow, -⟩ := bind_eq_ok h
  rw [← eq_placeOf_of_locateFile hs, ← eq_placeOf_of_locate hg]
  rw [allow] at hallow
  split at hallow
  · cases hallow
  · next hnone => exact hnone

lemma changesOnly_rename {source target : String} (h : t.rename source target = .ok t') :
    ChangesOnly [t.placeOf source, t.placeOf target] t t' := by
  obtain ⟨content, mode, hs, hg, -, rfl⟩ := exists_of_rename h
  have hfile := ne_directory_of_file hs
  refine (changesOnly_erase hfile).trans (changesOnly_put (e := .file content mode) ?_)
  -- a file may be renamed to itself
  by_cases hsame : t.placeOf target = t.placeOf source
  · rw [hsame]
    exact ne_directory_of_none (get?_erase_self (ne_nil_of_get?_ne hfile))
  · rwa [get?_erase_of_ne hsame]

/-- A file that was renamed has the content of the other. -/
lemma content?_rename {source target : String} (h : t.rename source target = .ok t') :
    t'.content? (t.placeOf target) = t.content? (t.placeOf source) := by
  obtain ⟨content, mode, hs, hg, -, rfl⟩ := exists_of_rename h
  rw [content?_of_get? hs, content?_of_get? (get?_put_self (ne_nil_of_get?_ne hg) _)]

/-- What a removal that succeeds finds and does. -/
lemma exists_of_remove (h : t.remove path = .ok t') :
    (∃ content mode, t.get? (t.placeOf path) = some (.file content mode)) ∧
      t' = t.erase (t.placeOf path) := by
  rw [remove] at h
  obtain ⟨p, hl, h⟩ := bind_eq_ok h
  obtain ⟨_, -, h⟩ := bind_eq_ok h
  rw [← eq_placeOf_of_locateFile hl]
  split at h
  · next hp =>
    cases h
    exact ⟨⟨_, _, hp⟩, rfl⟩
  · cases h
  · cases h

lemma changesOnly_remove (h : t.remove path = .ok t') : ChangesOnly [t.placeOf path] t t' := by
  obtain ⟨⟨content, mode, hp⟩, rfl⟩ := exists_of_remove h
  exact changesOnly_erase (ne_directory_of_file hp)

/-- A file that was removed is gone. -/
lemma content?_remove (h : t.remove path = .ok t') : t'.content? (t.placeOf path) = none := by
  obtain ⟨⟨content, mode, hp⟩, rfl⟩ := exists_of_remove h
  rw [content?, get?_erase_self (ne_nil_of_get?_ne (ne_directory_of_file hp))]

end FileTree

/-! ## Operations and steps -/

namespace FileOp

/-- The places whose content an operation may change. -/
def places (t : FileTree) : FileOp → List Place
  | makeDirs _ => []
  | write path _ _ => [t.placeOf path]
  | rename source target => [t.placeOf source, t.placeOf target]
  | remove path => [t.placeOf path]

lemma places_congr {t t' : FileTree} (h : t'.workingDir = t.workingDir) (op : FileOp) :
    op.places t' = op.places t := by
  cases op <;> simp only [places, FileTree.placeOf_congr h]

/-- An operation leaves all files alone but those at its places. -/
theorem changesOnly_run (t : FileTree) (op : FileOp) :
    FileTree.ChangesOnly (op.places t) t (op.run t).1 := by
  cases op with
  | makeDirs path => exact FileTree.changesOnly_makeDirs t path
  | write path content mode => exact FileTree.changesOnly_write t path content mode
  | rename source target =>
    rw [run]
    cases h : t.rename source target with
    | error e => exact .refl _ t
    | ok t' => exact FileTree.changesOnly_rename h
  | remove path =>
    rw [run]
    cases h : t.remove path with
    | error e => exact .refl _ t
    | ok t' => exact FileTree.changesOnly_remove h

/-- A renaming that was carried out. -/
lemma rename_of_run {t t' : FileTree} {source target : String}
    (h : (rename source target).run t = (t', .ok ())) : t.rename source target = .ok t' := by
  rw [run] at h
  cases hr : t.rename source target with
  | error e =>
    rw [hr] at h
    cases h
  | ok t₂ =>
    rw [hr] at h
    cases h
    rfl

/-- A renaming that fails leaves the tree that it found. -/
lemma eq_of_run_rename {t t' : FileTree} {source target : String} {reason : IoError}
    (h : (rename source target).run t = (t', .error reason)) : t' = t := by
  rw [run] at h
  cases hr : t.rename source target with
  | error e =>
    rw [hr] at h
    cases h
    rfl
  | ok t₂ =>
    rw [hr] at h
    cases h

end FileOp

/-- Steps leave all files alone but those at the places of their operations. -/
theorem changesOnly_runSteps {ε : Type} (xs : List (FileStep ε)) (t : FileTree) :
    FileTree.ChangesOnly (xs.flatMap (·.op.places t)) t (runSteps xs t).1 := by
  induction xs generalizing t with
  | nil => exact .refl _ t
  | cons x xs ih =>
    have hfirst := x.op.changesOnly_run t
    rw [runSteps]
    split
    · next t₁ heq =>
      rw [heq] at hfirst
      have hrest := hfirst.trans (ih t₁)
      have hplaces (y : FileStep ε) : y.op.places t₁ = y.op.places t :=
        y.op.places_congr hfirst.workingDir
      simpa only [hplaces, List.flatMap_cons] using hrest
    · next t₁ e heq =>
      -- a step that fails ends the run, so the places of the others are not used
      rw [heq] at hfirst
      refine ⟨hfirst.workingDir, hfirst.directory, fun p hp => hfirst.content p ?_⟩
      rw [List.flatMap_cons, List.mem_append, not_or] at hp
      exact hp.1

section Steps

variable {ε : Type} {x : FileStep ε} {xs : List (FileStep ε)} {t t' : FileTree} {e : ε}

/-- Steps that succeed have succeeded with the first one. -/
lemma exists_of_runSteps_cons (h : runSteps (x :: xs) t = (t', .ok ())) :
    ∃ t₁, x.op.run t = (t₁, .ok ()) ∧ runSteps xs t₁ = (t', .ok ()) := by
  rw [runSteps] at h
  split at h
  · next t₁ heq => exact ⟨t₁, heq, h⟩
  · cases h

/-- Steps that fail have failed with the first one or after it. -/
lemma failed_of_runSteps_cons (h : runSteps (x :: xs) t = (t', .error e)) :
    (∃ reason, x.op.run t = (t', .error reason)) ∨
      ∃ t₁, x.op.run t = (t₁, .ok ()) ∧ runSteps xs t₁ = (t', .error e) := by
  rw [runSteps] at h
  split at h
  · next t₁ heq => exact Or.inr ⟨t₁, heq, h⟩
  · next t₁ reason heq =>
    cases h
    exact Or.inl ⟨reason, heq⟩

end Steps

end WebviewBridge
