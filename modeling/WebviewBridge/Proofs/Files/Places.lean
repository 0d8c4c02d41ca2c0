import Mathlib.Tactic.SplitIfs
import WebviewBridge.Files.Step
import WebviewBridge.Proofs.Except

/-!
# Where paths lead

Without looking at what stands there, a path leads to one place (`FileTree.placeOf`); if a tree
finds a place at all it is that one (`FileTree.eq_placeOf_of_locate`).  The files of a directory
lie below one place, each under its name (`FileTree.exists_placeOf_join`).
-/

namespace WebviewBridge

namespace FilePath

/-! ## The names of a path -/

lemma splitNames_ne_nil (cs : List Char) : splitNames cs ≠ [] := by
  cases cs with
  | nil => exact nofun
  | cons c cs =>
    rw [splitNames]
    split
    · exact nofun
    · split <;> exact nofun

lemma splitNames_append_slash (cs ds : List Char) :
    splitNames (cs ++ '/' :: ds) = splitNames cs ++ splitNames ds := by
  induction cs with
  | nil =>
    cases hds : splitNames ds with
    | nil => exact absurd hds (splitNames_ne_nil ds)
    | cons n ns => simp [splitNames, hds]
  | cons c cs ih =>
    rw [List.cons_append, splitNames, splitNames, ih]
    cases hcs : splitNames cs with
    | nil => exact absurd hcs (splitNames_ne_nil cs)
    | cons n ns =>
      simp only [List.cons_append]
      split <;> rfl

lemma splitNames_of_notMem {cs : List Char} (h : '/' ∉ cs) : splitNames cs = [cs] := by
  induction cs with
  | nil => rfl
  | cons c cs ih =>
    rw [List.mem_cons, not_or] at h
    rw [splitNames, ih h.2]
    simp only [if_neg (Ne.symm h.1)]

lemma notMem_slash_of_mem_splitNames {cs n : List Char} (h : n ∈ splitNames cs) : '/' ∉ n := by
  induction cs generalizing n with
  | nil =>
    rw [splitNames, List.mem_singleton] at h
    rw [h]
    exact List.not_mem_nil
  | cons c cs ih =>
    cases hcs : splitNames cs with
    | nil => exact absurd hcs (splitNames_ne_nil cs)
    | cons m ms =>
      rw [hcs] at ih
      simp only [splitNames, hcs] at h
      split_ifs at h with hc
      · rcases List.mem_cons.1 h with rfl | h
        · exact List.not_mem_nil
        · exact ih h
      · rcases List.mem_cons.1 h with rfl | h
        · rw [List.mem_cons, not_or]
          exact ⟨Ne.symm hc, ih List.mem_cons_self⟩
        · exact ih (List.mem_cons_of_mem _ h)

/-- A name between two slashes. -/
def IsName (name : String) : Prop := name ≠ "" ∧ '/' ∉ name.toList

lemma isName_of_mem_names {name path : String} (h : name ∈ names path) : IsName name := by
  rw [names, List.mem_map] at h
  obtain ⟨cs, hcs, rfl⟩ := h
  rw [List.mem_filter] at hcs
  rw [IsName, String.toList_ofList]
  refine ⟨?_, notMem_slash_of_mem_splitNames hcs.1⟩
  rw [Ne, String.ofList_eq_empty_iff]
  simpa using hcs.2

lemma names_append_slash (path rest : String) :
    names (path ++ "/" ++ rest) = names path ++ names rest := by
  rw [names, names, names, String.toList_append, String.toList_append, List.append_assoc]
  change (((splitNames (path.toList ++ '/' :: rest.toList)).filter _).map _) = _
  rw [splitNames_append_slash, List.filter_append, List.map_append]

lemma names_of_isName {name : String} (h : IsName name) : names name = [name] := by
  rw [names, splitNames_of_notMem h.2]
  have hne : name.toList ≠ [] := mt String.toList_eq_nil_iff.1 h.1
  simp [hne]

/-- Names that are put together are found again. -/
lemma names_intercalate {ns : List String} (h : ∀ n ∈ ns, IsName n) :
    names (String.intercalate "/" ns) = ns := by
  induction ns with
  | nil => rfl
  | cons n ns ih =>
    have hn := names_of_isName (h n List.mem_cons_self)
    cases ns with
    | nil => rw [String.intercalate_singleton, hn]
    | cons m ms =>
      rw [String.intercalate_cons_cons, names_append_slash, hn,
        ih fun x hx => h x (List.mem_cons_of_mem _ hx)]
      rfl

lemma names_pathOfNames {absolute : Bool} {ns : List String} (h : ∀ n ∈ ns, IsName n) :
    names (FileTree.pathOfNames absolute ns) = ns := by
  rw [FileTree.pathOfNames]
  cases absolute with
  | false => exact (congrArg names (String.empty_append)).trans (names_intercalate h)
  | true =>
    have hroot := names_append_slash "" (String.intercalate "/" ns)
    rw [String.empty_append, names_intercalate h] at hroot
    exact hroot

lemma dropLastName_subset (ns : List String) : dropLastName ns ⊆ ns := by
  intro n hn
  rw [dropLastName, List.mem_reverse] at hn
  have htail := (List.dropWhile_sublist (· == ".")).subset hn
  have hdots := List.mem_of_mem_tail htail
  exact List.mem_reverse.1 ((List.dropWhile_sublist (· == ".")).subset hdots)

/-- A name that a file of a directory can have, and that leads to it. -/
structure IsFileName (file : String) : Prop where
  ne_empty : file ≠ ""
  notMem_slash : '/' ∉ file.toList
  ne_dot : file ≠ "."
  ne_dots : file ≠ ".."

variable {file : String}

lemma IsFileName.toList_ne_nil (h : IsFileName file) : file.toList ≠ [] :=
  fun he => h.ne_empty (String.toList_eq_nil_iff.1 he)

lemma IsFileName.isAbsolute_eq (h : IsFileName file) : isAbsolute file = false := by
  have h := h.notMem_slash
  rw [isAbsolute]
  cases hfile : file.toList with
  | nil => rfl
  | cons c cs =>
    rw [hfile, List.mem_cons, not_or] at h
    simpa using Ne.symm h.1

lemma IsFileName.names_eq (h : IsFileName file) : names file = [file] :=
  names_of_isName ⟨h.ne_empty, h.notMem_slash⟩

lemma join_empty (h : IsFileName file) : join "" file = file := by
  simp [join, h.isAbsolute_eq]

/-- The names of a path below a directory are those of the directory and its own. -/
lemma names_join_of_relative (dir : String) {path : String} (h : isAbsolute path = false) :
    names (join dir path) = names dir ++ names path := by
  rw [join, h]
  simp only [Bool.false_eq_true, if_false]
  -- a slash comes in between, unless the directory is empty or ends in one
  split
  · next hdir =>
    simp only [Bool.or_eq_true, String.isEmpty_iff, beq_iff_eq] at hdir
    rcases hdir with rfl | hslash
    · rw [String.empty_append]
      rfl
    · obtain ⟨cs, hcs⟩ : ∃ cs, dir.toList = cs ++ ['/'] := by
        exact List.getLast?_eq_some_iff.1 hslash
      rw [names, names, names, String.toList_append, hcs, List.append_assoc,
        List.singleton_append, splitNames_append_slash, splitNames_append_slash,
        List.filter_append, List.map_append, List.filter_append, List.map_append]
      simp [splitNames]
  · exact names_append_slash dir path

/-- The names of a file in a directory are those of the directory and its own. -/
lemma names_join (dir : String) (h : IsFileName file) :
    names (join dir file) = names dir ++ [file] := by
  rw [names_join_of_relative dir h.isAbsolute_eq, h.names_eq]

lemma isAbsolute_join_of_relative (dir : String) {path : String} (h : isAbsolute path = false) :
    isAbsolute (join dir path) = isAbsolute dir := by
  rw [join, h]
  simp only [Bool.false_eq_true, if_false]
  cases hdir : dir.toList with
  | nil =>
    have hempty : isAbsolute "" = false := by decide
    rw [String.toList_eq_nil_iff.1 hdir, hempty]
    simpa using h
  | cons c cs => split <;> simp [isAbsolute, hdir]

lemma isAbsolute_join (dir : String) (h : IsFileName file) :
    isAbsolute (join dir file) = isAbsolute dir :=
  isAbsolute_join_of_relative dir h.isAbsolute_eq

lemma endsInSlash_join (dir : String) (h : IsFileName file) :
    endsInSlash (join dir file) = false := by
  have happend (s : String) : endsInSlash (s ++ file) = false := by
    rw [endsInSlash, String.toList_append, List.getLast?_append,
      List.getLast?_eq_some_getLast h.toList_ne_nil, Option.some_or]
    simp only [beq_eq_false_iff_ne, ne_eq, Option.some.injEq]
    intro heq
    exact h.notMem_slash (heq ▸ List.getLast_mem h.toList_ne_nil)
  rw [join, h.isAbsolute_eq]
  simp only [Bool.false_eq_true, if_false]
  split <;> exact happend _

/-- The file beside a file of a directory is a file of the directory. -/
lemma temporaryPath_join (dir : String) (h : IsFileName file)
    (htemporary : IsFileName (temporaryPath file)) :
    temporaryPath (join dir file) = join dir (temporaryPath file) := by
  rw [join, join, h.isAbsolute_eq, htemporary.isAbsolute_eq]
  simp only [Bool.false_eq_true, if_false]
  split <;> simp only [temporaryPath, String.append_assoc]

end FilePath

/-! ## The place of a path -/

/-- Where names lead from a place, whatever stands on the way. -/
def Place.along : Place → List String → Place
  | p, [] => p
  | p, name :: rest =>
    if name = "." then along p rest
    else if name = ".." then along p.dropLast rest
    else along (p ++ [name]) rest

lemma Place.along_append (p : Place) (ns ms : List String) :
    p.along (ns ++ ms) = (p.along ns).along ms := by
  induction ns generalizing p with
  | nil => rfl
  | cons n ns ih =>
    rw [List.cons_append, along, along]
    split_ifs <;> exact ih _

/-- Every name of a place comes from where the way began or from the names. -/
lemma Place.mem_along {p : Place} {ns : List String} {n : String} (h : n ∈ p.along ns) :
    n ∈ p ∨ n ∈ ns := by
  induction ns generalizing p with
  | nil => exact Or.inl h
  | cons m ms ih =>
    rw [along] at h
    split_ifs at h
    · exact (ih h).imp id (List.mem_cons_of_mem m)
    · exact (ih h).imp (fun hp => (List.dropLast_sublist p).subset hp) (List.mem_cons_of_mem m)
    · rcases ih h with hp | hms
      · rcases List.mem_append.1 hp with hp | hm
        · exact Or.inl hp
        · rw [List.mem_singleton.1 hm]
          exact Or.inr List.mem_cons_self
      · exact Or.inr (List.mem_cons_of_mem m hms)

namespace FileTree

variable {t t' : FileTree} {path : String} {p q : Place}

/-- The place that a path leads to, whatever stands on the way. -/
def placeOf (t : FileTree) (path : String) : Place :=
  Place.along (if FilePath.isAbsolute path then [] else t.workingDir) (FilePath.names path)

lemma eq_along_of_follow {names : List String} (h : t.follow p names = .ok q) :
    q = p.along names := by
  induction names generalizing p with
  | nil =>
    cases h
    rfl
  | cons name rest ih =>
    rw [follow] at h
    obtain ⟨_, -, h⟩ := bind_eq_ok h
    rw [Place.along]
    split_ifs at h ⊢
    · exact ih h
    · exact ih h
    · exact ih h

/-- A tree that finds a place for a path finds the one that the path leads to. -/
lemma eq_placeOf_of_locate (h : t.locate path = .ok p) : p = t.placeOf path := by
  rw [locate] at h
  split_ifs at h
  · rw [placeOf, if_pos ‹_›]
    exact eq_along_of_follow h
  · rw [placeOf, if_neg ‹_›]
    exact eq_along_of_follow h

/-- A path that the system takes is followed name by name. -/
lemma locate_eq_follow (hempty : path.isEmpty = false)
    (hnul : path.contains '\x00' = false) (hlimit : path.utf8ByteSize ≤ pathLimit) :
    t.locate path =
      t.follow (if FilePath.isAbsolute path then [] else t.workingDir) (FilePath.names path) := by
  rw [locate, hempty, hnul, if_neg nofun, if_neg nofun, if_neg (by omega)]

lemma locate_of_locateFile (h : t.locateFile path = .ok p) : t.locate path = .ok p := by
  rw [locateFile] at h
  obtain ⟨p', hl, h⟩ := bind_eq_ok h
  simp only at h
  split_ifs at h
  · obtain ⟨_, -, h⟩ := bind_eq_ok h
    cases h
    exact hl
  · cases h
    exact hl

lemma eq_placeOf_of_locateFile (h : t.locateFile path = .ok p) : p = t.placeOf path :=
  eq_placeOf_of_locate (locate_of_locateFile h)

lemma placeOf_congr (h : t'.workingDir = t.workingDir) (path : String) :
    t'.placeOf path = t.placeOf path := by
  rw [placeOf, placeOf, h]

/-- The files of a directory lie below one place, each under its name. -/
lemma exists_placeOf_join (t : FileTree) (dir : String) :
    ∃ base : Place, ∀ file, FilePath.IsFileName file →
      t.placeOf (FilePath.join dir file) = base ++ [file] := by
  refine ⟨Place.along (if FilePath.isAbsolute dir then [] else t.workingDir) (FilePath.names dir),
    fun file h => ?_⟩
  rw [placeOf, FilePath.isAbsolute_join dir h, FilePath.names_join dir h, Place.along_append]
  simp only [Place.along, if_neg h.ne_dot, if_neg h.ne_dots]

/-- A name that the system takes leads to a file of the working directory. -/
lemma locate_of_isFileName {file : String} (h : FilePath.IsFileName file)
    (hnul : file.contains '\x00' = false) (hlimit : file.utf8ByteSize ≤ nameLimit)
    (hdir : t.get? t.workingDir = some .directory) :
    t.locate file = .ok (t.workingDir ++ [file]) := by
  have hempty : file.isEmpty = false := by simpa using h.ne_empty
  have hshort : file.utf8ByteSize ≤ pathLimit := Nat.le_trans hlimit (by decide)
  have hlong : ¬file.utf8ByteSize > nameLimit := Nat.not_lt.2 hlimit
  have henter : t.enter t.workingDir = .ok () := by rw [enter, hdir]
  rw [locate_eq_follow hempty hnul hshort, h.isAbsolute_eq, h.names_eq]
  simp only [Bool.false_eq_true, if_false, follow, henter, if_neg h.ne_dot, if_neg h.ne_dots,
    if_neg hlong, bind, Except.bind]

end FileTree

end WebviewBridge
