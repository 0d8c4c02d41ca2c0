import Mathlib.Data.List.TakeWhile
import WebviewBridge.Home
import WebviewBridge.Proofs.Files.Places

/-!
# The home directory stays in front

A path with a tilde in front leads below the home directory, whatever separators follow the tilde:
all of them are taken off first, so that what is left cannot start at the root
(`Trims.isAbsolute_eq`) and take the place of the home directory.

Main statement: `expandHome_keepsHome`.
-/

namespace WebviewBridge

/-! ## Paths below a directory -/

namespace FilePath

variable {dir path : String}

/-- A path goes through a directory, name by name. -/
structure IsBelow (dir path : String) : Prop where
  isAbsolute_eq : isAbsolute path = isAbsolute dir
  isPrefix_names : names dir <+: names path

lemma isBelow_join (h : isAbsolute path = false) : IsBelow dir (join dir path) where
  isAbsolute_eq := isAbsolute_join_of_relative dir h
  isPrefix_names := by
    rw [names_join_of_relative dir h]
    exact List.prefix_append _ _

/-- A path below a directory is its text after that of the directory, with a slash in between if
there is none. -/
lemma join_of_isAbsolute (hdir : isAbsolute dir = true) (h : isAbsolute path = false) :
    join dir path = dir ++ (if endsInSlash dir then "" else "/") ++ path := by
  have hempty : dir.isEmpty = false := by
    rw [← Bool.not_eq_true, String.isEmpty_iff]
    rintro rfl
    cases hdir
  rw [join, h, hempty, Bool.false_or, endsInSlash]
  simp only [Bool.false_eq_true, if_false]
  split
  · rw [String.append_empty]
  · rfl

end FilePath

/-- Where a path below a directory leads: on from where the directory leads. -/
lemma FileTree.placeOf_join (t : FileTree) (dir : String) {path : String}
    (h : FilePath.isAbsolute path = false) :
    t.placeOf (FilePath.join dir path) = (t.placeOf dir).along (FilePath.names path) := by
  rw [placeOf, placeOf, FilePath.isAbsolute_join_of_relative dir h,
    FilePath.names_join_of_relative dir h, Place.along_append]

/-! ## Separators -/

lemma isSeparator_iff {c : Char} : isSeparator c = true ↔ c = '/' ∨ c = '\\' := by
  simp [isSeparator]

/-- What is left of a text once the separators in front of it are taken off, all of them. -/
def Trims (text rest : List Char) : Prop :=
  ∃ separators, text = separators ++ rest ∧ (∀ c ∈ separators, c = '/' ∨ c = '\\') ∧
    ∀ c ∈ rest.head?, c ≠ '/' ∧ c ≠ '\\'

lemma trims_dropWhile (text : List Char) : Trims text (text.dropWhile isSeparator) := by
  refine ⟨text.takeWhile isSeparator, List.takeWhile_append_dropWhile.symm, ?_, ?_⟩
  · intro c hc
    exact isSeparator_iff.1 (List.mem_takeWhile_imp hc)
  · intro c hc
    have hhead := List.head?_dropWhile_not isSeparator text
    rw [Option.mem_def.1 hc] at hhead
    rwa [← not_or, ← isSeparator_iff, Bool.not_eq_true]

namespace Trims

variable {text rest : List Char}

/-- There is one way only to take the separators off. -/
lemma eq_dropWhile (h : Trims text rest) : rest = text.dropWhile isSeparator := by
  obtain ⟨separators, rfl, hall, hhead⟩ := h
  rw [List.dropWhile_append_of_pos fun c hc => isSeparator_iff.2 (hall c hc)]
  cases rest with
  | nil => rfl
  | cons c cs =>
    have hc : ¬isSeparator c = true := by
      rw [isSeparator_iff, not_or]
      exact hhead c rfl
    rw [List.dropWhile_cons_of_neg hc]

/-- What is left does not start at the root. -/
lemma isAbsolute_eq (h : Trims text rest) : FilePath.isAbsolute (String.ofList rest) = false := by
  obtain ⟨-, -, -, hhead⟩ := h
  rw [FilePath.isAbsolute, String.toList_ofList, beq_eq_false_iff_ne]
  intro hslash
  exact (hhead '/' hslash).1 rfl

end Trims

/-! ## Tildes -/

/-- A path without a tilde in front stays as it is. -/
lemma expandHome_of_ne {path : String} (h : path.toList.head? ≠ some '~') (home : Option String) :
    expandHome home path = path := by
  unfold expandHome
  split
  · next hpath =>
    rw [hpath] at h
    exact absurd rfl h
  · rfl

lemma expandHome_none (path : String) : expandHome none path = path := by
  unfold expandHome
  split
  · next h =>
    cases h
  · rfl

lemma expandHome_of_trims {path : String} {text rest : List Char} (home : String)
    (hpath : path.toList = '~' :: text) (h : Trims text rest) :
    expandHome (some home) path = FilePath.join home (String.ofList rest) := by
  unfold expandHome
  rw [hpath, h.eq_dropWhile]
  rfl

/-- What becomes of a path when there is a home directory, and when there is none. -/
structure KeepsHome (home path : String) : Prop where
  plain : path.toList.head? ≠ some '~' → expandHome (some home) path = path
  /-- After a tilde come separators, and a rest that has none in front.  The home directory is
  followed by the rest, as a text, name by name, and from wherever the program works. -/
  tilde : ∀ text, path.toList = '~' :: text → ∃ rest, Trims text rest ∧
    expandHome (some home) path =
      home ++ (if FilePath.endsInSlash home then "" else "/") ++ String.ofList rest ∧
    FilePath.names (expandHome (some home) path) =
      FilePath.names home ++ FilePath.names (String.ofList rest) ∧
    ∀ t : FileTree, t.placeOf (expandHome (some home) path) =
      (t.placeOf home).along (FilePath.names (String.ofList rest))
  /-- The home directory is never replaced. -/
  below : path.toList.head? = some '~' → FilePath.IsBelow home (expandHome (some home) path)
  idempotent : expandHome (some home) (expandHome (some home) path) = expandHome (some home) path
  homeless : expandHome none path = path

/-- **The home directory stays in front** of every path with a tilde, and all other paths stay as
they are. -/
theorem expandHome_keepsHome (home path : String) (hhome : FilePath.isAbsolute home = true) :
    KeepsHome home path := by
  have hexpand (text : List Char) (hpath : path.toList = '~' :: text) :=
    expandHome_of_trims home hpath (trims_dropWhile text)
  have hbelow (htilde : path.toList.head? = some '~') :
      FilePath.IsBelow home (expandHome (some home) path) := by
    obtain ⟨text, hpath⟩ := List.head?_eq_some_iff.1 htilde
    rw [hexpand text hpath]
    exact FilePath.isBelow_join (trims_dropWhile text).isAbsolute_eq
  constructor
  case plain => exact fun h => expandHome_of_ne h (some home)
  case tilde =>
    intro text hpath
    have hrest := (trims_dropWhile text).isAbsolute_eq
    refine ⟨_, trims_dropWhile text, ?_, ?_, fun t => ?_⟩
    · rw [hexpand text hpath, FilePath.join_of_isAbsolute hhome hrest]
    · rw [hexpand text hpath, FilePath.names_join_of_relative home hrest]
    · rw [hexpand text hpath, t.placeOf_join home hrest]
  case below => exact hbelow
  case idempotent =>
    by_cases htilde : path.toList.head? = some '~'
    · -- a path from the root starts with a slash, and so with no tilde
      have habsolute := (hbelow htilde).isAbsolute_eq.trans hhome
      rw [FilePath.isAbsolute, beq_iff_eq] at habsolute
      refine expandHome_of_ne ?_ _
      rw [habsolute]
      decide
    · rw [expandHome_of_ne htilde, expandHome_of_ne htilde]
  case homeless => exact expandHome_none path

/-- Slashes of both kinds, and a letter of two bytes after them. -/
theorem expandHome_keepsHome_separators :
    FilePath.isAbsolute "/home/nell" = true ∧ KeepsHome "/home/nell" "~\\//\\é/~" ∧
      expandHome (some "/home/nell") "~\\//\\é/~" = "/home/nell/é/~" :=
  ⟨by decide, expandHome_keepsHome "/home/nell" "~\\//\\é/~" (by decide), by decide⟩

end WebviewBridge
