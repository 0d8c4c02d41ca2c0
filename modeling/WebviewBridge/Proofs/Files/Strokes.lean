import WebviewBridge.Proofs.Files.Directories

/-!
# A file that several replace at once

Whoever replaces a file writes its new content beside it and then renames that over it.  When
several do so at once they all write to the same place, and what is there belongs to whoever wrote
last.  `FileTree.Stands` says what the files are like after the strokes of all of them: a write
always succeeds (`FileTree.Stands.wrote`); a renaming succeeds right after a write, whoever has
written (`FileTree.Stands.renamed`), and right after another renaming it finds nothing
(`FileTree.Stands.missed`).
-/

namespace WebviewBridge

/-- What is done, once the directory is there, by somebody who replaces a file. -/
inductive Stroke where
  /-- The new content was written beside the file. -/
  | wrote (content : ByteArray)
  /-- What stands beside the file was to be renamed over it. -/
  | renamed

/-- The content that a stroke has written. -/
def Stroke.content? : Stroke → Option ByteArray
  | wrote content => some content
  | renamed => none

namespace FileTree

variable {t t' : FileTree} {dir path : String} {bytes : ByteArray} {l : List Stroke}

/-- What the files are like after some strokes: what was written last stands beside the file, and
once it was renamed nothing does. -/
structure Stands (t : FileTree) (dir path : String) (l : List Stroke) : Prop where
  isReady : t.IsReady dir path
  beside : ∀ bytes, l.getLast? = some (.wrote bytes) →
    t.content? (t.placeOf (temporaryPath path)) = some bytes
  gone : l.getLast? = some .renamed → t.get? (t.placeOf (temporaryPath path)) = none
  holds : l.getLast? = some .renamed →
    ∃ bytes, (l.filterMap Stroke.content?).getLast? = some bytes ∧ t.Holds path bytes

namespace Stands

lemma nil (h : t.IsReady dir path) : t.Stands dir path [] := ⟨h, nofun, nofun, nofun⟩

/-- Whoever writes beside the file takes the place of whoever did before. -/
lemma wrote (h : t.Stands dir path l) (bytes : ByteArray) (mode : Nat) :
    ∃ t', t.write (temporaryPath path) bytes mode = (t', .ok ()) ∧
      t'.Stands dir path (l ++ [.wrote bytes]) := by
  obtain ⟨t', hwrite, hready, hbeside⟩ := h.isReady.write bytes mode
  refine ⟨t', hwrite, hready, ?_, ?_, ?_⟩
  · intro bytes' hlast
    rw [List.getLast?_concat] at hlast
    cases hlast
    exact hbeside
  · simp
  · simp

/-- Right after a write a renaming succeeds, and the file holds what was written. -/
lemma renamed (h : t.Stands dir path l) (hlast : l.getLast? = some (.wrote bytes)) :
    ∃ t', t.rename (temporaryPath path) path = .ok t' ∧
      t'.Stands dir path (l ++ [.renamed]) := by
  obtain ⟨t', hrename, hready, hgone, hholds⟩ := h.isReady.rename (h.beside bytes hlast)
  refine ⟨t', hrename, hready, ?_, fun _ => hgone, fun _ => ?_⟩
  · simp
  · obtain ⟨before, rfl⟩ := List.getLast?_eq_some_iff.1 hlast
    exact ⟨bytes, by simp [List.filterMap_cons, Stroke.content?], hholds⟩

/-- Right after another renaming there is nothing to be renamed, and the file stays as it is. -/
lemma missed (h : t.Stands dir path l) (hlast : l.getLast? = some .renamed) :
    t.rename (temporaryPath path) path = .error .notFound ∧
      t.Stands dir path (l ++ [.renamed]) := by
  have hgone := h.gone hlast
  refine ⟨h.isReady.rename_of_gone hgone, h.isReady, ?_, fun _ => hgone, fun _ => ?_⟩
  · simp
  · simpa [List.filterMap_cons, Stroke.content?] using h.holds hlast

end Stands

end FileTree

end WebviewBridge
