import WebviewBridge.Proofs.Json.Passing
import WebviewBridge.Proofs.Json.Records

/-!
# What becomes of a value

`Settles` says what a reader makes of a value, whatever text of it is read: one answer for all of
them, or a refusal of all of them.  Each reader of a single value settles on every value of integers
that it has room for.  Main statement: what a reader settles on is what it gives for the whole text
of the value (`Settles.readText_iff`).
-/

namespace WebviewBridge.Json

open Cursor

variable {α β γ ε σ : Type}

/-- A computation ends with an answer in front of what is left of a text, or with a refusal. -/
def Ends (left : List Char) (r : Except ε (β × Cursor)) : Option β → Prop
  | some x => ∃ offset, r = .ok (x, ⟨left, offset⟩)
  | none => ∃ e, r = .error e

namespace Ends

variable {left left' : List Char} {r : Except ε (β × Cursor)} {answer : Option β}

/-- One computation goes on behind another as told. -/
lemma bind (h : Ends left r answer) {next : β × Cursor → Except ε (γ × Cursor)}
    {answer' : β → Option γ}
    (hnext : ∀ x offset, Ends left' (next (x, ⟨left, offset⟩)) (answer' x)) :
    Ends left' (r >>= next) (answer.bind answer') := by
  cases answer with
  | none =>
    obtain ⟨e, rfl⟩ := h
    exact ⟨e, rfl⟩
  | some x =>
    obtain ⟨offset, rfl⟩ := h
    exact hnext x offset

lemma map (h : Ends left r answer) (f : β → γ) :
    Ends left (r.map fun r => (f r.1, r.2)) (answer.map f) := by
  cases answer with
  | none =>
    obtain ⟨e, rfl⟩ := h
    exact ⟨e, rfl⟩
  | some x =>
    obtain ⟨offset, rfl⟩ := h
    exact ⟨offset, rfl⟩

lemma placed {r : Except Fault (β × Cursor)} (h : Ends left r answer) :
    Ends left (Json.placed r) answer := by
  cases answer with
  | none =>
    obtain ⟨e, rfl⟩ := h
    exact ⟨_, rfl⟩
  | some x =>
    obtain ⟨offset, rfl⟩ := h
    exact ⟨offset, rfl⟩

end Ends

/-- A reader settles on an answer for a value: all texts of it are read as that, or all refused. -/
def Settles (read : Scan α) (v : Value) (answer : Option α) : Prop :=
  ∀ ⦃w cs rest⦄, IsBlank w → v.IsText cs → EndsNumber rest →
    ∀ offset, Ends rest (read ⟨w ++ cs ++ rest, offset⟩) answer

/-! ## Single values -/

namespace Value

/-- The string that a value is. -/
def string? : Value → Option String
  | str s => some s
  | _ => none

lemma string?_eq_some {v : Value} {s : String} : v.string? = some s ↔ v = .str s := by
  cases v <;> simp [Value.string?]

/-- The string that a value is, or none for null. -/
def optionalString? (v : Value) : Option (Option String) :=
  if v = .null then some none else v.string?.map some

lemma optionalString?_eq_some {v : Value} {o : Option String} :
    v.optionalString? = some o ↔ v = .ofString? o := by
  rw [optionalString?]
  cases v <;> cases o <;> simp [string?, ofString?]

/-- Free-form content; null is none. -/
def content (v : Value) : Option Value := if v = .null then none else some v.canonical

/-- What a value stands for that is one of the admitted names, or an object with that key alone and
null under it. -/
def named? (admitted : List (String × α)) : Value → Option α
  | str name => admitted.lookup name
  | obj [(name, null)] => admitted.lookup name
  | _ => none

/-- Strings, arrays and objects are told by the first character. -/
lemma IsText.eq_cons_kind {v : Value} {cs : List Char} (hcs : v.IsText cs) (hv : v.IsIntegral) :
    ∃ ch tail, cs = ch :: tail ∧ isSpace ch = false ∧ (ch = 'n' → v = null) ∧
      (ch = '"' → ∃ s, v = str s) ∧ (ch = '[' → ∃ items, v = arr items) ∧
      (ch = '\x7b' → ∃ members, v = obj members) := by
  obtain ⟨ch, tail, rfl, hspace, -, hnull⟩ := hcs.eq_cons hv
  refine ⟨ch, tail, rfl, hspace, hnull, ?_⟩
  cases v with
  | null =>
    cases hcs
    simp
  | bool b => cases b <;> cases hcs <;> simp
  | num n =>
    cases n with
    | double x => cases hv
    | int n =>
      obtain ⟨d, ds, hds, hd⟩ := intChars_eq_cons n
      cases Eq.trans (Eq.symm hds) (Eq.symm hcs)
      refine ⟨?_, ?_, ?_⟩ <;> rintro rfl <;> exact absurd hd (by decide)
  | str s =>
    cases hcs
    simp
  | arr items =>
    obtain ⟨inner, -, h⟩ := hcs
    cases h
    simp
  | obj members =>
    obtain ⟨inner, -, h⟩ := hcs
    cases h
    simp

/-- In front of an item there is no closing bracket. -/
lemma IsItemsText.eq_append_cons {v : Value} {vs : List Value}
    {first : Bool} {cs : List Char} (hcs : IsItemsText (v :: vs) first cs)
    (hv : v.IsIntegral) :
    ∃ w ch tail, IsBlank w ∧ isSpace ch = false ∧ ch ≠ ']' ∧ cs = w ++ ch :: tail := by
  obtain ⟨sep, item, others, hsep, hitem, -, rfl⟩ := hcs
  cases first with
  | true =>
    obtain ⟨ch, tail, rfl, hspace, hend, -⟩ := hitem.eq_cons hv
    exact ⟨sep, ch, tail ++ others, hsep, hspace, hend, by simp⟩
  | false =>
    obtain ⟨w, w', hw, -, rfl⟩ := hsep
    exact ⟨w, ',', w' ++ item ++ others, hw, by decide, by decide, by simp⟩

end Value

section Single

variable {v : Value} {room : Nat} {read : Scan α} {answer : Option α}

/-- What was read may be put into another form. -/
lemma Settles.bind (h : Settles read v answer) (f : α → β) :
    Settles (fun c => (read c).bind fun r => .ok (f r.1, r.2)) v (answer.map f) := by
  intro w cs rest hw hcs hrest offset
  exact (h hw hcs hrest offset).map f

lemma settles_anyValue (hv : v.IsIntegral) (hroom : v.depth ≤ room) :
    Settles (anyValue room) v (some v.canonical) := reads_anyValue hv hroom

lemma settles_textValue (hv : v.IsIntegral) (room : Nat) :
    Settles (textValue room) v v.string? := by
  intro w cs rest hw hcs hrest offset
  by_cases hstr : ∃ s, v = .str s
  · obtain ⟨s, rfl⟩ := hstr
    exact reads_textValue s room hw hcs hrest offset
  · obtain ⟨ch, tail, rfl, hspace, -, hquote, -⟩ := hcs.eq_cons_kind hv
    have hnone : v.string? = none := by
      cases v <;> first | rfl | exact absurd ⟨_, rfl⟩ hstr
    rw [hnone, textValue, scanText, List.append_assoc, List.cons_append,
      skipSpace_append_cons hw hspace]
    split
    · next h =>
      cases h
      exact absurd (hquote rfl) hstr
    · exact ⟨_, rfl⟩

lemma Settles.orNull {read : Nat → Scan α} (h : Settles (read room) v answer)
    (hv : v.IsIntegral) :
    Settles (orNull read room) v (if v = .null then some none else answer.map some) := by
  intro w cs rest hw hcs hrest offset
  by_cases hnull : v = .null
  · rw [if_pos hnull]
    subst hnull
    exact reads_orNull_null read hw hcs hrest offset
  · obtain ⟨ch, tail, rfl, hspace, hn, -⟩ := hcs.eq_cons_kind hv
    have hread := h isBlank_nil hcs hrest (offset + w.length)
    rw [if_neg hnull, Json.orNull, List.append_assoc, List.cons_append,
      skipSpace_append_cons hw hspace]
    split
    · next heq =>
      cases heq
      exact absurd (hn rfl) hnull
    · exact hread.map some

lemma settles_content (hv : v.IsIntegral) (hdepth : v.depth ≤ room) :
    Settles (orNull anyValue room) v (some v.content) := by
  have h := (settles_anyValue hv hdepth).orNull hv
  have hcontent : (if v = .null then some none else (some v.canonical).map some) =
      some v.content := by
    rw [Value.content]
    split <;> rfl
  rwa [hcontent] at h

lemma settles_scanNull (hv : v.IsIntegral) (expected : String) :
    Settles (scanNull expected) v (if v = .null then some () else none) := by
  intro w cs rest hw hcs hrest offset
  by_cases hnull : v = .null
  · rw [if_pos hnull]
    subst hnull
    cases hcs
    rw [scanNull, List.append_assoc, List.cons_append, skipSpace_append_cons hw (by decide)]
    exact ⟨_, rfl⟩
  · obtain ⟨ch, tail, rfl, hspace, hn, -⟩ := hcs.eq_cons_kind hv
    rw [if_neg hnull, scanNull, List.append_assoc, List.cons_append,
      skipSpace_append_cons hw hspace]
    split
    · next heq =>
      cases heq
      exact absurd (hn rfl) hnull
    · exact ⟨_, rfl⟩

/-- A name is read as any other text, and then looked up. -/
lemma ends_scanName (admitted : List (String × α)) (name : String) {w : List Char} (hw : IsBlank w)
    (rest : List Char) (offset : Nat) :
    Ends rest (scanName admitted ⟨w ++ stringChars name ++ rest, offset⟩)
      (admitted.lookup name) := by
  obtain ⟨offset', hscan⟩ := takes_scanString name rest (offset + w.length + 1)
  have htext : scanText "variant identifier" ⟨w ++ stringChars name ++ rest, offset⟩ =
      .ok (name, ⟨rest, offset'⟩) := by
    rw [scanText, List.append_assoc, stringChars_eq, List.cons_append,
      skipSpace_append_cons hw (by decide)]
    exact hscan
  rw [scanName, htext]
  simp only [ok_bind]
  cases admitted.lookup name with
  | none => exact ⟨_, rfl⟩
  | some x => exact ⟨offset', rfl⟩

/-- Scans what follows the name in an object that stands for it. -/
def scanNameEnd (x : α) : Scan α := fun c => do
  let (_, c) ← scanColon c
  let (_, c) ← scanNull "unit" c
  let c := c.skipSpace
  match c.rest with
  | [] => c.fault .endInObject
  | '\x7d' :: _ => .ok (x, c.skip 1)
  | _ => c.fault .expectedValue

lemma nameValue_obj (admitted : List (String × α)) (rest : List Char) (offset : Nat) :
    nameValue admitted (room + 1) ⟨'\x7b' :: rest, offset⟩ =
      scanName admitted ⟨rest, offset + 1⟩ >>= fun r => scanNameEnd r.1 r.2 := rfl

/-- Behind the name of an object that stands for it comes null, and nothing else. -/
lemma ends_scanNameEnd (x : α) (hv : v.IsIntegral) {ms : List (String × Value)}
    {w₁ w₂ value others : List Char} (hw₁ : IsBlank w₁) (hw₂ : IsBlank w₂) (hvalue : v.IsText value)
    (hothers : Value.IsMembersText ms false others) (rest : List Char) (offset : Nat) :
    Ends rest (scanNameEnd x ⟨w₁ ++ ':' :: (w₂ ++ value ++ (others ++ rest)), offset⟩)
      ((if v = .null then some () else none).bind fun _ => if ms = [] then some x else none) := by
  obtain ⟨offset₁, hcolon⟩ := scanColon_append hw₁ (w₂ ++ value ++ (others ++ rest)) offset
  rw [scanNameEnd, hcolon]
  refine (settles_scanNull hv "unit" hw₂ hvalue (hothers.endsNumber rest) offset₁).bind
    fun _ offset₂ => ?_
  cases ms with
  | nil =>
    obtain ⟨w, hw, rfl⟩ := hothers
    have hskip := skipSpace_append_cons hw (show isSpace '\x7d' = false by decide) rest offset₂
    simp only [List.append_assoc, List.singleton_append, hskip]
    exact ⟨_, rfl⟩
  | cons m ms =>
    obtain ⟨_, _, _, _, _, ⟨w, w', hw, -, rfl⟩, -, -, -, -, rfl⟩ := hothers
    have hskip := skipSpace_append_cons hw (show isSpace ',' = false by decide)
    simp only [List.append_assoc, List.cons_append, hskip]
    exact ⟨_, rfl⟩

/-- An object stands for a name if it has that key alone, and null under it. -/
lemma ends_nameValue_obj (admitted : List (String × α)) {ms : List (String × Value)}
    (hms : Value.MembersIntegral ms) {cs : List Char} (hcs : Value.IsMembersText ms true cs)
    (rest : List Char) (offset : Nat) :
    Ends rest (nameValue admitted (room + 1) ⟨'\x7b' :: cs ++ rest, offset⟩)
      ((Value.obj ms).named? admitted) := by
  cases ms with
  | nil =>
    obtain ⟨w, hw, rfl⟩ := hcs
    have htext : ∃ fault, scanName admitted ⟨w ++ '\x7d' :: rest, offset + 1⟩ = .error fault := by
      rw [scanName, scanText, skipSpace_append_cons hw (by decide)]
      exact ⟨_, rfl⟩
    obtain ⟨fault, htext⟩ := htext
    rw [List.cons_append, List.append_assoc, List.singleton_append, nameValue_obj, htext]
    exact ⟨fault, rfl⟩
  | cons m ms =>
    obtain ⟨k, v⟩ := m
    obtain ⟨sep, w₁, w₂, value, others, hsep, hw₁, hw₂, hvalue, hothers, rfl⟩ := hcs
    have hanswer : (Value.obj ((k, v) :: ms)).named? admitted =
        (admitted.lookup k).bind fun x => (if v = .null then some () else none).bind fun _ =>
          if ms = [] then some x else none := by
      cases v <;> cases ms <;> simp [Value.named?]
    have hname := ends_scanName admitted k hsep
      (w₁ ++ ':' :: (w₂ ++ value ++ (others ++ rest))) (offset + 1)
    simp only [List.append_assoc, List.cons_append] at hname ⊢
    rw [hanswer, nameValue_obj]
    refine hname.bind fun x offset₁ => ?_
    have hend := ends_scanNameEnd x hms.1 hw₁ hw₂ hvalue hothers rest offset₁
    rwa [List.append_assoc] at hend

lemma settles_nameValue (admitted : List (String × α)) (hv : v.IsIntegral)
    (hroom : v.depth ≤ room) :
    Settles (nameValue admitted room) v (v.named? admitted) := by
  intro w cs rest hw hcs hrest offset
  obtain ⟨ch, tail, hhead, hspace, -, hquote, -, hbrace⟩ := hcs.eq_cons_kind hv
  have hskip : nameValue admitted room ⟨w ++ cs ++ rest, offset⟩ =
      nameValue admitted room ⟨cs ++ rest, offset + w.length⟩ := by
    rw [hhead, List.append_assoc, List.cons_append]
    simp only [nameValue, skipSpace_append_cons hw hspace, skipSpace_cons hspace]
  rw [hskip]
  clear hskip
  cases v with
  | str name =>
    cases hcs
    exact ends_scanName admitted name isBlank_nil rest _
  | obj ms =>
    obtain ⟨inner, hinner, rfl⟩ := hcs
    obtain ⟨room, rfl⟩ : ∃ n, room = n + 1 := ⟨room - 1, by simp [Value.depth] at hroom; omega⟩
    exact ends_nameValue_obj admitted hv hinner rest _
  | null | bool _ | num _ | arr _ =>
    rw [hhead, List.cons_append, nameValue, skipSpace_cons hspace]
    split
    · exact ⟨_, rfl⟩
    · next heq =>
      cases heq
      obtain ⟨_, ⟨⟩⟩ := hquote rfl
    · next heq =>
      cases heq
      obtain ⟨_, ⟨⟩⟩ := hbrace rfl
    · exact ⟨_, rfl⟩

end Single

/-! ## Whole texts -/

/-- **What a reader settles on for a value is what it gives for each of its texts.** -/
theorem Settles.readText_iff {read : Nat → Scan α} {v : Value} {answer : Option α}
    (h : Settles (read depthLimit) v answer) {w cs w' : List Char} (hw : IsBlank w)
    (hcs : v.IsText cs) (hw' : IsBlank w') (x : α) :
    readText read (String.ofList (w ++ cs ++ w')) = .ok x ↔ answer = some x := by
  cases answer with
  | none =>
    obtain ⟨fault, hread⟩ := h hw hcs (endsNumber_of_isBlank hw') 0
    rw [readText, Cursor.start, String.toList_ofList, hread]
    constructor <;> intro heq <;> cases heq
  | some y =>
    have hread : readText read (String.ofList (w ++ cs ++ w')) = .ok y :=
      Reads.readText_between h hw hcs hw'
    rw [hread, Except.ok.injEq, Option.some.injEq]

end WebviewBridge.Json
