import Mathlib.Data.List.Forall2
import WebviewBridge.Proofs.Json.Leaves

/-!
# Reading the texts of a value

A value has many texts, which differ in the white space between their parts.  `Value.IsText` says
which they are; what the two printers write are two of them (`Value.isText_chars`,
`Value.isText_prettyChars`).  A reader gives back the value of any of its texts, in the form in
which values are kept, if the numbers are integers and the depth is within the limit
(`Value.takes_readValue`).
-/

namespace WebviewBridge.Json

open Cursor

/-- Whether some characters may stand in front of an item or member: a comma between white space,
or white space only in front of the first. -/
def IsSeparator : (first : Bool) → List Char → Prop
  | true, sep => IsBlank sep
  | false, sep => ∃ w w', IsBlank w ∧ IsBlank w' ∧ sep = w ++ ',' :: w'

namespace Value

mutual
/-- Whether some characters are a text of a value. -/
def IsText : Value → List Char → Prop
  | null, cs => cs = ['n', 'u', 'l', 'l']
  | bool true, cs => cs = ['t', 'r', 'u', 'e']
  | bool false, cs => cs = ['f', 'a', 'l', 's', 'e']
  | num n, cs => cs = n.chars
  | str s, cs => cs = stringChars s
  | arr items, cs => ∃ inner, IsItemsText items true inner ∧ cs = '[' :: inner
  | obj members, cs => ∃ inner, IsMembersText members true inner ∧ cs = '\x7b' :: inner
/-- Whether some characters are a text of items, through the closing bracket of their array. -/
def IsItemsText : List Value → (first : Bool) → List Char → Prop
  | [], _, cs => ∃ w, IsBlank w ∧ cs = w ++ [']']
  | v :: vs, first, cs =>
    ∃ sep item others, IsSeparator first sep ∧ IsText v item ∧ IsItemsText vs false others ∧
      cs = sep ++ item ++ others
/-- Whether some characters are a text of members, through the closing brace of their object. -/
def IsMembersText : List (String × Value) → (first : Bool) → List Char → Prop
  | [], _, cs => ∃ w, IsBlank w ∧ cs = w ++ ['\x7d']
  | (k, v) :: ms, first, cs =>
    ∃ sep w w' value others, IsSeparator first sep ∧ IsBlank w ∧ IsBlank w' ∧ IsText v value ∧
      IsMembersText ms false others ∧
        cs = sep ++ stringChars k ++ (w ++ ':' :: w') ++ value ++ others
end

/-! ## What is written is a text -/

lemma separated_cons (comma p : List Char) (ps : List (List Char)) :
    separated comma (p :: ps) = p ++ ps.flatMap (comma ++ ·) := by
  induction ps generalizing p with
  | nil => simp [separated]
  | cons q ps ih => simp [separated, ih]

/-- Items behind a comma and some white space each are a text of an array's items. -/
lemma isItemsText_flatMap {w close : List Char} (hw : IsBlank w) (hclose : IsBlank close)
    {vs : List Value} {texts : List (List Char)} (htexts : List.Forall₂ IsText vs texts) :
    IsItemsText vs false (texts.flatMap ((',' :: w) ++ ·) ++ (close ++ [']'])) := by
  induction htexts with
  | nil => exact ⟨close, hclose, rfl⟩
  | cons hitem _ ih =>
    refine ⟨',' :: w, _, _, ⟨[], w, isBlank_nil, hw, rfl⟩, hitem, ih, ?_⟩
    simp

lemma isText_arr {w close : List Char} (hw : IsBlank w) (hclose : IsBlank close)
    {vs : List Value} {texts : List (List Char)} (htexts : List.Forall₂ IsText vs texts) :
    IsText (arr vs) ('[' :: (w ++ separated (',' :: w) texts ++ (close ++ [']']))) := by
  refine ⟨_, ?_, rfl⟩
  cases htexts with
  | nil =>
    -- with nothing in between, the white space of both ends is one
    refine ⟨w ++ close, ?_, by simp [separated]⟩
    exact fun ch hch => (List.mem_append.1 hch).elim (hw ch) (hclose ch)
  | cons hitem hothers =>
    refine ⟨w, _, _, hw, hitem, isItemsText_flatMap hw hclose hothers, ?_⟩
    simp [separated_cons]

/-- Whether some characters are a text of a member. -/
def IsMemberText (m : String × Value) (cs : List Char) : Prop :=
  ∃ w value, IsBlank w ∧ IsText m.2 value ∧ cs = stringChars m.1 ++ (':' :: w) ++ value

lemma isMembersText_flatMap {w close : List Char} (hw : IsBlank w) (hclose : IsBlank close)
    {ms : List (String × Value)} {texts : List (List Char)}
    (htexts : List.Forall₂ IsMemberText ms texts) :
    IsMembersText ms false (texts.flatMap ((',' :: w) ++ ·) ++ (close ++ ['\x7d'])) := by
  induction htexts with
  | nil => exact ⟨close, hclose, rfl⟩
  | @cons m text ms texts hmember _ ih =>
    obtain ⟨w', value, hw', hvalue, rfl⟩ := hmember
    refine ⟨',' :: w, [], w', value, _, ⟨[], w, isBlank_nil, hw, rfl⟩, isBlank_nil, hw', hvalue,
      ih, ?_⟩
    simp

lemma isText_obj {w close : List Char} (hw : IsBlank w) (hclose : IsBlank close)
    {ms : List (String × Value)} {texts : List (List Char)}
    (htexts : List.Forall₂ IsMemberText ms texts) :
    IsText (obj ms) ('\x7b' :: (w ++ separated (',' :: w) texts ++ (close ++ ['\x7d']))) := by
  refine ⟨_, ?_, rfl⟩
  cases htexts with
  | nil =>
    refine ⟨w ++ close, ?_, by simp [separated]⟩
    exact fun ch hch => (List.mem_append.1 hch).elim (hw ch) (hclose ch)
  | @cons m text ms texts hmember hothers =>
    obtain ⟨w', value, hw', hvalue, rfl⟩ := hmember
    refine ⟨w, [], w', value, _, hw, isBlank_nil, hw', hvalue,
      isMembersText_flatMap hw hclose hothers, ?_⟩
    simp [separated_cons]

mutual
/-- What is written without white space is a text of the value. -/
theorem isText_chars (v : Value) : v.IsText v.chars :=
  match v with
  | null | bool true | bool false | num _ | str _ => rfl
  | arr items => by
    simpa [chars] using isText_arr isBlank_nil isBlank_nil (forall₂_itemChars items)
  | obj members => by
    simpa [chars] using isText_obj isBlank_nil isBlank_nil (forall₂_memberChars members)
theorem forall₂_itemChars (vs : List Value) : List.Forall₂ IsText vs (itemChars vs) :=
  match vs with
  | [] => .nil
  | v :: rest => .cons (isText_chars v) (forall₂_itemChars rest)
theorem forall₂_memberChars (ms : List (String × Value)) :
    List.Forall₂ IsMemberText ms (memberChars ms) :=
  match ms with
  | [] => .nil
  | (_, v) :: rest =>
    .cons ⟨[], v.chars, isBlank_nil, isText_chars v, by simp⟩ (forall₂_memberChars rest)
end

lemma isBlank_newline (level : Nat) : IsBlank (newline level) := by
  intro ch hch
  rcases List.mem_cons.1 hch with rfl | hch
  · decide
  · rw [List.eq_of_mem_replicate hch]
    decide

mutual
/-- What is written over several lines is a text of the value. -/
theorem isText_prettyChars (level : Nat) (v : Value) : v.IsText (v.prettyChars level) :=
  match v with
  | null | bool true | bool false | num _ | str _ => rfl
  | arr [] => ⟨[']'], ⟨[], isBlank_nil, rfl⟩, rfl⟩
  | arr (v :: vs) => by
    simpa [prettyChars] using isText_arr (isBlank_newline (level + 1)) (isBlank_newline level)
      (forall₂_prettyItems (level + 1) (v :: vs))
  | obj [] => ⟨['\x7d'], ⟨[], isBlank_nil, rfl⟩, rfl⟩
  | obj (m :: ms) => by
    simpa [prettyChars] using isText_obj (isBlank_newline (level + 1)) (isBlank_newline level)
      (forall₂_prettyMembers (level + 1) (m :: ms))
theorem forall₂_prettyItems (level : Nat) (vs : List Value) :
    List.Forall₂ IsText vs (prettyItems level vs) :=
  match vs with
  | [] => .nil
  | v :: rest => .cons (isText_prettyChars level v) (forall₂_prettyItems level rest)
theorem forall₂_prettyMembers (level : Nat) (ms : List (String × Value)) :
    List.Forall₂ IsMemberText ms (prettyMembers level ms) :=
  match ms with
  | [] => .nil
  | (_, v) :: rest =>
    .cons ⟨[' '], v.prettyChars level, by simp [IsBlank, isSpace], isText_prettyChars level v, by
      simp⟩ (forall₂_prettyMembers level rest)
end

/-! ## Between the parts -/

/-- No white space begins a number. -/
lemma isSpace_of_begins {ch : Char} (h : ch = '-' ∨ ch.isDigit = true) : isSpace ch = false := by
  rcases h with rfl | hdigit
  · decide
  · simp only [isSpace, Bool.or_eq_false_iff, beq_eq_false_iff_ne]
    refine ⟨⟨⟨?_, ?_⟩, ?_⟩, ?_⟩ <;> rintro rfl <;> exact absurd hdigit (by decide)

/-- The text of a value begins with a character that ends no array and is no white space; it begins
with `n` only if the value is null. -/
lemma IsText.eq_cons {v : Value} {cs : List Char} (hcs : v.IsText cs) (hv : v.IsIntegral) :
    ∃ ch tail, cs = ch :: tail ∧ isSpace ch = false ∧ ch ≠ ']' ∧ (ch = 'n' → v = null) := by
  cases v with
  | null => exact ⟨'n', _, hcs, by decide, by decide, fun _ => rfl⟩
  | bool b =>
    cases b with
    | true => exact ⟨'t', _, hcs, by decide, by decide, nofun⟩
    | false => exact ⟨'f', _, hcs, by decide, by decide, nofun⟩
  | num n =>
    cases n with
    | double x => exact absurd hv nofun
    | int n =>
      obtain ⟨ch, tail, htail, hch⟩ := intChars_eq_cons n
      refine ⟨ch, tail, Eq.trans hcs htail, isSpace_of_begins hch, ?_, ?_⟩ <;> rintro rfl <;>
        exact absurd hch (by decide)
  | str s => exact ⟨'"', _, hcs, by decide, by decide, nofun⟩
  | arr items =>
    obtain ⟨inner, -, rfl⟩ := hcs
    exact ⟨'[', inner, rfl, by decide, by decide, nofun⟩
  | obj members =>
    obtain ⟨inner, -, rfl⟩ := hcs
    exact ⟨'\x7b', inner, rfl, by decide, by decide, nofun⟩

/-- A number ends in front of white space. -/
lemma endsNumber_append {w : List Char} (hw : IsBlank w) {ch : Char} {rest : List Char}
    (hch : EndsNumber (ch :: rest)) : EndsNumber (w ++ ch :: rest) := by
  cases w with
  | nil => exact hch
  | cons b w =>
    intro c hc
    have hspace := hw c (by cases hc; exact List.mem_cons_self)
    simp only [isSpace, Bool.or_eq_true, beq_iff_eq] at hspace
    rcases hspace with ((rfl | rfl) | rfl) | rfl <;> decide

lemma IsItemsText.endsNumber {vs : List Value} {cs : List Char}
    (hcs : IsItemsText vs false cs) (rest : List Char) : EndsNumber (cs ++ rest) := by
  cases vs with
  | nil =>
    obtain ⟨w, hw, rfl⟩ := hcs
    rw [List.append_assoc]
    exact endsNumber_append hw
      (endsNumber_cons (by decide) (by decide) (by decide) (by decide))
  | cons v vs =>
    obtain ⟨sep, item, others, ⟨w, w', hw, hw', rfl⟩, -, -, rfl⟩ := hcs
    simp only [List.append_assoc, List.cons_append]
    exact endsNumber_append hw
      (endsNumber_cons (by decide) (by decide) (by decide) (by decide))

lemma IsMembersText.endsNumber {ms : List (String × Value)} {cs : List Char}
    (hcs : IsMembersText ms false cs) (rest : List Char) : EndsNumber (cs ++ rest) := by
  rcases ms with _ | ⟨⟨k, v⟩, ms⟩
  · obtain ⟨w, hw, rfl⟩ := hcs
    rw [List.append_assoc]
    exact endsNumber_append hw
      (endsNumber_cons (by decide) (by decide) (by decide) (by decide))
  · obtain ⟨sep, v₁, v₂, value, others, ⟨w, w', hw, hw', rfl⟩, -, -, -, -, rfl⟩ := hcs
    simp only [List.append_assoc, List.cons_append]
    exact endsNumber_append hw
      (endsNumber_cons (by decide) (by decide) (by decide) (by decide))

end Value

section Between

variable {first : Bool} {w sep : List Char} {ch : Char}

lemma scanItemStart_end (first : Bool) (hw : IsBlank w) (rest : List Char) (offset : Nat) :
    ∃ offset', scanItemStart first ⟨w ++ ']' :: rest, offset⟩ =
      .ok (false, ⟨']' :: rest, offset'⟩) := by
  refine ⟨offset + w.length, ?_⟩
  rw [scanItemStart, skipSpace_append_cons hw (by decide)]
  rfl

lemma scanItemStart_separator (hsep : IsSeparator first sep) (hspace : isSpace ch = false)
    (hend : ch ≠ ']') (rest : List Char) (offset : Nat) :
    ∃ offset', scanItemStart first ⟨sep ++ ch :: rest, offset⟩ =
      .ok (true, ⟨ch :: rest, offset'⟩) := by
  cases first with
  | true =>
    refine ⟨offset + sep.length, ?_⟩
    simp [scanItemStart, skipSpace_append_cons hsep hspace]
  | false =>
    obtain ⟨w, w', hw, hw', rfl⟩ := hsep
    have hskip : (⟨',' :: (w' ++ ch :: rest), offset + w.length⟩ : Cursor).skip 1 =
      ⟨w' ++ ch :: rest, offset + w.length + 1⟩ := rfl
    refine ⟨offset + w.length + 1 + w'.length, ?_⟩
    simp [scanItemStart, skipSpace_append_cons hw, hskip, skipSpace_append_cons hw' hspace,
      isSpace, hend]

lemma scanMemberStart_end (first : Bool) (hw : IsBlank w) (rest : List Char) (offset : Nat) :
    ∃ offset', scanMemberStart first ⟨w ++ '\x7d' :: rest, offset⟩ =
      .ok (false, ⟨'\x7d' :: rest, offset'⟩) := by
  refine ⟨offset + w.length, ?_⟩
  rw [scanMemberStart, skipSpace_append_cons hw (by decide)]
  rfl

lemma scanMemberStart_separator (hsep : IsSeparator first sep) (rest : List Char) (offset : Nat) :
    ∃ offset', scanMemberStart first ⟨sep ++ '"' :: rest, offset⟩ =
      .ok (true, ⟨'"' :: rest, offset'⟩) := by
  have hspace : isSpace '"' = false := by decide
  cases first with
  | true =>
    refine ⟨offset + sep.length, ?_⟩
    simp [scanMemberStart, skipSpace_append_cons hsep hspace]
  | false =>
    obtain ⟨w, w', hw, hw', rfl⟩ := hsep
    have hskip : (⟨',' :: (w' ++ '"' :: rest), offset + w.length⟩ : Cursor).skip 1 =
      ⟨w' ++ '"' :: rest, offset + w.length + 1⟩ := rfl
    refine ⟨offset + w.length + 1 + w'.length, ?_⟩
    simp [scanMemberStart, skipSpace_append_cons hw, hskip, skipSpace_append_cons hw' hspace,
      isSpace]

lemma scanColon_append (hw : IsBlank w) (rest : List Char) (offset : Nat) :
    ∃ offset', scanColon ⟨w ++ ':' :: rest, offset⟩ = .ok ((), ⟨rest, offset'⟩) := by
  refine ⟨offset + w.length + 1, ?_⟩
  rw [scanColon, skipSpace_append_cons hw (by decide)]
  rfl

/-- The members of an object are read one at a time, each up to its value. -/
lemma scanMember_cons {k : String} {v : Value} {ms : List (String × Value)} {cs : List Char}
    (hcs : Value.IsMembersText ((k, v) :: ms) first cs) (rest : List Char) (offset : Nat) :
    ∃ w value others c₁ c₂ offset', IsBlank w ∧ v.IsText value ∧
      Value.IsMembersText ms false others ∧ value.length + others.length < cs.length ∧
      scanMemberStart first ⟨cs ++ rest, offset⟩ = .ok (true, c₁) ∧ scanKey c₁ = .ok (k, c₂) ∧
      scanColon c₂ = .ok ((), ⟨w ++ value ++ (others ++ rest), offset'⟩) := by
  obtain ⟨sep, w, w', value, others, hsep, hw, hw', hvalue, hothers, rfl⟩ := hcs
  obtain ⟨offset₁, hstart⟩ := scanMemberStart_separator hsep
    (k.toList.flatMap escapeChar ++ ['"'] ++ (w ++ ':' :: (w' ++ (value ++ (others ++ rest)))))
    offset
  obtain ⟨offset₂, hkey⟩ :=
    takes_scanKey k (w ++ ':' :: (w' ++ (value ++ (others ++ rest)))) offset₁
  obtain ⟨offset₃, hcolon⟩ := scanColon_append hw (w' ++ (value ++ (others ++ rest))) offset₂
  refine ⟨w', value, others, _, _, offset₃, hw', hvalue, hothers, ?_, ?_, hkey, ?_⟩
  · simp only [List.length_append, List.length_cons]
    omega
  · simpa only [stringChars_eq, List.append_assoc, List.cons_append] using hstart
  · rw [hcolon, List.append_assoc]

end Between

/-! ## Reading -/

section FirstCharacter

variable (steps room : Nat) (rest : List Char) (offset : Nat)

lemma readValue_append {w : List Char} (hw : IsBlank w) {ch : Char} (hch : isSpace ch = false) :
    readValue (steps + 1) room ⟨w ++ ch :: rest, offset⟩ =
      readValue (steps + 1) room ⟨ch :: rest, offset + w.length⟩ := by
  cases room <;> simp only [readValue, skipSpace_append_cons hw hch, skipSpace_cons hch]

lemma readValue_null :
    readValue (steps + 1) room ⟨'n' :: 'u' :: 'l' :: 'l' :: rest, offset⟩ =
      .ok (.null, ⟨rest, offset + 4⟩) := by
  cases room <;> rfl

lemma readValue_true :
    readValue (steps + 1) room ⟨'t' :: 'r' :: 'u' :: 'e' :: rest, offset⟩ =
      .ok (.bool true, ⟨rest, offset + 4⟩) := by
  cases room <;> rfl

lemma readValue_false :
    readValue (steps + 1) room ⟨'f' :: 'a' :: 'l' :: 's' :: 'e' :: rest, offset⟩ =
      .ok (.bool false, ⟨rest, offset + 5⟩) := by
  cases room <;> rfl

lemma readValue_str :
    readValue (steps + 1) room ⟨'"' :: rest, offset⟩ =
      (scanString ⟨rest, offset + 1⟩).bind fun r => .ok (.str r.1, r.2) := by
  cases room <;> rfl

lemma readValue_arr :
    readValue (steps + 1) (room + 1) ⟨'[' :: rest, offset⟩ =
      (readItems steps room true ⟨rest, offset + 1⟩).bind fun r => .ok (.arr r.1, r.2) := rfl

lemma readValue_obj :
    readValue (steps + 1) (room + 1) ⟨'\x7b' :: rest, offset⟩ =
      (readMembers steps room true ⟨rest, offset + 1⟩).bind fun r =>
        .ok (Value.object r.1, r.2) := rfl

lemma readValue_num {ch : Char} (hch : ch = '-' ∨ ch.isDigit = true) :
    readValue (steps + 1) room ⟨ch :: rest, offset⟩ =
      (scanNumber ⟨ch :: rest, offset⟩).bind fun r => .ok (.num r.1, r.2) := by
  have hspace := skipSpace_cons (Value.isSpace_of_begins hch) rest offset
  have hne : ch ≠ 'n' ∧ ch ≠ 't' ∧ ch ≠ 'f' ∧ ch ≠ '"' ∧ ch ≠ '[' ∧ ch ≠ '\x7b' := by
    refine ⟨?_, ?_, ?_, ?_, ?_, ?_⟩ <;> rintro rfl <;> revert hch <;> decide
  cases room <;> simp [readValue, hspace, hne, hch] <;> rfl

end FirstCharacter

namespace Value

-- A value takes a step, and as an item or member another one, and each has a character at least:
-- twice as many steps as characters are enough.
mutual
/-- **A value is read from any of its texts**, in the form in which values are kept. -/
theorem takes_readValue (v : Value) (hv : v.IsIntegral) {room steps : Nat} (hroom : v.depth ≤ room)
    {w cs rest : List Char} (hw : IsBlank w) (hcs : v.IsText cs) (hrest : EndsNumber rest)
    (hsteps : 2 * cs.length ≤ steps) :
    Takes (readValue steps room) (w ++ cs) rest v.canonical := by
  intro offset
  obtain ⟨ch, tail, hhead, hspace, -⟩ := hcs.eq_cons hv
  obtain ⟨steps, rfl⟩ : ∃ n, steps = n + 1 := ⟨steps - 1, by simp [hhead] at hsteps; omega⟩
  -- white space in front of the value makes no difference
  have hskip : readValue (steps + 1) room ⟨w ++ cs ++ rest, offset⟩ =
      readValue (steps + 1) room ⟨cs ++ rest, offset + w.length⟩ := by
    rw [hhead, List.append_assoc, List.cons_append, readValue_append _ _ _ _ hw hspace]
  rw [hskip]
  clear hskip hhead hspace
  match v with
  | null =>
    cases hcs
    exact ⟨_, readValue_null steps room rest _⟩
  | bool true =>
    cases hcs
    exact ⟨_, readValue_true steps room rest _⟩
  | bool false =>
    cases hcs
    exact ⟨_, readValue_false steps room rest _⟩
  | num (.double x) => exact absurd hv nofun
  | num (.int n) =>
    cases hcs
    obtain ⟨offset', hscan⟩ := takes_scanNumber hv hrest (offset + w.length)
    obtain ⟨ch, tail, htail, hch⟩ := intChars_eq_cons n
    change ∃ offset', readValue (steps + 1) room ⟨intChars n ++ rest, _⟩ = _
    rw [htail, List.cons_append] at hscan ⊢
    rw [readValue_num _ _ _ _ hch, hscan]
    exact ⟨offset', rfl⟩
  | str s =>
    cases hcs
    obtain ⟨offset', hscan⟩ := takes_scanString s rest (offset + w.length + 1)
    rw [stringChars_eq, List.cons_append, readValue_str, hscan]
    exact ⟨offset', rfl⟩
  | arr items =>
    obtain ⟨inner, hinner, rfl⟩ := hcs
    rw [depth] at hroom
    obtain ⟨room, rfl⟩ : ∃ n, room = n + 1 := ⟨room - 1, by omega⟩
    rw [List.length_cons] at hsteps
    have hlast : 2 * inner.length + 1 ≤ steps := by omega
    obtain ⟨offset', hread⟩ := takes_readItems items hv (Nat.le_of_succ_le_succ hroom) rest hinner
      hlast (offset + w.length + 1)
    rw [List.cons_append, readValue_arr, hread]
    exact ⟨offset', rfl⟩
  | obj members =>
    obtain ⟨inner, hinner, rfl⟩ := hcs
    rw [depth] at hroom
    obtain ⟨room, rfl⟩ : ∃ n, room = n + 1 := ⟨room - 1, by omega⟩
    rw [List.length_cons] at hsteps
    have hlast : 2 * inner.length + 1 ≤ steps := by omega
    obtain ⟨offset', hread⟩ := takes_readMembers members hv (Nat.le_of_succ_le_succ hroom) rest
      hinner hlast (offset + w.length + 1)
    rw [List.cons_append, readValue_obj, hread]
    exact ⟨offset', rfl⟩
theorem takes_readItems (vs : List Value) (hvs : ItemsIntegral vs) {room steps : Nat}
    (hroom : itemsDepth vs ≤ room) {first : Bool} {cs : List Char} (rest : List Char)
    (hcs : IsItemsText vs first cs) (hsteps : 2 * cs.length + 1 ≤ steps) :
    Takes (readItems steps room first) cs rest (canonicalItems vs) := by
  intro offset
  obtain ⟨steps, rfl⟩ : ∃ n, steps = n + 1 := ⟨steps - 1, by omega⟩
  match vs with
  | [] =>
    obtain ⟨w, hw, rfl⟩ := hcs
    obtain ⟨offset', hstart⟩ := scanItemStart_end first hw rest offset
    rw [List.append_assoc, List.singleton_append, readItems, hstart]
    exact ⟨_, rfl⟩
  | v :: vs =>
    obtain ⟨sep, item, others, hsep, hitem, hothers, rfl⟩ := hcs
    rw [itemsDepth] at hroom
    obtain ⟨hitemRoom, hothersRoom⟩ := Nat.max_le.1 hroom
    obtain ⟨ch, tail, htail, hspace, hend, -⟩ := hitem.eq_cons hvs.1
    have hlength : 1 ≤ item.length := by rw [htail]; exact Nat.le_add_left 1 _
    simp only [List.length_append] at hsteps
    obtain ⟨offset₁, hstart⟩ :=
      scanItemStart_separator hsep hspace hend (tail ++ (others ++ rest)) offset
    have hitemSteps : 2 * item.length ≤ steps := by omega
    have hothersSteps : 2 * others.length + 1 ≤ steps := by omega
    obtain ⟨offset₂, hfirst⟩ := takes_readValue v hvs.1 hitemRoom isBlank_nil hitem
      (hothers.endsNumber rest) hitemSteps offset₁
    obtain ⟨offset₃, hlast⟩ :=
      takes_readItems vs hvs.2 hothersRoom rest hothers hothersSteps offset₂
    refine ⟨offset₃, ?_⟩
    rw [List.nil_append, htail] at hfirst
    rw [htail, List.append_assoc, List.append_assoc, List.cons_append, readItems, hstart]
    rw [List.cons_append] at hfirst
    simp only [ok_bind, if_true, hfirst, hlast]
    rfl
theorem takes_readMembers (ms : List (String × Value)) (hms : MembersIntegral ms)
    {room steps : Nat} (hroom : membersDepth ms ≤ room) {first : Bool} {cs : List Char}
    (rest : List Char) (hcs : IsMembersText ms first cs) (hsteps : 2 * cs.length + 1 ≤ steps) :
    Takes (readMembers steps room first) cs rest (canonicalMembers ms) := by
  intro offset
  obtain ⟨steps, rfl⟩ : ∃ n, steps = n + 1 := ⟨steps - 1, by omega⟩
  match ms with
  | [] =>
    obtain ⟨w, hw, rfl⟩ := hcs
    obtain ⟨offset', hstart⟩ := scanMemberStart_end first hw rest offset
    rw [List.append_assoc, List.singleton_append, readMembers, hstart]
    exact ⟨_, rfl⟩
  | (k, v) :: ms =>
    rw [membersDepth] at hroom
    obtain ⟨hvalueRoom, hothersRoom⟩ := Nat.max_le.1 hroom
    obtain ⟨w, value, others, c₁, c₂, offset₁, hw, hvalue, hothers, hlength, hstart, hkey,
      hcolon⟩ := scanMember_cons hcs rest offset
    have hvalueSteps : 2 * value.length ≤ steps := by omega
    have hothersSteps : 2 * others.length + 1 ≤ steps := by omega
    obtain ⟨offset₂, hfirst⟩ := takes_readValue v hms.1 hvalueRoom hw hvalue
      (hothers.endsNumber rest) hvalueSteps offset₁
    obtain ⟨offset₃, hlast⟩ :=
      takes_readMembers ms hms.2 hothersRoom rest hothers hothersSteps offset₂
    refine ⟨offset₃, ?_⟩
    simp only [readMembers, hstart, ok_bind, if_true, hkey, hcolon, hfirst, hlast]
    rfl
end

end Value

end WebviewBridge.Json
