import WebviewBridge.Json.Canonical
import WebviewBridge.Json.Printer
import WebviewBridge.Json.Reader
import WebviewBridge.Proofs.Except

/-!
# Reading the leaves that were written

A scan takes the characters that a string or an integer was written in off the front of any text,
and gives back what was written (`takes_scanString`, `takes_scanNumber`).  The offsets count bytes
for refusals only, so no statement here names them.
-/

namespace WebviewBridge.Json

open Cursor

variable {α : Type}

/-- A scan takes some characters off the front of a text with a given rest, and gives `x`. -/
def Takes (scan : Scan α) (cs rest : List Char) (x : α) : Prop :=
  ∀ offset, ∃ offset', scan ⟨cs ++ rest, offset⟩ = .ok (x, ⟨rest, offset'⟩)

/-! ## White space -/

/-- Whether some characters are white space only. -/
def IsBlank (w : List Char) : Prop := ∀ ch ∈ w, isSpace ch = true

lemma isBlank_nil : IsBlank [] := nofun

/-- White space in front is passed over with all that follows it. -/
lemma skipSpace_append {w : List Char} (hw : IsBlank w) (cs : List Char) (offset : Nat) :
    skipSpace ⟨w ++ cs, offset⟩ = skipSpace ⟨cs, offset + w.length⟩ := by
  simp only [skipSpace, List.dropWhile_append_of_pos hw, List.takeWhile_append_of_pos hw,
    List.length_append, Nat.add_assoc]

/-- Nothing is passed over in front of a character that is no white space. -/
lemma skipSpace_cons {ch : Char} (h : isSpace ch = false) (cs : List Char) (offset : Nat) :
    skipSpace ⟨ch :: cs, offset⟩ = ⟨ch :: cs, offset⟩ := by
  simp [skipSpace, h]

lemma skipSpace_append_cons {w : List Char} (hw : IsBlank w) {ch : Char} (h : isSpace ch = false)
    (cs : List Char) (offset : Nat) :
    skipSpace ⟨w ++ ch :: cs, offset⟩ = ⟨ch :: cs, offset + w.length⟩ := by
  rw [skipSpace_append hw, skipSpace_cons h]

/-! ## Strings -/

/-- The digits of a number below sixteen are read back. -/
lemma hexValue?_digitChar {n : Nat} (hn : n < 16) : hexValue? (Nat.digitChar n) = some n := by
  have all : ∀ n : Fin 16, hexValue? (Nat.digitChar n) = some n.val := by decide +kernel
  exact all ⟨n, hn⟩

/-- A `\u` escape of a control character is read back. -/
lemma scanCodePoint_control {c : Char} {a b : Char} (hc : c.toNat < 0x20)
    (hab : hexNumber? '0' '0' a b = some c.toNat) (rest : List Char) (offset : Nat) :
    scanCodePoint ⟨'0' :: '0' :: a :: b :: rest, offset⟩ = .ok (c, ⟨rest, offset + 4⟩) := by
  have hhex : scanHex ⟨'0' :: '0' :: a :: b :: rest, offset⟩ =
      .ok (c.toNat, ⟨rest, offset + 4⟩) := by
    simp only [scanHex, hab]
  have htrailing : isTrailing c.toNat = false := by
    simp only [isTrailing, Bool.and_eq_false_iff, decide_eq_false_iff_not]
    omega
  have hleading : isLeading c.toNat = false := by
    simp only [isLeading, Bool.and_eq_false_iff, decide_eq_false_iff_not]
    omega
  rw [scanCodePoint, hhex]
  change (if isTrailing c.toNat = true then _ else if isLeading c.toNat = true then _ else _) = _
  rw [htrailing, hleading, Char.ofNat_toNat]
  rfl

/-- It is passed over as well. -/
lemma passEscape_control {n : Nat} {a b : Char} (hab : hexNumber? '0' '0' a b = some n)
    (rest : List Char) (offset : Nat) :
    passEscape ⟨'u' :: '0' :: '0' :: a :: b :: rest, offset⟩ = .ok ((), ⟨rest, offset + 5⟩) := by
  have hhex : scanHex ⟨'0' :: '0' :: a :: b :: rest, offset + 1⟩ =
      .ok (n, ⟨rest, offset + 1 + 4⟩) := by
    simp only [scanHex, hab]
  simp only [passEscape, if_true, hhex, ok_bind]

/-- The characters with an escape of one letter. -/
def lettered : List Char := ['"', '\\', '\x08', '\x0c', '\n', '\r', '\t']

/-- Such an escape is read and passed over alike. -/
lemma escapeChar_of_mem_lettered {c : Char} (h : c ∈ lettered) :
    ∃ e, escapeChar c = ['\\', e] ∧
      ∀ rest offset, scanEscape ⟨e :: rest, offset⟩ = .ok (c, ⟨rest, offset + 1⟩) ∧
        passEscape ⟨e :: rest, offset⟩ = .ok ((), ⟨rest, offset + 1⟩) := by
  simp only [lettered, List.mem_cons, List.not_mem_nil, or_false] at h
  rcases h with rfl | rfl | rfl | rfl | rfl | rfl | rfl <;>
    exact ⟨_, rfl, fun rest offset => ⟨rfl, rfl⟩⟩

/-- Control characters without such an escape are written by their numbers. -/
lemma escapeChar_of_not_mem_lettered {c : Char} (h : c ∉ lettered) :
    escapeChar c =
      if c.toNat < 0x10 then ['\\', 'u', '0', '0', '0', Nat.digitChar c.toNat]
      else if c.toNat < 0x20 then ['\\', 'u', '0', '0', '1', Nat.digitChar (c.toNat - 0x10)]
      else [c] := by
  simp only [lettered, List.mem_cons, List.not_mem_nil, or_false, not_or] at h
  obtain ⟨hquote, hslash, hb, hf, hn, hr, ht⟩ := h
  rw [escapeChar, if_neg hquote, if_neg hslash, if_neg hb, if_neg hf, if_neg hn, if_neg hr,
    if_neg ht]

/-- Whatever stands for a character in a string: the character itself, or an escape of it, which is
read and passed over alike. -/
lemma escapeChar_cases (c : Char) :
    (escapeChar c = [c] ∧ c ≠ '"' ∧ c ≠ '\\' ∧ ¬c.toNat < 0x20) ∨
      ∃ e, escapeChar c = '\\' :: e ∧
        ∀ rest offset, scanEscape ⟨e ++ rest, offset⟩ = .ok (c, ⟨rest, offset + e.length⟩) ∧
          passEscape ⟨e ++ rest, offset⟩ = .ok ((), ⟨rest, offset + e.length⟩) := by
  by_cases hmem : c ∈ lettered
  · obtain ⟨e, hescape, hread⟩ := escapeChar_of_mem_lettered hmem
    exact Or.inr ⟨[e], hescape, hread⟩
  rw [escapeChar_of_not_mem_lettered hmem]
  -- the control characters below sixteen and from sixteen differ in one digit
  split
  · next hlow =>
    have hhex : hexNumber? '0' '0' '0' (Nat.digitChar c.toNat) = some c.toNat := by
      simp only [hexNumber?, hexValue?_digitChar hlow]
      simp [hexValue?]
    exact Or.inr ⟨_, rfl, fun rest offset => ⟨scanCodePoint_control (by omega) hhex rest _,
      passEscape_control hhex rest offset⟩⟩
  split
  · next hcontrol =>
    have hhex : hexNumber? '0' '0' '1' (Nat.digitChar (c.toNat - 0x10)) = some c.toNat := by
      simp only [hexNumber?, hexValue?_digitChar (show c.toNat - 0x10 < 16 by omega)]
      simp [hexValue?]
      omega
    exact Or.inr ⟨_, rfl, fun rest offset => ⟨scanCodePoint_control hcontrol hhex rest _,
      passEscape_control hhex rest offset⟩⟩
  · next hcontrol =>
    refine Or.inl ⟨rfl, ?_, ?_, hcontrol⟩
    · rintro rfl
      exact hmem (by decide)
    · rintro rfl
      exact hmem (by decide)

/-- Each character of a string is taken off the front in turn. -/
lemma scanStringFrom_escapeChar (c : Char) (cs : List Char) (steps offset : Nat) :
    ∃ offset', scanStringFrom (steps + 1) ⟨escapeChar c ++ cs, offset⟩ =
      (scanStringFrom steps ⟨cs, offset'⟩).map fun r => (c :: r.1, r.2) := by
  rcases escapeChar_cases c with ⟨hself, hquote, hslash, hcontrol⟩ | ⟨e, hescape, hscan⟩
  · refine ⟨offset + c.utf8Size, ?_⟩
    rw [hself, List.singleton_append, scanStringFrom]
    split
    · next h => cases h
    · next h =>
      cases h
      exact absurd rfl hquote
    · next h =>
      cases h
      exact absurd rfl hslash
    · next h =>
      cases h
      rw [if_neg hcontrol]
      rcases scanStringFrom steps ⟨cs, offset + c.utf8Size⟩ with _ | ⟨_, _⟩ <;> rfl
  · refine ⟨offset + 1 + e.length, ?_⟩
    rw [hescape, List.cons_append, scanStringFrom]
    simp only [(hscan cs (offset + 1)).1, ok_bind]
    rcases scanStringFrom steps ⟨cs, offset + 1 + e.length⟩ with _ | ⟨_, _⟩ <;> rfl

lemma scanStringFrom_escaped (cs rest : List Char) {steps : Nat} (hsteps : cs.length < steps)
    (offset : Nat) :
    ∃ offset', scanStringFrom steps ⟨cs.flatMap escapeChar ++ '"' :: rest, offset⟩ =
      .ok (cs, ⟨rest, offset'⟩) := by
  induction cs generalizing steps offset with
  | nil =>
    cases steps with
    | zero => cases hsteps
    | succ steps => exact ⟨offset + 1, rfl⟩
  | cons c cs ih =>
    cases steps with
    | zero => cases hsteps
    | succ steps =>
      rw [List.flatMap_cons, List.append_assoc]
      obtain ⟨offset₁, hfirst⟩ :=
        scanStringFrom_escapeChar c (cs.flatMap escapeChar ++ '"' :: rest) steps offset
      obtain ⟨offset₂, hothers⟩ := ih (Nat.lt_of_succ_lt_succ hsteps) offset₁
      exact ⟨offset₂, by rw [hfirst, hothers]; rfl⟩

lemma length_le_length_flatMap_escapeChar (cs : List Char) :
    cs.length ≤ (cs.flatMap escapeChar).length := by
  induction cs with
  | nil => exact Nat.le_refl 0
  | cons c cs ih =>
    have hc : 1 ≤ (escapeChar c).length := by
      rcases escapeChar_cases c with ⟨h, -⟩ | ⟨e, h, -⟩ <;> simp [h]
    rw [List.flatMap_cons, List.length_append, List.length_cons]
    omega

/-- A string is taken from behind its opening quote, through the closing one. -/
lemma takes_scanString (s : String) (rest : List Char) :
    Takes scanString (s.toList.flatMap escapeChar ++ ['"']) rest s := by
  intro offset
  have hlength := length_le_length_flatMap_escapeChar s.toList
  have hsteps : s.toList.length < (s.toList.flatMap escapeChar ++ '"' :: rest).length + 1 := by
    rw [List.length_append]
    omega
  obtain ⟨offset', hscan⟩ := scanStringFrom_escaped s.toList rest hsteps offset
  refine ⟨offset', ?_⟩
  rw [List.append_assoc, List.singleton_append, scanString, hscan]
  change Except.ok (String.ofList s.toList, _) = _
  rw [String.ofList_toList]

lemma stringChars_eq (s : String) :
    stringChars s = '"' :: (s.toList.flatMap escapeChar ++ ['"']) := rfl

/-- The key of a member is taken with both its quotes. -/
lemma takes_scanKey (k : String) (rest : List Char) : Takes scanKey (stringChars k) rest k := by
  intro offset
  exact takes_scanString k rest _

/-! ## Integers -/

/-- Whether a text cannot go on with a number that ends in front of it. -/
def EndsNumber (rest : List Char) : Prop :=
  ∀ ch ∈ rest.head?, ch.isDigit = false ∧ ch ≠ '.' ∧ ch ≠ 'e' ∧ ch ≠ 'E'

lemma endsNumber_nil : EndsNumber [] := nofun

lemma endsNumber_cons {ch : Char} {rest : List Char} (hdigit : ch.isDigit = false) (hdot : ch ≠ '.')
    (hlower : ch ≠ 'e') (hupper : ch ≠ 'E') : EndsNumber (ch :: rest) := by
  intro c hc
  cases hc
  exact ⟨hdigit, hdot, hlower, hupper⟩

/-- White space ends a number. -/
lemma endsNumber_of_isBlank {w : List Char} (hw : IsBlank w) : EndsNumber w := by
  intro ch hch
  have hspace := hw ch (List.mem_of_mem_head? hch)
  simp only [isSpace, Bool.or_eq_true, beq_iff_eq] at hspace
  rcases hspace with ((rfl | rfl) | rfl) | rfl <;> decide

/-- Digits are taken up to where the number ends. -/
lemma takeDigits_append {ds rest : List Char} (hds : ∀ d ∈ ds, d.isDigit = true)
    (hrest : EndsNumber rest) (offset : Nat) :
    takeDigits ⟨ds ++ rest, offset⟩ = (ds, ⟨rest, offset + ds.length⟩) := by
  have hend : rest.takeWhile Char.isDigit = [] ∧ rest.dropWhile Char.isDigit = rest := by
    cases rest with
    | nil => exact ⟨rfl, rfl⟩
    | cons ch rest =>
      have hch := (hrest ch rfl).1
      simp [hch]
  simp only [takeDigits, List.takeWhile_append_of_pos hds, List.dropWhile_append_of_pos hds,
    hend.1, hend.2, List.append_nil]

/-- Digits fit into a significand as long as their number does. -/
lemma extendSignificand_eq {ds : List Char} {s : Nat}
    (h : Nat.ofDigitChars 10 ds s ≤ significandLimit) :
    extendSignificand s ds = (Nat.ofDigitChars 10 ds s, []) := by
  induction ds generalizing s with
  | nil => rw [extendSignificand, Nat.ofDigitChars_nil]
  | cons d ds ih =>
    rw [Nat.ofDigitChars_cons] at h ⊢
    -- the number only grows with further digits
    have hgrows : 10 * s + (d.toNat - '0'.toNat) ≤
        Nat.ofDigitChars 10 ds (10 * s + (d.toNat - '0'.toNat)) := by
      rw [Nat.ofDigitChars_eq_ofDigitChars_zero]
      have hfactor := Nat.le_mul_of_pos_left (10 * s + (d.toNat - '0'.toNat))
        (Nat.pow_pos (n := ds.length) (show 0 < 10 by decide))
      omega
    rw [extendSignificand, digitValue]
    simp only [gt_iff_lt]
    rw [if_neg (by omega), ih h]

/-- What follows the digits of an integer decides that it is one. -/
lemma scanAfterInteger_of_endsNumber {negative : Bool} {n : Nat} {x : Number} {rest : List Char}
    (hx : integerNumber negative n = some x) (hrest : EndsNumber rest) (offset : Nat) :
    scanAfterInteger negative n 0 ⟨rest, offset⟩ = .ok (x, ⟨rest, offset⟩) := by
  rw [scanAfterInteger]
  split
  · next heq =>
    change rest = _ at heq
    exact absurd rfl (hrest _ (by rw [heq]; rfl)).2.1
  · next heq =>
    change rest = _ at heq
    exact absurd rfl (hrest _ (by rw [heq]; rfl)).2.2.1
  · next heq =>
    change rest = _ at heq
    exact absurd rfl (hrest _ (by rw [heq]; rfl)).2.2.2
  · rw [if_pos rfl, hx]

/-- A natural number begins with a zero only if it is zero. -/
lemma toDigits_eq_cons {n : Nat} (hn : n ≠ 0) :
    ∃ d ds, Nat.toDigits 10 n = d :: ds ∧ d ≠ '0' := by
  induction n using Nat.base_induction 10 (by decide) with
  | single m hm =>
    exact ⟨m.digitChar, [], Nat.toDigits_of_lt_base hm, by simpa using hn⟩
  | digit m k hk hm ih =>
    obtain ⟨d, ds, hds, hd⟩ := ih (Nat.ne_of_gt hm)
    refine ⟨d, ds ++ Nat.toDigits 10 k, ?_, hd⟩
    rw [← Nat.toDigits_append_toDigits (by decide) hm hk, hds, List.cons_append]

/-- A natural number is taken in decimal, with either sign in front. -/
lemma takes_scanUnsigned {negative : Bool} {n : Nat} {x : Number}
    (hn : n ≤ significandLimit) (hx : integerNumber negative n = some x) {rest : List Char}
    (hrest : EndsNumber rest) : Takes (scanUnsigned negative) (Nat.toDigits 10 n) rest x := by
  intro offset
  -- a zero stands alone, and no other number begins with one
  by_cases hzero : n = 0
  · subst hzero
    refine ⟨offset + 1, ?_⟩
    have hnil : ∀ d ∈ ([] : List Char), d.isDigit = true := nofun
    have hnone := takeDigits_append hnil hrest (offset + 1)
    rw [List.nil_append] at hnone
    have hskip : (⟨'0' :: rest, offset⟩ : Cursor).skip 1 = ⟨rest, offset + 1⟩ := rfl
    rw [Nat.toDigits_zero, List.singleton_append, scanUnsigned]
    simp only [if_true, hskip, hnone, List.isEmpty_nil]
    exact scanAfterInteger_of_endsNumber hx hrest _
  · have hdigits : ∀ d ∈ Nat.toDigits 10 n, d.isDigit = true := fun d hd =>
      Nat.isDigit_of_mem_toDigits (by decide) (by decide) hd
    have hall := takeDigits_append hdigits hrest offset
    have hvalue : extendSignificand 0 (Nat.toDigits 10 n) = (n, []) := by
      rw [extendSignificand_eq (by rwa [Nat.ofDigitChars_ten_toDigits]),
        Nat.ofDigitChars_ten_toDigits]
    obtain ⟨d, ds, hds, hd⟩ := toDigits_eq_cons hzero
    have hisDigit : d.isDigit = true := hdigits d (by rw [hds]; exact List.mem_cons_self)
    refine ⟨offset + (Nat.toDigits 10 n).length, ?_⟩
    rw [hds] at hall hvalue ⊢
    rw [List.cons_append] at hall ⊢
    rw [scanUnsigned]
    simp only [if_neg hd, hisDigit, if_true, hall, hvalue]
    exact scanAfterInteger_of_endsNumber hx hrest _

/-- The characters of an integer begin with a minus sign or a digit. -/
lemma intChars_eq_cons (n : Int) :
    ∃ ch cs, intChars n = ch :: cs ∧ (ch = '-' ∨ ch.isDigit = true) := by
  have hdigits : ∀ d ∈ Nat.toDigits 10 n.natAbs, d.isDigit = true := fun d hd =>
    Nat.isDigit_of_mem_toDigits (by decide) (by decide) hd
  rw [intChars]
  split
  · exact ⟨'-', _, rfl, Or.inl rfl⟩
  · cases hds : Nat.toDigits 10 n.natAbs with
    | nil => exact absurd hds Nat.toDigits_ne_nil
    | cons d ds =>
      exact ⟨d, ds, rfl, Or.inr (hdigits d (by rw [hds]; exact List.mem_cons_self))⟩

/-- An integer in range is taken in decimal. -/
lemma takes_scanNumber {n : Int} (hn : (Number.int n).IsInteger) {rest : List Char}
    (hrest : EndsNumber rest) : Takes scanNumber (intChars n) rest (.int n) := by
  have hlimit : significandLimit = 2 ^ 64 - 1 := by decide
  have hhalf : UInt64.size / 2 = 2 ^ 63 := by decide
  have hpow : (2 : Int).pow 63 = 2 ^ 63 := rfl
  have hsize : UInt64.size = 2 ^ 64 := rfl
  rw [Number.IsInteger, hpow, hsize] at hn
  -- below zero there is room for half as many numbers
  by_cases hneg : n < 0
  · have hx : integerNumber true n.natAbs = some (.int n) := by
      rw [integerNumber, if_pos rfl, if_neg (by rw [hhalf]; omega)]
      congr 2
      omega
    intro offset
    rw [intChars, if_pos hneg]
    exact takes_scanUnsigned (by omega) hx hrest _
  · have hx : integerNumber false n.natAbs = some (.int n) := by
      rw [integerNumber, if_neg (by decide)]
      congr 2
      omega
    intro offset
    obtain ⟨offset', hscan⟩ := takes_scanUnsigned (by omega) hx hrest offset
    refine ⟨offset', ?_⟩
    rw [← hscan]
    obtain ⟨ch, cs, hcs, hch⟩ := intChars_eq_cons n
    rw [intChars, if_neg hneg] at hcs ⊢
    -- a natural number does not begin with a minus sign
    have hmem : ch ∈ Nat.toDigits 10 n.natAbs := by rw [hcs]; exact List.mem_cons_self
    have hdigit : ch.isDigit = true :=
      Nat.isDigit_of_mem_toDigits (by decide) (by decide) hmem
    rw [hcs, List.cons_append, scanNumber]
    split
    · next heq =>
      cases heq
      exact absurd hdigit (by decide)
    · rfl

end WebviewBridge.Json
