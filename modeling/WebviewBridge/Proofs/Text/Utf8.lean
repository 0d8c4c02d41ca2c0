import Mathlib.Tactic.IntervalCases
import Mathlib.Tactic.Lemma
import WebviewBridge.Text.Utf8

/-!
# Text through bytes

The bytes of a text are taken apart into the characters that they came from
(`Text.decodeLossy_encode`).  A character of more than one byte has a lead byte that holds its
highest bits and bounds the byte after it, and each further byte holds six bits more.
-/

namespace WebviewBridge.Text

/-! ## Lead bytes -/

lemma leadByte?_two {x : Nat} (hx : 2 ≤ x) (hx' : x < 32) :
    leadByte? (x + 0xc0) = some ⟨1, x, 0x80, 0xbf⟩ := by
  interval_cases x <;> rfl

/-- The lead byte of three bytes; the byte after it is bounded where a character of fewer bytes, or
a surrogate, would come out. -/
lemma leadByte?_three {x : Nat} (hx : x < 16) :
    leadByte? (x + 0xe0) =
      some ⟨2, x, if x = 0 then 0xa0 else 0x80, if x = 13 then 0x9f else 0xbf⟩ := by
  interval_cases x <;> rfl

/-- The lead byte of four bytes; the byte after it is bounded where a character of fewer bytes, or
none at all, would come out. -/
lemma leadByte?_four {x : Nat} (hx : x < 5) :
    leadByte? (x + 0xf0) =
      some ⟨3, x, if x = 0 then 0x90 else 0x80, if x = 4 then 0x8f else 0xbf⟩ := by
  interval_cases x <;> rfl

/-! ## Characters -/

lemma toNat_byte {n : Nat} (hn : n < 256) : (UInt8.ofNat n).toNat = n :=
  UInt8.toNat_ofNat_of_lt' hn

/-- A byte within its bounds adds six bits. -/
lemma continueChar_cons (n bits x : Nat) {least greatest : Nat} (bs : List UInt8)
    (hleast : least ≤ x % 64 + 0x80) (hgreatest : x % 64 + 0x80 ≤ greatest) :
    continueChar (n + 1) bits least greatest (UInt8.ofNat (x % 64 + 0x80) :: bs) =
      continueChar n (bits * 64 + x % 64) 0x80 0xbf bs := by
  have hbyte : (UInt8.ofNat (x % 64 + 0x80)).toNat = x % 64 + 0x80 := toNat_byte (by omega)
  rw [continueChar, hbyte, if_pos ⟨hleast, hgreatest⟩, Nat.add_sub_cancel]

lemma continueChar_tail (n bits x : Nat) (bs : List UInt8) :
    continueChar (n + 1) bits 0x80 0xbf (UInt8.ofNat (x % 64 + 0x80) :: bs) =
      continueChar n (bits * 64 + x % 64) 0x80 0xbf bs :=
  continueChar_cons n bits x bs (by omega) (by omega)

lemma decodeOne_of_lead {b : Nat} (hb : b < 256) (hb' : 0x80 ≤ b) {l : LeadByte}
    (hl : leadByte? b = some l) (bs : List UInt8) :
    decodeOne (UInt8.ofNat b) bs = continueChar l.following l.bits l.least l.greatest bs := by
  rw [decodeOne, toNat_byte hb, if_neg (by omega), hl]

/-- A character that was written as bytes is taken off their front. -/
lemma exists_decodeOne (c : Char) (rest : List UInt8) :
    ∃ b bs, String.utf8EncodeChar c = b :: bs ∧ decodeOne b (bs ++ rest) = (some c, rest) := by
  have hc : Char.ofNat c.val.toNat = c := Char.ofNat_toNat c
  have hvalid : c.val.toNat < 0xd800 ∨ 0xdfff < c.val.toNat ∧ c.val.toNat < 0x110000 := c.valid
  rw [String.utf8EncodeChar]
  generalize c.val.toNat = v at hc hvalid ⊢
  -- one case for each number of bytes; in each the bits add up to the character
  split
  · refine ⟨_, _, rfl, ?_⟩
    rw [decodeOne, toNat_byte (by omega), if_pos (by omega), hc]
    rfl
  split
  · refine ⟨_, _, rfl, ?_⟩
    have hlead := leadByte?_two (x := v / 64 % 0x20) (by omega) (by omega)
    rw [decodeOne_of_lead (by omega) (by omega) hlead, List.cons_append, continueChar_tail,
      List.nil_append, continueChar]
    have hv : v / 64 % 0x20 * 64 + v % 64 = v := by omega
    rw [hv, hc]
  split
  · refine ⟨_, _, rfl, ?_⟩
    have hlead := leadByte?_three (x := v / 4096 % 0x10) (by omega)
    rw [decodeOne_of_lead (by omega) (by omega) hlead, List.cons_append,
      continueChar_cons _ _ (v / 64) _ (by simp only; split <;> omega)
        (by simp only; split <;> omega),
      List.cons_append, continueChar_tail, List.nil_append, continueChar]
    have hv : (v / 4096 % 0x10 * 64 + v / 64 % 64) * 64 + v % 64 = v := by omega
    rw [hv, hc]
  · refine ⟨_, _, rfl, ?_⟩
    have hlead := leadByte?_four (x := v / 262144 % 0x08) (by omega)
    rw [decodeOne_of_lead (by omega) (by omega) hlead, List.cons_append,
      continueChar_cons _ _ (v / 4096) _ (by simp only; split <;> omega)
        (by simp only; split <;> omega),
      List.cons_append, continueChar_tail, List.cons_append, continueChar_tail, List.nil_append,
      continueChar]
    have hv : ((v / 262144 % 0x08 * 64 + v / 4096 % 64) * 64 + v / 64 % 64) * 64 + v % 64 = v := by
      omega
    rw [hv, hc]

/-! ## Texts -/

/-- Enough steps take all characters apart. -/
lemma decodeFrom_flatMap (cs : List Char) {steps : Nat}
    (hsteps : (cs.flatMap String.utf8EncodeChar).length ≤ steps) :
    decodeFrom steps (cs.flatMap String.utf8EncodeChar) = cs.map some := by
  induction cs generalizing steps with
  | nil => cases steps <;> rfl
  | cons c cs ih =>
    obtain ⟨b, bs, hchar, hone⟩ := exists_decodeOne c (cs.flatMap String.utf8EncodeChar)
    rw [List.flatMap_cons, hchar, List.cons_append] at hsteps ⊢
    cases steps with
    | zero => cases hsteps
    | succ steps =>
      rw [decodeFrom, hone]
      rw [List.length_cons, List.length_append] at hsteps
      simp only [List.map_cons, ih (by omega : _ ≤ steps)]

lemma decode_encode (s : String) : decode (encode s) = s.toList.map some :=
  decodeFrom_flatMap s.toList (Nat.le_refl _)

/-- **The bytes of a text are read as that text.** -/
theorem decodeLossy_encode (s : String) : decodeLossy (encode s) = s := by
  rw [decodeLossy, decode_encode, List.map_map]
  change String.ofList (s.toList.map id) = s
  rw [List.map_id, String.ofList_toList]

end WebviewBridge.Text
