import WebviewBridge.Proofs.Json.Texts

/-!
# Passing over the texts of a value

A value that nobody asked for is passed over without being read.  What was written for a string or
an integer is passed over as it is read, to the same place (`takes_passString`, `takes_passNumber`).
Main statement: so is any text of a value of integers, however deep the value is
(`Value.takes_passValue`).
-/

namespace WebviewBridge.Json

open Cursor

/-! ## Strings -/

lemma passStringFrom_escapeChar (c : Char) (cs : List Char) (steps offset : Nat) :
    ∃ offset', passStringFrom (steps + 1) ⟨escapeChar c ++ cs, offset⟩ =
      passStringFrom steps ⟨cs, offset'⟩ := by
  rcases escapeChar_cases c with ⟨hself, hquote, hslash, hcontrol⟩ | ⟨e, hescape, hscan⟩
  · refine ⟨offset + c.utf8Size, ?_⟩
    rw [hself, List.singleton_append, passStringFrom]
    split
    · next h => cases h
    · next h =>
      cases h
      exact absurd rfl hquote
    · next h =>
      cases h
      exact absurd rfl hslash
    · next h =>
      cases h
      rw [if_neg hcontrol]
  · refine ⟨offset + 1 + e.length, ?_⟩
    rw [hescape, List.cons_append, passStringFrom]
    simp only [(hscan cs (offset + 1)).2, ok_bind]

lemma passStringFrom_escaped (cs rest : List Char) {steps : Nat} (hsteps : cs.length < steps)
    (offset : Nat) :
    ∃ offset', passStringFrom steps ⟨cs.flatMap escapeChar ++ '"' :: rest, offset⟩ =
      .ok ((), ⟨rest, offset'⟩) := by
  induction cs generalizing steps offset with
  | nil =>
    obtain ⟨steps, rfl⟩ : ∃ n, steps = n + 1 := ⟨steps - 1, by simp at hsteps; omega⟩
    exact ⟨offset + 1, rfl⟩
  | cons c cs ih =>
    obtain ⟨steps, rfl⟩ : ∃ n, steps = n + 1 := ⟨steps - 1, by simp at hsteps; omega⟩
    rw [List.flatMap_cons, List.append_assoc]
    obtain ⟨offset₁, hfirst⟩ :=
      passStringFrom_escapeChar c (cs.flatMap escapeChar ++ '"' :: rest) steps offset
    rw [hfirst]
    exact ih (Nat.lt_of_succ_lt_succ hsteps) offset₁

/-- A string is passed over from behind its opening quote, through the closing one. -/
lemma takes_passString (s : String) (rest : List Char) :
    Takes passString (s.toList.flatMap escapeChar ++ ['"']) rest () := by
  intro offset
  have hlength := length_le_length_flatMap_escapeChar s.toList
  have hsteps : s.toList.length < (s.toList.flatMap escapeChar ++ '"' :: rest).length + 1 := by
    rw [List.length_append]
    omega
  rw [List.append_assoc, List.singleton_append]
  exact passStringFrom_escaped s.toList rest hsteps offset

/-- The key of a member is passed over with its colon. -/
lemma takes_passKey (k : String) {w w' : List Char} (hw : IsBlank w) (hw' : IsBlank w')
    (rest : List Char) :
    Takes passKey (w ++ stringChars k ++ (w' ++ [':'])) rest () := by
  intro offset
  obtain ⟨offset₁, hstring⟩ := takes_passString k (w' ++ ':' :: rest) (offset + w.length + 1)
  obtain ⟨offset₂, hcolon⟩ := scanColon_append hw' rest offset₁
  refine ⟨offset₂, ?_⟩
  simp only [stringChars_eq, List.append_assoc, List.cons_append, List.nil_append] at hstring ⊢
  rw [passKey, skipSpace_append_cons hw (by decide)]
  change (passString
    ⟨k.toList.flatMap escapeChar ++ '"' :: (w' ++ ':' :: rest), offset + w.length + 1⟩ >>=
      fun r => scanColon r.2) = _
  rw [hstring]
  exact hcolon

/-! ## Integers -/

lemma passAfterInteger_of_endsNumber {rest : List Char} (hrest : EndsNumber rest) (offset : Nat) :
    passAfterInteger ⟨rest, offset⟩ = .ok ((), ⟨rest, offset⟩) := by
  rw [passAfterInteger]
  split
  · next heq =>
    change rest = _ at heq
    exact absurd rfl (hrest _ (by rw [heq]; rfl)).2.1
  · rw [passOptionalExponent]
    split
    · next heq =>
      change rest = _ at heq
      exact absurd rfl (hrest _ (by rw [heq]; rfl)).2.2.1
    · next heq =>
      change rest = _ at heq
      exact absurd rfl (hrest _ (by rw [heq]; rfl)).2.2.2
    · rfl

lemma takes_passUnsigned (n : Nat) {rest : List Char} (hrest : EndsNumber rest) :
    Takes passUnsigned (Nat.toDigits 10 n) rest () := by
  intro offset
  by_cases hzero : n = 0
  · subst hzero
    have hnil : ∀ d ∈ ([] : List Char), d.isDigit = true := nofun
    have hnone := takeDigits_append hnil hrest (offset + 1)
    have hskip : (⟨'0' :: rest, offset⟩ : Cursor).skip 1 = ⟨rest, offset + 1⟩ := rfl
    rw [List.nil_append] at hnone
    refine ⟨offset + 1, ?_⟩
    rw [Nat.toDigits_zero, List.singleton_append, passUnsigned]
    simp only [if_true, hskip, hnone, List.isEmpty_nil]
    exact passAfterInteger_of_endsNumber hrest _
  · have hdigits : ∀ d ∈ Nat.toDigits 10 n, d.isDigit = true := fun d hd =>
      Nat.isDigit_of_mem_toDigits (by decide) (by decide) hd
    have hall := takeDigits_append hdigits hrest offset
    obtain ⟨d, ds, hds, hd⟩ := toDigits_eq_cons hzero
    have hisDigit : d.isDigit = true := hdigits d (by rw [hds]; exact List.mem_cons_self)
    refine ⟨offset + (Nat.toDigits 10 n).length, ?_⟩
    rw [hds, List.cons_append] at hall ⊢
    rw [passUnsigned]
    simp only [if_neg hd, hisDigit, if_true, hall]
    exact passAfterInteger_of_endsNumber hrest _

/-- An integer is passed over, whatever its size. -/
lemma takes_passNumber (n : Int) {rest : List Char} (hrest : EndsNumber rest) :
    Takes passNumber (intChars n) rest () := by
  intro offset
  rw [intChars]
  split
  · exact takes_passUnsigned n.natAbs hrest (offset + 1)
  · obtain ⟨offset', hpass⟩ := takes_passUnsigned n.natAbs hrest offset
    refine ⟨offset', ?_⟩
    rw [← hpass, passNumber]
    split
    · next heq =>
      -- a natural number does not begin with a minus sign
      have hmem : '-' ∈ Nat.toDigits 10 n.natAbs := by
        cases hds : Nat.toDigits 10 n.natAbs with
        | nil => exact absurd hds Nat.toDigits_ne_nil
        | cons d ds =>
          rw [hds] at heq
          cases heq
          exact List.mem_cons_self
      exact absurd (Nat.isDigit_of_mem_toDigits (by decide) (by decide) hmem) (by decide)
    · rfl

/-! ## Values -/

section FirstCharacter

variable (steps : Nat) (rest : List Char) (offset : Nat)

lemma passValue_append {w : List Char} (hw : IsBlank w) {ch : Char} (hch : isSpace ch = false) :
    passValue (steps + 1) ⟨w ++ ch :: rest, offset⟩ =
      passValue (steps + 1) ⟨ch :: rest, offset + w.length⟩ := by
  simp only [passValue, skipSpace_append_cons hw hch, skipSpace_cons hch]

lemma passValue_num {ch : Char} (hch : ch = '-' ∨ ch.isDigit = true) :
    passValue (steps + 1) ⟨ch :: rest, offset⟩ = passNumber ⟨ch :: rest, offset⟩ := by
  have hspace := skipSpace_cons (Value.isSpace_of_begins hch) rest offset
  have hne : ch ≠ 'n' ∧ ch ≠ 't' ∧ ch ≠ 'f' ∧ ch ≠ '"' ∧ ch ≠ '[' ∧ ch ≠ '\x7b' := by
    refine ⟨?_, ?_, ?_, ?_, ?_, ?_⟩ <;> rintro rfl <;> revert hch <;> decide
  simp [passValue, hspace, hne, hch]

variable {rest}

lemma passValue_arr_nil {w : List Char} (hw : IsBlank w) :
    passValue (steps + 1) ⟨'[' :: (w ++ ']' :: rest), offset⟩ =
      .ok ((), ⟨rest, offset + 1 + w.length + 1⟩) := by
  have hskip : skipSpace (skip ⟨'[' :: (w ++ ']' :: rest), offset⟩ 1) =
      ⟨']' :: rest, offset + 1 + w.length⟩ := skipSpace_append_cons hw (by decide) rest (offset + 1)
  simp only [passValue, skipSpace_cons (show isSpace '[' = false by decide), hskip]
  rfl

lemma passValue_arr_cons {w : List Char} (hw : IsBlank w) {ch : Char} (hch : isSpace ch = false)
    (hend : ch ≠ ']') :
    passValue (steps + 1) ⟨'[' :: (w ++ ch :: rest), offset⟩ =
      passItems steps ⟨ch :: rest, offset + 1 + w.length⟩ := by
  have hskip : skipSpace (skip ⟨'[' :: (w ++ ch :: rest), offset⟩ 1) =
      ⟨ch :: rest, offset + 1 + w.length⟩ := skipSpace_append_cons hw hch rest (offset + 1)
  simp only [passValue, skipSpace_cons (show isSpace '[' = false by decide), hskip]
  split
  · next h => cases h
  · next h =>
    cases h
    exact absurd rfl hend
  · rfl

lemma passValue_obj_nil {w : List Char} (hw : IsBlank w) :
    passValue (steps + 1) ⟨'\x7b' :: (w ++ '\x7d' :: rest), offset⟩ =
      .ok ((), ⟨rest, offset + 1 + w.length + 1⟩) := by
  have hskip : skipSpace (skip ⟨'\x7b' :: (w ++ '\x7d' :: rest), offset⟩ 1) =
      ⟨'\x7d' :: rest, offset + 1 + w.length⟩ :=
    skipSpace_append_cons hw (by decide) rest (offset + 1)
  simp only [passValue, skipSpace_cons (show isSpace '\x7b' = false by decide), hskip]
  rfl

lemma passValue_obj_cons {w : List Char} (hw : IsBlank w) :
    passValue (steps + 1) ⟨'\x7b' :: (w ++ '"' :: rest), offset⟩ =
      passMembers steps ⟨'"' :: rest, offset + 1 + w.length⟩ := by
  have hskip : skipSpace (skip ⟨'\x7b' :: (w ++ '"' :: rest), offset⟩ 1) =
      ⟨'"' :: rest, offset + 1 + w.length⟩ :=
    skipSpace_append_cons hw (by decide) rest (offset + 1)
  simp only [passValue, skipSpace_cons (show isSpace '\x7b' = false by decide), hskip]
  rfl

end FirstCharacter

/-- Passes over what follows an item of an array, through the closing bracket. -/
def passItemEnd (steps : Nat) : Scan Unit := fun c =>
  let c := c.skipSpace
  match c.rest with
  | [] => c.fault .endInList
  | ',' :: _ => passItems steps (c.skip 1)
  | ']' :: _ => .ok ((), c.skip 1)
  | _ => c.faultAtNext .expectedListEnd

lemma passItems_succ (steps : Nat) (c : Cursor) :
    passItems (steps + 1) c = passValue steps c >>= fun r => passItemEnd steps r.2 := rfl

/-- Passes over what follows a member of an object, through the closing brace. -/
def passMemberEnd (steps : Nat) : Scan Unit := fun c =>
  let c := c.skipSpace
  match c.rest with
  | [] => c.fault .endInObject
  | ',' :: _ => passMembers steps (c.skip 1)
  | '\x7d' :: _ => .ok ((), c.skip 1)
  | _ => c.faultAtNext .expectedObjectEnd

lemma passMembers_succ (steps : Nat) (c : Cursor) :
    passMembers (steps + 1) c =
      passKey c >>= fun r => passValue steps r.2 >>= fun r => passMemberEnd steps r.2 := rfl

namespace Value

-- The steps are counted as for reading.  The first item of an array is told from its end before it
-- is passed over, the others behind their commas, so the induction is on what follows an item.
mutual
/-- **A value is passed over in any of its texts**, however deep it is. -/
theorem takes_passValue (v : Value) (hv : v.IsIntegral) {steps : Nat} {w cs rest : List Char}
    (hw : IsBlank w) (hcs : v.IsText cs) (hrest : EndsNumber rest)
    (hsteps : 2 * cs.length ≤ steps) : Takes (passValue steps) (w ++ cs) rest () := by
  intro offset
  obtain ⟨ch, tail, hhead, hspace, -⟩ := hcs.eq_cons hv
  obtain ⟨steps, rfl⟩ : ∃ n, steps = n + 1 := ⟨steps - 1, by simp [hhead] at hsteps; omega⟩
  have hskip : passValue (steps + 1) ⟨w ++ cs ++ rest, offset⟩ =
      passValue (steps + 1) ⟨cs ++ rest, offset + w.length⟩ := by
    rw [hhead, List.append_assoc, List.cons_append, passValue_append _ _ _ hw hspace]
  rw [hskip]
  clear hskip hhead hspace
  match v with
  | null =>
    cases hcs
    exact ⟨offset + w.length + 4, rfl⟩
  | bool true =>
    cases hcs
    exact ⟨offset + w.length + 4, rfl⟩
  | bool false =>
    cases hcs
    exact ⟨offset + w.length + 5, rfl⟩
  | num (.double x) => exact absurd hv nofun
  | num (.int n) =>
    cases hcs
    obtain ⟨offset', hpass⟩ := takes_passNumber n hrest (offset + w.length)
    obtain ⟨ch, tail, htail, hch⟩ := intChars_eq_cons n
    change ∃ offset', passValue (steps + 1) ⟨intChars n ++ rest, _⟩ = _
    rw [htail, List.cons_append] at hpass ⊢
    exact ⟨offset', by rw [passValue_num _ _ _ hch, hpass]⟩
  | str s =>
    cases hcs
    exact takes_passString s rest (offset + w.length + 1)
  | arr [] =>
    obtain ⟨_, ⟨w', hw', rfl⟩, rfl⟩ := hcs
    rw [List.cons_append, List.append_assoc]
    exact ⟨_, passValue_arr_nil steps _ hw'⟩
  | arr (v :: vs) =>
    obtain ⟨_, ⟨sep, item, others, hsep, hitem, hothers, rfl⟩, rfl⟩ := hcs
    obtain ⟨steps, rfl⟩ : ∃ n, steps = n + 1 := ⟨steps - 1, by simp at hsteps; omega⟩
    simp only [List.length_cons, List.length_append] at hsteps
    obtain ⟨ch, tail, htail, hspace, hend, -⟩ := hitem.eq_cons hv.1
    have hitemSteps : 2 * item.length ≤ steps := by omega
    have hothersSteps : 2 * others.length ≤ steps := by omega
    obtain ⟨offset₁, hfirst⟩ := takes_passValue v hv.1 isBlank_nil hitem (hothers.endsNumber rest)
      hitemSteps (offset + w.length + 1 + sep.length)
    obtain ⟨offset₂, hlast⟩ := takes_passItemEnd vs hv.2 rest hothers hothersSteps offset₁
    refine ⟨offset₂, ?_⟩
    rw [List.nil_append, htail, List.cons_append] at hfirst
    rw [List.cons_append, List.append_assoc, List.append_assoc, htail, List.cons_append,
      passValue_arr_cons _ _ hsep hspace hend, passItems_succ, hfirst, ok_bind, hlast]
  | obj [] =>
    obtain ⟨_, ⟨w', hw', rfl⟩, rfl⟩ := hcs
    rw [List.cons_append, List.append_assoc]
    exact ⟨_, passValue_obj_nil steps _ hw'⟩
  | obj ((k, v) :: ms) =>
    obtain ⟨_, ⟨sep, w₁, w₂, value, others, hsep, hw₁, hw₂, hvalue, hothers, rfl⟩, rfl⟩ := hcs
    obtain ⟨steps, rfl⟩ : ∃ n, steps = n + 1 := ⟨steps - 1, by simp at hsteps; omega⟩
    simp only [List.length_cons, List.length_append] at hsteps
    have hvalueSteps : 2 * value.length ≤ steps := by omega
    have hothersSteps : 2 * others.length ≤ steps := by omega
    obtain ⟨offset₁, hkey⟩ := takes_passKey k isBlank_nil hw₁ (w₂ ++ value ++ (others ++ rest))
      (offset + w.length + 1 + sep.length)
    obtain ⟨offset₂, hfirst⟩ := takes_passValue v hv.1 hw₂ hvalue (hothers.endsNumber rest)
      hvalueSteps offset₁
    obtain ⟨offset₃, hlast⟩ := takes_passMemberEnd ms hv.2 rest hothers hothersSteps offset₂
    refine ⟨offset₃, ?_⟩
    simp only [List.nil_append, stringChars_eq, List.append_assoc, List.cons_append]
      at hkey hfirst ⊢
    rw [passValue_obj_cons _ _ hsep, passMembers_succ, hkey, ok_bind, hfirst, ok_bind, hlast]
theorem takes_passItemEnd (vs : List Value) (hvs : ItemsIntegral vs) {steps : Nat} {cs : List Char}
    (rest : List Char) (hcs : IsItemsText vs false cs) (hsteps : 2 * cs.length ≤ steps) :
    Takes (passItemEnd steps) cs rest () := by
  intro offset
  match vs with
  | [] =>
    obtain ⟨w, hw, rfl⟩ := hcs
    rw [List.append_assoc, List.singleton_append, passItemEnd, skipSpace_append_cons hw (by decide)]
    exact ⟨_, rfl⟩
  | v :: vs =>
    obtain ⟨_, item, others, ⟨w, w', hw, hw', rfl⟩, hitem, hothers, rfl⟩ := hcs
    obtain ⟨steps, rfl⟩ : ∃ n, steps = n + 1 := ⟨steps - 1, by simp at hsteps; omega⟩
    simp only [List.length_append, List.length_cons] at hsteps
    have hitemSteps : 2 * item.length ≤ steps := by omega
    have hothersSteps : 2 * others.length ≤ steps := by omega
    obtain ⟨offset₁, hfirst⟩ := takes_passValue v hvs.1 hw' hitem (hothers.endsNumber rest)
      hitemSteps (offset + w.length + 1)
    obtain ⟨offset₂, hlast⟩ := takes_passItemEnd vs hvs.2 rest hothers hothersSteps offset₁
    refine ⟨offset₂, ?_⟩
    simp only [List.append_assoc, List.cons_append] at hfirst ⊢
    rw [passItemEnd, skipSpace_append_cons hw (by decide)]
    change passItems (steps + 1) ⟨w' ++ (item ++ (others ++ rest)), offset + w.length + 1⟩ = _
    rw [passItems_succ, hfirst, ok_bind, hlast]
theorem takes_passMemberEnd (ms : List (String × Value)) (hms : MembersIntegral ms) {steps : Nat}
    {cs : List Char} (rest : List Char) (hcs : IsMembersText ms false cs)
    (hsteps : 2 * cs.length ≤ steps) : Takes (passMemberEnd steps) cs rest () := by
  intro offset
  match ms with
  | [] =>
    obtain ⟨w, hw, rfl⟩ := hcs
    rw [List.append_assoc, List.singleton_append, passMemberEnd,
      skipSpace_append_cons hw (by decide)]
    exact ⟨_, rfl⟩
  | (k, v) :: ms =>
    obtain ⟨_, w₁, w₂, value, others, ⟨w, w', hw, hw', rfl⟩, hw₁, hw₂, hvalue, hothers, rfl⟩ := hcs
    obtain ⟨steps, rfl⟩ : ∃ n, steps = n + 1 := ⟨steps - 1, by simp at hsteps; omega⟩
    simp only [List.length_append, List.length_cons] at hsteps
    have hvalueSteps : 2 * value.length ≤ steps := by omega
    have hothersSteps : 2 * others.length ≤ steps := by omega
    obtain ⟨offset₁, hkey⟩ := takes_passKey k hw' hw₁ (w₂ ++ value ++ (others ++ rest))
      (offset + w.length + 1)
    obtain ⟨offset₂, hfirst⟩ := takes_passValue v hms.1 hw₂ hvalue (hothers.endsNumber rest)
      hvalueSteps offset₁
    obtain ⟨offset₃, hlast⟩ := takes_passMemberEnd ms hms.2 rest hothers hothersSteps offset₂
    refine ⟨offset₃, ?_⟩
    simp only [List.append_assoc, List.cons_append, List.nil_append] at hkey hfirst ⊢
    rw [passMemberEnd, skipSpace_append_cons hw (by decide)]
    change passMembers (steps + 1)
      ⟨w' ++ (stringChars k ++ (w₁ ++ ':' :: (w₂ ++ (value ++ (others ++ rest))))),
        offset + w.length + 1⟩ = _
    rw [passMembers_succ, hkey, ok_bind, hfirst, ok_bind, hlast]
end

end Value

end WebviewBridge.Json
