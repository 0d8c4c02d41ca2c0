import WebviewBridge.Proofs.Json.Verdicts

/-!
# Which values are records

A record is read from an object or from an array.  `Layout.ofValue` says which values it is read
from if the fields accept what they are given: from an object each field is found once at most, and
keys that name no field are ignored; from an array there are as many items as fields at most.  What
a field holds in the end comes from the values under its keys alone (`Fills`).  Main statement: a
record settles on every value if its fields do (`Layout.Follows.settles`).
-/

namespace WebviewBridge.Json

open Cursor

variable {α β σ : Type}

/-! ## The fields that are found -/

namespace Layout

variable (l : Layout σ α) (accept : String → Value → Option (σ → σ))

/-- The fields that the members of an object fill, if no field is found twice and each admits its
value. -/
def ofMembers : σ → List (String × Value) → Option σ
  | s, [] => some s
  | s, (k, v) :: ms =>
    match l.fields.find? (·.hasName k) with
    | some f =>
      if f.found s then none
      else (accept f.name v).bind fun keep => ofMembers (keep s) ms
    | none => ofMembers s ms

/-- What the items of an array fill, if there is a field for each and it admits the item. -/
def ofItems : List (Field σ) → σ → List Value → Option σ
  | _, s, [] => some s
  | [], _, _ :: _ => none
  | f :: fs, s, v :: vs => (accept f.name v).bind fun keep => ofItems fs (keep s) vs

/-- The record that a value is read as. -/
def ofValue : Value → Option α
  | .obj ms => (l.ofMembers accept l.empty ms).bind fun s => (l.finish s).toOption
  | .arr vs =>
    if vs.length < l.required then none
    else (ofItems accept l.fields l.empty vs).bind fun s => (l.finish s).toOption
  | _ => none

end Layout

/-- The values under some keys of an object, in their order. -/
def valuesUnder (keys : List String) (ms : List (String × Value)) : List Value :=
  (ms.filter fun m => keys.contains m.1).map (·.2)

lemma valuesUnder_cons (keys : List String) (k : String) (v : Value) (ms : List (String × Value)) :
    valuesUnder keys ((k, v) :: ms) =
      if k ∈ keys then v :: valuesUnder keys ms else valuesUnder keys ms := by
  by_cases hk : k ∈ keys <;> simp [valuesUnder, hk]

/-- What a field holds behind the values given to it: what it held if there is none, and what the
only one is read as if it held nothing. -/
inductive Fills {β : Type} (read : Value → Option β) : Option β → List Value → Option β → Prop
  | kept (x : Option β) : Fills read x [] x
  | filled {v : Value} {x : β} (h : read v = some x) : Fills read none [v] (some x)

section Fills

variable {β : Type} {read : Value → Option β} {x y : Option β} {y' : β} {v : Value}
  {vs : List Value}

lemma fills_nil : Fills read x [] y ↔ x = y := by
  constructor
  · rintro ⟨⟩
    rfl
  · rintro rfl
    exact .kept x

lemma fills_cons : Fills read x (v :: vs) y ↔
    x = none ∧ ∃ z, read v = some z ∧ Fills read (some z) vs y := by
  constructor
  · rintro (_ | h)
    exact ⟨rfl, _, h, .kept _⟩
  · rintro ⟨rfl, z, h, _ | _⟩
    exact .filled h

/-- A field that has to be found has one value. -/
lemma fills_some : Fills read none vs (some y') ↔ ∃ v, vs = [v] ∧ read v = some y' := by
  constructor
  · rintro (_ | h)
    exact ⟨_, rfl, h⟩
  · rintro ⟨v, rfl, h⟩
    exact .filled h

/-- A field whose values are told from what they are read as has the one that is written so. -/
lemma fills_written {write : β → Value} (h : ∀ v x, read v = some x ↔ v = write x) :
    Fills read none vs y ↔ vs = (y.map write).toList := by
  constructor
  · rintro (_ | hread)
    · rfl
    · rw [(h _ _).1 hread]
      rfl
  · rintro rfl
    cases y with
    | none => exact .kept none
    | some x => exact .filled ((h _ _).2 rfl)

/-- A field that admits every value has one at most. -/
lemma fills_optional {read : Value → β} :
    Fills (fun v => some (read v)) none vs y ↔
      ∃ found : Option Value, vs = found.toList ∧ found.map read = y := by
  constructor
  · rintro (_ | h)
    · exact ⟨none, rfl, rfl⟩
    · exact ⟨some _, rfl, h⟩
  · rintro ⟨_ | v, rfl, rfl⟩
    · exact .kept none
    · exact .filled rfl

end Fills

section Cons

variable {l : Layout σ α} {accept : String → Value → Option (σ → σ)} {k : String}
  {v : Value} {ms : List (String × Value)} {s s' : σ}

/-- A field reads its value if it was not found before. -/
lemma Layout.ofMembers_cons_field {f : Field σ}
    (hfield : l.fields.find? (·.hasName k) = some f) {r : Value → Option β} {g : β → σ → σ}
    (haccept : accept f.name v = (r v).map g) {x : Option β} (hfound : f.found s = x.isSome) :
    l.ofMembers accept s ((k, v) :: ms) = some s' ↔
      x = none ∧ ∃ y, r v = some y ∧ l.ofMembers accept (g y s) ms = some s' := by
  rw [Layout.ofMembers, hfield]
  cases x with
  | some x => simp [hfound]
  | none => cases hread : r v <;> simp [hfound, haccept, hread]

lemma Layout.ofMembers_cons_other (hfield : l.fields.find? (·.hasName k) = none) :
    l.ofMembers accept s ((k, v) :: ms) = l.ofMembers accept s ms := by
  rw [Layout.ofMembers, hfield]

/-- The first item is read as the first field. -/
lemma Layout.ofItems_cons {f : Field σ} {fs : List (Field σ)} {vs : List Value}
    {r : Value → Option β} {g : β → σ → σ} (haccept : accept f.name v = (r v).map g) :
    Layout.ofItems accept (f :: fs) s (v :: vs) = some s' ↔
      ∃ y, r v = some y ∧ Layout.ofItems accept fs (g y s) vs = some s' := by
  rw [Layout.ofItems, haccept]
  cases r v <;> simp

end Cons

/-! ## Reading from an object -/

namespace Layout

variable {l : Layout σ α} {accept : String → Value → Option (σ → σ)} {room : Nat}

/-- Each field settles on what it admits, and other members are passed over. -/
structure Follows (l : Layout σ α) (room : Nat) (accept : String → Value → Option (σ → σ)) :
    Prop where
  field : ∀ f ∈ l.fields, ∀ v : Value, v.IsIntegral → v.depth ≤ room →
    Settles (f.read room) v (accept f.name v)
  other : l.other = none

lemma Follows.ends_readMembers (h : l.Follows room accept) {ms : List (String × Value)}
    (hms : Value.MembersIntegral ms) (hroom : Value.membersDepth ms ≤ room) {first : Bool}
    {cs : List Char} (hcs : Value.IsMembersText ms first cs) {steps : Nat}
    (hsteps : ms.length < steps) (s : σ) (rest : List Char) (offset : Nat) :
    Ends ('\x7d' :: rest) (l.readMembers room steps first s ⟨cs ++ rest, offset⟩)
      (l.ofMembers accept s ms) := by
  induction ms generalizing first cs steps s offset with
  | nil =>
    obtain ⟨w, hw, rfl⟩ := hcs
    obtain ⟨steps, rfl⟩ : ∃ n, steps = n + 1 := ⟨steps - 1, by simp at hsteps; omega⟩
    obtain ⟨offset', hstart⟩ := scanMemberStart_end first hw rest offset
    rw [List.append_assoc, List.singleton_append, readMembers, hstart]
    exact ⟨offset', rfl⟩
  | cons m ms ih =>
    obtain ⟨k, v⟩ := m
    obtain ⟨steps, rfl⟩ : ∃ n, steps = n + 1 := ⟨steps - 1, by simp at hsteps; omega⟩
    rw [Value.membersDepth] at hroom
    obtain ⟨hvalueRoom, hothersRoom⟩ := Nat.max_le.1 hroom
    obtain ⟨w, value, others, c₁, c₂, offset₁, hw, hvalue, hothers, -, hstart, hkey, hcolon⟩ :=
      scanMember_cons hcs rest offset
    have hbehind := ih hms.2 hothersRoom hothers (Nat.lt_of_succ_lt_succ hsteps)
    have hnumber := hothers.endsNumber rest
    rw [ofMembers]
    cases hfield : l.fields.find? (·.hasName k) with
    | none =>
      have hpassSteps : 2 * value.length ≤
          (⟨w ++ value ++ (others ++ rest), offset₁⟩ : Cursor).steps := by
        simp only [Cursor.steps, List.length_append]
        omega
      obtain ⟨offset₂, hpass⟩ := v.takes_passValue hms.1 hw hvalue hnumber hpassSteps offset₁
      simp only [readMembers, hstart, placed, ok_bind, if_true, hkey, hfield, h.other, hcolon,
        hpass]
      exact hbehind s offset₂
    | some f =>
      by_cases hfound : f.found s
      · simp only [readMembers, hstart, placed, ok_bind, if_true, hkey, hfield, hfound]
        exact ⟨_, rfl⟩
      · have hread := h.field f (List.mem_of_find?_eq_some hfield) v hms.1 hvalueRoom hw hvalue
          hnumber offset₁
        simp only [readMembers, hstart, placed, ok_bind, if_true, hkey, hfield, hfound, hcolon,
          Bool.false_eq_true, if_false]
        exact hread.placed.bind fun keep offset₂ => hbehind (keep s) offset₂

/-- From an object a record is read as from its members. -/
lemma Follows.ends_readObject (h : l.Follows room accept) {ms : List (String × Value)}
    (hms : Value.MembersIntegral ms) (hroom : Value.membersDepth ms ≤ room) {cs : List Char}
    (hcs : Value.IsMembersText ms true cs) (rest : List Char) (offset : Nat) :
    Ends rest (l.readObject room ⟨cs ++ rest, offset⟩) (l.ofValue accept (.obj ms)) := by
  have hlength := length_le_of_isMembersText hcs
  have hsteps : ms.length < (⟨cs ++ rest, offset⟩ : Cursor).steps := by
    simp only [Cursor.steps, List.length_append]
    omega
  have hmembers := h.ends_readMembers hms hroom hcs hsteps l.empty rest offset
  rw [readObject, ofValue]
  cases hfound : l.ofMembers accept l.empty ms with
  | none =>
    obtain ⟨trouble, hmembers⟩ := hfound ▸ hmembers
    rw [hmembers, error_bind]
    cases trouble <;> exact ⟨_, rfl⟩
  | some s =>
    obtain ⟨offset', hmembers⟩ := hfound ▸ hmembers
    simp only [hmembers, ok_bind, Option.bind_some]
    cases l.finish s <;> exact ⟨_, rfl⟩

/-! ## Reading from an array -/

/-- What is made of the items that were read. -/
def finishArray (l : Layout σ α) (s : σ) (count : Nat) : Scan α := fun c =>
  if count < l.required then
    .error ⟨.invalidLength count (structWith l.type l.fields.length), leaveArray c⟩
  else
    match l.finish s with
    | .ok x => do
      let (_, c) ← scanArrayEnd c
      .ok (x, c)
    | .error cause => .error ⟨cause, leaveArray c⟩

lemma readArray_eq (c : Cursor) :
    l.readArray room c =
      readItems room l.fields 0 l.empty c >>= fun r => l.finishArray r.1 r.2.1 r.2.2 := rfl

/-- With no items behind those that were read, the record is what was found. -/
lemma ends_finishArray_end (l : Layout σ α) (s : σ) (count : Nat) {w : List Char} (hw : IsBlank w)
    (rest : List Char) (offset : Nat) :
    Ends rest (l.finishArray s count ⟨w ++ ']' :: rest, offset⟩)
      (if count < l.required then none else (l.finish s).toOption) := by
  rw [finishArray]
  split
  · exact ⟨_, rfl⟩
  · cases l.finish s with
    | error cause => exact ⟨_, rfl⟩
    | ok x =>
      have hend : scanArrayEnd ⟨w ++ ']' :: rest, offset⟩ =
          .ok ((), ⟨rest, offset + w.length + 1⟩) := by
        rw [scanArrayEnd, skipSpace_append_cons hw (by decide)]
        rfl
      simp only [hend, ok_bind]
      exact ⟨_, rfl⟩

/-- With an item behind those that were read, there is no record. -/
lemma ends_finishArray_more (l : Layout σ α) (s : σ) (count : Nat) {v : Value} {vs : List Value}
    (hv : v.IsIntegral) {first : Bool} {cs : List Char}
    (hcs : Value.IsItemsText (v :: vs) first cs) (rest : List Char) (offset : Nat) :
    Ends rest (l.finishArray s count ⟨cs ++ rest, offset⟩) none := by
  rw [finishArray]
  split
  · exact ⟨_, rfl⟩
  · cases l.finish s with
    | error cause => exact ⟨_, rfl⟩
    | ok x =>
      -- the next item, or the comma in front of it, is not the closing bracket
      obtain ⟨w, ch, tail, hw, hspace, hne, rfl⟩ := hcs.eq_append_cons hv
      have hend : ∃ fault, scanArrayEnd ⟨w ++ ch :: tail ++ rest, offset⟩ = .error fault := by
        rw [scanArrayEnd, List.append_assoc, List.cons_append, skipSpace_append_cons hw hspace]
        split
        · exact ⟨_, rfl⟩
        · next heq =>
          cases heq
          exact absurd rfl hne
        · simp only
          split <;> exact ⟨_, rfl⟩
        · exact ⟨_, rfl⟩
      obtain ⟨fault, hend⟩ := hend
      simp only [hend, error_bind]
      exact ⟨_, rfl⟩

lemma Follows.ends_readItems (h : l.Follows room accept) {fs : List (Field σ)}
    (hfs : ∀ f ∈ fs, f ∈ l.fields) {vs : List Value} (hvs : Value.ItemsIntegral vs)
    (hroom : Value.itemsDepth vs ≤ room) {count : Nat} {cs : List Char}
    (hcs : Value.IsItemsText vs (count == 0) cs) (s : σ) (rest : List Char) (offset : Nat) :
    Ends rest (readItems room fs count s ⟨cs ++ rest, offset⟩ >>= fun r =>
        l.finishArray r.1 r.2.1 r.2.2)
      (if count + vs.length < l.required then none
        else (ofItems accept fs s vs).bind fun s => (l.finish s).toOption) := by
  induction fs generalizing vs count cs s offset with
  | nil =>
    rw [readItems, ok_bind]
    cases vs with
    | nil =>
      obtain ⟨w, hw, rfl⟩ := hcs
      rw [List.append_assoc]
      exact l.ends_finishArray_end s count hw rest offset
    | cons v vs =>
      rw [ofItems, Option.bind_none, ite_self]
      exact l.ends_finishArray_more s count hvs.1 hcs rest offset
  | cons f fs ih =>
    cases vs with
    | nil =>
      obtain ⟨w, hw, rfl⟩ := hcs
      obtain ⟨offset', hstart⟩ := scanItemStart_end (count == 0) hw rest offset
      rw [List.append_assoc, List.singleton_append, readItems, hstart]
      exact l.ends_finishArray_end s count isBlank_nil rest offset'
    | cons v vs =>
      obtain ⟨sep, item, others, hsep, hitem, hothers, rfl⟩ := hcs
      rw [Value.itemsDepth] at hroom
      obtain ⟨hitemRoom, hothersRoom⟩ := Nat.max_le.1 hroom
      obtain ⟨ch, tail, htail, hspace, hend, -⟩ := hitem.eq_cons hvs.1
      obtain ⟨offset₁, hstart⟩ :=
        scanItemStart_separator hsep hspace hend (tail ++ (others ++ rest)) offset
      have hread := h.field f (hfs f List.mem_cons_self) v hvs.1 hitemRoom isBlank_nil hitem
        (hothers.endsNumber rest) offset₁
      rw [List.append_assoc, List.append_assoc, htail, List.cons_append, readItems, hstart, ofItems]
      rw [List.nil_append, htail, List.cons_append] at hread
      cases haccept : accept f.name v with
      | none =>
        obtain ⟨fault, hread⟩ := haccept ▸ hread
        simp only [ok_bind, if_true, hread, error_bind, Option.bind_none, ite_self]
        exact ⟨fault, rfl⟩
      | some keep =>
        obtain ⟨offset₂, hread⟩ := haccept ▸ hread
        simp only [ok_bind, if_true, hread, Option.bind_some]
        rw [List.length_cons, Nat.add_comm vs.length, ← Nat.add_assoc]
        have hnext : Value.IsItemsText vs (count + 1 == 0) others := hothers
        exact ih (fun g hg => hfs g (List.mem_cons_of_mem _ hg)) hvs.2 hothersRoom hnext (keep s)
          offset₂

/-- From an array a record is read as from its items. -/
lemma Follows.ends_readArray (h : l.Follows room accept) {vs : List Value}
    (hvs : Value.ItemsIntegral vs) (hroom : Value.itemsDepth vs ≤ room) {cs : List Char}
    (hcs : Value.IsItemsText vs true cs) (rest : List Char) (offset : Nat) :
    Ends rest (l.readArray room ⟨cs ++ rest, offset⟩) (l.ofValue accept (.arr vs)) := by
  have hfirst : Value.IsItemsText vs (0 == 0) cs := hcs
  rw [readArray_eq, ofValue, ← Nat.zero_add vs.length]
  exact h.ends_readItems (fun f hf => hf) hvs hroom hfirst l.empty rest offset

/-- **A record whose fields settle on values settles on them, too.** -/
theorem Follows.settles (h : l.Follows room accept) {v : Value} (hv : v.IsIntegral)
    (hdepth : v.depth ≤ room + 1) : Settles (l.read (room + 1)) v (l.ofValue accept v) := by
  intro w cs rest hw hcs hrest offset
  obtain ⟨ch, tail, hhead, hspace, -, -, hbracket, hbrace⟩ := hcs.eq_cons_kind hv
  have hskip : l.read (room + 1) ⟨w ++ cs ++ rest, offset⟩ =
      l.read (room + 1) ⟨cs ++ rest, offset + w.length⟩ := by
    rw [hhead, List.append_assoc, List.cons_append]
    simp only [Layout.read, skipSpace_append_cons hw hspace, skipSpace_cons hspace]
  rw [hskip]
  clear hskip
  cases v with
  | obj ms =>
    obtain ⟨inner, hinner, rfl⟩ := hcs
    exact h.ends_readObject hv (Nat.le_of_succ_le_succ hdepth) hinner rest _
  | arr vs =>
    obtain ⟨inner, hinner, rfl⟩ := hcs
    have hread : l.read (room + 1) ⟨'[' :: inner ++ rest, offset + w.length⟩ =
        l.readArray room ⟨inner ++ rest, offset + w.length + 1⟩ := by
      simp only [Layout.read, List.cons_append, skipSpace_cons (show isSpace '[' = false by decide),
        h.other]
      rfl
    rw [hread]
    exact h.ends_readArray hv (Nat.le_of_succ_le_succ hdepth) hinner rest _
  | null | bool _ | num _ | str _ =>
    rw [hhead, List.cons_append, Layout.read, skipSpace_cons hspace]
    split
    · next heq =>
      cases heq
      obtain ⟨_, ⟨⟩⟩ := hbrace rfl
    · next heq =>
      cases heq
      obtain ⟨_, ⟨⟩⟩ := hbracket rfl
    · exact ⟨_, rfl⟩

end Layout

end WebviewBridge.Json
