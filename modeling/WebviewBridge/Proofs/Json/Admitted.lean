import WebviewBridge.Proofs.Json.Records

/-!
# What a reader admits

A value that was read has the form in which values are kept, and is no deeper than the reader had
room for (`fits_of_readValue`), so it can be written and read again if its numbers are integers
(`Value.Portable.reads`).  What every field of a record keeps true of the fields found is true of
the record (`Layout.Keeps.read`), whether it was read from an object or from an array.
-/

namespace WebviewBridge.Json

open Cursor

variable {α β σ : Type}

/-! ## Values -/

namespace Value

lemma membersDepth_le_iff {ms : List (String × Value)} {n : Nat} :
    membersDepth ms ≤ n ↔ ∀ m ∈ ms, m.2.depth ≤ n := by
  induction ms with
  | nil => simp [membersDepth]
  | cons m rest ih => rw [membersDepth, Nat.max_le, ih, List.forall_mem_cons]

lemma membersIntegral_iff {ms : List (String × Value)} :
    MembersIntegral ms ↔ ∀ m ∈ ms, m.2.IsIntegral := by
  induction ms with
  | nil => simp [MembersIntegral]
  | cons m rest ih => simp [MembersIntegral, ih]

end Value

/-- Each member of an object is one of those it was made of. -/
lemma Members.mem_of_mem_ofList {ms : List (String × Value)} {m : String × Value}
    (h : m ∈ ofList ms) : m ∈ ms := by
  suffices g : ∀ acc : Members, m ∈ ms.foldl (fun acc m => insert m.1 m.2 acc) acc →
      m ∈ acc ∨ m ∈ ms from (g [] h).elim (by simp) id
  clear h
  induction ms with
  | nil => exact fun acc h => Or.inl h
  | cons m' rest ih =>
    intro acc h
    rcases ih _ h with h | h
    · rcases key_mem_insert h with rfl | h
      · exact Or.inr List.mem_cons_self
      · exact Or.inl h
    · exact Or.inr (List.mem_cons_of_mem _ h)

/-- A value that some room is enough for, in the form in which values are kept. -/
def Value.Fits (v : Value) (room : Nat) : Prop := v.IsCanonical ∧ v.depth ≤ room

/-- The object of members whose values fit takes one more level. -/
lemma fits_object {ms : List (String × Value)} {room : Nat} (h : ∀ m ∈ ms, m.2.Fits room) :
    (Value.object ms).Fits (room + 1) := by
  refine ⟨⟨Members.isSorted_ofList ms, Value.membersCanonical_ofList ?_⟩, ?_⟩
  · exact Value.membersCanonical_iff.2 fun m hm => (h m hm).1
  · refine Nat.succ_le_succ (Value.membersDepth_le_iff.2 fun m hm => ?_)
    exact (h m (Members.mem_of_mem_ofList hm)).2

lemma fits_arr {vs : List Value} {room : Nat} (h : ∀ v ∈ vs, v.Fits room) :
    (Value.arr vs).Fits (room + 1) := by
  refine ⟨Value.itemsCanonical_iff.2 fun v hv => (h v hv).1, Nat.succ_le_succ ?_⟩
  induction vs with
  | nil => exact Nat.zero_le _
  | cons v vs ih =>
    exact Nat.max_le.2 ⟨(h v List.mem_cons_self).2, ih fun u hu => h u (List.mem_cons_of_mem _ hu)⟩

/-- A value that is read as it was written, by a reader with some room. -/
structure Value.Portable (v : Value) (room : Nat) : Prop where
  fits : v.Fits room
  isIntegral : v.IsIntegral

lemma Value.Portable.reads {v : Value} {room : Nat} (hv : v.Portable room) :
    Reads (anyValue room) v v := by
  have hread := reads_anyValue hv.isIntegral hv.fits.2
  rwa [v.canonical_of_isCanonical hv.fits.1] at hread

lemma Value.Fits.of_mem {ms : Members} {room : Nat} (h : (Value.obj ms).Fits (room + 1))
    {m : String × Value} (hm : m ∈ ms) : m.2.Fits room :=
  ⟨membersCanonical_iff.1 h.1.2 m hm,
    membersDepth_le_iff.1 (Nat.le_of_succ_le_succ h.2) m hm⟩

/-- **A value that was read fits the room that the reader had.** -/
theorem fits_of_readValue (steps : Nat) :
    (∀ room c v c', readValue steps room c = .ok (v, c') → v.Fits room) ∧
    (∀ room first c vs c', readItems steps room first c = .ok (vs, c') →
      ∀ v ∈ vs, v.Fits room) ∧
    (∀ room first c ms c', readMembers steps room first c = .ok (ms, c') →
      ∀ m ∈ ms, m.2.Fits room) := by
  induction steps with
  | zero => exact ⟨nofun, nofun, nofun⟩
  | succ steps ih =>
    obtain ⟨ihValue, ihItems, ihMembers⟩ := ih
    refine ⟨?_, ?_, ?_⟩
    · intro room c v c' h
      -- a leaf takes no room, and there is one form of it only
      have hleaf : ∀ {γ : Type} {scan : Except Fault (γ × Cursor)} {f : γ → Value},
          (∀ x, (f x).IsCanonical ∧ (f x).depth = 0) →
          (scan >>= fun r => .ok (f r.1, r.2)) = .ok (v, c') → v.Fits room := by
        intro γ scan f hf h
        obtain ⟨⟨x, c₁⟩, -, h⟩ := bind_eq_ok h
        cases h
        exact ⟨(hf x).1, by rw [(hf x).2]; exact Nat.zero_le _⟩
      rw [readValue.eq_def] at h
      simp only at h
      split at h
      · cases h
      · exact hleaf (f := fun _ => .null) (fun _ => ⟨trivial, rfl⟩) h
      · exact hleaf (f := fun _ => .bool true) (fun _ => ⟨trivial, rfl⟩) h
      · exact hleaf (f := fun _ => .bool false) (fun _ => ⟨trivial, rfl⟩) h
      · exact hleaf (f := .str) (fun _ => ⟨trivial, rfl⟩) h
      · cases room with
        | zero => cases h
        | succ room =>
          obtain ⟨⟨vs, c₁⟩, hitems, h⟩ := bind_eq_ok h
          cases h
          exact fits_arr (ihItems _ _ _ _ _ hitems)
      · cases room with
        | zero => cases h
        | succ room =>
          obtain ⟨⟨ms, c₁⟩, hmembers, h⟩ := bind_eq_ok h
          cases h
          exact fits_object (ihMembers _ _ _ _ _ hmembers)
      · split at h
        · exact hleaf (f := .num) (fun _ => ⟨trivial, rfl⟩) h
        · cases h
    · intro room first c vs c' h
      rw [readItems] at h
      obtain ⟨⟨more, c₁⟩, -, h⟩ := bind_eq_ok h
      cases more with
      | false =>
        cases h
        exact List.forall_mem_nil _
      | true =>
        obtain ⟨⟨v, c₂⟩, hvalue, h⟩ := bind_eq_ok h
        obtain ⟨⟨vs, c₃⟩, hitems, h⟩ := bind_eq_ok h
        cases h
        rintro u (_ | ⟨_, hu⟩)
        · exact ihValue _ _ _ _ hvalue
        · exact ihItems _ _ _ _ _ hitems u hu
    · intro room first c ms c' h
      rw [readMembers] at h
      obtain ⟨⟨more, c₁⟩, -, h⟩ := bind_eq_ok h
      cases more with
      | false =>
        cases h
        exact List.forall_mem_nil _
      | true =>
        obtain ⟨⟨k, c₂⟩, -, h⟩ := bind_eq_ok h
        obtain ⟨⟨_, c₃⟩, -, h⟩ := bind_eq_ok h
        obtain ⟨⟨v, c₄⟩, hvalue, h⟩ := bind_eq_ok h
        obtain ⟨⟨ms, c₅⟩, hmembers, h⟩ := bind_eq_ok h
        cases h
        rintro m (_ | ⟨_, hm⟩)
        · exact ihValue _ _ _ _ hvalue
        · exact ihMembers _ _ _ _ _ hmembers m hm

lemma fits_of_orNull {room : Nat} {c c' : Cursor} {x : Option Value}
    (h : orNull anyValue room c = .ok (x, c')) : ∀ v ∈ x, v.Fits room := by
  rw [orNull] at h
  split at h
  · obtain ⟨r, -, hr⟩ := map_eq_ok h
    cases hr
    rintro v ⟨⟩
  · obtain ⟨⟨v, c₁⟩, hvalue, hr⟩ := map_eq_ok h
    cases hr
    rintro u ⟨⟩
    exact (fits_of_readValue _).1 _ _ _ _ hvalue

/-! ## Records -/

lemma placed_eq_ok {x : Except Fault α} {a : α} (h : placed x = .ok a) : x = .ok a := by
  cases x with
  | error e => cases h
  | ok b => exact congrArg Except.ok (Except.ok.inj h)

/-- What holds of the fields found as the members of an object are read: since a field that is
found again is refused, each field matters only until it is found. -/
lemma Layout.of_readMembers {l : Layout σ α} {room : Nat} {P : σ → Prop}
    (hfields : ∀ f ∈ l.fields, ∀ c keep c', f.read room c = .ok (keep, c') →
      ∀ s, f.found s = false → P s → P (keep s))
    (hothers : ∀ keep, l.other = some keep → ∀ k v, v.Fits room → ∀ s, P s → P (keep k v s))
    {steps : Nat} {first : Bool} {s s' : σ} {c c' : Cursor}
    (hread : l.readMembers room steps first s c = .ok (s', c')) (hs : P s) : P s' := by
  induction steps generalizing first s c with
  | zero => cases hread
  | succ steps ih =>
    rw [Layout.readMembers] at hread
    obtain ⟨⟨more, c₁⟩, -, hread⟩ := bind_eq_ok hread
    cases more with
    | false =>
      cases hread
      exact hs
    | true =>
      obtain ⟨⟨key, c₂⟩, -, hread⟩ := bind_eq_ok hread
      simp only at hread
      -- the member is that of a field, or kept, or passed over
      split at hread
      · next _ _ f hfield =>
        split at hread
        · cases hread
        · next hfound =>
          obtain ⟨⟨_, c₃⟩, -, hread⟩ := bind_eq_ok hread
          obtain ⟨⟨keep, c₄⟩, hvalue, hread⟩ := bind_eq_ok hread
          exact ih hread (hfields f (List.mem_of_find?_eq_some hfield) _ _ _
            (placed_eq_ok hvalue) s (eq_false_of_ne_true hfound) hs)
      · next _ _ keep _ hother =>
        obtain ⟨⟨_, c₃⟩, -, hread⟩ := bind_eq_ok hread
        obtain ⟨⟨v, c₄⟩, hvalue, hread⟩ := bind_eq_ok hread
        have hv := (fits_of_readValue _).1 _ _ _ _ (placed_eq_ok hvalue)
        exact ih hread (hothers keep hother key v hv s hs)
      · obtain ⟨⟨_, c₃⟩, -, hread⟩ := bind_eq_ok hread
        obtain ⟨⟨_, c₄⟩, -, hread⟩ := bind_eq_ok hread
        exact ih hread hs

/-- Every field of a record, and what is kept of other members, keeps something true of the fields
found. -/
structure Layout.Keeps (l : Layout σ α) (room : Nat) (P : σ → Prop) : Prop where
  field : ∀ f ∈ l.fields, ∀ c keep c', f.read room c = .ok (keep, c') → ∀ s, P s → P (keep s)
  other : ∀ keep, l.other = some keep → ∀ k v, v.Fits room → ∀ s, P s → P (keep k v s)

namespace Layout.Keeps

variable {l : Layout σ α} {room : Nat} {P : σ → Prop}

lemma readMembers (h : l.Keeps room P) {steps : Nat} {first : Bool} {s s' : σ} {c c' : Cursor}
    (hread : l.readMembers room steps first s c = .ok (s', c')) (hs : P s) : P s' :=
  of_readMembers (fun f hf c keep c' hvalue s _ => h.field f hf c keep c' hvalue s) h.other hread hs

lemma readItems (h : l.Keeps room P) {fs : List (Field σ)} (hfs : ∀ f ∈ fs, f ∈ l.fields)
    {count count' : Nat} {s s' : σ} {c c' : Cursor}
    (hread : Layout.readItems room fs count s c = .ok (s', count', c')) (hs : P s) : P s' := by
  induction fs generalizing count s c with
  | nil =>
    cases hread
    exact hs
  | cons f fs ih =>
    rw [Layout.readItems] at hread
    obtain ⟨⟨more, c₁⟩, -, hread⟩ := bind_eq_ok hread
    cases more with
    | false =>
      cases hread
      exact hs
    | true =>
      obtain ⟨⟨keep, c₂⟩, hvalue, hread⟩ := bind_eq_ok hread
      exact ih (fun g hg => hfs g (List.mem_cons_of_mem _ hg)) hread
        (h.field f (hfs f List.mem_cons_self) _ _ _ hvalue s hs)

/-- **What the fields keep true of the fields found is true of those that a record is made of.** -/
theorem read (h : l.Keeps room P) (hempty : P l.empty) {c c' : Cursor} {x : α}
    (hread : l.read (room + 1) c = .ok (x, c')) : ∃ s, P s ∧ l.finish s = .ok x := by
  rw [Layout.read] at hread
  split at hread
  · rw [Layout.readObject] at hread
    split at hread
    · next hobject =>
      cases hread
      obtain ⟨⟨s, c₁⟩, hmembers, hobject⟩ := bind_eq_ok hobject
      refine ⟨s, h.readMembers hmembers hempty, ?_⟩
      simp only at hobject
      split at hobject
      · next hfinish =>
        cases hobject
        exact hfinish
      · cases hobject
    · cases hread
    · cases hread
  · split at hread
    · cases hread
    · obtain ⟨⟨s, count, c₁⟩, hitems, hread⟩ := bind_eq_ok hread
      refine ⟨s, h.readItems (fun f hf => hf) hitems hempty, ?_⟩
      simp only at hread
      split at hread
      · cases hread
      · split at hread
        · next hfinish =>
          obtain ⟨_, -, hread⟩ := bind_eq_ok hread
          cases hread
          exact hfinish
        · cases hread
  · cases hread

end Layout.Keeps

/-- A text that was read as a whole was read by the reader. -/
lemma exists_of_readText {read : Nat → Scan α} {text : String} {x : α}
    (h : readText read text = .ok x) :
    ∃ c, read depthLimit (Cursor.start text) = .ok (x, c) := by
  rw [readText] at h
  split at h
  · next hok =>
    cases h
    obtain ⟨⟨x, c⟩, hread, hok⟩ := bind_eq_ok hok
    obtain ⟨_, -, hok⟩ := bind_eq_ok hok
    cases hok
    exact ⟨c, hread⟩
  · cases h

/-- What holds of the fields that the first members of a record fill, and no other field changes, is
true of what the record is read as, if it is read at all. -/
theorem Layout.Gathers.of_readText {l : Layout σ α} {P : σ → Prop} {s : σ}
    {ms ms' : List (String × Value)} {x : α} (h : l.Gathers 126 l.empty ms s) (hs : P s)
    (hfields : ∀ f ∈ l.fields, ∀ c keep c', f.read 126 c = .ok (keep, c') →
      ∀ s, f.found s = false → P s → P (keep s))
    (hothers : ∀ keep, l.other = some keep → ∀ k v, v.Fits 126 → ∀ s, P s → P (keep k v s))
    (hread : Json.readText l.read (recordText (ms ++ ms')) = .ok x) :
    ∃ s', P s' ∧ l.finish s' = .ok x := by
  obtain ⟨c, hread⟩ := exists_of_readText hread
  obtain ⟨inner, hinner, htext⟩ := Value.isText_chars (.obj (ms ++ ms'))
  have hstart : Cursor.start (recordText (ms ++ ms')) = ⟨'\x7b' :: inner, 0⟩ := by
    rw [Cursor.start, recordText, Value.text, String.toList_ofList, htext]
  have hobject : l.read depthLimit (Cursor.start (recordText (ms ++ ms'))) =
      l.readObject 126 ⟨inner ++ [], 1⟩ := by
    rw [hstart, List.append_nil]
    rfl
  have hlength := length_le_of_isMembersText hinner
  rw [List.length_append] at hlength
  obtain ⟨left, hleft⟩ : ∃ n, (⟨inner ++ [], 1⟩ : Cursor).steps = n + ms.length := by
    refine ⟨(⟨inner ++ [], 1⟩ : Cursor).steps - ms.length, ?_⟩
    simp only [Cursor.steps, List.append_nil]
    omega
  obtain ⟨first', others, offset', -, hmembers⟩ := h.readMembers_append hinner left [] 1
  rw [hobject, Layout.readObject, hleft, hmembers] at hread
  split at hread
  · next hok =>
    obtain ⟨⟨s', c'⟩, hrest, hok⟩ := bind_eq_ok hok
    refine ⟨s', Layout.of_readMembers hfields hothers hrest hs, ?_⟩
    simp only at hok
    split at hok
    · next hfinish =>
      cases hread
      cases hok
      exact hfinish
    · cases hok
  · cases hread
  · cases hread

end WebviewBridge.Json
