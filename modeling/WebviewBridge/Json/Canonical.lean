import WebviewBridge.Json.Value

/-!
# The form in which values are kept

A text may give the members of an object in any order, and a key more than once.  A value is kept
with the members of each object sorted by key, each key once; of equal keys the last one counts.
Main statements: `Value.canonical` brings a value into that form (`isCanonical_canonical`) and
leaves alone one that has it (`canonical_of_isCanonical`).  The depth of a value and the kind of its
numbers are what a reader may refuse it for.
-/

namespace WebviewBridge.Json

/-- Whether a number is an integer that stays one. -/
def Number.IsInteger : Number → Prop
  | .int n => -(2 : Int).pow 63 ≤ n ∧ n < UInt64.size
  | .double _ => False

namespace Members

/-- Whether members are sorted by key, each key once. -/
def IsSorted (ms : Members) : Prop := ms.Pairwise fun a b => a.1 < b.1

theorem key_mem_insert {k : String} {v : Value} {ms : Members} {m : String × Value}
    (h : m ∈ insert k v ms) : m = (k, v) ∨ m ∈ ms := by
  induction ms with
  | nil => simpa [insert] using h
  | cons m' rest ih =>
    obtain ⟨k', v'⟩ := m'
    simp only [insert] at h
    split at h
    · simpa using h
    · split at h <;> simp only [List.mem_cons] at h ⊢
      · rcases h with h | h <;> simp [h]
      · rcases h with h | h
        · simp [h]
        · rcases ih h with h | h <;> simp [h]

/-- Adding a member keeps members sorted. -/
theorem IsSorted.insert {ms : Members} (h : ms.IsSorted) (k : String) (v : Value) :
    (Members.insert k v ms).IsSorted := by
  induction ms with
  | nil => simp [Members.insert, IsSorted]
  | cons m rest ih =>
    obtain ⟨k', v'⟩ := m
    have hm := List.pairwise_cons.mp h
    simp only [Members.insert]
    split
    · rename_i hlt
      refine List.pairwise_cons.mpr ⟨fun x hx => ?_, h⟩
      rcases List.mem_cons.mp hx with rfl | hx
      · exact hlt
      · exact String.lt_trans hlt (hm.1 x hx)
    · split
      · rename_i heq
        subst heq
        exact List.pairwise_cons.mpr hm
      · rename_i hlt hne
        refine List.pairwise_cons.mpr ⟨fun x hx => ?_, ih hm.2⟩
        rcases key_mem_insert hx with rfl | hx
        · exact (Std.lt_trichotomy k' k).elim id fun e =>
            e.elim (fun e => absurd e.symm hne) fun e => absurd e hlt
        · exact hm.1 x hx

/-- Members from a list are sorted. -/
theorem isSorted_ofList (ms : List (String × Value)) : (ofList ms).IsSorted := by
  suffices h : ∀ acc : Members, acc.IsSorted →
      (ms.foldl (fun acc m => insert m.1 m.2 acc) acc : Members).IsSorted from
    h [] List.Pairwise.nil
  induction ms with
  | nil => exact fun _ h => h
  | cons m rest ih => exact fun acc h => ih _ (h.insert m.1 m.2)

/-- A member behind all others goes to the end. -/
theorem insert_of_greatest {k : String} {v : Value} {ms : Members} (h : ∀ m ∈ ms, m.1 < k) :
    insert k v ms = ms ++ [(k, v)] := by
  induction ms with
  | nil => rfl
  | cons m rest ih =>
    obtain ⟨k', v'⟩ := m
    have hk : k' < k := h (k', v') (by simp)
    have hne : k ≠ k' := fun e => String.lt_irrefl k (by rwa [← e] at hk)
    simp [insert, String.lt_asymm hk, hne, ih fun m hm => h m (by simp [hm])]

/-- Sorted members are left as they are. -/
theorem ofList_of_isSorted {ms : Members} (h : ms.IsSorted) : ofList ms = ms := by
  suffices g : ∀ acc : Members, (acc ++ ms : Members).IsSorted →
      ms.foldl (fun acc m => insert m.1 m.2 acc) acc = acc ++ ms from g [] h
  clear h
  induction ms with
  | nil => simp
  | cons m rest ih =>
    intro acc h
    have hlt : ∀ x ∈ acc, x.1 < m.1 := fun x hx =>
      (List.pairwise_append.mp h).2.2 x hx m (by simp)
    rw [List.foldl_cons, insert_of_greatest hlt, ih _ (by simpa using h)]
    simp

end Members

namespace Value

mutual
/-- The value in the form in which it is kept. -/
def canonical : Value → Value
  | arr items => arr (canonicalItems items)
  | obj members => object (canonicalMembers members)
  | null => null
  | bool b => bool b
  | num n => num n
  | str s => str s
/-- The items of an array in the form in which they are kept. -/
def canonicalItems : List Value → List Value
  | [] => []
  | v :: vs => canonical v :: canonicalItems vs
/-- Members in their order, their values in the form in which they are kept. -/
def canonicalMembers : List (String × Value) → List (String × Value)
  | [] => []
  | (k, v) :: ms => (k, canonical v) :: canonicalMembers ms
end

mutual
/-- Whether a value has the form in which it is kept. -/
def IsCanonical : Value → Prop
  | arr items => ItemsCanonical items
  | obj members => Members.IsSorted members ∧ MembersCanonical members
  | _ => True
/-- Whether all items of an array have the form in which they are kept. -/
def ItemsCanonical : List Value → Prop
  | [] => True
  | v :: vs => IsCanonical v ∧ ItemsCanonical vs
/-- Whether the values of all members have the form in which they are kept. -/
def MembersCanonical : List (String × Value) → Prop
  | [] => True
  | (_, v) :: ms => IsCanonical v ∧ MembersCanonical ms
end

theorem membersCanonical_iff {ms : List (String × Value)} :
    MembersCanonical ms ↔ ∀ m ∈ ms, m.2.IsCanonical := by
  induction ms with
  | nil => simp [MembersCanonical]
  | cons m rest ih => simp [MembersCanonical, ih]

theorem itemsCanonical_iff {vs : List Value} : ItemsCanonical vs ↔ ∀ v ∈ vs, v.IsCanonical := by
  induction vs with
  | nil => simp [ItemsCanonical]
  | cons v rest ih => simp [ItemsCanonical, ih]

/-- Members from a list of kept values are kept. -/
theorem membersCanonical_ofList {ms : List (String × Value)} (h : MembersCanonical ms) :
    MembersCanonical (Members.ofList ms) := by
  suffices g : ∀ acc : Members, MembersCanonical acc →
      MembersCanonical (ms.foldl (fun acc m => Members.insert m.1 m.2 acc) acc) from
    g [] (by simp [MembersCanonical])
  induction ms with
  | nil => exact fun _ h => h
  | cons m rest ih =>
    intro acc hacc
    have hm := membersCanonical_iff.mp h
    refine ih (membersCanonical_iff.mpr fun x hx => hm x (by simp [hx])) _
      (membersCanonical_iff.mpr fun x hx => ?_)
    rcases Members.key_mem_insert hx with rfl | hx
    · exact hm m (by simp)
    · exact membersCanonical_iff.mp hacc x hx

mutual
/-- `canonical` brings a value into the form in which it is kept. -/
theorem isCanonical_canonical (v : Value) : v.canonical.IsCanonical :=
  match v with
  | arr items => by
    simpa only [canonical, IsCanonical] using itemsCanonical_canonicalItems items
  | obj members => by
    simpa only [canonical, object, IsCanonical] using
      ⟨Members.isSorted_ofList _, membersCanonical_ofList (membersCanonical_canonicalMembers members)⟩
  | null | bool _ | num _ | str _ => by simp [canonical, IsCanonical]
theorem itemsCanonical_canonicalItems (vs : List Value) : ItemsCanonical (canonicalItems vs) :=
  match vs with
  | [] => by simp [canonicalItems, ItemsCanonical]
  | v :: rest => by
    simpa only [canonicalItems, ItemsCanonical] using
      ⟨isCanonical_canonical v, itemsCanonical_canonicalItems rest⟩
theorem membersCanonical_canonicalMembers (ms : List (String × Value)) :
    MembersCanonical (canonicalMembers ms) :=
  match ms with
  | [] => by simp [canonicalMembers, MembersCanonical]
  | (_, v) :: rest => by
    simpa only [canonicalMembers, MembersCanonical] using
      ⟨isCanonical_canonical v, membersCanonical_canonicalMembers rest⟩
end

mutual
/-- `canonical` leaves alone a value that has the form in which it is kept. -/
theorem canonical_of_isCanonical (v : Value) (h : v.IsCanonical) : v.canonical = v :=
  match v with
  | arr items => by
    simp only [IsCanonical] at h
    simp only [canonical, canonicalItems_of_itemsCanonical items h]
  | obj members => by
    simp only [IsCanonical] at h
    simp only [canonical, object, canonicalMembers_of_membersCanonical members h.2,
      Members.ofList_of_isSorted h.1]
  | null | bool _ | num _ | str _ => by simp [canonical]
theorem canonicalItems_of_itemsCanonical (vs : List Value) (h : ItemsCanonical vs) :
    canonicalItems vs = vs :=
  match vs with
  | [] => by simp [canonicalItems]
  | v :: rest => by
    simp only [ItemsCanonical] at h
    simp only [canonicalItems, canonical_of_isCanonical v h.1,
      canonicalItems_of_itemsCanonical rest h.2]
theorem canonicalMembers_of_membersCanonical (ms : List (String × Value))
    (h : MembersCanonical ms) : canonicalMembers ms = ms :=
  match ms with
  | [] => by simp [canonicalMembers]
  | (k, v) :: rest => by
    simp only [MembersCanonical] at h
    simp only [canonicalMembers, canonical_of_isCanonical v h.1,
      canonicalMembers_of_membersCanonical rest h.2]
end

/-! ## Depth and numbers -/

mutual
/-- How many arrays and objects are open at once at the deepest point. -/
def depth : Value → Nat
  | arr items => itemsDepth items + 1
  | obj members => membersDepth members + 1
  | _ => 0
/-- The greatest depth of items. -/
def itemsDepth : List Value → Nat
  | [] => 0
  | v :: vs => max (depth v) (itemsDepth vs)
/-- The greatest depth of members. -/
def membersDepth : List (String × Value) → Nat
  | [] => 0
  | (_, v) :: ms => max (depth v) (membersDepth ms)
end

mutual
/-- Whether all numbers of a value are integers. -/
def IsIntegral : Value → Prop
  | num n => n.IsInteger
  | arr items => ItemsIntegral items
  | obj members => MembersIntegral members
  | _ => True
/-- Whether all numbers of items are integers. -/
def ItemsIntegral : List Value → Prop
  | [] => True
  | v :: vs => IsIntegral v ∧ ItemsIntegral vs
/-- Whether all numbers of the values of members are integers. -/
def MembersIntegral : List (String × Value) → Prop
  | [] => True
  | (_, v) :: ms => IsIntegral v ∧ MembersIntegral ms
end

end Value

end WebviewBridge.Json
