import WebviewBridge.Proofs.Json.Records

/-!
# Values that are refused

`Refuses` says that a reader refuses a value for one reason in all of its texts, whatever stands
before and after them.  A value of integers is refused for its depth only, as soon as one level too
many is opened (`Value.refuses_readValue`).  A record is refused at the first of its members that
cannot be gathered: one whose field is found already (`Layout.Gathers.refuses_again`), or one
without a field whose value is refused (`Layout.Gathers.refuses_other`).
-/

namespace WebviewBridge.Json

open Cursor

variable {α σ : Type}

/-- A reader refuses what comes next for a reason. -/
def Stops (scan : Scan α) (cs rest : List Char) (cause : Cause) : Prop :=
  ∀ offset, ∃ offset', scan ⟨cs ++ rest, offset⟩ = .error ⟨cause, offset'⟩

/-- A reader refuses any text of a value, behind white space, for a reason. -/
def Refuses (read : Scan α) (v : Value) (cause : Cause) : Prop :=
  ∀ ⦃w cs rest⦄, IsBlank w → v.IsText cs → EndsNumber rest → Stops read (w ++ cs) rest cause

/-- What is refused in a text is the reason why the text is refused. -/
lemma Refuses.readText {read : Nat → Scan α} {v : Value} {cause : Cause}
    (h : Refuses (read depthLimit) v cause) {cs : List Char} (hcs : v.IsText cs) :
    ∃ position, readText read (String.ofList cs) = .error ⟨cause, position⟩ := by
  obtain ⟨offset', hread⟩ := h isBlank_nil hcs endsNumber_nil 0
  rw [List.nil_append, List.append_nil] at hread
  refine ⟨Position.ofOffset cs offset', ?_⟩
  rw [Json.readText, Cursor.start, String.toList_ofList, hread]
  simp only [error_bind, Fault.inText, String.toList_ofList]

/-! ## Values that are too deep -/

namespace Value

-- The induction is the one by which values are read: what stands before the level that is too many
-- is read as it would be in a value that is not too deep.
mutual
/-- **A value that has more levels than there is room for is refused.** -/
theorem stops_readValue (v : Value) (hv : v.IsIntegral) {room steps : Nat} (hroom : room < v.depth)
    {w cs : List Char} (rest : List Char) (hw : IsBlank w) (hcs : v.IsText cs)
    (hsteps : 2 * cs.length ≤ steps) :
    Stops (readValue steps room) (w ++ cs) rest .tooDeep := by
  intro offset
  obtain ⟨ch, tail, hhead, hspace, -⟩ := hcs.eq_cons hv
  obtain ⟨steps, rfl⟩ : ∃ n, steps = n + 1 := ⟨steps - 1, by simp [hhead] at hsteps; omega⟩
  have hskip : readValue (steps + 1) room ⟨w ++ cs ++ rest, offset⟩ =
      readValue (steps + 1) room ⟨cs ++ rest, offset + w.length⟩ := by
    rw [hhead, List.append_assoc, List.cons_append, readValue_append _ _ _ _ hw hspace]
  rw [hskip]
  clear hskip hhead hspace
  match v with
  | null | bool true | bool false | num _ | str _ => exact absurd hroom (Nat.not_lt_zero _)
  | arr items =>
    obtain ⟨inner, hinner, rfl⟩ := hcs
    rw [depth] at hroom
    rw [List.length_cons] at hsteps
    match room with
    | 0 => exact ⟨_, rfl⟩
    | room + 1 =>
      have hlast : 2 * inner.length + 1 ≤ steps := by omega
      obtain ⟨offset', hread⟩ := stops_readItems items hv (Nat.lt_of_succ_lt_succ hroom) rest
        hinner hlast (offset + w.length + 1)
      rw [List.cons_append, readValue_arr, hread]
      exact ⟨offset', rfl⟩
  | obj members =>
    obtain ⟨inner, hinner, rfl⟩ := hcs
    rw [depth] at hroom
    rw [List.length_cons] at hsteps
    match room with
    | 0 => exact ⟨_, rfl⟩
    | room + 1 =>
      have hlast : 2 * inner.length + 1 ≤ steps := by omega
      obtain ⟨offset', hread⟩ := stops_readMembers members hv (Nat.lt_of_succ_lt_succ hroom) rest
        hinner hlast (offset + w.length + 1)
      rw [List.cons_append, readValue_obj, hread]
      exact ⟨offset', rfl⟩
theorem stops_readItems (vs : List Value) (hvs : ItemsIntegral vs) {room steps : Nat}
    (hroom : room < itemsDepth vs) {first : Bool} {cs : List Char} (rest : List Char)
    (hcs : IsItemsText vs first cs) (hsteps : 2 * cs.length + 1 ≤ steps) :
    Stops (readItems steps room first) cs rest .tooDeep := by
  intro offset
  obtain ⟨steps, rfl⟩ : ∃ n, steps = n + 1 := ⟨steps - 1, by omega⟩
  match vs with
  | [] => exact absurd hroom (Nat.not_lt_zero _)
  | v :: vs =>
    obtain ⟨sep, item, others, hsep, hitem, hothers, rfl⟩ := hcs
    rw [itemsDepth] at hroom
    obtain ⟨ch, tail, htail, hspace, hend, -⟩ := hitem.eq_cons hvs.1
    have hlength : 1 ≤ item.length := by rw [htail]; exact Nat.le_add_left 1 _
    simp only [List.length_append] at hsteps
    obtain ⟨offset₁, hstart⟩ :=
      scanItemStart_separator hsep hspace hend (tail ++ (others ++ rest)) offset
    have hitemSteps : 2 * item.length ≤ steps := by omega
    have hothersSteps : 2 * others.length + 1 ≤ steps := by omega
    have hread : readItems (steps + 1) room first ⟨sep ++ item ++ others ++ rest, offset⟩ =
        (do
          let (v, c) ← readValue steps room ⟨item ++ (others ++ rest), offset₁⟩
          let (vs, c) ← readItems steps room false c
          .ok (v :: vs, c)) := by
      rw [List.append_assoc, List.append_assoc, htail, List.cons_append, readItems, hstart]
      rfl
    by_cases hfits : v.depth ≤ room
    · -- the item is read, so one of those behind it is too deep
      have hothersRoom : room < itemsDepth vs := by omega
      obtain ⟨offset₂, hfirst⟩ := takes_readValue v hvs.1 hfits isBlank_nil hitem
        (hothers.endsNumber rest) hitemSteps offset₁
      obtain ⟨offset₃, hlast⟩ :=
        stops_readItems vs hvs.2 hothersRoom rest hothers hothersSteps offset₂
      rw [List.nil_append] at hfirst
      exact ⟨offset₃, by simp only [hread, hfirst, ok_bind, hlast, error_bind]⟩
    · obtain ⟨offset₂, hfirst⟩ := stops_readValue v hvs.1 (Nat.lt_of_not_le hfits)
        (others ++ rest) isBlank_nil hitem hitemSteps offset₁
      rw [List.nil_append] at hfirst
      exact ⟨offset₂, by rw [hread, hfirst, error_bind]⟩
theorem stops_readMembers (ms : List (String × Value)) (hms : MembersIntegral ms)
    {room steps : Nat} (hroom : room < membersDepth ms) {first : Bool} {cs : List Char}
    (rest : List Char) (hcs : IsMembersText ms first cs) (hsteps : 2 * cs.length + 1 ≤ steps) :
    Stops (readMembers steps room first) cs rest .tooDeep := by
  intro offset
  obtain ⟨steps, rfl⟩ : ∃ n, steps = n + 1 := ⟨steps - 1, by omega⟩
  match ms with
  | [] => exact absurd hroom (Nat.not_lt_zero _)
  | (k, v) :: ms =>
    rw [membersDepth] at hroom
    obtain ⟨w, value, others, c₁, c₂, offset₁, hw, hvalue, hothers, hlength, hstart, hkey,
      hcolon⟩ := scanMember_cons hcs rest offset
    have hvalueSteps : 2 * value.length ≤ steps := by omega
    have hothersSteps : 2 * others.length + 1 ≤ steps := by omega
    by_cases hfits : v.depth ≤ room
    · have hothersRoom : room < membersDepth ms := by omega
      obtain ⟨offset₂, hfirst⟩ := takes_readValue v hms.1 hfits hw hvalue
        (hothers.endsNumber rest) hvalueSteps offset₁
      obtain ⟨offset₃, hlast⟩ :=
        stops_readMembers ms hms.2 hothersRoom rest hothers hothersSteps offset₂
      refine ⟨offset₃, ?_⟩
      simp only [readMembers, hstart, ok_bind, if_true, hkey, hcolon, hfirst, hlast, error_bind]
    · obtain ⟨offset₂, hfirst⟩ := stops_readValue v hms.1 (Nat.lt_of_not_le hfits)
        (others ++ rest) hw hvalue hvalueSteps offset₁
      refine ⟨offset₂, ?_⟩
      simp only [readMembers, hstart, ok_bind, if_true, hkey, hcolon, hfirst, error_bind]
end

end Value

lemma refuses_anyValue {v : Value} {room : Nat} (hv : v.IsIntegral) (hroom : room < v.depth) :
    Refuses (anyValue room) v .tooDeep := by
  intro w cs rest hw hcs _ offset
  have hsteps : 2 * cs.length ≤ (⟨w ++ cs ++ rest, offset⟩ : Cursor).steps := by
    simp only [Cursor.steps, List.length_append]
    omega
  exact v.stops_readValue hv hroom rest hw hcs hsteps offset

/-! ## Records -/

namespace Layout.Gathers

variable {l : Layout σ α} {room : Nat} {s : σ} {ms ms' : List (String × Value)} {k : String}
  {v : Value}

/-- A record is read like its members: those that are gathered are read, and one step is left at
least for those behind them. -/
lemma exists_readObject (h : l.Gathers room l.empty ms s) {w cs : List Char} (hw : IsBlank w)
    (hcs : (Value.obj (ms ++ ms')).IsText cs) (rest : List Char) (offset : Nat) :
    ∃ steps first others offset', Value.IsMembersText ms' first others ∧
      l.read (room + 1) ⟨w ++ cs ++ rest, offset⟩ =
        l.readObject room ⟨cs.tail ++ rest, offset + w.length + 1⟩ ∧
      l.readMembers room (⟨cs.tail ++ rest, offset + w.length + 1⟩ : Cursor).steps true l.empty
          ⟨cs.tail ++ rest, offset + w.length + 1⟩ =
        l.readMembers room (steps + 1) first s ⟨others ++ rest, offset'⟩ := by
  obtain ⟨inner, hinner, rfl⟩ := hcs
  have hlength := length_le_of_isMembersText hinner
  rw [List.length_append] at hlength
  obtain ⟨left, hleft⟩ : ∃ n, (⟨inner ++ rest, offset + w.length + 1⟩ : Cursor).steps =
      n + 1 + ms.length := by
    refine ⟨(⟨inner ++ rest, offset + w.length + 1⟩ : Cursor).steps - 1 - ms.length, ?_⟩
    simp only [Cursor.steps, List.length_append]
    omega
  obtain ⟨first, others, offset', hothers, hread⟩ :=
    h.readMembers_append hinner (left + 1) rest (offset + w.length + 1)
  refine ⟨left, first, others, offset', hothers, ?_, ?_⟩
  · rw [Layout.read, List.append_assoc, List.cons_append, skipSpace_append_cons hw (by decide)]
    rfl
  · rw [List.tail_cons, hleft, hread]

/-- A record is refused at a member whose field is found already. -/
theorem refuses_again (h : l.Gathers room l.empty ms s) {f : Field σ}
    (hfield : l.fields.find? (·.hasName k) = some f) (hfound : f.found s = true) :
    Refuses (l.read (room + 1)) (.obj (ms ++ (k, v) :: ms')) (.duplicateField f.name) := by
  intro w cs rest hw hcs _ offset
  obtain ⟨steps, first, others, offset₁, hothers, hobject, hread⟩ :=
    h.exists_readObject hw hcs rest offset
  obtain ⟨w', value, behind, c₁, c₂, offset₂, -, -, -, -, hstart, hkey, -⟩ :=
    scanMember_cons hothers rest offset₁
  refine ⟨leaveObject c₂, ?_⟩
  rw [hobject, Layout.readObject, hread]
  simp only [Layout.readMembers, hstart, placed, ok_bind, if_true, hkey, hfield, hfound,
    error_bind]

/-- A record is refused at a member without a field whose value is refused. -/
theorem refuses_other (h : l.Gathers room l.empty ms s)
    (hfield : l.fields.find? (·.hasName k) = none) {keep : String → Value → σ → σ}
    (hother : l.other = some keep) {cause : Cause} (hvalue : Refuses (anyValue room) v cause) :
    Refuses (l.read (room + 1)) (.obj (ms ++ (k, v) :: ms')) cause := by
  intro w cs rest hw hcs _ offset
  obtain ⟨steps, first, others, offset₁, hothers, hobject, hread⟩ :=
    h.exists_readObject hw hcs rest offset
  obtain ⟨w', value, behind, c₁, c₂, offset₂, hw', htext, hbehind, -, hstart, hkey, hcolon⟩ :=
    scanMember_cons hothers rest offset₁
  obtain ⟨offset₃, hstop⟩ := hvalue hw' htext (hbehind.endsNumber rest) offset₂
  refine ⟨offset₃, ?_⟩
  rw [hobject, Layout.readObject, hread]
  simp only [Layout.readMembers, hstart, placed, ok_bind, if_true, hkey, hfield, hother, hcolon,
    hstop, error_bind]

end Layout.Gathers

end WebviewBridge.Json
