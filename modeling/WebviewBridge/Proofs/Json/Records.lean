import WebviewBridge.Json.Record
import WebviewBridge.Proofs.Json.Texts

/-!
# Reading typed data from any text of a value

`Reads` says that a reader gives one answer for all texts of a value, whatever stands before and
after them.  A single value has one lemma per reader.  For a record `Layout.Gathers` tells what
becomes of the fields found as the members go by, without a text in it; then the record is read
from all texts of the object (`Layout.Gathers.reads`), and from a whole text (`Reads.readText`).
-/

namespace WebviewBridge.Json

open Cursor

variable {α β σ : Type}

/-- A reader takes any text of a value, behind white space, and gives `x`. -/
def Reads (read : Scan α) (v : Value) (x : α) : Prop :=
  ∀ ⦃w cs rest⦄, IsBlank w → v.IsText cs → EndsNumber rest → Takes read (w ++ cs) rest x

/-! ## Single values -/

section Single

variable {v : Value} {x : α} {room : Nat}

/-- What was read may be put into another form. -/
lemma Reads.bind {read : Scan α} (h : Reads read v x) (f : α → β) :
    Reads (fun c => (read c).bind fun r => .ok (f r.1, r.2)) v (f x) := by
  intro w cs rest hw hcs hrest offset
  obtain ⟨offset', hread⟩ := h hw hcs hrest offset
  exact ⟨offset', by simp only [hread]; rfl⟩

lemma Reads.map {read : Scan α} (h : Reads read v x) (f : α → β) :
    Reads (fun c => (read c).map fun r => (f r.1, r.2)) v (f x) := by
  intro w cs rest hw hcs hrest offset
  obtain ⟨offset', hread⟩ := h hw hcs hrest offset
  exact ⟨offset', by simp only [hread]; rfl⟩

lemma reads_anyValue (hv : v.IsIntegral) (hroom : v.depth ≤ room) :
    Reads (anyValue room) v v.canonical := by
  intro w cs rest hw hcs hrest offset
  have hsteps : 2 * cs.length ≤ (⟨w ++ cs ++ rest, offset⟩ : Cursor).steps := by
    simp only [Cursor.steps, List.length_append]
    omega
  exact v.takes_readValue hv hroom hw hcs hrest hsteps offset

lemma reads_textValue (s : String) (room : Nat) : Reads (textValue room) (.str s) s := by
  intro w cs rest hw hcs hrest offset
  cases hcs
  obtain ⟨offset', hscan⟩ := takes_scanString s rest (offset + w.length + 1)
  refine ⟨offset', ?_⟩
  rw [textValue, scanText, List.append_assoc, stringChars_eq, List.cons_append,
    skipSpace_append_cons hw (by decide)]
  exact hscan

lemma reads_orNull_null (read : Nat → Scan α) : Reads (orNull read room) .null none := by
  intro w cs rest hw hcs hrest offset
  cases hcs
  refine ⟨offset + w.length + 4, ?_⟩
  rw [orNull, List.append_assoc, List.cons_append, skipSpace_append_cons hw (by decide)]
  rfl

lemma Reads.orNull {read : Nat → Scan α} (h : Reads (read room) v x) (hv : v.IsIntegral)
    (hne : v ≠ .null) : Reads (orNull read room) v (some x) := by
  intro w cs rest hw hcs hrest offset
  obtain ⟨ch, tail, rfl, hspace, -, hnull⟩ := hcs.eq_cons hv
  obtain ⟨offset', hread⟩ := h isBlank_nil hcs hrest (offset + w.length)
  refine ⟨offset', ?_⟩
  rw [Json.orNull, List.append_assoc, List.cons_append, skipSpace_append_cons hw hspace]
  split
  · next heq =>
    cases heq
    exact absurd (hnull rfl) hne
  · rw [List.nil_append, List.cons_append] at hread
    rw [hread]
    rfl

lemma reads_optionalText (s : String) (room : Nat) :
    Reads (Json.orNull textValue room) (.str s) (some s) :=
  (reads_textValue s room).orNull trivial nofun

lemma reads_nameValue {admitted : List (String × α)} {name : String}
    (h : admitted.lookup name = some x) (room : Nat) :
    Reads (nameValue admitted room) (.str name) x := by
  intro w cs rest hw hcs hrest offset
  cases hcs
  obtain ⟨offset', hscan⟩ := takes_scanString name rest (offset + w.length + 1)
  refine ⟨offset', ?_⟩
  rw [nameValue, List.append_assoc, stringChars_eq, List.cons_append,
    skipSpace_append_cons hw (by decide)]
  have htext : scanText "variant identifier"
      ⟨'"' :: (name.toList.flatMap escapeChar ++ ['"'] ++ rest), offset + w.length⟩ =
      .ok (name, ⟨rest, offset'⟩) := by
    rw [scanText, skipSpace_cons (by decide)]
    exact hscan
  -- the name is read as any other text, and then looked up
  change scanName admitted _ = _
  rw [scanName, htext]
  simp only [ok_bind, h]

lemma reads_naturalValue {n limit : Nat} (hn : n ≤ limit) (hlimit : limit < UInt64.size)
    (type : String) (room : Nat) : Reads (naturalValue limit type room) (.nat n) n := by
  intro w cs rest hw hcs hrest offset
  cases hcs
  have hinteger : (Number.int n).IsInteger := by
    have hpow : (2 : Int).pow 63 = 2 ^ 63 := rfl
    rw [Number.IsInteger, hpow]
    omega
  obtain ⟨offset', hscan⟩ := takes_scanNumber hinteger hrest (offset + w.length)
  obtain ⟨ch, tail, htail, hch⟩ := intChars_eq_cons n
  have hspace := Value.isSpace_of_begins hch
  refine ⟨offset', ?_⟩
  change naturalValue limit type room ⟨w ++ intChars n ++ rest, offset⟩ = _
  rw [htail, List.cons_append] at hscan
  rw [htail, naturalValue, List.append_assoc, List.cons_append, skipSpace_append_cons hw hspace]
  have hor : (ch = '-' || ch.isDigit) = true := by simpa using hch
  simp only [hor, if_true, hscan]
  rw [if_pos (by omega), Int.toNat_natCast]

end Single

/-! ## Records -/

/-- What becomes of the fields found as the members of an object are read in order.  A member that
is no field is kept by the layout. -/
inductive Layout.Gathers (l : Layout σ α) (room : Nat) : σ → List (String × Value) → σ → Prop
  | nil (s : σ) : l.Gathers room s [] s
  | field {s s' : σ} {k : String} {v : Value} {ms : List (String × Value)} {f : Field σ}
      {keep : σ → σ} (hfield : l.fields.find? (·.hasName k) = some f) (hfound : f.found s = false)
      (hread : Reads (f.read room) v keep) (hrest : l.Gathers room (keep s) ms s') :
      l.Gathers room s ((k, v) :: ms) s'
  | other {s s' : σ} {k : String} {v : Value} {ms : List (String × Value)}
      {keep : String → Value → σ → σ} (hfield : l.fields.find? (·.hasName k) = none)
      (hother : l.other = some keep) (hread : Reads (anyValue room) v v)
      (hrest : l.Gathers room (keep k v s) ms s') : l.Gathers room s ((k, v) :: ms) s'

variable {l : Layout σ α} {room : Nat}

/-- Members behind others are gathered after them. -/
lemma Layout.Gathers.append {s s' s'' : σ} {ms ms' : List (String × Value)}
    (h : l.Gathers room s ms s') (h' : l.Gathers room s' ms' s'') :
    l.Gathers room s (ms ++ ms') s'' := by
  induction h with
  | nil s => exact h'
  | field hfield hfound hread _ ih => exact .field hfield hfound hread (ih h')
  | other hfield hother hread _ ih => exact .other hfield hother hread (ih h')

/-- Members that are gathered are read from their text, one step for each, up to the text of those
behind them. -/
lemma Layout.Gathers.readMembers_append {s s' : σ} {ms ms' : List (String × Value)}
    (h : l.Gathers room s ms s') {first : Bool} {cs : List Char}
    (hcs : Value.IsMembersText (ms ++ ms') first cs) (steps : Nat) (rest : List Char)
    (offset : Nat) :
    ∃ first' others offset', Value.IsMembersText ms' first' others ∧
      l.readMembers room (steps + ms.length) first s ⟨cs ++ rest, offset⟩ =
        l.readMembers room steps first' s' ⟨others ++ rest, offset'⟩ := by
  induction h generalizing first cs offset with
  | nil s => exact ⟨first, cs, offset, hcs, rfl⟩
  | @field s s' k v ms f keep hfield hfound hread hrest ih =>
    obtain ⟨w, value, behind, c₁, c₂, offset₁, hw, hvalue, hbehind, -, hstart, hkey, hcolon⟩ :=
      scanMember_cons hcs rest offset
    obtain ⟨offset₂, hvalue⟩ := hread hw hvalue (hbehind.endsNumber rest) offset₁
    obtain ⟨first', others, offset₃, hothers, hlast⟩ := ih hbehind offset₂
    refine ⟨first', others, offset₃, hothers, ?_⟩
    rw [List.length_cons, ← Nat.add_assoc]
    simp only [Layout.readMembers, hstart, placed, ok_bind, if_true, hkey, hfield, hfound,
      Bool.false_eq_true, if_false, hcolon, hvalue, hlast]
  | @other s s' k v ms keep hfield hother hread hrest ih =>
    obtain ⟨w, value, behind, c₁, c₂, offset₁, hw, hvalue, hbehind, -, hstart, hkey, hcolon⟩ :=
      scanMember_cons hcs rest offset
    obtain ⟨offset₂, hvalue⟩ := hread hw hvalue (hbehind.endsNumber rest) offset₁
    obtain ⟨first', others, offset₃, hothers, hlast⟩ := ih hbehind offset₂
    refine ⟨first', others, offset₃, hothers, ?_⟩
    rw [List.length_cons, ← Nat.add_assoc]
    simp only [Layout.readMembers, hstart, placed, ok_bind, if_true, hkey, hfield, hother, hcolon,
      hvalue, hlast]

/-- Members that are gathered are read from their text, up to the closing brace. -/
lemma Layout.Gathers.readMembers {s s' : σ} {ms : List (String × Value)}
    (h : l.Gathers room s ms s') {first : Bool} {cs : List Char}
    (hcs : Value.IsMembersText ms first cs) {steps : Nat} (hsteps : ms.length < steps)
    (rest : List Char) (offset : Nat) :
    ∃ offset', l.readMembers room steps first s ⟨cs ++ rest, offset⟩ =
      .ok (s', ⟨'\x7d' :: rest, offset'⟩) := by
  -- each member takes one step, so there is one left for the closing brace
  obtain ⟨left, rfl⟩ : ∃ n, steps = n + 1 + ms.length := ⟨steps - 1 - ms.length, by omega⟩
  rw [← List.append_nil ms] at hcs
  obtain ⟨first', others, offset₁, ⟨w, hw, rfl⟩, hread⟩ :=
    h.readMembers_append hcs (left + 1) rest offset
  obtain ⟨offset₂, hstart⟩ := scanMemberStart_end first' hw rest offset₁
  refine ⟨offset₂, ?_⟩
  rw [hread, List.append_assoc, List.singleton_append, Layout.readMembers, hstart]
  rfl

/-- A text has a character for each member of an object. -/
lemma length_le_of_isMembersText {ms : List (String × Value)} {first : Bool} {cs : List Char}
    (hcs : Value.IsMembersText ms first cs) : ms.length ≤ cs.length := by
  induction ms generalizing first cs with
  | nil => exact Nat.zero_le _
  | cons m ms ih =>
    obtain ⟨w, value, others, -, -, -, -, -, hothers, hlength, -⟩ := scanMember_cons hcs [] 0
    have hms := ih hothers
    rw [List.length_cons]
    omega

/-- **A record is read from any text of an object whose members are gathered.** -/
theorem Layout.Gathers.reads {s : σ} {ms : List (String × Value)} {x : α}
    (h : l.Gathers room l.empty ms s) (hfinish : l.finish s = .ok x) :
    Reads (l.read (room + 1)) (.obj ms) x := by
  intro w cs rest hw hcs hrest offset
  obtain ⟨inner, hinner, rfl⟩ := hcs
  have hlength := length_le_of_isMembersText hinner
  have hsteps : ms.length < (⟨inner ++ rest, offset + w.length + 1⟩ : Cursor).steps := by
    simp only [Cursor.steps, List.length_append]
    omega
  obtain ⟨offset', hread⟩ := h.readMembers hinner hsteps rest (offset + w.length + 1)
  refine ⟨offset' + 1, ?_⟩
  rw [Layout.read, List.append_assoc, List.cons_append, skipSpace_append_cons hw (by decide)]
  change l.readObject room ⟨inner ++ rest, offset + w.length + 1⟩ = _
  rw [Layout.readObject, hread]
  simp only [ok_bind, hfinish]
  rfl

/-! ## Whole texts -/

/-- Whatever a reader gives for all texts of a value, it gives for one between white space. -/
theorem Reads.readText_between {read : Nat → Scan α} {v : Value} {x : α}
    (h : Reads (read depthLimit) v x) {w cs w' : List Char} (hw : IsBlank w) (hcs : v.IsText cs)
    (hw' : IsBlank w') : readText read (String.ofList (w ++ cs ++ w')) = .ok x := by
  obtain ⟨offset', hread⟩ := h hw hcs (endsNumber_of_isBlank hw') 0
  have hend : scanEnd ⟨w', offset'⟩ = .ok ((), ⟨[], offset' + w'.length⟩) := by
    have hskip := skipSpace_append hw' [] offset'
    rw [List.append_nil] at hskip
    rw [scanEnd, hskip]
    rfl
  rw [Json.readText, Cursor.start, String.toList_ofList, hread]
  simp only [ok_bind, hend]

/-- So it does for one that stands alone. -/
theorem Reads.readText {read : Nat → Scan α} {v : Value} {x : α} (h : Reads (read depthLimit) v x)
    {cs : List Char} (hcs : v.IsText cs) : readText read (String.ofList cs) = .ok x := by
  have hread := h.readText_between isBlank_nil hcs isBlank_nil
  rwa [List.nil_append, List.append_nil] at hread

end WebviewBridge.Json
