import WebviewBridge.Json.Reader

/-!
# Reading typed data from a text

A record is read from an object, or from an array of its fields in order.  Reading goes through
the text once, so of two things that are wrong the first one in the text is reported, whether it
is the text or the data that is wrong.  What is wrong with a record as a whole, such as a missing
field, is reported where the record ends.
-/

namespace WebviewBridge.Json

open Cursor

/-! ## Single values -/

/-- What is reported for a value of the wrong type: the value is read first, if it is not an
array or an object, and may itself be refused. -/
def wrongType (expected : String) (c : Cursor) : Fault :=
  let report (scan : Scan Found) (c : Cursor) : Fault :=
    match scan c with
    | .ok (found, c) => ⟨.invalidType found expected, c.offset⟩
    | .error f => f
  match c.rest with
  | 'n' :: _ => report (fun c => (scanWord ['n', 'u', 'l', 'l'] c).map fun r => (.null, r.2)) c
  | 't' :: _ =>
    report (fun c => (scanWord ['t', 'r', 'u', 'e'] c).map fun r => (.bool true, r.2)) c
  | 'f' :: _ =>
    report (fun c => (scanWord ['f', 'a', 'l', 's', 'e'] c).map fun r => (.bool false, r.2)) c
  | '"' :: _ => report (fun c => (scanString (c.skip 1)).map fun r => (.string r.1, r.2)) c
  | '[' :: _ => ⟨.invalidType .sequence expected, c.offset⟩
  | '\x7b' :: _ => ⟨.invalidType .map expected, c.offset⟩
  | ch :: _ =>
    if ch = '-' || ch.isDigit then
      report (fun c => (scanNumber c).map fun r => (.number r.1, r.2)) c
    else ⟨.expectedValue, c.offset + 1⟩
  | [] => ⟨.endInValue, c.offset⟩

/-- Reads a string; `expected` names it in a refusal. -/
def scanText (expected : String) : Scan String := fun c =>
  let c := c.skipSpace
  match c.rest with
  | '"' :: _ => scanString (c.skip 1)
  | _ => .error (wrongType expected c)

/-- Reads a string. -/
def textValue (_room : Nat) : Scan String := scanText "a string"

/-- Reads null, or something else with a reader. -/
def orNull {α : Type} (read : Nat → Scan α) (room : Nat) : Scan (Option α) := fun c =>
  let c := c.skipSpace
  match c.rest with
  | 'n' :: _ => (scanWord ['n', 'u', 'l', 'l'] c).map fun r => (none, r.2)
  | _ => (read room c).map fun r => (some r.1, r.2)

/-- Reads null. -/
def scanNull (expected : String) : Scan Unit := fun c =>
  let c := c.skipSpace
  match c.rest with
  | 'n' :: _ => scanWord ['n', 'u', 'l', 'l'] c
  | _ => .error (wrongType expected c)

/-- Reads a natural number up to a limit; `type` names its type in a refusal. -/
def naturalValue (limit : Nat) (type : String) (_room : Nat) : Scan Nat := fun c =>
  let c := c.skipSpace
  match c.rest with
  | ch :: _ =>
    if ch = '-' || ch.isDigit then
      match scanNumber c with
      | .error f => .error f
      | .ok (.double x, c) => c.fault (.invalidType (.number (.double x)) type)
      | .ok (.int n, c) =>
        if 0 ≤ n ∧ n ≤ limit then .ok (n.toNat, c)
        else c.fault (.invalidValue (.number (.int n)) type)
    else .error (wrongType type c)
  | [] => .error (wrongType type c)

/-- Reads one of the admitted names. -/
def scanName {α : Type} (admitted : List (String × α)) : Scan α := fun c => do
  let (name, c) ← scanText "variant identifier" c
  match admitted.lookup name with
  | some x => .ok (x, c)
  | none => c.fault (.unknownVariant name (admitted.map (·.1)))

/-- Reads one of the admitted names, alone or as the only key of an object with value null. -/
def nameValue {α : Type} (admitted : List (String × α)) (room : Nat) : Scan α := fun c =>
  let c := c.skipSpace
  match c.rest with
  | [] => c.fault .endInValue
  | '"' :: _ => scanName admitted c
  | '\x7b' :: _ =>
    if room = 0 then c.faultAtNext .tooDeep
    else do
      let (x, c) ← scanName admitted (c.skip 1)
      let (_, c) ← scanColon c
      let (_, c) ← scanNull "unit" c
      let c := c.skipSpace
      match c.rest with
      | [] => c.fault .endInObject
      | '\x7d' :: _ => .ok (x, c.skip 1)
      | _ => c.fault .expectedValue
  | _ => c.faultAtNext .expectedValue

/-! ## Records -/

/-- One field of a record whose fields found so far are kept in a `σ`. -/
structure Field (σ : Type) where
  /-- The name, which refusals use. -/
  name : String
  /-- A second name under which the field is found. -/
  otherName : Option String := none
  /-- Whether the field was found already. -/
  found : σ → Bool
  /-- Reads the value and says how to keep it. -/
  read : (room : Nat) → Scan (σ → σ)

/-- Whether a key names the field. -/
def Field.hasName {σ : Type} (f : Field σ) (key : String) : Bool :=
  key == f.name || f.otherName == some key

/-- How a record is read: its fields in order, and what to make of those that were found. -/
structure Layout (σ α : Type) where
  /-- The name of the type in refusals. -/
  type : String
  /-- Nothing found yet. -/
  empty : σ
  /-- The fields in order. -/
  fields : List (Field σ)
  /-- How many of the fields an array has to hold at least. -/
  required : Nat := 0
  /-- Keeps a member that is no field.  Without it such members are passed over; with it the
  record is read from an object only. -/
  other : Option (String → Value → σ → σ) := none
  /-- The record of the fields found, or what is wrong with them. -/
  finish : σ → Except Cause α

/-- Why a record is refused: at a place, or as a whole, with the place where that was noticed. -/
inductive Trouble where
  | placed (fault : Fault)
  | whole (cause : Cause) (seen : Cursor)

/-- A scan whose refusals have a place. -/
def placed {α : Type} : Except Fault α → Except Trouble α
  | .ok x => .ok x
  | .error f => .error (.placed f)

variable {σ α : Type}

/-- Reads the members of an object up to its closing brace. -/
def Layout.readMembers (l : Layout σ α) (room : Nat) :
    (steps : Nat) → (first : Bool) → σ → Cursor → Except Trouble (σ × Cursor)
  | 0, _, _, c => placed (c.fault .endInObject)
  | steps + 1, first, s, c => do
    let (more, c) ← placed (scanMemberStart first c)
    if more then
      let (key, c) ← placed (scanKey c)
      match l.fields.find? (·.hasName key), l.other with
      | some f, _ =>
        if f.found s then .error (.whole (.duplicateField f.name) c)
        else
          let (_, c) ← placed (scanColon c)
          let (keep, c) ← placed (f.read room c)
          l.readMembers room steps false (keep s) c
      | none, some keep =>
        let (_, c) ← placed (scanColon c)
        let (v, c) ← placed (anyValue room c)
        l.readMembers room steps false (keep key v s) c
      | none, none =>
        let (_, c) ← placed (scanColon c)
        let (_, c) ← placed (passValue c.steps c)
        l.readMembers room steps false s c
    else .ok (s, c)

/-- Reads items of an array into the fields, in order, until there are no more of one of them;
also counts the items. -/
def Layout.readItems (room : Nat) :
    List (Field σ) → (count : Nat) → σ → Cursor → Except Fault (σ × Nat × Cursor)
  | [], count, s, c => .ok (s, count, c)
  | f :: fs, count, s, c => do
    let (more, c) ← scanItemStart (count == 0) c
    if more then
      let (keep, c) ← f.read room c
      Layout.readItems room fs (count + 1) (keep s) c
    else .ok (s, count, c)

/-- The place where an object is left: after its closing brace if that comes next. -/
def leaveObject (c : Cursor) : Nat :=
  let c := c.skipSpace
  match c.rest with
  | '\x7d' :: _ => c.offset + 1
  | _ => c.offset

/-- The place where an array is left: after its closing bracket, or after a comma. -/
def leaveArray (c : Cursor) : Nat :=
  let c := c.skipSpace
  match c.rest with
  | ']' :: _ => c.offset + 1
  | ',' :: _ => (c.skip 1).skipSpace.offset
  | _ => c.offset

/-- Scans the closing bracket of an array whose items are all read. -/
def scanArrayEnd : Scan Unit := fun c =>
  let c := c.skipSpace
  match c.rest with
  | [] => c.fault .endInList
  | ']' :: _ => .ok ((), c.skip 1)
  | ',' :: _ =>
    let c := (c.skip 1).skipSpace
    match c.rest with
    | ']' :: _ => c.faultAtNext .trailingComma
    | _ => c.faultAtNext .trailingCharacters
  | _ => c.faultAtNext .trailingCharacters

/-- The number of fields in words. -/
def elementCount (n : Nat) : String :=
  if n = 1 then "1 element" else toString n ++ " elements"

/-- How refusals name a record of the type. -/
def structName (type : String) : String := "struct " ++ type

/-- How refusals name a record of the type by its number of fields. -/
def structWith (type : String) (n : Nat) : String :=
  structName type ++ " with " ++ elementCount n

/-- Reads a record from an object. -/
def Layout.readObject (l : Layout σ α) (room : Nat) : Scan α := fun c =>
  match (do
    let (s, c) ← l.readMembers room c.steps true l.empty c
    match l.finish s with
    | .ok x => .ok (x, c.skip 1)
    | .error cause => .error (.whole cause c) : Except Trouble (α × Cursor)) with
  | .ok r => .ok r
  | .error (.placed f) => .error f
  | .error (.whole cause seen) => .error ⟨cause, leaveObject seen⟩

/-- Reads a record from an array. -/
def Layout.readArray (l : Layout σ α) (room : Nat) : Scan α := fun c => do
  let (s, count, c) ← Layout.readItems room l.fields 0 l.empty c
  if count < l.required then
    .error ⟨.invalidLength count (structWith l.type l.fields.length), leaveArray c⟩
  else
    match l.finish s with
    | .ok x => do
      let (_, c) ← scanArrayEnd c
      .ok (x, c)
    | .error cause => .error ⟨cause, leaveArray c⟩

/-- Reads a record. -/
def Layout.read (l : Layout σ α) (room : Nat) : Scan α := fun c =>
  let c := c.skipSpace
  match c.rest with
  | '\x7b' :: _ =>
    match room with
    | 0 => c.faultAtNext .tooDeep
    | room + 1 => l.readObject room (c.skip 1)
  | '[' :: _ =>
    if l.other.isSome then .error (wrongType (structName l.type) c)
    else
      match room with
      | 0 => c.faultAtNext .tooDeep
      | room + 1 => l.readArray room (c.skip 1)
  | _ => .error (wrongType (structName l.type) c)

/-- The value of a field that has to be there. -/
def required {β : Type} (name : String) : Option β → Except Cause β
  | some x => .ok x
  | none => .error (.missingField name)

end WebviewBridge.Json
