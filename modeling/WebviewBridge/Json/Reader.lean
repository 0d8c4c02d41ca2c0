import WebviewBridge.Json.Scan

/-!
# Reading a JSON value from a text

`readValue` reads a value, `passValue` passes over one that nobody asked for.  Passing over is
laxer: it knows no limit of depth, no range of numbers and no pairing of surrogates.  The number
of characters of the text bounds the steps of both, since two nested calls never go without a
character between them.

`Value.parse` reads a whole text.
-/

namespace WebviewBridge.Json

open Cursor

/-- How many arrays and objects may be open at once. -/
def depthLimit : Nat := 127

/-- Enough steps for everything that a cursor still holds. -/
def Cursor.steps (c : Cursor) : Nat := 2 * c.rest.length + 2

/-- Scans a literal from its first letter on. -/
def scanWord (word : List Char) : Scan Unit := fun c => scanLiteral (word.drop 1) (c.skip 1)

/-- Scans the key of a member, which starts with a quote. -/
def scanKey : Scan String := fun c => scanString (c.skip 1)

/-- Scans the colon after a key. -/
def scanColon : Scan Unit := fun c =>
  let c := c.skipSpace
  match c.rest with
  | [] => c.fault .endInObject
  | ':' :: _ => .ok ((), c.skip 1)
  | _ => c.faultAtNext .expectedColon

/-- Comes to the next item of an array: `true` if there is one, with the cursor on it, `false`
at the closing bracket. -/
def scanItemStart (first : Bool) : Scan Bool := fun c =>
  let c := c.skipSpace
  match c.rest with
  | [] => c.fault .endInList
  | ']' :: _ => .ok (false, c)
  | ch :: _ =>
    if first then .ok (true, c)
    else if ch = ',' then
      let c := (c.skip 1).skipSpace
      match c.rest with
      | [] => c.fault .endInValue
      | ']' :: _ => c.faultAtNext .trailingComma
      | _ => .ok (true, c)
    else c.faultAtNext .expectedListEnd

/-- Comes to the next member of an object: `true` if there is one, with the cursor on the quote
of its key, `false` at the closing brace. -/
def scanMemberStart (first : Bool) : Scan Bool := fun c =>
  let c := c.skipSpace
  match c.rest with
  | [] => c.fault .endInObject
  | '\x7d' :: _ => .ok (false, c)
  | ch :: _ =>
    if first then
      if ch = '"' then .ok (true, c) else c.faultAtNext .keyNotString
    else if ch = ',' then
      let c := (c.skip 1).skipSpace
      match c.rest with
      | [] => c.fault .endInValue
      | '"' :: _ => .ok (true, c)
      | '\x7d' :: _ => c.faultAtNext .trailingComma
      | _ => c.faultAtNext .keyNotString
    else c.faultAtNext .expectedObjectEnd

/-! ## Reading -/

mutual
/-- Reads a value; `room` is the number of arrays and objects that may still be opened. -/
def readValue : (steps room : Nat) → Scan Value
  | 0, _, c => c.fault .endInValue
  | steps + 1, room, c =>
    let c := c.skipSpace
    match c.rest with
    | [] => c.fault .endInValue
    | 'n' :: _ => do
      let (_, c) ← scanWord ['n', 'u', 'l', 'l'] c
      .ok (.null, c)
    | 't' :: _ => do
      let (_, c) ← scanWord ['t', 'r', 'u', 'e'] c
      .ok (.bool true, c)
    | 'f' :: _ => do
      let (_, c) ← scanWord ['f', 'a', 'l', 's', 'e'] c
      .ok (.bool false, c)
    | '"' :: _ => do
      let (s, c) ← scanString (c.skip 1)
      .ok (.str s, c)
    | '[' :: _ =>
      match room with
      | 0 => c.faultAtNext .tooDeep
      | room + 1 => do
        let (items, c) ← readItems steps room true (c.skip 1)
        .ok (.arr items, c)
    | '\x7b' :: _ =>
      match room with
      | 0 => c.faultAtNext .tooDeep
      | room + 1 => do
        let (members, c) ← readMembers steps room true (c.skip 1)
        .ok (Value.object members, c)
    | ch :: _ =>
      if ch = '-' || ch.isDigit then do
        let (n, c) ← scanNumber c
        .ok (.num n, c)
      else c.faultAtNext .expectedValue
/-- Reads the items of an array through its closing bracket. -/
def readItems : (steps room : Nat) → (first : Bool) → Scan (List Value)
  | 0, _, _, c => c.fault .endInList
  | steps + 1, room, first, c => do
    let (more, c) ← scanItemStart first c
    if more then
      let (v, c) ← readValue steps room c
      let (vs, c) ← readItems steps room false c
      .ok (v :: vs, c)
    else .ok ([], c.skip 1)
/-- Reads the members of an object, in their order, through its closing brace. -/
def readMembers : (steps room : Nat) → (first : Bool) → Scan (List (String × Value))
  | 0, _, _, c => c.fault .endInObject
  | steps + 1, room, first, c => do
    let (more, c) ← scanMemberStart first c
    if more then
      let (k, c) ← scanKey c
      let (_, c) ← scanColon c
      let (v, c) ← readValue steps room c
      let (ms, c) ← readMembers steps room false c
      .ok ((k, v) :: ms, c)
    else .ok ([], c.skip 1)
end

/-! ## Passing over -/

/-- Passes over a key and its colon; the cursor may stand on anything. -/
def passKey : Scan Unit := fun c =>
  let c := c.skipSpace
  match c.rest with
  | [] => c.fault .endInObject
  | '"' :: _ => do
    let (_, c) ← passString (c.skip 1)
    scanColon c
  | _ => c.faultAtNext .keyNotString

mutual
/-- Passes over a value. -/
def passValue : (steps : Nat) → Scan Unit
  | 0, c => c.fault .endInValue
  | steps + 1, c =>
    let c := c.skipSpace
    match c.rest with
    | [] => c.fault .endInValue
    | 'n' :: _ => scanWord ['n', 'u', 'l', 'l'] c
    | 't' :: _ => scanWord ['t', 'r', 'u', 'e'] c
    | 'f' :: _ => scanWord ['f', 'a', 'l', 's', 'e'] c
    | '"' :: _ => passString (c.skip 1)
    | '[' :: _ =>
      let c := (c.skip 1).skipSpace
      match c.rest with
      | [] => c.fault .endInList
      | ']' :: _ => .ok ((), c.skip 1)
      | _ => passItems steps c
    | '\x7b' :: _ =>
      let c := (c.skip 1).skipSpace
      match c.rest with
      | [] => c.fault .endInObject
      | '\x7d' :: _ => .ok ((), c.skip 1)
      | _ => passMembers steps c
    | ch :: _ =>
      if ch = '-' || ch.isDigit then passNumber c else c.faultAtNext .expectedValue
/-- Passes over an item of an array and what follows it, through the closing bracket. -/
def passItems : (steps : Nat) → Scan Unit
  | 0, c => c.fault .endInList
  | steps + 1, c => do
    let (_, c) ← passValue steps c
    let c := c.skipSpace
    match c.rest with
    | [] => c.fault .endInList
    | ',' :: _ => passItems steps (c.skip 1)
    | ']' :: _ => .ok ((), c.skip 1)
    | _ => c.faultAtNext .expectedListEnd
/-- Passes over a member of an object and what follows it, through the closing brace. -/
def passMembers : (steps : Nat) → Scan Unit
  | 0, c => c.fault .endInObject
  | steps + 1, c => do
    let (_, c) ← passKey c
    let (_, c) ← passValue steps c
    let c := c.skipSpace
    match c.rest with
    | [] => c.fault .endInObject
    | ',' :: _ => passMembers steps (c.skip 1)
    | '\x7d' :: _ => .ok ((), c.skip 1)
    | _ => c.faultAtNext .expectedObjectEnd
end

/-! ## Whole texts -/

/-- Refuses anything but white space. -/
def scanEnd : Scan Unit := fun c =>
  let c := c.skipSpace
  if c.rest.isEmpty then .ok ((), c) else c.faultAtNext .trailingCharacters

/-- Reads a whole text with a reader; `room` is passed to it. -/
def readText {α : Type} (read : (room : Nat) → Scan α) (text : String) : Except Refusal α :=
  match (do
    let (x, c) ← read depthLimit (Cursor.start text)
    let (_, _) ← scanEnd c
    .ok x : Except Fault α) with
  | .ok x => .ok x
  | .error f => .error (f.inText text)

/-- Reads any value. -/
def anyValue (room : Nat) : Scan Value := fun c => readValue c.steps room c

/-- The value that a text writes. -/
def Value.parse (text : String) : Except Refusal Value := readText anyValue text

end WebviewBridge.Json
