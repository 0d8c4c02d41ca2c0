import WebviewBridge.Json.Fault

/-!
# Scanning the leaves of a JSON text

A `Cursor` is what is left of a text and the number of bytes before it.  A `Scan` takes something
off the front of a cursor or says why it cannot.  This module scans white space, literals,
numbers and strings; each function consumes exactly the characters of what it returns.
-/

namespace WebviewBridge.Json

/-- A place in a text: the characters still to come and the number of bytes before them. -/
structure Cursor where
  rest : List Char
  offset : Nat
deriving DecidableEq, Repr

/-- A function that takes something off the front of a text. -/
abbrev Scan (α : Type) := Cursor → Except Fault (α × Cursor)

namespace Cursor

/-- The start of a text. -/
def start (text : String) : Cursor := ⟨text.toList, 0⟩

/-- The number of bytes of a list of characters. -/
def byteLength (cs : List Char) : Nat := cs.foldl (fun n c => n + c.utf8Size) 0

/-- Passes over the first `n` characters. -/
def skip (c : Cursor) (n : Nat) : Cursor :=
  ⟨c.rest.drop n, c.offset + byteLength (c.rest.take n)⟩

/-- Stops with a cause at the byte before the next character. -/
def fault {α : Type} (c : Cursor) (cause : Cause) : Except Fault α := .error ⟨cause, c.offset⟩

/-- Stops with a cause at the first byte of the next character, or at the end of the text. -/
def faultAtNext {α : Type} (c : Cursor) (cause : Cause) : Except Fault α :=
  .error ⟨cause, if c.rest.isEmpty then c.offset else c.offset + 1⟩

/-- The white space of the format: blank, new line, tabulator, carriage return. -/
def isSpace (ch : Char) : Bool := ch == ' ' || ch == '\n' || ch == '\t' || ch == '\r'

/-- Passes over white space. -/
def skipSpace (c : Cursor) : Cursor :=
  ⟨c.rest.dropWhile isSpace, c.offset + (c.rest.takeWhile isSpace).length⟩

end Cursor

open Cursor

/-! ## Literals -/

/-- Scans the remaining letters of a literal. -/
def scanLiteral : List Char → Scan Unit
  | [], c => .ok ((), c)
  | l :: ls, c =>
    match c.rest with
    | [] => c.fault .endInValue
    | ch :: rest =>
      if ch = l then scanLiteral ls ⟨rest, c.offset + 1⟩
      else .error ⟨.expectedIdent, c.offset + 1⟩

/-! ## Numbers -/

/-- The value of a decimal digit. -/
def digitValue (ch : Char) : Nat := ch.toNat - '0'.toNat

/-- The largest significand that is kept exactly. -/
def significandLimit : Nat := UInt64.size - 1

/-- Appends digits to a significand while it stays within 64 bits; returns the digits that did
not fit. -/
def extendSignificand : Nat → List Char → Nat × List Char
  | s, [] => (s, [])
  | s, d :: ds =>
    let t := 10 * s + digitValue d
    if t > significandLimit then (s, d :: ds) else extendSignificand t ds

/-- The run of digits at the front of a cursor and what follows it. -/
def takeDigits (c : Cursor) : List Char × Cursor :=
  let ds := c.rest.takeWhile Char.isDigit
  (ds, ⟨c.rest.dropWhile Char.isDigit, c.offset + ds.length⟩)

/-- The double nearest to a power of ten. -/
def powerOfTen (n : Nat) : Option Binary64 := Binary64.ofNat? (Nat.pow 10 n)

/-- A significand of at most 64 bits times a power of ten, by one rounded product or quotient
with a power of ten up to the 308th.  Smaller powers are reached by dividing by the 308th first;
two such divisions leave zero, so the count of steps never runs out.  `none` when the number is
too large. -/
def scaleByTen : Nat → Binary64 → Int → Option Binary64
  | 0, _, _ => some Binary64.zero
  | steps + 1, x, power =>
    if power.natAbs ≤ 308 then
      (powerOfTen power.natAbs).bind fun p => if power ≥ 0 then x.mul? p else x.div? p
    else if x.isZero then some Binary64.zero
    else if power ≥ 0 then none
    else (powerOfTen 308).bind fun p => (x.div? p).bind fun y => scaleByTen steps y (power + 308)

/-- The double of a significand and a power of ten. -/
def doubleOfDecimal (significand : Nat) (power : Int) : Option Binary64 :=
  (Binary64.ofNat? significand).bind fun x => scaleByTen 4 x power

/-- Finishes a number that is a double. -/
def finishDouble (negative : Bool) (significand : Nat) (power : Int) : Scan Number := fun c =>
  match doubleOfDecimal significand power with
  | some x => .ok (.double (x.withSign negative), c)
  | none => c.fault .numberOutOfRange

/-- The largest exponent that is read as a number. -/
def exponentLimit : Nat := UInt32.size / 2 - 1

/-- Reads the digits of an exponent: the value, and the digits from the one on that exceeds the
limit. -/
def extendExponent : Nat → List Char → Nat × List Char
  | e, [] => (e, [])
  | e, d :: ds =>
    let t := 10 * e + digitValue d
    if t > exponentLimit then (e, d :: ds) else extendExponent t ds

/-- Scans from the letter `e` on. -/
def scanExponent (negative : Bool) (significand : Nat) (power : Int) : Scan Number := fun c =>
  let c := c.skip 1
  let (down, c) :=
    match c.rest with
    | '+' :: _ => (false, c.skip 1)
    | '-' :: _ => (true, c.skip 1)
    | _ => (false, c)
  match c.rest with
  | [] => c.fault .endInValue
  | ch :: _ =>
    if ch.isDigit then
      let (digits, after) := takeDigits c
      let (e, excess) := extendExponent 0 digits
      if excess.isEmpty then
        finishDouble negative significand (if down then power - e else power + e) after
      else if significand ≠ 0 && !down then
        .error ⟨.numberOutOfRange, c.offset + (digits.length - excess.length) + 1⟩
      else .ok (.double (Binary64.zero.withSign negative), after)
    else .error ⟨.invalidNumber, c.offset + 1⟩

/-- Scans from after the fraction on. -/
def scanAfterFraction (negative : Bool) (significand : Nat) (power : Int) : Scan Number :=
  fun c =>
  match c.rest with
  | 'e' :: _ | 'E' :: _ => scanExponent negative significand power c
  | _ => finishDouble negative significand power c

/-- Scans from the point on. -/
def scanFraction (negative : Bool) (significand : Nat) (power : Int) : Scan Number := fun c =>
  let c := c.skip 1
  let (digits, after) := takeDigits c
  match digits with
  | [] => if c.rest.isEmpty then c.fault .endInValue else c.faultAtNext .invalidNumber
  | _ :: _ =>
    let (s, excess) := extendSignificand significand digits
    scanAfterFraction negative s (power - (digits.length - excess.length : Nat)) after

/-- The number of an integer without fraction or exponent.  Minus zero and what does not fit
into 64 bits are doubles. -/
def integerNumber (negative : Bool) (significand : Nat) : Option Number :=
  if negative then
    if significand = 0 ∨ significand > UInt64.size / 2 then
      (Binary64.ofNat? significand).map fun x => .double (x.withSign true)
    else some (.int (-(significand : Int)))
  else some (.int significand)

/-- Scans from after the integer digits on; `excess` counts the digits beyond 64 bits. -/
def scanAfterInteger (negative : Bool) (significand excess : Nat) : Scan Number := fun c =>
  match c.rest with
  | '.' :: _ => scanFraction negative significand excess c
  | 'e' :: _ | 'E' :: _ => scanExponent negative significand excess c
  | _ =>
    if excess = 0 then
      match integerNumber negative significand with
      | some n => .ok (n, c)
      | none => c.fault .numberOutOfRange
    else finishDouble negative significand excess c

/-- Scans a number whose sign is already taken. -/
def scanUnsigned (negative : Bool) : Scan Number := fun c =>
  match c.rest with
  | [] => c.fault .endInValue
  | ch :: _ =>
    if ch = '0' then
      let next := c.skip 1
      if (takeDigits next).1.isEmpty then scanAfterInteger negative 0 0 next
      else next.faultAtNext .invalidNumber
    else if ch.isDigit then
      let (digits, after) := takeDigits c
      let (s, excess) := extendSignificand 0 digits
      scanAfterInteger negative s excess.length after
    else .error ⟨.invalidNumber, c.offset + 1⟩

/-- Scans a number. -/
def scanNumber : Scan Number := fun c =>
  match c.rest with
  | '-' :: _ => scanUnsigned true (c.skip 1)
  | _ => scanUnsigned false c

/-! ## Strings -/

/-- The value of a hexadecimal digit. -/
def hexValue? (ch : Char) : Option Nat :=
  if ch.isDigit then some (ch.toNat - '0'.toNat)
  else if 'a' ≤ ch && ch ≤ 'f' then some (ch.toNat - 'a'.toNat + 10)
  else if 'A' ≤ ch && ch ≤ 'F' then some (ch.toNat - 'A'.toNat + 10)
  else none

/-- The number that four hexadecimal digits write. -/
def hexNumber? (a b c d : Char) : Option Nat := do
  pure (((← hexValue? a) * 16 + (← hexValue? b)) * 256 + (← hexValue? c) * 16 + (← hexValue? d))

/-- Scans four hexadecimal digits.  Four bytes are taken whatever they are, so a refusal stands
after the fourth byte, or at the end of a text that has fewer. -/
def scanHex : Scan Nat := fun c =>
  match c.rest with
  | a :: b :: e :: f :: rest =>
    match hexNumber? a b e f with
    | some n => .ok (n, ⟨rest, c.offset + 4⟩)
    | none => .error ⟨.invalidEscape, c.offset + 4⟩
  | short =>
    let bytes := byteLength short
    if bytes ≥ 4 then .error ⟨.invalidEscape, c.offset + 4⟩
    else .error ⟨.endInString, c.offset + bytes⟩

/-- Whether a number is the first half of a surrogate pair. -/
def isLeading (n : Nat) : Bool := 0xd800 ≤ n && n ≤ 0xdbff

/-- Whether a number is the second half of a surrogate pair. -/
def isTrailing (n : Nat) : Bool := 0xdc00 ≤ n && n ≤ 0xdfff

/-- Scans one given character of a surrogate pair's second escape. -/
def scanPairMark (mark : Char) : Scan Unit := fun c =>
  match c.rest with
  | [] => c.fault .endInString
  | ch :: rest =>
    if ch = mark then .ok ((), ⟨rest, c.offset + 1⟩) else .error ⟨.unfinishedPair, c.offset + 1⟩

/-- Scans the digits of a `\u` escape, and the second escape of a surrogate pair. -/
def scanCodePoint : Scan Char := fun c => do
  let (n, c) ← scanHex c
  if isTrailing n then c.fault .loneSurrogate
  else if isLeading n then
    let (_, c) ← scanPairMark '\\' c
    let (_, c) ← scanPairMark 'u' c
    let (m, c) ← scanHex c
    if isTrailing m then .ok (Char.ofNat (0x10000 + (n - 0xd800) * 0x400 + (m - 0xdc00)), c)
    else c.fault .loneSurrogate
  else .ok (Char.ofNat n, c)

/-- The character of a one-letter escape. -/
def shortEscape? (ch : Char) : Option Char :=
  match ch with
  | '"' => some '"'
  | '\\' => some '\\'
  | '/' => some '/'
  | 'b' => some '\x08'
  | 'f' => some '\x0c'
  | 'n' => some '\n'
  | 'r' => some '\r'
  | 't' => some '\t'
  | _ => none

/-- Scans what follows the backslash of an escape. -/
def scanEscape : Scan Char := fun c =>
  match c.rest with
  | [] => c.fault .endInString
  | ch :: rest =>
    if ch = 'u' then scanCodePoint ⟨rest, c.offset + 1⟩
    else
      match shortEscape? ch with
      | some e => .ok (e, ⟨rest, c.offset + 1⟩)
      | none => .error ⟨.invalidEscape, c.offset + 1⟩

/-- Scans the characters of a string after its opening quote, through the closing one.  Each
step takes a character, so the number of characters left bounds the steps. -/
def scanStringFrom : Nat → Scan (List Char)
  | 0, c => c.fault .endInString
  | steps + 1, c =>
    match c.rest with
    | [] => c.fault .endInString
    | '"' :: rest => .ok ([], ⟨rest, c.offset + 1⟩)
    | '\\' :: rest => do
      let (ch, c) ← scanEscape ⟨rest, c.offset + 1⟩
      let (chs, c) ← scanStringFrom steps c
      .ok (ch :: chs, c)
    | ch :: rest =>
      if ch.toNat < 0x20 then .error ⟨.controlCharacter, c.offset + 1⟩
      else do
        let (chs, c) ← scanStringFrom steps ⟨rest, c.offset + ch.utf8Size⟩
        .ok (ch :: chs, c)

/-- Scans a string after its opening quote. -/
def scanString : Scan String := fun c => do
  let (chs, c) ← scanStringFrom (c.rest.length + 1) c
  .ok (String.ofList chs, c)

/-! ## Passing over a leaf without reading it -/

/-- Passes over an escape; surrogates need no partner here. -/
def passEscape : Scan Unit := fun c =>
  match c.rest with
  | [] => c.fault .endInString
  | ch :: rest =>
    if ch = 'u' then do
      let (_, c) ← scanHex ⟨rest, c.offset + 1⟩
      .ok ((), c)
    else if (shortEscape? ch).isSome then .ok ((), ⟨rest, c.offset + 1⟩)
    else .error ⟨.invalidEscape, c.offset + 1⟩

/-- Passes over a string after its opening quote.  A control is noticed before it is taken. -/
def passStringFrom : Nat → Scan Unit
  | 0, c => c.fault .endInString
  | steps + 1, c =>
    match c.rest with
    | [] => c.fault .endInString
    | '"' :: rest => .ok ((), ⟨rest, c.offset + 1⟩)
    | '\\' :: rest => do
      let (_, c) ← passEscape ⟨rest, c.offset + 1⟩
      passStringFrom steps c
    | ch :: rest =>
      if ch.toNat < 0x20 then c.fault .controlCharacter
      else passStringFrom steps ⟨rest, c.offset + ch.utf8Size⟩

/-- Passes over a string after its opening quote. -/
def passString : Scan Unit := fun c => passStringFrom (c.rest.length + 1) c

/-- Passes over an exponent from its letter on. -/
def passExponent : Scan Unit := fun c =>
  let c := c.skip 1
  let c :=
    match c.rest with
    | '+' :: _ | '-' :: _ => c.skip 1
    | _ => c
  match c.rest with
  | [] => c.fault .invalidNumber
  | ch :: _ =>
    if ch.isDigit then .ok ((), (takeDigits c).2) else .error ⟨.invalidNumber, c.offset + 1⟩

/-- Passes over an exponent if there is one. -/
def passOptionalExponent : Scan Unit := fun c =>
  match c.rest with
  | 'e' :: _ | 'E' :: _ => passExponent c
  | _ => .ok ((), c)

/-- Passes over what may follow the integer digits of a number. -/
def passAfterInteger : Scan Unit := fun c =>
  match c.rest with
  | '.' :: _ =>
    let c := c.skip 1
    let (digits, after) := takeDigits c
    if digits.isEmpty then c.faultAtNext .invalidNumber else passOptionalExponent after
  | _ => passOptionalExponent c

/-- Passes over a number whose sign is already taken. -/
def passUnsigned : Scan Unit := fun c =>
  match c.rest with
  | [] => c.fault .invalidNumber
  | ch :: _ =>
    if ch = '0' then
      let next := c.skip 1
      if (takeDigits next).1.isEmpty then passAfterInteger next
      else next.faultAtNext .invalidNumber
    else if ch.isDigit then passAfterInteger (takeDigits c).2
    else .error ⟨.invalidNumber, c.offset + 1⟩

/-- Passes over a number. -/
def passNumber : Scan Unit := fun c =>
  match c.rest with
  | '-' :: _ => passUnsigned (c.skip 1)
  | _ => passUnsigned c

end WebviewBridge.Json
