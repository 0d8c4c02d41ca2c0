import WebviewBridge.Text.Utf8

/-!
# Heads of requests

A connection starts with the head of an HTTP request: a line with a method, a target and a version,
lines with headers, and an empty line.  A line ends with a line feed, which a carriage return may
stand in front of; a carriage return has no place elsewhere.  Empty lines before a head do not count.
-/

namespace WebviewBridge

/-- The head of a request. -/
structure RequestHead where
  method : String
  target : String
  version : String
  /-- Names, in lower case, with the bytes of their values. -/
  headers : List (String × List UInt8)
deriving DecidableEq, Repr

namespace RequestHead

/-- Why some bytes do not start with a head. -/
inductive Fault where
  /-- They may be the start of one. -/
  | incomplete
  /-- Whatever follows, they are none. -/
  | malformed
deriving DecidableEq, Repr

/-- Reads something off the front of some bytes. -/
abbrev Reader := StateT (List UInt8) (Except Fault)

/-! ## Bytes -/

/-- The line feed. -/
def lineFeed : UInt8 := 0x0a

/-- The carriage return. -/
def carriageReturn : UInt8 := 0x0d

/-- The byte of a character of ASCII. -/
def byteOf (c : Char) : UInt8 := UInt8.ofNat c.toNat

/-- The text of some bytes, each a character of its own. -/
def textOf (bs : List UInt8) : String := String.ofList (bs.map fun b => Char.ofNat b.toNat)

/-- Whether a byte may stand in a method or in the name of a header. -/
def isTokenByte (b : UInt8) : Bool :=
  b < 0x80 && ((Char.ofNat b.toNat).isAlphanum
    || "!#$%&'*+-.^_`|~".toList.contains (Char.ofNat b.toNat))

/-- Whether a byte may stand in a target. -/
def isTargetByte (b : UInt8) : Bool := b > 0x20 && b ≠ 0x7f

/-- Whether a byte is a blank or a tabulator. -/
def isGapByte (b : UInt8) : Bool := b == 0x20 || b == 0x09

/-- Whether a byte may stand in the value of a header. -/
def isValueByte (b : UInt8) : Bool := isGapByte b || isTargetByte b

/-- Bytes without the blanks and tabulators at their ends. -/
def trimGaps (bs : List UInt8) : List UInt8 :=
  ((bs.dropWhile isGapByte).reverse.dropWhile isGapByte).reverse

namespace Reader

/-! ## Parts of a head -/

/-- Takes a byte. -/
def next : Reader UInt8 := do
  match ← get with
  | [] => throw .incomplete
  | b :: bs =>
    set bs
    return b

/-- Takes a certain byte. -/
def expect (b : UInt8) : Reader Unit := do
  if (← next) ≠ b then throw .malformed

/-- Takes the bytes of a kind, of which there is one at least, and one that ends them. -/
def until1 (ofKind : UInt8 → Bool) (final : UInt8) : Reader (List UInt8) := do
  let bs ← modifyGet fun bs => bs.span ofKind
  expect final
  if bs.isEmpty then throw .malformed
  return bs

/-- Takes the end of a line. -/
def lineEnd : Reader Unit := do
  let b ← next
  if b = carriageReturn then expect lineFeed
  else if b ≠ lineFeed then throw .malformed

/-- Takes the empty lines at the front of some bytes. -/
def skipEmptyLines : List UInt8 → Except Fault (List UInt8)
  | 0x0d :: 0x0a :: bs => skipEmptyLines bs
  | 0x0a :: bs => skipEmptyLines bs
  | [0x0d] => .error .incomplete
  | 0x0d :: _ => .error .malformed
  | bs => .ok bs

/-- Takes the name of a version that has headers. -/
def version : Reader String := do
  let bytes ← modifyGet fun bs => bs.splitAt 8
  let text := textOf bytes
  if text = "HTTP/1.0" ∨ text = "HTTP/1.1" then return text
  throw (if bytes.length < 8 then .incomplete else .malformed)

/-- Takes a header with the end of its line. -/
def header : Reader (String × List UInt8) := do
  let name ← until1 isTokenByte (byteOf ':')
  let value ← modifyGet fun bs => bs.span isValueByte
  lineEnd
  return ((textOf name).toLower, trimGaps value)

/-- Takes the headers, at most as many as allowed, and the empty line after them. -/
def headers : (allowed : Nat) → Reader (List (String × List UInt8))
  | 0 => do
    lineEnd
    return []
  | n + 1 => do
    let first := (← get).head?
    if first = some carriageReturn ∨ first = some lineFeed then
      lineEnd
      return []
    else
      let h ← header
      return h :: (← headers n)

end Reader

/-! ## Reading -/

/-- The greatest number of headers. -/
def headerLimit : Nat := 124

/-- Reads a head. -/
def read : Reader RequestHead := do
  set (← (Reader.skipEmptyLines (← get) : Except Fault _))
  let method ← Reader.until1 isTokenByte (byteOf ' ')
  let target ← Reader.until1 isTargetByte (byteOf ' ')
  let some target := Text.decodeStrict? target | throw .malformed
  let version ← Reader.version
  Reader.lineEnd
  return { method := textOf method, target, version, headers := ← Reader.headers headerLimit }

/-- The head that some bytes are, with nothing after it. -/
def parse (bytes : List UInt8) : Except Fault RequestHead :=
  match read bytes with
  | .ok (h, []) => .ok h
  | .ok _ => .error .malformed
  | .error e => .error e

/-! ## Headers -/

/-- The value of the first header of a name, which is given in lower case. -/
def get? (h : RequestHead) (name : String) : Option (List UInt8) := h.headers.lookup name

/-- The value of the first header of a name as a text, if it is one of ASCII. -/
def text? (h : RequestHead) (name : String) : Option String :=
  ((h.get? name).filter (·.all (· < 0x80))).map textOf

end RequestHead

end WebviewBridge
