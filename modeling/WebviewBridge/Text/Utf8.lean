/-!
# Text from bytes

Bytes that arrive from outside need not be UTF-8.  `decode` takes them apart into characters and
the places where a byte begins no character; a broken character ends before the first byte that
cannot continue it, so no later character is lost.
-/

namespace WebviewBridge.Text

/-- What a lead byte announces: how many bytes follow, the bits that it holds itself, and the
least and greatest admitted second byte. -/
structure LeadByte where
  following : Nat
  bits : Nat
  least : Nat
  greatest : Nat

/-- The lead bytes of characters of two to four bytes. -/
def leadByte? (b : Nat) : Option LeadByte :=
  if 0xc2 ≤ b ∧ b ≤ 0xdf then some ⟨1, b - 0xc0, 0x80, 0xbf⟩
  else if b = 0xe0 then some ⟨2, 0, 0xa0, 0xbf⟩
  else if b = 0xed then some ⟨2, 0xd, 0x80, 0x9f⟩
  else if 0xe1 ≤ b ∧ b ≤ 0xef then some ⟨2, b - 0xe0, 0x80, 0xbf⟩
  else if b = 0xf0 then some ⟨3, 0, 0x90, 0xbf⟩
  else if 0xf1 ≤ b ∧ b ≤ 0xf3 then some ⟨3, b - 0xf0, 0x80, 0xbf⟩
  else if b = 0xf4 then some ⟨3, 4, 0x80, 0x8f⟩
  else none

/-- Takes the bytes that continue a character: the character, or nothing if it is broken, and the
bytes that are left. -/
def continueChar : (following : Nat) → (bits least greatest : Nat) → List UInt8 →
    Option Char × List UInt8
  | 0, bits, _, _, bs => (some (Char.ofNat bits), bs)
  | _ + 1, _, _, _, [] => (none, [])
  | n + 1, bits, least, greatest, b :: bs =>
    if least ≤ b.toNat ∧ b.toNat ≤ greatest then
      continueChar n (bits * 64 + (b.toNat - 0x80)) 0x80 0xbf bs
    else (none, b :: bs)

/-- Takes one character, or one broken one, off the front of some bytes. -/
def decodeOne (b : UInt8) (bs : List UInt8) : Option Char × List UInt8 :=
  if b.toNat < 0x80 then (some (Char.ofNat b.toNat), bs)
  else
    match leadByte? b.toNat with
    | some l => continueChar l.following l.bits l.least l.greatest bs
    | none => (none, bs)

/-- Takes bytes apart; every step takes a byte, so their number bounds the steps. -/
def decodeFrom : (steps : Nat) → List UInt8 → List (Option Char)
  | 0, _ => []
  | _ + 1, [] => []
  | steps + 1, b :: bs =>
    let (c, rest) := decodeOne b bs
    c :: decodeFrom steps rest

/-- The characters of some bytes, with nothing for each broken one. -/
def decode (bs : List UInt8) : List (Option Char) := decodeFrom bs.length bs

/-- The text of some bytes, with a replacement character for each broken one. -/
def decodeLossy (bs : List UInt8) : String :=
  String.ofList ((decode bs).map fun c => c.getD '\ufffd')

/-- The text of some bytes, if none of them is broken. -/
def decodeStrict? (bs : List UInt8) : Option String :=
  ((decode bs).mapM id).map String.ofList

/-- The bytes of a text. -/
def encode (s : String) : List UInt8 := s.toList.flatMap String.utf8EncodeChar

end WebviewBridge.Text
