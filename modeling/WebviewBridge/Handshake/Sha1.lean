/-!
# SHA-1

The digest by which a host proves that it has read the key of a request to upgrade.  A message is
padded to blocks of 64 bytes, and every block is mixed into five words.
-/

namespace WebviewBridge.Sha1

/-- The five words that a digest consists of. -/
structure State where
  a : UInt32
  b : UInt32
  c : UInt32
  d : UInt32
  e : UInt32
deriving DecidableEq, Repr

/-- The words before the first block. -/
def initial : State := ⟨0x67452301, 0xefcdab89, 0x98badcfe, 0x10325476, 0xc3d2e1f0⟩

/-- Rotates a word to the left. -/
def rotate (n x : UInt32) : UInt32 := (x <<< n) ||| (x >>> (32 - n))

/-! ## Blocks -/

/-- A number as eight bytes, most significant first. -/
def lengthBytes (n : Nat) : List UInt8 :=
  (List.range 8).reverse.map fun i => UInt8.ofNat (n / Nat.pow 256 i)

/-- A message with its padding: a one bit, zeros, and the number of its bits. -/
def padded (message : List UInt8) : List UInt8 :=
  let zeros := (119 - message.length % 64) % 64
  message ++ 0x80 :: List.replicate zeros 0 ++ lengthBytes (8 * message.length)

/-- The word of each four bytes, most significant first. -/
def words : List UInt8 → List UInt32
  | a :: b :: c :: d :: rest =>
    ((a.toUInt32 <<< 24) ||| (b.toUInt32 <<< 16) ||| (c.toUInt32 <<< 8) ||| d.toUInt32)
      :: words rest
  | _ => []

/-- Extends words by further ones; the latest word stands first. -/
def extend : Nat → List UInt32 → List UInt32
  | 0, ws => ws
  | n + 1, ws =>
    let word (i : Nat) : UInt32 := ws[i]?.getD 0
    extend n (rotate 1 (word 2 ^^^ word 7 ^^^ word 13 ^^^ word 15) :: ws)

/-- The eighty words of a block, in order. -/
def schedule (block : List UInt32) : List UInt32 := (extend 64 block.reverse).reverse

/-! ## Rounds -/

/-- How three words are mixed in a round, and the constant of the round. -/
def mix (round : Nat) (b c d : UInt32) : UInt32 :=
  if round < 20 then ((b &&& c) ||| (~~~b &&& d)) + 0x5a827999
  else if round < 40 then (b ^^^ c ^^^ d) + 0x6ed9eba1
  else if round < 60 then ((b &&& c) ||| (b &&& d) ||| (c &&& d)) + 0x8f1bbcdc
  else (b ^^^ c ^^^ d) + 0xca62c1d6

/-- One round with a word of the schedule. -/
def step (s : State) (word : UInt32 × Nat) : State :=
  ⟨rotate 5 s.a + mix word.2 s.b s.c s.d + s.e + word.1, s.a, rotate 30 s.b, s.c, s.d⟩

/-- Mixes a block into the words. -/
def absorb (s : State) (block : List UInt32) : State :=
  let t := (schedule block).zipIdx.foldl step s
  ⟨s.a + t.a, s.b + t.b, s.c + t.c, s.d + t.d, s.e + t.e⟩

/-- Mixes all blocks of sixteen words into the words. -/
def absorbAll (s : State) (ws : List UInt32) : State :=
  if _ : ws.length < 16 then s else absorbAll (absorb s (ws.take 16)) (ws.drop 16)
termination_by ws.length
decreasing_by rw [List.length_drop]; omega

/-- A word as four bytes, most significant first. -/
def wordBytes (w : UInt32) : List UInt8 :=
  [(w >>> 24).toUInt8, (w >>> 16).toUInt8, (w >>> 8).toUInt8, w.toUInt8]

/-- The digest of a message. -/
def digest (message : List UInt8) : List UInt8 :=
  let s := absorbAll initial (words (padded message))
  [s.a, s.b, s.c, s.d, s.e].flatMap wordBytes

end WebviewBridge.Sha1
