/-!
# Random identifiers

Sixteen random bytes as an identifier of version 4: five groups of hexadecimal digits, with the
version and the variant in their places.
-/

namespace WebviewBridge.Text

/-- A byte as two hexadecimal digits in lower case. -/
def hexByte (b : UInt8) : List Char :=
  [Nat.digitChar (b.toNat / 16), Nat.digitChar (b.toNat % 16)]

/-- The bytes of an identifier with the version and the variant in their places. -/
def markVersion (bytes : List UInt8) : List UInt8 :=
  (bytes.modify 6 fun b => (b &&& 0x0f) ||| 0x40).modify 8 fun b => (b &&& 0x3f) ||| 0x80

/-- The identifier that some random bytes make. -/
def uuid (bytes : List UInt8) : String :=
  let digits := (markVersion (bytes.take 16)).flatMap hexByte
  let group (start size : Nat) : String := String.ofList ((digits.drop start).take size)
  "-".intercalate [group 0 8, group 8 4, group 12 4, group 16 4, group 20 12]

end WebviewBridge.Text
