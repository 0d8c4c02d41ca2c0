/-!
# Finite doubles in exact arithmetic

A double is a sign, a natural significand and a power of two.  Rounding, the product and the
quotient are computed on natural numbers, so every definition here runs in the logic as well as
in a program.  Infinities do not occur: what does not fit is reported as `none`.
-/

namespace WebviewBridge

/-- A finite double: the value `± significand · 2 ^ exponent`.  Zero has the least exponent,
and every other double has either 53 significant bits or the least exponent, so two equal
doubles of one sign have equal fields. -/
structure Binary64 where
  /-- Whether the sign is minus; zero has both signs. -/
  negative : Bool
  /-- The significand, below `2 ^ 53`. -/
  significand : Nat
  /-- The power of two, from `-1074` to `971`. -/
  exponent : Int
deriving DecidableEq, Repr, Inhabited

namespace Binary64

/-- The least power of two of a double. -/
def minExponent : Int := -1074

/-- The greatest power of two of a finite double. -/
def maxExponent : Int := 971

/-- Zero with a plus sign. -/
def zero : Binary64 := ⟨false, 0, minExponent⟩

/-- Whether the double is zero, of either sign. -/
def isZero (x : Binary64) : Bool := x.significand == 0

/-- The same magnitude with the given sign. -/
def withSign (x : Binary64) (negative : Bool) : Binary64 := { x with negative }

/-- The quotient to the nearest natural number, a half going to the even neighbour. -/
def roundQuotient (num den : Nat) : Nat :=
  let q := num / den
  let r := num % den
  if 2 * r > den then q + 1
  else if 2 * r = den then q + q % 2
  else q

/-- A quotient as a fraction of naturals after division by `2 ^ e`. -/
def shiftedQuotient (num den : Nat) (e : Int) : Nat × Nat :=
  if e < 0 then (num * Nat.pow 2 (-e).toNat, den) else (num, den * Nat.pow 2 e.toNat)

/-- The power of two at which `num / den` has 53 significant bits, or the least one. -/
def exponentFor (num den : Nat) : Int :=
  let e : Int := (num.log2 : Int) - den.log2 - 53
  let (n, d) := shiftedQuotient num den e
  max minExponent (if n / d < Nat.pow 2 53 then e else e + 1)

/-- The double nearest to `num / den`, ties to the even significand; `none` when it would be
infinite. -/
def ofQuotient (num den : Nat) : Option Binary64 :=
  if num = 0 then some zero
  else
    let e := exponentFor num den
    let (n, d) := shiftedQuotient num den e
    let m := roundQuotient n d
    let (m, e) := if m = Nat.pow 2 53 then (Nat.pow 2 52, e + 1) else (m, e)
    if e > maxExponent then none
    else if m = 0 then some zero
    else some ⟨false, m, e⟩

/-- The double nearest to a natural number. -/
def ofNat? (n : Nat) : Option Binary64 := ofQuotient n 1

/-- The magnitude as a fraction of naturals. -/
def magnitude (x : Binary64) : Nat × Nat :=
  shiftedQuotient x.significand 1 (-x.exponent)

/-- The rounded product of the magnitudes; `none` when it would be infinite. -/
def mul? (x y : Binary64) : Option Binary64 :=
  let (a, b) := x.magnitude
  let (c, d) := y.magnitude
  ofQuotient (a * c) (b * d)

/-- The rounded quotient of the magnitudes; `none` when it would be infinite. -/
def div? (x y : Binary64) : Option Binary64 :=
  let (a, b) := x.magnitude
  let (c, d) := y.magnitude
  ofQuotient (a * d) (b * c)

end Binary64

end WebviewBridge
