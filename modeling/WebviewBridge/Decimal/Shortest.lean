import WebviewBridge.Decimal.Binary64

/-!
# The fewest decimal digits that read back

`Binary64.shortest` finds, for a positive double, the shortest decimal significand that still
rounds to that double, and of those the nearest one.  `Binary64.text` lays the digits out:
positional while the leading digit stands between the fifth decimal place and the sixteenth
integer place, with an exponent otherwise, and always with a point or an exponent.
-/

namespace WebviewBridge.Binary64

/-- The decimal digits of a natural number, most significant first. -/
def decimalDigits (n : Nat) : List Char := Nat.toDigits 10 n

/-- The power of ten of the leading digit of `num / den`. -/
def leadingPower (num den : Nat) : Int :=
  if num ≥ den then ((decimalDigits (num / den)).length : Int) - 1
  else
    let j := (decimalDigits den).length - (decimalDigits num).length
    if num * Nat.pow 10 j ≥ den then -(j : Int) else -((j : Int) + 1)

/-- The numbers that round to a double, as an interval of fractions over one denominator. -/
structure Interval where
  /-- Numerator of the lower end. -/
  low : Nat
  /-- Numerator of the value itself. -/
  value : Nat
  /-- Numerator of the upper end. -/
  high : Nat
  /-- The common denominator. -/
  den : Nat
  /-- Whether the ends belong to the interval. -/
  closed : Bool

/-- The interval of a positive double: half way to each neighbour, the lower neighbour being
half as far away at a power of two. -/
def interval (x : Binary64) : Interval :=
  let m := x.significand
  let below := if m = Nat.pow 2 52 ∧ x.exponent > minExponent then 1 else 2
  let (n, d) := shiftedQuotient 1 1 (2 - x.exponent)
  { low := (4 * m - below) * n, value := 4 * m * n, high := (4 * m + 2) * n, den := d
    closed := m % 2 == 0 }

/-- Whether `digits · 10 ^ power` lies in the interval. -/
def Interval.contains (i : Interval) (digits : Nat) (power : Int) : Bool :=
  let (n, d) := if power < 0 then (digits, Nat.pow 10 (-power).toNat)
    else (digits * Nat.pow 10 power.toNat, 1)
  let v := n * i.den
  if i.closed then i.low * d ≤ v && v ≤ i.high * d else i.low * d < v && v < i.high * d

/-- The hit on one decimal grid: of the two grid points around the value the one inside the
interval, the nearer one if both are, the even one on a tie. -/
def Interval.nearest? (i : Interval) (power : Int) : Option Nat :=
  let (n, d) := if power < 0 then (i.value * Nat.pow 10 (-power).toNat, i.den)
    else (i.value, i.den * Nat.pow 10 power.toNat)
  let q := n / d
  let r := n % d
  let below := i.contains q power && q ≠ 0
  let above := i.contains (q + 1) power
  if below && above then
    if 2 * r < d then some q else if 2 * r > d then some (q + 1) else some (q + q % 2)
  else if below then some q
  else if above then some (q + 1)
  else none

/-- Tries grids of ever more digits; the seventeenth always has a hit. -/
def shortestFrom (i : Interval) (leading : Int) : Nat → Nat → Nat × Int
  | 0, _ => (0, 0)
  | left + 1, count =>
    let power := leading - count + 1
    match i.nearest? power with
    | some digits => (digits, power)
    | none => shortestFrom i leading left (count + 1)

/-- Removes trailing zeros of a significand, raising the power of ten. -/
def dropZeros : Nat → Nat × Int → Nat × Int
  | 0, x => x
  | left + 1, (digits, power) =>
    if digits % 10 = 0 ∧ digits ≠ 0 then dropZeros left (digits / 10, power + 1)
    else (digits, power)

/-- The shortest decimal of a positive double as a significand and a power of ten. -/
def shortest (x : Binary64) : Nat × Int :=
  let i := x.interval
  dropZeros 20 (shortestFrom i (leadingPower i.value i.den) 18 1)

/-- Digits with a point after the leading digit, when there are more. -/
def pointed : List Char → List Char
  | [] => []
  | [d] => [d]
  | d :: ds => d :: '.' :: ds

/-- The layout of `digits · 10 ^ power`.  The leading digit decides: from `10 ^ -5` to `10 ^ 15`
the number is positional with at least one digit after the point, else it has an exponent with
a sign. -/
def layout (digits : List Char) (power : Int) : List Char :=
  let leading := power + digits.length - 1
  if leading < -5 ∨ leading > 15 then
    let sign := if leading < 0 then '-' else '+'
    pointed digits ++ 'e' :: sign :: decimalDigits leading.natAbs
  else if power ≥ 0 then digits ++ List.replicate power.toNat '0' ++ ['.', '0']
  else if leading ≥ 0 then
    digits.take (leading.toNat + 1) ++ '.' :: digits.drop (leading.toNat + 1)
  else '0' :: '.' :: List.replicate (-leading - 1).toNat '0' ++ digits

/-- The text of a double: shortest digits that read back, never without point or exponent. -/
def text (x : Binary64) : List Char :=
  let sign := if x.negative then ['-'] else []
  if x.isZero then sign ++ ['0', '.', '0']
  else
    let (digits, power) := x.shortest
    sign ++ layout (decimalDigits digits) power

end WebviewBridge.Binary64
