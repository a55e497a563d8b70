import Specifiers.Binary64

/-!
# The shortest decimal of a number

Every number that lies nearer to a finite number than to its two neighbours reads back as that number;
so do the two midpoints when the mantissa is even. Of the decimals with the fewest digits among these,
the nearest one is the shortest decimal of the number. For a number of digits, only the two decimals
around the number have to be looked at: if a decimal with that many digits reads back, one of them does.

All comparisons are between quotients of natural numbers.
-/

namespace Specifiers

namespace Binary64

/-- A quotient of natural numbers, the second of which is not zero. -/
abbrev Quotient := Nat × Nat

/-- The quotient `n * base ^ exponent`. -/
def scaleBy (n base : Nat) (exponent : Int) : Quotient :=
  if 0 ≤ exponent then (n * Nat.pow base exponent.toNat, 1) else (n, Nat.pow base (-exponent).toNat)

/-- Is the first quotient less than the second? -/
def Quotient.less (a b : Quotient) : Bool := a.1 * b.2 < b.1 * a.2

/-- The two midpoints between a number and its neighbours. The lower neighbour of a power of two is
nearer than the upper one. -/
def midpoints (mantissa : Nat) (exponent : Int) : Quotient × Quotient :=
  let below := if mantissa = Nat.pow 2 (precision - 1) && leastExponent < exponent then 1 else 2
  (scaleBy (4 * mantissa - below) 2 (exponent - 2), scaleBy (4 * mantissa + 2) 2 (exponent - 2))

/-- Does a decimal read back as the number? -/
def readsBack (mantissa : Nat) (exponent : Int) (decimal : Quotient) : Bool :=
  let (low, high) := midpoints mantissa exponent
  if mantissa % 2 = 0 then !decimal.less low && !high.less decimal
  else low.less decimal && decimal.less high

/-- The powers of ten that can be the first one above a number. -/
def decimalTops : List Int := (List.range 640).map fun (n : Nat) => (n : Int) - 330

/-- The first power of ten above a quotient. -/
def topOf (v : Quotient) : Int := (decimalTops.find? fun t => v.less (scaleBy 1 10 t)).getD 310

/-- The decimal with digits down to a power of ten that reads back as a number and is nearest to it, as
a multiple of that power; the even one of two. -/
def decimalAt? (mantissa : Nat) (exponent power : Int) : Option Nat :=
  let v := scaleBy mantissa 2 exponent
  let twice : Quotient := (2 * v.1, v.2)
  let unit := scaleBy 1 10 power
  let below := v.1 * unit.2 / (v.2 * unit.1)
  let fits (n : Nat) : Bool := readsBack mantissa exponent (scaleBy n 10 power)
  let middle := scaleBy (2 * below + 1) 10 power
  match fits below, fits (below + 1) with
  | true, true =>
    let up := middle.less twice || (!twice.less middle && below % 2 = 1)
    some (if up then below + 1 else below)
  | true, false => some below
  | false, true => some (below + 1)
  | false, false => none

/-- How many digits are enough for every number. -/
def enoughDigits : Nat := 17

/-- The shortest decimal of a number above zero: its digits as a number, and the power of ten of the
last one. -/
def shortest (mantissa : Nat) (exponent : Int) : Nat × Int :=
  let top := topOf (scaleBy mantissa 2 exponent)
  let tried := (List.range enoughDigits).findSome? fun (n : Nat) =>
    (decimalAt? mantissa exponent (top - (n + 1))).map fun d => (d, top - ((n : Int) + 1))
  tried.getD (mantissa, 0)

end Binary64

end Specifiers
