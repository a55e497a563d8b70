/-!
# Binary floating point numbers

Numbers of double precision, kept as a sign, a mantissa and a power of two. A decimal is rounded to the
nearest of them, and to the one with the even mantissa when two are equally near. The arithmetic is
that of the natural numbers.
-/

namespace Specifiers

/-- A number of double precision: plus or minus `mantissa * 2 ^ exponent`, or none. -/
inductive Binary64
  | finite (negative : Bool) (mantissa : Nat) (exponent : Int)
  | infinite (negative : Bool)
  | nan
  deriving DecidableEq, Repr, Inhabited

namespace Binary64

/-- How many bits a mantissa has at most. -/
def precision : Nat := 53

/-- The least power of two. -/
def leastExponent : Int := -1074

/-- The greatest power of two. -/
def greatestExponent : Int := 971

/-- With a power of ten above this one a decimal is too great. -/
def decimalLimit : Int := 400

/-- Below this power of two half of the least number is out of reach. -/
def binaryLimit : Nat := 1100

/-- The whole number nearest to a quotient, the even one of two. -/
def roundDiv (num den : Nat) : Nat :=
  let q := num / den
  let r := num % den
  if 2 * r < den || (2 * r == den && q % 2 == 0) then q else q + 1

/-- The whole number nearest to `num / den / 2 ^ exponent`. -/
def scaled (num den : Nat) (exponent : Int) : Nat :=
  if 0 ≤ exponent then roundDiv num (den * Nat.pow 2 exponent.toNat)
  else roundDiv (num * Nat.pow 2 (-exponent).toNat) den

/-- The power of two for a quotient: the mantissa, before it is rounded, has all its bits, unless the
power would be too small for that. -/
def exponentOf (num den : Nat) : Int :=
  let e : Int := (num.log2 : Int) - den.log2 - (precision - 1 : Nat)
  let fits :=
    if 0 ≤ e then den * Nat.pow 2 (precision - 1 + e.toNat) ≤ num
    else den * Nat.pow 2 (precision - 1) ≤ num * Nat.pow 2 (-e).toNat
  max leastExponent (if fits then e else e - 1)

/-- The number nearest to plus or minus `num / den`. -/
def ofQuotient (negative : Bool) (num den : Nat) : Binary64 :=
  if num = 0 then finite negative 0 leastExponent
  else
    let e := exponentOf num den
    let m := scaled num den e
    let (m, e) := if m = Nat.pow 2 precision then (Nat.pow 2 (precision - 1), e + 1) else (m, e)
    if greatestExponent < e then infinite negative else finite negative m e

/-- The number nearest to plus or minus `mantissa * 10 ^ exponent`. Exponents that decide the number
by themselves are not computed with. -/
def ofDecimal (negative : Bool) (mantissa : Nat) (exponent : Int) : Binary64 :=
  if mantissa = 0 then finite negative 0 leastExponent
  else if decimalLimit < exponent then infinite negative
  else if 0 ≤ exponent then ofQuotient negative (mantissa * Nat.pow 10 exponent.toNat) 1
  else if mantissa.log2 + 1 + binaryLimit < 3 * (-exponent).toNat then
    finite negative 0 leastExponent
  else ofQuotient negative mantissa (Nat.pow 10 (-exponent).toNat)

/-- The whole number that a number is, if it is one. -/
def toInt? : Binary64 → Option Int
  | finite negative m e =>
    let n? : Option Nat :=
      if 0 ≤ e then some (m * Nat.pow 2 e.toNat)
      else if m % Nat.pow 2 (-e).toNat = 0 then some (m / Nat.pow 2 (-e).toNat) else none
    n?.map fun n => if negative then -(n : Int) else n
  | _ => none

end Binary64

end Specifiers
