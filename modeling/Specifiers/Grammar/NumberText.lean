import Specifiers.Binary64.Shortest
import Specifiers.Grammar.Literal

/-!
# Numbers in messages

A message that names a number shows its value and not its spelling. A whole number has all its digits;
another one is the shortest decimal of the double precision number nearest to what is spelled, with an
exponent when four zeros or more would follow the point.
-/

namespace Specifiers

namespace Grammar

/-- The decimal number that a spelling without a mark of a base denotes. -/
def decimalValue (cs : List Char) : Binary64 :=
  let whole := cs.takeWhile Char.isDigit
  let places := (fraction (cs.drop whole.length)).drop 1
  let mantissa := whole ++ fraction (cs.drop whole.length)
  let (mark, digits) := exponent (cs.drop mantissa.length)
  let power : Int := Digit.number 10 digits
  .ofDecimal false (Digit.number 10 (whole ++ places))
    ((if mark.contains '-' then -power else power) - places.length)

/-- The base that a spelling marks, and the digits in it. -/
def radixOf? (octal : Bool) : List Char → Option (Nat × List Char)
  | '0' :: x :: digits =>
    if octal then some (8, x :: digits)
    else if x == 'x' || x == 'X' then some (16, digits)
    else if x == 'b' || x == 'B' then some (2, digits)
    else if x == 'o' || x == 'O' then some (8, digits)
    else none
  | _ => none

/-- The digits of a number without the zeros at its end, and how many these are. -/
def significant (n : Nat) : List Char × Nat :=
  let digits := (toString n).toList
  let zeros := (digits.reverse.takeWhile (· == '0')).length
  (digits.take (digits.length - zeros), zeros)

/-- A decimal above zero and with places, given by its digits as a number and the power of ten of the
last one. -/
def decimalText (n : Nat) (power : Int) : String :=
  let (digits, zeros) := significant n
  let point : Int := power + zeros + digits.length
  if point ≤ -4 then
    let places := digits.drop 1
    let shown := toString (1 - point)
    String.ofList (digits.take 1 ++ (if places.isEmpty then [] else '.' :: places)) ++ "e-" ++
      (if shown.length < 2 then "0" ++ shown else shown)
  else if point ≤ 0 then
    "0." ++ String.ofList (List.replicate (-point).toNat '0' ++ digits)
  else String.ofList (digits.take point.toNat) ++ "." ++ String.ofList (digits.drop point.toNat)

/-- The value of a number that is spelled so. -/
def numberText (octal : Bool) (spelling : String) : String :=
  match radixOf? octal spelling.toList with
  | some (base, digits) => toString (Digit.number base digits)
  | none =>
    let value := decimalValue spelling.toList
    match value.toInt?, value with
    | some n, _ => toString n
    | none, .finite _ mantissa e =>
      let (n, power) := Binary64.shortest mantissa e
      decimalText n power
    | none, _ => "inf"

end Grammar

end Specifiers
