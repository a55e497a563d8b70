/-!
# Digits

The digits of the bases that texts use, all of them ASCII, and the numbers that runs of them denote.
-/

namespace Specifiers

namespace Digit

/-- Is the character an octal digit? -/
def isOctal (c : Char) : Bool := '0' ≤ c && c ≤ '7'

/-- Is the character a binary digit? -/
def isBinary (c : Char) : Bool := c == '0' || c == '1'

/-- The value of a hexadecimal digit. -/
def hexValue? (c : Char) : Option Nat :=
  if '0' ≤ c ∧ c ≤ '9' then some (c.toNat - '0'.toNat)
  else if 'a' ≤ c ∧ c ≤ 'f' then some (c.toNat - 'a'.toNat + 10)
  else if 'A' ≤ c ∧ c ≤ 'F' then some (c.toNat - 'A'.toNat + 10)
  else none

/-- Is the character a hexadecimal digit? -/
def isHex (c : Char) : Bool := (hexValue? c).isSome

/-- The number that digits of a base denote, the most significant first. -/
def number (base : Nat) (digits : List Char) : Nat :=
  digits.foldl (fun n c => base * n + (hexValue? c).getD 0) 0

/-- The digit of a value below sixteen, in lower case. -/
def ofValue (n : Nat) : Char :=
  if n < 10 then Char.ofNat ('0'.toNat + n) else Char.ofNat ('a'.toNat + (n - 10))

/-- A number in hexadecimal, with zeros in front up to a width. -/
def hex : Nat → Nat → List Char
  | 0, _ => []
  | width + 1, n => hex width (n / 16) ++ [ofValue (n % 16)]

end Digit

end Specifiers
