import Specifiers.Toml.Failure
import Specifiers.Value

/-!
# Numbers in documents

A whole number has a sign and decimal digits, or a mark of its base and digits of that base; one with a
fraction or an exponent is a floating point number. Single underscores may stand between digits.
-/

namespace Specifiers

namespace Toml

/-- The digits of a run, where single underscores may stand between them, and what follows. -/
def moreDigits (isDigit : Char → Bool) : List Char → List Char × List Char
  | '_' :: d :: cs =>
    if isDigit d then
      let (ds, rest) := moreDigits isDigit cs
      (d :: ds, rest)
    else ([], '_' :: d :: cs)
  | d :: cs =>
    if isDigit d then
      let (ds, rest) := moreDigits isDigit cs
      (d :: ds, rest)
    else ([], d :: cs)
  | [] => ([], [])

/-- The digits of a run that is not empty, and what follows. -/
def digits? (isDigit : Char → Bool) : List Char → Option (List Char × List Char)
  | d :: cs =>
    if isDigit d then
      let (ds, rest) := moreDigits isDigit cs
      some (d :: ds, rest)
    else none
  | [] => none

/-- A number with a mark of its base. -/
def radixNumber? : List Char → Option (Nat × List Char)
  | '0' :: 'x' :: cs => (digits? Digit.isHex cs).map fun r => (Digit.number 16 r.1, r.2)
  | '0' :: 'b' :: cs => (digits? Digit.isBinary cs).map fun r => (Digit.number 2 r.1, r.2)
  | '0' :: 'o' :: cs => (digits? Digit.isOctal cs).map fun r => (Digit.number 8 r.1, r.2)
  | _ => none

/-- A sign, if there is one: is it a minus? -/
def signOf : List Char → Bool × List Char
  | '-' :: cs => (true, cs)
  | '+' :: cs => (false, cs)
  | cs => (false, cs)

/-- The digits before the fraction: a zero, or digits of which the first is none. -/
def wholeDigits? : List Char → Option (List Char × List Char)
  | '0' :: cs => some (['0'], cs)
  | cs => digits? Char.isDigit cs

/-- The digits of a fraction, if there is one. -/
def fractionDigits? : List Char → Option (List Char × List Char)
  | '.' :: cs => digits? Char.isDigit cs
  | _ => none

/-- The number of an exponent, if there is one. -/
def exponent? : List Char → Option (Int × List Char)
  | c :: cs =>
    if c == 'e' || c == 'E' then
      let (negative, cs) := signOf cs
      (digits? Char.isDigit cs).map fun r =>
        let n : Int := Digit.number 10 r.1
        (if negative then -n else n, r.2)
    else none
  | [] => none

/-- A whole number with decimal digits. -/
def wholeNumber (negative : Bool) (digits : List Char) : Except Failure Value :=
  if digitLimit < digits.length then .error (.tooManyDigits digits.length)
  else
    let n : Int := Digit.number 10 digits
    .ok (.integer (if negative then -n else n))

/-- A number without a mark of its base. -/
def decimalNumber? (cs : List Char) : Option (Except Failure Value × List Char) :=
  let (negative, cs) := signOf cs
  (wholeDigits? cs).map fun (whole, afterWhole) =>
    let fraction := fractionDigits? afterWhole
    let afterFraction := (fraction.map (·.2)).getD afterWhole
    let exponent := exponent? afterFraction
    let rest := (exponent.map (·.2)).getD afterFraction
    if fraction.isNone && exponent.isNone then (wholeNumber negative whole, rest)
    else
      let places := (fraction.map (·.1)).getD []
      let power := (exponent.map (·.1)).getD 0 - places.length
      (.ok (.float (.ofDecimal negative (Digit.number 10 (whole ++ places)) power)), rest)

/-- The names of the numbers that have no digits. -/
def namedNumber? (cs : List Char) : Option (Binary64 × List Char) :=
  let (negative, rest) := signOf cs
  if ['i', 'n', 'f'].isPrefixOf rest then some (.infinite negative, rest.drop 3)
  else if ['n', 'a', 'n'].isPrefixOf rest then some (.nan, rest.drop 3)
  else none

/-- A number. -/
def number? (cs : List Char) : Option (Except Failure Value × List Char) :=
  match radixNumber? cs with
  | some (n, rest) => some (.ok (.integer n), rest)
  | none => match decimalNumber? cs with
    | some r => some r
    | none => (namedNumber? cs).map fun r => (.ok (.float r.1), r.2)

end Toml

end Specifiers
