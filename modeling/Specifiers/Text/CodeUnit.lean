import Specifiers.Text.Utf8

/-!
# Texts in units of two and of four bytes

A unit is read in one of two byte orders. Of two bytes each, units between 0xD800 and 0xDFFF are
surrogates: a high and a low one together spell one character, and alone they spell none. Of four
bytes each, a unit is the number of a character. A fault is replaced by one character: a surrogate
alone, a number that no character has, and what is left over at the end.
-/

namespace Specifiers

/-- The order of the bytes in a unit: the least or the most significant first. -/
inductive ByteOrder
  | little
  | big
  deriving DecidableEq, Repr

namespace CodeUnit

/-- The number that bytes spell. -/
def value (order : ByteOrder) (bytes : List UInt8) : Nat :=
  let ordered := match order with
    | .little => bytes.reverse
    | .big => bytes
  ordered.foldl (fun n b => n * 256 + b.toNat) 0

/-- Is the unit the first of a pair? -/
def isHigh (n : Nat) : Bool := 0xD800 ≤ n && n < 0xDC00

/-- Is the unit the second of a pair? -/
def isLow (n : Nat) : Bool := 0xDC00 ≤ n && n < 0xE000

/-- The character of a pair. -/
def pair (high low : Nat) : Char := Char.ofNat (0x10000 + (high - 0xD800) * 0x400 + (low - 0xDC00))

/-- The character with a number, when there is one. -/
def char (n : Nat) : Char := if n.isValidChar then Char.ofNat n else Utf8.replacement

/-- Decodes units of two bytes; `before` holds the characters so far, the last first. -/
def decode16From (order : ByteOrder) (before : List Char) : List UInt8 → List Char
  | a :: b :: bs =>
    let n := value order [a, b]
    if isHigh n then
      match bs with
      | c :: d :: rest =>
        let m := value order [c, d]
        if isLow m then decode16From order (pair n m :: before) rest
        else decode16From order (Utf8.replacement :: before) (c :: d :: rest)
      | _ => (Utf8.replacement :: before).reverse
    else decode16From order (char n :: before) bs
  | [_] => (Utf8.replacement :: before).reverse
  | [] => before.reverse

/-- The text that units of two bytes spell. -/
def decode16 (order : ByteOrder) (bytes : List UInt8) : List Char := decode16From order [] bytes

/-- Decodes units of four bytes; `before` holds the characters so far, the last first. -/
def decode32From (order : ByteOrder) (before : List Char) : List UInt8 → List Char
  | a :: b :: c :: d :: bs => decode32From order (char (value order [a, b, c, d]) :: before) bs
  | [] => before.reverse
  | _ => (Utf8.replacement :: before).reverse

/-- The text that units of four bytes spell. -/
def decode32 (order : ByteOrder) (bytes : List UInt8) : List Char := decode32From order [] bytes

end CodeUnit

end Specifiers
