import Specifiers.Text.Utf8

/-!
# Percent-encoded texts

A percent sign with two hexadecimal digits stands for a byte. The bytes are read as UTF-8; where they
spell no character, a replacement character stands. Any other percent sign stands for itself.
-/

namespace Specifiers

namespace PercentEncoding

/-- The bytes that a text spells; `skip` is the number of characters that belong to an escape already
read. -/
def bytesFrom (skip : Nat) : List Char → List UInt8
  | [] => []
  | c :: cs =>
    match skip with
    | skip + 1 => bytesFrom skip cs
    | 0 =>
      match c, cs with
      | '%', high :: low :: _ =>
        match Digit.hexValue? high, Digit.hexValue? low with
        | some h, some l => UInt8.ofNat (16 * h + l) :: bytesFrom 2 cs
        | _, _ => String.utf8EncodeChar c ++ bytesFrom 0 cs
      | _, _ => String.utf8EncodeChar c ++ bytesFrom 0 cs

/-- The text that a percent-encoded text stands for. -/
def decode (cs : List Char) : List Char := Utf8.decode (bytesFrom 0 cs)

end PercentEncoding

end Specifiers
