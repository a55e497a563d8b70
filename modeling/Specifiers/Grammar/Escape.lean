import Specifiers.Grammar.Cursor
import Specifiers.Text.Digit

/-!
# Escapes

What a backslash and the characters after it stand for in a name, a string and a template. Every
reader looks at the characters after the backslash and says how many of them belong to the escape, so
that the caller passes over them; a fault is placed by its distance from the backslash.
-/

namespace Specifiers

namespace Grammar

/-- What a backslash starts: a code point spelled by the next `length` characters, an octal code
that strict code refuses, a line end that is left out, or a fault so many characters further on. -/
inductive Escape
  | code (value length : Nat)
  | octal (value length : Nat)
  | lineEnd (length : Nat)
  | fault (offset : Nat) (complaint : Complaint)
  deriving Repr

namespace Escape

/-- The value of `n` hexadecimal digits; else the number of those there are. -/
def hexDigits (n : Nat) (cs : List Char) : Except Nat Nat :=
  let digits := (cs.take n).takeWhile Digit.isHex
  if digits.length == n then .ok (Digit.number 16 digits) else .error digits.length

/-- A code point between braces, after the opening one: its value and the number of characters up to
and with the closing one; else the number of characters read when the fault shows. -/
def braced (cs : List Char) : Except Nat (Nat × Nat) :=
  let digits := cs.takeWhile Digit.isHex
  let value := Digit.number 16 digits
  match digits, cs.drop digits.length with
  | [], '}' :: _ => .error 0
  | _, '}' :: _ => if value ≤ 0x10FFFF then .ok (value, digits.length + 1) else .error (digits.length + 1)
  | _, [] => .error digits.length
  | _, _ :: _ => .error (digits.length + 1)

/-- A code point by its number, after `u`: four digits, or digits between braces. The count is that
of the characters after `u`. -/
def unicode (cs : List Char) : Except Nat (Nat × Nat) :=
  match cs with
  | '{' :: rest => match braced rest with
    | .ok (value, n) => .ok (value, n + 1)
    | .error n => .error (n + 1)
  | _ => (hexDigits 4 cs).map (·, 4)

/-- The characters that a letter stands for after a backslash. -/
def control? : Char → Option Nat
  | 'n' => some 10
  | 'r' => some 13
  | 't' => some 9
  | 'b' => some 8
  | 'f' => some 12
  | 'v' => some 11
  | _ => none

/-- An octal code of up to three digits, or two when the first is above 3. A zero alone is no octal
code. -/
def octalCode (first : Char) (cs : List Char) : Escape :=
  let digits := (cs.take (if first ≤ '3' then 2 else 1)).takeWhile Digit.isOctal
  let value := Digit.number 8 (first :: digits)
  if first == '0' && digits.isEmpty then .code value 1 else .octal value (digits.length + 1)

/-- The escapes that strings and templates share. -/
def common (c : Char) (cs : List Char) : Escape :=
  if isLineTerminator c then .lineEnd (lineEndLength (c :: cs))
  else if c == 'x' then
    match hexDigits 2 cs with
    | .ok value => .code value 3
    | .error n => .fault (n + 1) .hexEscape
  else match control? c with
    | some value => .code value 1
    | none => .code c.toNat 1

/-- An escape in a string, given by the characters after the backslash. -/
def ofString : List Char → Escape
  | [] => .code 0 1
  | c :: cs =>
    if c == 'u' then
      match unicode cs with
      | .ok (value, n) => .code value (n + 1)
      | .error n => .fault (n + 1) .illegal
    else if c == '8' || c == '9' then .fault 1 .illegal
    else if Digit.isOctal c then octalCode c cs
    else common c cs

/-- An escape in a template, given by the characters after the backslash. A `u` that starts no code
point stands for itself. -/
def ofTemplate : List Char → Escape
  | [] => .code 0 1
  | c :: cs =>
    if c == 'u' then
      match unicode cs with
      | .ok (value, n) => .code value (n + 1)
      | .error n => if cs.head? == some '{' then .fault (n + 1) .illegal else .code c.toNat 1
    else if c == '0' then
      if cs.head?.any Char.isDigit then .fault 1 .templateOctal else .code 0 1
    else if Digit.isOctal c then .fault 1 .templateOctal
    else common c cs

end Escape

/-- The character of a code point; a surrogate has none and is replaced. -/
def charOfCode (n : Nat) : Char :=
  if n.isValidChar then Char.ofNat n else '\ufffd'

/-- The text of a list of code points, in which each pair of surrogates stands for one character. -/
def textOfCodes : List Nat → List Char
  | high :: low :: rest =>
    if 0xD800 ≤ high && high ≤ 0xDBFF && 0xDC00 ≤ low && low ≤ 0xDFFF then
      charOfCode (0x10000 + (high - 0xD800) * 0x400 + (low - 0xDC00)) :: textOfCodes rest
    else charOfCode high :: textOfCodes (low :: rest)
  | [n] => [charOfCode n]
  | [] => []

end Grammar

end Specifiers
