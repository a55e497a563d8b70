import Specifiers.Text.Digit
import Specifiers.Text.Printable

/-!
# Quoted texts

How a text is shown in a message: in single quotes, or in double ones when only a single quote stands
in it. The quote that encloses, the backslash and the characters that cannot be printed are escaped,
the latter by their numbers in the shortest of three forms.
-/

namespace Specifiers

namespace Quoted

/-- The quote that encloses a text. -/
def enclosing (cs : List Char) : Char :=
  if cs.contains '\x27' && !cs.contains '\x22' then '\x22' else '\x27'

/-- A character as it is shown between quotes. -/
def shown (quote c : Char) : List Char :=
  if c == quote || c == '\\' then ['\\', c]
  else if c == '\n' then ['\\', 'n']
  else if c == '\r' then ['\\', 'r']
  else if c == '\t' then ['\\', 't']
  else if isPrintable c then [c]
  else if c.toNat < 0x100 then '\\' :: 'x' :: Digit.hex 2 c.toNat
  else if c.toNat < 0x10000 then '\\' :: 'u' :: Digit.hex 4 c.toNat
  else '\\' :: 'U' :: Digit.hex 8 c.toNat

/-- A text in quotes. -/
def quote (cs : List Char) : List Char :=
  let q := enclosing cs
  q :: cs.flatMap (shown q) ++ [q]

end Quoted

/-- A text in quotes. -/
def quoted (s : String) : String := String.ofList (Quoted.quote s.toList)

end Specifiers
