import Specifiers.Text.Digit
import Specifiers.Tree

/-!
# Trees as JSON

The text of a tree in JSON, in ASCII: items and fields stand on lines of their own, indented by two
spaces for each level; empty lists and objects stay on one line. A character outside ASCII is written
by its number, and one beyond 0xFFFF by its two surrogates.
-/

namespace Specifiers

namespace Json

/-- A unit of two bytes by its number. -/
def unit (n : Nat) : List Char := '\\' :: 'u' :: Digit.hex 4 n

/-- A character as it stands between quotes. -/
def char (c : Char) : List Char :=
  let n := c.toNat
  if c == '\x22' || c == '\\' then ['\\', c]
  else if c == '\n' then ['\\', 'n']
  else if c == '\r' then ['\\', 'r']
  else if c == '\t' then ['\\', 't']
  else if c == '\x0c' then ['\\', 'f']
  else if c == '\x08' then ['\\', 'b']
  else if 0x20 ≤ n && n < 0x7F then [c]
  else if n < 0x10000 then unit n
  else unit (0xD800 + (n - 0x10000) / 0x400) ++ unit (0xDC00 + (n - 0x10000) % 0x400)

/-- A text between quotes. -/
def quote (s : String) : String :=
  String.ofList ('\x22' :: s.toList.flatMap char ++ ['\x22'])

/-- A number. -/
def number : Number → String
  | .whole n => toString n
  | .decimal mantissa places => toString mantissa ++ "e-" ++ toString places

/-- The start of a line at a level. -/
def newLine (level : Nat) : String := "\n" ++ String.ofList (List.replicate (2 * level) ' ')

/-- Lines between brackets. -/
def bracketed (start stop : String) (level : Nat) (lines : List String) : String :=
  if lines.isEmpty then start ++ stop
  else
    start ++ newLine (level + 1) ++ ("," ++ newLine (level + 1)).intercalate lines ++ newLine level ++
      stop

mutual

/-- The text of a tree at a level. -/
def textAt (level : Nat) : Tree → String
  | .null => "null"
  | .bool b => if b then "true" else "false"
  | .number n => number n
  | .text s => quote s
  | .list items => bracketed "[" "]" level (itemTexts (level + 1) items)
  | .object fields => bracketed "\x7b" "\x7d" level (fieldTexts (level + 1) fields)

/-- The texts of the items of a list. -/
def itemTexts (level : Nat) : List Tree → List String
  | [] => []
  | t :: ts => textAt level t :: itemTexts level ts

/-- The texts of the fields of an object. -/
def fieldTexts (level : Nat) : List (String × Tree) → List String
  | [] => []
  | (name, t) :: fs => (quote name ++ ": " ++ textAt level t) :: fieldTexts level fs

end

/-- The text of a tree. -/
def text (t : Tree) : String := textAt 0 t

end Json

end Specifiers
