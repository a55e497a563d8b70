/-!
# Lines

A line ends at a line feed, a carriage return, or the two together. Reading a text makes each of these
a line feed; lines keep theirs.
-/

namespace Specifiers

namespace Lines

/-- Makes each line end a line feed. `before` holds the characters so far, the last first, and
`afterReturn` says whether a carriage return stands before. -/
def unifyFrom (before : List Char) (afterReturn : Bool) : List Char → List Char
  | [] => before.reverse
  | c :: cs =>
    if c == '\r' then unifyFrom ('\n' :: before) true cs
    else if afterReturn && c == '\n' then unifyFrom before false cs
    else unifyFrom (c :: before) false cs

/-- Makes each line end a line feed. -/
def unify (cs : List Char) : List Char := unifyFrom [] false cs

/-- The lines of a text, each with its line feed; `line` holds the current one, the last character
first. What follows the last line feed is a line when it is not empty. -/
def linesFrom (line : List Char) : List Char → List (List Char)
  | [] => if line.isEmpty then [] else [line.reverse]
  | c :: cs =>
    if c == '\n' then (c :: line).reverse :: linesFrom [] cs else linesFrom (c :: line) cs

/-- The lines of a text, each with its line feed. -/
def lines (cs : List Char) : List (List Char) := linesFrom [] cs

end Lines

end Specifiers
