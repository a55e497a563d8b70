import Specifiers.Text.Blank
import Specifiers.Text.Width

/-!
# Wrapping

A text that is too wide for a terminal is broken before a word that does not fit into the line. A word that
fits into no line is broken where a line is full. Blanks go with the word before them, those at the start
with the first word. They may go beyond the end of a line, and are left out there.
-/

namespace Specifiers

namespace Console

/-- How many columns characters take. -/
def width (cs : List Char) : Nat := cs.foldr (fun c n => columns c + n) 0

/-- The words of a text, with the blanks around them. `word` holds the characters of the current one, the
last first; `begun` tells whether it has a character that is no blank, and `ended` whether a blank came
after that. -/
def wordsFrom (word : List Char) (begun ended : Bool) : List Char → List (List Char)
  | [] => [word.reverse]
  | c :: cs =>
    if isBlank c then wordsFrom (c :: word) begun begun cs
    else if ended then word.reverse :: wordsFrom [c] true false cs
    else wordsFrom (c :: word) true false cs

/-- The words of a text, with the blanks around them. -/
def words (cs : List Char) : List (List Char) := wordsFrom [] false false cs

/-- Breaks characters where a line of `n` columns is full. `line` holds the characters of the current line,
the last first, and `used` the columns that they take; what is to be done with the last line is `finish`. -/
def fold (n : Nat) (finish : List Char → List (List Char)) (line : List Char) (used : Nat) :
    List Char → List (List Char)
  | [] => finish line.reverse
  | c :: cs =>
    if n < used + columns c then line.reverse :: fold n finish [c] (columns c) cs
    else fold n finish (c :: line) (used + columns c) cs

/-- Fills lines of `n` columns with words. `line` is the current line. -/
def fill (n : Nat) (line : List Char) : List (List Char) → List (List Char)
  | [] => [line]
  | word :: rest =>
    if width line + width (trimEnd word) ≤ n then fill n (line ++ word) rest
    else if width (trimEnd word) ≤ n then line :: fill n word rest
    else
      (if line.isEmpty then [] else [line]) ++ fold n (fun last => fill n last rest) [] 0 word

/-- Leaves out as many blanks at the end of a line as there are characters too many. -/
def trimExcess (n : Nat) (line : List Char) : List Char :=
  let blanks := line.length - (trimEnd line).length
  line.take (line.length - min blanks (line.length - n))

/-- The start of a line that takes `n` columns at most. Of a wide character that is cut in half a blank is
left. -/
def crop (n : Nat) : List Char → List Char
  | [] => []
  | c :: cs => if columns c ≤ n then c :: crop (n - columns c) cs else List.replicate n ' '

/-- The lines of `n` columns in which a text is shown. -/
def wrapTo (n : Nat) (text : List Char) : List (List Char) :=
  (fill n [] (words text)).map fun line => crop n (trimExcess n line)

end Console

end Specifiers
