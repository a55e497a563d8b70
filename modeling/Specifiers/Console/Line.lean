import Specifiers.Console.Markup
import Specifiers.Text.Width

/-!
# Printing messages

A printed message is its text, line by line, with a line feed after each. A tab takes its line to the next
of the columns that are multiples of eight. Then a line can be too long for the display, which shows it in
several. A message is put out as a whole, or not at all.
-/

namespace Specifiers

namespace Console

/-- How far apart the columns are to which tabs lead. -/
def tabSize : Nat := 8

/-- Puts spaces in place of the tabs of a line, where `column` is the current column. -/
def expandTabs (column : Nat) : List Char → List Char
  | [] => []
  | c :: cs =>
    if c == '\t' then
      let n := tabSize - column % tabSize
      List.replicate n ' ' ++ expandTabs (column + n) cs
    else c :: expandTabs (column + columns c) cs

/-- The lines in which characters are shown. -/
def shownLines (d : Display) (cs : List Char) : List (List Char) :=
  (Split.pieces '\n' cs).flatMap fun text => d.wrap (expandTabs 0 text)

/-- Lines, with a line feed after each. -/
def joinLines (ls : List (List Char)) : List Char := ls.flatMap (· ++ ['\n'])

/-- What is put out for lines that are shown. -/
def put (d : Display) (ls : List (List Char)) : Except MarkupError String :=
  match d.refusal? (joinLines ls) with
  | none => .ok (String.ofList (joinLines ls))
  | some complaint => .error (.refused complaint)

/-- What printing a message puts out. -/
def line (d : Display) (markup : String) : Except MarkupError String := do
  let cs ← render d markup
  put d (shownLines d cs)

/-- What printing messages one after the other puts out, and the error that ends it, if one does. -/
def lines (d : Display) : List String → String × Option MarkupError
  | [] => ("", none)
  | markup :: rest =>
    match line d markup with
    | .ok s =>
      let (t, e) := lines d rest
      (s ++ t, e)
    | .error e => ("", some e)

end Console

end Specifiers
