import Specifiers.Grammar.Cursor

/-!
# Hashbangs

A text that starts with `#!` names its interpreter on the first line. The line is left out up to its
end, which stays, so that the lines after it keep their numbers.
-/

namespace Specifiers

namespace Hashbang

/-- The characters of a text without its hashbang. -/
def strip : List Char → List Char
  | '#' :: '!' :: cs => cs.dropWhile fun c => !Grammar.isLineTerminator c
  | cs => cs

end Hashbang

/-- A text without its hashbang. -/
def stripHashbang (text : String) : String :=
  String.ofList (Hashbang.strip text.toList)

end Specifiers
