/-!
# Splitting texts

The pieces of a text between separators, and the two parts around the last separator.
-/

namespace Specifiers

namespace Split

/-- The pieces between the separators; `piece` holds the characters of the current one, the last
first. There is always at least one piece. -/
def piecesFrom (separator : Char) (piece : List Char) : List Char → List (List Char)
  | [] => [piece.reverse]
  | c :: cs =>
    if c == separator then piece.reverse :: piecesFrom separator [] cs
    else piecesFrom separator (c :: piece) cs

/-- The pieces between the separators. -/
def pieces (separator : Char) (cs : List Char) : List (List Char) := piecesFrom separator [] cs

/-- The parts before and after the last separator, if there is one. -/
def atLast? (separator : Char) (cs : List Char) : Option (List Char × List Char) :=
  match cs.reverse.span (· != separator) with
  | (_, []) => none
  | (after, _ :: before) => some (before.reverse, after.reverse)

end Split

end Specifiers
