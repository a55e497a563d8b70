import Specifiers.Ignore.Pattern

/-!
# Rules

A list of patterns decides whether a path is selected. The last pattern that meets the path decides,
except that one which meets the path itself outranks those that meet it through a directory.
-/

namespace Specifiers

namespace Ignore

/-- Patterns in the order in which they are given. -/
abbrev Rules := List Pattern

namespace Rules

/-- The rules that lines spell. -/
def ofLines : List (List Char) → Except PatternError Rules
  | [] => .ok []
  | line :: lines => do
    let pattern ← Pattern.ofLine line
    return pattern.toList ++ (← ofLines lines)

/-- How a path is met so far, and by which kind of pattern. -/
abbrev Verdict := Option (Hit × Bool)

/-- The verdict when a further pattern is looked at. -/
def judge (path : List Char) (verdict : Verdict) (p : Pattern) : Verdict :=
  match p.body.hit? path, verdict with
  | none, _ => verdict
  | some .directory, some (.file, _) => verdict
  | some hit, _ => some (hit, p.selects)

/-- Do the rules select a path? -/
def selects (rules : Rules) (path : String) : Bool :=
  match rules.foldl (judge path.toList) none with
  | some (_, selected) => selected
  | none => false

end Rules

end Ignore

end Specifiers
