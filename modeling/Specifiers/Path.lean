import Specifiers.Text.Split

/-!
# Paths

A path is a list of segments, from the root of the file system or from wherever it is used. Exactly two
slashes at the start of a path name a root of their own; any other number of them is as good as one.
Empty segments and single dots vanish when a path is read; double dots stay.
-/

namespace Specifiers

/-- Where a path starts: wherever it is used, or at a root. -/
inductive Anchor
  | relative
  | root
  /-- The root of a path with exactly two slashes at its start. -/
  | doubleRoot
  deriving DecidableEq, Repr, Inhabited

namespace Anchor

/-- The anchor of a path that is spelled by characters. -/
def ofChars : List Char → Anchor
  | '/' :: '/' :: '/' :: _ => root
  | '/' :: '/' :: _ => doubleRoot
  | '/' :: _ => root
  | _ => relative

/-- What stands before the segments of a path. -/
def text : Anchor → String
  | relative => ""
  | root => "/"
  | doubleRoot => "//"

end Anchor

/-- A path. -/
structure Path where
  anchor : Anchor
  segments : List String
  deriving DecidableEq, Repr, Inhabited

namespace Path

/-- Does the path start at a root? -/
def absolute (p : Path) : Bool := p.anchor != .relative

/-- The segments that a text spells. -/
def segmentsOf (cs : List Char) : List String :=
  ((Split.pieces '/' cs).filter fun piece => piece != [] && piece != ['.']).map String.ofList

/-- The path that a text spells. -/
def ofString (s : String) : Path :=
  ⟨.ofChars s.toList, segmentsOf s.toList⟩

/-- The text of segments. -/
def relativeText (segments : List String) : String :=
  if segments.isEmpty then "." else "/".intercalate segments

/-- The text of a path. -/
def text (p : Path) : String :=
  if p.absolute then p.anchor.text ++ "/".intercalate p.segments else relativeText p.segments

/-- The path of further segments below a path. -/
def below (p : Path) (segments : List String) : Path := { p with segments := p.segments ++ segments }

/-- A path as seen from another: an absolute path stays. -/
def from' (p start : Path) : Path := if p.absolute then p else start.below p.segments

/-- The segments of a path after those of another, when it lies there by its segments, from the same
anchor. -/
def relativeTo? (p start : Path) : Option (List String) :=
  if p.anchor == start.anchor && start.segments.isPrefixOf p.segments then
    some (p.segments.drop start.segments.length)
  else none

/-- Leaves out each double dot with the segment before it; `before` holds the segments so far, the
last first. At the root a double dot leaves out nothing. -/
def collapseFrom (before : List String) : List String → List String
  | [] => before.reverse
  | s :: rest => if s == ".." then collapseFrom before.tail rest else collapseFrom (s :: before) rest

/-- The path that a path leads to from another one, without double dots. What is there is the same from
either root. -/
def resolve (p start : Path) : Path :=
  let full := p.from' start
  ⟨if full.absolute then .root else .relative, collapseFrom [] full.segments⟩

/-- The name of a path: its last segment. -/
def name (p : Path) : String := p.segments.getLast?.getD ""

/-- The suffix of a name: its last dot and what follows. A dot at the start or at the end makes no
suffix. -/
def suffixOf (name : String) : String :=
  match Split.atLast? '.' name.toList with
  | some (before, after) =>
    if before.isEmpty || after.isEmpty then "" else String.ofList ('.' :: after)
  | none => ""

end Path

end Specifiers
