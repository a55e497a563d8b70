/-!
# Listings

What a source text refers to: the specifiers of modules in the order of the text, with repeats, and
whether the text is a module.
-/

namespace Specifiers

/-- The specifiers that a text refers to, in order and with repeats, and whether it is a module. -/
structure Listing where
  specifiers : List String := []
  isModule : Bool := false
  deriving DecidableEq, Repr, Inhabited

namespace Listing

/-- The items of a list that are not in `seen`, each at its first place. -/
def firsts (seen : List String) : List String → List String
  | [] => []
  | s :: rest => if seen.contains s then firsts seen rest else s :: firsts (s :: seen) rest

/-- The specifiers without repeats, in the order of their first places. -/
def unique (l : Listing) : List String := firsts [] l.specifiers

end Listing

end Specifiers
