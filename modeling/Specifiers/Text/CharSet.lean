/-!
# Sets of characters given by their runs

A property of characters that follows no formula is stored as the code points at which it changes:
membership is off below the first of them, on from there up to the second, and so on. Whether a
character belongs is then the parity of the number of changes at or below it, found by bisection.
-/

namespace Specifiers

/-- A set of characters: the increasing code points at which membership flips, starting from
"not a member". -/
structure CharSet where
  flips : Array Nat

namespace CharSet

/-- How many of the increasing `flips` from position `lo` up to `hi` are at most `n`, counted from
the start of the array; all before `lo` are at most `n`, none from `hi` on is. -/
def rank (flips : Array Nat) (n lo hi : Nat) : Nat :=
  if h : lo < hi then
    let mid := (lo + hi) / 2
    if flips.getD mid 0 ≤ n then rank flips n (mid + 1) hi else rank flips n lo mid
  else lo
termination_by hi - lo

/-- Membership: an odd number of changes lies at or below the character. -/
def contains (s : CharSet) (c : Char) : Bool :=
  rank s.flips c.toNat 0 s.flips.size % 2 == 1

end CharSet

end Specifiers
