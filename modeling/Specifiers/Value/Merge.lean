import Specifiers.Value

/-!
# Merging tables

Merging lays one table over another. A value of the upper table replaces that of the lower one, except
that two tables are merged in turn.
-/

namespace Specifiers

namespace Value

mutual

/-- Lays the entries of a table over a table. -/
def merge (base : Table Value) : List (String × Value) → Table Value
  | [] => base
  | (key, value) :: rest => merge (base.insert key (laidOver (base.find? key) value)) rest

/-- The value that is there when a value is laid over what was there. -/
def laidOver (old : Option Value) : Value → Value
  | table entries =>
    match old with
    | some (table base) => table (merge base entries)
    | _ => table entries
  | value => value

end

end Value

end Specifiers
