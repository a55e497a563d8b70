/-!
# Tables in insertion order

A finite map kept as its list of entries, in the order in which the keys were first written. Writing
a key again changes its value and not its place.
-/

namespace Specifiers

/-- The entries of a finite map, in the order in which their keys were first written. -/
abbrev Table (α : Type) := List (String × α)

namespace Table

variable {α : Type}

/-- The value at a key. -/
def find? (t : Table α) (key : String) : Option α := t.lookup key

/-- The keys, in order. -/
def keys (t : Table α) : List String := t.map (·.1)

/-- Writes a value at a key: in place when the key is there, at the end when it is new. -/
def insert (key : String) (value : α) : Table α → Table α
  | [] => [(key, value)]
  | (k, v) :: rest => if k == key then (k, value) :: rest else (k, v) :: insert key value rest

/-- The table that writing the entries one after the other gives. -/
def ofEntries (entries : List (String × α)) : Table α :=
  entries.foldl (fun t e => t.insert e.1 e.2) []

end Table

end Specifiers
