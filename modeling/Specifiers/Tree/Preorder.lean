import Specifiers.Tree

/-!
# The nodes of a tree in document order

The children of a node are, in field order, the fields that are nodes and the items of list fields
that are nodes; lists inside lists and objects without a kind are not entered. `preorder` lists a
node, then the nodes below each of its children in turn, by recursion. `walk` gives the same list
with an explicit stack of nodes still to visit, so that depth costs no call stack.
-/

namespace Specifiers

namespace Tree

/-- The nodes that a field contributes: itself, or the items of a list. -/
def nodesOfField : Tree → List Tree
  | list items => items.filter isNode
  | t => if t.isNode then [t] else []

/-- The child nodes of a tree, in field order. -/
def children (t : Tree) : List Tree :=
  t.fields.flatMap fun f => f.2.nodesOfField

/-! ## Weight, and why the walk ends -/

mutual

/-- How many values a tree holds. -/
def weight : Tree → Nat
  | list items => 1 + weightItems items
  | object fs => 1 + weightFields fs
  | _ => 1

/-- How many values the items of a list hold together. -/
def weightItems : List Tree → Nat
  | [] => 0
  | t :: ts => weight t + weightItems ts

/-- How many values the fields of an object hold together. -/
def weightFields : List (String × Tree) → Nat
  | [] => 0
  | (_, t) :: fs => weight t + weightFields fs

end

/-- Lists weigh as much together as one after the other. -/
theorem weightItems_append (ts us : List Tree) :
    weightItems (ts ++ us) = weightItems ts + weightItems us := by
  induction ts with
  | nil => simp [weightItems]
  | cons t ts ih => simp [weightItems, ih, Nat.add_assoc]

/-- Leaving items out makes a list no heavier. -/
theorem weightItems_filter_le (p : Tree → Bool) (ts : List Tree) :
    weightItems (ts.filter p) ≤ weightItems ts := by
  induction ts with
  | nil => simp [weightItems]
  | cons t ts ih =>
    by_cases h : p t <;> simp [h, weightItems] <;> omega

/-- What a field contributes weighs no more than the field. -/
theorem weightItems_nodesOfField_le (t : Tree) : weightItems t.nodesOfField ≤ weight t := by
  cases t with
  | list items =>
    have := weightItems_filter_le isNode items
    simp only [nodesOfField, weight]
    omega
  | _ => simp only [nodesOfField]; split <;> simp [weightItems]

/-- What all fields contribute weighs no more than the fields. -/
theorem weightItems_flatMap_le (fs : List (String × Tree)) :
    weightItems (fs.flatMap fun f => f.2.nodesOfField) ≤ weightFields fs := by
  induction fs with
  | nil => simp [weightItems, weightFields]
  | cons f fs ih =>
    have := weightItems_nodesOfField_le f.2
    simp only [List.flatMap_cons, weightItems_append, weightFields]
    omega

/-- The children together weigh less than the tree. -/
theorem weightItems_children_lt (t : Tree) : weightItems t.children < weight t := by
  cases t with
  | object fs =>
    have := weightItems_flatMap_le fs
    simp only [children, fields, weight]
    omega
  | list items =>
    simp only [children, fields, List.flatMap_nil, weightItems, weight]
    omega
  | _ => simp [children, fields, weightItems, weight]

/-! ## The two walks -/

/-- Visits the nodes on the stack, pushing the children of each in front of the rest; `visited`
holds the nodes already passed. -/
def walkFrom (visited : Array Tree) (stack : List Tree) : Array Tree :=
  match stack with
  | [] => visited
  | t :: rest => walkFrom (visited.push t) (t.children ++ rest)
termination_by weightItems stack
decreasing_by
  have := weightItems_children_lt t
  simp only [weightItems_append, weightItems]
  omega

/-- The nodes of a tree in document order, by an explicit stack; none when the tree is no node. -/
def walk (t : Tree) : List Tree :=
  if t.isNode then (walkFrom #[] [t]).toList else []

mutual

/-- The nodes at and below a tree in document order, by recursion; none when it is no node. -/
def preorder : Tree → List Tree
  | object fs => if (object fs).isNode then object fs :: preorderFields fs else []
  | _ => []

/-- The nodes below the fields of an object. -/
def preorderFields : List (String × Tree) → List Tree
  | [] => []
  | (_, list items) :: fs => preorderItems items ++ preorderFields fs
  | (_, t) :: fs => preorder t ++ preorderFields fs

/-- The nodes at and below the items of a list. -/
def preorderItems : List Tree → List Tree
  | [] => []
  | t :: ts => preorder t ++ preorderItems ts

end

end Tree

end Specifiers
