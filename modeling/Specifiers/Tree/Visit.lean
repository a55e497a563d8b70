import Specifiers.Tree.Preorder

/-!
# Visiting the nodes of a tree

A visit presents the nodes of a tree in document order. When import calls are adapted, a call whose
callee is an `Import` is presented as an `ImportExpression` with its sole argument, or null, as its
source; the call's own children are passed all the same.
-/

namespace Specifiers

namespace Tree

/-- The sole item of a value, where a list is expected; none when there is not exactly one. -/
def sole (t : Tree) : Except Shapeless (Option Tree) := do
  if (← t.length) != 1 then return none
  return some (← t.first)

/-- Is the node a call of `import`? -/
def isImportCall (node : Tree) : Bool :=
  node.isKind "CallExpression" && (node.field "callee").isKind "Import"

/-- A call of `import` as an expression of its own. -/
def importExpression (call : Tree) : Except Shapeless Tree := do
  let source ← (call.field "arguments").sole
  return node "ImportExpression" [("source", source.getD null)]

/-- How a node is presented. -/
def presented (adapt : Bool) (node : Tree) : Except Shapeless Tree :=
  if adapt && node.isImportCall then node.importExpression else .ok node

/-- Folds over the nodes of a tree as they are presented, in document order. -/
def foldPresented {α : Type} (adapt : Bool) (f : α → Tree → Except Shapeless α) (init : α)
    (tree : Tree) : Except Shapeless α :=
  tree.walk.foldlM (fun a node => do f a (← presented adapt node)) init

/-- The presented nodes of the given kinds, each with its kind. -/
def visit (kinds : List String) (adapt : Bool) (tree : Tree) : Except Shapeless (List (String × Tree)) :=
  return (← foldPresented adapt (fun seen node =>
    match node.kind? with
    | some kind => return if kinds.contains kind then (kind, node) :: seen else seen
    | none => return seen) [] tree).reverse

end Tree

end Specifiers
