import Specifiers.Listing
import Specifiers.Tree.Visit

/-!
# References to modules

Which nodes refer to a module, and by which specifier. Imports and exports make a text a module, and
refer to their source when it is a string. A call of `require`, `require.resolve` or `import` with one
argument refers to it when it is a string or a template without substitutions; of these, only an
`import` that is presented as an expression of its own makes the text a module.
-/

namespace Specifiers

open Specifiers.Tree (Shapeless)

namespace Reference

/-- The value of a string literal. -/
def stringLiteral? (t : Tree) : Option String :=
  if t.isKind "Literal" then (t.field "value").text? else none

/-- The raw text of a template without substitutions. -/
def staticTemplate? (t : Tree) : Except Shapeless (Option String) := do
  unless t.isKind "TemplateLiteral" do return none
  let quasis := t.field "quasis"
  if (← quasis.length) != 1 || (t.field "expressions").holds then return none
  let quasi ← quasis.first
  return ((quasi.field "value").field "raw").text?

/-- Is the node `name`? -/
def isIdentifier (t : Tree) (name : String) : Bool :=
  t.isKind "Identifier" && (t.field "name").text? == some name

/-- Is the callee one that takes a specifier: `require`, `require.resolve` or `import`? -/
def isRequire (callee : Tree) : Bool :=
  isIdentifier callee "require" || callee.isKind "Import" ||
    (callee.isKind "MemberExpression" && !(callee.field "computed").holds &&
      isIdentifier (callee.field "object") "require" &&
      isIdentifier (callee.field "property") "resolve")

/-- The kinds of node that make a text a module. -/
def moduleKinds : List String :=
  ["ImportDeclaration", "ImportExpression", "ExportNamedDeclaration", "ExportAllDeclaration"]

/-- Does the node make its text a module? -/
def marksModule (node : Tree) : Bool := moduleKinds.any node.isKind

/-- The specifier of a call. -/
def ofCall (node : Tree) : Except Shapeless (Option String) := do
  unless isRequire (node.field "callee") do return none
  match ← (node.field "arguments").sole with
  | none => return none
  | some argument =>
    match stringLiteral? argument with
    | some specifier => return some specifier
    | none => staticTemplate? argument

/-- The specifier by which a node refers to a module. -/
def specifier? (node : Tree) : Except Shapeless (Option String) :=
  if marksModule node then .ok (stringLiteral? (node.field "source"))
  else if node.isKind "CallExpression" then ofCall node
  else .ok none

/-- What a node adds to a listing; the specifiers are kept last first. -/
def add (l : Listing) (node : Tree) : Except Shapeless Listing := do
  let specifier ← specifier? node
  return ⟨specifier.toList ++ l.specifiers, l.isModule || marksModule node⟩

end Reference

/-- The listing of a tree. `seed` says whether the text is known to be a module, and `adapt` whether a
call of `import` is presented as an expression of its own. -/
def references (seed adapt : Bool) (tree : Tree) : Except Shapeless Listing := do
  let l ← tree.foldPresented adapt Reference.add ⟨[], seed⟩
  return { l with specifiers := l.specifiers.reverse }

end Specifiers
