import Specifiers.Tree

/-!
# The nodes of syntax trees

One function for each kind of node, with the fields in the order in which a tree lists them. Literals
keep their value when it is a string. The last section turns expressions that prove to be the targets
of an assignment or the parameters of an arrow function into patterns.
-/

namespace Specifiers

namespace Grammar

namespace Node

open Specifiers.Tree (node text list null bool)

/-! ## Names and literals -/

def identifier (name : String) : Tree := node "Identifier" [("name", text name)]

def literal (value : Tree) : Tree := node "Literal" [("value", value)]

def regex (pattern flags : String) : Tree :=
  node "Literal" [("value", null),
    ("regex", .object [("pattern", text pattern), ("flags", text flags)])]

def templateElement (raw : String) (tail : Bool) : Tree :=
  node "TemplateElement" [("value", .object [("raw", text raw)]), ("tail", bool tail)]

def templateLiteral (quasis expressions : List Tree) : Tree :=
  node "TemplateLiteral" [("quasis", list quasis), ("expressions", list expressions)]

/-! ## Expressions -/

def thisExpression : Tree := node "ThisExpression" []

def super : Tree := node "Super" []

def import' : Tree := node "Import" []

def metaProperty (owner property : Tree) : Tree :=
  node "MetaProperty" [("meta", owner), ("property", property)]

def array (elements : List Tree) : Tree := node "ArrayExpression" [("elements", list elements)]

def object (properties : List Tree) : Tree :=
  node "ObjectExpression" [("properties", list properties)]

def property (kind : String) (key : Tree) (computed : Bool) (value : Tree) (method shorthand : Bool) :
    Tree :=
  node "Property" [("key", key), ("computed", bool computed), ("value", value), ("kind", text kind),
    ("method", bool method), ("shorthand", bool shorthand)]

def spread (argument : Tree) : Tree := node "SpreadElement" [("argument", argument)]

def member (computed : Bool) (target property : Tree) : Tree :=
  node "MemberExpression" [("computed", bool computed), ("object", target), ("property", property)]

def call (callee : Tree) (arguments : List Tree) : Tree :=
  node "CallExpression" [("callee", callee), ("arguments", list arguments)]

def construct (callee : Tree) (arguments : List Tree) : Tree :=
  node "NewExpression" [("callee", callee), ("arguments", list arguments)]

def tagged (tag quasi : Tree) : Tree :=
  node "TaggedTemplateExpression" [("tag", tag), ("quasi", quasi)]

def update (operator : String) (argument : Tree) (before : Bool) : Tree :=
  node "UpdateExpression" [("operator", text operator), ("argument", argument), ("prefix", bool before)]

def unary (operator : String) (argument : Tree) : Tree :=
  node "UnaryExpression" [("operator", text operator), ("argument", argument), ("prefix", bool true)]

def awaiting (argument : Tree) : Tree := node "AwaitExpression" [("argument", argument)]

def yielding (argument : Tree) (delegate : Bool) : Tree :=
  node "YieldExpression" [("argument", argument), ("delegate", bool delegate)]

def binary (operator : String) (left right : Tree) : Tree :=
  node (if operator == "||" || operator == "&&" then "LogicalExpression" else "BinaryExpression")
    [("operator", text operator), ("left", left), ("right", right)]

def conditional (test consequent alternate : Tree) : Tree :=
  node "ConditionalExpression" [("test", test), ("consequent", consequent), ("alternate", alternate)]

def assignment (operator : String) (left right : Tree) : Tree :=
  node "AssignmentExpression" [("operator", text operator), ("left", left), ("right", right)]

def sequence (expressions : List Tree) : Tree :=
  node "SequenceExpression" [("expressions", list expressions)]

/-- What stands for the parameters of an arrow function until the arrow is read. -/
def arrowParameters (params : List Tree) (isAsync : Bool) : Tree :=
  node "ArrowParameterPlaceHolder" [("params", list params), ("async", bool isAsync)]

def arrow (params : List Tree) (body : Tree) (isAsync : Bool) : Tree :=
  node "ArrowFunctionExpression" [("id", null), ("params", list params), ("body", body),
    ("generator", bool false), ("expression", bool !(body.isKind "BlockStatement")),
    ("async", bool isAsync)]

/-- A function, as an expression or as a declaration. -/
def function (kind : String) (id : Tree) (params : List Tree) (body : Tree)
    (isGenerator isAsync : Bool) : Tree :=
  node kind [("id", id), ("params", list params), ("body", body), ("generator", bool isGenerator),
    ("expression", bool false), ("async", bool isAsync)]

/-! ## Classes -/

/-- A class, as an expression or as a declaration. -/
def class' (kind : String) (id superClass : Tree) (elements : List Tree) : Tree :=
  node kind [("id", id), ("superClass", superClass),
    ("body", node "ClassBody" [("body", list elements)])]

def method (key : Tree) (computed : Bool) (value : Tree) (kind : String) (isStatic : Bool) : Tree :=
  node "MethodDefinition" [("key", key), ("computed", bool computed), ("value", value),
    ("kind", text kind), ("static", bool isStatic)]

/-! ## Patterns -/

def arrayPattern (elements : List Tree) : Tree := node "ArrayPattern" [("elements", list elements)]

def objectPattern (properties : List Tree) : Tree :=
  node "ObjectPattern" [("properties", list properties)]

def assignmentPattern (left right : Tree) : Tree :=
  node "AssignmentPattern" [("left", left), ("right", right)]

def rest (argument : Tree) : Tree := node "RestElement" [("argument", argument)]

/-! ## Statements -/

def block (body : List Tree) : Tree := node "BlockStatement" [("body", list body)]

def empty : Tree := node "EmptyStatement" []

def debugger : Tree := node "DebuggerStatement" []

def expressionStatement (expression : Tree) : Tree :=
  node "ExpressionStatement" [("expression", expression)]

def directive (expression : Tree) (words : String) : Tree :=
  node "ExpressionStatement" [("expression", expression), ("directive", text words)]

def ifStatement (test consequent alternate : Tree) : Tree :=
  node "IfStatement" [("test", test), ("consequent", consequent), ("alternate", alternate)]

def doWhile (body test : Tree) : Tree := node "DoWhileStatement" [("body", body), ("test", test)]

def while' (test body : Tree) : Tree := node "WhileStatement" [("test", test), ("body", body)]

def forStatement (init test update body : Tree) : Tree :=
  node "ForStatement" [("init", init), ("test", test), ("update", update), ("body", body)]

def forIn (left right body : Tree) : Tree :=
  node "ForInStatement" [("left", left), ("right", right), ("body", body), ("each", bool false)]

def forOf (left right body : Tree) : Tree :=
  node "ForOfStatement" [("left", left), ("right", right), ("body", body)]

def continue' (label : Tree) : Tree := node "ContinueStatement" [("label", label)]

def break' (label : Tree) : Tree := node "BreakStatement" [("label", label)]

def return' (argument : Tree) : Tree := node "ReturnStatement" [("argument", argument)]

def throw' (argument : Tree) : Tree := node "ThrowStatement" [("argument", argument)]

def with' (target body : Tree) : Tree := node "WithStatement" [("object", target), ("body", body)]

def switchCase (test : Tree) (consequent : List Tree) : Tree :=
  node "SwitchCase" [("test", test), ("consequent", list consequent)]

def switch (discriminant : Tree) (cases : List Tree) : Tree :=
  node "SwitchStatement" [("discriminant", discriminant), ("cases", list cases)]

def labeled (label body : Tree) : Tree :=
  node "LabeledStatement" [("label", label), ("body", body)]

def try' (block handler finalizer : Tree) : Tree :=
  node "TryStatement" [("block", block), ("handler", handler), ("finalizer", finalizer)]

def catchClause (param body : Tree) : Tree := node "CatchClause" [("param", param), ("body", body)]

def declarator (id init : Tree) : Tree := node "VariableDeclarator" [("id", id), ("init", init)]

def declaration (kind : String) (declarations : List Tree) : Tree :=
  node "VariableDeclaration" [("declarations", list declarations), ("kind", text kind)]

/-! ## Programs and modules -/

def program (sourceType : String) (body : List Tree) : Tree :=
  node "Program" [("sourceType", text sourceType), ("body", list body)]

def importDeclaration (specifiers : List Tree) (source : Tree) : Tree :=
  node "ImportDeclaration" [("specifiers", list specifiers), ("source", source)]

def importSpecifier (binding imported : Tree) : Tree :=
  node "ImportSpecifier" [("local", binding), ("imported", imported)]

def importDefault (binding : Tree) : Tree := node "ImportDefaultSpecifier" [("local", binding)]

def importNamespace (binding : Tree) : Tree := node "ImportNamespaceSpecifier" [("local", binding)]

def exportNamed (declaration : Tree) (specifiers : List Tree) (source : Tree) : Tree :=
  node "ExportNamedDeclaration" [("declaration", declaration), ("specifiers", list specifiers),
    ("source", source)]

def exportAll (source : Tree) : Tree := node "ExportAllDeclaration" [("source", source)]

def exportDefault (declaration : Tree) : Tree :=
  node "ExportDefaultDeclaration" [("declaration", declaration)]

def exportSpecifier (exported binding : Tree) : Tree :=
  node "ExportSpecifier" [("exported", exported), ("local", binding)]

def exportDefaultSpecifier (binding : Tree) : Tree :=
  node "ExportDefaultSpecifier" [("local", binding)]

/-! ## Reading nodes -/

/-- The name of an identifier. -/
def name? (t : Tree) : Option String :=
  if t.isKind "Identifier" then (t.field "name").text? else none

/-- Is the node a key of this name? -/
def isKey (key : Tree) (name : String) : Bool :=
  name? key == some name || (key.isKind "Literal" && (key.field "value").text? == some name)

/-! ## Expressions as patterns -/

/-- The kind of pattern that a kind of expression turns into. -/
def patternKind (kind : String) : String :=
  match kind with
  | "SpreadElement" => "RestElement"
  | "ArrayExpression" => "ArrayPattern"
  | "ObjectExpression" => "ObjectPattern"
  | "AssignmentExpression" => "AssignmentPattern"
  | _ => kind

/-- Does a field of an expression of this kind hold parts of the pattern? -/
def isPatternPart (kind name : String) : Bool :=
  match kind, name with
  | "SpreadElement", "argument" => true
  | "ArrayExpression", "elements" => true
  | "ObjectExpression", "properties" => true
  | "Property", "value" => true
  | "AssignmentExpression", "left" => true
  | _, _ => false

mutual

/-- Turns an expression into the pattern that it spells. -/
def asPattern : Tree → Tree
  | .object fs => .object (patternFields (((Tree.object fs).kind?).getD "") fs)
  | .list items => .list (patternItems items)
  | t => t

/-- Turns the fields of an expression into those of the pattern. -/
def patternFields (kind : String) : List (String × Tree) → List (String × Tree)
  | [] => []
  | (name, t) :: fs =>
    let rest := patternFields kind fs
    if name == "type" then (name, text (patternKind kind)) :: rest
    else if kind == "AssignmentExpression" && name == "operator" then rest
    else if isPatternPart kind name then (name, asPattern t) :: rest
    else (name, t) :: rest

/-- Turns expressions into patterns. -/
def patternItems : List Tree → List Tree
  | [] => []
  | t :: ts => asPattern t :: patternItems ts

end

/-- Does a field of a pattern of this kind hold names that the pattern binds? -/
def isBindingPart (kind name : String) : Bool :=
  match kind, name with
  | "RestElement", "argument" => true
  | "AssignmentPattern", "left" => true
  | "ArrayPattern", "elements" => true
  | "ObjectPattern", "properties" => true
  | "Property", "value" => true
  | _, _ => false

mutual

/-- The names that a pattern binds, in order. -/
def boundNames : Tree → List String
  | .object fs =>
    match name? (.object fs) with
    | some name => [name]
    | none => fieldNames (((Tree.object fs).kind?).getD "") fs
  | .list items => itemNames items
  | _ => []

/-- The names that the fields of a pattern bind. -/
def fieldNames (kind : String) : List (String × Tree) → List String
  | [] => []
  | (name, t) :: fs =>
    if isBindingPart kind name then boundNames t ++ fieldNames kind fs else fieldNames kind fs

/-- The names that patterns bind. -/
def itemNames : List Tree → List String
  | [] => []
  | t :: ts => boundNames t ++ itemNames ts

end

end Node

end Grammar

end Specifiers
