import Specifiers.Grammar.Binding

/-!
# Functions and methods

Function bodies with their directives, functions as expressions and as declarations, and the methods
that objects and classes share. A directive can make the code around it strict, which is known only
after the parameters are read; so `Parameters.check` follows the body.
-/

namespace Specifiers

namespace Grammar

section

variable (nested : Nested)

/-! ## Directives and bodies -/

/-- A statement that starts with a string: a directive when it consists of a literal. The words of the
directive come with it, unless there are none. -/
def directive (raw : String) : Parse (Tree × Option String) := do
  let e ← expression nested
  endStatement
  if e.isKind "Literal" && raw != "" then return (Node.directive e raw, some raw)
  return (Node.expressionStatement e, none)

/-- The directives at the start of a body. Strict code must not have an octal escape in a directive
before the one that makes it strict. -/
def directives : Parse (List Tree) := do
  let (statements, _, _) ← repeated (fun (statements, octal, ended) => do
    let t := (← get).lookahead
    match t.lexeme with
    | .string _ raw isOctal =>
      if ended then return none
      let (statement, words) ← directive nested raw
      let statements := statement :: statements
      match words with
      | none => return some (statements, octal, true)
      | some words =>
        if words != "use strict" then
          return some (statements, octal <|> (if isOctal then some t else none), false)
        setContext ({ · with strict := true })
        if let some first := octal then rejectToken first .strictOctal
        unless (← context).allowStrictDirective do rejectToken t .illegalStrictDirective
        return some (statements, octal, false)
    | _ => return none) (([] : List Tree), (none : Option Token), false)
  return statements.reverse

/-- The statements and declarations up to a closing brace or the end of the text. -/
def listItems : Parse (List Tree) :=
  collect do
    if (← atEnd) || (← atMark "\x7d") then return none
    return some (← nested .listItem)

/-- The body of a function in braces. Labels and loops around the function are not seen inside. -/
def functionBody : Parse Tree := do
  expect "\x7b"
  let first ← directives nested
  let outer ← context
  setContext ({ · with labels := [], inIteration := false, inSwitch := false, inFunctionBody := true })
  let rest ← listItems nested
  expect "\x7d"
  setContext ({ · with
    labels := outer.labels, inIteration := outer.inIteration, inSwitch := outer.inSwitch
    inFunctionBody := outer.inFunctionBody })
  return Node.block (first ++ rest)

/-- Reads a body whose code can turn out to be strict, with the complaints about the parameters that
this brings. -/
def strictable {α : Type} (ps : Parameters) (body : Parse α) : Parse α := do
  let outer ← context
  setContext ({ · with allowStrictDirective := ps.simple })
  let a ← body
  ps.check
  setContext ({ · with
    strict := outer.strict, allowStrictDirective := outer.allowStrictDirective })
  return a

/-! ## Functions -/

/-- The parameters and the body of a function. -/
def functionRest (ps : Parameters) : Parse (List Tree × Tree) := do
  let ps ← parameters nested ps
  let body ← strictable ps (functionBody nested)
  return (ps.nodes, body)

/-- What strict code has against the name of a function. In strict code it is held against it at
once. -/
def checkFunctionName (t : Token) : Parse Parameters := do
  let name := t.lexeme.text
  let restricted := restrictedNames.contains name
  if (← context).strict then
    if restricted then rejectToken t .strictFunctionName
    return {}
  if restricted then
    return { firstRestricted := some (.token t), complaint := some .strictFunctionName }
  if strictReservedWords.contains name then
    return { firstRestricted := some (.token t), complaint := some .strictReservedWord }
  return {}

/-- The words that start a function: whether it is asynchronous, and whether it is a generator. -/
def functionHead : Parse (Bool × Bool) := do
  let isAsync ← atName "async"
  if isAsync then discard take
  expectKeyword "function"
  let isGenerator ← if isAsync then pure false else accept "*"
  return (isAsync, isGenerator)

/-- Reads a part of a function of this nature. -/
def inFunction {α : Type} (isAsync isGenerator : Bool) (p : Parse α) : Parse α := do
  let outer ← context
  setContext ({ · with await := isAsync, allowYield := !isGenerator })
  let a ← p
  setContext ({ · with await := outer.await, allowYield := outer.allowYield })
  return a

/-- A function as a declaration. -/
def functionDeclaration (nameIsOptional : Bool) : Parse Tree := do
  let (isAsync, isGenerator) ← functionHead
  let mut id := Tree.null
  let mut ps : Parameters := {}
  unless nameIsOptional && (← atMark "(") do
    let t := (← get).lookahead
    id ← variableName .parameter
    ps ← checkFunctionName t
  let (params, body) ← inFunction isAsync isGenerator (functionRest nested ps)
  return Node.function "FunctionDeclaration" id params body isGenerator isAsync

/-- A function as an expression. -/
def functionExpression : Parse Tree := do
  let (isAsync, isGenerator) ← functionHead
  inFunction isAsync isGenerator do
    let mut id := Tree.null
    let mut ps : Parameters := {}
    unless ← atMark "(" do
      let t := (← get).lookahead
      let plain := !(← context).strict && !isGenerator && t.lexeme == .keyword "yield"
      id ← if plain then anyName else variableName .parameter
      ps ← checkFunctionName t
    let (params, body) ← functionRest nested ps
    return Node.function "FunctionExpression" id params body isGenerator isAsync

/-! ## Methods -/

/-- The body of a method. -/
def methodBody (ps : Parameters) : Parse Tree := do
  settle
  strictable ps (isolate (functionBody nested))

/-- The function of a method, given its parameters and body. -/
def methodFunction (ps : Parameters) (body : Tree) (isGenerator isAsync : Bool := false) : Tree :=
  Node.function "FunctionExpression" .null ps.nodes body isGenerator isAsync

/-- A method. -/
def plainMethod : Parse Tree :=
  allowingYield true do
    let ps ← parameters nested {}
    return methodFunction ps (← methodBody nested ps)

/-- An asynchronous method. -/
def asyncMethod : Parse Tree :=
  inFunction true true do
    let ps ← parameters nested {}
    return methodFunction ps (← methodBody nested ps) false true

/-- A method that is a generator. -/
def generatorMethod : Parse Tree :=
  allowingYield true do
    let ps ← parameters nested {}
    setContext ({ · with allowYield := false })
    return methodFunction ps (← methodBody nested ps) true false

/-- A method that gives the value of a property. -/
def getter : Parse Tree := do
  setContext ({ · with allowYield := false })
  allowingYield true do
    let ps ← parameters nested {}
    unless ps.nodes.isEmpty do rejectHere .getterArity
    return methodFunction ps (← methodBody nested ps)

/-- A method that takes the value of a property. -/
def setter : Parse Tree :=
  allowingYield true do
    let ps ← parameters nested {}
    match ps.nodes with
    | [param] => if param.isKind "RestElement" then rejectHere .setterRest
    | _ => rejectHere .setterArity
    return methodFunction ps (← methodBody nested ps)

/-! ## Classes -/

/-- The key of a class element and what stands before it. The token is the one by which the element's
nature is told: the first, or the one after `static` or `async`. -/
structure ElementHead where
  token : Token
  key : Option Tree := none
  computed : Bool := false
  isStatic : Bool := false
  isAsync : Bool := false

/-- The key of a class element, and what stands before it. -/
def elementHead : Parse ElementHead := do
  let t := (← get).lookahead
  if ← accept "*" then return { token := t }
  let computed ← atMark "["
  let key ← propertyKey nested
  let mut head : ElementHead := { token := t, key := some key, computed }
  let marked := (← ahead (·.isPropertyKey)) || (← atMark "*")
  if Node.name? key == some "static" && marked then
    head := { head with token := (← get).lookahead, isStatic := true, computed := ← atMark "[" }
    unless ← accept "*" do
      head := { head with key := some (← propertyKey nested) }
  let s ← get
  if head.token.lexeme == .identifier "async" && !s.onNewLine then
    unless [":", "(", "*"].contains s.lookahead.lexeme.text do
      let key ← propertyKey nested
      head := { head with token := s.lookahead, key := some key, isAsync := true }
      if s.lookahead.lexeme == .identifier "constructor" then
        rejectToken s.lookahead .asyncConstructor
  return head

/-- The function of a class element: whether it is a method of its own, a getter or a setter. -/
structure ElementBody where
  kind : String
  key : Option Tree
  computed : Bool
  value : Tree
  isGenerator : Bool := false

/-- The function of a class element whose head is read. -/
def elementBody (head : ElementHead) : Parse (Option ElementBody) := do
  let keyed ← ahead (·.isPropertyKey)
  match head.token.lexeme with
  | .identifier "get" =>
    if keyed then
      let computed ← atMark "["
      let key ← propertyKey nested
      return some ⟨"get", some key, computed, ← getter nested, false⟩
  | .identifier "set" =>
    if keyed then
      let computed ← atMark "["
      let key ← propertyKey nested
      return some ⟨"set", some key, computed, ← setter nested, false⟩
  | .punctuator "*" =>
    if keyed then
      let computed ← atMark "["
      let key ← propertyKey nested
      return some ⟨"method", some key, computed, ← generatorMethod nested, true⟩
  | _ => pure ()
  if head.key.isSome && (← atMark "(") then
    let value ← if head.isAsync then asyncMethod nested else plainMethod nested
    return some ⟨"method", head.key, head.computed, value, false⟩
  return none

/-- An element of a class; `hasConstructor` says whether there is a constructor before it. The second
part of the result says whether there is one now. -/
def classElement (hasConstructor : Bool) : Parse (Tree × Bool) := do
  let head ← elementHead nested
  let some body ← elementBody nested head | unexpectedNext
  let key := body.key.getD .null
  if !body.computed then
    if head.isStatic && Node.isKey key "prototype" then rejectToken head.token .staticPrototype
    if !head.isStatic && Node.isKey key "constructor" then
      if body.kind != "method" || body.isGenerator then
        rejectToken head.token .specialConstructor
      if hasConstructor then rejectToken head.token .duplicateConstructor
      return (Node.method key false body.value "constructor" false, true)
  return (Node.method key body.computed body.value body.kind head.isStatic, hasConstructor)

/-- The elements of a class in braces. -/
def classBody : Parse (List Tree) := do
  expect "\x7b"
  let (elements, _) ← repeated (fun (elements, hasConstructor) => do
    if ← atMark "\x7d" then return none
    if ← accept ";" then return some (elements, hasConstructor)
    let (element, hasConstructor) ← classElement nested hasConstructor
    return some (element :: elements, hasConstructor)) (([] : List Tree), false)
  expect "\x7d"
  return elements.reverse

/-- A class, which is strict code. A name is needed when `needsName` says so of the token after
`class`. -/
def classOf (kind : String) (needsName : Lexeme → Bool) : Parse Tree := do
  let outer := (← context).strict
  setContext ({ · with strict := true })
  expectKeyword "class"
  let id ← if ← ahead needsName then variableName .parameter else pure .null
  let superClass ← if ← atKeyword "extends" then do
      discard take
      isolate (nested .heritage)
    else pure .null
  let elements ← classBody nested
  setContext ({ · with strict := outer })
  return Node.class' kind id superClass elements

/-- A class as an expression. -/
def classExpression : Parse Tree := classOf nested "ClassExpression" (·.isIdentifier)

/-- A class as a declaration. -/
def classDeclaration (nameIsOptional : Bool) : Parse Tree :=
  classOf nested "ClassDeclaration" fun lexeme => !nameIsOptional || lexeme.isIdentifier

end

end Grammar

end Specifiers
