import Specifiers.Grammar.Node
import Specifiers.Grammar.Parse

/-!
# Names, patterns and parameters

The parts of a program that nest in each other are its *goals*. Every production below takes a parser
for goals, by which it reads what may nest, and is otherwise written out of the productions before it;
`Program` closes the circle. So how deeply a program nests is counted at one place, where a goal is
read.
-/

namespace Specifiers

namespace Grammar

/-- What introduces the names that a pattern binds. -/
inductive Binder
  | var
  | lexical
  | const
  | parameter
  deriving DecidableEq, Repr

/-- The parts of a program that can nest in each other. -/
inductive Goal
  /-- An expression without commas. -/
  | assignment
  /-- The operand of an operator that stands before it. -/
  | unary
  /-- The right operand of `**`. -/
  | exponentiation
  /-- What `new` is applied to. -/
  | constructed
  /-- What a class extends. -/
  | heritage
  | statement
  /-- A statement or a declaration. -/
  | listItem
  | pattern (binder : Binder)
  deriving DecidableEq, Repr

/-- A parser for the parts that nest. -/
abbrev Nested := Goal → Parse Tree

section

variable (nested : Nested)

/-! ## Expressions with commas -/

/-- The expressions after the commas that come next. -/
def commaSeparated (first : Tree) : Parse (List Tree) := do
  let others ← collect do
    if ← accept "," then return some (← isolate (nested .assignment)) else return none
  return first :: others

/-- An expression. -/
def expression : Parse Tree := do
  let first ← isolate (nested .assignment)
  if ← atMark "," then return Node.sequence (← commaSeparated nested first)
  return first

/-! ## Names -/

/-- A name, reserved or not. -/
def anyName : Parse Tree := do
  let t ← take
  unless t.lexeme.isName do unexpected t
  return Node.identifier t.lexeme.text

/-- The name of a variable. -/
def variableName (binder : Binder) : Parse Tree := do
  let t ← take
  let c ← context
  match t.lexeme with
  | .keyword word =>
    if word == "yield" then
      if c.strict then rejectToken t .strictReservedWord
      unless c.allowYield do unexpected t
    else if c.strict && strictReservedWords.contains word then rejectToken t .strictReservedWord
    else if c.strict || word != "let" || binder != .var then unexpected t
  | .identifier name =>
    if (c.isModule || c.await) && name == "await" then unexpected t
  | lexeme => if c.strict || lexeme.text != "let" || binder != .var then unexpected t
  return Node.identifier t.lexeme.text

/-! ## Patterns -/

/-- A pattern with the value that it takes by default. -/
def patternWithDefault (binder : Binder) : Parse Tree := do
  let target ← nested (.pattern binder)
  if ← accept "=" then
    let value ← allowingYield true (isolate (nested .assignment))
    return Node.assignmentPattern target value
  return target

/-- The key of a property: a name, a string, a number or an expression in brackets. -/
def propertyKey : Parse Tree := do
  let t ← take
  match t.lexeme with
  | .string value _ octal =>
    if octal && (← context).strict then rejectToken t .strictOctal
    return Node.literal (.text value)
  | .number _ octal =>
    if octal && (← context).strict then rejectToken t .strictOctal
    return Node.literal .null
  | .punctuator "[" =>
    let key ← isolate (nested .assignment)
    expect "]"
    return key
  | lexeme =>
    unless lexeme.isName do unexpected t
    return Node.identifier lexeme.text

/-- Notes a token as that of a bound name. -/
def bind (t : Token) : Parse Unit :=
  modify fun s => { s with bound := t :: s.bound }

/-- A property of an object pattern. -/
def propertyPattern (binder : Binder) : Parse Tree := do
  let t := (← get).lookahead
  match t.lexeme with
  | .identifier name =>
    let key ← variableName .parameter
    let plain := Node.identifier name
    if ← atMark "=" then
      bind t
      discard take
      let value ← nested .assignment
      return Node.property "init" key false (Node.assignmentPattern plain value) false true
    if ← accept ":" then
      return Node.property "init" key false (← patternWithDefault nested binder) false false
    bind t
    return Node.property "init" key false plain false true
  | _ =>
    let computed ← atMark "["
    let key ← propertyKey nested
    expect ":"
    return Node.property "init" key computed (← patternWithDefault nested binder) false false

/-- The rest of the properties in an object pattern. -/
def restProperty : Parse Tree := do
  expect "..."
  let target ← nested (.pattern .parameter)
  if ← atMark "=" then rejectBefore (.token "=")
  unless ← atMark "\x7d" do rejectBefore .misplaced
  return Node.rest target

/-- An object pattern. -/
def objectPattern (binder : Binder) : Parse Tree := do
  expect "\x7b"
  let properties ← collect do
    if ← atMark "\x7d" then return none
    let property ← if ← atMark "..." then restProperty nested else propertyPattern nested binder
    unless ← atMark "\x7d" do expect ","
    return some property
  expect "\x7d"
  return Node.objectPattern properties

/-- An array pattern. -/
def arrayPattern (binder : Binder) : Parse Tree := do
  expect "["
  let (elements, _) ← repeated (fun (elements, ended) => do
    if ended || (← atMark "]") then return none
    if ← accept "," then return some (.null :: elements, false)
    if ← accept "..." then
      return some (Node.rest (← nested (.pattern binder)) :: elements, true)
    let element ← patternWithDefault nested binder
    unless ← atMark "]" do expect ","
    return some (element :: elements, false)) ([], false)
  expect "]"
  return Node.arrayPattern elements.reverse

/-- A pattern, which can be a single name. -/
def pattern (binder : Binder) : Parse Tree := do
  if ← atMark "[" then arrayPattern nested binder
  else if ← atMark "\x7b" then objectPattern nested binder
  else
    let t := (← get).lookahead
    if t.lexeme == .keyword "let" && (binder == .const || binder == .lexical) then
      rejectToken t .lexicalLet
    bind t
    variableName binder

/-! ## Parameters -/

/-- What a complaint about a parameter blames. -/
inductive Blame
  | token (t : Token)
  | lastEnd
  deriving Repr, Inhabited

/-- Rejects the text for a parameter. -/
def Blame.reject {α : Type} (b : Blame) (complaint : Complaint) : Parse α :=
  match b with
  | token t => rejectToken t complaint
  | lastEnd => rejectBefore complaint

/-- The parameters of a function: whether each is a single name, the names bound so far, what strict
code has against one of them though it is no strict code yet, and what it has against them in strict
code. -/
structure Parameters where
  nodes : List Tree := []
  simple : Bool := true
  names : List String := []
  firstRestricted : Option Blame := none
  stricted : Option Blame := none
  complaint : Option Complaint := none

/-- Notes a name that a parameter binds. -/
def Parameters.add (ps : Parameters) (strict : Bool) (blame : Blame) (name : String) : Parameters :=
  let known := ps.names.contains name
  let ps' := { ps with names := name :: ps.names }
  if strict then
    if known then { ps' with stricted := some blame, complaint := some .strictDuplicateParameter }
    else if restrictedNames.contains name then
      { ps' with stricted := some blame, complaint := some .strictParameterName }
    else ps'
  else if ps.firstRestricted.isSome then ps'
  else if restrictedNames.contains name then
    { ps' with firstRestricted := some blame, complaint := some .strictParameterName }
  else if strictReservedWords.contains name then
    { ps' with firstRestricted := some blame, complaint := some .strictReservedWord }
  else if known then { ps' with stricted := some blame, complaint := some .strictDuplicateParameter }
  else ps'

/-- Rejects parameters that strict code cannot have, once it is known to be strict. -/
def Parameters.check (ps : Parameters) : Parse Unit := do
  if (← context).strict then
    if let some blame := ps.firstRestricted then blame.reject (ps.complaint.getD .misplaced)
    if let some blame := ps.stricted then blame.reject (ps.complaint.getD .misplaced)

/-- A parameter that takes all arguments left. -/
def restParameter : Parse Tree := do
  expect "..."
  let target ← nested (.pattern .parameter)
  if ← atMark "=" then rejectBefore (.token "=")
  unless ← atMark ")" do rejectBefore .parameterAfterRest
  return Node.rest target

/-- One parameter. -/
def parameter (ps : Parameters) : Parse Parameters := do
  let (param, tokens) ← bindings do
    if ← atMark "..." then restParameter nested else patternWithDefault nested .parameter
  let strict := (← context).strict
  let ps := tokens.foldl (fun ps t => ps.add strict (.token t) t.lexeme.text) ps
  return { ps with
    nodes := ps.nodes ++ [param]
    simple := ps.simple && param.isKind "Identifier" }

/-- The parameters of a function in parentheses. -/
def parameters (ps : Parameters) : Parse Parameters := do
  expect "("
  let (ps, _) ← repeated (fun (ps, ended) => do
    if ended || (← atMark ")") || (← atEnd) then return none
    let ps ← parameter nested ps
    if ← atMark ")" then return some (ps, true)
    expect ","
    return some (ps, false)) (ps, false)
  expect ")"
  return ps

end

end Grammar

end Specifiers
