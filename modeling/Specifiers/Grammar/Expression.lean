import Specifiers.Grammar.Primary

/-!
# Expressions

From calls and members up to assignments: each level is written out of the one below it, and binary
operators are joined by precedence on a stack.
-/

namespace Specifiers

namespace Grammar

section

variable (nested : Nested)

/-! ## Calls and members -/

/-- The arguments of a call, each read by `argument` unless it is spread. -/
def argumentsBy (argument : Parse Tree) : Parse (List Tree) := do
  expect "("
  let (items, _) ← repeated (fun (items, ended) => do
    if ended || (← atMark ")") then return none
    let item ← if ← atMark "..." then spread nested else isolate argument
    if ← atMark ")" then return some (item :: items, true)
    expect ","
    return some (item :: items, false)) (([] : List Tree), false)
  expect ")"
  return items.reverse

/-- The arguments of a call. -/
def arguments : Parse (List Tree) := argumentsBy nested (nested .assignment)

/-- The arguments of a call of `async`, which can turn out to be parameters. -/
def asyncArguments : Parse (List Tree) :=
  argumentsBy nested do
    let e ← nested .assignment
    setCover ({ · with initializer := none })
    return e

/-- A construction, or the constructor that is running. -/
def construction : Parse Tree := do
  let word ← anyName
  if ← accept "." then
    let s ← get
    if s.lookahead.lexeme == .identifier "target" && s.context.inFunctionBody then
      return Node.metaProperty word (← anyName)
    unexpectedNext
  if ← atKeyword "import" then unexpectedNext
  let callee ← isolate (nested .constructed)
  let args ← if ← atMark "(" then arguments nested else pure []
  settle
  return Node.construct callee args

/-- The expression in front of members and calls. -/
def memberBase : Parse Tree := do
  inherit (if ← atKeyword "new" then construction nested else primary nested)

/-- What a member or a template makes of the expression before it; none when neither follows. -/
def memberOf (target : Tree) : Parse (Option Tree) := do
  if ← atMark "[" then
    settleMember
    expect "["
    let property ← isolate (expression nested)
    expect "]"
    return some (Node.member true target property)
  if ← atMark "." then
    settleMember
    expect "."
    return some (Node.member false target (← anyName))
  if ← ahead (·.isTemplateHead) then
    return some (Node.tagged target (← template nested))
  return none

/-- A call of an expression. After `async` on one line the arguments can prove to be the parameters of
an arrow function. -/
def callOf (async : Option Token) (callee : Tree) : Parse Tree := do
  let line := (← get).lookahead.line
  let isAsync := async.any fun t => t.line == line
  settle
  let args ← if isAsync then asyncArguments nested else arguments nested
  if callee.isKind "Import" && args.length != 1 then rejectHere .misplaced
  if isAsync && (← atMark "=>") then return Node.arrowParameters (args.map Node.asPattern) true
  return Node.call callee args

/-- A chain of members and calls. -/
def callChain : Parse Tree := do
  let t := (← get).lookahead
  let async := if t.lexeme == .identifier "async" then some t else none
  allowingIn true do
    let base ← if (← atKeyword "super") && (← context).inFunctionBody then do
        discard take
        unless (← atMark "(") || (← atMark ".") || (← atMark "[") do unexpectedNext
        pure Node.super
      else memberBase nested
    repeated (fun e => do
      if ← atMark "(" then return some (← callOf nested async e)
      memberOf nested e) base

/-- What `new` is applied to: a chain of members without calls. -/
def constructedChain : Parse Tree := do
  let base ← if (← atKeyword "super") && (← context).inFunctionBody then do
      discard take
      unless (← atMark "[") || (← atMark ".") do unexpectedNext
      pure Node.super
    else memberBase nested
  repeated (memberOf nested) base

/-! ## Operators before and after an operand -/

/-- Is the expression a name that strict code must not assign to? -/
def isRestricted (strict : Bool) (e : Tree) : Bool :=
  strict && (Node.name? e).any restrictedNames.contains

/-- Is the next token `++` or `--`? -/
def atStep : Parse Bool := ahead fun t => t == .punctuator "++" || t == .punctuator "--"

/-- Checks that the last expression can be stepped. -/
def checkStepped (e : Tree) (complaint : Complaint) : Parse Unit := do
  if isRestricted (← context).strict e then rejectHere complaint
  unless (← get).cover.isAssignmentTarget do rejectHere .assignmentTarget

/-- An operand with `++` or `--` before or after it. -/
def stepped : Parse Tree := do
  if ← atStep then
    let operator := (← take).lexeme.text
    let e ← inherit (nested .unary)
    checkStepped e .strictIncrement
    settle
    return Node.update operator e true
  let e ← inherit (callChain nested)
  if !(← get).onNewLine && (← atStep) then
    checkStepped e .strictPostfix
    settle
    return Node.update (← take).lexeme.text e false
  return e

/-- Is the token an operator that stands before its operand, `++` and `--` apart? -/
def isUnaryOperator : Lexeme → Bool
  | .punctuator mark => ["+", "-", "~", "!"].contains mark
  | .keyword word => ["delete", "void", "typeof"].contains word
  | _ => false

/-- An operand with the operators before it. -/
def unary : Parse Tree := do
  if ← ahead isUnaryOperator then
    let operator := (← take).lexeme
    let e ← inherit (nested .unary)
    if (← context).strict && operator == .keyword "delete" && e.isKind "Identifier" then
      rejectHere .strictDelete
    settle
    return Node.unary operator.text e
  if (← context).await && (← atName "await") then
    discard take
    return Node.awaiting (← nested .unary)
  stepped nested

/-! ## Binary operators -/

/-- A power, or an operand. -/
def exponentiation : Parse Tree := do
  let base ← inherit (unary nested)
  if !(base.isKind "UnaryExpression") && (← atMark "**") then
    discard take
    settle
    return Node.binary "**" base (← isolate (nested .exponentiation))
  return base

/-- How tightly an operator binds its operands; zero for what is no binary operator here. -/
def precedence (allowIn : Bool) : Lexeme → Nat
  | .punctuator mark => match mark with
    | "||" => 1
    | "&&" => 2
    | "|" => 3
    | "^" => 4
    | "&" => 5
    | "==" | "!=" | "===" | "!==" => 6
    | "<" | ">" | "<=" | ">=" => 7
    | "<<" | ">>" | ">>>" => 8
    | "+" | "-" => 9
    | "*" | "/" | "%" => 11
    | _ => 0
  | .keyword word => if word == "instanceof" || (allowIn && word == "in") then 7 else 0
  | _ => 0

/-- Operands and operators that wait for what follows: each operand with the operator after it and
that operator's precedence, the last first. -/
abbrev Pending := List (Tree × String × Nat)

/-- Joins an operand to the operators before it that bind at least as tightly as the one after it. -/
def joinTighter (level : Nat) : Pending → Tree → Pending × Tree
  | (left, operator, level') :: pending, right =>
    if level ≤ level' then joinTighter level pending (Node.binary operator left right)
    else ((left, operator, level') :: pending, right)
  | [], right => ([], right)

/-- Joins an operand to all operators before it. -/
def joinAll (pending : Pending) (last : Tree) : Tree :=
  pending.foldl (fun right (left, operator, _) => Node.binary operator left right) last

/-- Operands joined by binary operators. -/
def binary : Parse Tree := do
  let first ← inherit (exponentiation nested)
  let (pending, last) ← repeated (fun (pending, operand) => do
    let s ← get
    let level := precedence s.context.allowIn s.lookahead.lexeme
    if level = 0 then return none
    let operator := (← take).lexeme.text
    settle
    let (pending, left) := joinTighter level pending operand
    let right ← isolate (exponentiation nested)
    return some ((left, operator, level) :: pending, right)) (([] : Pending), first)
  return joinAll pending last

/-- A choice between two expressions, or an operand of one. -/
def conditional : Parse Tree := do
  let test ← inherit (binary nested)
  if ← accept "?" then
    let consequent ← allowingIn true (isolate (nested .assignment))
    expect ":"
    let alternate ← isolate (nested .assignment)
    settle
    return Node.conditional test consequent alternate
  return test

/-! ## Arrow functions -/

/-- A parameter of an arrow function. A default that reads as `yield` is the name. -/
def arrowParameter (isAsync : Bool) (param : Tree) : Parse Tree := do
  if param.isKind "AssignmentPattern" then
    let value := param.field "right"
    if value.isKind "YieldExpression" then
      if (value.field "argument").isNode then unexpectedNext
      return Node.assignmentPattern (param.field "left") (Node.identifier "yield")
  else if isAsync && Node.name? param == some "await" then unexpectedNext
  return param

/-- The parameters of an arrow function, given what was read before the arrow; none if that can be no
parameters. -/
def arrowParameters (e : Tree) : Parse (Option Parameters) := do
  let isList := e.isKind "ArrowParameterPlaceHolder"
  unless isList || e.isKind "Identifier" do return none
  let isAsync := (e.field "async").holds
  let mut ps : Parameters := {}
  for param in (if isList then (e.field "params").items else [e]) do
    let param ← arrowParameter isAsync param
    let strict := (← context).strict
    ps := (Node.boundNames param).foldl (fun ps name => ps.add strict .lastEnd name) ps
    ps := { ps with
      nodes := ps.nodes ++ [param]
      simple := ps.simple && param.isKind "Identifier" }
  let c ← context
  if (c.strict || !c.allowYield) && ps.nodes.any (·.isKind "YieldExpression") then unexpectedNext
  if ps.complaint == some .strictDuplicateParameter then rejectBefore .strictDuplicateParameter
  return some ps

/-- The arrow and the body of an arrow function. -/
def arrowRest (ps : Parameters) (isAsync : Bool) : Parse Tree := do
  if (← get).onNewLine then unexpectedNext
  setCover ({ · with initializer := none })
  let body ← inFunction isAsync false <| strictable ps do
    expect "=>"
    if ← atMark "\x7b" then allowingIn true (functionBody nested)
    else isolate (nested .assignment)
  return Node.arrow ps.nodes body isAsync

/-! ## Assignments -/

/-- Can an expression start with this token? Only marks and keywords are looked at. -/
def startsExpression : Lexeme → Bool
  | .punctuator mark => ["[", "(", "\x7b", "+", "-", "!", "~", "++", "--", "/", "/="].contains mark
  | .keyword word =>
    ["class", "delete", "function", "let", "new", "super", "this", "typeof", "void", "yield"].contains
      word
  | _ => true

/-- A value that a generator yields. -/
def yielding : Parse Tree := do
  expectKeyword "yield"
  if (← get).onNewLine then return Node.yielding .null false
  allowingYield false do
    if ← accept "*" then return Node.yielding (← nested .assignment) true
    if ← ahead startsExpression then return Node.yielding (← nested .assignment) false
    return Node.yielding .null false

/-- Is the token an operator of assignment? -/
def isAssignmentOperator : Lexeme → Bool
  | .punctuator mark =>
    ["=", "*=", "**=", "/=", "%=", "+=", "-=", "<<=", ">>=", ">>>=", "&=", "^=", "|="].contains mark
  | _ => false

/-- The assignment to an expression that starts with a token. -/
def assignmentTo (t : Token) (target : Tree) : Parse Tree := do
  let s ← get
  unless s.cover.isAssignmentTarget do rejectHere .assignmentTarget
  if s.context.strict then
    if let some name := Node.name? target then
      if restrictedNames.contains name then rejectToken t .strictAssignment
      if strictReservedWords.contains name then rejectToken t .strictReservedWord
  let isPlain := s.lookahead.lexeme == .punctuator "="
  unless isPlain do settle
  let operator := (← take).lexeme.text
  let value ← isolate (nested .assignment)
  setCover ({ · with initializer := none })
  return Node.assignment operator (if isPlain then Node.asPattern target else target) value

/-- After `async` on one line, the single parameter of an arrow function. -/
def asyncParameter (t : Token) (e : Tree) : Parse Tree := do
  let next := (← get).lookahead
  if t.lexeme == .identifier "async" && t.line == next.line &&
      (next.lexeme.isIdentifier || next.lexeme == .keyword "yield") then
    return Node.arrowParameters [Node.asPattern (← primary nested)] true
  return e

/-- An expression without commas. -/
def assignment : Parse Tree := do
  if !(← context).allowYield && (← atKeyword "yield") then yielding nested
  else
    let t := (← get).lookahead
    let e ← asyncParameter nested t (← conditional nested)
    if e.isKind "ArrowParameterPlaceHolder" || (← atMark "=>") then
      settle
      match ← arrowParameters e with
      | some ps => arrowRest nested ps (e.field "async").holds
      | none => return e
    else if ← ahead isAssignmentOperator then assignmentTo nested t e
    else return e

end

end Grammar

end Specifiers
