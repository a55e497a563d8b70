import Specifiers.Grammar.Expression

/-!
# Statements and declarations
-/

namespace Specifiers

namespace Grammar

section

variable (nested : Nested)

/-! ## Blocks and simple statements -/

/-- Statements and declarations in braces. -/
def block : Parse Tree := do
  expect "\x7b"
  let items ← collect do
    if ← atMark "\x7d" then return none
    return some (← nested .listItem)
  expect "\x7d"
  return Node.block items

/-- An expression as a statement. -/
def expressionStatement : Parse Tree := do
  let e ← expression nested
  endStatement
  return Node.expressionStatement e

/-- An expression in parentheses that belongs to a statement. -/
def header : Parse Tree := do
  expect "("
  let e ← expression nested
  expect ")"
  return e

/-! ## Variables -/

/-- Strict code must not bind the names that it restricts. -/
def checkVariable (id : Tree) : Parse Unit := do
  if isRestricted (← context).strict id then rejectHere .strictVariableName

/-- The value of a variable, after the mark before it. -/
def initializer : Parse Tree := isolate (nested .assignment)

/-- A variable of a function, with its value. A pattern needs one, except at the head of a loop. -/
def varDeclarator (inFor : Bool) : Parse Tree := do
  let (id, _) ← bindings (nested (.pattern .var))
  checkVariable id
  if ← accept "=" then return Node.declarator id (← initializer nested)
  if !(id.isKind "Identifier") && !inFor then expect "="
  return Node.declarator id .null

/-- A variable of a block, with its value. A constant needs one, except before `in` and `of`; and so
does a pattern, except at the head of a loop. -/
def lexicalDeclarator (binder : Binder) (inFor : Bool) : Parse Tree := do
  let (id, _) ← bindings (nested (.pattern binder))
  checkVariable id
  if binder == .const then
    if (← atKeyword "in") || (← atName "of") then return Node.declarator id .null
    if ← accept "=" then return Node.declarator id (← initializer nested)
    rejectBefore (.missingInitializer "const")
  if (!inFor && !(id.isKind "Identifier")) || (← atMark "=") then
    expect "="
    return Node.declarator id (← initializer nested)
  return Node.declarator id .null

/-- Declarators with commas between them. -/
def declarators (declarator : Parse Tree) : Parse (List Tree) := do
  let first ← declarator
  let others ← collect do
    if ← accept "," then return some (← declarator) else return none
  return first :: others

/-- Takes the word that declares variables of a block. -/
def lexicalWord : Parse (String × Binder) := do
  let word := (← take).lexeme.text
  return (word, if word == "const" then .const else .lexical)

/-- The declaration of variables of a block. -/
def lexicalDeclaration : Parse Tree := do
  let (word, binder) ← lexicalWord
  let ds ← declarators (lexicalDeclarator nested binder false)
  endStatement
  return Node.declaration word ds

/-- Does `let`, which comes next, declare variables? -/
def letDeclares : Parse Bool := do
  match (← peek).lexeme with
  | .identifier _ => return true
  | .punctuator mark => return mark == "[" || mark == "\x7b"
  | .keyword word => return word == "let" || word == "yield"
  | _ => return false

/-- The declaration of variables of a function. -/
def varStatement : Parse Tree := do
  expectKeyword "var"
  let ds ← declarators (varDeclarator nested false)
  endStatement
  return Node.declaration "var" ds

/-! ## Branches and loops -/

/-- A branch of `if`. -/
def branch : Parse Tree := do
  if (← context).strict && (← atKeyword "function") then rejectHere .strictFunction
  nested .statement

def ifStatement : Parse Tree := do
  expectKeyword "if"
  let test ← header nested
  let consequent ← branch nested
  if ← atKeyword "else" then
    discard take
    return Node.ifStatement test consequent (← branch nested)
  return Node.ifStatement test consequent .null

def doStatement : Parse Tree := do
  expectKeyword "do"
  let body ← inLoop (nested .statement)
  expectKeyword "while"
  let test ← header nested
  discard <| accept ";"
  return Node.doWhile body test

def whileStatement : Parse Tree := do
  expectKeyword "while"
  let test ← header nested
  return Node.while' test (← inLoop (nested .statement))

/-- The head of a `for` loop: what runs before it, or what its items are bound to, with the
expression after `in` or `of`. -/
inductive ForHead
  | counted (init : Tree)
  | over (isIn : Bool) (left right : Tree)

/-- The rest of a loop head after `in` or `of`, which is taken first. -/
def forOver (isIn : Bool) (left : Tree) : Parse ForHead := do
  discard take
  let right ← if isIn then expression nested else nested .assignment
  return .over isIn left right

/-- The head of a loop that starts with `var`. -/
def forVar : Parse ForHead := do
  discard take
  let ds ← allowingIn false (declarators (varDeclarator nested true))
  let left := Node.declaration "var" ds
  if let [d] := ds then
    let hasValue := (d.field "init").isNode
    if ← atKeyword "in" then
      let id := d.field "id"
      let isPattern := id.isKind "ArrayPattern" || id.isKind "ObjectPattern"
      if hasValue && (isPattern || (← context).strict) then rejectHere (.loopInitializer "for-in")
      return ← forOver nested true left
    if !hasValue && (← atName "of") then return ← forOver nested false left
  expect ";"
  return .counted left

/-- The head of a loop that starts with `let` or `const`. -/
def forLexical : Parse ForHead := do
  let (word, binder) ← lexicalWord
  let s ← get
  if !s.context.strict && s.lookahead.lexeme.text == "in" then
    return ← forOver nested true (Node.identifier word)
  let ds ← allowingIn false (declarators (lexicalDeclarator nested binder true))
  let left := Node.declaration word ds
  if let [d] := ds then
    unless (d.field "init").isNode do
      if ← atKeyword "in" then return ← forOver nested true left
      if ← atName "of" then return ← forOver nested false left
  endStatement
  return .counted left

/-- The target of a loop over items has to be something to assign to. -/
def checkLoopTarget (init : Tree) (complaint : Complaint) : Parse Unit := do
  if !(← get).cover.isAssignmentTarget || init.isKind "AssignmentExpression" then
    rejectHere complaint

/-- The head of a loop that starts with an expression. -/
def forExpression : Parse ForHead := do
  let init ← allowingIn false (inherit (nested .assignment))
  if ← atKeyword "in" then
    checkLoopTarget init .forInTarget
    return ← forOver nested true (Node.asPattern init)
  if ← atName "of" then
    checkLoopTarget init .forOfTarget
    return ← forOver nested false (Node.asPattern init)
  let init ← if ← atMark "," then
      pure (Node.sequence (← commaSeparated nested init))
    else pure init
  expect ";"
  return .counted init

/-- The head of a loop, after its opening parenthesis. -/
def forHead : Parse ForHead := do
  if ← accept ";" then return .counted .null
  if ← atKeyword "var" then return ← forVar nested
  if (← atKeyword "const") || (← atKeyword "let") then return ← forLexical nested
  forExpression nested

/-- The end of a loop head, and the body. -/
def forBody : Parse Tree := do
  expect ")"
  inLoop (isolate (nested .statement))

def forStatement : Parse Tree := do
  expectKeyword "for"
  expect "("
  match ← forHead nested with
  | .over isIn left right =>
    let body ← forBody nested
    return if isIn then Node.forIn left right body else Node.forOf left right body
  | .counted init =>
    let test ← if ← atMark ";" then pure .null else expression nested
    expect ";"
    let update ← if ← atMark ")" then pure .null else expression nested
    return Node.forStatement init test update (← forBody nested)

/-! ## Jumps -/

/-- The label that a jump names, which has to stand around it. -/
def jumpLabel : Parse Tree := do
  let s ← get
  if s.onNewLine || !s.lookahead.lexeme.isIdentifier then return .null
  let label ← variableName .parameter
  let name := s.lookahead.lexeme.text
  unless s.context.labels.contains name do rejectBefore (.unknownLabel name)
  return label

def continueStatement : Parse Tree := do
  expectKeyword "continue"
  let label ← jumpLabel
  endStatement
  if !label.isNode && !(← context).inIteration then rejectBefore .illegalContinue
  return Node.continue' label

def breakStatement : Parse Tree := do
  expectKeyword "break"
  let label ← jumpLabel
  endStatement
  let c ← context
  if !label.isNode && !c.inIteration && !c.inSwitch then rejectBefore .illegalBreak
  return Node.break' label

/-- A value follows `return` on its line; strings and templates may start on a later one. -/
def returnStatement : Parse Tree := do
  unless (← context).inFunctionBody do rejectHere .illegalReturn
  expectKeyword "return"
  let s ← get
  let next := s.lookahead.lexeme
  let ends := next == .punctuator ";" || next == .punctuator "\x7d" || s.onNewLine ||
    next == .endOfInput
  let argument ← if !ends || next.isString || next.isTemplate then expression nested else pure .null
  endStatement
  return Node.return' argument

def throwStatement : Parse Tree := do
  expectKeyword "throw"
  if (← get).onNewLine then rejectBefore .newlineAfterThrow
  let argument ← expression nested
  endStatement
  return Node.throw' argument

/-! ## Other statements -/

def withStatement : Parse Tree := do
  if (← context).strict then rejectHere .strictWith
  expectKeyword "with"
  let target ← header nested
  return Node.with' target (← nested .statement)

/-- A clause of `switch`, and whether it is the default one. -/
def switchClause : Parse (Tree × Bool) := do
  let isDefault ← atKeyword "default"
  let test ← if isDefault then do
      discard take
      pure .null
    else do
      expectKeyword "case"
      expression nested
  expect ":"
  let items ← collect do
    if (← atMark "\x7d") || (← atKeyword "default") || (← atKeyword "case") then return none
    return some (← nested .listItem)
  return (Node.switchCase test items, isDefault)

def switchStatement : Parse Tree := do
  expectKeyword "switch"
  let discriminant ← header nested
  let outer := (← context).inSwitch
  setContext ({ · with inSwitch := true })
  expect "\x7b"
  let (cases, _) ← repeated (fun (cases, hasDefault) => do
    if ← atMark "\x7d" then return none
    let (clause, isDefault) ← switchClause nested
    if isDefault && hasDefault then rejectBefore .multipleDefaults
    return some (clause :: cases, hasDefault || isDefault)) (([] : List Tree), false)
  expect "\x7d"
  setContext ({ · with inSwitch := outer })
  return Node.switch discriminant cases.reverse

/-- The statement after a label. Strict code has no function there, and no code a generator. -/
def labeledBody : Parse Tree := do
  if ← atKeyword "class" then unexpectedNext
  if ← atKeyword "function" then
    let t := (← get).lookahead
    let declaration ← functionDeclaration nested false
    if (← context).strict then rejectToken t .strictFunction
    if (declaration.field "generator").holds then rejectToken t .legacyGenerator
    return declaration
  nested .statement

/-- A statement that starts with a name: a label with its statement, or an expression. -/
def labeledStatement : Parse Tree := do
  let e ← expression nested
  match Node.name? e with
  | some name =>
    if ← accept ":" then
      if (← context).labels.contains name then rejectBefore (.labelRedeclared name)
      setContext fun c => { c with labels := name :: c.labels }
      let body ← labeledBody nested
      setContext fun c => { c with labels := c.labels.erase name }
      return Node.labeled e body
  | none => pure ()
  endStatement
  return Node.expressionStatement e

/-- The first name that stands in a list for the second time; `seen` holds those before. -/
def repeatedName? (seen : List String) : List String → Option String
  | [] => none
  | name :: names => if seen.contains name then some name else repeatedName? (name :: seen) names

def catchClause : Parse Tree := do
  expectKeyword "catch"
  expect "("
  if ← atMark ")" then unexpectedNext
  let (param, tokens) ← bindings (nested (.pattern .parameter))
  if let some name := repeatedName? [] (tokens.map (·.lexeme.text)) then
    rejectHere (.duplicateBinding name)
  if isRestricted (← context).strict param then rejectHere .strictCatchVariable
  expect ")"
  return Node.catchClause param (← block nested)

def tryStatement : Parse Tree := do
  expectKeyword "try"
  let body ← block nested
  let handler ← if ← atKeyword "catch" then catchClause nested else pure .null
  let finalizer ← if ← atKeyword "finally" then do
      discard take
      block nested
    else pure .null
  if !handler.isNode && !finalizer.isNode then rejectBefore .noCatchOrFinally
  return Node.try' body handler finalizer

def debuggerStatement : Parse Tree := do
  expectKeyword "debugger"
  endStatement
  return Node.debugger

/-! ## Any statement -/

/-- A statement that starts with a keyword. -/
def keywordStatement (word : String) : Parse Tree :=
  match word with
  | "break" => breakStatement
  | "continue" => continueStatement
  | "debugger" => debuggerStatement
  | "do" => doStatement nested
  | "for" => forStatement nested
  | "function" => functionDeclaration nested false
  | "if" => ifStatement nested
  | "return" => returnStatement nested
  | "switch" => switchStatement nested
  | "throw" => throwStatement nested
  | "try" => tryStatement nested
  | "var" => varStatement nested
  | "while" => whileStatement nested
  | "with" => withStatement nested
  | _ => expressionStatement nested

/-- A statement. -/
def statement : Parse Tree := do
  match ← lookahead with
  | .punctuator "\x7b" => block nested
  | .punctuator ";" =>
    expect ";"
    return Node.empty
  | .identifier _ =>
    if ← atAsyncFunction then functionDeclaration nested false else labeledStatement nested
  | .keyword word => keywordStatement nested word
  | .endOfInput => unexpectedNext
  | _ => expressionStatement nested

end

end Grammar

end Specifiers
