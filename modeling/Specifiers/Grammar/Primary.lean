import Specifiers.Grammar.Function

/-!
# Primary expressions

Expressions that no operator joins: names, literals, arrays, objects, templates, functions, classes and
what stands in parentheses. Parentheses may turn out to hold the parameters of an arrow function; these
are kept in a node of their own until the arrow is read.
-/

namespace Specifiers

namespace Grammar

section

variable (nested : Nested)

/-! ## Arrays and objects -/

/-- An element or argument after `...`. -/
def spread : Parse Tree := do
  expect "..."
  return Node.spread (← inherit (nested .assignment))

/-- An array. -/
def array : Parse Tree := do
  expect "["
  let elements ← collect do
    if ← atMark "]" then return none
    if ← accept "," then return some .null
    if ← atMark "..." then
      let element ← spread nested
      unless ← atMark "]" do
        settle
        expect ","
      return some element
    let element ← inherit (nested .assignment)
    unless ← atMark "]" do expect ","
    return some element
  expect "]"
  return Node.array elements

/-- The key of an object property and what stands before it, as far as it tells the property's
nature. -/
structure PropertyHead where
  token : Token
  key : Option Tree
  computed : Bool
  isAsync : Bool

/-- The key of an object property, or the words that can stand before it. -/
def propertyHead : Parse PropertyHead := do
  let t := (← get).lookahead
  match t.lexeme with
  | .identifier name =>
    discard take
    let s ← get
    let computed ← atMark "["
    let ends := [":", "(", "*", ","].any fun mark => s.lookahead.lexeme == .punctuator mark
    let isAsync := !s.onNewLine && name == "async" && !ends
    let key ← if isAsync then propertyKey nested else pure (Node.identifier name)
    return ⟨t, some key, computed, isAsync⟩
  | _ =>
    if ← accept "*" then return ⟨t, none, false, false⟩
    let computed ← atMark "["
    return ⟨t, some (← propertyKey nested), computed, false⟩

/-- A property of an object that is a getter, a setter or a generator. -/
def accessor (head : PropertyHead) : Parse (Option Tree) := do
  unless ← ahead (·.isPropertyKey) do return none
  let computed ← atMark "["
  match head.token.lexeme, head.isAsync with
  | .identifier "get", false =>
    let key ← propertyKey nested
    return some (Node.property "get" key computed (← getter nested) false false)
  | .identifier "set", false =>
    let key ← propertyKey nested
    return some (Node.property "set" key computed (← setter nested) false false)
  | .punctuator "*", _ =>
    let key ← propertyKey nested
    return some (Node.property "init" key computed (← generatorMethod nested) true false)
  | _, _ => return none

/-- A property of an object. `hasProto` says whether the object has set its prototype before; the
second part of the result, whether it has now. -/
def objectProperty (hasProto : Bool) : Parse (Tree × Bool) := do
  let head ← propertyHead nested
  if let some property ← accessor nested head then return (property, hasProto)
  let some key := head.key | unexpectedNext
  if !head.isAsync && (← atMark ":") then
    let isProto := !head.computed && Node.isKey key "__proto__"
    if isProto && hasProto then rejectHere .duplicateProto
    discard take
    let value ← inherit (nested .assignment)
    return (Node.property "init" key head.computed value false false, hasProto || isProto)
  if ← atMark "(" then
    let value ← if head.isAsync then asyncMethod nested else plainMethod nested
    return (Node.property "init" key head.computed value true false, hasProto)
  match head.token.lexeme with
  | .identifier name =>
    let plain := Node.identifier name
    let s ← get
    if ← atMark "=" then
      setCover ({ · with initializer := some s.lookahead })
      discard take
      let value ← isolate (nested .assignment)
      return (Node.property "init" key head.computed (Node.assignmentPattern plain value) false true,
        hasProto)
    return (Node.property "init" key head.computed plain false true, hasProto)
  | _ => unexpected (← take)

/-- An object. -/
def object : Parse Tree := do
  expect "\x7b"
  let (properties, _) ← repeated (fun (properties, hasProto) => do
    if ← atMark "\x7d" then return none
    let (property, hasProto) ←
      if ← atMark "..." then pure (← spread nested, hasProto) else objectProperty nested hasProto
    unless ← atMark "\x7d" do expect ","
    return some (property :: properties, hasProto)) (([] : List Tree), false)
  expect "\x7d"
  return Node.object properties.reverse

/-! ## Templates -/

/-- A piece of a template, and whether it is the last. -/
def templatePiece : Parse (Tree × Bool) := do
  match ← lookahead with
  | .template raw _ tail =>
    discard take
    return (Node.templateElement raw tail, tail)
  | _ => rejectBefore .illegal

/-- A template. It has to start with a piece that opens one. -/
def template : Parse Tree := do
  unless ← ahead (·.isTemplateHead) do throw .templateHead
  let (first, ended) ← templatePiece
  let (quasis, expressions, _) ← repeated (fun (quasis, expressions, ended) => do
    if ended then return none
    let e ← expression nested
    let (quasi, ended) ← templatePiece
    return some (quasi :: quasis, e :: expressions, ended)) ([first], ([] : List Tree), ended)
  return Node.templateLiteral quasis.reverse expressions.reverse

/-! ## Parentheses -/

/-- The next token has to be an arrow, which is not taken. -/
def expectArrowAhead : Parse Unit := do
  unless ← atMark "=>" do expect "=>"

/-- What has been read after a comma in parentheses: an expression, or parameters up to the closing
parenthesis. -/
inductive GroupItem
  | expression (e : Tree)
  | parameters (last : List Tree)

/-- What follows a comma in parentheses. -/
def groupItem : Parse GroupItem := do
  if ← accept ")" then return .parameters []
  if ← atMark "..." then
    unless (← get).cover.isBindingElement do unexpectedNext
    let (rest, _) ← bindings (restParameter nested)
    expect ")"
    expectArrowAhead
    setCover ({ · with isBindingElement := false })
    return .parameters [rest]
  return .expression (← inherit (nested .assignment))

/-- The items in parentheses after the first expression. The flag says whether they are parameters, up
to the closing parenthesis; if not, the parenthesis is still to come. -/
def groupItems (first : Tree) : Parse (List Tree × Bool) := do
  let (items, closed) ← repeated (fun (items, closed) => do
    if closed then return none
    unless ← accept "," do return none
    match ← groupItem nested with
    | .expression e => return some (e :: items, false)
    | .parameters last => return some (last ++ items, true)) ([first], false)
  return (items.reverse, closed)

/-- The parameters that expressions in parentheses spell before an arrow. -/
def groupParameters (items : List Tree) : Parse Tree := do
  if let [item] := items then
    if Node.name? item == some "yield" then return Node.arrowParameters items false
  unless (← get).cover.isBindingElement do unexpectedNext
  return Node.arrowParameters (items.map Node.asPattern) false

/-- An expression in parentheses, or the parameters of an arrow function. -/
def group : Parse Tree := do
  expect "("
  if ← accept ")" then
    expectArrowAhead
    return Node.arrowParameters [] false
  if ← atMark "..." then
    let (rest, _) ← bindings (restParameter nested)
    expect ")"
    expectArrowAhead
    return Node.arrowParameters [rest] false
  setCover ({ · with isBindingElement := true })
  let first ← inherit (nested .assignment)
  let isSequence ← atMark ","
  if isSequence then setCover ({ · with isAssignmentTarget := false })
  let (items, closed) ← groupItems nested first
  if closed then return Node.arrowParameters (items.map Node.asPattern) false
  let e := if isSequence then Node.sequence items else first
  expect ")"
  let e ← if ← atMark "=>" then groupParameters items else pure e
  setCover ({ · with isBindingElement := false })
  return e

/-! ## Primary expressions -/

/-- Is the next token `import` with an opening parenthesis after it? -/
def atImportCall : Parse Bool := do
  unless ← atKeyword "import" do return false
  return (← peek).lexeme == .punctuator "("

/-- A primary expression that starts with a mark. -/
def markedPrimary (mark : String) : Parse Tree := do
  match mark with
  | "(" =>
    setCover ({ · with isBindingElement := false })
    inherit (group nested)
  | "[" => inherit (array nested)
  | "\x7b" => inherit (object nested)
  | "/" | "/=" =>
    settle
    let t ← takeRegex
    match t.lexeme with
    | .regex pattern flags => return Node.regex pattern flags
    | _ => return Node.literal .null
  | _ => unexpected (← take)

/-- A primary expression that starts with a keyword. -/
def keywordPrimary (word : String) : Parse Tree := do
  let c ← context
  if !c.strict && c.allowYield && word == "yield" then anyName
  else if !c.strict && word == "let" then return Node.identifier (← take).lexeme.text
  else
    settle
    match word with
    | "function" => functionExpression nested
    | "this" =>
      discard take
      return Node.thisExpression
    | "class" => classExpression nested
    | _ =>
      if ← atImportCall then
        discard take
        return Node.import'
      unexpected (← take)

/-- A literal, which is a value and nothing else. -/
def literal (value : Tree) : Parse Tree := do
  settle
  discard take
  return Node.literal value

/-- A primary expression. -/
def primary : Parse Tree := do
  let s ← get
  match s.lookahead.lexeme with
  | .identifier name =>
    if (s.context.isModule || s.context.await) && name == "await" then unexpectedNext
    if ← atAsyncFunction then functionExpression nested
    else return Node.identifier (← take).lexeme.text
  | .number _ octal =>
    if octal && s.context.strict then rejectToken s.lookahead .strictOctal
    literal .null
  | .string value _ octal =>
    if octal && s.context.strict then rejectToken s.lookahead .strictOctal
    literal (.text value)
  | .boolean value => literal (.bool value)
  | .null => literal .null
  | .template _ _ _ => template nested
  | .punctuator mark => markedPrimary nested mark
  | .keyword word => keywordPrimary nested word
  | .regex _ _ | .endOfInput => unexpected (← take)

end

end Grammar

end Specifiers
