import Specifiers.Grammar.NumberText
import Specifiers.Grammar.Statement

/-!
# Imports, exports and the items of a body
-/

namespace Specifiers

namespace Grammar

/-- The value of a token as it is named where a clause is missing before it; none when the value is
empty or zero. -/
def Lexeme.named? : Lexeme → Option String
  | .number digits octal =>
    let value := numberText octal digits
    if value == "0" then none else some value
  | t => if t.text == "" then none else some t.text

/-- Rejects the text because a clause is missing before the next token. -/
def rejectMissingFrom {α : Type} : Parse α := do
  match (← lookahead).named? with
  | some value => rejectBefore (.token value)
  | none => rejectBefore .misplaced

section

variable (nested : Nested)

/-- The name of the module that is imported or exported from. -/
def moduleName : Parse Tree := do
  match ← lookahead with
  | .string value _ _ =>
    discard take
    return Node.literal (.text value)
  | _ => rejectBefore .misplaced

/-- The clause that names the module. -/
def fromClause : Parse Tree := do
  unless ← atName "from" do rejectMissingFrom
  discard take
  moduleName

/-! ## Imports -/

/-- One imported name. A reserved name needs another name here. -/
def importSpecifier : Parse Tree := do
  let isPlain ← ahead (·.isIdentifier)
  let imported ← if isPlain then variableName .parameter else anyName
  if ← atName "as" then
    discard take
    return Node.importSpecifier (← variableName .parameter) imported
  unless isPlain do unexpected (← take)
  return Node.importSpecifier imported imported

/-- Imported names in braces. -/
def namedImports : Parse (List Tree) := do
  expect "\x7b"
  let specifiers ← collect do
    if ← atMark "\x7d" then return none
    let specifier ← importSpecifier
    unless ← atMark "\x7d" do expect ","
    return some specifier
  expect "\x7d"
  return specifiers

/-- All names of a module as one. -/
def namespaceImport : Parse Tree := do
  expect "*"
  unless ← atName "as" do rejectBefore .misplaced
  discard take
  return Node.importNamespace (← anyName)

/-- What is imported. -/
def importClause : Parse (List Tree) := do
  if ← atMark "\x7b" then return ← namedImports
  if ← atMark "*" then return [← namespaceImport]
  unless (← ahead (·.isName)) && !(← atKeyword "default") do unexpected (← take)
  let first := Node.importDefault (← anyName)
  if ← accept "," then
    if ← atMark "*" then return [first, ← namespaceImport]
    if ← atMark "\x7b" then return first :: (← namedImports)
    unexpectedNext
  return [first]

def importDeclaration : Parse Tree := do
  if (← context).inFunctionBody then rejectBefore .misplaced
  expectKeyword "import"
  let (specifiers, source) ← if ← ahead (·.isString) then pure ([], ← moduleName)
    else pure (← importClause, ← fromClause)
  endStatement
  return Node.importDeclaration specifiers source

/-! ## Exports -/

/-- What is exported as the default. -/
def exportDefault : Parse Tree := do
  discard take
  if ← atKeyword "function" then
    return Node.exportDefault (← functionDeclaration nested true)
  if ← atKeyword "class" then return Node.exportDefault (← classDeclaration nested true)
  if ← atName "async" then
    let isFunction ← atAsyncFunction
    return Node.exportDefault
      (← if isFunction then functionDeclaration nested true else nested .assignment)
  if ← atName "from" then rejectBefore (.token "from")
  let value ← if ← atMark "\x7b" then object nested
    else if ← atMark "[" then array nested
    else nested .assignment
  endStatement
  return Node.exportDefault value

/-- One exported name. -/
def exportSpecifier : Parse Tree := do
  let name ← anyName
  if ← atName "as" then
    discard take
    return Node.exportSpecifier (← anyName) name
  return Node.exportSpecifier name name

/-- Exported names in braces, and whether one of them is `default`, which only another module can
have. -/
def exportSpecifiers : Parse (List Tree × Bool) := do
  expect "\x7b"
  let (specifiers, foreign) ← repeated (fun (specifiers, foreign) => do
    if ← atMark "\x7d" then return none
    let foreign := foreign || (← atKeyword "default")
    let specifier ← exportSpecifier
    unless ← atMark "\x7d" do expect ","
    return some (specifier :: specifiers, foreign)) (([] : List Tree), false)
  expect "\x7d"
  return (specifiers.reverse, foreign)

/-- An export of names, of this module or of another. -/
def exportNames : Parse Tree := do
  let first ← if ← ahead (·.isIdentifier) then
      pure [Node.exportDefaultSpecifier (← anyName)]
    else pure []
  let more ← if first.isEmpty then pure true else accept ","
  let (others, foreign) ← if more then exportSpecifiers else pure ([], false)
  let source ← if (← atName "from") || foreign then fromClause else pure .null
  endStatement
  return Node.exportNamed .null (first ++ others) source

/-- An exported declaration that starts with a keyword. -/
def exportKeyword (word : String) : Parse Tree := do
  let declaration ← match word with
    | "let" | "const" => lexicalDeclaration nested
    | "var" | "class" | "function" => nested .listItem
    | _ => unexpectedNext
  return Node.exportNamed declaration [] .null

def exportDeclaration : Parse Tree := do
  if (← context).inFunctionBody then rejectBefore .misplaced
  expectKeyword "export"
  match ← lookahead with
  | .keyword "default" => exportDefault nested
  | .punctuator "*" =>
    discard take
    let source ← fromClause
    endStatement
    return Node.exportAll source
  | .keyword word => exportKeyword nested word
  | _ =>
    if ← atAsyncFunction then
      return Node.exportNamed (← functionDeclaration nested false) [] .null
    exportNames

/-! ## The items of a body -/

/-- A statement or a declaration. -/
def listItem : Parse Tree := do
  setCover ({ · with isAssignmentTarget := true, isBindingElement := true })
  match ← lookahead with
  | .keyword "export" =>
    unless (← context).isModule do rejectToken (← get).lookahead .misplaced
    exportDeclaration nested
  | .keyword "import" =>
    if ← atImportCall then expressionStatement nested
    else
      unless (← context).isModule do rejectToken (← get).lookahead .misplaced
      importDeclaration
  | .keyword "const" => lexicalDeclaration nested
  | .keyword "function" => functionDeclaration nested false
  | .keyword "class" => classDeclaration nested false
  | .keyword "let" =>
    if ← letDeclares then lexicalDeclaration nested else statement nested
  | _ => statement nested

end

end Grammar

end Specifiers
