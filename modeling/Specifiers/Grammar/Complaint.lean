/-!
# What is wrong with a source text

The ways in which a grammar rejects a text, as causes, and the wording of each in one place. A
rejection carries the line and the column, counted from one, that the grammar blames. The column is
an integer: it is counted from the start of the line of the token before, which can lie after the
blamed token.
-/

namespace Specifiers

namespace Grammar

/-- Why a text is rejected. -/
inductive Complaint
  /-- No token starts with this character, or a token breaks off. -/
  | illegal
  | endOfInput
  | identifier
  | number
  | string
  | template (raw : String)
  | reservedWord
  | strictReservedWord
  /-- A token that does not belong here. -/
  | token (value : String)
  /-- Something that does not belong here and is not named. -/
  | misplaced
  | getterArity
  | setterArity
  | setterRest
  | asyncConstructor
  | specialConstructor
  | missingInitializer (kind : String)
  | duplicateBinding (name : String)
  | duplicateConstructor
  | duplicateProto
  | loopInitializer (loop : String)
  | legacyGenerator
  | illegalBreak
  | illegalContinue
  | illegalStrictDirective
  | illegalReturn
  | escapedKeyword
  | hexEscape
  | assignmentTarget
  | forInTarget
  | forOfTarget
  | regularExpression
  | unterminatedRegularExpression
  | lexicalLet
  | multipleDefaults
  | newlineAfterThrow
  | noCatchOrFinally
  | parameterAfterRest
  | labelRedeclared (name : String)
  | staticPrototype
  | strictCatchVariable
  | strictDelete
  | strictFunction
  | strictFunctionName
  | strictAssignment
  | strictPostfix
  | strictIncrement
  | strictWith
  | strictOctal
  | strictDuplicateParameter
  | strictParameterName
  | strictVariableName
  | templateOctal
  | unknownLabel (name : String)
  deriving DecidableEq, Repr, Inhabited

/-- The wording of a complaint. -/
def Complaint.wording : Complaint → String
  | illegal => "Unexpected token ILLEGAL"
  | endOfInput => "Unexpected end of input"
  | identifier => "Unexpected identifier"
  | number => "Unexpected number"
  | string => "Unexpected string"
  | template raw => "Unexpected quasi " ++ raw
  | reservedWord => "Unexpected reserved word"
  | strictReservedWord => "Use of future reserved word in strict mode"
  | token value => "Unexpected token " ++ value
  | misplaced => "Unexpected token"
  | getterArity => "Getter must not have any formal parameters"
  | setterArity => "Setter must have exactly one formal parameter"
  | setterRest => "Setter function argument must not be a rest parameter"
  | asyncConstructor => "Class constructor may not be an async method"
  | specialConstructor => "Class constructor may not be an accessor"
  | missingInitializer kind => "Missing initializer in " ++ kind ++ " declaration"
  | duplicateBinding name => "Duplicate binding " ++ name
  | duplicateConstructor => "A class may only have one constructor"
  | duplicateProto => "Duplicate __proto__ fields are not allowed in object literals"
  | loopInitializer loop => loop ++ " loop variable declaration may not have an initializer"
  | legacyGenerator => "Generator declarations are not allowed in legacy contexts"
  | illegalBreak => "Illegal break statement"
  | illegalContinue => "Illegal continue statement"
  | illegalStrictDirective =>
    "Illegal 'use strict' directive in function with non-simple parameter list"
  | illegalReturn => "Illegal return statement"
  | escapedKeyword => "Keyword must not contain escaped characters"
  | hexEscape => "Invalid hexadecimal escape sequence"
  | assignmentTarget => "Invalid left-hand side in assignment"
  | forInTarget => "Invalid left-hand side in for-in"
  | forOfTarget => "Invalid left-hand side in for-loop"
  | regularExpression => "Invalid regular expression"
  | unterminatedRegularExpression => "Invalid regular expression: missing /"
  | lexicalLet => "let is disallowed as a lexically bound name"
  | multipleDefaults => "More than one default clause in switch statement"
  | newlineAfterThrow => "Illegal newline after throw"
  | noCatchOrFinally => "Missing catch or finally after try"
  | parameterAfterRest => "Rest parameter must be last formal parameter"
  | labelRedeclared name => "Label '" ++ name ++ "' has already been declared"
  | staticPrototype => "Classes may not have static property named prototype"
  | strictCatchVariable => "Catch variable may not be eval or arguments in strict mode"
  | strictDelete => "Delete of an unqualified identifier in strict mode."
  | strictFunction =>
    "In strict mode code, functions can only be declared at top level or inside a block"
  | strictFunctionName => "Function name may not be eval or arguments in strict mode"
  | strictAssignment => "Assignment to eval or arguments is not allowed in strict mode"
  | strictPostfix =>
    "Postfix increment/decrement may not have eval or arguments operand in strict mode"
  | strictIncrement =>
    "Prefix increment/decrement may not have eval or arguments operand in strict mode"
  | strictWith => "Strict mode code may not include a with statement"
  | strictOctal => "Octal literals are not allowed in strict mode."
  | strictDuplicateParameter =>
    "Strict mode function may not have duplicate parameter names"
  | strictParameterName => "Parameter name eval or arguments is not allowed in strict mode"
  | strictVariableName => "Variable name may not be eval or arguments in strict mode"
  | templateOctal => "Octal literals are not allowed in template strings."
  | unknownLabel name => "Undefined label '" ++ name ++ "'"

/-- A rejection: the complaint, and the line and column that are blamed. -/
structure Rejection where
  line : Nat
  column : Int
  complaint : Complaint
  deriving DecidableEq, Repr, Inhabited

/-- The full wording of a rejection. -/
def Rejection.message (r : Rejection) : String :=
  "Line " ++ toString r.line ++ ": " ++ r.complaint.wording

/-- How parsing fails: a text is rejected, nested too deeply, or starts a template where only a
substitution can go on. The last two are no judgement on the text by the grammar. -/
inductive Failure
  | rejected (r : Rejection)
  | tooDeep
  | templateHead
  deriving DecidableEq, Repr, Inhabited

end Grammar

end Specifiers
