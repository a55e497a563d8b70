import Specifiers.Grammar.Lexer

/-!
# The state of a parse

A parse keeps the scanner one token ahead of the tokens it has taken. Beside the scanner it holds
where the token before ended and where the next one starts (a rejection is placed by one or the
other), the context that decides what is allowed here, and what the expression read last could still
turn out to be: a target of an assignment, or a pattern that binds names.

Two combinators read a part of an expression whose nature is not known yet. `isolate` settles it: an
initialiser that only a pattern may have is rejected at the end. `inherit` leaves it open to what
surrounds the part.
-/

namespace Specifiers

namespace Grammar

/-- What is allowed at a point of a program. -/
structure Context where
  isModule : Bool := false
  strict : Bool := false
  /-- May `in` be an operator here? -/
  allowIn : Bool := true
  /-- May a function body here make itself strict? -/
  allowStrictDirective : Bool := true
  /-- Is `yield` a name here? -/
  allowYield : Bool := true
  /-- Is `await` an operator here? -/
  await : Bool := false
  inFunctionBody : Bool := false
  inIteration : Bool := false
  inSwitch : Bool := false
  labels : List String := []
  deriving Repr, Inhabited

/-- What the expression read last could still be. The token is that of an initialiser which only a
pattern may have. -/
structure Cover where
  isAssignmentTarget : Bool := true
  isBindingElement : Bool := true
  initializer : Option Token := none
  deriving Repr, Inhabited

/-- The state of a parse. -/
structure State where
  /-- The scanner after the next token. -/
  scanner : Scanner
  /-- The next token. -/
  lookahead : Token
  /-- Where the next token starts. -/
  start : Cursor
  /-- Where the token before ended. -/
  lastEnd : Place
  /-- Does the next token end on another line than the one before? -/
  onNewLine : Bool := false
  context : Context := {}
  cover : Cover := {}
  /-- The tokens of the names bound so far, the last first. -/
  bound : List Token := []
  /-- The number of characters of the text, which bounds every loop. -/
  size : Nat
  deriving Repr, Inhabited

/-- A parser of a part of a program. -/
abbrev Parse := StateT State (Except Failure)

variable {α β : Type}

/-! ## Rejections -/

/-- The complaint about a token that does not belong where it stands. -/
def Lexeme.complaint (strict : Bool) : Lexeme → Complaint
  | .endOfInput => .endOfInput
  | .identifier _ => .identifier
  | .number _ _ => .number
  | .string _ _ _ => .string
  | .template raw _ _ => .template raw
  | .keyword word =>
    if reservedWords.contains word then .reservedWord
    else if strict && strictReservedWords.contains word then .strictReservedWord
    else .token word
  | lexeme => .token lexeme.text

/-- Rejects the text. -/
def reject (r : Rejection) : Parse α := throw (.rejected r)

/-- Rejects the text and blames the end of the token before. -/
def rejectBefore (complaint : Complaint) : Parse α := do
  reject ((← get).lastEnd.reject complaint)

/-- Rejects the text and blames the end of the token before, on the line that the scanner has
reached. -/
def rejectHere (complaint : Complaint) : Parse α := do
  let s ← get
  reject { s.lastEnd.reject complaint with line := s.scanner.cursor.place.line }

/-- Rejects the text for a token. Its column counts from the start of the line on which the token
before ended. -/
def rejectToken (t : Token) (complaint : Complaint) : Parse α := do
  let s ← get
  reject ⟨t.line, (t.start : Int) - s.lastEnd.lineStart + 1, complaint⟩

/-- Rejects the text because a token does not belong where it stands. -/
def unexpected (t : Token) : Parse α := do
  rejectToken t (t.lexeme.complaint (← get).context.strict)

/-- Rejects the text because the next token does not belong where it stands. -/
def unexpectedNext : Parse α := do
  unexpected (← get).lookahead

/-! ## Taking tokens -/

/-- Makes an identifier that strict code reserves a keyword. -/
def Token.reserve (t : Token) : Token :=
  match t.lexeme with
  | .identifier name =>
    if strictReservedWords.contains name then { t with lexeme := .keyword name } else t
  | _ => t

/-- Scans the token at a scanner. -/
def scan (s : Scanner) : Parse (Cursor × Token × Scanner) := do
  match s.next (← get).context.isModule with
  | .ok r => return r
  | .error r => reject r

/-- Takes the next token. -/
def take : Parse Token := do
  let (start, token, scanner) ← scan (← get).scanner
  let s ← get
  let token := if s.context.strict then token.reserve else token
  set { s with
    scanner, start, lookahead := token
    lastEnd := s.scanner.cursor.place
    onNewLine := s.lookahead.line != token.line }
  return s.lookahead

/-- Takes a regular expression, which starts with the next token. -/
def takeRegex : Parse Token := do
  let s ← get
  match scanRegex s.start.place s.start.rest with
  | .error r => reject r
  | .ok (lexeme, after) =>
    set { s with
      scanner := { s.scanner with cursor := after }
      lookahead := ⟨lexeme, s.start.place.index, after.place.line⟩ }
    take

/-- The token after the next one, which is not taken. -/
def peek : Parse Token := do
  let (_, token, after) ← scan (← get).scanner
  modify fun s => { s with scanner := { s.scanner with braces := after.braces } }
  return token

/-- The next token. -/
def lookahead : Parse Lexeme := return (← get).lookahead.lexeme

/-- Does a predicate hold of the next token? -/
def ahead (p : Lexeme → Bool) : Parse Bool := return p (← get).lookahead.lexeme

/-- Is the next token this mark? -/
def atMark (mark : String) : Parse Bool := ahead (· == .punctuator mark)

/-- Is the next token this keyword? -/
def atKeyword (word : String) : Parse Bool := ahead (· == .keyword word)

/-- Is the next token the identifier of this name, which has a meaning here? -/
def atName (name : String) : Parse Bool := ahead (· == .identifier name)

/-- Is the next token the end of the text? -/
def atEnd : Parse Bool := ahead (· == .endOfInput)

/-- Takes the next token, which has to be this mark. -/
def expect (mark : String) : Parse Unit := do
  let t ← take
  unless t.lexeme == .punctuator mark do unexpected t

/-- Takes the next token, which has to be this keyword. -/
def expectKeyword (word : String) : Parse Unit := do
  let t ← take
  unless t.lexeme == .keyword word do unexpected t

/-- Takes the next token when it is this mark, and says whether it was. -/
def accept (mark : String) : Parse Bool := do
  if ← atMark mark then
    discard take
    return true
  return false

/-- Passes the end of a statement: a semicolon, or a place where one may be left out. -/
def endStatement : Parse Unit := do
  if ← accept ";" then return
  let s ← get
  unless s.onNewLine do
    unless s.lookahead.lexeme == .endOfInput || s.lookahead.lexeme == .punctuator "\x7d" do
      unexpectedNext
    set { s with lastEnd := s.start.place }

/-! ## Repetition -/

/-- Repeats a step on a value until it gives none. -/
def iterate (step : α → Parse (Option α)) : Nat → α → Parse α
  | 0, _ => throw .tooDeep
  | n + 1, a => do
    match ← step a with
    | some b => iterate step n b
    | none => return a

/-- Repeats a step on a value until it gives none. Each step takes a token, so the length of the text
bounds their number. -/
def repeated (step : α → Parse (Option α)) (a : α) : Parse α := do
  iterate step ((← get).size + 2) a

/-- Collects the results of a step until it gives none. -/
def collect (step : Parse (Option α)) : Parse (List α) := do
  let items ← repeated (fun items => return (← step).map (· :: items)) []
  return items.reverse

/-! ## Context and cover -/

/-- The context. -/
def context : Parse Context := return (← get).context

/-- Changes the context. -/
def setContext (f : Context → Context) : Parse Unit :=
  modify fun s => { s with context := f s.context }

/-- Changes what the last expression could still be. -/
def setCover (f : Cover → Cover) : Parse Unit :=
  modify fun s => { s with cover := f s.cover }

/-- The last expression is a value and nothing else. -/
def settle : Parse Unit :=
  setCover fun c => { c with isAssignmentTarget := false, isBindingElement := false }

/-- The last expression is a member of an object: something to assign to, and no binding. -/
def settleMember : Parse Unit :=
  setCover fun c => { c with isAssignmentTarget := true, isBindingElement := false }

/-- Reads a part of an expression whose nature is settled at its end. -/
def isolate (p : Parse α) : Parse α := do
  let outer := (← get).cover
  setCover fun _ => {}
  let a ← p
  if let some t := (← get).cover.initializer then unexpected t
  setCover fun _ => outer
  return a

/-- Reads a part of an expression whose nature depends on what surrounds it. -/
def inherit (p : Parse α) : Parse α := do
  let outer := (← get).cover
  setCover fun _ => {}
  let a ← p
  setCover fun inner =>
    { isAssignmentTarget := inner.isAssignmentTarget && outer.isAssignmentTarget
      isBindingElement := inner.isBindingElement && outer.isBindingElement
      initializer := outer.initializer <|> inner.initializer }
  return a

/-- Reads a part with `in` allowed as an operator or not. -/
def allowingIn (allow : Bool) (p : Parse α) : Parse α := do
  let outer := (← context).allowIn
  setContext ({ · with allowIn := allow })
  let a ← p
  setContext ({ · with allowIn := outer })
  return a

/-- Reads a part inside a loop. -/
def inLoop (p : Parse α) : Parse α := do
  let outer := (← context).inIteration
  setContext ({ · with inIteration := true })
  let a ← p
  setContext ({ · with inIteration := outer })
  return a

/-- Reads a part with `yield` as a name or not. -/
def allowingYield (allow : Bool) (p : Parse α) : Parse α := do
  let outer := (← context).allowYield
  setContext ({ · with allowYield := allow })
  let a ← p
  setContext ({ · with allowYield := outer })
  return a

/-- Reads a part together with the tokens of the names that it binds. -/
def bindings (p : Parse α) : Parse (α × List Token) := do
  let outer := (← get).bound
  modify ({ · with bound := [] })
  let a ← p
  let tokens := (← get).bound.reverse
  modify ({ · with bound := outer })
  return (a, tokens)

/-- Is the next token `async`, with `function` after it on the same line? -/
def atAsyncFunction : Parse Bool := do
  unless ← atName "async" do return false
  let line := (← get).scanner.cursor.place.line
  let t ← peek
  return t.line == line && t.lexeme == .keyword "function"

end Grammar

end Specifiers
