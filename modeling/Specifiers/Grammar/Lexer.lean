import Specifiers.Grammar.Literal
import Specifiers.Grammar.Trivia

/-!
# The next token

Which token starts at a cursor. A closing brace goes on with a template when the innermost open brace
is that of a substitution, so the open braces are kept beside the cursor.
-/

namespace Specifiers

namespace Grammar

/-- An open brace: one that stands for itself, or one that opens a substitution in a template. -/
inductive Brace
  | plain
  | substitution
  deriving DecidableEq, Repr, Inhabited

/-- A cursor and the braces open there, the innermost first. -/
structure Scanner where
  cursor : Cursor
  braces : List Brace := []
  deriving Repr, Inhabited

/-- The mark that starts here. -/
def markAt? (cs : List Char) : Option (List Char × String) :=
  markTable.find? fun m => m.1.isPrefixOf cs

/-- The braces open after a mark. -/
def bracesAfter (mark : List Char) (braces : List Brace) : List Brace :=
  match mark with
  | ['{'] => .plain :: braces
  | ['}'] => braces.tail
  | _ => braces

/-- The token that starts at the cursor, with the scanner after it. -/
def scanLexeme (s : Scanner) : Except Rejection (Lexeme × Scanner) :=
  let p := s.cursor.place
  let keep (r : Lexeme × Cursor) : Lexeme × Scanner := (r.1, { s with cursor := r.2 })
  match s.cursor.rest with
  | [] => .ok (.endOfInput, s)
  | c :: cs =>
    if IdentifierChar.isStart c then (scanName p (c :: cs)).map keep
    else if c == '\x22' || c == '\x27' then
      (stringFrom c p.index 0 [] [] false (p.forward 1) cs).map keep
    else if c.isDigit || (c == '.' && cs.head?.any Char.isDigit) then
      (scanNumber p (c :: cs)).map keep
    else if c == templateMark then
      (templateFrom true 0 [] (p.forward 1) cs).map fun (lexeme, after) =>
        (lexeme, ⟨after, if lexeme.isTemplateEnd then s.braces else .substitution :: s.braces⟩)
    else if c == '}' && s.braces.head? == some .substitution then
      (templateFrom false 0 [] (p.forward 1) cs).map fun (lexeme, after) =>
        (lexeme, ⟨after, if lexeme.isTemplateEnd then s.braces.tail else s.braces⟩)
    else match markAt? (c :: cs) with
      | some (mark, text) =>
        .ok (.punctuator text,
          ⟨⟨p.forward mark.length, (c :: cs).drop mark.length⟩, bracesAfter mark s.braces⟩)
      | none => .error p.reject

/-- The next token after white space and comments: the cursor at which it starts, the token, and the
scanner after it. -/
def Scanner.next (isModule : Bool) (s : Scanner) : Except Rejection (Cursor × Token × Scanner) := do
  let start ← s.cursor.skipGap isModule
  let (lexeme, after) ← scanLexeme { s with cursor := start }
  return (start, ⟨lexeme, start.place.index, after.cursor.place.line⟩, after)

end Grammar

end Specifiers
