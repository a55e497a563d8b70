import Specifiers.Grammar.Complaint

/-!
# Places in a source text

A cursor is the rest of the text together with the place where it starts. Lines end at a line feed, a
carriage return (with the line feed after it, if there is one) or one of the two Unicode separators.
-/

namespace Specifiers

namespace Grammar

/-- A place in the text: the index of the character, the number of its line, counted from one, and
the index at which that line starts. -/
structure Place where
  index : Nat
  line : Nat
  lineStart : Nat
  deriving DecidableEq, Repr, Inhabited

/-- The rest of a text and the place at which it starts. -/
structure Cursor where
  place : Place
  rest : List Char
  deriving Repr, Inhabited

/-- The characters that end a line. -/
def isLineTerminator (c : Char) : Bool :=
  c == '\n' || c == '\r' || c == '\u2028' || c == '\u2029'

/-- How many characters the line end that starts here has. -/
def lineEndLength (cs : List Char) : Nat :=
  match cs with
  | '\r' :: '\n' :: _ => 2
  | _ => 1

/-- The characters that separate tokens within a line. -/
def isWhiteSpace (c : Char) : Bool :=
  c == ' ' || c == '\t' || c == '\x0b' || c == '\x0c' || c == '\u00a0' || c == '\u1680' ||
    c == '\u180e' || (0x2000 ≤ c.toNat && c.toNat ≤ 0x200a) || c == '\u202f' || c == '\u205f' ||
    c == '\u3000' || c == '\ufeff'

namespace Place

/-- The place `n` characters further on the same line. -/
def forward (p : Place) (n : Nat) : Place := { p with index := p.index + n }

/-- The place after a line end of `n` characters. -/
def newLine (p : Place) (n : Nat) : Place :=
  { index := p.index + n, line := p.line + 1, lineStart := p.index + n }

/-- The column of a place, counted from zero. -/
def column (p : Place) : Int := (p.index : Int) - p.lineStart

/-- The rejection that blames this place. -/
def reject (p : Place) (complaint : Complaint := .illegal) : Rejection :=
  ⟨p.line, p.column + 1, complaint⟩

end Place

/-- The cursor at the start of a text. A text without characters has no first line. -/
def Cursor.start (text : List Char) : Cursor :=
  ⟨⟨0, if text.isEmpty then 0 else 1, 0⟩, text⟩

end Grammar

end Specifiers
