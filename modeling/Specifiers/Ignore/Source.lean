import Specifiers.Ignore.Rules
import Specifiers.Text.Lines
import Specifiers.Text.Utf8

/-!
# Reading a file of patterns

The file is read in pieces of a fixed size. Each piece is decoded before its lines are used, so a fault
in the bytes hides the lines that are not complete before its piece, and not those before; where it
lies is counted from the start of the piece and of what was left over before it.
-/

namespace Specifiers

namespace Ignore

/-- How many bytes are read at a time. -/
def pieceSize : Nat := 8192

/-- Why a file of patterns cannot be used. -/
inductive SourceError
  | decoding (f : Utf8.Fault)
  | pattern (e : PatternError)
  deriving DecidableEq, Repr

/-- The wording of the error. -/
def SourceError.message : SourceError → String
  | decoding f => f.message
  | pattern e => e.message

/-- Decodes the pieces of a file one after the other. `before` holds the characters so far, the last
first, and `left` the bytes at the end of the last piece that do not spell a character yet. -/
def decodePieces (before : List Char) (left : List UInt8) :
    Nat → List UInt8 → List Char × Option Utf8.Fault
  | 0, _ => (before, none)
  | n + 1, bytes =>
    match bytes with
    | [] => match left with
      | [] => (before, none)
      | b :: _ => (before, some ⟨0, left.length, b, .unexpectedEnd⟩)
    | _ =>
      let piece := left ++ bytes.take pieceSize
      match Utf8.decodeUntil before 0 0 piece with
      | (before, none) => decodePieces before [] n (bytes.drop pieceSize)
      | (before', some fault) =>
        if fault.reason == .unexpectedEnd then
          decodePieces before' (piece.drop fault.position) n (bytes.drop pieceSize)
        else (before, some fault)

/-- The lines before a fault that are complete: those of characters given the last first. -/
def completeLines (before : List Char) : List (List Char) :=
  let text := match before with
    | '\r' :: rest => rest
    | _ => before
  (Lines.lines (Lines.unify text.reverse)).filter fun line => line.getLast? == some '\n'

/-- The rules that the bytes of a file spell. -/
def Rules.ofBytes (bytes : List UInt8) : Except SourceError Rules :=
  match decodePieces [] [] (bytes.length + 2) bytes with
  | (before, none) =>
    (Rules.ofLines (Lines.lines (Lines.unify before.reverse))).mapError .pattern
  | (before, some fault) =>
    match Rules.ofLines (completeLines before) with
    | .error e => .error (.pattern e)
    | .ok _ => .error (.decoding fault)

end Ignore

end Specifiers
