import Specifiers.Grammar.Cursor

/-!
# White space and comments

What lies between two tokens. Besides the two usual comment forms, `<!--` opens a comment that ends
with the line, except in a module, and so does `-->` when nothing but white space and comments stands
before it on its line.
-/

namespace Specifiers

namespace Grammar

/-- Where a run of white space and comments stands: between comments, in one that ends with the line,
or in one that ends with `*/`. The flag says whether only such a run stands before on the line (in a
line comment: whether it does after the comment). -/
inductive Gap
  | blank (fresh : Bool)
  | lineComment (fresh : Bool)
  | blockComment (fresh : Bool)

/-- What is passed over next, from the character `c` on: the gap after it, and how many characters it
takes. There is none where a token starts. -/
def Gap.step (isModule : Bool) (c : Char) (cs : List Char) : Gap → Option (Gap × Nat)
  | blank fresh =>
    if isLineTerminator c then some (blank true, lineEndLength (c :: cs))
    else if isWhiteSpace c then some (blank fresh, 1)
    else if c == '/' && cs.head? == some '/' then some (lineComment true, 2)
    else if c == '/' && cs.head? == some '*' then some (blockComment fresh, 2)
    else if fresh && ['-', '-', '>'].isPrefixOf (c :: cs) then some (lineComment true, 3)
    else if !isModule && ['<', '!', '-', '-'].isPrefixOf (c :: cs) then some (lineComment fresh, 4)
    else none
  | lineComment fresh =>
    if isLineTerminator c then some (blank fresh, lineEndLength (c :: cs))
    else some (lineComment fresh, 1)
  | blockComment fresh =>
    if isLineTerminator c then some (blockComment fresh, lineEndLength (c :: cs))
    else if c == '*' && cs.head? == some '/' then some (blank fresh, 2)
    else some (blockComment fresh, 1)

/-- Passes over white space and comments; `skip` is the number of characters passed already. A block
comment that does not end is illegal. -/
def skipGap (isModule : Bool) (gap : Gap) (skip : Nat) (p : Place) : List Char → Except Rejection Cursor
  | [] => match gap with
    | .blockComment _ => .error (p.reject .illegal)
    | _ => .ok ⟨p, []⟩
  | c :: cs => match skip with
    | skip + 1 => skipGap isModule gap skip p cs
    | 0 => match gap.step isModule c cs with
      | some (gap, n) =>
        skipGap isModule gap (n - 1) (if isLineTerminator c then p.newLine n else p.forward n) cs
      | none => .ok ⟨p, c :: cs⟩

/-- Passes over the white space and comments at a cursor. -/
def Cursor.skipGap (isModule : Bool) (c : Cursor) : Except Rejection Cursor :=
  Grammar.skipGap isModule (.blank (c.place.index == 0)) 0 c.place c.rest

end Grammar

end Specifiers
