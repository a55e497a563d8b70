/-!
# Wildcards

The wildcards of one segment of a pattern: `*` for any characters but a slash, `?` for one of them, and
a set in brackets. A backslash takes the character after it for itself.

A token gives, for a text, the rests of the text that it can leave, the longest match first: so a
search through them in order finds what a backtracking matcher finds.
-/

namespace Specifiers

namespace Ignore

/-- A part of a set: a range of characters, which can be a single one. -/
structure Range where
  first : Char
  last : Char
  deriving DecidableEq, Repr

/-- A token of a segment. -/
inductive Token
  | anyRun
  | anyOne
  | set (negated : Bool) (ranges : List Range)
  | char (c : Char)
  deriving DecidableEq, Repr

/-- Why a segment spells no tokens. -/
inductive GlobFault
  /-- A backslash stands at the end. -/
  | danglingBackslash
  /-- A set does not end. -/
  | unclosedSet
  /-- A range runs backwards. -/
  | badRange (first last : Char)
  deriving DecidableEq, Repr

/-! ## Reading -/

/-- The members of a set: those before its closing bracket, and how many characters they are. A
bracket at the start is a member. -/
def setMembers? (cs : List Char) : Option (List Char) :=
  let start := cs.take (if cs.head? == some ']' then 1 else 0)
  let members := start ++ (cs.drop start.length).takeWhile (· != ']')
  if members.length < cs.length then some members else none

/-- The ranges that the members of a set spell. -/
def ranges : List Char → Except GlobFault (List Range)
  | a :: '-' :: b :: rest =>
    if b < a then .error (.badRange a b) else (ranges rest).map (⟨a, b⟩ :: ·)
  | a :: rest => (ranges rest).map (⟨a, a⟩ :: ·)
  | [] => .ok []

/-- A set, after its opening bracket, and how many characters it has up to its closing bracket. -/
def set (cs : List Char) : Except GlobFault (Token × Nat) :=
  let negated := cs.head? == some '!' || cs.head? == some '^'
  let offset := if negated then 1 else 0
  match setMembers? (cs.drop offset) with
  | none => .error .unclosedSet
  | some members =>
    (ranges members).map fun rs => (.set negated rs, offset + members.length + 1)

/-- The tokens of a segment; `skip` is the number of characters that belong to a set already read. -/
def tokensFrom (skip : Nat) : List Char → Except GlobFault (List Token)
  | [] => .ok []
  | ['\\'] => if skip = 0 then .error .danglingBackslash else .ok []
  | c :: cs =>
    match skip with
    | skip + 1 => tokensFrom skip cs
    | 0 =>
      match c, cs with
      | '\\', d :: _ => (tokensFrom 1 cs).map (.char d :: ·)
      | '*', _ => (tokensFrom 0 cs).map (.anyRun :: ·)
      | '?', _ => (tokensFrom 0 cs).map (.anyOne :: ·)
      | '[', _ => do
        let (token, length) ← set cs
        return token :: (← tokensFrom length cs)
      | _, _ => (tokensFrom 0 cs).map (.char c :: ·)

/-- The tokens of a segment. -/
def tokens (segment : List Char) : Except GlobFault (List Token) := tokensFrom 0 segment

/-! ## Matching -/

/-- The rests that a run of characters of a class can leave, the shortest rest first. -/
def runRests (p : Char → Bool) : List Char → List (List Char)
  | [] => [[]]
  | c :: cs => if p c then runRests p cs ++ [c :: cs] else [c :: cs]

/-- Is the character in one of the ranges? -/
def inRanges (ranges : List Range) (c : Char) : Bool := ranges.any fun r => r.first ≤ c && c ≤ r.last

/-- The rests of a text that a token can leave. -/
def Token.rests (t : Token) (text : List Char) : List (List Char) :=
  match t, text with
  | anyRun, cs => runRests (· != '/') cs
  | anyOne, c :: cs => if c != '/' then [cs] else []
  | set negated ranges, c :: cs => if inRanges ranges c != negated then [cs] else []
  | char d, c :: cs => if c == d then [cs] else []
  | _, [] => []

end Ignore

end Specifiers
