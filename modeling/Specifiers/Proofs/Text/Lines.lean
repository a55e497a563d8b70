import Mathlib.Tactic.Common
import Specifiers.Text.Lines

/-!
# Texts with other line ends

A text whose line feeds are written as another kind of line end, the same for all of them, reads as the
text itself. Of two line ends next to each other none is lost: a line feed is dropped only after a
carriage return, and where line ends are carriage returns alone there is no line feed.
-/

namespace Specifiers

namespace Lines

/-- The ways to end a line. -/
inductive LineEnd
  | lineFeed
  | carriageReturn
  | both
  deriving DecidableEq, Repr

/-- The characters of a line end. -/
def LineEnd.chars : LineEnd → List Char
  | lineFeed => ['\n']
  | carriageReturn => ['\r']
  | both => ['\r', '\n']

/-- A text with a line end for each line feed. -/
def written (lineEnd : LineEnd) (cs : List Char) : List Char :=
  cs.flatMap fun c => if c = '\n' then lineEnd.chars else [c]

variable {lineEnd : LineEnd} {cs : List Char}

/-- Reading on gives the text that was written. Just after a carriage return this needs that line ends
are carriage returns alone: then no line feed follows that would be dropped. -/
theorem unifyFrom_written (before : List Char) (afterReturn : Bool) (noReturn : '\r' ∉ cs)
    (alone : afterReturn = true → lineEnd = .carriageReturn) :
    unifyFrom before afterReturn (written lineEnd cs) = before.reverse ++ cs := by
  -- the flag tells that the last character was a carriage return; only lines that end in that alone leave it
  -- set
  induction cs generalizing before afterReturn with
  | nil => simp [written, unifyFrom]
  | cons c cs ih =>
    obtain ⟨hc, hcs⟩ := List.ne_and_not_mem_of_not_mem_cons noReturn
    by_cases hfeed : c = '\n'
    · subst hfeed
      have hsplit : written lineEnd ('\n' :: cs) = lineEnd.chars ++ written lineEnd cs := rfl
      have hnext (flag : Bool) (halone : flag = true → lineEnd = .carriageReturn) :
          unifyFrom ('\n' :: before) flag (written lineEnd cs) = before.reverse ++ '\n' :: cs := by
        rw [ih _ _ hcs halone]
        simp
      rw [hsplit]
      cases lineEnd with
      | lineFeed =>
        have hflag : afterReturn = false := by simpa using alone
        rw [hflag]
        exact hnext false nofun
      | carriageReturn => exact hnext true fun _ => rfl
      | both => exact hnext false nofun
    · have hsplit : written lineEnd (c :: cs) = c :: written lineEnd cs := by
        simp [written, hfeed]
      rw [hsplit, unifyFrom, if_neg (by simpa using hc.symm), if_neg (by simp [hfeed]),
        ih _ false hcs nofun]
      simp

/-- Line ends of any one kind are read as line feeds. -/
theorem unify_written (lineEnd : LineEnd) (noReturn : '\r' ∉ cs) : unify (written lineEnd cs) = cs :=
  unifyFrom_written [] false noReturn nofun

end Lines

end Specifiers
