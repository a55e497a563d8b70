import Mathlib.Tactic.Common
import Specifiers.Grammar.Trivia

/-!
# Lines and columns

The place of each character of a text (`placeAt`), when a carriage return with a line feed after it is one
end of a line.

Where a line starts matters to its columns only up to its end: two places on lines of the same number, at
the same column unless it is the first line, still agree after any text (`Agree.after`).

The scanner passes over a line end as a whole, and over marks of several characters. It keeps the places of
the characters all the same: what lies between two tokens leads from one to another (`skipGap_eq`).
-/

namespace Specifiers

namespace Grammar

/-- Does a line end with this character, when `cs` follows? -/
def endsLine (c : Char) (cs : List Char) : Bool :=
  isLineTerminator c && lineEndLength (c :: cs) == 1

namespace Place

/-- The place where a text starts. -/
def origin : Place := ⟨0, 1, 0⟩

/-- The place after a character. -/
def past (p : Place) (c : Char) (cs : List Char) : Place :=
  if endsLine c cs then p.newLine 1 else p.forward 1

/-- The place after the first `n` characters of a text that starts here, or after all of them where the
text is shorter. -/
def after (p : Place) : Nat → List Char → Place
  | 0, _ => p
  | _ + 1, [] => p
  | n + 1, c :: cs => (p.past c cs).after n cs

end Place

/-- The place of the character with the index `n` in a text, or of its end where the text is shorter. -/
def placeAt (text : List Char) (n : Nat) : Place := Place.origin.after n text

variable {p q : Place} {c : Char} {cs mark : List Char}

/-! ## Texts read from two places -/

@[simp] theorem Place.column_newLine (p : Place) (n : Nat) : (p.newLine n).column = 0 := Int.sub_self _

@[simp] theorem Place.column_forward (p : Place) (n : Nat) : (p.forward n).column = p.column + n := by
  show ((p.index + n : Nat) : Int) - p.lineStart = p.index - p.lineStart + n
  omega

/-- Are the lines of two places of the same number, and the columns the same but for the first line? -/
structure Agree (p q : Place) : Prop where
  line : p.line = q.line
  column : 1 < p.line → p.column = q.column

/-- Cursors that agree still agree after a line end. -/
theorem Agree.newLine (h : Agree p q) (n : Nat) : Agree (p.newLine n) (q.newLine n) where
  line := congrArg (· + 1) h.line
  column _ := by rw [Place.column_newLine, Place.column_newLine]

/-- Cursors that agree still agree further on in the line. -/
theorem Agree.forward (h : Agree p q) (n : Nat) : Agree (p.forward n) (q.forward n) where
  line := h.line
  column later := by rw [Place.column_forward, Place.column_forward, h.column later]

/-- Places that agree still do so after any text. -/
theorem Agree.after (h : Agree p q) (n : Nat) (cs : List Char) : Agree (p.after n cs) (q.after n cs) := by
  induction cs generalizing n p q with
  | nil => cases n <;> exact h
  | cons c cs ih =>
    cases n with
    | zero => exact h
    | succ n =>
      -- Whether the character ends a line is a matter of the text, and the same for both places.
      apply ih
      unfold Place.past
      split
      · exact h.newLine 1
      · exact h.forward 1

/-! ## The places of the scanner -/

/-- After any other character the place is further on in the line. -/
theorem Place.past_of_not (h : isLineTerminator c = false) : p.past c cs = p.forward 1 := by
  rw [Place.past, endsLine, h, Bool.false_and, if_neg Bool.false_ne_true]

/-- Characters that end no line lie on one line. -/
theorem Place.after_append (p : Place) (h : ∀ c ∈ mark, isLineTerminator c = false)
    (rest : List Char) (n : Nat) :
    p.after (mark.length + n) (mark ++ rest) = (p.forward mark.length).after n rest := by
  induction mark generalizing p with
  | nil => rw [List.length_nil, Nat.zero_add, List.nil_append]; rfl
  | cons c mark ih =>
    obtain ⟨hc, hmark⟩ := List.forall_mem_cons.mp h
    have hlength : (c :: mark).length + n = (mark.length + n) + 1 := by
      rw [List.length_cons]
      omega
    rw [hlength, List.cons_append, Place.after, Place.past_of_not hc, ih (p.forward 1) hmark]
    simp only [Place.forward, List.length_cons, Nat.add_assoc, Nat.add_comm 1]

/-- A line ends with one character, or with a carriage return and the line feed after it. -/
theorem lineEndLength_cases (c : Char) (cs : List Char) :
    lineEndLength (c :: cs) = 1 ∨ ∃ rest, c = '\r' ∧ cs = '\n' :: rest := by
  unfold lineEndLength
  split
  next rest heq =>
    obtain ⟨rfl, rfl⟩ := List.cons.inj heq
    exact .inr ⟨rest, rfl, rfl⟩
  next => exact .inl rfl

/-- A line end is passed as a whole, whether it has one or two characters. -/
theorem Place.after_lineEnd (h : isLineTerminator c = true) :
    p.after (lineEndLength (c :: cs)) (c :: cs) = p.newLine (lineEndLength (c :: cs)) := by
  rcases lineEndLength_cases c cs with hone | ⟨rest, rfl, rfl⟩
  · have hends : endsLine c cs = true := by rw [endsLine, h, hone]; rfl
    rw [hone, Place.after, Place.after, Place.past, if_pos hends]
  · rfl

/-- A text that starts with two characters is found to start with them. -/
theorem pair_prefix {a b : Char} (h : (c == a && cs.head? == some b) = true) : [a, b] <+: c :: cs := by
  simp only [Bool.and_eq_true, beq_iff_eq] at h
  obtain ⟨rfl, hb⟩ := h
  obtain ⟨rest, rfl⟩ := List.head?_eq_some_iff.mp hb
  exact ⟨rest, rfl⟩

/-- What is passed over between two tokens, where no line ends, is one character or a mark. -/
theorem Gap.exists_mark {isModule : Bool} {gap next : Gap} {n : Nat} (hc : isLineTerminator c = false)
    (h : gap.step isModule c cs = some (next, n)) :
    ∃ mark, mark <+: c :: cs ∧ mark.length = n ∧ mark ≠ [] ∧
      (mark.all fun d => !isLineTerminator d) = true := by
  have hone : [c] <+: c :: cs := ⟨cs, rfl⟩
  cases gap with
  | blank fresh =>
    simp only [Gap.step, hc, Bool.false_eq_true, if_false] at h
    split_ifs at h with hwhite hline hblock harrow hopen <;> cases h
    · exact ⟨[c], hone, rfl, List.cons_ne_nil _ _, by simpa using hc⟩
    · exact ⟨['/', '/'], pair_prefix hline, rfl, List.cons_ne_nil _ _, rfl⟩
    · exact ⟨['/', '*'], pair_prefix hblock, rfl, List.cons_ne_nil _ _, rfl⟩
    · have hprefix := List.isPrefixOf_iff_prefix.mp (Bool.and_eq_true_iff.mp harrow).2
      exact ⟨['-', '-', '>'], hprefix, rfl, List.cons_ne_nil _ _, rfl⟩
    · have hprefix := List.isPrefixOf_iff_prefix.mp (Bool.and_eq_true_iff.mp hopen).2
      exact ⟨['<', '!', '-', '-'], hprefix, rfl, List.cons_ne_nil _ _, rfl⟩
  | lineComment fresh =>
    simp only [Gap.step, hc, Bool.false_eq_true, if_false] at h
    cases h
    exact ⟨[c], hone, rfl, List.cons_ne_nil _ _, by simpa using hc⟩
  | blockComment fresh =>
    simp only [Gap.step, hc, Bool.false_eq_true, if_false] at h
    split_ifs at h with hclose <;> cases h
    · exact ⟨['*', '/'], pair_prefix hclose, rfl, List.cons_ne_nil _ _, rfl⟩
    · exact ⟨[c], hone, rfl, List.cons_ne_nil _ _, by simpa using hc⟩

/-- A step over a line end takes all of it. -/
theorem Gap.length_of_lineEnd {isModule : Bool} {gap next : Gap} {n : Nat}
    (hc : isLineTerminator c = true) (h : gap.step isModule c cs = some (next, n)) :
    n = lineEndLength (c :: cs) := by
  cases gap <;> simp only [Gap.step, hc, if_true, Option.some.injEq, Prod.mk.injEq] at h <;>
    exact h.2.symm

/-- The place that the scanner keeps over a step is that after the characters passed. -/
theorem Gap.after_step {isModule : Bool} {gap next : Gap} {n : Nat}
    (h : gap.step isModule c cs = some (next, n)) :
    (if isLineTerminator c then p.newLine n else p.forward n) = (p.past c cs).after (n - 1) cs := by
  -- The first character is passed on its own, which leaves `n - 1` of them.
  have hpast (hn : 0 < n) : (p.past c cs).after (n - 1) cs = p.after n (c :: cs) := by
    obtain ⟨m, rfl⟩ : ∃ m, n = m + 1 := ⟨n - 1, by omega⟩
    rfl
  cases hc : isLineTerminator c with
  | true =>
    obtain rfl := Gap.length_of_lineEnd hc h
    have hn : 0 < lineEndLength (c :: cs) := by
      unfold lineEndLength
      split <;> decide
    rw [if_pos rfl, hpast hn, Place.after_lineEnd hc]
  | false =>
    obtain ⟨mark, ⟨rest, hrest⟩, rfl, hne, hmark⟩ := Gap.exists_mark hc h
    have hafter := p.after_append (by simpa using hmark) rest 0
    rw [if_neg Bool.false_ne_true, hpast (List.length_pos_iff.mpr hne), ← hrest]
    exact hafter.symm

/-- White space and comments are passed over from the place of one character to that of another. -/
theorem skipGap_eq {isModule : Bool} {gap : Gap} {skip : Nat} {cursor : Cursor}
    (h : skipGap isModule gap skip (p.after skip cs) cs = .ok cursor) :
    ∃ n, cursor = ⟨p.after n cs, cs.drop n⟩ := by
  -- The scanner has the place after the characters that it skips, `skip` of them.
  induction cs generalizing gap skip p with
  | nil =>
    have hstay : p.after skip [] = p := by cases skip <;> rfl
    rw [hstay] at h
    cases gap with
    | blockComment fresh => exact absurd h (by simp [skipGap])
    | blank fresh | lineComment fresh => exact ⟨0, (Except.ok.inj h).symm⟩
  | cons c cs ih =>
    cases skip with
    | succ skip =>
      obtain ⟨n, hn⟩ := ih h
      exact ⟨n + 1, hn⟩
    | zero =>
      rw [skipGap] at h
      cases hstep : gap.step isModule c cs with
      | none =>
        simp only [hstep] at h
        exact ⟨0, (Except.ok.inj h).symm⟩
      | some step =>
        simp only [hstep, Place.after] at h
        rw [Gap.after_step hstep] at h
        obtain ⟨n, hn⟩ := ih h
        exact ⟨n + 1, hn⟩

end Grammar

end Specifiers
