import Mathlib.Algebra.Ring.Nat
import Mathlib.Data.List.TakeDrop
import Mathlib.Data.List.TakeWhile
import Specifiers.Text.Split

/-!
# Splitting and joining

Splitting a text at a separator and joining the pieces with it undo each other: joining always gives
the text back (`intercalate_pieces`), and splitting gives the pieces back when the separator is in none
of them (`pieces_intercalate`). The pieces are the texts without the separator that stand between two of
them or at an end (`mem_pieces_iff`). The last separator is the one with none after it.
-/

namespace Specifiers

namespace Split

variable {separator : Char} {cs : List Char}

/-- A text without the separator is one piece. -/
theorem piecesFrom_of_not_mem (piece : List Char) (h : separator ∉ cs) :
    piecesFrom separator piece cs = [piece.reverse ++ cs] := by
  induction cs generalizing piece with
  | nil => simp [piecesFrom]
  | cons c cs ih =>
    rw [List.mem_cons, not_or] at h
    have hc : ¬(c == separator) = true := by simpa using Ne.symm h.1
    rw [piecesFrom, if_neg hc, ih _ h.2]
    simp

/-- The first separator ends a piece. -/
theorem piecesFrom_append (piece rest : List Char) (h : separator ∉ cs) :
    piecesFrom separator piece (cs ++ separator :: rest) =
      (piece.reverse ++ cs) :: pieces separator rest := by
  induction cs generalizing piece with
  | nil => simp [piecesFrom, pieces]
  | cons c cs ih =>
    rw [List.mem_cons, not_or] at h
    have hc : ¬(c == separator) = true := by simpa using Ne.symm h.1
    rw [List.cons_append, piecesFrom, if_neg hc, ih _ h.2]
    simp

/-- The pieces on both sides of a separator are those of the two parts. -/
theorem pieces_append_cons (before after : List Char) :
    pieces separator (before ++ separator :: after) =
      pieces separator before ++ pieces separator after := by
  have hfrom (piece : List Char) : piecesFrom separator piece (before ++ separator :: after) =
      piecesFrom separator piece before ++ pieces separator after := by
    induction before generalizing piece with
    | nil => simp [piecesFrom, pieces]
    | cons c before ih =>
      rw [List.cons_append, piecesFrom, piecesFrom]
      split
      · rw [ih, List.cons_append]
      · exact ih _
  exact hfrom []

/-- Texts without the separator are the pieces of what they spell with the separator between them. -/
theorem pieces_intercalate {texts : List (List Char)} (nonempty : texts ≠ [])
    (h : ∀ text ∈ texts, separator ∉ text) : pieces separator ([separator].intercalate texts) = texts := by
  induction texts with
  | nil => exact absurd rfl nonempty
  | cons text texts ih =>
    have hfirst := h text List.mem_cons_self
    cases texts with
    | nil => simpa [pieces] using piecesFrom_of_not_mem [] hfirst
    | cons next texts =>
      rw [List.intercalate_cons_cons, pieces, List.append_assoc, List.singleton_append,
        piecesFrom_append _ _ hfirst, ih (by simp) fun text m => h text (List.mem_cons_of_mem _ m)]
      rfl

/-- There is always a piece. -/
theorem piecesFrom_ne_nil (piece : List Char) : piecesFrom separator piece cs ≠ [] := by
  induction cs generalizing piece with
  | nil => simp [piecesFrom]
  | cons c cs ih =>
    rw [piecesFrom]
    split
    · simp
    · exact ih _

/-- The pieces spell the text with the separator between them. -/
theorem intercalate_pieces (separator : Char) (cs : List Char) :
    [separator].intercalate (pieces separator cs) = cs := by
  -- the piece being read is generalized, it is written in reverse
  have hfrom (piece : List Char) :
      [separator].intercalate (piecesFrom separator piece cs) = piece.reverse ++ cs := by
    induction cs generalizing piece with
    | nil => simp [piecesFrom]
    | cons c cs ih =>
      rw [piecesFrom]
      split
      · next hc =>
        rw [beq_iff_eq] at hc
        subst hc
        obtain ⟨next, rest, hrest⟩ := List.exists_cons_of_ne_nil (@piecesFrom_ne_nil c cs [])
        have ih := ih []
        rw [hrest] at ih ⊢
        rw [List.intercalate_cons_cons, ih]
        simp
      · rw [ih]
        simp
  exact hfrom []

/-- The separator is in none of the pieces. -/
theorem not_mem_of_mem_pieces {piece : List Char} (h : piece ∈ pieces separator cs) :
    separator ∉ piece := by
  -- None of the characters of the current piece is the separator.
  have hfrom (before : List Char) (hbefore : separator ∉ before) :
      ∀ piece ∈ piecesFrom separator before cs, separator ∉ piece := by
    clear h
    induction cs generalizing before with
    | nil => simpa [piecesFrom] using hbefore
    | cons c cs ih =>
      rw [piecesFrom]
      split
      · exact List.forall_mem_cons.mpr ⟨by simpa using hbefore, ih [] List.not_mem_nil⟩
      · next hc =>
        refine ih (c :: before) fun hmem => ?_
        rcases List.mem_cons.mp hmem with rfl | hmem
        · exact hc (beq_self_eq_true _)
        · exact hbefore hmem
  exact hfrom [] List.not_mem_nil piece h

/-! ## The places of pieces -/

/-- Can a piece begin after this text: is it empty, or does it end with the separator? -/
def EndsPiece (separator : Char) (before : List Char) : Prop :=
  before = [] ∨ ∃ b, before = b ++ [separator]

theorem EndsPiece.append_cons {before : List Char} (h : EndsPiece separator before)
    (first : List Char) : EndsPiece separator (first ++ separator :: before) := by
  rcases h with rfl | ⟨b, rfl⟩
  · exact .inr ⟨first, rfl⟩
  · exact .inr ⟨first ++ separator :: b, by simp⟩

/-- Where a text stands among joined texts; what follows it begins with the separator unless it is the
last one. -/
theorem exists_intercalate_append (separator : Char) (first : List (List Char)) (text : List Char)
    (rest : List (List Char)) :
    ∃ before after, [separator].intercalate (first ++ text :: rest) = before ++ text ++ after ∧
      EndsPiece separator before ∧ (rest = [] ∧ after = [] ∨ ∃ a, after = separator :: a) := by
  induction first with
  | nil =>
    cases rest with
    | nil => exact ⟨[], [], by simp, .inl rfl, .inl ⟨rfl, rfl⟩⟩
    | cons next rest =>
      refine ⟨[], separator :: [separator].intercalate (next :: rest), ?_, .inl rfl, .inr ⟨_, rfl⟩⟩
      rw [List.nil_append, List.intercalate_cons_cons, List.append_assoc]
      rfl
  | cons x first ih =>
    obtain ⟨before, after, hall, hbefore, hafter⟩ := ih
    refine ⟨x ++ separator :: before, after, ?_, hbefore.append_cons x, hafter⟩
    rw [List.cons_append, List.intercalate_cons_of_ne_nil (by simp), hall]
    simp

/-- A piece stands between two separators, or between one of them and an end of the text. -/
theorem mem_pieces_iff {piece : List Char} :
    piece ∈ pieces separator cs ↔ separator ∉ piece ∧ ∃ before after, cs = before ++ piece ++ after ∧
      EndsPiece separator before ∧ (after = [] ∨ ∃ a, after = separator :: a) := by
  constructor
  · intro h
    refine ⟨not_mem_of_mem_pieces h, ?_⟩
    obtain ⟨first, rest, hpieces⟩ := List.append_of_mem h
    obtain ⟨before, after, hall, hbefore, hafter⟩ :=
      exists_intercalate_append separator first piece rest
    rw [← hpieces, intercalate_pieces] at hall
    exact ⟨before, after, hall, hbefore, hafter.imp_left And.right⟩
  · rintro ⟨hpiece, before, after, rfl, hbefore, hafter⟩
    have hself : pieces separator piece = [piece] := piecesFrom_of_not_mem [] hpiece
    have hend : piece ∈ pieces separator (piece ++ after) := by
      rcases hafter with rfl | ⟨a, rfl⟩
      · simp [hself]
      · simp [pieces_append_cons, hself]
    rcases hbefore with rfl | ⟨b, rfl⟩
    · exact hend
    · have hcs : b ++ [separator] ++ piece ++ after = b ++ separator :: (piece ++ after) := by simp
      rw [hcs, pieces_append_cons]
      exact List.mem_append_right _ hend

/-- A piece that is not the last one stands before a separator. -/
theorem mem_dropLast_pieces_iff {piece : List Char} :
    piece ∈ (pieces separator cs).dropLast ↔ separator ∉ piece ∧
      ∃ before after, cs = before ++ piece ++ separator :: after ∧ EndsPiece separator before := by
  have hne (text : List Char) : pieces separator text ≠ [] := piecesFrom_ne_nil []
  constructor
  · intro h
    refine ⟨not_mem_of_mem_pieces (List.dropLast_subset _ h), ?_⟩
    obtain ⟨first, rest, hpieces⟩ := List.append_of_mem h
    have hall := List.dropLast_concat_getLast (hne cs)
    rw [hpieces, List.append_assoc, List.cons_append] at hall
    obtain ⟨before, after, hcs, hbefore, hafter⟩ :=
      exists_intercalate_append separator first piece (rest ++ [_])
    rw [hall, intercalate_pieces] at hcs
    obtain ⟨hrest, -⟩ | ⟨a, rfl⟩ := hafter
    · simp at hrest
    · exact ⟨before, a, hcs, hbefore⟩
  · rintro ⟨hpiece, before, after, rfl, hbefore⟩
    rw [pieces_append_cons, List.dropLast_append_of_ne_nil (hne after)]
    exact List.mem_append_left _
      (mem_pieces_iff.mpr ⟨hpiece, before, [], by simp, hbefore, .inl rfl⟩)

/-- A character of a text is the separator or belongs to a piece. -/
theorem eq_or_exists_mem_pieces (separator : Char) {c : Char} (h : c ∈ cs) :
    c = separator ∨ ∃ piece ∈ pieces separator cs, c ∈ piece := by
  have hjoined (texts : List (List Char)) (hmem : c ∈ [separator].intercalate texts) :
      c = separator ∨ ∃ text ∈ texts, c ∈ text := by
    induction texts with
    | nil => simp at hmem
    | cons text texts ih =>
      by_cases hrest : texts = []
      · subst hrest
        exact .inr ⟨text, List.mem_singleton.mpr rfl, by simpa using hmem⟩
      · rw [List.intercalate_cons_of_ne_nil hrest, List.append_assoc, List.mem_append,
          List.singleton_append, List.mem_cons] at hmem
        rcases hmem with hmem | rfl | hmem
        · exact .inr ⟨text, List.mem_cons_self, hmem⟩
        · exact .inl rfl
        · exact (ih hmem).imp_right fun ⟨t, ht, hc⟩ => ⟨t, List.mem_cons_of_mem _ ht, hc⟩
  rw [← intercalate_pieces separator cs] at h
  exact hjoined _ h

/-! ## Lengths and the last separator -/

/-- Joined texts are as long as the texts and the separators between them. -/
theorem length_intercalate {texts : List (List Char)} (nonempty : texts ≠ []) :
    ([separator].intercalate texts).length + 1 = (texts.map fun text => text.length + 1).sum := by
  induction texts with
  | nil => exact absurd rfl nonempty
  | cons text texts ih =>
    cases texts with
    | nil => simp
    | cons next texts =>
      have ih := ih (by simp)
      rw [List.map_cons, List.sum_cons, ← ih, List.intercalate_cons_cons]
      simp only [List.length_append, List.length_singleton]
      omega

/-- The last separator has none after it. -/
theorem atLast?_eq_some_iff {before after : List Char} :
    atLast? separator cs = some (before, after) ↔
      cs = before ++ separator :: after ∧ separator ∉ after := by
  -- the last separator of a text is the first of its reverse
  rw [atLast?, List.span_eq_takeWhile_dropWhile]
  constructor
  · intro h
    have hsplit := List.takeWhile_append_dropWhile (p := (· != separator)) (l := cs.reverse)
    cases hdrop : cs.reverse.dropWhile (· != separator) with
    | nil => simp [hdrop] at h
    | cons c rest =>
      have hc : c = separator := by
        have hhead := List.head_dropWhile_not (· != separator) (l := cs.reverse) (by simp [hdrop])
        simpa [hdrop] using hhead
      obtain ⟨rfl, rfl⟩ : rest.reverse = before ∧
          (cs.reverse.takeWhile (· != separator)).reverse = after := by
        simpa [hdrop] using h
      constructor
      · rw [hdrop, hc] at hsplit
        have hcs := congrArg List.reverse hsplit
        rw [List.reverse_reverse] at hcs
        exact hcs.symm.trans (by simp)
      · intro hmem
        simpa using List.mem_takeWhile_imp (List.mem_reverse.mp hmem)
  · rintro ⟨rfl, h⟩
    have hafter : ∀ c ∈ after.reverse, (c != separator) = true := by
      intro c hc
      have hne : c ≠ separator := fun e => h (e ▸ List.mem_reverse.mp hc)
      simpa using hne
    have hreverse : (before ++ separator :: after).reverse =
        after.reverse ++ separator :: before.reverse := by simp
    rw [hreverse, List.takeWhile_append_of_pos hafter, List.dropWhile_append_of_pos hafter]
    simp

end Split

end Specifiers
