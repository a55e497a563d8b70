import Mathlib.Data.List.TakeWhile
import Specifiers.Hashbang
import Specifiers.Proofs.Grammar.Cursor

/-!
# Texts without their hashbang

A hashbang is left out up to the end of its line, and the end stays. So no character gets to another line,
and none but those of the first line to another column (`stripHashbang_keeps_lines`).
-/

namespace Specifiers

open Grammar (Agree Cursor Place isLineTerminator placeAt)

namespace Hashbang

/-- The characters that a hashbang starts with. -/
def mark : List Char := ['#', '!']

/-- The hashbang of a text, up to the end of its line. There is none where the mark is missing. -/
def hashbang (cs : List Char) : List Char :=
  if mark.isPrefixOf cs then cs.takeWhile fun c => !isLineTerminator c else []

variable {cs : List Char}

/-- After the mark everything up to the end of the line belongs to it. -/
theorem hashbang_of_mark (h : mark <+: cs) :
    hashbang cs = cs.takeWhile fun c => !isLineTerminator c :=
  if_pos (List.isPrefixOf_iff_prefix.mpr h)

/-- Without the mark there is nothing to strip. -/
theorem hashbang_of_not (h : ¬mark <+: cs) : hashbang cs = [] :=
  if_neg (mt List.isPrefixOf_iff_prefix.mp h)

/-- The mark ends no line, so it is left out with the rest of the line. -/
theorem strip_of_mark (h : mark <+: cs) : strip cs = cs.dropWhile fun c => !isLineTerminator c := by
  obtain ⟨rest, rfl⟩ := h
  rfl

/-- So the text stays as it is. -/
theorem strip_of_not (h : ¬mark <+: cs) : strip cs = cs := by
  unfold strip
  split
  next rest => exact absurd ⟨rest, rfl⟩ h
  next => rfl

/-- What is stripped and what is left are the text. -/
theorem hashbang_append_strip (cs : List Char) : hashbang cs ++ strip cs = cs := by
  by_cases h : mark <+: cs
  · rw [hashbang_of_mark h, strip_of_mark h]
    exact List.takeWhile_append_dropWhile
  · rw [hashbang_of_not h, strip_of_not h, List.nil_append]

/-- What is stripped is part of one line. -/
theorem hashbang_noLineEnd (cs : List Char) : ∀ c ∈ hashbang cs, isLineTerminator c = false := by
  intro c hc
  by_cases h : mark <+: cs
  · rw [hashbang_of_mark h] at hc
    simpa using List.mem_takeWhile_imp hc
  · rw [hashbang_of_not h] at hc
    exact absurd hc List.not_mem_nil

/-- A beginning of the text that ends no line is within the hashbang. -/
theorem prefix_hashbang (h : mark <+: cs) {start : List Char} (hstart : start <+: cs)
    (noLineEnd : ∀ c ∈ start, isLineTerminator c = false) : start <+: hashbang cs := by
  rw [hashbang_of_mark h]
  obtain ⟨rest, rfl⟩ := hstart
  rw [List.takeWhile_append_of_pos (by simpa using noLineEnd)]
  exact List.prefix_append start _

/-- What is left after a hashbang is nothing or starts with the end of its line. -/
theorem head?_strip (h : mark <+: cs) : ∀ c ∈ (strip cs).head?, isLineTerminator c = true := by
  intro c hc
  rw [strip_of_mark h] at hc
  have hstop := List.head?_dropWhile_not (fun c => !isLineTerminator c) cs
  rw [Option.mem_def.mp hc] at hstop
  simpa using hstop

/-- No hashbang is left. -/
theorem not_mark_prefix_strip (cs : List Char) : ¬mark <+: strip cs := by
  intro hmark
  by_cases h : mark <+: cs
  · obtain ⟨rest, hrest⟩ := hmark
    have hhead := head?_strip h '#' (by rw [← hrest]; rfl)
    exact absurd hhead (by decide)
  · rw [strip_of_not h] at hmark
    exact h hmark

/-- A place in what is left agrees with the place of the same character in the text. -/
theorem agree_strip (cs : List Char) (n : Nat) :
    Agree (placeAt cs ((hashbang cs).length + n)) (placeAt (strip cs) n) := by
  have hplace := Place.origin.after_append (hashbang_noLineEnd cs) (strip cs) n
  rw [hashbang_append_strip] at hplace
  rw [placeAt, hplace]
  -- Both texts go on with the same characters on the first line, where columns need not agree.
  apply Agree.after
  exact ⟨rfl, fun hlater => absurd hlater (Nat.lt_irrefl 1)⟩

/-- The first token is found in what is left at a place that agrees with the token's own in the text. A
text without characters has no first line, so this is about what is left when it is not empty. -/
theorem skipGap_strip {isModule : Bool} {cursor : Cursor} (hne : strip cs ≠ [])
    (h : (Cursor.start (strip cs)).skipGap isModule = .ok cursor) :
    ∃ n, cursor.rest = cs.drop ((hashbang cs).length + n) ∧
      Agree (placeAt cs ((hashbang cs).length + n)) cursor.place := by
  have hstart : (Cursor.start (strip cs)).place = Place.origin.after 0 (strip cs) := by
    rw [Cursor.start, if_neg (by simpa using hne)]
    rfl
  rw [Cursor.skipGap, hstart] at h
  obtain ⟨n, rfl⟩ := Grammar.skipGap_eq h
  refine ⟨n, ?_, agree_strip cs n⟩
  calc (strip cs).drop n
      = (hashbang cs ++ strip cs).drop ((hashbang cs).length + n) :=
        (List.drop_length_add_append n).symm
    _ = cs.drop ((hashbang cs).length + n) := by rw [hashbang_append_strip]

end Hashbang

/-- What is left of a text without its hashbang is the end of the text: all of it where no mark of a
hashbang stands in front, and else what follows the longest beginning that ends no line. Its characters
are on the lines on which they stand in the text, at the same columns unless the line is the first. There
is no hashbang left to be left out. -/
theorem stripHashbang_keeps_lines (text : String) :
    ∃ removed, text.toList = removed ++ (stripHashbang text).toList ∧
      (¬Hashbang.mark <+: text.toList → stripHashbang text = text) ∧
      (∀ c ∈ removed, isLineTerminator c = false) ∧
      (Hashbang.mark <+: text.toList →
        (∀ start, start <+: text.toList → (∀ c ∈ start, isLineTerminator c = false) →
          start <+: removed) ∧
        ∀ c ∈ (stripHashbang text).toList.head?, isLineTerminator c = true) ∧
      (∀ n, Agree (placeAt text.toList (removed.length + n))
        (placeAt (stripHashbang text).toList n)) ∧
      stripHashbang (stripHashbang text) = stripHashbang text := by
  have hchars : (stripHashbang text).toList = Hashbang.strip text.toList := String.toList_ofList
  have hagain : Hashbang.strip (Hashbang.strip text.toList) = Hashbang.strip text.toList :=
    Hashbang.strip_of_not (Hashbang.not_mark_prefix_strip text.toList)
  -- what is removed is the hashbang, and every conjunct is one of its laws
  refine ⟨Hashbang.hashbang text.toList, ?_, ?_, Hashbang.hashbang_noLineEnd text.toList, ?_, ?_, ?_⟩
  · rw [hchars]
    exact (Hashbang.hashbang_append_strip text.toList).symm
  · intro h
    rw [stripHashbang, Hashbang.strip_of_not h, String.ofList_toList]
  · intro h
    rw [hchars]
    exact ⟨fun start hstart hline => Hashbang.prefix_hashbang h hstart hline, Hashbang.head?_strip h⟩
  · intro n
    rw [hchars]
    exact Hashbang.agree_strip text.toList n
  · rw [stripHashbang, hchars, hagain, stripHashbang]

example : stripHashbang "#!x\r\ny" = "\r\ny" := by decide

end Specifiers
