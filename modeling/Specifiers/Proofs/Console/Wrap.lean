import Specifiers.Console.Wrap

/-!
# What wrapping keeps

Wrapping leaves nothing out but blanks at the end of a line, and puts in nothing but a blank for half a wide
character. When a text is wrapped into a single line, every word has fitted into it (`fill_eq_singleton`), so
that whatever goes beyond its end is blank (`wrapTo_single`). A text with neither too many columns nor too
many characters is shown as it is (`wrapTo_of_narrow`).
-/

namespace Specifiers

namespace Console

variable {n used : Nat} {cs ds line text front rest : List Char} {ws : List (List Char)}
  {finish : List Char → List (List Char)}

/-! ## Blanks at the end -/

/-- A text is what remains without the blanks at its end, and these. -/
theorem exists_blanks (cs : List Char) :
    ∃ rest, cs = trimEnd cs ++ rest ∧ ∀ c ∈ rest, isBlank c = true := by
  refine ⟨(cs.reverse.takeWhile isBlank).reverse, ?_, fun c hc => ?_⟩
  · rw [trimEnd, ← List.reverse_append, List.takeWhile_append_dropWhile, List.reverse_reverse]
  · exact List.all_eq_true.mp List.all_takeWhile c (List.mem_reverse.mp hc)

/-- All blanks at the end are taken off. -/
theorem trimEnd_prefix (front : List Char) (blank : ∀ c ∈ rest, isBlank c = true) :
    trimEnd (front ++ rest) <+: front := by
  have hdrop : (front ++ rest).reverse.dropWhile isBlank = front.reverse.dropWhile isBlank := by
    rw [List.reverse_append, List.dropWhile_append_of_pos fun c hc => blank c (List.mem_reverse.mp hc)]
  have hsuffix := (List.dropWhile_suffix isBlank (l := front.reverse)).reverse
  rwa [List.reverse_reverse, ← hdrop] at hsuffix

/-! ## Columns -/

theorem width_cons (c : Char) (cs : List Char) : width (c :: cs) = columns c + width cs := rfl

/-- Texts take as many columns together as one after the other. -/
theorem width_append (cs ds : List Char) : width (cs ++ ds) = width cs + width ds := by
  induction cs with
  | nil => exact (Nat.zero_add _).symm
  | cons c cs ih => rw [List.cons_append, width_cons, width_cons, ih, Nat.add_assoc]

/-- The start of a text is not wider than the text. -/
theorem width_le_of_prefix (h : cs <+: ds) : width cs ≤ width ds := by
  obtain ⟨rest, rfl⟩ := h
  rw [width_append]
  exact Nat.le_add_right _ _

/-- A text without the blanks at its end is not wider. -/
theorem width_trimEnd_le (cs : List Char) : width (trimEnd cs) ≤ width cs := by
  have hprefix : trimEnd (cs ++ []) <+: cs := trimEnd_prefix cs (List.forall_mem_nil _)
  rw [List.append_nil] at hprefix
  exact width_le_of_prefix hprefix

/-- The blanks at the end of the second of two texts are at the end of both. -/
theorem width_trimEnd_append_le (cs ds : List Char) :
    width (trimEnd (cs ++ ds)) ≤ width cs + width (trimEnd ds) := by
  obtain ⟨rest, hds, blank⟩ := exists_blanks ds
  have hprefix : trimEnd (cs ++ ds) <+: cs ++ trimEnd ds := by
    conv => lhs; rw [hds, ← List.append_assoc]
    exact trimEnd_prefix _ blank
  rw [← width_append]
  exact width_le_of_prefix hprefix

/-! ## Words -/

/-- No character is lost between words. -/
theorem flatten_wordsFrom (word : List Char) (begun ended : Bool) (cs : List Char) :
    (wordsFrom word begun ended cs).flatten = word.reverse ++ cs := by
  induction cs generalizing word begun ended with
  | nil => simp [wordsFrom]
  | cons c cs ih =>
    rw [wordsFrom]
    split
    · simp [ih]
    · split <;> simp [ih]

/-- The words of a text make up the text. -/
theorem flatten_words (cs : List Char) : (words cs).flatten = cs := flatten_wordsFrom [] false false cs

/-! ## Folding and filling -/

/-- Folding a word gives a line at least. -/
theorem fold_ne_nil (hfinish : ∀ last, finish last ≠ []) (cs : List Char) :
    fold n finish line used cs ≠ [] := by
  induction cs generalizing line used with
  | nil => exact hfinish _
  | cons c cs ih =>
    rw [fold]
    split
    · exact List.cons_ne_nil _ _
    · exact ih

/-- Filling lines with words gives a line at least. -/
theorem fill_ne_nil (line : List Char) (ws : List (List Char)) : fill n line ws ≠ [] := by
  induction ws generalizing line with
  | nil => exact List.cons_ne_nil _ _
  | cons word ws ih =>
    rw [fill]
    split
    · exact ih _
    · split
      · exact List.cons_ne_nil _ _
      · exact List.append_ne_nil_of_right_ne_nil _ (fold_ne_nil (fun last => ih last) word)

/-- Characters that are folded into a single line fit into it. -/
theorem le_of_fold_eq_singleton (hfinish : ∀ last, finish last ≠ []) (hused : used ≤ n)
    (h : fold n finish line used cs = [front]) : used + width cs ≤ n := by
  induction cs generalizing line used with
  | nil => simpa [width] using hused
  | cons c cs ih =>
    rw [fold] at h
    split at h
    · -- A line that is broken is not the last one.
      exact absurd (List.cons.inj h).2 (fold_ne_nil hfinish cs)
    · have hrest := ih (by omega) h
      have hwidth := width_cons c cs
      omega

/-- When words fill a single line, this is all of them, and only blanks go beyond its end. -/
theorem fill_eq_singleton (hline : width (trimEnd line) ≤ n) (h : fill n line ws = [text]) :
    text = line ++ ws.flatten ∧ width (trimEnd text) ≤ n := by
  induction ws generalizing line with
  | nil =>
    obtain rfl : line = text := List.singleton_inj.mp h
    exact ⟨by simp, hline⟩
  | cons word ws ih =>
    rw [fill] at h
    split at h
    · next hfits =>
      have hnext := ih (Nat.le_trans (width_trimEnd_append_le line word) hfits) h
      rwa [List.append_assoc, ← List.flatten_cons] at hnext
    · split at h
      · exact absurd (List.cons.inj h).2 (fill_ne_nil word ws)
      · next hword =>
        have hfinish (last : List Char) : fill n last ws ≠ [] := fill_ne_nil last ws
        split at h
        · -- A word that fits into no line is broken.
          have hfolded := le_of_fold_eq_singleton hfinish (Nat.zero_le n) h
          have htrim := width_trimEnd_le word
          omega
        · exact absurd (List.cons.inj h).2 (fold_ne_nil hfinish word)

/-- Words that fit one after the other fill a single line. -/
theorem fill_of_narrow (h : width (line ++ ws.flatten) ≤ n) : fill n line ws = [line ++ ws.flatten] := by
  induction ws generalizing line with
  | nil => simp [fill]
  | cons word ws ih =>
    rw [List.flatten_cons, ← List.append_assoc] at h ⊢
    have hfits : width line + width (trimEnd word) ≤ n := by
      have htrim := width_trimEnd_le word
      rw [width_append, width_append] at h
      omega
    rw [fill, if_pos hfits, ih h]

/-- Filled lines have the characters of the words. -/
theorem mem_of_mem_fill {c : Char} (hline : front ∈ fill n line ws) (hc : c ∈ front) :
    c ∈ line ∨ c ∈ ws.flatten := by
  induction ws generalizing line with
  | nil => exact .inl (by simpa [fill] using List.mem_singleton.mp hline ▸ hc)
  | cons word ws ih =>
    -- a word longer than a line is cut: an induction of its own along its characters, with the line begun by
    -- the piece that is left
    have hfolded (cs before : List Char) (used : Nat)
        (h : front ∈ fold n (fun last => fill n last ws) before used cs) :
        c ∈ before.reverse ++ cs ∨ c ∈ ws.flatten := by
      induction cs generalizing before used with
      | nil => simpa using ih h
      | cons d cs ihcs =>
        rw [fold] at h
        split at h
        · rcases List.mem_cons.mp h with rfl | h
          · exact .inl (List.mem_append_left _ hc)
          · refine (ihcs _ _ h).imp_left fun hmem => ?_
            simp only [List.reverse_singleton, List.singleton_append] at hmem
            exact List.mem_append_right _ hmem
        · simpa using ihcs _ _ h
    rw [List.flatten_cons, List.mem_append]
    rw [fill] at hline
    split at hline
    · rcases ih hline with h | h
      · exact (List.mem_append.mp h).imp_right .inl
      · exact .inr (.inr h)
    · split at hline
      · rcases List.mem_cons.mp hline with rfl | hline
        · exact .inl hc
        · exact .inr (ih hline)
      · rcases List.mem_append.mp hline with hline | hline
        · split at hline
          · cases hline
          · exact .inl (List.mem_singleton.mp hline ▸ hc)
        · exact .inr (by simpa using hfolded word [] 0 hline)

/-! ## Cutting -/

/-- What fits is not cut. -/
theorem crop_append (h : width cs ≤ n) (ds : List Char) :
    crop n (cs ++ ds) = cs ++ crop (n - width cs) ds := by
  induction cs generalizing n with
  | nil => rfl
  | cons c cs ih =>
    have hwidth := width_cons c cs
    rw [List.cons_append, crop, if_pos (by omega), ih (by omega), hwidth, Nat.sub_add_eq]
    rfl

/-- A text that is narrow enough is not cropped. -/
theorem crop_of_narrow (h : width cs ≤ n) : crop n cs = cs := by
  have hcrop := crop_append h []
  simp only [List.append_nil, crop] at hcrop
  exact hcrop

/-- Of a line is shown what is in it, and perhaps blanks. -/
theorem mem_of_mem_crop {c : Char} (h : c ∈ crop n cs) : c ∈ cs ∨ c = ' ' := by
  induction cs generalizing n with
  | nil => cases h
  | cons d cs ih =>
    rw [crop] at h
    split at h
    · rcases List.mem_cons.mp h with rfl | h
      · exact .inl List.mem_cons_self
      · exact (ih h).imp_left (List.mem_cons_of_mem d)
    · exact .inr (List.eq_of_mem_replicate h)

/-- Trimming adds no characters. -/
theorem mem_of_mem_trimExcess {c : Char} (h : c ∈ trimExcess n line) : c ∈ line :=
  List.mem_of_mem_take h

/-- A line that is short enough is not trimmed. -/
theorem trimExcess_of_short (h : line.length ≤ n) : trimExcess n line = line := by
  rw [trimExcess, Nat.sub_eq_zero_of_le h, Nat.min_zero, Nat.sub_zero, List.take_length]

/-- Only blanks at the end are left out for being too many. -/
theorem exists_trimExcess (n : Nat) (line : List Char) :
    ∃ rest, trimExcess n line = trimEnd line ++ rest ∧ ∀ c ∈ rest, isBlank c = true := by
  obtain ⟨rest, hline, blank⟩ := exists_blanks line
  have hlength : line.length = (trimEnd line).length + rest.length := by
    conv => lhs; rw [hline]
    exact List.length_append
  let k := line.length - min (line.length - (trimEnd line).length) (line.length - n)
  have hk : (trimEnd line).length ≤ k := by omega
  have htake : trimExcess n line = line.take k := rfl
  refine ⟨rest.take (k - (trimEnd line).length), ?_, fun c hc => blank c (List.mem_of_mem_take hc)⟩
  calc trimExcess n line
      = (trimEnd line ++ rest).take k := by rw [htake, ← hline]
    _ = trimEnd line ++ rest.take (k - (trimEnd line).length) := by
      rw [List.take_append, List.take_of_length_le hk]

/-! ## Wrapping -/

/-- A text is wrapped to a line at least. -/
theorem wrapTo_ne_nil (n : Nat) (text : List Char) : wrapTo n text ≠ [] := by
  rw [wrapTo, Ne, List.map_eq_nil_iff]
  exact fill_ne_nil [] (words text)

/-- Wrapped lines have the characters of the text, and blanks. -/
theorem mem_of_mem_wrapTo {c : Char} (hline : line ∈ wrapTo n text) (hc : c ∈ line) :
    c ∈ text ∨ c = ' ' := by
  obtain ⟨whole, hwhole, rfl⟩ := List.mem_map.mp hline
  refine (mem_of_mem_crop hc).imp_left fun h => ?_
  rcases mem_of_mem_fill hwhole (mem_of_mem_trimExcess h) with h | h
  · cases h
  · rwa [flatten_words] at h

/-- A text that is wrapped into a single line can differ from it in the blanks at the end only. -/
theorem wrapTo_single (h : wrapTo n text = [line]) : ∃ front rest rest', text = front ++ rest ∧
    line = front ++ rest' ∧ (∀ c ∈ rest, isBlank c = true) ∧ ∀ c ∈ rest', isBlank c = true := by
  obtain ⟨whole, hfill, hline⟩ := List.map_eq_singleton_iff.mp h
  obtain ⟨hwhole, hfits⟩ := fill_eq_singleton (Nat.zero_le n) hfill
  obtain rfl : whole = text := by rw [hwhole, flatten_words, List.nil_append]
  obtain ⟨rest, htext, blank⟩ := exists_blanks whole
  obtain ⟨some, hsome, blank'⟩ := exists_trimExcess n whole
  refine ⟨trimEnd whole, rest, crop (n - width (trimEnd whole)) some, htext, ?_, blank, ?_⟩
  · rw [← hline, hsome, crop_append hfits]
  · intro c hc
    rcases mem_of_mem_crop hc with h | rfl
    · exact blank' c h
    · decide

/-- A text that is not too wide and has not too many characters is shown as it is. -/
theorem wrapTo_of_narrow (narrow : width text ≤ n) (short : text.length ≤ n) :
    wrapTo n text = [text] := by
  have hfill : fill n [] (words text) = [text] := by
    have hwords : width ([] ++ (words text).flatten) ≤ n → fill n [] (words text) =
        [[] ++ (words text).flatten] := fill_of_narrow
    rw [flatten_words, List.nil_append] at hwords
    exact hwords narrow
  rw [wrapTo, hfill, List.map_singleton, trimExcess_of_short short, crop_of_narrow narrow]

end Console

end Specifiers
