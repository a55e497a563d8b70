import Specifiers.Proofs.Dependency

/-!
# Queries in normal form

What a query reads as is written again as a text: the query in its normal form. Every table that a query
reads as can be written (`spellable_of_parse`), but names and versions are written as they are, with no
percent sign encoded, and what was decoded once is decoded again when the text is read. So a normal form
reads as the same table exactly when reading takes nothing from it (`IsPlain`). Any other one is refused
or reads as a table whose own text is shorter, for reading a text never makes it longer.
-/

namespace Specifiers

namespace Dependency

variable {query : String} {d : Table String}

/-- Does a text read as it stands, with nothing in it to decode and no slash to drop? -/
structure IsPlain (cs : List Char) : Prop where
  slash : cs.head? ≠ some '/'
  escape : ¬PercentEncoding.HasEscape cs

instance (cs : List Char) : Decidable (IsPlain cs) :=
  decidable_of_iff (cs.head? ≠ some '/' ∧ ¬PercentEncoding.HasEscape cs)
    ⟨fun ⟨slash, escape⟩ => ⟨slash, escape⟩, fun h => ⟨h.slash, h.escape⟩⟩

/-- Reading takes something from any text that is not plain. -/
theorem length_read_lt {cs : List Char} (h : ¬IsPlain cs) :
    (withoutSlash (PercentEncoding.decode cs)).length < cs.length := by
  by_cases escape : PercentEncoding.HasEscape cs
  · exact (length_withoutSlash_le _).trans_lt (PercentEncoding.length_decode_lt escape)
  · have slash : cs.head? = some '/' := not_not.mp fun slash => h ⟨slash, escape⟩
    obtain ⟨rest, rfl⟩ := List.head?_eq_some_iff.mp slash
    rw [PercentEncoding.decode_of_not_hasEscape escape]
    exact Nat.lt_succ_self _

/-- A table that a query reads as has entries, and they can be told apart in a query. -/
theorem spellable_of_parse (h : parse query = .ok d) : Spellable d := by
  rw [parse] at h
  generalize withoutSlash (PercentEncoding.decode query.toList) = text at h
  obtain ⟨es, hes, rfl⟩ := map_eq_ok_iff.mp h
  obtain ⟨hpieces, hgood⟩ := entries_eq_ok_iff.mp hes
  -- an entry comes from between two plus signs, so neither its name nor its version has one
  have hplus : ∀ e ∈ es, '+' ∉ spelled e := fun e he =>
    Split.not_mem_of_mem_pieces (hpieces ▸ List.mem_map_of_mem he)
  simp only [spelled, List.mem_append, List.mem_cons, not_or] at hplus
  constructor
  case distinct => exact Table.nodup_keys_ofEntries es
  case nonempty =>
    refine Table.ofEntries_ne_nil ?_
    rintro rfl
    exact Split.piecesFrom_ne_nil [] hpieces
  case names =>
    intro e he
    have he := Table.mem_of_mem_ofEntries he
    exact ⟨(hgood e he).1, (hplus e he).1⟩
  case versions =>
    intro e he
    have he := Table.mem_of_mem_ofEntries he
    exact ⟨(hgood e he).2.1, (hplus e he).2.2, (hgood e he).2.2⟩

/-- The normal form of a text that is not plain is shorter than the text. -/
theorem length_format_lt (h : parse query = .ok d) (notPlain : ¬IsPlain query.toList) :
    (format d).length < query.length := by
  rw [← String.length_toList, ← String.length_toList]
  exact (length_format_le h (spellable_of_parse h).nonempty).trans_lt (length_read_lt notPlain)

/-- The normal form of a query reads as what the query reads as exactly when it is plain. Otherwise it is
refused, or it reads as a table that has a shorter normal form. -/
theorem parse_format_of_parse (h : parse query = .ok d) :
    (parse (format d) = .ok d ↔ IsPlain (format d).toList) ∧
      ∀ d', ¬IsPlain (format d).toList → parse (format d) = .ok d' →
        (format d').length < (format d).length := by
  have hshorter : ∀ d', ¬IsPlain (format d).toList → parse (format d) = .ok d' →
      (format d').length < (format d).length := fun d' notPlain hd' => length_format_lt hd' notPlain
  refine ⟨⟨fun hd => ?_, fun plain => ?_⟩, hshorter⟩
  · by_contra notPlain
    exact lt_irrefl _ (hshorter d notPlain hd)
  · exact parse_format (spellable_of_parse h) plain.slash plain.escape

/-- A scoped name and a percent sign that stands for itself are written as they are read. -/
theorem parse_format_of_parse_scoped :
    let d : Table String := [("@babel/core", "7.0.0"), ("50%", "next")]
    parse "/%40babel%2Fcore@7.0.0%2B50%@1+50%25@next" = .ok d ∧ parse (format d) = .ok d := by
  intro d
  have h : parse "/%40babel%2Fcore@7.0.0%2B50%@1+50%25@next" = .ok d := by decide +kernel
  exact ⟨h, (parse_format_of_parse h).1.mpr (by decide)⟩

/-- An escape that is decoded to a percent sign and two digits is decoded once more in the normal form. -/
theorem exists_parse_format_ne :
    ¬∀ (query : String) (d : Table String), parse query = .ok d → parse (format d) = .ok d := by
  intro h
  have hquery : parse "a%2541@1" = .ok [("a%41", "1")] := by decide +kernel
  exact absurd (h _ _ hquery) (by decide +kernel)

end Dependency

end Specifiers
