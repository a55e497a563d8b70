import Specifiers.Dependency
import Specifiers.Proofs.Result
import Specifiers.Proofs.Table
import Specifiers.Proofs.Text.PercentEncoding
import Specifiers.Proofs.Text.Split

/-!
# Dependency queries that read back

A table of dependencies is written as the entries `name@version` with `+` between them. When nothing in
the text is decoded and no slash is dropped, it reads back as the table. That these are the only texts
that do is an argument about length: every entry of the table is spelled in the text that is read,
which has therefore at least the length of the one that was written, and decoding an escape or dropping
the slash makes it shorter.
-/

namespace Specifiers

namespace Dependency

/-- A table of dependencies whose entries can be told apart in a query. -/
structure Spellable (d : Table String) : Prop where
  distinct : d.keys.Nodup
  nonempty : d ≠ []
  names : ∀ e ∈ d, e.1 ≠ "" ∧ '+' ∉ e.1.toList
  versions : ∀ e ∈ d, e.2 ≠ "" ∧ '+' ∉ e.2.toList ∧ '@' ∉ e.2.toList

/-- The characters that spell an entry. -/
def spelled (e : String × String) : List Char := e.1.toList ++ '@' :: e.2.toList

variable {d : Table String} {es : List (String × String)} {pieces : List (List Char)}

/-! ## Entries -/

/-- An entry is read from the characters that spell it. -/
theorem entry?_eq_some_iff {cs : List Char} {e : String × String} :
    entry? cs = some e ↔ cs = spelled e ∧ e.1 ≠ "" ∧ e.2 ≠ "" ∧ '@' ∉ e.2.toList := by
  obtain ⟨name, version⟩ := e
  unfold entry? spelled
  constructor
  · intro h
    split at h
    · next before after hlast =>
      obtain ⟨rfl, hat⟩ := Split.atLast?_eq_some_iff.mp hlast
      split at h
      · simp at h
      · next hempty =>
        obtain ⟨rfl, rfl⟩ : String.ofList before = name ∧ String.ofList after = version := by
          simpa using h
        simp only [Bool.or_eq_true, List.isEmpty_iff, not_or] at hempty
        simpa [hat] using hempty
    · simp at h
  · rintro ⟨rfl, hname, hversion, hat⟩
    rw [Split.atLast?_eq_some_iff.mpr ⟨rfl, hat⟩]
    simp [hname, hversion]

/-- Entries are read from the pieces that spell them. -/
theorem entries_eq_ok_iff :
    entries pieces = .ok es ↔
      pieces = es.map spelled ∧ ∀ e ∈ es, e.1 ≠ "" ∧ e.2 ≠ "" ∧ '@' ∉ e.2.toList := by
  induction pieces generalizing es with
  | nil =>
    cases es <;> simp [entries]
  | cons piece pieces ih =>
    rw [entries]
    cases hentry : entry? piece with
    | none =>
      simp only [reduceCtorEq, false_iff, not_and]
      -- a spelling whose first piece is no entry contradicts `entry?_eq_some_iff`
      intro hpieces hgood
      cases es with
      | nil => simp at hpieces
      | cons e es =>
        rw [List.map_cons, List.cons.injEq] at hpieces
        have hsome := entry?_eq_some_iff.mpr ⟨hpieces.1, hgood e List.mem_cons_self⟩
        exact absurd (hentry.symm.trans hsome) (by simp)
    | some e =>
      obtain ⟨hpiece, hgood⟩ := entry?_eq_some_iff.mp hentry
      simp only [map_eq_ok_iff, ih]
      constructor
      · rintro ⟨rest, ⟨rfl, hrest⟩, rfl⟩
        exact ⟨by rw [hpiece]; rfl, List.forall_mem_cons.mpr ⟨hgood, hrest⟩⟩
      · rintro ⟨hpieces, hall⟩
        cases es with
        | nil => simp at hpieces
        | cons e' es =>
          rw [List.map_cons, List.cons.injEq] at hpieces
          rw [List.forall_mem_cons] at hall
          have heq := hentry.symm.trans (entry?_eq_some_iff.mpr ⟨hpieces.1, hall.1⟩)
          rw [Option.some.injEq] at heq
          exact ⟨es, ⟨hpieces.2, hall.2⟩, by rw [heq]⟩

/-- The text of a query spells the entries with `+` between them. -/
theorem toList_format : (format d).toList = ['+'].intercalate (d.map spelled) := by
  rw [format, String.toList_intercalate, List.map_map]
  have hspelled : String.toList ∘ (fun e : String × String => e.1 ++ "@" ++ e.2) = spelled := by
    funext e
    simp [spelled]
  rw [hspelled]
  rfl

/-- How long the text of entries is. -/
theorem length_intercalate_spelled (h : es ≠ []) :
    (['+'].intercalate (es.map spelled)).length + 1 =
      (es.map fun e => (spelled e).length + 1).sum := by
  rw [Split.length_intercalate (by simpa using h), List.map_map]
  rfl

/-! ## Reading back -/

/-- When nothing is decoded and no slash is dropped, the text of a table reads back as the table. -/
theorem parse_format (h : Spellable d) (slash : (format d).toList.head? ≠ some '/')
    (escape : ¬PercentEncoding.HasEscape (format d).toList) : parse (format d) = .ok d := by
  have hslash : withoutSlash (format d).toList = (format d).toList := by
    unfold withoutSlash
    split
    · next hlist => simp [hlist] at slash
    · rfl
  have hplus : ∀ text ∈ d.map spelled, '+' ∉ text := by
    intro text hmem
    obtain ⟨e, he, rfl⟩ := List.mem_map.mp hmem
    simp [spelled, (h.names e he).2, (h.versions e he).2.1]
  have hentries : entries (d.map spelled) = .ok d :=
    entries_eq_ok_iff.mpr ⟨rfl, fun e he =>
      ⟨(h.names e he).1, (h.versions e he).1, (h.versions e he).2.2⟩⟩
  rw [parse, PercentEncoding.decode_of_not_hasEscape escape, hslash, toList_format,
    Split.pieces_intercalate (by simpa using h.nonempty) hplus, hentries]
  exact congrArg Except.ok (Table.ofEntries_eq_self h.distinct)

/-- A text that reads as a table is at least as long as the text of the table, once it is decoded and
without its slash. -/
theorem length_format_le {query : String} (h : parse query = .ok d) (nonempty : d ≠ []) :
    (format d).toList.length ≤ (withoutSlash (PercentEncoding.decode query.toList)).length := by
  rw [parse] at h
  generalize withoutSlash (PercentEncoding.decode query.toList) = text at h ⊢
  obtain ⟨es, hes, rfl⟩ := map_eq_ok_iff.mp h
  have hpieces := (entries_eq_ok_iff.mp hes).1
  have hes : es ≠ [] := by
    rintro rfl
    exact nonempty rfl
  have htext := Split.intercalate_pieces '+' text
  rw [hpieces] at htext
  -- Writing the entries one after the other keeps at most what they spell.
  have hweight := Table.sum_map_ofEntries_le (fun e => (spelled e).length + 1) es
  rw [← length_intercalate_spelled hes, ← length_intercalate_spelled nonempty, htext,
    ← toList_format] at hweight
  omega

theorem length_withoutSlash_le (cs : List Char) : (withoutSlash cs).length ≤ cs.length := by
  unfold withoutSlash
  split <;> simp

/-- The text of a table of dependencies reads back as the table, with its entries in their order,
exactly when it does not start with a slash and has no escape. -/
theorem parse_format_eq_ok_iff (h : Spellable d) :
    parse (format d) = .ok d ↔
      (format d).toList.head? ≠ some '/' ∧ ¬PercentEncoding.HasEscape (format d).toList := by
  constructor
  · intro hparse
    have hlength := length_format_le hparse h.nonempty
    have hescape : ¬PercentEncoding.HasEscape (format d).toList := by
      intro hescape
      have hshorter := PercentEncoding.length_decode_lt hescape
      have hslash := length_withoutSlash_le (PercentEncoding.decode (format d).toList)
      omega
    refine ⟨fun hhead => ?_, hescape⟩
    rw [PercentEncoding.decode_of_not_hasEscape hescape] at hlength
    obtain ⟨rest, hrest⟩ := List.head?_eq_some_iff.mp hhead
    rw [hrest, withoutSlash, List.length_cons] at hlength
    omega
  · rintro ⟨slash, escape⟩
    exact parse_format h slash escape

/-- Scoped names and single percent signs read back; an escape does not. -/
theorem parse_format_eq_ok_iff_percent :
    let plain : Table String := [("@babel/core", "7.0.0"), ("50%", "1%2")]
    let escaped : Table String := [("a%41", "1")]
    (Spellable plain ∧ parse (format plain) = .ok plain) ∧
      Spellable escaped ∧ parse (format escaped) ≠ .ok escaped := by
  intro plain escaped
  have hplain : Spellable plain := ⟨by decide, by decide, by decide, by decide⟩
  have hescaped : Spellable escaped := ⟨by decide, by decide, by decide, by decide⟩
  refine ⟨⟨hplain, (parse_format_eq_ok_iff hplain).mpr ⟨by decide, by decide⟩⟩, hescaped, ?_⟩
  intro h
  exact ((parse_format_eq_ok_iff hescaped).mp h).2 (by decide)

end Dependency

end Specifiers
