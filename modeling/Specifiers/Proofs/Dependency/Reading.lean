import Specifiers.Proofs.Dependency.Normal
import Specifiers.Proofs.Text.PercentEncoding.Decoded

/-!
# What a query reads as

A query is read when each of its pieces is an entry (`IsEntry`), and is refused at the first that is none.
The table it reads as has the names of the entries, each at its first place and with its last version
(`Gathers`). The pieces are those of the text that the query stands for, without a slash in front: escapes
are decoded before all this, so a query with characters escaped reads as it does without, also where an
escaped character divides it.
-/

namespace Specifiers

namespace Dependency

variable {query : String} {d : Table String} {es : List (String × String)} {cs : List Char}
  {pieces : List (List Char)}

/-- Is there an `@` in a text, and is the last one neither its first nor its last character? -/
def IsEntry (cs : List Char) : Prop :=
  ∃ name version, cs = name ++ '@' :: version ∧ '@' ∉ version ∧ name ≠ [] ∧ version ≠ []

/-- Has a table the names of entries, each at its first place and with the version of the last entry of
that name? -/
structure Gathers (d : Table String) (es : List (String × String)) : Prop where
  names : d.keys = (es.map Prod.fst).eraseDups
  versions : ∀ before name version after, es = before ++ (name, version) :: after →
    (∀ e ∈ after, e.1 ≠ name) → d.find? name = some version

theorem gathers_ofEntries (es : List (String × String)) : Gathers (Table.ofEntries es) es where
  names := Table.keys_ofEntries es
  versions before name version after hes last := by
    have hafter : Table.find? after.reverse name = none := by
      rw [Table.find?_eq_none_iff, Table.keys, List.map_reverse, List.mem_reverse, List.mem_map]
      rintro ⟨e, he, heq⟩
      exact last e he heq
    rw [Table.find?_ofEntries, hes, List.reverse_append, List.reverse_cons, List.append_assoc,
      Table.find?_append, hafter, Option.none_or, List.singleton_append, Table.find?_cons, if_pos rfl]

/-! ## Entries and other pieces -/

theorem exists_entry_iff : (∃ e, entry? cs = some e) ↔ IsEntry cs := by
  constructor
  · rintro ⟨e, he⟩
    obtain ⟨hcs, hname, hversion, hat⟩ := entry?_eq_some_iff.mp he
    exact ⟨e.1.toList, e.2.toList, hcs, hat, by simpa using hname, by simpa using hversion⟩
  · rintro ⟨name, version, hcs, hat, hname, hversion⟩
    refine ⟨(String.ofList name, String.ofList version), entry?_eq_some_iff.mpr ?_⟩
    exact ⟨by simpa [spelled] using hcs, by simpa using hname, by simpa using hversion, by simpa using hat⟩

/-- Pieces are refused at the first that is no entry. -/
theorem entries_eq_error_iff {e : InvalidEntry} :
    entries pieces = .error e ↔ ∃ before bad after, pieces = before ++ bad :: after ∧
      (∀ piece ∈ before, IsEntry piece) ∧ ¬IsEntry bad ∧ e = ⟨String.ofList bad⟩ := by
  -- the first bad piece is this one or one of the rest, never both, as this one is an entry or is not
  induction pieces with
  | nil => simp [entries]
  | cons piece pieces ih =>
    rw [entries]
    cases hentry : entry? piece with
    | none =>
      have hbad : ¬IsEntry piece := by simp [← exists_entry_iff, hentry]
      constructor
      · rintro ⟨⟩
        exact ⟨[], piece, pieces, rfl, by simp, hbad, rfl⟩
      · rintro ⟨before, bad, after, hpieces, hbefore, -, rfl⟩
        cases before with
        | nil => rw [(List.cons.inj hpieces).1]
        | cons first before =>
          exact absurd ((List.cons.inj hpieces).1 ▸ hbefore first List.mem_cons_self) hbad
    | some first =>
      have hgood : IsEntry piece := by simp [← exists_entry_iff, hentry]
      simp only [map_eq_error_iff, ih]
      constructor
      · rintro ⟨before, bad, after, rfl, hbefore, hbad, rfl⟩
        exact ⟨piece :: before, bad, after, rfl, List.forall_mem_cons.mpr ⟨hgood, hbefore⟩, hbad, rfl⟩
      · rintro ⟨before, bad, after, hpieces, hbefore, hbad, rfl⟩
        cases before with
        | nil => exact absurd ((List.cons.inj hpieces).1 ▸ hgood) hbad
        | cons first before =>
          obtain ⟨-, rfl⟩ := List.cons.inj hpieces
          exact ⟨before, bad, after, rfl, (List.forall_mem_cons.mp hbefore).2, hbad, rfl⟩

/-- Pieces are read when all of them are entries. -/
theorem exists_entries_iff : (∃ es, entries pieces = .ok es) ↔ ∀ piece ∈ pieces, IsEntry piece := by
  induction pieces with
  | nil => simp [entries]
  | cons piece pieces ih =>
    rw [List.forall_mem_cons, ← ih, entries, ← exists_entry_iff]
    cases entry? piece with
    | none => simp
    | some e => simp [map_eq_ok_iff]

/-- At most one slash is dropped, and only the first character. -/
theorem eq_withoutSlash (cs : List Char) :
    cs = '/' :: withoutSlash cs ∨ cs.head? ≠ some '/' ∧ cs = withoutSlash cs := by
  unfold withoutSlash
  split
  · exact .inl rfl
  · next hslash =>
    refine .inr ⟨fun hhead => ?_, rfl⟩
    obtain ⟨rest, rfl⟩ := List.head?_eq_some_iff.mp hhead
    exact hslash rest rfl

open PercentEncoding in
/-- A query is read exactly when all pieces between the `+` signs of its text are entries, where the text is
the one that the query stands for, without a slash in front. Then it reads as the names of the entries, each
at its first place and with its last version. Otherwise it is refused for the first piece that is none. The
text is one only (`PercentEncoding.decodes_iff`), and so are the pieces. -/
theorem parse_reads (query : String) :
    ∃ decoded text pieces, Decodes query.toList decoded ∧
      (decoded = '/' :: text ∨ decoded.head? ≠ some '/' ∧ decoded = text) ∧
      ['+'].intercalate pieces = text ∧ pieces ≠ [] ∧ (∀ piece ∈ pieces, '+' ∉ piece) ∧
      ((∃ d, parse query = .ok d) ↔ ∀ piece ∈ pieces, IsEntry piece) ∧
      (∀ d, parse query = .ok d → Spellable d ∧ ∃ es : List (String × String),
        pieces = es.map spelled ∧ (∀ e ∈ es, e.1 ≠ "" ∧ e.2 ≠ "" ∧ '@' ∉ e.2.toList) ∧ Gathers d es) ∧
      ∀ e, parse query = .error e ↔ ∃ before bad after, pieces = before ++ bad :: after ∧
        (∀ piece ∈ before, IsEntry piece) ∧ ¬IsEntry bad ∧ e = ⟨String.ofList bad⟩ := by
  refine ⟨decode query.toList, withoutSlash (decode query.toList),
    Split.pieces '+' (withoutSlash (decode query.toList)), decodes_iff.mpr rfl, eq_withoutSlash _,
    Split.intercalate_pieces _ _, Split.piecesFrom_ne_nil [], fun _ => Split.not_mem_of_mem_pieces,
    ?_, fun d h => ⟨spellable_of_parse h, ?_⟩, fun e => ?_⟩
  · simp [parse, map_eq_ok_iff, ← exists_entries_iff]
  · obtain ⟨es, hes, rfl⟩ := map_eq_ok_iff.mp h
    obtain ⟨hpieces, hgood⟩ := entries_eq_ok_iff.mp hes
    exact ⟨es, hpieces, hgood, gathers_ofEntries es⟩
  · rw [parse, map_eq_error_iff, entries_eq_error_iff]

open PercentEncoding in
/-- After the slash, an escaped `+` divides the query, a name may start with an escaped `@`, and a name that
comes again takes the later version at its first place. -/
theorem parse_reads_repeated :
    let query := "/a@1+%40b%2Fc@2%2Ba@3"
    let d : Table String := [("a", "3"), ("@b/c", "2")]
    let es := [("a", "1"), ("@b/c", "2"), ("a", "3")]
    Decodes query.toList "/a@1+@b/c@2+a@3".toList ∧ parse query = .ok d ∧ Spellable d ∧ Gathers d es := by
  intro query d es
  have hdecode : decode query.toList = "/a@1+@b/c@2+a@3".toList := by decide +kernel
  have hparse : parse query = .ok d := by decide +kernel
  obtain ⟨decoded, text, pieces, hdecoded, hslash, hpieces, hne, hplus, -, hread, -⟩ := parse_reads query
  have hdecoded := (decodes_iff.mp hdecoded).symm.trans hdecode
  obtain ⟨hspellable, es', hes', hgood, hgathers⟩ := hread d hparse
  -- The slash is there, so the pieces are those of the text after it, and the entries those that they spell.
  have htext : text = ['+'].intercalate (es.map spelled) := by
    rcases hslash with hslash | ⟨hslash, -⟩
    · exact (List.cons.inj (hslash.symm.trans hdecoded)).2.trans (by decide)
    · exact absurd (by rw [hdecoded]; decide) hslash
  have hpieces : pieces = es.map spelled := by
    rw [← Split.pieces_intercalate hne hplus, hpieces, htext,
      Split.pieces_intercalate (by decide) (by decide)]
  have hes : es' = es := Except.ok.inj <|
    (entries_eq_ok_iff.mpr ⟨hes', hgood⟩).symm.trans (entries_eq_ok_iff.mpr ⟨hpieces, by decide⟩)
  exact ⟨decodes_iff.mpr hdecode, hparse, hspellable, hes ▸ hgathers⟩

/-! ## Escaped queries -/

open PercentEncoding in
/-- A query reads as it does when some of its characters are escaped, be they part of a name or what
divides the query. -/
theorem parse_escaped {s e : String} (h : Escaped s.toList e.toList) (plain : '%' ∉ s.toList) :
    parse e = parse s := by
  rw [parse, parse, h.decode_eq plain, (Escaped.refl s.toList).decode_eq plain]

open PercentEncoding in
/-- An escaped `+` divides the query, and an escaped letter may stand beside the same one as it is. -/
theorem parse_escaped_accented :
    let s := "@a/b@1+éé@2"
    let e := "%40a%2fb@1%2B%C3%a9é@2"
    Escaped s.toList e.toList ∧ '%' ∉ s.toList ∧ parse e = parse s ∧
      parse s = .ok [("@a/b", "1"), ("éé", "2")] := by
  intro s e
  have hat : Escapes (String.utf8EncodeChar '@') ['%', '4', '0'] := .cons (.inl rfl) (.inl rfl) .nil
  have hslash : Escapes (String.utf8EncodeChar '/') ['%', '2', 'f'] := .cons (.inl rfl) (.inl rfl) .nil
  have hplus : Escapes (String.utf8EncodeChar '+') ['%', '2', 'B'] := .cons (.inl rfl) (.inr rfl) .nil
  have haccent : Escapes (String.utf8EncodeChar 'é') ['%', 'C', '3', '%', 'a', '9'] :=
    .cons (.inr rfl) (.inl rfl) (.cons (.inl rfl) (.inl rfl) .nil)
  have hs : s.toList = ['@', 'a', '/', 'b', '@', '1', '+', 'é', 'é', '@', '2'] := by decide
  have he : e.toList = ['%', '4', '0', 'a', '%', '2', 'f', 'b', '@', '1', '%', '2', 'B',
    '%', 'C', '3', '%', 'a', '9', 'é', '@', '2'] := by decide
  have h : Escaped s.toList e.toList := by
    rw [hs, he]
    exact .escape '@' _ hat <| .literal 'a' <| .escape '/' _ hslash <| .literal 'b' <| .literal '@' <|
      .literal '1' <| .escape '+' _ hplus <| .escape 'é' _ haccent <| .refl _
  have plain : '%' ∉ s.toList := by decide
  exact ⟨h, plain, parse_escaped h plain, by decide +kernel⟩

end Dependency

end Specifiers
