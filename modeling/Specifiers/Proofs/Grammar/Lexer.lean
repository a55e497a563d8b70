import Specifiers.Grammar.Lexer

/-!
# Characters that spell tokens

`Spells cs lexemes` says that a scanner without open braces, at the characters `cs` and at whatever
place, comes upon the given tokens one after the other. Places do not matter to what a token is, and
neither does the grammar, as long as the tokens are set apart by spaces and line feeds only. So the
productions can be followed on lists of tokens.

The rest of the module has the tokens themselves: words, marks, and the strings and templates whose
characters all stand for themselves.
-/

namespace Specifiers

namespace Grammar

variable {c : Char} {cs rest word : List Char} {p : Place} {l : Lexeme} {ls : List Lexeme}

/-! ## Between the tokens -/

/-- Does the character neither separate tokens nor start a comment? -/
def isSolid (c : Char) : Bool :=
  !isWhiteSpace c && !isLineTerminator c && c != '/' && c != '-' && c != '<'

/-- Nothing is passed over before a solid character. -/
theorem skipGap_solid (h : isSolid c = true) (isModule fresh : Bool) :
    skipGap isModule (.blank fresh) 0 p (c :: cs) = .ok ⟨p, c :: cs⟩ := by
  simp only [isSolid, Bool.and_eq_true, Bool.not_eq_true', bne_iff_ne, ne_eq] at h
  obtain ⟨⟨⟨⟨hwhite, hline⟩, hslash⟩, hdash⟩, hless⟩ := h
  have hstep : (Gap.blank fresh).step isModule c cs = none := by
    simp [Gap.step, List.isPrefixOf, hwhite, hline, hslash, Ne.symm hdash, Ne.symm hless]
  rw [skipGap]
  simp only [hstep]

/-- Spaces and line feeds are passed over. -/
theorem skipGap_blanks {gap : List Char} (h : ∀ c ∈ gap, c = ' ' ∨ c = '\n') (isModule fresh : Bool)
    (hcs : ∀ fresh p, skipGap isModule (.blank fresh) 0 p cs = .ok ⟨p, cs⟩) :
    ∃ p', skipGap isModule (.blank fresh) 0 p (gap ++ cs) = .ok ⟨p', cs⟩ := by
  -- A line feed makes the line fresh again, so both the flag and the place are generalised.
  induction gap generalizing fresh p with
  | nil => exact ⟨p, hcs fresh p⟩
  | cons c gap ih =>
    have hgap : ∀ c ∈ gap, c = ' ' ∨ c = '\n' := fun c hc => h c (List.mem_cons_of_mem _ hc)
    rw [List.cons_append, skipGap]
    rcases h c List.mem_cons_self with rfl | rfl
    · exact ih hgap fresh
    · exact ih hgap true

/-! ## Sequences of tokens -/

/-- The token `l` stands at the very start of the characters, and `rest` follows it. -/
structure Yields (cs : List Char) (l : Lexeme) (rest : List Char) : Prop where
  noGap : ∀ isModule fresh p, skipGap isModule (.blank fresh) 0 p cs = .ok ⟨p, cs⟩
  scans : ∀ p, ∃ p', scanLexeme ⟨⟨p, cs⟩, []⟩ = .ok (l, ⟨⟨p', rest⟩, []⟩)

/-- Is the token the same in strict code? -/
def Lexeme.isSteady : Lexeme → Bool
  | .identifier name => !strictReservedWords.contains name
  | _ => true

/-- The characters start with these tokens, with spaces and line feeds between them. -/
inductive Spells : List Char → List Lexeme → Prop
  | nil (cs : List Char) : Spells cs []
  | cons {gap cs rest : List Char} {l : Lexeme} {ls : List Lexeme}
      (blank : ∀ c ∈ gap, c = ' ' ∨ c = '\n') (steady : l.isSteady = true) (first : Yields cs l rest)
      (others : Spells rest ls) : Spells (gap ++ cs) (l :: ls)

/-- The next token is the first one that the characters spell. -/
theorem Spells.next (h : Spells cs (l :: ls)) (isModule : Bool) (p : Place) :
    ∃ start t after, Scanner.next isModule ⟨⟨p, cs⟩, []⟩ = .ok (start, t, after) ∧
      t.lexeme = l ∧ l.isSteady = true ∧ after.braces = [] ∧ Spells after.cursor.rest ls := by
  cases h with
  | @cons gap cs rest _ _ blank steady first others =>
    obtain ⟨start, hstart⟩ :=
      skipGap_blanks (p := p) blank isModule (p.index == 0) (first.noGap isModule)
    obtain ⟨p', hp'⟩ := first.scans start
    refine ⟨⟨start, cs⟩, ⟨l, start.index, p'.line⟩, ⟨⟨p', rest⟩, []⟩, ?_, rfl, steady, rfl, others⟩
    simp only [Scanner.next, Cursor.skipGap, hstart, hp', bind, Except.bind, pure, Except.pure]

/-- A token at the very start of the characters, and those after it. -/
theorem Yields.spells (h : Yields cs l rest) (steady : l.isSteady = true) (others : Spells rest ls) :
    Spells cs (l :: ls) := by
  exact @Spells.cons [] cs rest l ls (by simp) steady h others

/-- Tokens after a space or a line feed. -/
theorem Spells.blank (hc : c = ' ' ∨ c = '\n') (h : Spells cs ls) : Spells (c :: cs) ls := by
  cases h with
  | nil => exact .nil _
  | @cons gap cs rest l ls blank steady first others =>
    have hgap : ∀ d ∈ c :: gap, d = ' ' ∨ d = '\n' := List.forall_mem_cons.mpr ⟨hc, blank⟩
    exact @Spells.cons (c :: gap) cs rest l ls hgap steady first others

/-- The end of the text. -/
theorem yields_end : Yields [] .endOfInput [] where
  noGap _ _ _ := rfl
  scans p := ⟨p, rfl⟩

/-! ## Words -/

/-- Do the characters not go on with a name? -/
def EndsName (rest : List Char) : Prop := ∀ c, rest.head? = some c → IdentifierChar.isPart c = false

/-- The characters of a name are read up to the first one that does not belong to it. -/
theorem nameFrom_append (h : ∀ c ∈ word, IdentifierChar.isPart c = true ∧ c ≠ '\\')
    (hrest : EndsName rest) (name : List Char) :
    nameFrom false 0 name p (word ++ rest) =
      .ok (name.reverse ++ word, ⟨p.forward word.length, rest⟩) := by
  induction word generalizing name p with
  | nil =>
    cases rest with
    | nil => simp [nameFrom, Place.forward]
    | cons c rest =>
      have hc : IdentifierChar.isPart c = false := hrest c rfl
      have hslash : c ≠ '\\' := by
        rintro rfl
        exact absurd hc (by decide)
      simp [nameFrom, hc, hslash, Place.forward]
  | cons c word ih =>
    obtain ⟨hc, hslash⟩ := h c List.mem_cons_self
    have ih := ih (p := p.forward 1) (fun c hc => h c (List.mem_cons_of_mem _ hc)) (c :: name)
    rw [List.cons_append, nameFrom]
    simp only [hc, Bool.or_true, if_true, beq_eq_false_iff_ne.mpr hslash, Bool.false_eq_true, if_false,
      ih]
    simp [Place.forward, Nat.add_comm, Nat.add_left_comm]

/-- Are the characters those of a name, all spelled as themselves? -/
def isWord : List Char → Bool
  | [] => false
  | c :: cs =>
    IdentifierChar.isStart c && isSolid c && (c :: cs).all fun d => IdentifierChar.isPart d && d != '\\'

/-- A word is a keyword, a literal or an identifier. -/
theorem yields_word {word : String} (h : isWord word.toList = true) (hrest : EndsName rest) :
    Yields (word.toList ++ rest) (lexemeOfWord word) rest := by
  obtain ⟨c, cs, hword⟩ : ∃ c cs, word.toList = c :: cs := by
    refine List.exists_cons_of_ne_nil fun hnil => ?_
    rw [hnil] at h
    exact absurd h Bool.false_ne_true
  simp only [hword, isWord, Bool.and_eq_true, bne_iff_ne, ne_eq, List.all_eq_true] at h
  obtain ⟨⟨hstart, hsolid⟩, hchars⟩ := h
  have hslash : (c == '\\') = false := beq_eq_false_iff_ne.mpr (hchars c List.mem_cons_self).2
  refine ⟨fun isModule fresh p => by rw [hword]; exact skipGap_solid hsolid isModule fresh, fun p => ?_⟩
  have hname : nameFrom true 0 [] p (c :: (cs ++ rest)) =
      .ok (c :: cs, ⟨(p.forward 1).forward cs.length, rest⟩) := by
    rw [nameFrom]
    simp only [hslash, Bool.false_eq_true, if_false, Bool.true_or, if_true]
    rw [nameFrom_append (fun d hd => hchars d (List.mem_cons_of_mem _ hd)) hrest]
    rfl
  -- A word with a meaning of its own is spelled without escapes: it is as long as its spelling.
  have hlength : ((c :: cs).length + p.index != ((p.forward 1).forward cs.length).index) = false := by
    simp only [Place.forward, List.length_cons, bne_eq_false_iff_eq]
    omega
  refine ⟨(p.forward 1).forward cs.length, ?_⟩
  rw [scanLexeme, hword]
  simp only [List.cons_append, hstart, if_true]
  rw [scanName, hname]
  simp only [bind, Except.bind, hlength, Bool.and_false, Bool.false_eq_true, if_false]
  rw [← hword, String.ofList_toList]
  rfl

/-- A character that belongs to no name ends one. -/
theorem endsName_cons (h : IdentifierChar.isPart c = false) : EndsName (c :: rest) := by
  rintro d hd
  obtain rfl : c = d := by simpa using hd
  exact h

/-! ## Marks -/

/-- A mark of one character, other than a brace. -/
theorem yields_mark {mark : String} (hsolid : isSolid c = true)
    (hstart : IdentifierChar.isStart c = false) (hquote : c ≠ '\x22' ∧ c ≠ '\x27')
    (hnumber : (c.isDigit || (c == '.' && rest.head?.any Char.isDigit)) = false)
    (htemplate : c ≠ templateMark) (hbrace : c ≠ '{' ∧ c ≠ '}')
    (hmark : markAt? (c :: rest) = some ([c], mark)) :
    Yields (c :: rest) (.punctuator mark) rest where
  noGap isModule fresh p := skipGap_solid hsolid isModule fresh
  scans p := by
    refine ⟨p.forward 1, ?_⟩
    rw [scanLexeme]
    simp [hstart, hquote, hnumber, htemplate, hbrace, hmark, bracesAfter]

/-! ## Strings and templates -/

/-- Does the character stand for itself in a string in double quotes and in a template? -/
structure IsPlain (c : Char) : Prop where
  noQuote : c ≠ '\x22'
  noBackslash : c ≠ '\\'
  noTemplateMark : c ≠ templateMark
  noDollar : c ≠ '$'
  noLineEnd : isLineTerminator c = false

instance (c : Char) : Decidable (IsPlain c) :=
  decidable_of_iff (c ≠ '\x22' ∧ c ≠ '\\' ∧ c ≠ templateMark ∧ c ≠ '$' ∧ isLineTerminator c = false)
    ⟨fun ⟨a, b, c, d, e⟩ => ⟨a, b, c, d, e⟩, fun ⟨a, b, c, d, e⟩ => ⟨a, b, c, d, e⟩⟩

/-- A character is the character of its own code. -/
theorem charOfCode_toNat (c : Char) : charOfCode c.toNat = c := by
  have hvalid : c.toNat.isValidChar := c.valid
  rw [charOfCode, if_pos hvalid, Char.ofNat_toNat]

/-- No two characters are taken for a pair of surrogates. -/
theorem textOfCodes_toNat (cs : List Char) : textOfCodes (cs.map Char.toNat) = cs := by
  induction cs with
  | nil => rfl
  | cons c cs ih =>
    cases cs with
    | nil => simp [textOfCodes, charOfCode_toNat]
    | cons d cs =>
      -- Surrogates are no valid characters, so the first of the two is none.
      have hvalid : c.toNat < 0xD800 ∨ 0xDFFF < c.toNat := by
        have h : c.toNat.isValidChar := c.valid
        rcases h with h | h
        · exact .inl h
        · exact .inr h.1
      have hpair : (0xD800 ≤ c.toNat && c.toNat ≤ 0xDBFF && 0xDC00 ≤ d.toNat && d.toNat ≤ 0xDFFF) =
          false := by
        by_cases hlow : 0xD800 ≤ c.toNat
        · have hhigh : ¬c.toNat ≤ 0xDBFF := by omega
          simp [hhigh]
        · simp [hlow]
      rw [List.map_cons, List.map_cons, textOfCodes]
      simp only [hpair, Bool.false_eq_true, if_false]
      rw [charOfCode_toNat, ← List.map_cons, ih]

/-- Plain characters are read as themselves, up to the closing quote. -/
theorem stringFrom_append (h : ∀ c ∈ cs, IsPlain c) (start : Nat) (before rest : List Char) :
    stringFrom '\x22' start 0 (before.map Char.toNat) before false p (cs ++ '\x22' :: rest) =
      .ok (.string (String.ofList (before.reverse ++ cs)) (String.ofList (before.reverse ++ cs)) false,
        ⟨p.forward (cs.length + 1), rest⟩) := by
  -- The scanner keeps what it has read last first, as codes and as characters.
  induction cs generalizing before p with
  | nil => simp [stringFrom, ← List.map_reverse, textOfCodes_toNat]
  | cons c cs ih =>
    obtain ⟨hquote, hslash, -, -, hline⟩ := h c List.mem_cons_self
    have ih := ih (p := p.forward 1) (fun c hc => h c (List.mem_cons_of_mem _ hc)) (c :: before)
    rw [List.map_cons] at ih
    rw [List.cons_append, stringFrom]
    simp only [beq_eq_false_iff_ne.mpr hquote, beq_eq_false_iff_ne.mpr hslash, hline, Bool.false_eq_true,
      if_false, ih]
    simp [Place.forward, Nat.add_comm, Nat.add_left_comm]

/-- A string of plain characters. -/
theorem yields_string (h : ∀ c ∈ cs, IsPlain c) (rest : List Char) :
    Yields ('\x22' :: (cs ++ '\x22' :: rest))
      (.string (String.ofList cs) (String.ofList cs) false) rest where
  noGap isModule fresh p := skipGap_solid (by decide) isModule fresh
  scans p := by
    have hstring := stringFrom_append (p := p.forward 1) h p.index [] rest
    refine ⟨(p.forward 1).forward (cs.length + 1), ?_⟩
    rw [scanLexeme]
    have hstart : IdentifierChar.isStart '\x22' = false := by decide
    simp only [hstart, Bool.false_eq_true, if_false, beq_self_eq_true, Bool.true_or, if_true]
    rw [← List.map_nil (f := Char.toNat), hstring]
    rfl

/-- Plain characters are read as themselves, up to the mark that closes the template. -/
theorem templateFrom_append (h : ∀ c ∈ cs, IsPlain c) (raw rest : List Char) :
    templateFrom true 0 raw p (cs ++ templateMark :: rest) =
      .ok (.template (String.ofList (raw.reverse ++ cs)) true true,
        ⟨p.forward (cs.length + 1), rest⟩) := by
  induction cs generalizing raw p with
  | nil => simp [templateFrom]
  | cons c cs ih =>
    obtain ⟨-, hslash, hmark, hdollar, hline⟩ := h c List.mem_cons_self
    have ih := ih (p := p.forward 1) (fun c hc => h c (List.mem_cons_of_mem _ hc)) (c :: raw)
    rw [List.cons_append, templateFrom]
    simp only [beq_eq_false_iff_ne.mpr hmark, beq_eq_false_iff_ne.mpr hslash,
      beq_eq_false_iff_ne.mpr hdollar, hline, Bool.false_and, Bool.false_eq_true, if_false, ih]
    simp [Place.forward, Nat.add_comm, Nat.add_left_comm]

/-- A template of plain characters. -/
theorem yields_template (h : ∀ c ∈ cs, IsPlain c) (rest : List Char) :
    Yields (templateMark :: (cs ++ templateMark :: rest))
      (.template (String.ofList cs) true true) rest where
  noGap isModule fresh p := skipGap_solid (by decide) isModule fresh
  scans p := by
    have htemplate := templateFrom_append (p := p.forward 1) h [] rest
    refine ⟨(p.forward 1).forward (cs.length + 1), ?_⟩
    rw [scanLexeme]
    have hstart : IdentifierChar.isStart templateMark = false := by decide
    have hquote : (templateMark == '\x22' || templateMark == '\x27') = false := by decide
    have hnumber : (templateMark.isDigit || (templateMark == '.' &&
        (cs ++ templateMark :: rest).head?.any Char.isDigit)) = false := rfl
    simp only [hstart, hquote, hnumber, Bool.false_eq_true, if_false, beq_self_eq_true, if_true,
      htemplate]
    rfl

end Grammar

end Specifiers
