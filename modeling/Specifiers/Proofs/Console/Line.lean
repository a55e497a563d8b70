import Mathlib.Tactic.Common
import Specifiers.Proofs.Console.Verbatim
import Specifiers.Proofs.Text.Split

/-!
# Texts printed as they are

A message with an escaped text in it can always be shown, and what is shown is the text as it is or departs
from it (`Message.Renders`). A text on a line of its own is shown as it is when each of its parts is, and it
does not end with exactly one backslash (`shown_specifier_eq_iff`); a heading when it does not end with two or
more (`shown_heading_eq_iff`). Printed one after the other, messages come out as their texts exactly when each
is shown as it is, on a line that is long enough for it (`lines_eq_iff`): a line that is broken makes one line
more than there are messages, and what is left out at its end is blank, so it does not undo a departure.
-/

namespace Specifiers

namespace Console

variable {cs body : List Char} {count : Nat} {s : String} {d : Display}

/-! ## Backslashes at the end of a text -/

/-- How many backslashes stand at the end of a text. -/
def endSlashes (cs : List Char) : Nat := (cs.reverse.takeWhile (· == '\\')).length

/-- What comes before the backslashes at the end of a text. -/
def beforeSlashes (cs : List Char) : List Char := (cs.reverse.dropWhile (· == '\\')).reverse

/-- A text is what comes before the backslashes at its end, and these. -/
theorem eq_append_slashes (cs : List Char) : cs = beforeSlashes cs ++ slashes (endSlashes cs) := by
  have hslashes : cs.reverse.takeWhile (· == '\\') = slashes (endSlashes cs) := by
    rw [slashes, endSlashes, List.eq_replicate_iff]
    exact ⟨rfl, fun c hc => by simpa using List.mem_takeWhile_imp hc⟩
  rw [beforeSlashes, ← reverse_slashes, ← hslashes, ← List.reverse_append, List.takeWhile_append_dropWhile,
    List.reverse_reverse]

/-- What comes before the backslashes at the end ends with none. -/
theorem getLast?_beforeSlashes (cs : List Char) : (beforeSlashes cs).getLast? ≠ some '\\' := by
  rw [beforeSlashes, List.getLast?_reverse]
  intro hhead
  have hnot := List.head?_dropWhile_not (· == '\\') cs.reverse
  rw [hhead] at hnot
  simp at hnot

/-! ## Texts as they are -/

/-- Is every part of a text shown as it is? -/
def IsVerbatim (s : String) : Prop := ∀ p ∈ parts s.toList, p.IsVerbatim

/-- The parts of a text without control characters have none. -/
theorem Inline.of_mem_parts (h : Inline cs) {p : Part} (hp : p ∈ parts cs) : Inline p.chars :=
  fun c hc => h c (by rw [← chars_parts cs]; exact List.mem_flatMap.mpr ⟨p, hp, hc⟩)

/-- A text is shown as it is when its parts are, and departs from what is shown otherwise. -/
theorem sameOrDeparts_parts (h : Inline cs) :
    SameOrDeparts ((parts cs).flatMap Part.shown) cs ∧
      ((parts cs).flatMap Part.shown = cs ↔ ∀ p ∈ parts cs, p.IsVerbatim) := by
  have hparts (p : Part) (hp : p ∈ parts cs) :=
    sameOrDeparts_shown ((splits_parts cs).stands p hp) (h.of_mem_parts hp)
  have hsame := SameOrDeparts.flatMap fun p hp => (hparts p hp).1
  have hiff := SameOrDeparts.flatMap_eq_iff fun p hp => (hparts p hp).1
  rw [chars_parts] at hsame hiff
  exact ⟨hsame, hiff.trans (forall₂_congr fun p hp => (hparts p hp).2)⟩

/-- Backslashes at the end of a text make no difference to whether its parts are shown as they are. -/
theorem isVerbatim_append_slashes (h : Inline body) (count : Nat) :
    (∀ p ∈ parts (body ++ slashes count), p.IsVerbatim) ↔ ∀ p ∈ parts body, p.IsVerbatim := by
  rw [← (sameOrDeparts_parts (h.append (inline_slashes count))).2, ← (sameOrDeparts_parts h).2,
    parts_append_slashes, shown_withEnd, List.append_left_inj]

/-! ## What ends a message -/

/-- Without control characters there are no tabs to expand. -/
theorem expandTabs_of_inline (h : Inline cs) (column : Nat) : expandTabs column cs = cs := by
  induction cs generalizing column with
  | nil => rfl
  | cons c cs ih =>
    obtain ⟨hc, hcs⟩ := List.forall_mem_cons.mp h
    have htab : ¬(c == '\t') = true := by
      rw [beq_iff_eq]
      rintro rfl
      exact absurd hc (by decide)
    rw [expandTabs, if_neg htab, ih hcs]

/-- So has what its parts are shown as. -/
theorem inline_shown_parts (h : Inline cs) : Inline ((parts cs).flatMap Part.shown) := by
  intro c hc
  obtain ⟨p, hp, hc⟩ := List.mem_flatMap.mp hc
  have hchars := h.of_mem_parts hp
  cases p with
  | plain cs => exact (shownText_eq hchars).2 c hc
  | tag n content =>
    rw [Part.chars, List.append_assoc] at hchars
    obtain ⟨-, htag⟩ := List.forall_mem_append.mp hchars
    exact ((inline_slashes n).append (shownText_eq htag).2) c hc

/-- Of the backslashes at the end of a line a single one is doubled. -/
theorem sameOrDeparts_lineEnd (count : Nat) :
    SameOrDeparts (slashes (closedCount count) ++ ['\n']) (slashes count ++ ['\n']) ∧
      (slashes (closedCount count) ++ ['\n'] = slashes count ++ ['\n'] ↔ count ≠ 1) := by
  by_cases hone : count = 1
  · subst hone
    have hdeparts : Departs Apart (slashes (closedCount 1) ++ ['\n']) (slashes 1 ++ ['\n']) :=
      .later '\\' (.here ⟨by decide, .inl (by decide)⟩ _ _)
    exact ⟨.inr hdeparts, by simp [hdeparts.ne]⟩
  · rw [closedCount, if_neg hone]
    exact ⟨.inl rfl, by simp [hone]⟩

/-- Of two or more backslashes at the end of a heading, half are shown. -/
theorem sameOrDeparts_headingEnd (count : Nat) (rest : List Char) :
    SameOrDeparts (headingEnd (closedCount count) ++ ' ' :: rest) (slashes count ++ ' ' :: rest) ∧
      (headingEnd (closedCount count) ++ ' ' :: rest = slashes count ++ ' ' :: rest ↔ count ≤ 1) := by
  by_cases hfew : count ≤ 1
  · have hsame : headingEnd (closedCount count) = slashes count := by
      rcases Nat.le_one_iff_eq_zero_or_eq_one.mp hfew with rfl | rfl <;> rfl
    rw [hsame]
    exact ⟨.inl rfl, by simp [hfew]⟩
  · have hclosed : closedCount count = count := if_neg (by omega)
    -- The next character is a backslash in the text, and a bracket or a blank where it is shown.
    have hmore : slashes count = slashes (count / 2) ++ '\\' :: slashes (count - count / 2 - 1) := by
      rw [← slashes_cons, slashes_append]
      congr 1
      omega
    have hnext : ∃ x u, (if count % 2 = 1 then "[/bold]".toList else []) ++ ' ' :: rest = x :: u ∧
        x ≠ '\\' := by
      by_cases hodd : count % 2 = 1
      · rw [if_pos hodd]
        exact ⟨'[', _, rfl, by decide⟩
      · rw [if_neg hodd]
        exact ⟨' ', rest, rfl, by decide⟩
    obtain ⟨x, u, hnext, hx⟩ := hnext
    have hdeparts : Departs Apart (headingEnd (closedCount count) ++ ' ' :: rest)
        (slashes count ++ ' ' :: rest) := by
      rw [hclosed, headingEnd, List.append_assoc, hnext, hmore, List.append_assoc]
      exact Departs.append_left _ (.here ⟨hx, .inr (by decide)⟩ _ _)
    exact ⟨.inr hdeparts, by simp [hdeparts.ne, hfew]⟩

/-- What a heading ends with has no control characters. -/
theorem inline_headingEnd (count : Nat) : Inline (headingEnd count) := by
  refine (inline_slashes (count / 2)).append ?_
  split
  · exact inline_of_all (by decide)
  · exact List.forall_mem_nil _

theorem inline_kindText (isModule : Bool) : Inline (kindText isModule) := by
  cases isModule <;> exact inline_of_all (by decide)

/-! ## Messages with escaped texts -/

/-- A message: as it is written, what it is shown as, and the text that is meant. -/
structure Message where
  markup : String
  shown : List Char
  text : List Char

/-- Can a message be shown, as its text or with a departure from it? -/
structure Message.Renders (m : Message) (d : Display) : Prop where
  render : Console.render d m.markup = .ok m.shown
  inline : Inline m.shown
  whole : Inline m.text
  near : SameOrDeparts (m.shown ++ ['\n']) (m.text ++ ['\n'])

/-- The message with a text on a line of its own, behind two blanks. -/
def Message.specifier (s : String) : Message where
  markup := "  " ++ escape s
  shown := [' ', ' '] ++ ((parts (beforeSlashes s.toList)).flatMap Part.shown ++
    slashes (closedCount (endSlashes s.toList)))
  text := [' ', ' '] ++ s.toList

/-- The message with a text as a heading. -/
def Message.heading (s : String) (isModule : Bool) : Message where
  markup := Console.heading s isModule
  shown := (parts (beforeSlashes s.toList)).flatMap Part.shown ++
    (headingEnd (closedCount (endSlashes s.toList)) ++ kindText isModule)
  text := s.toList ++ kindText isModule

/-- The message that there are no specifiers. -/
def Message.noSpecifiers : Message where
  markup := "  [dim]no specifiers[/dim]"
  shown := "  no specifiers".toList
  text := "  no specifiers".toList

/-- What comes before the backslashes at the end is no control character either. -/
theorem Inline.beforeSlashes (h : Inline cs) : Inline (beforeSlashes cs) := by
  intro c hc
  refine h c ?_
  rw [eq_append_slashes cs]
  exact List.mem_append_left _ hc

namespace Message

/-- The text of a specifier, divided before the backslashes at its end. -/
theorem text_specifier (s : String) : (specifier s).text =
    [' ', ' '] ++ (beforeSlashes s.toList ++ slashes (endSlashes s.toList)) := by
  rw [← eq_append_slashes, specifier]

/-- The text of a heading, divided before the backslashes at the end of the path. -/
theorem text_heading (s : String) (isModule : Bool) : (heading s isModule).text =
    beforeSlashes s.toList ++ (slashes (endSlashes s.toList) ++ kindText isModule) := by
  rw [← List.append_assoc, ← eq_append_slashes, heading]

/-- A text is verbatim when what comes before the backslashes at its end is. -/
theorem isVerbatim_iff (h : Inline s.toList) :
    IsVerbatim s ↔ ∀ p ∈ parts (beforeSlashes s.toList), p.IsVerbatim := by
  rw [← isVerbatim_append_slashes h.beforeSlashes (endSlashes s.toList), ← eq_append_slashes, IsVerbatim]

/-- A text without control characters can be shown on a line of its own. -/
theorem renders_specifier (h : Inline s.toList) : (specifier s).Renders d := by
  have hblanks : Inline [' ', ' '] := inline_of_all (by decide)
  refine ⟨render_line (eq_append_slashes s.toList) (getLast?_beforeSlashes s.toList), ?_,
    hblanks.append h, ?_⟩
  · exact hblanks.append ((inline_shown_parts h.beforeSlashes).append (inline_slashes _))
  · rw [text_specifier, specifier, List.append_assoc, List.append_assoc, List.append_assoc,
      List.append_assoc]
    exact SameOrDeparts.append (.inl rfl)
      ((sameOrDeparts_parts h.beforeSlashes).1.append (sameOrDeparts_lineEnd _).1)

/-- A text on a line of its own is shown as it is when its parts are and it does not end with exactly one
backslash. -/
theorem shown_specifier_eq_iff (h : Inline s.toList) :
    (specifier s).shown = (specifier s).text ↔ IsVerbatim s ∧ endSlashes s.toList ≠ 1 := by
  obtain ⟨hparts, hpartsIff⟩ := sameOrDeparts_parts h.beforeSlashes
  rw [text_specifier, specifier, List.append_cancel_left_eq, hparts.append_eq_append_iff, hpartsIff,
    isVerbatim_iff h, ← (sameOrDeparts_lineEnd _).2, List.append_left_inj]

/-- What comes behind the text of a heading starts with a blank. -/
theorem exists_kindText (isModule : Bool) : ∃ rest, kindText isModule = ' ' :: rest := by
  cases isModule <;> exact ⟨_, rfl⟩

/-- A text without control characters can be shown as a heading. -/
theorem renders_heading (h : Inline s.toList) (isModule : Bool) : (heading s isModule).Renders d := by
  refine ⟨render_heading isModule (eq_append_slashes s.toList) (getLast?_beforeSlashes s.toList), ?_,
    h.append (inline_kindText isModule), ?_⟩
  · exact (inline_shown_parts h.beforeSlashes).append
      ((inline_headingEnd _).append (inline_kindText isModule))
  · obtain ⟨rest, hkind⟩ := exists_kindText isModule
    rw [text_heading, heading, hkind, List.append_assoc, List.append_assoc, List.append_assoc,
      List.append_assoc]
    exact (sameOrDeparts_parts h.beforeSlashes).1.append (sameOrDeparts_headingEnd _ _).1

/-- A text in a heading is shown as it is when its parts are and it does not end with two backslashes. -/
theorem shown_heading_eq_iff (h : Inline s.toList) (isModule : Bool) :
    (heading s isModule).shown = (heading s isModule).text ↔
      IsVerbatim s ∧ endSlashes s.toList ≤ 1 := by
  obtain ⟨hparts, hpartsIff⟩ := sameOrDeparts_parts h.beforeSlashes
  obtain ⟨rest, hkind⟩ := exists_kindText isModule
  rw [text_heading, heading, hkind, hparts.append_eq_append_iff, hpartsIff, isVerbatim_iff h,
    (sameOrDeparts_headingEnd _ rest).2]

/-- That there are no specifiers is shown as it is. -/
theorem renders_noSpecifiers : noSpecifiers.Renders d := by
  have hclose (position : Nat) : applyTag d [⟨d.styleName "dim", []⟩] "/dim".toList position = .ok [] :=
    applyTag_close "dim".toList rfl (by decide) (by decide) [] position
  refine ⟨?_, inline_of_all (by decide), inline_of_all (by decide), .inl rfl⟩
  have hparts : parts noSpecifiers.markup.toList = [.plain "  ".toList, .tag 0 "dim".toList,
      .plain "no specifiers".toList, .tag 0 "/dim".toList] := by decide +kernel
  rw [Console.render, hparts]
  exact renderFrom_plain _ (renderFrom_tag rfl rfl (renderFrom_plain _ (renderFrom_tag rfl (hclose _) rfl)))

end Message

/-! ## Lines of messages -/

/-- Joined lines can be told apart when no line feed is in them. -/
theorem pieces_joinLines {ls : List (List Char)} (h : ∀ l ∈ ls, '\n' ∉ l) :
    Split.pieces '\n' (joinLines ls) = ls ++ [[]] := by
  induction ls with
  | nil => rfl
  | cons l ls ih =>
    obtain ⟨hl, hls⟩ := List.forall_mem_cons.mp h
    have hjoin : joinLines (l :: ls) = l ++ '\n' :: joinLines ls := by simp [joinLines]
    rw [hjoin, Split.pieces, Split.piecesFrom_append [] _ hl, ih hls]
    rfl

/-- Lines without line feeds can be told from the text that they are joined to. -/
theorem joinLines_inj {ls ls' : List (List Char)} (h : ∀ l ∈ ls, '\n' ∉ l) (h' : ∀ l ∈ ls', '\n' ∉ l) :
    joinLines ls = joinLines ls' ↔ ls = ls' := by
  refine ⟨fun heq => ?_, congrArg joinLines⟩
  have hpieces := congrArg (Split.pieces '\n') heq
  rwa [pieces_joinLines h, pieces_joinLines h', List.append_left_inj] at hpieces

/-- When there are as many lines as messages, and one for each message at least, there is one for each. -/
theorem flatMap_eq_map_iff {α β : Type} {f : α → List β} {g : α → β} {xs : List α}
    (h : ∀ x ∈ xs, f x ≠ []) : xs.flatMap f = xs.map g ↔ ∀ x ∈ xs, f x = [g x] := by
  have hlength (xs : List α) (h : ∀ x ∈ xs, f x ≠ []) : xs.length ≤ (xs.flatMap f).length := by
    induction xs with
    | nil => exact Nat.le_refl 0
    | cons x xs ih =>
      obtain ⟨hx, hxs⟩ := List.forall_mem_cons.mp h
      have hone := List.length_pos_iff.mpr hx
      have hrest := ih hxs
      rw [List.flatMap_cons, List.length_append, List.length_cons]
      omega
  induction xs with
  | nil => simp
  | cons x xs ih =>
    obtain ⟨hx, hxs⟩ := List.forall_mem_cons.mp h
    have hxsIff : (∀ y ∈ xs, f y = [g y]) ↔ xs.flatMap f = xs.map g := (ih hxs).symm
    rw [List.flatMap_cons, List.map_cons, List.forall_mem_cons, hxsIff]
    constructor
    · intro heq
      obtain ⟨y, ys, hy⟩ := List.exists_cons_of_ne_nil hx
      rw [hy, List.cons_append] at heq
      obtain ⟨rfl, hrest⟩ := List.cons.inj heq
      -- The lines that remain are enough for the other messages only if none is left of the first.
      have hcount := congrArg List.length hrest
      have hmore := hlength xs hxs
      rw [List.length_append, List.length_map] at hcount
      obtain rfl : ys = [] := List.length_eq_zero_iff.mp (by omega)
      exact ⟨hy, hrest⟩
    · rintro ⟨hfirst, hrest⟩
      rw [hfirst, hrest, List.singleton_append]

namespace Message

variable {m : Message} {ms : List Message}

/-- A text without control characters has no line feed. -/
theorem not_mem_of_inline (h : Inline cs) : '\n' ∉ cs := fun hmem => absurd (h _ hmem) (by decide)

/-- A message is put out in the lines in which the display shows it. -/
theorem Renders.line (h : m.Renders d) : Console.line d m.markup = put d (d.wrap m.shown) := by
  have hlines : shownLines d m.shown = d.wrap m.shown := by
    rw [shownLines, Split.pieces, Split.piecesFrom_of_not_mem [] (not_mem_of_inline h.inline)]
    simp [expandTabs_of_inline h.inline]
  rw [Console.line, h.render, ← hlines]
  rfl

/-- The display shows a message as its text exactly when the message is shown as it is and the text fits.
Blanks are all that it leaves out at the end of a line, and no departure is between blanks. -/
theorem Renders.wrap_eq_iff (h : m.Renders d) :
    d.wrap m.shown = [m.text] ↔ m.shown = m.text ∧ d.Fits m.text := by
  constructor
  · intro hwrap
    obtain ⟨front, rest, rest', hshown, htext, hrest, hrest'⟩ := d.wrap_single _ _ hwrap
    have hend : ∀ c ∈ ['\n'], isBlank c = true := List.forall_mem_singleton.mpr rfl
    have hsame : m.shown = m.text := by
      rcases h.near with hsame | hdeparts
      · exact List.append_cancel_right hsame
      · rw [hshown, htext, List.append_assoc, List.append_assoc] at hdeparts
        exact absurd hdeparts (Departs.not_of_blanks (List.forall_mem_append.mpr ⟨hrest, hend⟩)
          (List.forall_mem_append.mpr ⟨hrest', hend⟩))
    exact ⟨hsame, hsame ▸ hwrap⟩
  · rintro ⟨hshown, hfits⟩
    rw [hshown]
    exact hfits

/-- What is put out for messages that are not refused. -/
theorem lines_of_unrefused (h : ∀ m ∈ ms, m.Renders d)
    (unrefused : ∀ m ∈ ms, d.refusal? (joinLines (d.wrap m.shown)) = none) :
    lines d (ms.map markup) = (String.ofList (joinLines (ms.flatMap fun m => d.wrap m.shown)), none) := by
  induction ms with
  | nil => rfl
  | cons m ms ih =>
    obtain ⟨hm, hms⟩ := List.forall_mem_cons.mp h
    obtain ⟨hfirst, hrest⟩ := List.forall_mem_cons.mp unrefused
    rw [List.map_cons, lines, hm.line, put, hfirst, ih hms hrest]
    simp [joinLines]

/-- Messages that are printed without an error are not refused. -/
theorem unrefused_of_lines (h : ∀ m ∈ ms, m.Renders d) (succeeds : (lines d (ms.map markup)).2 = none) :
    ∀ m ∈ ms, d.refusal? (joinLines (d.wrap m.shown)) = none := by
  induction ms with
  | nil => exact nofun
  | cons m ms ih =>
    obtain ⟨hm, hms⟩ := List.forall_mem_cons.mp h
    rw [List.map_cons, lines, hm.line, put] at succeeds
    cases hrefusal : d.refusal? (joinLines (d.wrap m.shown)) with
    | some complaint => rw [hrefusal] at succeeds; cases succeeds
    | none =>
      rw [hrefusal] at succeeds
      exact List.forall_mem_cons.mpr ⟨hrefusal, ih hms succeeds⟩

/-- Messages are printed without an error and as their texts exactly when each is shown as it is and the
display shows its text. -/
theorem lines_eq_iff (h : ∀ m ∈ ms, m.Renders d) :
    lines d (ms.map markup) = (String.ofList (joinLines (ms.map text)), none) ↔
      ∀ m ∈ ms, m.shown = m.text ∧ d.Shows m.text := by
  -- no line has a line feed, so that joined lines are equal only line by line
  have hwhole : ∀ l ∈ ms.flatMap fun m => d.wrap m.shown, '\n' ∉ l := fun l hl => by
    obtain ⟨m, hm, hl⟩ := List.mem_flatMap.mp hl
    exact d.wrap_unbroken m.shown (not_mem_of_inline (h m hm).inline) l hl
  have hwhole' : ∀ l ∈ ms.map text, '\n' ∉ l := fun l hl => by
    obtain ⟨m, hm, rfl⟩ := List.mem_map.mp hl
    exact not_mem_of_inline (h m hm).whole
  have hsame : joinLines (ms.flatMap fun m => d.wrap m.shown) = joinLines (ms.map text) ↔
      ∀ m ∈ ms, m.shown = m.text ∧ d.Fits m.text := by
    rw [joinLines_inj hwhole hwhole', flatMap_eq_map_iff fun m _ => d.wrap_ne_nil m.shown]
    exact forall₂_congr fun m hm => (h m hm).wrap_eq_iff
  constructor
  · intro hlines
    -- the whole text came out, so no message was refused on the way
    have hunrefused := unrefused_of_lines h (congrArg Prod.snd hlines)
    rw [lines_of_unrefused h hunrefused, Prod.mk.injEq, String.ofList_inj, hsame] at hlines
    intro m hm
    obtain ⟨hshown, hfits⟩ := hlines.1 m hm
    have hrefusal := hunrefused m hm
    rw [hshown, hfits] at hrefusal
    exact ⟨hshown, hfits, by simpa [joinLines] using hrefusal⟩
  · intro hshows
    have hunrefused : ∀ m ∈ ms, d.refusal? (joinLines (d.wrap m.shown)) = none := fun m hm => by
      obtain ⟨hshown, hfits, hrefusal⟩ := hshows m hm
      rw [hshown, hfits]
      simpa [joinLines] using hrefusal
    rw [lines_of_unrefused h hunrefused, hsame.mpr fun m hm => ⟨(hshows m hm).1, (hshows m hm).2.1⟩]

end Message

end Console

end Specifiers
