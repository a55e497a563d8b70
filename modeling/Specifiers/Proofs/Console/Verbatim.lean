import Mathlib.Tactic.Common
import Specifiers.Proofs.Console.Emoji
import Specifiers.Proofs.Console.Escape
import Specifiers.Proofs.Console.Markup

/-!
# Which texts are shown as they are

An escaped text in a message is shown part by part (`Part.shown`). Each part is shown as it is, or else
departs from it: where an emoji is named, and where a backslash stands before a bracket with which no tag
starts (`sameOrDeparts_shown`, `shown_eq_iff`). Besides there are the backslashes at the end, which are shown
as they are except for a single one on a line of its own, which is doubled (`line_specifier`), and two or
more in a heading, of which half are shown (`line_heading`).
-/

namespace Specifiers

namespace Console

variable {cs ys content body : List Char} {ps : List Part} {count n : Nat} {d : Display}

/-! ## Shown characters -/

/-- Are there no control characters in a text? -/
def Inline (cs : List Char) : Prop := ∀ c ∈ cs, ' ' ≤ c

/-- That a text has no control characters can be computed. -/
theorem inline_of_all (h : (cs.all fun c => decide (' ' ≤ c)) = true) : Inline cs := fun c hc => by
  simpa using List.all_eq_true.mp h c hc

theorem Inline.append (h : Inline cs) (h' : Inline ys) : Inline (cs ++ ys) :=
  List.forall_mem_append.mpr ⟨h, h'⟩

theorem inline_slashes (n : Nat) : Inline (slashes n) := by
  intro c hc
  rw [eq_of_mem_slashes hc]
  decide

/-- A character that is no control character does not move the cursor. -/
theorem not_movesCursor {c : Char} (h : ' ' ≤ c) : movesCursor c = false := by
  by_contra hmoves
  simp only [movesCursor, Bool.not_eq_false, Bool.or_eq_true, beq_iff_eq] at hmoves
  rcases hmoves with (((rfl | rfl) | rfl) | rfl) | rfl
  all_goals exact absurd h (by decide)

/-- Any character stays but a backslash right before a bracket. -/
theorem withoutBracketSlash_cons {c : Char} (h : ∀ rest, c = '\\' → cs = '[' :: rest → False) :
    withoutBracketSlash (c :: cs) = c :: withoutBracketSlash cs := by
  rw [withoutBracketSlash]
  exact h

/-- Characters without a bracket after a text keep their backslashes. -/
theorem withoutBracketSlash_append (bracket : '[' ∉ ys) (cs : List Char) :
    withoutBracketSlash (cs ++ ys) = withoutBracketSlash cs ++ ys := by
  have hys : withoutBracketSlash ys = ys := by
    induction ys with
    | nil => rfl
    | cons c ys ih =>
      obtain ⟨-, hys⟩ := List.ne_and_not_mem_of_not_mem_cons bracket
      rw [withoutBracketSlash_cons fun _ _ hrest => hys (by simp [hrest]), ih hys]
  induction cs using withoutBracketSlash.induct with
  | case1 cs ih => rw [List.cons_append, List.cons_append, withoutBracketSlash, withoutBracketSlash, ih,
      List.cons_append]
  | case2 c cs hnot ih =>
    have hlonger : ∀ rest, c = '\\' → cs ++ ys = '[' :: rest → False := fun rest hc hrest => by
      cases cs with
      | nil =>
        rw [List.nil_append] at hrest
        exact bracket (by rw [hrest]; exact List.mem_cons_self)
      | cons d cs =>
        obtain ⟨rfl, -⟩ := List.cons.inj hrest
        exact hnot cs hc rfl
    rw [List.cons_append, withoutBracketSlash_cons hlonger, withoutBracketSlash_cons hnot, ih,
      List.cons_append]
  | case3 => exact hys

/-- Where a backslash stands before a bracket, a text departs from what remains without it. -/
theorem departs_withoutBracketSlash (h : ['\\', '['] <:+: cs) :
    Departs (fun x y => x = '[' ∧ y = '\\') (withoutBracketSlash cs) cs := by
  induction cs using withoutBracketSlash.induct with
  | case1 cs ih =>
    rw [withoutBracketSlash]
    exact .here ⟨rfl, rfl⟩ _ _
  | case2 c cs hnot ih =>
    rw [withoutBracketSlash_cons hnot]
    refine .later c (ih ?_)
    rcases List.infix_cons_iff.mp h with hstart | hpair
    · obtain ⟨rest, hrest⟩ := hstart
      obtain ⟨rfl, rfl⟩ := List.cons.inj hrest
      exact absurd rfl (hnot rest rfl)
    · exact hpair
  | case3 => simp at h

/-- Without a backslash before a bracket, nothing is dropped. -/
theorem withoutBracketSlash_eq_self (h : ¬['\\', '['] <:+: cs) : withoutBracketSlash cs = cs := by
  induction cs using withoutBracketSlash.induct with
  | case1 cs ih => exact absurd ⟨[], cs, rfl⟩ h
  | case2 c cs hnot ih =>
    rw [withoutBracketSlash_cons hnot, ih fun hpair => h (List.infix_cons hpair)]
  | case3 => rfl

/-- Dropping backslashes makes no control characters. -/
theorem Inline.withoutBracketSlash (h : Inline cs) : Inline (withoutBracketSlash cs) := by
  induction cs using withoutBracketSlash.induct with
  | case1 cs ih =>
    rw [Console.withoutBracketSlash]
    obtain ⟨hbracket, hcs⟩ := List.forall_mem_cons.mp (List.forall_mem_cons.mp h).2
    exact List.forall_mem_cons.mpr ⟨hbracket, ih hcs⟩
  | case2 c cs hnot ih =>
    obtain ⟨hc, hcs⟩ := List.forall_mem_cons.mp h
    rw [withoutBracketSlash_cons hnot]
    exact List.forall_mem_cons.mpr ⟨hc, ih hcs⟩
  | case3 => exact h

/-- A text without control characters is shown without backslashes before brackets and with its emoji,
and no control characters come in. -/
theorem shownText_eq (h : Inline cs) : shownText cs = showEmoji (withoutBracketSlash cs) ∧
    Inline (shownText cs) := by
  have hinline : Inline (showEmoji (withoutBracketSlash cs)) := le_of_mem_showEmoji h.withoutBracketSlash
  have hshown : shownText cs = showEmoji (withoutBracketSlash cs) := by
    rw [shownText, List.filter_eq_self]
    intro c hc
    rw [not_movesCursor (hinline c hc), Bool.not_false]
  exact ⟨hshown, hshown ▸ hinline⟩

/-! ## Shown parts -/

/-- What stands for a part of an escaped text where it is shown. -/
def Part.shown : Part → List Char
  | plain cs => shownText cs
  | tag n content => slashes n ++ shownText ('[' :: content ++ [']'])

/-- Is a part of an escaped text shown as it is? No emoji is named in it, and no backslash stands before a
bracket with which no tag starts. -/
def Part.IsVerbatim : Part → Prop
  | plain cs => ¬NamesEmoji cs ∧ ¬['\\', '['] <:+: cs
  | tag _ content => ¬NamesEmoji ('[' :: content ++ [']'])

/-- Characters are shown as they are, or else what is shown departs from them. -/
theorem sameOrDeparts_shownText (h : Inline cs) : SameOrDeparts (shownText cs) cs ∧
    (shownText cs = cs ↔ ¬NamesEmoji cs ∧ ¬['\\', '['] <:+: cs) := by
  rw [(shownText_eq h).1]
  by_cases hslash : ['\\', '['] <:+: cs
  · -- What departs at the bracket still does so with emoji, which take the place of a colon.
    have hapart (x y : Char) (h : x = '[' ∧ y = '\\') : Apart x y := by
      obtain ⟨rfl, rfl⟩ := h
      exact ⟨by decide, .inl (by decide)⟩
    have hdeparts : Departs Apart (showEmoji (withoutBracketSlash cs)) cs := by
      have hbracket := departs_withoutBracketSlash hslash
      by_cases hnames : NamesEmoji (withoutBracketSlash cs)
      · refine (departs_showEmoji hnames).trans hbracket apart_colon hapart ?_
        rintro x y z ⟨-, rfl⟩ ⟨hy, -⟩
        exact absurd hy (by decide)
      · rw [showEmoji_of_not_namesEmoji hnames]
        exact hbracket.mono hapart
    exact ⟨.inr hdeparts, by simp [hdeparts.ne, hslash]⟩
  · rw [withoutBracketSlash_eq_self hslash]
    refine ⟨?_, by simp [showEmoji_eq_iff, hslash]⟩
    by_cases hnames : NamesEmoji cs
    · exact .inr ((departs_showEmoji hnames).mono apart_colon)
    · exact .inl (showEmoji_of_not_namesEmoji hnames)

/-- A part is shown as it is, or else what is shown departs from it. -/
theorem sameOrDeparts_shown {p : Part} (stands : p.Stands) (h : Inline p.chars) :
    SameOrDeparts p.shown p.chars ∧ (p.shown = p.chars ↔ p.IsVerbatim) := by
  cases p with
  | plain cs => exact sameOrDeparts_shownText h
  | tag n content =>
    have htag : IsTag content := stands
    have hinline : Inline ('[' :: content ++ [']']) := fun c hc =>
      h c (by rw [Part.chars, List.append_assoc]; exact List.mem_append_right _ hc)
    have hslash : ¬['\\', '['] <:+: '[' :: content ++ [']'] := by
      intro hpair
      rcases List.infix_cons_iff.mp hpair with ⟨rest, hrest⟩ | hpair
      · exact absurd (List.cons.inj hrest).1 (by decide)
      · have hmem : '[' ∈ content ++ [']'] := hpair.subset (by simp)
        rcases List.mem_append.mp hmem with hmem | hmem
        · exact absurd (htag.inside _ hmem) (by decide)
        · simp at hmem
    obtain ⟨hsame, hiff⟩ := sameOrDeparts_shownText hinline
    rw [Part.shown, Part.chars, List.append_assoc]
    refine ⟨(SameOrDeparts.append (.inl rfl) hsame), ?_⟩
    rw [List.append_cancel_left_eq, hiff]
    exact and_iff_left hslash

/-! ## Rendered messages -/

/-- Backslashes at the end are shown as they are. -/
theorem shownText_append_slashes (cs : List Char) (count : Nat) :
    shownText (cs ++ slashes count) = shownText cs ++ slashes count := by
  have hbracket : '[' ∉ slashes count := fun h => absurd (eq_of_mem_slashes h) (by decide)
  have hcolon : ':' ∉ slashes count := fun h => absurd (eq_of_mem_slashes h) (by decide)
  have hmoves : (slashes count).filter (fun c => !movesCursor c) = slashes count := by
    rw [List.filter_eq_self]
    intro c hc
    rw [not_movesCursor (inline_slashes count c hc), Bool.not_false]
  rw [shownText, withoutBracketSlash_append hbracket, showEmoji_append hcolon, List.filter_append,
    hmoves, shownText]

theorem shownText_slashes (count : Nat) : shownText (slashes count) = slashes count :=
  shownText_append_slashes [] count

/-- Blanks in front are shown as they are. -/
theorem shownText_blanks (cs : List Char) :
    shownText (' ' :: ' ' :: cs) = ' ' :: ' ' :: shownText cs := by
  rw [shownText, withoutBracketSlash_cons (fun _ h => absurd h (by decide)),
    withoutBracketSlash_cons (fun _ h => absurd h (by decide)), showEmoji_cons_of_ne (by decide),
    showEmoji_cons_of_ne (by decide)]
  rfl

/-- Backslashes at the end are shown after everything else. -/
theorem shown_withEnd (count : Nat) (ps : List Part) :
    (withEnd count ps).flatMap Part.shown = ps.flatMap Part.shown ++ slashes count := by
  induction ps using withEnd.induct with
  | case1 =>
    rcases plainPart_eq (slashes count) with ⟨hnil, h⟩ | ⟨-, h⟩
    · rw [withEnd, h, hnil, List.append_nil]
    · rw [withEnd, h, List.flatMap_singleton, reverse_slashes, Part.shown, shownText_slashes,
        List.flatMap_nil, List.nil_append]
  | case2 n content ps ih => rw [withEnd, List.flatMap_cons, List.flatMap_cons, ih, List.append_assoc]
  | case3 cs => simp [withEnd, Part.shown, shownText_append_slashes]
  | case4 cs p ps ih => rw [withEnd, List.flatMap_cons, ih, ← List.append_assoc, ← List.flatMap_cons]

/-- Blanks in front are shown before everything else. -/
theorem shown_withBlanks (ps : List Part) :
    (withBlanks ps).flatMap Part.shown = ' ' :: ' ' :: ps.flatMap Part.shown := by
  rcases ps with _ | ⟨cs | ⟨n, content⟩, ps⟩
  · rfl
  · rw [withBlanks, List.flatMap_cons, List.flatMap_cons, Part.shown, shownText_blanks, Part.shown]
    rfl
  · rfl

/-- Guarded parts open and close no style, so they are shown in any message. -/
theorem renderFrom_guarded (opened : List OpenTag) (position : Nat) (ps rest : List Part) :
    ∃ position', renderFrom d opened position (ps.map Part.guarded ++ rest) =
      (renderFrom d opened position' rest).map (ps.flatMap Part.shown ++ ·) := by
  induction ps generalizing position with
  | nil =>
    refine ⟨position, ?_⟩
    rw [List.map_nil, List.nil_append]
    cases renderFrom d opened position rest <;> rfl
  | cons p ps ih =>
    obtain ⟨position', hrest⟩ := ih (position + p.guarded.size)
    refine ⟨position', ?_⟩
    rw [List.map_cons, List.cons_append, renderFrom.eq_def]
    cases p with
    | plain cs =>
      simp only [Part.guarded] at hrest ⊢
      rw [hrest]
      cases renderFrom d opened position' rest <;> simp [Except.map, Part.shown]
    | tag n content =>
      have hodd : (2 * n + 1) % 2 = 1 := by omega
      have hhalf : (2 * n + 1) / 2 = n := by omega
      simp only [Part.guarded] at hrest ⊢
      rw [if_pos hodd, hrest, hhalf, shownText_slashes]
      cases renderFrom d opened position' rest <;> simp [Except.map, Part.shown]

variable {s : String}

/-- What an escaped text is shown as on a line of its own, behind two blanks. -/
theorem render_line (h : s.toList = body ++ slashes count) (last : body.getLast? ≠ some '\\') :
    render d ("  " ++ escape s) =
      .ok ([' ', ' '] ++ ((parts body).flatMap Part.shown ++ slashes (closedCount count))) := by
  obtain ⟨position, hrender⟩ :=
    renderFrom_guarded [] 0 (withEnd (closedCount count) (withBlanks (parts body))) []
  rw [render, parts_line h last, ← List.append_nil (List.map _ _), hrender, renderFrom, Except.map,
    shown_withEnd, shown_withBlanks, List.append_nil]
  rfl

/-- What the backslashes at the end of a heading and the tag behind them are shown as. -/
def headingEnd (count : Nat) : List Char :=
  slashes (count / 2) ++ if count % 2 = 1 then "[/bold]".toList else []

/-- What a heading shows behind its text. -/
def kindText (isModule : Bool) : List Char :=
  (if isModule then " (module)" else " (script)").toList

/-- The kind is shown whatever styles are set. -/
theorem renderFrom_kindParts (opened : List OpenTag) (position : Nat) (isModule : Bool) :
    renderFrom d opened position (kindParts isModule) = .ok (kindText isModule) := by
  have hclose (position : Nat) : applyTag d (⟨d.styleName "dim", []⟩ :: opened) "/dim".toList position =
      .ok opened := applyTag_close "dim".toList rfl (by decide) (by decide) opened position
  let kind := (if isModule then "(module)" else "(script)").toList
  have hshown : renderFrom d opened position (kindParts isModule) =
      .ok (shownText [' '] ++ (shownText (slashes 0) ++ (shownText kind ++ (shownText (slashes 0) ++ [])))) :=
    renderFrom_plain [' '] (renderFrom_tag rfl rfl
      (renderFrom_plain kind (renderFrom_tag rfl (hclose _) rfl)))
  rw [hshown]
  cases isModule <;> rfl

/-- What an escaped text is shown as in a heading. -/
theorem render_heading (isModule : Bool) (h : s.toList = body ++ slashes count)
    (last : body.getLast? ≠ some '\\') : render d (heading s isModule) =
      .ok ((parts body).flatMap Part.shown ++ (headingEnd (closedCount count) ++ kindText isModule)) := by
  let bold : OpenTag := ⟨d.styleName "bold", []⟩
  have hclose (position : Nat) : applyTag d [bold] "/bold".toList position = .ok [] :=
    applyTag_close "bold".toList rfl (by decide) (by decide) [] position
  have htext : shownText ('[' :: "/bold".toList ++ [']']) = "[/bold]".toList := rfl
  -- An odd number of backslashes makes text of the tag, which then closes nothing.
  have hend (position : Nat) : renderFrom d [bold] position
      (.tag (closedCount count) "/bold".toList :: kindParts isModule) =
        .ok (headingEnd (closedCount count) ++ kindText isModule) := by
    rw [headingEnd]
    by_cases hodd : closedCount count % 2 = 1
    · rw [renderFrom, if_pos hodd, if_pos hodd, renderFrom_kindParts, shownText_slashes, htext]
      rfl
    · have heven : closedCount count % 2 = 0 := by omega
      rw [renderFrom_tag heven (hclose _) (renderFrom_kindParts [] _ isModule), if_neg hodd,
        List.append_nil, shownText_slashes]
  obtain ⟨position, hbody⟩ := renderFrom_guarded (d := d) [bold] (0 + (Part.tag 0 "bold".toList).size)
    (parts body) (.tag (closedCount count) "/bold".toList :: kindParts isModule)
  rw [hend] at hbody
  rw [render, parts_heading isModule h last]
  exact renderFrom_tag rfl rfl hbody

end Console

end Specifiers
