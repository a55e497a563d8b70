import Mathlib.Data.List.Basic
import Mathlib.Tactic.Common
import Specifiers.Console.Emoji
import Specifiers.Proofs.Text.Departure

/-!
# Texts that name emoji

Showing the emoji of a text leaves it as it is when it names none (`showEmoji_eq_iff`). When it names
one, what is shown departs from it at the colon before the first name: there stands the first character
of an emoji, which is no colon (`departs_showEmoji`).
-/

namespace Specifiers

namespace Console

variable {cs ys name : List Char} {code : EmojiCode} {c : Char}

/-! ## Names between colons -/

/-- The characters that stand before what follows a name between colons. -/
theorem codeFrom_suffix (h : codeFrom name cs = some code) : ∃ taken, cs = taken ++ code.rest := by
  induction cs generalizing name with
  | nil => exact nomatch h
  | cons c cs ih =>
    rw [codeFrom] at h
    split at h
    · obtain rfl := Option.some.inj h
      exact ⟨[c], rfl⟩
    · split at h
      · next suffix variant _ =>
        obtain rfl := Option.some.inj h
        exact ⟨(c :: cs).take suffix.length, (List.take_append_drop suffix.length (c :: cs)).symm⟩
      · split at h
        · exact nomatch h
        · obtain ⟨taken, rfl⟩ := ih h
          exact ⟨c :: taken, rfl⟩

/-- A way to show an emoji is asked for by a character that is seen. -/
theorem codeFrom_variant (h : codeFrom name cs = some code) : ∀ c ∈ code.variant, ' ' ≤ c := by
  induction cs generalizing name with
  | nil => exact nomatch h
  | cons c cs ih =>
    rw [codeFrom] at h
    split at h
    · obtain rfl := Option.some.inj h
      simp
    · split at h
      · next suffix variant hvariant =>
        obtain rfl := Option.some.inj h
        have hmem : (suffix, variant) ∈ variants := List.mem_of_find?_eq_some hvariant
        have hseen : ∀ v ∈ variants, ' ' ≤ v.2 := by decide
        simpa using hseen _ hmem
      · split at h
        · exact nomatch h
        · exact ih h

/-- The ways to show an emoji are spelled with a colon at the end. -/
theorem exists_of_mem_variants {v : List Char × Char} (h : v ∈ variants) :
    ∃ word, v.1 = word ++ [':'] := by
  have hcolon : ∀ v ∈ variants, v.1.getLast? = some ':' := by decide
  exact List.getLast?_eq_some_iff.mp (hcolon v h)

/-- What ends with a colon does not reach into characters among which there is none. -/
theorem isPrefix_append_iff {word : List Char} (colon : ':' ∉ ys) :
    word ++ [':'] <+: cs ++ ys ↔ word ++ [':'] <+: cs := by
  refine ⟨fun h => ?_, fun h => h.trans (List.prefix_append cs ys)⟩
  rcases List.prefix_or_prefix_of_prefix h (List.prefix_append cs ys) with hshort | ⟨u, hu⟩
  · exact hshort
  · by_cases hnil : u = []
    · have hcs : cs = word ++ [':'] := by rw [← hu, hnil, List.append_nil]
      exact hcs ▸ List.prefix_rfl
    · have hlast : u.getLast? = some ':' := by
        have hends := congrArg List.getLast? hu
        rwa [List.getLast?_append_of_ne_nil cs hnil, List.getLast?_concat] at hends
      have hys : u <+: ys := by rwa [← hu, List.prefix_append_right_inj] at h
      exact absurd (hys.subset (List.mem_of_getLast? hlast)) colon

/-- Characters without a colon do not make a text end a name. -/
theorem codeFrom_of_not_mem (colon : ':' ∉ ys) (name : List Char) : codeFrom name ys = none := by
  induction ys generalizing name with
  | nil => rfl
  | cons c ys ih =>
    obtain ⟨hc, hys⟩ := List.ne_and_not_mem_of_not_mem_cons colon
    have hvariant : (variants.find? fun v => v.1.isPrefixOf (c :: ys)) = none := by
      rw [List.find?_eq_none]
      intro v hv hstarts
      obtain ⟨word, hword⟩ := exists_of_mem_variants hv
      rw [List.isPrefixOf_iff_prefix, hword] at hstarts
      exact colon (hstarts.subset (by simp))
    rw [codeFrom, if_neg (by simpa using hc.symm), hvariant]
    dsimp only
    split
    · rfl
    · exact ih hys (c :: name)

/-- A name is read the same, whichever characters without a colon come after the text. -/
theorem codeFrom_append (colon : ':' ∉ ys) (name cs : List Char) :
    codeFrom name (cs ++ ys) =
      (codeFrom name cs).map fun code => { code with rest := code.rest ++ ys } := by
  induction cs generalizing name with
  | nil => exact codeFrom_of_not_mem colon name
  | cons c cs ih =>
    -- a variant ends in a colon, so it is not spread over the seam
    have hvariant : (variants.find? fun v => v.1.isPrefixOf (c :: cs ++ ys)) =
        variants.find? fun v => v.1.isPrefixOf (c :: cs) := by
      rw [← List.head?_filter, ← List.head?_filter]
      refine congrArg List.head? (List.filter_congr fun v hv => ?_)
      obtain ⟨word, hword⟩ := exists_of_mem_variants hv
      rw [Bool.eq_iff_iff, List.isPrefixOf_iff_prefix, List.isPrefixOf_iff_prefix, hword]
      exact isPrefix_append_iff colon
    rw [List.cons_append, codeFrom, codeFrom]
    split
    · rfl
    · rw [← List.cons_append, hvariant]
      cases hfind : variants.find? fun v => v.1.isPrefixOf (c :: cs) with
      | none =>
        dsimp only
        split
        · rfl
        · exact ih (c :: name)
      | some v =>
        have hstarts : v.1 <+: c :: cs := by simpa using List.find?_some hfind
        have hlength : v.1.length ≤ (c :: cs).length := hstarts.length_le
        simp only [Option.map_some, List.drop_append_of_le_length hlength]

/-! ## Emoji of a text -/

/-- Characters that belong to a name already seen are passed over. -/
theorem showEmojiFrom_eq (skip : Nat) (cs : List Char) :
    showEmojiFrom skip cs = showEmoji (cs.drop skip) := by
  induction cs generalizing skip with
  | nil => rw [List.drop_nil, showEmoji, showEmojiFrom, showEmojiFrom]
  | cons c cs ih =>
    cases skip with
    | zero => rfl
    | succ skip => rw [showEmojiFrom, ih, List.drop_succ_cons]

/-- Any character but a colon is shown as it is. -/
theorem showEmoji_cons_of_ne (hc : c ≠ ':') (cs : List Char) :
    showEmoji (c :: cs) = c :: showEmoji cs := by
  rw [showEmoji, showEmojiFrom, if_neg (by simpa using hc)]
  rfl

/-- A colon with which no code starts is shown as it is. -/
theorem showEmoji_colon_of_none (h : codeFrom [] cs = none) :
    showEmoji (':' :: cs) = ':' :: showEmoji cs := by
  rw [showEmoji, showEmojiFrom, if_pos (beq_self_eq_true ':'), h]
  rfl

/-- A code is shown as its emoji if it names one, and else as it is. -/
theorem showEmoji_colon_of_some {taken : List Char}
    (h : codeFrom [] (taken ++ code.rest) = some code) :
    showEmoji (':' :: (taken ++ code.rest)) =
      code.shown?.getD (':' :: taken) ++ showEmoji code.rest := by
  have hlength : (taken ++ code.rest).length - code.rest.length = taken.length := by
    rw [List.length_append, Nat.add_sub_cancel]
  rw [showEmoji, showEmojiFrom, if_pos (beq_self_eq_true ':'), h]
  simp only [hlength, List.take_left, showEmojiFrom_eq, List.drop_left]

/-- Does a text name an emoji between colons? The names are read one after the other: the colon that
ends one does not start the next. -/
inductive NamesEmoji : List Char → Prop
  | here {taken : List Char} {code : EmojiCode} (named : codeFrom [] (taken ++ code.rest) = some code)
      (shown : code.shown?.isSome = true) : NamesEmoji (':' :: (taken ++ code.rest))
  | past {taken : List Char} {code : EmojiCode} (named : codeFrom [] (taken ++ code.rest) = some code)
      (unknown : code.shown? = none) : NamesEmoji code.rest → NamesEmoji (':' :: (taken ++ code.rest))
  | lone {cs : List Char} (unnamed : codeFrom [] cs = none) : NamesEmoji cs → NamesEmoji (':' :: cs)
  | next {c : Char} {cs : List Char} (other : c ≠ ':') : NamesEmoji cs → NamesEmoji (c :: cs)

/-- What holds of a text can be shown along the names in it: behind a name reading goes on behind the
colon that ends it. -/
@[elab_as_elim]
theorem induction_on_names {P : List Char → Prop} (nil : P [])
    (next : ∀ c cs, c ≠ ':' → P cs → P (c :: cs))
    (lone : ∀ cs, codeFrom [] cs = none → P cs → P (':' :: cs))
    (named : ∀ taken (code : EmojiCode), codeFrom [] (taken ++ code.rest) = some code →
      P code.rest → P (':' :: (taken ++ code.rest)))
    (cs : List Char) : P cs := by
  induction hn : cs.length using Nat.strongRecOn generalizing cs with
  -- a name takes many characters at once, so the induction is on the length
  | ind n ih =>
    subst hn
    cases cs with
    | nil => exact nil
    | cons c cs =>
      by_cases hc : c = ':'
      · subst hc
        cases hcode : codeFrom [] cs with
        | none => exact lone cs hcode (ih cs.length (by simp) cs rfl)
        | some code =>
          obtain ⟨taken, rfl⟩ := codeFrom_suffix hcode
          have hshorter : code.rest.length < (':' :: (taken ++ code.rest)).length := by
            rw [List.length_cons, List.length_append]
            omega
          exact named taken code hcode (ih _ hshorter code.rest rfl)
      · exact next c cs hc (ih cs.length (by simp) cs rfl)

/-- A text that names no emoji is shown as it is. -/
theorem showEmoji_of_not_namesEmoji (h : ¬NamesEmoji cs) : showEmoji cs = cs := by
  induction cs using induction_on_names with
  | nil => rfl
  | next c cs hc ih => rw [showEmoji_cons_of_ne hc, ih fun hcs => h (.next hc hcs)]
  | lone cs hnone ih => rw [showEmoji_colon_of_none hnone, ih fun hcs => h (.lone hnone hcs)]
  | named taken code hcode ih =>
    have hunknown : code.shown? = none := by
      by_contra hshown
      exact h (.here hcode (Option.isSome_iff_ne_none.mpr hshown))
    rw [showEmoji_colon_of_some hcode, hunknown, ih fun hcs => h (.past hcode hunknown hcs)]
    rfl

/-- The characters that are shown for a name: the first one is no colon, and all of them are seen. -/
theorem EmojiCode.shown?_eq_some {shown : List Char} (h : code.shown? = some shown)
    (variant : ∀ c ∈ code.variant, ' ' ≤ c) :
    (∃ x rest, shown = x :: rest ∧ x ≠ ':') ∧ ∀ c ∈ shown, ' ' ≤ c := by
  obtain ⟨e, -, rfl⟩ := Option.map_eq_some_iff.mp h
  obtain ⟨x, rest, hchars⟩ := List.exists_cons_of_ne_nil e.nonempty
  have hseen := List.all_eq_true.mp e.seen
  constructor
  · have hx := hseen x (hchars ▸ List.mem_cons_self)
    rw [hchars]
    exact ⟨x, _, rfl, by simpa using (Bool.and_eq_true_iff.mp hx).2⟩
  · intro c hc
    rcases List.mem_append.mp hc with hc | hc
    · have hlt := (Bool.and_eq_true_iff.mp (hseen c hc)).1
      exact Std.le_of_lt (by simpa using hlt)
    · exact variant c (by simpa using hc)

/-- What is shown for a text that names an emoji departs from it at a colon. -/
theorem departs_showEmoji (h : NamesEmoji cs) :
    Departs (fun x y => x ≠ ':' ∧ y = ':') (showEmoji cs) cs := by
  induction h with
  | @here taken code named shown =>
    obtain ⟨shown, hshown⟩ := Option.isSome_iff_exists.mp shown
    obtain ⟨⟨x, rest, rfl, hx⟩, -⟩ := EmojiCode.shown?_eq_some hshown (codeFrom_variant named)
    rw [showEmoji_colon_of_some named, hshown]
    exact .here ⟨hx, rfl⟩ _ _
  | @past taken code named unknown _ ih =>
    rw [showEmoji_colon_of_some named, unknown]
    exact ih.append_left (':' :: taken)
  | lone unnamed _ ih =>
    rw [showEmoji_colon_of_none unnamed]
    exact .later ':' ih
  | next other _ ih =>
    rw [showEmoji_cons_of_ne other]
    exact .later _ ih

/-- A colon is no blank. -/
theorem apart_colon (x y : Char) (h : x ≠ ':' ∧ y = ':') : Apart x y := by
  obtain ⟨hx, rfl⟩ := h
  exact ⟨hx, .inr (by decide)⟩

/-- A text is shown as it is exactly when it names no emoji. -/
theorem showEmoji_eq_iff : showEmoji cs = cs ↔ ¬NamesEmoji cs := by
  refine ⟨fun heq hnames => ?_, showEmoji_of_not_namesEmoji⟩
  exact ((departs_showEmoji hnames).mono apart_colon).ne heq

/-- A text without a colon is shown as it is. -/
theorem showEmoji_of_not_mem (colon : ':' ∉ ys) : showEmoji ys = ys := by
  induction ys with
  | nil => rfl
  | cons c ys ih =>
    obtain ⟨hc, hys⟩ := List.ne_and_not_mem_of_not_mem_cons colon
    rw [showEmoji_cons_of_ne hc.symm, ih hys]

/-- Characters without a colon after a text are shown as they are. -/
theorem showEmoji_append (colon : ':' ∉ ys) (cs : List Char) :
    showEmoji (cs ++ ys) = showEmoji cs ++ ys := by
  induction cs using induction_on_names with
  | nil => exact showEmoji_of_not_mem colon
  | next c cs hc ih =>
    rw [List.cons_append, showEmoji_cons_of_ne hc, showEmoji_cons_of_ne hc, ih, List.cons_append]
  | lone cs hnone ih =>
    have hlonger : codeFrom [] (cs ++ ys) = none := by rw [codeFrom_append colon, hnone, Option.map_none]
    rw [List.cons_append, showEmoji_colon_of_none hlonger, showEmoji_colon_of_none hnone, ih,
      List.cons_append]
  | named taken code hcode ih =>
    let longer : EmojiCode := { code with rest := code.rest ++ ys }
    have hlonger : codeFrom [] (taken ++ longer.rest) = some longer := by
      rw [← List.append_assoc, codeFrom_append colon, hcode, Option.map_some]
    rw [List.cons_append, List.append_assoc]
    calc showEmoji (':' :: (taken ++ longer.rest))
        = longer.shown?.getD (':' :: taken) ++ showEmoji longer.rest := showEmoji_colon_of_some hlonger
      _ = code.shown?.getD (':' :: taken) ++ (showEmoji code.rest ++ ys) := by rw [← ih]; rfl
      _ = showEmoji (':' :: (taken ++ code.rest)) ++ ys := by
        rw [showEmoji_colon_of_some hcode, List.append_assoc]

/-- Showing the emoji of a text without control characters brings none in. -/
theorem le_of_mem_showEmoji (h : ∀ c ∈ cs, ' ' ≤ c) : ∀ c ∈ showEmoji cs, ' ' ≤ c := by
  induction cs using induction_on_names with
  | nil => exact h
  | next c cs hc ih =>
    obtain ⟨hhead, hcs⟩ := List.forall_mem_cons.mp h
    rw [showEmoji_cons_of_ne hc]
    exact List.forall_mem_cons.mpr ⟨hhead, ih hcs⟩
  | lone cs hnone ih =>
    obtain ⟨hhead, hcs⟩ := List.forall_mem_cons.mp h
    rw [showEmoji_colon_of_none hnone]
    exact List.forall_mem_cons.mpr ⟨hhead, ih hcs⟩
  | named taken code hcode ih =>
    obtain ⟨hhead, hcs⟩ := List.forall_mem_cons.mp h
    obtain ⟨htaken, hrest⟩ := List.forall_mem_append.mp hcs
    rw [showEmoji_colon_of_some hcode]
    refine List.forall_mem_append.mpr ⟨?_, ih hrest⟩
    cases hshown : code.shown? with
    | none => exact List.forall_mem_cons.mpr ⟨hhead, htaken⟩
    | some shown => exact (EmojiCode.shown?_eq_some hshown (codeFrom_variant hcode)).2

end Console

end Specifiers
