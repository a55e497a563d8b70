import Mathlib.Data.List.Basic
import Specifiers.Ignore.Pattern
import Specifiers.Proofs.Text.Split

/-!
# What a pattern meets

A matcher that gives the rests of a text is read as a relation between a token and the texts that it
means (`Token.Means`): the rests are what is left when such a text is taken from the front. Whether a
pattern meets a path is then a question about how the path can be divided.

A pattern of one segment meets a path at any depth. The segment it means is one of the pieces of the path
between its slashes: any of them when the pattern ends there (`isSome_hit?_whole_iff`), and one with
something below it when the pattern asks for a directory (`isSome_hit?_inDirectory_iff`).
-/

namespace Specifiers

namespace Ignore

variable {text rest : List Char}

/-! ## Tokens -/

/-- Does a token mean a text? -/
inductive Token.Means : Token → List Char → Prop
  | anyRun {run : List Char} (h : '/' ∉ run) : Means anyRun run
  | anyOne {c : Char} (h : c ≠ '/') : Means anyOne [c]
  | set {negated : Bool} {ranges : List Range} {c : Char} (h : inRanges ranges c ≠ negated) :
      Means (set negated ranges) [c]
  | char (c : Char) : Means (char c) [c]

/-- After a run comes any rest that leaves only characters of the run before it. -/
theorem mem_runRests_iff {p : Char → Bool} :
    rest ∈ runRests p text ↔ ∃ run, text = run ++ rest ∧ ∀ c ∈ run, p c = true := by
  induction text with
  | nil =>
    simp only [runRests, List.mem_singleton]
    constructor
    · rintro rfl
      exact ⟨[], rfl, by simp⟩
    · rintro ⟨run, h, -⟩
      exact (List.append_eq_nil_iff.mp h.symm).2
  | cons c text ih =>
    -- the empty run is always there, at a character that goes on as well as at one that stops
    have hself : ∃ run, c :: text = run ++ (c :: text) ∧ ∀ d ∈ run, p d = true := ⟨[], rfl, by simp⟩
    rw [runRests]
    split
    · next hc =>
      rw [List.mem_append, ih, List.mem_singleton]
      constructor
      · rintro (⟨run, rfl, hrun⟩ | rfl)
        · exact ⟨c :: run, rfl, List.forall_mem_cons.mpr ⟨hc, hrun⟩⟩
        · exact hself
      · rintro ⟨run, h, hrun⟩
        cases run with
        | nil => exact .inr h.symm
        | cons d run =>
          obtain ⟨rfl, rfl⟩ := List.cons_eq_cons.mp h
          exact .inl ⟨run, rfl, (List.forall_mem_cons.mp hrun).2⟩
    · next hc =>
      rw [List.mem_singleton]
      constructor
      · rintro rfl
        exact hself
      · rintro ⟨run, h, hrun⟩
        cases run with
        | nil => exact h.symm
        | cons d run =>
          obtain ⟨rfl, -⟩ := List.cons_eq_cons.mp h
          exact absurd (hrun c List.mem_cons_self) hc

/-- A token of one character leaves what follows a character that it takes. -/
theorem Token.mem_rests_iff_of_takes {t : Token} {takes : Char → Bool} (hnil : t.rests [] = [])
    (hcons : ∀ c cs, t.rests (c :: cs) = if takes c then [cs] else [])
    (hmeans : ∀ taken, t.Means taken ↔ ∃ c, taken = [c] ∧ takes c = true) :
    rest ∈ t.rests text ↔ ∃ taken, text = taken ++ rest ∧ t.Means taken := by
  simp only [hmeans]
  constructor
  · intro h
    cases text with
    | nil =>
      rw [hnil] at h
      cases h
    | cons c cs =>
      rw [hcons] at h
      obtain ⟨hc, rfl⟩ : takes c = true ∧ rest = cs := by simpa using h
      exact ⟨[c], rfl, c, rfl, hc⟩
  · rintro ⟨_, rfl, c, rfl, hc⟩
    rw [List.singleton_append, hcons, if_pos hc]
    exact List.mem_singleton.mpr rfl

/-- A token leaves what follows a text that it means. -/
theorem Token.mem_rests_iff {t : Token} :
    rest ∈ t.rests text ↔ ∃ taken, text = taken ++ rest ∧ t.Means taken := by
  cases t with
  | anyRun =>
    rw [rests, mem_runRests_iff]
    -- a run is the only token that takes more than one character
    refine exists_congr fun run => and_congr_right fun _ => ⟨fun h => .anyRun fun hmem => ?_, ?_⟩
    · simpa using h '/' hmem
    · rintro ⟨h⟩ c hc
      have hne : c ≠ '/' := ne_of_mem_of_not_mem hc h
      simpa using hne
  | anyOne =>
    refine mem_rests_iff_of_takes rfl (fun _ _ => rfl) fun taken => ⟨?_, ?_⟩
    · rintro ⟨⟩
      exact ⟨_, rfl, by simpa⟩
    · rintro ⟨c, rfl, hc⟩
      exact .anyOne (by simpa using hc)
  | set negated ranges =>
    refine mem_rests_iff_of_takes rfl (fun _ _ => rfl) fun taken => ⟨?_, ?_⟩
    · rintro ⟨⟩
      exact ⟨_, rfl, by simpa⟩
    · rintro ⟨c, rfl, hc⟩
      exact .set (by simpa using hc)
  | char d =>
    refine mem_rests_iff_of_takes rfl (fun _ _ => rfl) fun taken => ⟨?_, ?_⟩
    · rintro ⟨⟩
      exact ⟨d, rfl, beq_self_eq_true d⟩
    · rintro ⟨c, rfl, hc⟩
      obtain rfl : c = d := by simpa using hc
      exact .char c

/-- Do tokens mean a text, one after the other? -/
inductive Means : List Token → List Char → Prop
  | nil : Means [] []
  | cons {t : Token} {ts : List Token} {first others : List Char} (head : t.Means first)
      (tail : Means ts others) : Means (t :: ts) (first ++ others)

/-- Tokens leave what follows a text that they mean. -/
theorem mem_rests_tokens_iff {ts : List Token} :
    rest ∈ (Step.tokens ts).rests text ↔ ∃ taken, text = taken ++ rest ∧ Means ts taken := by
  -- The fold starts from several rests once a token has left them.
  have hfold (starts : List (List Char)) :
      rest ∈ ts.foldl (fun rests t => rests.flatMap t.rests) starts ↔
        ∃ start ∈ starts, ∃ taken, start = taken ++ rest ∧ Means ts taken := by
    induction ts generalizing starts with
    | nil =>
      constructor
      · exact fun h => ⟨rest, h, [], rfl, .nil⟩
      · rintro ⟨_, hstart, _, rfl, ⟨⟩⟩
        exact hstart
    | cons t ts ih =>
      rw [List.foldl_cons, ih]
      constructor
      · rintro ⟨_, hmem, others, rfl, hothers⟩
        obtain ⟨start, hstart, hrest⟩ := List.mem_flatMap.mp hmem
        obtain ⟨first, rfl, hfirst⟩ := Token.mem_rests_iff.mp hrest
        exact ⟨_, hstart, first ++ others, by rw [List.append_assoc], .cons hfirst hothers⟩
      · rintro ⟨_, hstart, _, rfl, h⟩
        cases h with
        | cons hfirst hothers =>
          refine ⟨_, List.mem_flatMap.mpr ⟨_, hstart, ?_⟩, _, rfl, hothers⟩
          exact Token.mem_rests_iff.mpr ⟨_, List.append_assoc .., hfirst⟩
  rw [Step.rests, hfold]
  simp [eq_comm]

/-! ## Any depth -/

/-- What can follow a directory: the rest after a slash with something before it, in one line. -/
theorem mem_afterSlashes_iff {start : Bool} :
    rest ∈ afterSlashes start text ↔
      ∃ before, text = before ++ '/' :: rest ∧ '\n' ∉ before ∧ (start = true → before ≠ []) := by
  induction text generalizing start with
  | nil => simp [afterSlashes]
  | cons c cs ih =>
    -- The text before the slash is empty, or begins with a character of the line.
    have hcons : (∃ before, c :: cs = before ++ '/' :: rest ∧ '\n' ∉ before ∧
        (start = true → before ≠ [])) ↔
          (c = '/' ∧ cs = rest ∧ start = false) ∨
            c ≠ '\n' ∧ ∃ before, cs = before ++ '/' :: rest ∧ '\n' ∉ before := by
      constructor
      · rintro ⟨before, h, hline, hstart⟩
        cases before with
        | nil =>
          obtain ⟨rfl, rfl⟩ := List.cons_eq_cons.mp h
          exact .inl ⟨rfl, rfl, by simpa using hstart⟩
        | cons d before =>
          obtain ⟨rfl, rfl⟩ := List.cons_eq_cons.mp h
          rw [List.mem_cons, not_or] at hline
          exact .inr ⟨Ne.symm hline.1, before, rfl, hline.2⟩
      · rintro (⟨rfl, rfl, rfl⟩ | ⟨hc, before, rfl, hline⟩)
        · exact ⟨[], rfl, by simp, by simp⟩
        · refine ⟨c :: before, rfl, ?_, by simp⟩
          rw [List.mem_cons, not_or]
          exact ⟨Ne.symm hc, hline⟩
    have ih := @ih false
    simp only [Bool.false_eq_true, false_imp_iff, and_true] at ih
    rw [hcons, afterSlashes, ← ih]
    by_cases hslash : c = '/'
    · cases start <;> simp [hslash, or_comm, eq_comm]
    · by_cases hline : c = '\n' <;> simp [hslash, hline]

/-- What any directories at the start of a path leave, when it is one line and does not begin with a
slash: what follows a slash, or the whole path. -/
theorem mem_rests_anyLeading_iff (line : '\n' ∉ text) (relative : text.head? ≠ some '/') :
    rest ∈ Step.anyLeading.rests text ↔
      ∃ before, text = before ++ rest ∧ Split.EndsPiece '/' before := by
  rw [Step.rests, List.mem_append, List.mem_singleton, mem_afterSlashes_iff]
  constructor
  · rintro (⟨before, rfl, -⟩ | rfl)
    · exact ⟨before ++ ['/'], by simp, .inr ⟨before, rfl⟩⟩
    · exact ⟨[], rfl, .inl rfl⟩
  · rintro ⟨_, rfl, rfl | ⟨before, rfl⟩⟩
    · exact .inr rfl
    · refine .inl ⟨before, by simp, fun hmem => line (by simp [hmem]), ?_⟩
      rintro - rfl
      simp at relative

/-- How a segment with this tail is matched at any depth. -/
def Body.atAnyDepth (ts : List Token) (tail : Tail) : Body := .steps [.anyLeading, .tokens ts] tail

/-- When all steps have been taken the tail decides. -/
@[simp]
theorem stepsHit?_nil {tail : Tail} : stepsHit? tail [] text = tail.hit? text := by rw [stepsHit?]

/-- A step can be taken in several ways, and one of them is enough. -/
theorem isSome_stepsHit?_cons {tail : Tail} {s : Step} {ss : List Step} :
    (stepsHit? tail (s :: ss) text).isSome ↔
      ∃ rest ∈ s.rests text, (stepsHit? tail ss rest).isSome := by
  rw [stepsHit?, List.findSome?_isSome_iff]

/-- A segment at any depth meets a path that can be divided at it. -/
theorem isSome_hit?_atAnyDepth_iff {ts : List Token} {tail : Tail} (line : '\n' ∉ text)
    (relative : text.head? ≠ some '/') :
    ((Body.atAnyDepth ts tail).hit? text).isSome ↔
      ∃ before taken rest, text = before ++ taken ++ rest ∧ Split.EndsPiece '/' before ∧
        Means ts taken ∧ (tail.hit? rest).isSome := by
  simp only [Body.atAnyDepth, Body.hit?, isSome_stepsHit?_cons, mem_rests_anyLeading_iff line relative,
    mem_rests_tokens_iff, stepsHit?_nil]
  constructor
  · rintro ⟨_, ⟨before, rfl, hbefore⟩, rest, ⟨taken, rfl, hmeans⟩, hrest⟩
    exact ⟨before, taken, rest, (List.append_assoc ..).symm, hbefore, hmeans, hrest⟩
  · rintro ⟨before, taken, rest, rfl, hbefore, hmeans, hrest⟩
    exact ⟨_, ⟨before, List.append_assoc .., hbefore⟩, rest, ⟨taken, rfl, hmeans⟩, hrest⟩

/-- A pattern for a whole path ends where the path ends, or a segment of it. -/
theorem isSome_hit?_whole (line : '\n' ∉ rest) :
    (Tail.whole.hit? rest).isSome ↔ rest = [] ∨ ∃ a, rest = '/' :: a := by
  unfold Tail.hit?
  split <;> simp_all

/-- A pattern for what is in a directory ends where a segment ends. -/
theorem isSome_hit?_inDirectory :
    (Tail.inDirectory.hit? rest).isSome ↔ ∃ a, rest = '/' :: a := by
  unfold Tail.hit?
  split <;> simp_all

section

variable {ts : List Token} (line : '\n' ∉ text) (relative : text.head? ≠ some '/')
  (segment : ∀ taken, Means ts taken → '/' ∉ taken)

include line relative segment

/-- A segment that ends a pattern meets the paths that have it as a segment. -/
theorem isSome_hit?_whole_iff :
    ((Body.atAnyDepth ts .whole).hit? text).isSome ↔
      ∃ piece ∈ Split.pieces '/' text, Means ts piece := by
  rw [isSome_hit?_atAnyDepth_iff line relative]
  constructor
  · rintro ⟨before, taken, rest, rfl, hbefore, hmeans, hrest⟩
    rw [isSome_hit?_whole fun hmem => line (List.mem_append_right _ hmem)] at hrest
    exact ⟨taken,
      Split.mem_pieces_iff.mpr ⟨segment taken hmeans, before, rest, rfl, hbefore, hrest⟩, hmeans⟩
  · rintro ⟨piece, hpiece, hmeans⟩
    obtain ⟨-, before, after, rfl, hbefore, hafter⟩ := Split.mem_pieces_iff.mp hpiece
    refine ⟨before, piece, after, rfl, hbefore, hmeans, ?_⟩
    rwa [isSome_hit?_whole fun hmem => line (List.mem_append_right _ hmem)]

/-- A directory meets the paths that have something below a segment with its name. -/
theorem isSome_hit?_inDirectory_iff :
    ((Body.atAnyDepth ts .inDirectory).hit? text).isSome ↔
      ∃ piece ∈ (Split.pieces '/' text).dropLast, Means ts piece := by
  rw [isSome_hit?_atAnyDepth_iff line relative]
  constructor
  · rintro ⟨before, taken, _, rfl, hbefore, hmeans, hrest⟩
    obtain ⟨a, rfl⟩ := isSome_hit?_inDirectory.mp hrest
    exact ⟨taken,
      Split.mem_dropLast_pieces_iff.mpr ⟨segment taken hmeans, before, a, rfl, hbefore⟩, hmeans⟩
  · rintro ⟨piece, hpiece, hmeans⟩
    obtain ⟨-, before, after, rfl, hbefore⟩ := Split.mem_dropLast_pieces_iff.mp hpiece
    exact ⟨before, piece, _, rfl, hbefore, hmeans, isSome_hit?_inDirectory.mpr ⟨after, rfl⟩⟩

end

/-! ## Names and endings -/

/-- Characters mean themselves. -/
theorem means_map_char {name : List Char} : Means (name.map .char) text ↔ text = name := by
  induction name generalizing text with
  | nil =>
    constructor
    · rintro ⟨⟩
      rfl
    · rintro rfl
      exact .nil
  | cons c name ih =>
    constructor
    · intro h
      cases h with
      | cons hfirst hothers =>
        cases hfirst with
        | char => rw [ih.mp hothers, List.singleton_append]
    · rintro rfl
      exact Means.cons (.char c) (ih.mpr rfl)

/-- Any run before characters means what ends with them, in one segment. -/
theorem means_anyRun_map_char {ending : List Char} :
    Means (.anyRun :: ending.map .char) text ↔ ∃ run, '/' ∉ run ∧ text = run ++ ending := by
  constructor
  · intro h
    cases h with
    | cons hrun hothers =>
      cases hrun with
      | anyRun hrun => exact ⟨_, hrun, by rw [means_map_char.mp hothers]⟩
  · rintro ⟨run, hrun, rfl⟩
    exact .cons (.anyRun hrun) (means_map_char.mpr rfl)

end Ignore

end Specifiers
