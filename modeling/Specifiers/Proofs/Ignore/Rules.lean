import Mathlib.Data.List.Basic
import Specifiers.Ignore.Filter
import Specifiers.Proofs.Result

/-!
# What lists of patterns select

A pattern that is looked at last can change the verdict on a path, but one that selects changes it for
the better only: what is selected before stays selected (`selects_append_of_selects`). In a list in which
every pattern selects, the order and the kind of the matches have no part in the verdict: a path is
selected when some pattern meets it (`selects_iff_exists_hit`).

Lines are read one by one, so further lines spell further patterns (`ofLines_append`), and a line that
does not begin with an exclamation mark spells a pattern that selects. So a further pattern that is no
negation keeps what the others select (`selectsAtMost_concat`).
-/

namespace Specifiers

namespace Ignore

namespace Rules

variable {rules : Rules} {path : String}

/-! ## The verdict -/

/-- Is the path selected, as far as the verdict goes? -/
def Verdict.IsSelection (verdict : Verdict) : Prop := ∃ hit, verdict = some (hit, true)

/-- A path is selected when the verdict after all rules is a selection. -/
theorem selects_iff : rules.selects path = true ↔
    Verdict.IsSelection (rules.foldl (judge path.toList) none) := by
  unfold selects Verdict.IsSelection
  split <;> simp_all

variable {cs : List Char} {verdict : Verdict} {p : Pattern}

/-- A pattern that selects leaves a selection as it is, or selects itself. -/
theorem isSelection_judge (selects : p.selects = true) (h : verdict.IsSelection) :
    (judge cs verdict p).IsSelection := by
  obtain ⟨hit, rfl⟩ := h
  unfold judge
  split
  · exact ⟨hit, rfl⟩
  · exact ⟨.file, by simp_all⟩
  · exact ⟨_, by rw [selects]⟩

/-- A verdict is reached as soon as a pattern meets the path, and is not lost again. -/
theorem isSome_judge :
    (judge cs verdict p).isSome ↔ verdict.isSome ∨ (p.body.hit? cs).isSome := by
  unfold judge
  split <;> simp_all

/-- There is a verdict when there was one before, or a rule hits. -/
theorem isSome_foldl_judge :
    (rules.foldl (judge cs) verdict).isSome ↔
      verdict.isSome ∨ ∃ p ∈ rules, (p.body.hit? cs).isSome := by
  induction rules generalizing verdict with
  | nil => simp
  | cons p rules ih => rw [List.foldl_cons, ih, isSome_judge, List.exists_mem_cons_iff, or_assoc]

/-- Among patterns that select, whatever verdict is reached is a selection. -/
theorem isSelection_foldl_judge (selects : ∀ p ∈ rules, p.selects = true)
    (before : verdict.isSome → verdict.IsSelection)
    (h : (rules.foldl (judge cs) verdict).isSome) :
    (rules.foldl (judge cs) verdict).IsSelection := by
  induction rules generalizing verdict with
  | nil => exact before h
  | cons p rules ih =>
    rw [List.forall_mem_cons] at selects
    refine ih selects.2 (fun hjudged => ?_) h
    by_cases hverdict : verdict.isSome
    · exact isSelection_judge selects.1 (before hverdict)
    · obtain rfl : verdict = none := by simpa using hverdict
      unfold judge at hjudged ⊢
      split <;> simp_all [Verdict.IsSelection]

/-! ## Selection -/

/-- A further pattern that selects keeps what is selected before. -/
theorem selects_append_of_selects (selects : p.selects = true) (h : rules.selects path = true) :
    Rules.selects (rules ++ [p]) path = true := by
  rw [selects_iff] at h ⊢
  rw [List.foldl_append]
  exact isSelection_judge selects h

/-- Patterns that all select, select what one of them meets. -/
theorem selects_iff_exists_hit (selects : ∀ p ∈ rules, p.selects = true) :
    rules.selects path = true ↔ ∃ p ∈ rules, (p.body.hit? path.toList).isSome := by
  have hreached : (rules.foldl (judge path.toList) none).isSome ↔
      ∃ p ∈ rules, (p.body.hit? path.toList).isSome := by
    rw [isSome_foldl_judge]
    simp
  rw [selects_iff, ← hreached]
  constructor
  · rintro ⟨hit, h⟩
    rw [h]
    rfl
  · exact isSelection_foldl_judge selects (by simp)

/-! ## Further lines -/

/-- Further lines spell further patterns. -/
theorem ofLines_append {before after : List (List Char)} :
    ofLines (before ++ after) = .ok rules ↔
      ∃ first rest, ofLines before = .ok first ∧ ofLines after = .ok rest ∧
        rules = first ++ rest := by
  induction before generalizing rules with
  | nil => simp [ofLines, eq_comm]
  | cons line before ih =>
    simp only [List.cons_append, ofLines, bind_eq_ok_iff, ih]
    constructor
    · rintro ⟨p, hp, _, ⟨first, rest, hfirst, hrest, rfl⟩, hrules⟩
      refine ⟨p.toList ++ first, rest, ⟨p, hp, first, hfirst, rfl⟩, hrest, ?_⟩
      rw [List.append_assoc]
      exact (Except.ok.inj hrules).symm
    · rintro ⟨_, rest, ⟨p, hp, first, hfirst, hall⟩, hrest, rfl⟩
      refine ⟨p, hp, _, ⟨first, rest, hfirst, hrest, rfl⟩, ?_⟩
      rw [← Except.ok.inj hall, List.append_assoc]
      rfl

/-- Lines can be read together when each of them can be read. -/
theorem exists_ofLines_iff {lines : List (List Char)} :
    (∃ rules, ofLines lines = .ok rules) ↔ ∀ line ∈ lines, ∃ p, Pattern.ofLine line = .ok p := by
  induction lines with
  | nil => simp [ofLines]
  | cons line lines ih =>
    rw [List.forall_mem_cons, ← ih]
    simp only [ofLines, bind_eq_ok_iff]
    constructor
    · rintro ⟨_, p, hp, rules, hrules, -⟩
      exact ⟨⟨p, hp⟩, rules, hrules⟩
    · rintro ⟨⟨p, hp⟩, rules, hrules⟩
      exact ⟨_, p, hp, rules, hrules, rfl⟩

end Rules

/-- A further pattern stands after the others, when its text is one. -/
theorem rulesOf_concat {patterns : List String} {pattern : String} {rules rules' : Rules}
    (before : rulesOf patterns = .ok rules) (after : rulesOf (patterns ++ [pattern]) = .ok rules') :
    ∃ p, Pattern.ofLine pattern.toList = .ok p ∧ rules' = rules ++ p.toList := by
  rw [rulesOf, mapError_eq_ok_iff] at before after
  rw [List.map_append, Rules.ofLines_append, before] at after
  obtain ⟨_, rest, hfirst, hrest, rfl⟩ := after
  obtain rfl := Except.ok.inj hfirst
  rw [List.map_singleton, Rules.ofLines, bind_eq_ok_iff] at hrest
  obtain ⟨p, hp, hrest⟩ := hrest
  refine ⟨p, hp, ?_⟩
  rw [← Except.ok.inj hrest, List.append_nil]

/-! ## Negation -/

/-- Does the text of a pattern begin with an exclamation mark? -/
def IsNegation (pattern : String) : Prop := pattern.toList.head? = some '!'

instance (pattern : String) : Decidable (IsNegation pattern) :=
  inferInstanceAs (Decidable (_ = _))

/-- Nothing but the end of a line is left out. -/
theorem trimmed_prefix (line : List Char) : trimmed line <+: line := by
  unfold trimmed trimEnd
  split
  · exact List.prefix_rfl
  · exact List.reverse_suffix.mp (by simpa using List.dropWhile_suffix _)

/-- A pattern selects unless its line begins with an exclamation mark. -/
theorem selects_eq_of_ofLine {line : List Char} {p : Pattern}
    (h : Pattern.ofLine line = .ok (some p)) :
    p.selects = !((trimmed line).head? == some '!') := by
  unfold Pattern.ofLine at h
  dsimp only at h
  -- Which body the segments spell has no part in it.
  generalize anchored _ = segments at h
  generalize bodyOf _ _ = body at h
  split at h
  · cases h
  · split at h
    · cases h
    · split at h
      · obtain rfl := Option.some.inj (Except.ok.inj h)
        rfl
      all_goals cases h

/-- A pattern that is no negation selects. -/
theorem selects_of_ofLine {pattern : String} {p : Pattern} (h : ¬IsNegation pattern)
    (spelled : Pattern.ofLine pattern.toList = .ok (some p)) : p.selects = true := by
  have hhead : (trimmed pattern.toList).head? ≠ some '!' := by
    intro he
    obtain ⟨rest, hrest⟩ := trimmed_prefix pattern.toList
    apply h
    rw [IsNegation, ← hrest, List.head?_append, he, Option.some_or]
  rw [selects_eq_of_ofLine spelled]
  simpa using hhead

/-- Does one list of patterns select no more than another, as far as both can be read? -/
def SelectsAtMost (fewer more : List String) : Prop :=
  ∀ rules rules', rulesOf fewer = .ok rules → rulesOf more = .ok rules' →
    ∀ path, rules.selects path = true → rules'.selects path = true

/-- Patterns select what they select. -/
theorem SelectsAtMost.refl (patterns : List String) : SelectsAtMost patterns patterns := by
  intro rules rules' h h' path hselects
  rwa [← Except.ok.inj (h.symm.trans h')]

/-- A further pattern that is no negation keeps what the others select. -/
theorem selectsAtMost_concat (patterns : List String) {pattern : String} (h : ¬IsNegation pattern) :
    SelectsAtMost patterns (patterns ++ [pattern]) := by
  intro rules rules' before after path hselects
  obtain ⟨p, hp, rfl⟩ := rulesOf_concat before after
  cases p with
  | none => rwa [Option.toList_none, List.append_nil]
  | some p => exact Rules.selects_append_of_selects (selects_of_ofLine h hp) hselects

end Ignore

end Specifiers
