import Mathlib.Tactic.Common
import Specifiers.Text.Lowercase

/-!
# Lower case of lower case

A text in lower case stays as it is when it is put into lower case again. The table of capitals has no
small letter in it (`Run.not_has_of_apart`), so the lower case of a character is a letter that is none of the
capitals (`Small`), and these stay as they are whatever stands around them.
-/

namespace Specifiers

namespace Lowercase

/-! ## Runs of capitals -/

/-- A run of capitals with its small letters, as in the table. -/
abbrev Run := Nat × Nat × Nat × Nat

namespace Run

variable {r s : Run} {n : Nat}

/-- The first capital. -/
abbrev first (r : Run) : Nat := r.1

/-- The last capital. -/
abbrev last (r : Run) : Nat := r.2.1

/-- How far each capital is from the one before. -/
abbrev step (r : Run) : Nat := r.2.2.1

/-- Is a code point that of a capital of the run? -/
def Has (r : Run) (n : Nat) : Prop := r.first ≤ n ∧ n ≤ r.last ∧ (n - r.first) % r.step = 0

/-- The code point of the small letter of a capital of the run. -/
def small (r : Run) (n : Nat) : Nat := n - r.first + r.2.2.2

/-- Do the small letters of a run lie outside another one? They lie before it or after it, or in between
its capitals, of which each is two code points after the one before. -/
def apart (r s : Run) : Bool :=
  Nat.blt (r.small r.last) s.first || Nat.blt s.last (r.small r.first) ||
    (r.step == 2 || r.first == r.last) && s.step == 2 && (r.small r.first + s.first) % 2 == 1

/-- Runs that are apart do not lead from one into the other. -/
theorem not_has_of_apart (h : r.apart s = true) (hn : r.Has n) : ¬s.Has (r.small n) := by
  obtain ⟨hfirst, hlast, hstep⟩ := hn
  rintro ⟨hfirst', hlast', hstep'⟩
  simp only [apart, Bool.or_eq_true, Bool.and_eq_true, Nat.blt_eq, beq_iff_eq] at h
  unfold small at *
  rcases h with (h | h) | ⟨⟨hr, hs⟩, hodd⟩
  · omega
  · omega
  · rw [hs] at hstep'
    rcases hr with hr | hr
    · rw [hr] at hstep
      omega
    · omega

end Run

/-- No small letter of the table is a capital of it. -/
theorem apart_runs : (runs.all fun r => runs.all fun s => Run.apart r s) = true := by decide +kernel

/-- The small letters of the table are characters, and none is a capital with a rule of its own. -/
theorem bounds_runs : ∀ r ∈ runs, Run.small r (Run.last r) < 0x110000 ∧
    (Run.small r (Run.last r) < 0xD800 ∨ 0xDFFF < Run.small r (Run.first r)) ∧
    (Run.small r (Run.last r) < 'Σ'.toNat ∨ 'Σ'.toNat < Run.small r (Run.first r)) ∧
    (Run.small r (Run.last r) < 'İ'.toNat ∨ 'İ'.toNat < Run.small r (Run.first r)) := by
  decide +kernel

/-- The run of the capitals among the first characters. -/
def firstRun : Run := (0x41, 0x5A, 1, 0x61)

/-- All runs but the first are beyond the first 128 code points. -/
theorem firstRun_or_le : ∀ r ∈ runs, r = firstRun ∨ 128 ≤ Run.first r := by decide +kernel

/-! ## Characters -/

/-- Is a character none of the capitals? -/
structure Small (c : Char) : Prop where
  notSigma : c ≠ 'Σ'
  notDotted : c ≠ 'İ'
  notInRun : ∀ r ∈ runs, ¬Run.Has r c.toNat

/-- In the first 128 code points letters are lowered as in the run for them. -/
theorem toLower_first : ∀ n < 128, (Char.ofNat n).toLower =
    if 0x41 ≤ n ∧ n ≤ 0x5A then Char.ofNat (Run.small firstRun n) else Char.ofNat n := by
  decide +kernel

/-- A character has the small letter of a run that has it, or is in no run and stays as it is. -/
theorem ofChar_cases (c : Char) :
    (∃ r ∈ runs, Run.Has r c.toNat ∧ ofChar c = Char.ofNat (Run.small r c.toNat)) ∨
      (∀ r ∈ runs, ¬Run.Has r c.toNat) ∧ ofChar c = c := by
  unfold ofChar
  -- below 128 the built-in function is used, which is the first run; above it the runs are searched
  by_cases hfirst : c.toNat < 128
  · have hlower := toLower_first c.toNat hfirst
    rw [Char.ofNat_toNat] at hlower
    rw [if_pos hfirst, hlower]
    by_cases hcapital : 0x41 ≤ c.toNat ∧ c.toNat ≤ 0x5A
    · rw [if_pos hcapital]
      exact .inl ⟨firstRun, List.mem_cons_self, ⟨hcapital.1, hcapital.2, Nat.mod_one _⟩, rfl⟩
    · rw [if_neg hcapital]
      refine .inr ⟨fun r hr hhas => ?_, rfl⟩
      rcases firstRun_or_le r hr with rfl | hle
      · exact hcapital ⟨hhas.1, hhas.2.1⟩
      · have hge := hhas.1
        omega
  · rw [if_neg hfirst]
    split
    · next first last step small hr =>
      have hhas := List.find?_some hr
      simp only [Bool.and_eq_true, decide_eq_true_eq, beq_iff_eq] at hhas
      exact .inl ⟨_, List.mem_of_find?_eq_some hr, ⟨hhas.1.1, hhas.1.2, hhas.2⟩, rfl⟩
    · next hnone =>
      refine .inr ⟨fun r hr hhas => List.find?_eq_none.mp hnone r hr ?_, rfl⟩
      simpa using ⟨⟨hhas.1, hhas.2.1⟩, hhas.2.2⟩

/-- The lower case of a character that has no rule of its own is small. -/
theorem small_ofChar {c : Char} (hsigma : c ≠ 'Σ') (hdotted : c ≠ 'İ') : Small (ofChar c) := by
  rcases ofChar_cases c with ⟨r, hr, hhas, heq⟩ | ⟨hnone, heq⟩
  · obtain ⟨hmax, hchar, hsig, hdot⟩ := bounds_runs r hr
    have hrange : Run.small r (Run.first r) ≤ Run.small r c.toNat ∧
        Run.small r c.toNat ≤ Run.small r (Run.last r) := by
      obtain ⟨hfirst, hlast, -⟩ := hhas
      unfold Run.small
      omega
    have hvalid : (Run.small r c.toNat).isValidChar := by
      unfold Nat.isValidChar
      omega
    have hnat : (ofChar c).toNat = Run.small r c.toNat := by
      rw [heq, Char.ofNat, dif_pos hvalid]
      rfl
    have hother (d : Char)
        (h : Run.small r (Run.last r) < d.toNat ∨ d.toNat < Run.small r (Run.first r)) :
        ofChar c ≠ d := by
      rintro rfl
      omega
    refine ⟨hother 'Σ' hsig, hother 'İ' hdot, fun s hs => ?_⟩
    rw [hnat]
    have hapart := List.all_eq_true.mp (List.all_eq_true.mp apart_runs r hr) s hs
    exact Run.not_has_of_apart hapart hhas
  · rw [heq]
    exact ⟨hsigma, hdotted, hnone⟩

/-- A small character stays as it is. -/
theorem Small.ofChar_eq {c : Char} (h : Small c) : ofChar c = c := by
  rcases ofChar_cases c with ⟨r, hr, hhas, -⟩ | ⟨-, heq⟩
  · exact absurd hhas (h.notInRun r hr)
  · exact heq

/-! ## Texts -/

/-- The lower case of a text has small characters only. -/
theorem small_of_mem_ofList {before cs : List Char} {c : Char} (h : c ∈ ofList before cs) : Small c := by
  -- What the capitals with a rule of their own come to is small, since it stays as it is.
  have hstays {d : Char} (hsigma : d ≠ 'Σ') (hdotted : d ≠ 'İ') (heq : ofChar d = d) : Small d :=
    heq ▸ small_ofChar hsigma hdotted
  induction cs generalizing before with
  | nil => simp [ofList] at h
  | cons d cs ih =>
    rw [ofList, List.mem_append] at h
    rcases h with hhere | hrest
    · split at hhere
      · split at hhere
        · obtain rfl := List.mem_singleton.mp hhere
          exact hstays (by decide) (by decide) (by decide +kernel)
        · obtain rfl := List.mem_singleton.mp hhere
          exact hstays (by decide) (by decide) (by decide +kernel)
      · next hsigma =>
        split at hhere
        · simp only [List.mem_cons, List.not_mem_nil, or_false] at hhere
          rcases hhere with rfl | rfl
          · exact hstays (by decide) (by decide) (by decide +kernel)
          · exact hstays (by decide) (by decide) (by decide +kernel)
        · next hdotted =>
          obtain rfl := List.mem_singleton.mp hhere
          exact small_ofChar (by simpa using hsigma) (by simpa using hdotted)
    · exact ih hrest

/-- A text of small characters stays as it is. -/
theorem ofList_of_small {before cs : List Char} (h : ∀ c ∈ cs, Small c) : ofList before cs = cs := by
  induction cs generalizing before with
  | nil => rfl
  | cons c cs ih =>
    obtain ⟨hc, hcs⟩ := List.forall_mem_cons.mp h
    rw [ofList, if_neg (by simpa using hc.notSigma), if_neg (by simpa using hc.notDotted), hc.ofChar_eq,
      ih hcs]
    rfl

end Lowercase

/-- A text in lower case has small characters only. -/
theorem small_of_mem_lowercase {s : String} {c : Char} (h : c ∈ (lowercase s).toList) :
    Lowercase.Small c := by
  rw [lowercase, String.toList_ofList] at h
  exact Lowercase.small_of_mem_ofList h

/-- A text of small characters is its own lower case. -/
theorem lowercase_of_small {s : String} (h : ∀ c ∈ s.toList, Lowercase.Small c) : lowercase s = s := by
  rw [lowercase, Lowercase.ofList_of_small h, String.ofList_toList]

end Specifiers
