import Mathlib.Tactic.Common
import Specifiers.Text.Blank

/-!
# Texts that depart from each other

Two texts depart from each other where, after a common start, the one goes on with a character and the
other with another one (`Departs`). What follows after that makes no difference, so texts that have been
put together from pieces, each of which is the same or departs, are the same only if every piece is
(`flatMap_eq_iff`). The characters at which texts depart here are not both blank, so neither do blanks at
the end make such texts the same (`not_of_blanks`).
-/

namespace Specifiers

/-- Do two texts have a common start, after which they go on with related characters? -/
inductive Departs (R : Char → Char → Prop) : List Char → List Char → Prop
  | here {x y : Char} (h : R x y) (u v : List Char) : Departs R (x :: u) (y :: v)
  | later (c : Char) {u v : List Char} : Departs R u v → Departs R (c :: u) (c :: v)

/-- Are two characters different, and not both blank? -/
def Apart (x y : Char) : Prop := x ≠ y ∧ (isBlank x = false ∨ isBlank y = false)

namespace Departs

variable {R S T : Char → Char → Prop} {a b c u v : List Char}

/-- Texts depart in the way of a wider relation, too. -/
theorem mono (h : Departs R u v) (hR : ∀ x y, R x y → S x y) : Departs S u v := by
  induction h with
  | here h u v => exact .here (hR _ _ h) u v
  | later c _ ih => exact .later c ih

/-- Texts in front of both leave the departure where it is. -/
theorem append_left (a : List Char) (h : Departs R u v) : Departs R (a ++ u) (a ++ v) := by
  induction a with
  | nil => exact h
  | cons x a ih => exact .later x ih

/-- So do any texts after them. -/
theorem append_right (h : Departs R u v) (a b : List Char) : Departs R (u ++ a) (v ++ b) := by
  induction h with
  | here h u v => exact .here h (u ++ a) (v ++ b)
  | later c _ ih => exact .later c ih

/-- Of two departures, one after the other, the earlier one remains, if they cannot be at the same
character. -/
theorem trans (hab : Departs R a b) (hbc : Departs S b c) (hR : ∀ x y, R x y → T x y)
    (hS : ∀ x y, S x y → T x y) (apart : ∀ x y z, R x y → ¬S y z) : Departs T a c := by
  induction hab generalizing c with
  | here h u v =>
    cases hbc with
    | here h' _ w => exact absurd h' (apart _ _ _ h)
    | later _ _ => exact .here (hR _ _ h) _ _
  | later x hab ih =>
    cases hbc with
    | here h' _ w => exact .here (hS _ _ h') _ _
    | later _ hbc => exact .later x (ih hbc)

/-- Texts that depart from each other are different. -/
theorem ne (h : Departs Apart u v) : u ≠ v := by
  induction h with
  | here h u v =>
    intro heq
    exact h.1 (List.cons.inj heq).1
  | later c _ ih =>
    intro heq
    exact ih (List.cons.inj heq).2

/-- Texts that differ in the blanks at their ends only do not depart from each other. -/
theorem not_of_blanks {front : List Char} (hu : ∀ c ∈ u, isBlank c = true)
    (hv : ∀ c ∈ v, isBlank c = true) : ¬Departs Apart (front ++ u) (front ++ v) := by
  induction front with
  | nil =>
    intro h
    simp only [List.nil_append] at h
    induction h with
    | here h u v =>
      rcases h.2 with hx | hy
      · exact absurd (hu _ List.mem_cons_self) (by simp [hx])
      · exact absurd (hv _ List.mem_cons_self) (by simp [hy])
    | later c _ ih => exact ih (List.forall_mem_cons.mp hu).2 (List.forall_mem_cons.mp hv).2
  | cons c front ih =>
    intro h
    cases h with
    | here h _ _ => exact h.1 rfl
    | later _ h => exact ih h

end Departs

/-- Are two texts the same, or do they depart from each other? -/
def SameOrDeparts (u v : List Char) : Prop := u = v ∨ Departs Apart u v

namespace SameOrDeparts

variable {a b u v : List Char}

/-- Texts with others after them are the same only if both parts are. -/
theorem append_eq_append_iff (h : SameOrDeparts u v) : u ++ a = v ++ b ↔ u = v ∧ a = b := by
  constructor
  · intro heq
    rcases h with rfl | hdeparts
    · exact ⟨rfl, List.append_cancel_left heq⟩
    · exact absurd heq (hdeparts.append_right a b).ne
  · rintro ⟨rfl, rfl⟩
    rfl

/-- Texts that are the same or depart do so also one after the other. -/
theorem append (h : SameOrDeparts u v) (h' : SameOrDeparts a b) :
    SameOrDeparts (u ++ a) (v ++ b) := by
  rcases h with rfl | hdeparts
  · exact h'.imp (fun heq => congrArg (u ++ ·) heq) fun hdeparts => hdeparts.append_left u
  · exact .inr (hdeparts.append_right a b)

variable {α : Type} {f g : α → List Char} {xs : List α}

/-- So do any number of them. -/
theorem flatMap (h : ∀ x ∈ xs, SameOrDeparts (f x) (g x)) :
    SameOrDeparts (xs.flatMap f) (xs.flatMap g) := by
  induction xs with
  | nil => exact .inl rfl
  | cons x xs ih =>
    obtain ⟨hx, hxs⟩ := List.forall_mem_cons.mp h
    rw [List.flatMap_cons, List.flatMap_cons]
    exact hx.append (ih hxs)

/-- Texts put together from pieces are the same exactly when the pieces are. -/
theorem flatMap_eq_iff (h : ∀ x ∈ xs, SameOrDeparts (f x) (g x)) :
    xs.flatMap f = xs.flatMap g ↔ ∀ x ∈ xs, f x = g x := by
  induction xs with
  | nil => simp
  | cons x xs ih =>
    obtain ⟨hx, hxs⟩ := List.forall_mem_cons.mp h
    rw [List.flatMap_cons, List.flatMap_cons, hx.append_eq_append_iff, ih hxs,
      List.forall_mem_cons]

end SameOrDeparts

end Specifiers
