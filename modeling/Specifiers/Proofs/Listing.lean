import Mathlib.Data.List.Nodup
import Mathlib.Tactic.Common
import Specifiers.Listing

/-!
# Listings without repeats

Collapsing a listing takes out of it what stands there a second time (`nodup_unique`) and nothing else
(`unique_sublist`), so it changes the listing exactly when there is a repeat (`unique_eq_iff`). What stays
is each specifier at its first place, and no other list has them in that order (`eq_unique_iff`).

All this is proved for `firsts`, which has a list of what was seen before. What it returns depends on the
items of that list alone (`firsts_congr`), and with more of them it returns the same without those
(`firsts_append_seen`). So one listing after the other is collapsed one by one.
-/

namespace Specifiers

namespace Listing

variable {seen xs : List String}

/-- An item that was seen is left out. -/
theorem firsts_cons_of_mem {x : String} (h : x ∈ seen) : firsts seen (x :: xs) = firsts seen xs := by
  have hseen : seen.contains x = true := by simpa using h
  rw [firsts, if_pos hseen]

/-- An item that was not seen is kept, and seen from then on. -/
theorem firsts_cons_of_not_mem {x : String} (h : x ∉ seen) :
    firsts seen (x :: xs) = x :: firsts (x :: seen) xs := by
  have hseen : ¬seen.contains x = true := by simpa using h
  rw [firsts, if_neg hseen]

/-- What is kept stands in the order in which it came. -/
theorem firsts_sublist (seen xs : List String) : (firsts seen xs).Sublist xs := by
  induction xs generalizing seen with
  | nil => exact List.nil_sublist _
  | cons x xs ih =>
    by_cases hx : x ∈ seen
    · rw [firsts_cons_of_mem hx]
      exact (ih seen).cons x
    · rw [firsts_cons_of_not_mem hx]
      exact (ih (x :: seen)).cons_cons x

/-- What has been seen is not among the items that remain. -/
theorem not_mem_firsts {x : String} (h : x ∈ seen) : x ∉ firsts seen xs := by
  induction xs generalizing seen with
  | nil => exact List.not_mem_nil
  | cons y xs ih =>
    by_cases hy : y ∈ seen
    · rw [firsts_cons_of_mem hy]
      exact ih h
    · rw [firsts_cons_of_not_mem hy, List.mem_cons]
      rintro (rfl | hmem)
      · exact hy h
      · exact ih (List.mem_cons_of_mem y h) hmem

/-- No item is kept twice. -/
theorem nodup_firsts (seen xs : List String) : (firsts seen xs).Nodup := by
  induction xs generalizing seen with
  | nil => exact List.nodup_nil
  | cons x xs ih =>
    by_cases hx : x ∈ seen
    · rw [firsts_cons_of_mem hx]
      exact ih seen
    · rw [firsts_cons_of_not_mem hx]
      exact (ih _).cons (not_mem_firsts List.mem_cons_self)

/-- A list without repeats, none of whose items has been seen, stays as it is. -/
theorem firsts_of_nodup (h : xs.Nodup) (new : ∀ x ∈ xs, x ∉ seen) : firsts seen xs = xs := by
  induction xs generalizing seen with
  | nil => rfl
  | cons x xs ih =>
    obtain ⟨hx, hxs⟩ := List.nodup_cons.mp h
    obtain ⟨hseen, hrest⟩ := List.forall_mem_cons.mp new
    rw [firsts_cons_of_not_mem hseen, ih hxs fun y hy hmem => ?_]
    rcases List.mem_cons.mp hmem with rfl | hmem
    · exact hx hy
    · exact hrest y hy hmem

/-- The items that are kept are those that were not seen. -/
theorem mem_firsts_iff {x : String} : x ∈ firsts seen xs ↔ x ∈ xs ∧ x ∉ seen := by
  constructor
  · intro hmem
    exact ⟨(firsts_sublist seen xs).mem hmem, fun hseen => not_mem_firsts hseen hmem⟩
  · rintro ⟨hmem, hnew⟩
    induction xs generalizing seen with
    | nil => exact absurd hmem List.not_mem_nil
    | cons y xs ih =>
      by_cases hy : y ∈ seen
      · have hne : x ≠ y := fun heq => hnew (heq ▸ hy)
        rw [firsts_cons_of_mem hy]
        exact ih (List.mem_of_ne_of_mem hne hmem) hnew
      · rw [firsts_cons_of_not_mem hy, List.mem_cons]
        by_cases heq : x = y
        · exact .inl heq
        · have hlater : x ∉ y :: seen := List.not_mem_cons_of_ne_of_not_mem heq hnew
          exact .inr (ih (List.mem_of_ne_of_mem heq hmem) hlater)

/-- Which items have been seen matters, and not their order or number. -/
theorem firsts_congr {seen' : List String} (h : ∀ x, x ∈ seen ↔ x ∈ seen') :
    firsts seen xs = firsts seen' xs := by
  induction xs generalizing seen seen' with
  | nil => rfl
  | cons x xs ih =>
    by_cases hx : x ∈ seen
    · rw [firsts_cons_of_mem hx, firsts_cons_of_mem ((h x).mp hx)]
      exact ih h
    · have hcons : ∀ y, y ∈ x :: seen ↔ y ∈ x :: seen' := by
        intro y
        rw [List.mem_cons, List.mem_cons, h y]
      rw [firsts_cons_of_not_mem hx, firsts_cons_of_not_mem (mt (h x).mpr hx), ih hcons]

/-- It makes no difference whether an item was seen once or twice. -/
theorem firsts_seen_cons {x : String} (h : x ∈ seen) : firsts (x :: seen) xs = firsts seen xs := by
  apply firsts_congr
  intro y
  rw [List.mem_cons, or_iff_right_of_imp]
  rintro rfl
  exact h

/-- Nor does it in which order items were seen. -/
theorem firsts_seen_middle (more : List String) (x : String) :
    firsts (more ++ x :: seen) xs = firsts (x :: (more ++ seen)) xs :=
  firsts_congr fun _ => List.perm_middle.mem_iff

/-- In what follows a list, the items of the list have been seen. -/
theorem firsts_append (seen xs ys : List String) :
    firsts seen (xs ++ ys) = firsts seen xs ++ firsts (xs ++ seen) ys := by
  induction xs generalizing seen with
  | nil => rfl
  | cons x xs ih =>
    rw [List.cons_append, List.cons_append]
    by_cases hx : x ∈ seen
    · rw [firsts_cons_of_mem hx, firsts_cons_of_mem hx, ih,
        firsts_seen_cons (List.mem_append_right xs hx)]
    · rw [firsts_cons_of_not_mem hx, firsts_cons_of_not_mem hx, ih, firsts_seen_middle,
        List.cons_append]

/-- When more has been seen, that is left out, and what remains is in the same order. -/
theorem firsts_append_seen (more seen xs : List String) :
    firsts (more ++ seen) xs = (firsts seen xs).filter (· ∉ more) := by
  induction xs generalizing seen with
  | nil => rfl
  | cons x xs ih =>
    by_cases hx : x ∈ seen
    · rw [firsts_cons_of_mem hx, firsts_cons_of_mem (List.mem_append_right more hx)]
      exact ih seen
    · have hrest : firsts (x :: (more ++ seen)) xs = (firsts (x :: seen) xs).filter (· ∉ more) := by
        rw [← firsts_seen_middle, ih]
      rw [firsts_cons_of_not_mem hx]
      -- Only in the first case is `x` taken out, but it has been seen for what follows in both.
      by_cases hmore : x ∈ more
      · have hseen : x ∈ more ++ seen := List.mem_append_left seen hmore
        rw [firsts_cons_of_mem hseen, ← firsts_seen_cons hseen, hrest,
          List.filter_cons_of_neg (by simpa using hmore)]
      · have hnew : x ∉ more ++ seen := List.not_mem_append hmore hx
        rw [firsts_cons_of_not_mem hnew, hrest, List.filter_cons_of_pos (by simpa using hmore)]

/-- Other items keep the order of their first places when one more is in front of all. -/
theorem pairwise_idxOf_cons {x : String} {ys : List String} (hx : x ∉ ys)
    (h : ys.Pairwise fun y z => xs.idxOf y < xs.idxOf z) :
    ys.Pairwise fun y z => (x :: xs).idxOf y < (x :: xs).idxOf z := by
  apply h.imp_of_mem
  intro y z hy hz hlt
  have hxy : x ≠ y := fun heq => hx (heq ▸ hy)
  have hxz : x ≠ z := fun heq => hx (heq ▸ hz)
  rw [List.idxOf_cons_ne _ hxy, List.idxOf_cons_ne _ hxz]
  exact Nat.succ_lt_succ hlt

/-- The items are in the order of their first places. -/
theorem pairwise_firsts (seen xs : List String) :
    (firsts seen xs).Pairwise fun x y => xs.idxOf x < xs.idxOf y := by
  induction xs generalizing seen with
  | nil => exact List.Pairwise.nil
  | cons x xs ih =>
    by_cases hx : x ∈ seen
    · rw [firsts_cons_of_mem hx]
      exact pairwise_idxOf_cons (not_mem_firsts hx) (ih seen)
    · have hrest : x ∉ firsts (x :: seen) xs := not_mem_firsts List.mem_cons_self
      rw [firsts_cons_of_not_mem hx, List.pairwise_cons]
      refine ⟨fun y hy => ?_, pairwise_idxOf_cons hrest (ih (x :: seen))⟩
      have hxy : x ≠ y := fun heq => hrest (heq ▸ hy)
      rw [List.idxOf_cons_self, List.idxOf_cons_ne _ hxy]
      exact Nat.succ_pos _

variable (l : Listing)

/-- The unique specifiers stand in the order of the specifiers. -/
theorem unique_sublist : l.unique.Sublist l.specifiers := firsts_sublist [] l.specifiers

/-- No unique specifier comes twice. -/
theorem nodup_unique : l.unique.Nodup := nodup_firsts [] l.specifiers

/-- Collapsing leaves the listings as they are that have no repeats, and no others. -/
theorem unique_eq_iff : l.unique = l.specifiers ↔ l.specifiers.Nodup := by
  constructor
  · intro heq
    have hnodup := l.nodup_unique
    rwa [heq] at hnodup
  · intro hnodup
    exact firsts_of_nodup hnodup fun _ _ => List.not_mem_nil

/-- They are the same specifiers. -/
theorem mem_unique_iff {x : String} : x ∈ l.unique ↔ x ∈ l.specifiers := by
  rw [unique, mem_firsts_iff, and_iff_left List.not_mem_nil]

/-- They are ordered by where each comes first. -/
theorem pairwise_unique :
    l.unique.Pairwise fun x y => l.specifiers.idxOf x < l.specifiers.idxOf y :=
  pairwise_firsts [] l.specifiers

/-- The specifiers without repeats are the only list that has the same items in the order of their first
places. -/
theorem eq_unique_iff {ys : List String} :
    ys = l.unique ↔ (∀ x, x ∈ ys ↔ x ∈ l.specifiers) ∧
      ys.Pairwise fun x y => l.specifiers.idxOf x < l.specifiers.idxOf y := by
  constructor
  · rintro rfl
    exact ⟨fun x => l.mem_unique_iff, l.pairwise_unique⟩
  · rintro ⟨hmem, hordered⟩
    have hnodup : ys.Nodup := by
      apply hordered.imp
      rintro x y hlt rfl
      exact absurd hlt (Nat.lt_irrefl _)
    have hperm : ys.Perm l.unique := by
      rw [List.perm_ext_iff_of_nodup hnodup l.nodup_unique]
      intro x
      rw [hmem, l.mem_unique_iff]
    apply hperm.eq_of_pairwise _ hordered l.pairwise_unique
    intro x y _ _ hxy hyx
    exact absurd hyx (Nat.lt_asymm hxy)

/-- The listing without repeats. -/
def collapsed : Listing := { l with specifiers := l.unique }

/-- The listing of one text followed by that of another. -/
def followedBy (l' : Listing) : Listing where
  specifiers := l.specifiers ++ l'.specifiers
  isModule := l.isModule || l'.isModule

/-- A listing that has been collapsed has nothing to collapse. -/
theorem unique_collapsed : l.collapsed.unique = l.unique := l.collapsed.unique_eq_iff.mpr l.nodup_unique

/-- Of the second listing, what the first one has is left out. -/
theorem unique_followedBy (l' : Listing) :
    (l.followedBy l').unique = l.unique ++ l'.unique.filter (· ∉ l.specifiers) := by
  calc (l.followedBy l').unique
      = firsts [] l.specifiers ++ firsts (l.specifiers ++ []) l'.specifiers := firsts_append _ _ _
    _ = l.unique ++ l'.unique.filter (· ∉ l.specifiers) := by
      rw [firsts_append_seen, unique, unique]

/-- Collapsing takes out repeats and nothing else, leaves each specifier at its first place, has no more
to do a second time, and of a listing that follows another one leaves what the other one has not. -/
theorem unique_keeps_firsts :
    l.unique.Nodup ∧ (∀ x, x ∈ l.unique ↔ x ∈ l.specifiers) ∧ l.unique.Sublist l.specifiers ∧
      (l.unique.Pairwise fun x y => l.specifiers.idxOf x < l.specifiers.idxOf y) ∧
      l.collapsed.unique = l.unique ∧
      ∀ l' : Listing, (l.followedBy l').unique = l.unique ++ l'.unique.filter (· ∉ l.specifiers) := by
  refine ⟨l.nodup_unique, fun x => l.mem_unique_iff, l.unique_sublist, l.pairwise_unique, ?_, ?_⟩
  · exact l.unique_collapsed
  · intro l'
    exact l.unique_followedBy l'

example : (⟨["b", "a", "b", "c", "a"], false⟩ : Listing).unique = ["b", "a", "c"] := by decide

end Listing

end Specifiers
