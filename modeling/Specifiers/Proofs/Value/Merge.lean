import Specifiers.Proofs.Value
import Specifiers.Value.Merge

/-!
# What a merge holds at a key

Laid over a table, a table with different keys is seen at its own keys, over what was there, and
nowhere else.
-/

namespace Specifiers

namespace Value

variable {base upper : Table Value} {key : String}

/-- Merging nothing into a table leaves it as it is. -/
@[simp]
theorem merge_nil : merge base [] = base := by rw [merge]

/-- At a key of the upper table its value is laid over what was there; other keys keep their value. -/
theorem find?_merge (distinct : upper.keys.Nodup) :
    Table.find? (merge base upper) key =
      match upper.find? key with
      | some value => some (laidOver (base.find? key) value)
      | none => base.find? key := by
  induction upper generalizing base with
  | nil => simp
  | cons e upper ih =>
    obtain ⟨k, v⟩ := e
    rw [Table.keys, List.map_cons, List.nodup_cons] at distinct
    rw [merge, ih distinct.2, Table.find?_insert, Table.find?_cons]
    by_cases hk : key = k
    · -- The key is not written again.
      subst hk
      rw [Table.find?_eq_none_iff.mpr distinct.1, if_pos rfl, if_pos rfl]
    · rw [if_neg hk, if_neg hk]

/-- What both tables may have at a key is laid over what the lower one has. -/
theorem find?_merge_of_some {value : Value} (distinct : upper.keys.Nodup)
    (h : upper.find? key = some value) :
    Table.find? (merge base upper) key = some (laidOver (base.find? key) value) := by
  rw [find?_merge distinct, h]

/-- A key that the upper table lacks has what the lower one has. -/
theorem find?_merge_of_none (distinct : upper.keys.Nodup) (h : upper.find? key = none) :
    Table.find? (merge base upper) key = base.find? key := by
  rw [find?_merge distinct, h]

/-- A table laid over a table is merged with it. -/
theorem laidOver_table (base entries : Table Value) :
    laidOver (some (table base)) (table entries) = table (merge base entries) := by
  rw [laidOver]

/-- A table laid over something else replaces it. -/
theorem laidOver_table_of_ne {old : Option Value} {entries : Table Value}
    (h : ∀ base, old ≠ some (table base)) : laidOver old (table entries) = table entries := by
  rw [laidOver]
  exact h

/-- What is no table replaces what was there. -/
theorem laidOver_of_ne {old : Option Value} {value : Value} (h : ∀ entries, value ≠ table entries) :
    laidOver old value = value := by
  rw [laidOver]
  exact h

/-- What is no table replaces anything. -/
theorem laidOver_of_plain {value : Value} (h : value.table? = none) (old : Option Value) :
    laidOver old value = value :=
  laidOver_of_ne fun entries heq => by simp [heq, table?] at h

/-- A table replaces what is none. -/
theorem laidOver_table_of_plain {old : Value} {entries : Table Value} (h : old.table? = none) :
    laidOver (some old) (table entries) = table entries :=
  laidOver_table_of_ne fun base heq => by simp [Option.some.inj heq, table?] at h

/-- Laid over nothing, a value stays as it is. -/
theorem laidOver_none (value : Value) : laidOver none value = value := by
  cases value with
  | table entries => exact laidOver_table_of_ne nofun
  | _ => exact laidOver_of_ne nofun

/-- Laid over anything, a value stays as it is, or it is a table and a table comes of it. -/
theorem laidOver_eq_or (old : Option Value) (value : Value) :
    laidOver old value = value ∨
      ∃ entries merged, value = table entries ∧ laidOver old value = table merged := by
  cases value with
  | table entries =>
    by_cases h : ∃ base, old = some (table base)
    · obtain ⟨base, rfl⟩ := h
      exact .inr ⟨entries, _, rfl, laidOver_table base entries⟩
    · exact .inl (laidOver_table_of_ne fun base hbase => h ⟨base, hbase⟩)
  | _ => exact .inl (laidOver_of_ne nofun)

/-- What is laid over something comes to a value that is no table only if it is that value. -/
theorem laidOver_eq_iff {old : Option Value} {value plain : Value} (h : plain.table? = none) :
    laidOver old value = plain ↔ value = plain := by
  rcases laidOver_eq_or old value with heq | ⟨entries, merged, rfl, heq⟩
  · rw [heq]
  · rw [heq]
    constructor <;> rintro rfl <;> simp [table?] at h

/-- It comes to a table exactly when it is one. -/
theorem exists_laidOver_eq_table_iff {old : Option Value} {value : Value} :
    (∃ t, laidOver old value = table t) ↔ ∃ t, value = table t := by
  rcases laidOver_eq_or old value with heq | ⟨entries, merged, rfl, heq⟩
  · rw [heq]
  · simp [heq]

/-- Merged into an empty table, a table with different keys holds what it holds. -/
theorem find?_merge_empty (distinct : upper.keys.Nodup) :
    Table.find? (merge [] upper) key = upper.find? key := by
  rw [find?_merge distinct]
  cases upper.find? key with
  | none => rfl
  | some value => simp [laidOver_none]

end Value

end Specifiers
