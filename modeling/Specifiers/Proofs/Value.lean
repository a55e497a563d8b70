import Specifiers.Proofs.Table
import Specifiers.Value

/-!
# Values whose tables have different keys

A table is kept as a list of entries, and looked up in by key. Where every table in a value has
different keys, the list says nothing but what each key holds, and in which order.
-/

namespace Specifiers

namespace Value

/-- Have the tables in a value different keys, at every depth? -/
inductive Distinct : Value → Prop
  | null : Distinct null
  | bool (b : Bool) : Distinct (bool b)
  | integer (n : Int) : Distinct (integer n)
  | float (x : Binary64) : Distinct (float x)
  | text (s : String) : Distinct (text s)
  | moment (kind : MomentKind) (written : String) : Distinct (moment kind written)
  | list {items : List Value} (inner : ∀ v ∈ items, Distinct v) : Distinct (list items)
  | table {entries : List (String × Value)} (keys : (Table.keys entries).Nodup)
      (inner : ∀ e ∈ entries, Distinct e.2) : Distinct (table entries)

variable {t : Table Value} {key : String} {v : Value} {items : List Value}

/-- A value is a table when its type is called so. -/
theorem isSome_table?_iff : v.table?.isSome = true ↔ v.typeName = "dict" := by
  cases v with
  | moment kind written => cases kind <;> simp [Value.table?, Value.typeName]
  | _ => simp [Value.table?, Value.typeName]

/-- A value is no table, or it is one. -/
theorem plain_or_table (v : Value) : v.table? = none ∨ ∃ t, v = table t := by
  cases v with
  | table t => exact .inr ⟨t, rfl⟩
  | _ => exact .inl rfl

theorem Distinct.nodup_keys (h : Distinct (.table t)) : t.keys.Nodup := by
  cases h with
  | table keys inner => exact keys

/-- What stands at a key has different keys in its tables, too. -/
theorem Distinct.of_find? (h : Distinct (.table t)) (hv : t.find? key = some v) : Distinct v := by
  cases h with
  | table keys inner => exact inner _ (Table.mem_of_find? hv)

/-- So has what stands in a list. -/
theorem Distinct.of_mem (h : Distinct (.list items)) (hv : v ∈ items) : Distinct v := by
  cases h with
  | list inner => exact inner v hv

theorem distinct_empty : Distinct (.table []) := .table List.nodup_nil (by simp)

/-- So has a table that gets a new key in front. -/
theorem Distinct.cons (h : Distinct (.table t)) (hv : Distinct v) (new : key ∉ t.keys) :
    Distinct (.table ((key, v) :: t)) := by
  cases h with
  | table keys inner => exact .table (List.nodup_cons.mpr ⟨new, keys⟩) (List.forall_mem_cons.mpr ⟨hv, inner⟩)

/-- A write keeps the keys of a table different. -/
theorem Distinct.insert (h : Distinct (.table t)) (hv : Distinct v) :
    Distinct (.table (t.insert key v)) := by
  cases h with
  | table keys inner =>
    refine .table (Table.nodup_keys_insert v keys) fun e he => ?_
    rcases Table.mem_insert he with rfl | he
    · exact hv
    · exact inner e he

end Value

end Specifiers
