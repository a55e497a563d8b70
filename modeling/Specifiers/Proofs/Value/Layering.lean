import Specifiers.Proofs.Value.KeyPath

/-!
# Layers of tables

Laying a table over itself, or a second time over what it was laid over, changes nothing, and the empty
table changes nothing on either side. Of three layers the upper two or the lower two may be merged first,
unless something that is no table lies between two tables (`Parts`): it hides the lower of them in one
order only. The keys of a merge come in the order of the layers, so all this holds with the order of the
entries.
-/

namespace Specifiers

namespace Value

variable {u v w : Value} {base upper a b c : Table Value} {key : String}

/-! ## The keys of a merge -/

/-- The keys of a merge are those of the lower table and after them the others of the upper one. -/
theorem keys_merge (distinct : upper.keys.Nodup) :
    Table.keys (merge base upper) = base.keys ++ upper.keys.filter (· ∉ base.keys) := by
  induction upper generalizing base with
  | nil => simp
  | cons e upper ih =>
    obtain ⟨k, v⟩ := e
    rw [Table.keys, List.map_cons, List.nodup_cons] at distinct
    rw [merge, ih distinct.2, Table.keys_insert]
    change _ = base.keys ++ (k :: Table.keys upper).filter (· ∉ base.keys)
    by_cases hk : k ∈ base.keys
    · simp [hk]
    · -- The key is new, and is none of those that follow.
      have hrest : (Table.keys upper).filter (· ∉ base.keys ++ [k]) =
          (Table.keys upper).filter (· ∉ base.keys) := by
        refine List.filter_congr fun key hkey => ?_
        have hne : key ≠ k := fun heq => distinct.1 (heq ▸ hkey)
        simp [hne]
      rw [if_neg hk, hrest, List.filter_cons_of_pos (by simpa using hk)]
      simp

/-- A merged table has no key twice. -/
theorem nodup_keys_merge (h : base.keys.Nodup) : (Table.keys (merge base upper)).Nodup := by
  induction upper generalizing base with
  | nil => simpa using h
  | cons e upper ih =>
    rw [merge]
    exact ih (Table.nodup_keys_insert _ h)

/-! ## Laying a table over what holds it -/

/-- A merge changes nothing when each value of the upper table is laid over something that stays as it
is. -/
theorem merge_eq_self (h : ∀ e ∈ upper, ∃ old, base.find? e.1 = some old ∧ laidOver (some old) e.2 = old) :
    merge base upper = base := by
  induction upper with
  | nil => exact merge_nil
  | cons e upper ih =>
    obtain ⟨k, v⟩ := e
    obtain ⟨⟨old, hold, hlaid⟩, hrest⟩ := List.forall_mem_cons.mp h
    rw [merge, hold, hlaid, Table.insert_of_find? hold, ih hrest]

/-- What lies on top of something can be laid there once more. -/
theorem laidOver_absorbs (distinct : Distinct v) (old : Option Value) :
    laidOver (some (laidOver old v)) v = laidOver old v := by
  induction distinct generalizing old with
  | @table upper keys inner ih =>
    -- Every value of the table is laid where it lies.
    have hheld (e : String × Value) (he : e ∈ upper) : Table.find? upper e.1 = some e.2 :=
      (Table.find?_eq_some_iff keys).mpr he
    by_cases hold : ∃ base, old = some (table base)
    · obtain ⟨base, rfl⟩ := hold
      rw [laidOver_table, laidOver_table]
      refine congrArg table (merge_eq_self fun e he => ⟨_, ?_, ih e he (Table.find? base e.1)⟩)
      exact find?_merge_of_some keys (hheld e he)
    · rw [laidOver_table_of_ne fun base h => hold ⟨base, h⟩, laidOver_table]
      refine congrArg table (merge_eq_self fun e he => ⟨_, hheld e he, ?_⟩)
      simpa [laidOver_none] using ih e he none
  | _ => rw [laidOver_of_plain rfl, laidOver_of_plain rfl]

/-- A value laid over itself is itself. -/
theorem laidOver_self (distinct : Distinct v) : laidOver (some v) v = v := by
  simpa [laidOver_none] using laidOver_absorbs distinct none

/-- Merged into an empty table, a table stays as it is. -/
theorem merge_empty (distinct : upper.keys.Nodup) : merge [] upper = upper := by
  have hkeys : Table.keys (merge [] upper) = upper.keys := by simp [keys_merge distinct]
  exact Table.ext_find? hkeys (hkeys ▸ distinct) fun key => find?_merge_empty distinct

/-! ## Three layers -/

/-- However three tables are merged, the keys come in the same order. -/
theorem keys_merge_assoc (hb : b.keys.Nodup) (hc : c.keys.Nodup) :
    Table.keys (merge (merge a b) c) = Table.keys (merge a (merge b c)) := by
  rw [keys_merge hc, keys_merge hb, keys_merge (nodup_keys_merge hb), keys_merge hc, List.filter_append,
    List.filter_filter, List.append_assoc]
  simp only [List.mem_append, List.mem_filter]
  refine congrArg _ (congrArg _ (List.filter_congr fun key _ => ?_))
  by_cases ha : key ∈ a.keys <;> simp [ha]

/-- Does something that is no table lie between two tables, at some key path? -/
def Parts (u v w : Value) : Prop :=
  ∃ path lower middle upper, u.at? path = some (table lower) ∧ v.at? path = some middle ∧
    middle.table? = none ∧ w.at? path = some (table upper)

/-- Tables are parted where the values at one of their keys are. -/
theorem parts_table_iff : Parts (table a) (table b) (table c) ↔
    ∃ key u v w, a.find? key = some u ∧ b.find? key = some v ∧ c.find? key = some w ∧ Parts u v w := by
  constructor
  · rintro ⟨path, lower, middle, upper, hu, hv, hplain, hw⟩
    cases path with
    | nil =>
      obtain rfl : table b = middle := by simpa using hv
      simp [table?] at hplain
    | cons key path =>
      rw [at?_table_cons, Option.bind_eq_some_iff] at hu hv hw
      obtain ⟨u, ha, hu⟩ := hu
      obtain ⟨v, hb, hv⟩ := hv
      obtain ⟨w, hc, hw⟩ := hw
      exact ⟨key, u, v, w, ha, hb, hc, path, lower, middle, upper, hu, hv, hplain, hw⟩
  · rintro ⟨key, u, v, w, ha, hb, hc, path, lower, middle, upper, hu, hv, hplain, hw⟩
    refine ⟨key :: path, lower, middle, upper, ?_, ?_, hplain, ?_⟩
    · rwa [at?_table_cons, ha]
    · rwa [at?_table_cons, hb]
    · rwa [at?_table_cons, hc]

/-- Of three values the upper two or the lower two may be laid over one another first, if nothing parts
them. -/
theorem laidOver_assoc (hu : Distinct u) (hv : Distinct v) (hw : Distinct w) (h : ¬Parts u v w) :
    laidOver (some (laidOver (some u) v)) w = laidOver (some u) (laidOver (some v) w) := by
  induction hw generalizing u v with
  | @table c keys inner ih =>
    rcases plain_or_table v with hplain | ⟨b, rfl⟩
    · -- The middle value hides the lower one, which is no table.
      have hlower : u.table? = none := by
        rcases plain_or_table u with hlower | ⟨a, rfl⟩
        · exact hlower
        · exact absurd ⟨[], a, v, c, at?_nil, at?_nil, hplain, at?_nil⟩ h
      rw [laidOver_of_plain hplain, laidOver_table_of_plain hplain, laidOver_table_of_plain hlower]
    rcases plain_or_table u with hplain | ⟨a, rfl⟩
    · rw [laidOver_table_of_plain hplain, laidOver_table, laidOver_table_of_plain hplain]
    -- The lower two and the upper two tables are merged, and so is what they hold.
    simp only [laidOver_table]
    have hb := hv.nodup_keys
    have hbc : (Table.keys (merge b c)).Nodup := nodup_keys_merge hb
    refine congrArg table (Table.ext_find? ?_ (nodup_keys_merge (nodup_keys_merge hu.nodup_keys)) ?_)
    · exact keys_merge_assoc hb keys
    · intro key
      rw [find?_merge keys, find?_merge hb, find?_merge hbc, find?_merge keys]
      cases hc : Table.find? c key with
      | none => rfl
      | some w =>
        cases hb : Table.find? b key with
        | none => simp [laidOver_none]
        | some v =>
          cases ha : Table.find? a key with
          | none => simp [laidOver_none]
          | some u =>
            exact congrArg some (ih _ (Table.mem_of_find? hc) (hu.of_find? ha) (hv.of_find? hb)
              fun hparts => h (parts_table_iff.mpr ⟨key, u, v, w, ha, hb, hc, hparts⟩))
  | _ => rw [laidOver_of_plain rfl, laidOver_of_plain rfl, laidOver_of_plain rfl]

/-- A table laid over itself, or again over what it was laid over, changes nothing; the empty table
changes nothing below or above; and of three tables the lower two or the upper two may be merged first,
unless something else than a table lies between two tables. -/
theorem merge_layers (ha : Distinct (table a)) (hb : Distinct (table b)) (hc : Distinct (table c)) :
    merge a a = a ∧ merge (merge a b) b = merge a b ∧ merge [] a = a ∧ merge a [] = a ∧
      (¬Parts (table a) (table b) (table c) → merge (merge a b) c = merge a (merge b c)) := by
  refine ⟨?_, ?_, merge_empty ha.nodup_keys, merge_nil, fun h => ?_⟩
  · simpa [laidOver_table] using laidOver_self ha
  · simpa [laidOver_table] using laidOver_absorbs hb (some (table a))
  · simpa [laidOver_table] using laidOver_assoc ha hb hc h

/-- A field of the middle layer lies beside the fields of the others, not between them. -/
theorem merge_layers_threeLayers :
    let user : Table Value := [("scan", table [("encoding", text "latin-1")]), ("filter", integer 1)]
    let own : Table Value := [("scan", table [("fail_fast", bool true)])]
    let asked : Table Value := [("filter", table []), ("scan", table [("encoding", text "utf-8")])]
    (Distinct (table user) ∧ Distinct (table own) ∧ Distinct (table asked)) ∧
      ¬Parts (table user) (table own) (table asked) ∧
      merge (merge user own) asked = merge user (merge own asked) := by
  intro user own asked
  have huser : Distinct (table user) :=
    (distinct_empty.cons (.integer 1) (by decide)).cons
      (distinct_empty.cons (.text "latin-1") (by decide)) (by decide)
  have hown : Distinct (table own) :=
    distinct_empty.cons (distinct_empty.cons (.bool true) (by decide)) (by decide)
  have hasked : Distinct (table asked) :=
    (distinct_empty.cons (distinct_empty.cons (.text "utf-8") (by decide)) (by decide)).cons
      distinct_empty (by decide)
  have hparts : ¬Parts (table user) (table own) (table asked) := by
    -- The only section in both of the lower layers binds different fields in them.
    intro h
    obtain ⟨key, u, v, w, hu, hv, hw, h⟩ := parts_table_iff.mp h
    obtain ⟨rfl, rfl⟩ : key = "scan" ∧ v = table [("fail_fast", bool true)] := by
      simpa [own] using Table.mem_of_find? hv
    obtain rfl : table [("encoding", text "latin-1")] = u := Option.some.inj hu
    obtain rfl : table [("encoding", text "utf-8")] = w := Option.some.inj hw
    obtain ⟨key, u, v, w, hu, hv, -⟩ := parts_table_iff.mp h
    obtain ⟨rfl, -⟩ : key = "encoding" ∧ text "latin-1" = u := by
      simpa [eq_comm] using Table.mem_of_find? hu
    simp [Table.find?_cons] at hv
  exact ⟨⟨huser, hown, hasked⟩, hparts, (merge_layers huser hown hasked).2.2.2.2 hparts⟩

/-- What is no table hides a table below it only if it is merged with it first. -/
example :
    let lower : Table Value := [("scan", table [("fail_fast", bool true)])]
    let middle : Table Value := [("scan", integer 1)]
    let upper : Table Value := [("scan", table [])]
    merge (merge lower middle) upper = upper ∧ merge lower (merge middle upper) = lower :=
  ⟨by decide +kernel, by decide +kernel⟩

end Value

end Specifiers
