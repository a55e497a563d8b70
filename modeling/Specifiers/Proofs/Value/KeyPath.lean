import Specifiers.Proofs.Value.Merge

/-!
# What a merge holds at a key path

A key path leads from a table through the tables in it. A value that is laid over another one decides
what stands at a path it binds. Where it does not bind the path, what was there is seen as long as there
are only tables in the way (`LeavesOpen`), and is lost otherwise. The induction is on the path, for a
value that is laid over what was there or over nothing (`at?_laidOver`); a merge of two tables is the
case of a table that is laid over a table.
-/

namespace Specifiers

namespace Value

variable {v : Value} {t a b : Table Value} {key : String} {path : List String}

/-- The value that a key path leads to: each key is looked up in the table that is reached by then. -/
def at? (v : Value) : List String → Option Value
  | [] => some v
  | key :: path => do
    let t ← v.table?
    let inner ← t.find? key
    inner.at? path

/-- Without keys one is there already. -/
@[simp]
theorem at?_nil : v.at? [] = some v := by rw [at?]

/-- The first key leads to what the table has at it. -/
theorem at?_table_cons : (table t).at? (key :: path) = (t.find? key).bind (·.at? path) := by
  rw [at?]
  rfl

/-- No key leads on from what is no table. -/
theorem at?_cons_of_plain (h : v.table? = none) : v.at? (key :: path) = none := by
  rw [at?, h]
  rfl

/-- Is a path not bound, and does each proper beginning of it lead to a table where it is bound? The empty
one leads to the value itself. -/
structure LeavesOpen (v : Value) (path : List String) : Prop where
  unbound : v.at? path = none
  tables : ∀ q, q <+: path → q ≠ path → ∀ w, v.at? q = some w → ∃ t, w = table t

/-! ## Paths that are left open -/

/-- Where one is already nothing is left open. -/
theorem not_leavesOpen_nil : ¬LeavesOpen v [] := fun h => by simpa using h.unbound

/-- What is no table leaves no path open. -/
theorem not_leavesOpen_of_plain (h : v.table? = none) : ¬LeavesOpen v path := by
  intro hopen
  cases path with
  | nil => exact not_leavesOpen_nil hopen
  | cons key path =>
    obtain ⟨t, rfl⟩ := hopen.tables [] List.nil_prefix (by simp) v at?_nil
    simp [table?] at h

/-- A table leaves a path open when what stands at its first key does so with the rest. -/
theorem leavesOpen_table_cons :
    LeavesOpen (table t) (key :: path) ↔ ∀ w, t.find? key = some w → LeavesOpen w path := by
  constructor
  · intro h w hw
    constructor
    case unbound => simpa [at?_table_cons, hw] using h.unbound
    case tables =>
      intro q hq hne
      have hinner := h.tables (key :: q) (List.cons_prefix_cons.mpr ⟨rfl, hq⟩) (by simpa using hne)
      simpa [at?_table_cons, hw] using hinner
  · intro h
    constructor
    case unbound =>
      rw [at?_table_cons, Option.bind_eq_none_iff]
      exact fun w hw => (h w hw).unbound
    case tables =>
      intro q hq hne w hw
      -- the prefix that is the key alone asks for the table itself, a longer one goes into it
      cases q with
      | nil => exact ⟨t, by simpa using hw.symm⟩
      | cons key' q =>
        obtain ⟨rfl, hrest⟩ := List.cons_prefix_cons.mp hq
        rw [at?_table_cons, Option.bind_eq_some_iff] at hw
        obtain ⟨inner, hinner, hw⟩ := hw
        exact (h inner hinner).tables q hrest (by simpa using hne) w hw

/-! ## Values that are laid over others -/

open Classical in
/-- At a path that it binds a value is laid over what was there. At any other path stands what was
there if the path is left open, and otherwise nothing. -/
theorem at?_laidOver (distinct : Distinct v) (old : Option Value) :
    (laidOver old v).at? path =
      match v.at? path with
      | some w => some (laidOver (old.bind (·.at? path)) w)
      | none => if LeavesOpen v path then old.bind (·.at? path) else none := by
  induction path generalizing v old with
  | nil => cases old <;> simp
  | cons key path ih =>
    rcases plain_or_table v with hplain | ⟨upper, rfl⟩
    · rw [laidOver_of_plain hplain, at?_cons_of_plain hplain, if_neg (not_leavesOpen_of_plain hplain)]
    by_cases hold : ∃ base, old = some (table base)
    · obtain ⟨base, rfl⟩ := hold
      rw [laidOver_table, at?_table_cons, at?_table_cons, find?_merge distinct.nodup_keys]
      cases hinner : Table.find? upper key with
      | none => simp [leavesOpen_table_cons, hinner, at?_table_cons]
      | some inner =>
        -- The rest of the path leads on from what stands at the key in both tables.
        simpa [leavesOpen_table_cons, hinner, at?_table_cons]
          using ih (distinct.of_find? hinner) (Table.find? base key)
    · -- Nothing is reached through what was there.
      have hnone : old.bind (·.at? (key :: path)) = none := by
        rw [Option.bind_eq_none_iff]
        rintro v rfl
        rcases plain_or_table v with hplain | ⟨base, rfl⟩
        · exact at?_cons_of_plain hplain
        · exact absurd ⟨base, rfl⟩ hold
      rw [laidOver_table_of_ne fun base h => hold ⟨base, h⟩, hnone]
      cases (table upper).at? (key :: path) with
      | none => simp
      | some w => exact congrArg some (laidOver_none w).symm

/-! ## Merges -/

/-- What a merge holds of a kind that does not change when a value is laid over another one: what the
upper table holds of the kind, and what the lower one does where the upper one leaves the path open. -/
theorem exists_at?_merge_iff (distinct : Distinct (table b)) (a : Table Value) (path : List String)
    (kind : Value → Prop) (hkind : ∀ old v, kind (laidOver old v) ↔ kind v) :
    (∃ v, (table (merge a b)).at? path = some v ∧ kind v) ↔
      (∃ v, (table b).at? path = some v ∧ kind v) ∨
        (∃ v, (table a).at? path = some v ∧ kind v) ∧ LeavesOpen (table b) path := by
  rw [← laidOver_table, at?_laidOver distinct]
  cases hb : (table b).at? path with
  | some w =>
    have hbound : ¬LeavesOpen (table b) path := fun h => by simpa [hb] using h.unbound
    simp [hkind, hbound]
  | none =>
    by_cases hopen : LeavesOpen (table b) path <;> simp [hopen]

/-- A merge holds what is no table at a path exactly when the upper table holds it there, or the lower
table holds it and the upper one leaves the path open; and it has a table there on the same terms. -/
theorem merge_holds_iff (distinct : Distinct (table b)) (a : Table Value) (path : List String) :
    (∀ v, v.table? = none →
      ((table (merge a b)).at? path = some v ↔
        (table b).at? path = some v ∨
          (table a).at? path = some v ∧ LeavesOpen (table b) path)) ∧
    ((∃ t, (table (merge a b)).at? path = some (table t)) ↔
      (∃ t, (table b).at? path = some (table t)) ∨
        (∃ t, (table a).at? path = some (table t)) ∧ LeavesOpen (table b) path) := by
  constructor
  · intro v hv
    simpa using exists_at?_merge_iff distinct a path (· = v) fun _ _ => laidOver_eq_iff hv
  · simpa using exists_at?_merge_iff distinct a path (fun v => ∃ t, v = table t) fun _ _ =>
      exists_laidOver_eq_table_iff

/-- A section that is a table on both sides has its fields from both; one that is none hides those below. -/
theorem merge_holds_iff_twoLayers :
    let user : Table Value :=
      [("scan", table [("encoding", text "latin-1"), ("fail_fast", bool true)]),
        ("filter", table [("exclude", list [])])]
    let own : Table Value := [("scan", table [("fail_fast", bool false)]), ("filter", integer 1)]
    let merged := table (merge user own)
    Distinct (table own) ∧
      merged.at? ["scan", "encoding"] = some (text "latin-1") ∧
      merged.at? ["scan", "fail_fast"] = some (bool false) ∧
      (∃ t, merged.at? ["scan"] = some (table t)) ∧
      merged.at? ["filter", "exclude"] ≠ some (list []) := by
  intro user own merged
  have distinct : Distinct (table own) :=
    (distinct_empty.cons (.integer 1) (by decide)).cons
      (distinct_empty.cons (.bool false) (by decide)) (by decide)
  have hopen : LeavesOpen (table own) ["scan", "encoding"] := by
    simp [own, leavesOpen_table_cons, Table.find?_cons]
  have hclosed : ¬LeavesOpen (table own) ["filter", "exclude"] := fun h =>
    not_leavesOpen_of_plain rfl (leavesOpen_table_cons.mp h (integer 1) rfl)
  have hunbound : (table own).at? ["filter", "exclude"] = none := rfl
  refine ⟨distinct, ?_, ?_, ?_, ?_⟩
  · exact ((merge_holds_iff distinct user _).1 _ rfl).mpr (.inr ⟨rfl, hopen⟩)
  · exact ((merge_holds_iff distinct user _).1 _ rfl).mpr (.inl rfl)
  · exact (merge_holds_iff distinct user _).2.mpr (.inl ⟨_, rfl⟩)
  · intro h
    rcases ((merge_holds_iff distinct user _).1 _ rfl).mp h with h | ⟨-, h⟩
    · exact absurd (hunbound.symm.trans h) nofun
    · exact hclosed h

end Value

end Specifiers
