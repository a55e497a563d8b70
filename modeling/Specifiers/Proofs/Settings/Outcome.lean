import Specifiers.Proofs.Settings.Validation
import Specifiers.Proofs.Value

/-!
# What reading settings comes to

Of a table of settings nothing counts but what it binds at the fields (`bound`) and what stands in place
of its sections. From these alone it is told whether the table is read as settings, as which ones, and
which faults there are otherwise (`Tells`).
-/

namespace Specifiers

namespace Settings

variable {t : Table Value}

/-- The value that a table binds at a field, when the section of the field is a table. -/
def bound (t : Table Value) (f : Field) : Option Value :=
  match t.find? f.part.name with
  | some (.table entries) => Table.find? entries f.name
  | _ => none

/-- A field in a section that is a table is bound by its entry there. -/
theorem bound_of_table {f : Field} {entries : Table Value}
    (h : t.find? f.part.name = some (.table entries)) : bound t f = entries.find? f.name := by
  rw [bound, h]

/-- In place of a section that is no table nothing is bound. -/
theorem bound_of_ne {f : Field} (h : ∀ entries, t.find? f.part.name ≠ some (.table entries)) :
    bound t f = none := by
  unfold bound
  split
  · next entries hentries => exact absurd hentries (h entries)
  · rfl

/-- Is what stands in place of a section a table, if there is anything? -/
def IsTable (place : Option Value) : Prop := ∀ v, place = some v → v.table?.isSome = true

instance (place : Option Value) : Decidable (IsTable place) :=
  match place with
  | none => .isTrue nofun
  | some v => decidable_of_iff (v.table?.isSome = true) (by simp [IsTable])

/-- Of two values that are alike both stand for tables or neither. -/
theorem Alike.isTable_iff {a b : Option Value} (h : Alike a b) : IsTable a ↔ IsTable b := by
  rcases h with rfl | ⟨s, t, rfl, rfl⟩
  · rfl
  · simp [IsTable, Value.table?]

/-- What reading settings comes to, when these values are set for the fields and this stands in place of
the filter: settings that hold the values, an error for a filter that is no table, or faults that name
the fields whose values do not fit. The fields of the scan are looked at when the filter has no faults. -/
structure Tells (set : Field → Option Value) (filter : Option Value)
    (outcome : Except Invalid Settings) : Prop where
  ok_iff : ∀ s, outcome = .ok s ↔ IsTable filter ∧ FilterReads set s.filter ∧ ScanReads set s.scan
  notTable_iff : ∀ part name, outcome = .error (.notTable part name) ↔
    part = .filter ∧ ∃ v, filter = some v ∧ v.table? = none ∧ v.typeName = name
  faulty_iff : (∃ fs, outcome = .error (.faulty fs)) ↔
    IsTable filter ∧ ∃ f : Field, f.Misfit (set f)
  names : ∀ fs, outcome = .error (.faulty fs) → ∀ name, (∃ fault ∈ fs, fault.field = name) ↔
    ∃ f : Field, f.name = name ∧ f.Misfit (set f) ∧ (f.part = .scan → AllFit .filter set)

/-- A section that is a table has the entries that the table binds. -/
theorem exists_sectionOf_eq_ok {part : Part} (h : IsTable (t.find? part.name)) :
    ∃ entries, sectionOf part t = .ok entries ∧
      ∀ f : Field, f.part = part → setBy entries f = bound t f := by
  unfold sectionOf bound setBy
  cases hfind : t.find? part.name with
  | none => exact ⟨[], rfl, fun f hf => by rw [hf, hfind]; rfl⟩
  | some v =>
    cases v with
    | table entries => exact ⟨entries, rfl, fun f hf => by rw [hf, hfind]⟩
    | _ => exact absurd (h _ hfind) (by simp [Value.table?])

/-- A section that is no table ends the reading. -/
theorem sectionOf_eq_error {part : Part} {v : Value} (h : t.find? part.name = some v)
    (hv : v.table? = none) : sectionOf part t = .error (.notTable part v.typeName) := by
  unfold sectionOf
  rw [h]
  cases v with
  | table entries => simp [Value.table?] at hv
  | _ => rfl

/-- What stands for no table is a value of another type. -/
theorem not_isTable_iff {place : Option Value} :
    ¬IsTable place ↔ ∃ v, place = some v ∧ v.table? = none := by
  simp [IsTable]

/-- The settings of two sections that have been checked, the filter before the scan. -/
def joined : Checked FilterSettings → Checked ScanSettings → Except Invalid Settings
  | .ok filter, .ok scan => .ok { filter, scan }
  | .ok _, .error fs => .error (.faulty fs)
  | .error fs, _ => .error (.faulty fs)

section Joined

variable {filter : Checked FilterSettings} {scan : Checked ScanSettings}

/-- There are settings when both sections have theirs. -/
theorem joined_eq_ok_iff {s : Settings} :
    joined filter scan = .ok s ↔ filter = .ok s.filter ∧ scan = .ok s.scan := by
  obtain ⟨filterSettings, scanSettings⟩ := s
  cases filter <;> cases scan <;> simp [joined]

/-- When both sections have been checked, each of them was a table. -/
theorem joined_ne_notTable {part : Part} {name : String} :
    joined filter scan ≠ .error (.notTable part name) := by
  cases filter <;> cases scan <;> simp [joined]

/-- The faults are those of the filter, or those of the scan when the filter has none. -/
theorem joined_eq_faulty_iff {fs : List FieldFault} : joined filter scan = .error (.faulty fs) ↔
    filter = .error fs ∨ (∃ s, filter = .ok s) ∧ scan = .error fs := by
  cases filter <;> cases scan <;> simp [joined]

/-- There are faults when one of the sections has no settings. -/
theorem exists_joined_eq_faulty_iff : (∃ fs, joined filter scan = .error (.faulty fs)) ↔
    ¬((∃ s, filter = .ok s) ∧ ∃ s, scan = .ok s) := by
  cases filter <;> cases scan <;> simp [joined]

end Joined

/-- When both sections are tables, their checks decide. -/
theorem ofTable_eq_joined {filter scan : Table Value} (hfilter : sectionOf .filter t = .ok filter)
    (hscan : sectionOf .scan t = .ok scan) :
    ofTable t = joined (checkFilter filter) (checkScan scan) := by
  unfold ofTable
  rw [hfilter, hscan]
  cases hf : checkFilter filter <;> cases hs : checkScan scan <;>
    simp [bind, Except.bind, hf, hs, Except.mapError, joined, pure, Except.pure]

/-- What reading two sections comes to. -/
theorem tells_joined {set : Field → Option Value} {filter scan : Table Value} {place : Option Value}
    (hplace : IsTable place)
    (hfilter : ∀ f : Field, f.part = .filter → Alike (setBy filter f) (set f))
    (hscan : ∀ f : Field, f.part = .scan → Alike (setBy scan f) (set f)) :
    Tells set place (joined (checkFilter filter) (checkScan scan)) where
  ok_iff s := by
    rw [joined_eq_ok_iff, checkFilter_eq_ok_iff, checkScan_eq_ok_iff]
    constructor
    · rintro ⟨hf, hs⟩
      exact ⟨hplace, hf.of_alike hfilter, hs.of_alike hscan⟩
    · rintro ⟨-, hf, hs⟩
      exact ⟨hf.of_alike fun f h => (hfilter f h).symm, hs.of_alike fun f h => (hscan f h).symm⟩
  notTable_iff part name := by
    simp only [joined_ne_notTable, false_iff, not_and]
    rintro - ⟨v, hv, hnone, -⟩
    exact not_isTable_iff.mpr ⟨v, hv, hnone⟩ hplace
  faulty_iff := by
    rw [exists_joined_eq_faulty_iff, exists_checkFilter_eq_ok_iff, exists_checkScan_eq_ok_iff,
      allFit_congr hfilter, allFit_congr hscan, exists_misfit_iff]
    exact (and_iff_right hplace).symm
  names fs h name := by
    have hfits : (∃ s, checkFilter filter = .ok s) ↔ AllFit .filter set := by
      rw [exists_checkFilter_eq_ok_iff, allFit_congr hfilter]
    rcases joined_eq_faulty_iff.mp h with herror | ⟨hok, herror⟩
    · -- The faults are those of the filter, which has some, so that the scan is not looked at.
      have hnames := (names_checkFilter (t := filter)).of_alike hfilter
      have hmisfit : ¬AllFit .filter set := by
        rw [← hfits, herror]
        simp
      rw [herror] at hnames
      refine (hnames name).trans (exists_congr fun f => ?_)
      cases hpart : f.part <;> simp [hmisfit]
    · have hnames := (names_checkScan (t := scan)).of_alike hscan
      rw [herror] at hnames
      refine (hnames name).trans (exists_congr fun f => ?_)
      cases hpart : f.part with
      | filter => simp [hfits.mp hok f hpart]
      | scan => simp [hfits.mp hok]

/-- What reading a table of settings comes to, when its scan is a table. -/
theorem tells_ofTable {set : Field → Option Value} {place : Option Value}
    (scan : IsTable (t.find? Part.scan.name)) (hset : ∀ f, Alike (bound t f) (set f))
    (hplace : Alike (t.find? Part.filter.name) place) : Tells set place (ofTable t) := by
  obtain ⟨scanEntries, hscan, hscanSet⟩ := exists_sectionOf_eq_ok scan
  -- the filter part is read first: where it is no table, the error is about it, whatever else is wrong
  by_cases hfilter : IsTable (t.find? Part.filter.name)
  · obtain ⟨filterEntries, hsection, hfilterSet⟩ := exists_sectionOf_eq_ok hfilter
    rw [ofTable_eq_joined hsection hscan]
    exact tells_joined (hplace.isTable_iff.mp hfilter) (fun f hf => hfilterSet f hf ▸ hset f)
      fun f hf => hscanSet f hf ▸ hset f
  · obtain ⟨v, hfind, hv⟩ := not_isTable_iff.mp hfilter
    have herror : ofTable t = .error (.notTable .filter v.typeName) := by
      unfold ofTable
      rw [sectionOf_eq_error hfind hv]
      rfl
    obtain rfl : some v = place := by
      rcases hplace with h | ⟨s, s', hs, -⟩
      · exact hfind.symm.trans h
      · obtain rfl := Option.some.inj (hfind.symm.trans hs)
        simp [Value.table?] at hv
    rw [hfind] at hfilter
    rw [herror]
    exact {
      ok_iff := fun s => by simp [hfilter]
      notTable_iff := fun part name => by simp [hv, eq_comm]
      faulty_iff := by simp [hfilter]
      names := fun fs h => absurd h (by simp) }

/-! ## Tables that agree -/

/-- Do two tables bind the same values at the fields, and do things of the same type stand in place of
their sections? -/
structure Agree (t t' : Table Value) : Prop where
  bound : ∀ f, bound t f = bound t' f
  type : ∀ part : Part,
    (t.find? part.name).map Value.typeName = (t'.find? part.name).map Value.typeName

variable {t' : Table Value}

/-- Values of one type both stand for tables or neither. -/
theorem isTable_congr {a b : Option Value} (h : a.map Value.typeName = b.map Value.typeName) :
    IsTable a ↔ IsTable b := by
  have hiff (o : Option Value) : IsTable o ↔ ∀ name, o.map Value.typeName = some name → name = "dict" := by
    simp [IsTable, Value.isSome_table?_iff]
  rw [hiff, hiff, h]

/-- Tables that set the same for the fields of the filter are checked with the same result. -/
theorem checkFilter_congr (h : ∀ f : Field, f.part = .filter → setBy t f = setBy t' f) :
    checkFilter t = checkFilter t' := by
  have hexclude : t.find? "exclude" = t'.find? "exclude" := h .exclude rfl
  have hkeep : t.find? "include" = t'.find? "include" := h .keep rfl
  unfold checkFilter checkField
  rw [hexclude, hkeep]

/-- So are tables that set the same for the fields of the scan. -/
theorem checkScan_congr (h : ∀ f : Field, f.part = .scan → setBy t f = setBy t' f) :
    checkScan t = checkScan t' := by
  have hextensions : t.find? "extensions" = t'.find? "extensions" := h .extensions rfl
  have hencoding : t.find? "encoding" = t'.find? "encoding" := h .encoding rfl
  have hfailFast : t.find? "fail_fast" = t'.find? "fail_fast" := h .failFast rfl
  unfold checkScan checkField
  rw [hextensions, hencoding, hfailFast]

/-- In tables that agree, a section is read alike. -/
theorem Agree.sectionOf (h : Agree t t') (part : Part) :
    (∃ e, sectionOf part t = .error e ∧ sectionOf part t' = .error e) ∨
      ∃ entries entries', sectionOf part t = .ok entries ∧ sectionOf part t' = .ok entries' ∧
        ∀ f : Field, f.part = part → setBy entries f = setBy entries' f := by
  by_cases hpart : IsTable (t.find? part.name)
  · obtain ⟨entries, hsection, hset⟩ := exists_sectionOf_eq_ok hpart
    obtain ⟨entries', hsection', hset'⟩ :=
      exists_sectionOf_eq_ok ((isTable_congr (h.type part)).mp hpart)
    exact .inr ⟨entries, entries', hsection, hsection', fun f hf =>
      (hset f hf).trans ((h.bound f).trans (hset' f hf).symm)⟩
  · obtain ⟨v, hfind, hv⟩ := not_isTable_iff.mp hpart
    obtain ⟨v', hfind', hv'⟩ := not_isTable_iff.mp (mt (isTable_congr (h.type part)).mpr hpart)
    have htype := h.type part
    rw [hfind, hfind'] at htype
    have hname : v.typeName = v'.typeName := Option.some.inj htype
    exact .inl ⟨_, sectionOf_eq_error hfind hv, hname ▸ sectionOf_eq_error hfind' hv'⟩

/-- Tables that agree spell the same settings. -/
theorem Agree.ofTable_eq (h : Agree t t') : ofTable t = ofTable t' := by
  unfold ofTable
  rcases h.sectionOf .filter with ⟨e, he, he'⟩ | ⟨filter, filter', hfilter, hfilter', hset⟩
  · rw [he, he']
    rfl
  rw [hfilter, hfilter']
  rcases h.sectionOf .scan with ⟨e, he, he'⟩ | ⟨scan, scan', hscan, hscan', hset'⟩
  · rw [he, he']
    simp only [bind, Except.bind, checkFilter_congr hset]
  · rw [hscan, hscan']
    simp only [bind, Except.bind, checkFilter_congr hset, checkScan_congr hset']

end Settings

end Specifiers
