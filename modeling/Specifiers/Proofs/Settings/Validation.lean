import Mathlib.Tactic.Common
import Specifiers.Proofs.Result
import Specifiers.Proofs.Table
import Specifiers.Settings.Validation

/-!
# What the fields of settings accept

Each of the five fields accepts the values that spell a value of its type: lists of texts, texts, and
what stands for a truth value. A check gives the value that is spelled, or faults that name its field
(`Checks`). The settings of a section are those that its values spell, and its faults name the fields
whose values spell nothing (`Names`).
-/

namespace Specifiers

namespace Settings

/-! ## Values of the types -/

/-- Which truth value a value stands for: itself, zero or one as a number, or one of the words. -/
inductive StandsFor : Value → Bool → Prop
  | bool (b : Bool) : StandsFor (.bool b) b
  | zero : StandsFor (.integer 0) false
  | one : StandsFor (.integer 1) true
  | whole {x : Binary64} {n : Int} {b : Bool} (eq : x.toInt? = some n) (h : StandsFor (.integer n) b) :
      StandsFor (.float x) b
  | word {s : String} {b : Bool} (h : (foldWord s, b) ∈ truthWords) : StandsFor (.text s) b

/-- Of the numbers only zero and one stand for truth values. -/
theorem standsFor_integer_iff {n : Int} {b : Bool} :
    StandsFor (.integer n) b ↔ n = 0 ∧ b = false ∨ n = 1 ∧ b = true := by
  constructor
  · intro h
    cases h with
    | zero => exact .inl ⟨rfl, rfl⟩
    | one => exact .inr ⟨rfl, rfl⟩
  · rintro (⟨rfl, rfl⟩ | ⟨rfl, rfl⟩)
    · exact .zero
    · exact .one

/-- The truth value of a number is the one that it stands for. -/
theorem truthOfInteger_eq_ok_iff {n : Int} {b : Bool} :
    truthOfInteger n = .ok b ↔ StandsFor (.integer n) b := by
  rw [standsFor_integer_iff]
  unfold truthOfInteger
  split_ifs with h0 h1 h2 <;> grind

/-- A number with a fraction point stands for what it is as a whole number. -/
theorem truthOfFloat_eq_ok_iff {x : Binary64} {b : Bool} :
    truthOfFloat x = .ok b ↔ StandsFor (.float x) b := by
  unfold truthOfFloat
  constructor
  · intro h
    split at h
    · next n hn =>
      split at h
      · simp at h
      · exact .whole hn (truthOfInteger_eq_ok_iff.mp h)
    · simp at h
  · intro h
    cases h with
    | @whole _ n _ hn h =>
      -- The number that is refused before the others is neither zero nor one.
      have hne : n ≠ -integerLimit := by
        rintro rfl
        rcases standsFor_integer_iff.mp h with ⟨h, -⟩ | ⟨h, -⟩ <;> simp [integerLimit] at h
      simp only [hn, if_neg hne, truthOfInteger_eq_ok_iff.mpr h]

/-- The truth value of a value is the one that it stands for. -/
theorem truthOf_eq_ok_iff {v : Value} {b : Bool} : truthOf v = .ok b ↔ StandsFor v b := by
  cases v with
  | bool b' =>
    rw [truthOf, Except.ok.injEq]
    constructor
    · rintro rfl
      exact .bool b'
    · rintro ⟨⟩
      rfl
  | integer n => exact truthOfInteger_eq_ok_iff
  | float x => exact truthOfFloat_eq_ok_iff
  | text s =>
    -- No word is listed twice, so the entry that is found for one is the only one.
    have hwords : (Table.keys truthWords).Nodup := by decide
    rw [truthOf]
    constructor
    · intro h
      split at h
      · next b' hb =>
        exact Except.ok.inj h ▸ .word (Table.mem_of_find? hb)
      · simp at h
    · rintro (_ | _ | _ | _ | h)
      rw [show truthWords.lookup (foldWord s) = some b from (Table.find?_eq_some_iff hwords).mpr h]
  | _ =>
    constructor
    · intro h
      simp [truthOf] at h
    · rintro ⟨⟩

/-! ## Checks -/

/-- Does a check give exactly the value that is spelled, and otherwise faults of its field? -/
structure Checks {α : Type} (check : String → Value → Checked α) (Spells : Value → α → Prop) :
    Prop where
  ok_iff : ∀ {field v a}, check field v = .ok a ↔ Spells v a
  faulty : ∀ {field v fs}, check field v = .error fs → fs ≠ [] ∧ ∀ f ∈ fs, f.field = field

/-- The texts of a list are its items, when these are texts. -/
theorem checkItems_eq_ok_iff {field : String} {index : Nat} {items : List Value}
    {ss : List String} : checkItems field index items = .ok ss ↔ items = ss.map .text := by
  induction items generalizing index ss with
  | nil => cases ss <;> simp [checkItems]
  | cons item items ih =>
    rw [checkItems.eq_def]
    dsimp only
    split
    · next s rest hrest =>
      rw [ih] at hrest
      cases ss <;> simp [hrest, List.map_inj_right]
    -- Where the rest has a fault, the list spells no texts; so it is where the first item is none.
    · next s fs hrest =>
      simp only [reduceCtorEq, false_iff]
      intro hitems
      cases ss with
      | nil => simp at hitems
      | cons s' ss =>
        have hok : checkItems field (index + 1) items = .ok ss := ih.mpr (List.cons.inj hitems).2
        exact absurd (hrest.symm.trans hok) (by simp)
    · next hok herror =>
      simp only [reduceCtorEq, false_iff]
      intro hitems
      cases ss with
      | nil => simp at hitems
      | cons s' ss =>
        obtain rfl := (List.cons.inj hitems).1
        exact hok s' ss rfl (ih.mpr (List.cons.inj hitems).2)

/-- The faults of the items of a list are those of its field. -/
theorem checkItems_faulty {field : String} {index : Nat} {items : List Value}
    {fs : List FieldFault} (h : checkItems field index items = .error fs) :
    fs ≠ [] ∧ ∀ f ∈ fs, f.field = field := by
  induction items generalizing index fs with
  | nil => simp [checkItems] at h
  | cons item items ih =>
    rw [checkItems.eq_def] at h
    dsimp only at h
    split at h
    · simp at h
    · next s rest hrest => exact Except.error.inj h ▸ ih hrest
    · obtain rfl := Except.error.inj h
      refine ⟨by simp, fun f hf => ?_⟩
      rcases List.mem_cons.mp hf with rfl | hf
      · rfl
      · cases hrest : checkItems field (index + 1) items with
        | ok ss => simp [hrest, faults] at hf
        | error rest =>
          rw [hrest] at hf
          exact (ih hrest).2 f hf

/-- A list of texts spells its texts. -/
theorem checks_texts : Checks checkTexts fun v ss => v = textsValue ss where
  ok_iff {field v ss} := by
    unfold textsValue
    cases v with
    | list items => rw [checkTexts, checkItems_eq_ok_iff, Value.list.injEq]
    | _ => simp [checkTexts]
  faulty {field v fs} h := by
    cases v with
    | list items => exact checkItems_faulty h
    | _ => obtain rfl := Except.error.inj h; simp

/-- A text spells itself. -/
theorem checks_text : Checks checkText fun v s => v = .text s where
  ok_iff {field v s} := by
    cases v <;> simp [checkText]
  faulty {field v fs} h := by
    cases v with
    | text s => simp [checkText] at h
    | _ => obtain rfl := Except.error.inj h; simp

/-- What stands for a truth value spells it. -/
theorem checks_truth : Checks checkTruth StandsFor where
  ok_iff := mapError_eq_ok_iff.trans truthOf_eq_ok_iff
  faulty h := by
    obtain ⟨fault, -, rfl⟩ := mapError_eq_error_iff.mp h
    simp

/-! ## Fields -/

/-- The fields of settings. -/
inductive Field
  | exclude
  | keep
  | extensions
  | encoding
  | failFast
  deriving DecidableEq

namespace Field

/-- The section of a field. -/
def part : Field → Part
  | exclude | keep => .filter
  | extensions | encoding | failFast => .scan

/-- The key of a field in its section. -/
def name : Field → String
  | exclude => "exclude"
  | keep => "include"
  | extensions => "extensions"
  | encoding => "encoding"
  | failFast => "fail_fast"

/-- Is a value one of the type of the field? -/
def Fits : Field → Value → Prop
  | exclude, v | keep, v | extensions, v => ∃ ss, v = textsValue ss
  | encoding, v => ∃ s, v = .text s
  | failFast, v => ∃ b, StandsFor v b

/-- Is a value set that is not of the type of the field? -/
def Misfit (f : Field) (set : Option Value) : Prop := ∃ v, set = some v ∧ ¬f.Fits v

end Field

/-- What a field has when a value is set for it or none: what the value spells, or the default. -/
def Reads {α : Type} (Spells : Value → α → Prop) (dflt : α) : Option Value → α → Prop
  | some v, a => Spells v a
  | none, a => a = dflt

section Check

variable {α : Type} {check : String → Value → Checked α} {Spells : Value → α → Prop} {dflt : α}
  {t : Table Value} {field : String}

/-- A field that is checked has what is spelled at its key, or the default. -/
theorem checkField_eq_ok_iff (h : Checks check Spells) {a : α} :
    checkField check dflt t field = .ok a ↔ Reads Spells dflt (t.find? field) a := by
  unfold checkField Reads
  cases t.find? field with
  | none => simp [eq_comm]
  | some v => exact h.ok_iff

/-- A field has faults when a value is set that spells none of its type, and they name the field. -/
theorem faults_checkField (h : Checks check Spells) (name : String) :
    (∃ f ∈ faults (checkField check dflt t field), f.field = name) ↔
      field = name ∧ ∃ v, t.find? field = some v ∧ ¬∃ a, Spells v a := by
  unfold checkField
  cases t.find? field with
  | none => simp [faults]
  | some v =>
    cases hv : check field v with
    -- Without a fault there is a value that is spelled, and no fault to name anything.
    | ok a =>
      have hspells : Spells v a := h.ok_iff.mp hv
      simp only [hv, faults, Option.some.injEq, exists_eq_left', List.not_mem_nil, false_and,
        exists_false, false_iff, not_and, not_not]
      exact fun _ => ⟨a, hspells⟩
    | error fs =>
      obtain ⟨hne, hall⟩ := h.faulty hv
      obtain ⟨f, hf⟩ := List.exists_mem_of_ne_nil fs hne
      have hnone : ¬∃ a, Spells v a := by
        rintro ⟨a, ha⟩
        exact absurd (hv.symm.trans (h.ok_iff.mpr ha)) (by simp)
      simp only [hv, faults, Option.some.injEq, exists_eq_left', hnone, not_false_eq_true, and_true]
      constructor
      · rintro ⟨f, hf, rfl⟩
        exact (hall f hf).symm
      · rintro rfl
        exact ⟨f, hf, hall f hf⟩

/-- A field has a value unless one is set that spells none of its type. -/
theorem exists_reads_iff {set : Option Value} :
    (∃ a, Reads Spells dflt set a) ↔ ¬∃ v, set = some v ∧ ¬∃ a, Spells v a := by
  cases set with
  | none => simp [Reads]
  | some v => simp [Reads]

end Check

/-! ## Sections -/

/-- What fields have when these values are set: the two fields of the filter. -/
structure FilterReads (set : Field → Option Value) (s : FilterSettings) : Prop where
  exclude : Reads (fun v ss => v = textsValue ss) [] (set .exclude) s.exclude
  keep : Reads (fun v ss => v = textsValue ss) [] (set .keep) s.keep

/-- What fields have when these values are set: the three fields of the scan, with its suffixes in lower
case and with a dot. -/
structure ScanReads (set : Field → Option Value) (s : ScanSettings) : Prop where
  extensions : Reads (fun v ss => ∃ written, v = textsValue written ∧
    ss = written.map normalizeExtension) [".js", ".mjs", ".cjs"] (set .extensions) s.extensions
  encoding : Reads (fun v s => v = .text s) "utf-8" (set .encoding) s.encoding
  failFast : Reads StandsFor false (set .failFast) s.failFast

variable {t : Table Value}

/-- The values that the entries of a section set. -/
def setBy (t : Table Value) (f : Field) : Option Value := t.find? f.name

/-- The settings of the filter are those that the values of its section spell. -/
theorem checkFilter_eq_ok_iff {s : FilterSettings} :
    checkFilter t = .ok s ↔ FilterReads (setBy t) s := by
  obtain ⟨exclude, keep⟩ := s
  have hreads : FilterReads (setBy t) ⟨exclude, keep⟩ ↔
      checkField checkTexts [] t "exclude" = .ok exclude ∧
        checkField checkTexts [] t "include" = .ok keep := by
    rw [checkField_eq_ok_iff checks_texts, checkField_eq_ok_iff checks_texts]
    exact ⟨fun h => ⟨h.exclude, h.keep⟩, fun h => ⟨h.1, h.2⟩⟩
  rw [hreads]
  unfold checkFilter
  cases checkField checkTexts [] t "exclude" <;> cases checkField checkTexts [] t "include" <;> simp

/-- The suffixes that are set, or the default ones, are put into their normal form. -/
theorem map_normalizeExtension_eq_ok_iff {ss : List String} :
    (checkField checkTexts ({} : ScanSettings).extensions t "extensions").map
        (·.map normalizeExtension) = .ok ss ↔
      Reads (fun v ss => ∃ written, v = textsValue written ∧ ss = written.map normalizeExtension)
        [".js", ".mjs", ".cjs"] (t.find? "extensions") ss := by
  have hdefault : ({} : ScanSettings).extensions.map normalizeExtension = [".js", ".mjs", ".cjs"] := by
    decide
  rw [map_eq_ok_iff]
  simp only [checkField_eq_ok_iff checks_texts]
  cases t.find? "extensions" with
  | none => simp [Reads, hdefault, eq_comm]
  | some v => simp [Reads, eq_comm]

/-- The settings of the scan are those that the values of its section spell. -/
theorem checkScan_eq_ok_iff {s : ScanSettings} : checkScan t = .ok s ↔ ScanReads (setBy t) s := by
  obtain ⟨extensions, encoding, failFast⟩ := s
  have hreads : ScanReads (setBy t) ⟨extensions, encoding, failFast⟩ ↔
      (checkField checkTexts ({} : ScanSettings).extensions t "extensions").map
          (·.map normalizeExtension) = .ok extensions ∧
        checkField checkText "utf-8" t "encoding" = .ok encoding ∧
        checkField checkTruth false t "fail_fast" = .ok failFast := by
    rw [map_normalizeExtension_eq_ok_iff, checkField_eq_ok_iff checks_text,
      checkField_eq_ok_iff checks_truth]
    exact ⟨fun h => ⟨h.extensions, h.encoding, h.failFast⟩, fun h => ⟨h.1, h.2.1, h.2.2⟩⟩
  rw [hreads]
  unfold checkScan
  dsimp only
  cases (checkField checkTexts ({} : ScanSettings).extensions t "extensions").map
      (·.map normalizeExtension) <;>
    cases checkField checkText "utf-8" t "encoding" <;>
    cases checkField checkTruth false t "fail_fast" <;> simp

/-! ## Values that are read alike

No field takes a table, so a table that is set could as well be any other table.
-/

/-- Are two values that are set the same, or both tables? -/
def Alike (a b : Option Value) : Prop :=
  a = b ∨ ∃ s t, a = some (.table s) ∧ b = some (.table t)

theorem Alike.refl (a : Option Value) : Alike a a := .inl rfl

theorem Alike.symm {a b : Option Value} : Alike a b → Alike b a
  | .inl h => .inl h.symm
  | .inr ⟨s, t, ha, hb⟩ => .inr ⟨t, s, hb, ha⟩

theorem Alike.trans {a b c : Option Value} : Alike a b → Alike b c → Alike a c
  | .inl hab, hbc => hab ▸ hbc
  | .inr h, .inl hbc => .inr (hbc ▸ h)
  | .inr ⟨s, _, ha, _⟩, .inr ⟨_, u, _, hc⟩ => .inr ⟨s, u, ha, hc⟩

/-- Values that are set alike spell the same, for a type that takes no tables. -/
theorem Alike.reads {α : Type} {Spells : Value → α → Prop} {dflt x : α} {a b : Option Value}
    (h : Alike a b) (hno : ∀ t, ¬Spells (.table t) x) (ha : Reads Spells dflt a x) :
    Reads Spells dflt b x := by
  rcases h with rfl | ⟨s, t, rfl, rfl⟩
  · exact ha
  · exact absurd ha (hno s)

/-- No field takes a table. -/
theorem Field.not_fits_table (f : Field) (t : Table Value) : ¬f.Fits (.table t) := by
  cases f <;> simp only [Fits, textsValue, not_exists] <;> intro x <;> nofun

/-- Of values that are set alike both fit or neither. -/
theorem Alike.misfit_iff {a b : Option Value} (h : Alike a b) (f : Field) :
    f.Misfit a ↔ f.Misfit b := by
  rcases h with rfl | ⟨s, t, rfl, rfl⟩
  · rfl
  · simp [Field.Misfit, f.not_fits_table]

/-- Values that are set alike give the same settings of the filter. -/
theorem FilterReads.of_alike {set other : Field → Option Value} {s : FilterSettings}
    (h : ∀ f : Field, f.part = .filter → Alike (set f) (other f)) (hs : FilterReads set s) :
    FilterReads other s where
  exclude := (h .exclude rfl).reads (by simp [textsValue]) hs.exclude
  keep := (h .keep rfl).reads (by simp [textsValue]) hs.keep

/-- They give the same settings of the scan as well. -/
theorem ScanReads.of_alike {set other : Field → Option Value} {s : ScanSettings}
    (h : ∀ f : Field, f.part = .scan → Alike (set f) (other f)) (hs : ScanReads set s) :
    ScanReads other s where
  extensions := (h .extensions rfl).reads (by simp [textsValue]) hs.extensions
  encoding := (h .encoding rfl).reads (by simp) hs.encoding
  failFast := (h .failFast rfl).reads nofun hs.failFast

/-! ## Faults of sections -/

/-- Do faults name just the fields of a section for which values are set that do not fit? -/
def Names (part : Part) (set : Field → Option Value) (fs : List FieldFault) : Prop :=
  ∀ name, (∃ fault ∈ fs, fault.field = name) ↔
    ∃ f : Field, f.part = part ∧ f.name = name ∧ f.Misfit (set f)

/-- Faults that name the fields of some values name those of values that are set alike. -/
theorem Names.of_alike {part : Part} {set other : Field → Option Value} {fs : List FieldFault}
    (hnames : Names part set fs) (h : ∀ f : Field, f.part = part → Alike (set f) (other f)) :
    Names part other fs := by
  intro name
  refine (hnames name).trans (exists_congr fun f => and_congr_right fun hpart => ?_)
  rw [(h f hpart).misfit_iff f]

/-- The faults of the section for the filter name its fields that do not fit. -/
theorem names_checkFilter : Names .filter (setBy t) (faults (checkFilter t)) := by
  have happend : faults (checkFilter t) =
      faults (checkField checkTexts [] t "exclude") ++ faults (checkField checkTexts [] t "include") := by
    unfold checkFilter
    cases checkField checkTexts [] t "exclude" <;> cases checkField checkTexts [] t "include" <;>
      simp [faults]
  intro name
  rw [happend]
  simp only [List.mem_append, or_and_right, exists_or, faults_checkField checks_texts]
  constructor
  · rintro (⟨rfl, h⟩ | ⟨rfl, h⟩)
    · exact ⟨.exclude, rfl, rfl, h⟩
    · exact ⟨.keep, rfl, rfl, h⟩
  · rintro ⟨f, hpart, rfl, h⟩
    cases f with
    | exclude => exact .inl ⟨rfl, h⟩
    | keep => exact .inr ⟨rfl, h⟩
    | _ => cases hpart

/-- The faults of the section for the scan name its fields that do not fit. -/
theorem names_checkScan : Names .scan (setBy t) (faults (checkScan t)) := by
  -- The checks are made one after the other, and the faults of all of them are kept.
  have happend : faults (checkScan t) =
      faults (checkField checkTexts ({} : ScanSettings).extensions t "extensions") ++
        faults (checkField checkText "utf-8" t "encoding") ++
        faults (checkField checkTruth false t "fail_fast") := by
    unfold checkScan
    dsimp only
    cases checkField checkTexts [".js", ".mjs", ".cjs"] t "extensions" <;>
      cases checkField checkText "utf-8" t "encoding" <;>
      cases checkField checkTruth false t "fail_fast" <;> simp [faults, Except.map]
  intro name
  rw [happend]
  simp only [List.mem_append, or_and_right, exists_or, faults_checkField checks_texts,
    faults_checkField checks_text, faults_checkField checks_truth]
  constructor
  · rintro ((⟨rfl, h⟩ | ⟨rfl, h⟩) | ⟨rfl, h⟩)
    · exact ⟨.extensions, rfl, rfl, h⟩
    · exact ⟨.encoding, rfl, rfl, h⟩
    · exact ⟨.failFast, rfl, rfl, h⟩
  · rintro ⟨f, hpart, rfl, h⟩
    cases f with
    | extensions => exact .inl (.inl ⟨rfl, h⟩)
    | encoding => exact .inl (.inr ⟨rfl, h⟩)
    | failFast => exact .inr ⟨rfl, h⟩
    | _ => cases hpart

/-- Does every value that is set for a field of a section fit? -/
def AllFit (part : Part) (set : Field → Option Value) : Prop :=
  ∀ f : Field, f.part = part → ¬f.Misfit (set f)

/-- Of values that are set alike all fit or not all. -/
theorem allFit_congr {part : Part} {set other : Field → Option Value}
    (h : ∀ f : Field, f.part = part → Alike (set f) (other f)) :
    AllFit part set ↔ AllFit part other :=
  forall₂_congr fun f hpart => not_congr ((h f hpart).misfit_iff f)

/-- Each field belongs to one of the two sections, so a value that does not fit is found in one of them. -/
theorem exists_misfit_iff {set : Field → Option Value} :
    (∃ f : Field, f.Misfit (set f)) ↔ ¬(AllFit .filter set ∧ AllFit .scan set) := by
  constructor
  · rintro ⟨f, hf⟩ ⟨hfilter, hscan⟩
    cases hpart : f.part with
    | filter => exact hfilter f hpart hf
    | scan => exact hscan f hpart hf
  · intro h
    by_contra hnone
    exact h ⟨fun f _ hf => hnone ⟨f, hf⟩, fun f _ hf => hnone ⟨f, hf⟩⟩

/-- The values of a section spell settings exactly when each of them fits. -/
theorem exists_checkFilter_eq_ok_iff :
    (∃ s, checkFilter t = .ok s) ↔ AllFit .filter (setBy t) := by
  simp only [checkFilter_eq_ok_iff]
  constructor
  · rintro ⟨s, h⟩ f hpart
    cases f with
    | exclude => exact exists_reads_iff.mp ⟨_, h.exclude⟩
    | keep => exact exists_reads_iff.mp ⟨_, h.keep⟩
    | _ => cases hpart
  · intro h
    obtain ⟨exclude, hexclude⟩ := exists_reads_iff.mpr (h .exclude rfl)
    obtain ⟨keep, hkeep⟩ := exists_reads_iff.mpr (h .keep rfl)
    exact ⟨⟨exclude, keep⟩, hexclude, hkeep⟩

/-- The same holds of the values of the other section. -/
theorem exists_checkScan_eq_ok_iff :
    (∃ s, checkScan t = .ok s) ↔ AllFit .scan (setBy t) := by
  simp only [checkScan_eq_ok_iff]
  constructor
  · rintro ⟨s, h⟩ f hpart
    cases f with
    -- The suffixes are spelled by a list that is then put into its normal form.
    | extensions =>
      rintro ⟨v, hv, hmisfit⟩
      have hreads := h.extensions
      rw [hv] at hreads
      obtain ⟨written, hwritten, -⟩ := hreads
      exact hmisfit ⟨written, hwritten⟩
    | encoding => exact exists_reads_iff.mp ⟨_, h.encoding⟩
    | failFast => exact exists_reads_iff.mp ⟨_, h.failFast⟩
    | _ => cases hpart
  · intro h
    obtain ⟨encoding, hencoding⟩ := exists_reads_iff.mpr (h .encoding rfl)
    obtain ⟨failFast, hfailFast⟩ := exists_reads_iff.mpr (h .failFast rfl)
    have hextensions := h .extensions rfl
    obtain ⟨extensions, hextensions⟩ : ∃ ss, Reads (fun v ss => ∃ written, v = textsValue written ∧
        ss = written.map normalizeExtension) [".js", ".mjs", ".cjs"] (setBy t .extensions) ss := by
      refine exists_reads_iff.mpr ?_
      rintro ⟨v, hv, hnone⟩
      exact hextensions ⟨v, hv, fun ⟨written, hwritten⟩ => hnone ⟨_, written, hwritten, rfl⟩⟩
    exact ⟨⟨extensions, encoding, failFast⟩, hextensions, hencoding, hfailFast⟩

end Settings

end Specifiers
