import Specifiers.Proofs.Settings.Layers
import Specifiers.Proofs.Text.Lowercase
import Specifiers.Proofs.Value.Layering

/-!
# Settings that are written as a table

Settings that have been checked are settled: checking them again changes nothing, since suffixes in their
normal form stay as they are (`normalizeExtension_idempotent`). The table that spells settings binds every
field in sections that are tables, so it displaces whatever lies below it: laid over any layers it spells
the same settings (`ofTable_merge_toTable`).
-/

namespace Specifiers

namespace Settings

open Value (Distinct merge)

variable {base user own : Table Value} {s : Settings}

/-! ## Suffixes -/

/-- The normal form of a suffix starts with a dot and has small characters only. -/
theorem isNormal_normalizeExtension (e : String) :
    (normalizeExtension e).toList.head? = some '.' ∧
      ∀ c ∈ (normalizeExtension e).toList, Lowercase.Small c := by
  have hsmall : Lowercase.Small '.' := Lowercase.small_ofChar (c := '.') (by decide) (by decide)
  unfold normalizeExtension
  split
  · next hdot =>
    refine ⟨?_, fun c hc => small_of_mem_lowercase hc⟩
    cases hcs : e.toList with
    | nil => simp [hcs] at hdot
    | cons c rest =>
      obtain rfl : c = '.' := by simpa [hcs] using hdot
      rw [lowercase, hcs, String.toList_ofList]
      rfl
  · refine ⟨by simp, fun c hc => ?_⟩
    rw [String.toList_append, List.mem_append] at hc
    rcases hc with hc | hc
    · obtain rfl : c = '.' := by simpa using hc
      exact hsmall
    · exact small_of_mem_lowercase hc

/-- A suffix in its normal form stays as it is. -/
theorem normalizeExtension_idempotent (e : String) :
    normalizeExtension (normalizeExtension e) = normalizeExtension e := by
  obtain ⟨hdot, hsmall⟩ := isNormal_normalizeExtension e
  rw [normalizeExtension, if_pos (by rw [hdot]; rfl), lowercase_of_small hsmall]

/-! ## Settled settings -/

/-- Are the suffixes of a scan in their normal form? -/
def Settled (s : ScanSettings) : Prop := ∀ e ∈ s.extensions, normalizeExtension e = e

/-- What checking a scan comes to is settled. -/
theorem settled_of_checkScan {t : Table Value} {s : ScanSettings} (h : checkScan t = .ok s) :
    Settled s := by
  intro e he
  have hreads := (checkScan_eq_ok_iff.mp h).extensions
  cases hset : setBy t .extensions with
  | none =>
    rw [hset] at hreads
    have hdefault : ∀ e ∈ [".js", ".mjs", ".cjs"], normalizeExtension e = e := by decide
    exact hdefault e (hreads ▸ he)
  | some v =>
    rw [hset] at hreads
    obtain ⟨written, -, hnormal⟩ := hreads
    rw [hnormal] at he
    obtain ⟨e, -, rfl⟩ := List.mem_map.mp he
    exact normalizeExtension_idempotent e

/-! ## The table of settings -/

theorem distinct_textsValue (ss : List String) : Distinct (textsValue ss) := by
  refine .list fun item hitem => ?_
  obtain ⟨s, -, rfl⟩ := List.mem_map.mp hitem
  exact .text s

theorem distinct_toTable (s : Settings) : Distinct (.table (toTable s)) := by
  have hfilter : Distinct (.table
      [("exclude", textsValue s.filter.exclude), ("include", textsValue s.filter.keep)]) :=
    (Value.distinct_empty.cons (distinct_textsValue _) (by simp)).cons (distinct_textsValue _)
      (by simp [Table.keys])
  have hscan : Distinct (.table [("extensions", textsValue s.scan.extensions),
      ("encoding", .text s.scan.encoding), ("fail_fast", .bool s.scan.failFast)]) :=
    ((Value.distinct_empty.cons (.bool _) (by simp)).cons (.text _) (by simp [Table.keys])).cons
      (distinct_textsValue _) (by simp [Table.keys])
  exact (Value.distinct_empty.cons hscan (by simp)).cons hfilter (by simp [Table.keys, Part.name])

/-- Settings that are settled are what the fields of their table spell. -/
theorem reads_toTable (settled : Settled s.scan) :
    FilterReads (bound (toTable s)) s.filter ∧ ScanReads (bound (toTable s)) s.scan := by
  have hnormal : s.scan.extensions = s.scan.extensions.map normalizeExtension :=
    ((List.map_congr_left settled).trans (List.map_id _)).symm
  exact ⟨⟨rfl, rfl⟩, ⟨⟨_, rfl, hnormal⟩, rfl, .bool _⟩⟩

/-- Laid over any table, the table of settled settings spells them. -/
theorem ofTable_merge_toTable (base : Table Value) (settled : Settled s.scan) :
    ofTable (merge base (toTable s)) = .ok s := by
  have distinct := distinct_toTable s
  have hplace (part : Part) : ∃ entries, (toTable s).find? part.name = some (.table entries) := by
    cases part with
    | filter => exact ⟨_, rfl⟩
    | scan => exact ⟨_, rfl⟩
  have hbound (f : Field) : ∃ v, bound (toTable s) f = some v := by
    cases f <;> exact ⟨_, rfl⟩
  -- What the table binds hides what lies below, in each section and at each field.
  have hsection (part : Part) : Alike ((merge base (toTable s)).find? part.name)
      ((toTable s).find? part.name) := by
    obtain ⟨entries, hentries⟩ := hplace part
    have hmerge : Alike ((merge base (toTable s)).find? part.name)
        (((toTable s).find? part.name).or (base.find? part.name)) := alike_find?_merge distinct
    simpa [hentries] using hmerge
  have hfield (f : Field) : Alike (bound (merge base (toTable s)) f) (bound (toTable s) f) := by
    obtain ⟨v, hv⟩ := hbound f
    have hmerge := @alike_bound_merge base (toTable s) f distinct
    simpa [hv] using hmerge
  have htable (part : Part) : IsTable ((toTable s).find? part.name) := by
    obtain ⟨entries, hentries⟩ := hplace part
    rw [hentries]
    exact fun v hv => Option.some.inj hv ▸ rfl
  have htells := tells_ofTable ((hsection .scan).isTable_iff.mpr (htable .scan)) hfield (hsection .filter)
  exact (htells.ok_iff s).mpr ⟨htable .filter, reads_toTable settled⟩

/-- Settings that have been checked are spelled by their table, by itself and laid over whatever the files
of a user and of a project hold. -/
theorem load_toTable {filter scan : Table Value}
    (checked : joined (checkFilter filter) (checkScan scan) = .ok s) :
    ofTable (toTable s) = .ok s ∧
      ∀ (fs : FileSystem) (project : Path) (user own : Table Value),
        layer fs (userFile fs.home) = .ok user → layer fs project = .ok own →
          load fs project (toTable s) = .ok s := by
  have settled := settled_of_checkScan (joined_eq_ok_iff.mp checked).2
  refine ⟨?_, fun fs project user own huser hown => ?_⟩
  · rw [← Value.merge_empty (distinct_toTable s).nodup_keys]
    exact ofTable_merge_toTable [] settled
  · have hspells : ofTable (stack [user, own, toTable s]) = .ok s :=
      ofTable_merge_toTable (merge (merge [] user) own) settled
    rw [load_eq _ huser hown, hspells]
    rfl

/-- A file system in which neither the filter of the user nor the scan of the project is a table. -/
def plainSections : FileSystem where
  tree := .directory
    [("home", .directory [(".config", .directory [("jsreq", .directory
        [(fileName, .file (Utf8.encode "filter = 1\n".toList))])])]),
      ("repo", .directory [(directoryName, .directory
        [(fileName, .file (Utf8.encode "scan = 2\n".toList))])])]
  here := ⟨.root, []⟩
  home := ⟨.root, ["home"]⟩

/-- A suffix in capitals that ends in a sigma, and a word for a truth value. -/
theorem load_toTable_plainSections :
    let scan : Table Value := [("extensions", .list [.text "ΜΣ", .text ".TS"]), ("fail_fast", .text "Yes")]
    let s : Settings := { scan := { extensions := [".μς", ".ts"], failFast := true } }
    joined (checkFilter []) (checkScan scan) = .ok s ∧
      layer plainSections (userFile plainSections.home) = .ok [("filter", .integer 1)] ∧
      layer plainSections (projectFile ⟨.root, ["repo"]⟩) = .ok [("scan", .integer 2)] ∧
      load plainSections (projectFile ⟨.root, ["repo"]⟩) (toTable s) = .ok s := by
  intro scan s
  have checked : joined (checkFilter []) (checkScan scan) = .ok s := by decide +kernel
  have huser : layer plainSections (userFile plainSections.home) = .ok [("filter", .integer 1)] := by
    decide +kernel
  have hown : layer plainSections (projectFile ⟨.root, ["repo"]⟩) = .ok [("scan", .integer 2)] := by
    decide +kernel
  exact ⟨checked, huser, hown, (load_toTable checked).2 _ _ _ _ huser hown⟩

end Settings

end Specifiers
