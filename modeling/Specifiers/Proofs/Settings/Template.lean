import Specifiers.Proofs.Settings.Layers
import Specifiers.Settings.Template

/-!
# What the file that a project starts with sets

The file spells the defaults, so with it a project has the settings that it has without any file: what is
asked for, and the defaults for everything else (`load_eq_askedSettings`).
-/

namespace Specifiers

namespace Settings

/-- The file that a project starts with spells the defaults. -/
theorem ofBytes_template : Toml.ofBytes (Utf8.encode template.toList) = .ok (toTable {}) := by
  decide +kernel

/-- A table that binds nothing and one that spells the defaults are read as the defaults. -/
theorem reads_defaults {own : Table Value} (h : own = [] ∨ own = toTable {}) :
    FilterReads (bound own) {} ∧ ScanReads (bound own) {} := by
  rcases h with rfl | rfl
  · exact ⟨⟨rfl, rfl⟩, ⟨rfl, rfl, rfl⟩⟩
  · refine ⟨⟨rfl, rfl⟩, ⟨⟨[".js", ".mjs", ".cjs"], rfl, ?_⟩, rfl, .bool false⟩⟩
    decide

section Asked

variable (extensions : Option (List String)) (failFast : Option Bool)

/-- The defaults, with what is asked for in their places. -/
def askedSettings : Settings :=
  let dflt : ScanSettings := {}
  { scan := { dflt with
      extensions :=
        if (extensions.getD []).isEmpty then dflt.extensions
        else (extensions.getD []).map normalizeExtension
      failFast := failFast.getD dflt.failFast } }

variable {fs : FileSystem} {project : Path} {own : Table Value}

/-- A project has the same settings without a file of its own and with the one that it starts with. -/
theorem load_eq_askedSettings (huser : layer fs (userFile fs.home) = .ok [])
    (hown : layer fs project = .ok own) (h : own = [] ∨ own = toTable {}) :
    load fs project (overrides extensions failFast) = .ok (askedSettings extensions failFast) := by
  obtain ⟨hfilter, hscan⟩ := reads_defaults h
  have hplace : IsTable (own.find? Part.filter.name) := by
    rcases h with rfl | rfl <;> decide
  -- without a user layer, what the command line asks for stands over the project alone
  have hset (f : Field) : selected [] own (asked extensions failFast) f =
      (asked extensions failFast f).or (bound own f) := by
    have hnone : bound [] f = none := rfl
    rw [selected, hnone, ite_self, Option.or_none]
  rw [load_eq _ huser hown, mapError_eq_ok_iff, (tells_stack extensions failFast
    (distinct_of_layer huser) (distinct_of_layer hown)).ok_iff]
  refine ⟨by rwa [Table.find?_nil, Option.or_none], ⟨?_, ?_⟩, ⟨?_, ?_, ?_⟩⟩
  · rw [hset]
    exact hfilter.exclude
  · rw [hset]
    exact hfilter.keep
  · rw [hset]
    unfold asked askedSettings
    by_cases hempty : (extensions.getD []).isEmpty = true
    · simp only [if_pos hempty]
      exact hscan.extensions
    · simp only [if_neg hempty]
      exact ⟨_, rfl, rfl⟩
  · rw [hset]
    exact hscan.encoding
  · rw [hset]
    cases failFast with
    | none => exact hscan.failFast
    | some b => exact .bool b

end Asked

end Settings

end Specifiers
