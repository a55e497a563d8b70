import Specifiers.Proofs.FileTree.Follow
import Specifiers.Proofs.Ignore.Filter

/-!
# Which files are sources

The sources of a project are all files below its root that have one of the suffixes asked for and are not
ignored. What is said of the directories on the way to a file has no part in it, but for patterns that
meet the file through them: a file that is to be kept is a source in an excluded directory, too.
-/

namespace Specifiers

namespace Ignore

namespace Filter

variable {f : Filter} {fs : FileSystem} {root : Path} {extensions : Option (List String)}
  {segments : List String}

/-- Has a name one of the suffixes, in any case? Without suffixes every name is wanted. -/
def IsWanted (extensions : Option (List String)) (name : String) : Prop :=
  ∀ es, extensions = some es → ∃ suffix, Path.IsSuffix name suffix ∧ lowercase suffix ∈ es.map lowercase

theorem hasSuffix_iff : hasSuffix extensions segments = true ↔
    IsWanted extensions (segments.getLast?.getD "") := by
  unfold hasSuffix IsWanted
  cases extensions with
  | none => simp
  | some es => simp [Path.isSuffix_iff]

/-- The sources of a project whose filter has been loaded stand in strictly increasing order of their
segments, so none of them twice. They are the files at any depth below the root whose names have a suffix
asked for and which are not ignored. Of these a file is a source when the patterns to keep select it,
though it be in a directory that is excluded. -/
theorem sources_of_load {exclude keep : List String} {notices : List Notice}
    (tree : fs.tree.WellFormed) (loaded : load fs root exclude keep = .ok (f, notices))
    (extensions : Option (List String)) :
    (f.sources fs extensions).Pairwise (· < ·) ∧
      (∀ segments, segments ∈ f.sources fs extensions ↔ fs.IsFileBelow root segments ∧
        IsWanted extensions (root.below segments).name ∧ f.ignores (root.below segments) = false) ∧
      ∃ rules, rulesOf keep = .ok rules ∧ ∀ segments, fs.IsFileBelow root segments →
        IsWanted extensions (root.below segments).name →
          rules.selects (nameBelow root segments) = true → segments ∈ f.sources fs extensions := by
  obtain ⟨rfl, hincluded, -⟩ := of_load loaded
  have hmem (segments : List String) : segments ∈ f.sources fs extensions ↔
      fs.IsFileBelow f.root segments ∧ IsWanted extensions (f.root.below segments).name ∧
        f.ignores (f.root.below segments) = false := by
    rw [mem_sources_iff, FileSystem.mem_filesBelow_iff tree]
    refine and_congr_right fun hfile => ?_
    rw [hasSuffix_iff, Path.name_below _ hfile.1]
  refine ⟨sources_pairwise tree, hmem, f.included, hincluded, ?_⟩
  intro segments hfile hwanted hselects
  refine (hmem segments).mpr ⟨hfile, hwanted, ?_⟩
  rw [ignores_below, ignoresRelative_of_selects hselects]

/-- A root with a directory of two files. -/
def vendored : FileSystem where
  tree := .directory [("vendor", .directory [("keep.JS", .file []), ("skip.js", .file [])])]
  here := ⟨.root, []⟩
  home := ⟨.root, []⟩

theorem wellFormed_vendored : vendored.tree.WellFormed := by
  refine .directory (by decide) (by decide) fun e he => ?_
  obtain rfl := List.mem_singleton.mp he
  refine .directory (by decide) (by decide) fun e he => ?_
  rcases List.mem_pair.mp he with rfl | rfl <;> exact .file _

/-- The filter of this root when the directory is excluded and one of its files is to be kept. -/
def keeping : Filter where
  root := ⟨.root, []⟩
  included := (rulesOf ["vendor/keep.*"]).toOption.getD []
  excluded := (rulesOf ["vendor/"]).toOption.getD []
  standard := (rulesOf standardPatterns).toOption.getD []
  own := none

/-- The file to keep is a source, though its directory is excluded; the other one is none. -/
theorem sources_of_load_vendored :
    load vendored ⟨.root, []⟩ ["vendor/"] ["vendor/keep.*"] = .ok (keeping, []) ∧
      ["vendor", "keep.JS"] ∈ keeping.sources vendored (some [".js"]) ∧
      ["vendor", "skip.js"] ∉ keeping.sources vendored (some [".js"]) := by
  have hload : load vendored ⟨.root, []⟩ ["vendor/"] ["vendor/keep.*"] = .ok (keeping, []) := by rfl
  obtain ⟨-, hmem, rules, hrules, hkeep⟩ := sources_of_load wellFormed_vendored hload (some [".js"])
  refine ⟨hload, hkeep _ ⟨by decide, by decide, [], rfl⟩ ?_ ?_, fun h => ?_⟩
  · rintro es ⟨⟩
    exact ⟨".JS", Path.isSuffix_iff.mpr (by decide), by decide +kernel⟩
  · have hselects : (rulesOf ["vendor/keep.*"]).toOption.all
        (·.selects (nameBelow ⟨.root, []⟩ ["vendor", "keep.JS"])) = true := by decide +kernel
    rwa [hrules] at hselects
  · have hignored : keeping.ignores ⟨.root, ["vendor", "skip.js"]⟩ = true := by decide +kernel
    simpa [Path.below, hignored] using ((hmem _).mp h).2.2

end Filter

end Ignore

end Specifiers
