import Mathlib.Data.List.Lex
import Mathlib.Data.String.Basic
import Specifiers.Ignore.Filter
import Specifiers.Proofs.FileTree
import Specifiers.Proofs.Result

/-!
# Filters, and the order of the sources

A filter is made of the rules that are given for it, and sees a file below its root under one name.
Sources stand in the order of their segments, which is the lexicographic order of lists. Since every
file is listed once, the order is strict.
-/

namespace Specifiers

namespace Ignore

namespace Filter

variable {f : Filter} {fs : FileSystem} {extensions : Option (List String)}

/-! ## What a filter is made of -/

/-- A filter that is loaded has the root and the rules that are given for it. -/
theorem of_load {root : Path} {exclude keep : List String} {notices : List Notice}
    (h : load fs root exclude keep = .ok (f, notices)) :
    f.root = root ∧ rulesOf keep = .ok f.included ∧ rulesOf exclude = .ok f.excluded ∧
      rulesOf standardPatterns = .ok f.standard ∧ ownRules fs root = .ok (f.own, notices) := by
  unfold load at h
  simp only [bind_eq_ok_iff] at h
  obtain ⟨_, hown, _, hstandard, _, hexcluded, _, hincluded, hf⟩ := h
  obtain ⟨rfl, rfl⟩ := Prod.mk.inj (Except.ok.inj hf)
  exact ⟨rfl, hincluded, hexcluded, hstandard, hown⟩

/-- What stands in the place of a project's file of patterns and is none gives no rules; when there is
something, a notice says so. -/
theorem ownRules_of_read_error {root : Path} {e : FileError}
    (h : fs.read (root.below [fileName]) = .error e) :
    ownRules fs root = .ok (none, if fs.hasEntry (root.below [fileName]) then
      [.ignoreFileUnreadable (root.below [fileName]).text e.message] else []) := by
  simp only [ownRules, h]

/-- A project's own file gives its rules without a notice. -/
theorem ownRules_of_read_ok {root : Path} {bytes : List UInt8}
    (h : fs.read (root.below [fileName]) = .ok bytes) :
    ownRules fs root = (Rules.ofBytes bytes).map fun rules => (some rules, []) := by
  simp only [ownRules, h]

/-- A project without a file of patterns has no rules of its own. -/
theorem ownRules_of_not_hasEntry {root : Path} (h : fs.hasEntry (root.below [fileName]) = false) :
    ownRules fs root = .ok (none, []) := by
  have hread : ∃ e, fs.read (root.below [fileName]) = .error e := by
    unfold FileSystem.hasEntry FileSystem.at? FileTree.at? at h
    unfold FileSystem.read FileTree.read
    cases hfollow : FileTree.follow [] fs.tree (fs.segmentsOf (root.below [fileName])) with
    | error fault => exact ⟨_, rfl⟩
    | ok t =>
      rw [hfollow] at h
      cases h
  obtain ⟨e, he⟩ := hread
  rw [ownRules_of_read_error he, h]
  rfl

/-- The name under which patterns see what lies below a root: from the root, when that is absolute, and
otherwise from where the root itself is meant from. -/
def nameBelow (root : Path) (segments : List String) : String :=
  Path.relativeText (if root.absolute then segments else root.segments ++ segments)

theorem ignores_below (f : Filter) (segments : List String) :
    f.ignores (f.root.below segments) = f.ignoresRelative (nameBelow f.root segments) := by
  have habsolute : (f.root.below segments).absolute = f.root.absolute := rfl
  rw [ignores, habsolute, Path.relativeTo?_below, nameBelow]
  split <;> rfl

/-- What lies outside the root is ignored, whatever the patterns say. -/
theorem ignores_of_isOutside {p : Path} (h : p.IsOutside f.root) : f.ignores p = true := by
  rw [ignores, if_pos h.1, Path.relativeTo?_of_isOutside h]

/-- What the patterns to keep select is not ignored, whatever the others say. -/
theorem ignoresRelative_of_selects {name : String} (h : f.included.selects name = true) :
    f.ignoresRelative name = false := by
  rw [ignoresRelative, h, Bool.not_true, Bool.false_and]

/-! ## The order -/

/-- One path comes before another unless it is greater as a list of segments. -/
theorem before_iff {a b : List String} : before a b = true ↔ ¬b < a := by
  induction a generalizing b with
  | nil => simp [before]
  | cons x as ih =>
    cases b with
    | nil => simp [before]
    | cons y bs =>
      rw [before, List.cons_lt_cons_iff]
      -- equal heads defer to the rest, and of different ones the smaller decides
      by_cases h : x = y
      · subst h
        simpa using ih
      · have hxy : ¬(x == y) = true := by simpa using h
        rw [if_neg hxy, decide_eq_true_iff]
        constructor
        · rintro hlt (hgt | ⟨heq, -⟩)
          · exact lt_asymm hlt hgt
          · exact h heq.symm
        · intro hnot
          rcases lt_trichotomy x y with hlt | heq | hgt
          · exact hlt
          · exact absurd heq h
          · exact absurd (Or.inl hgt) hnot

/-- A list is put in order. -/
theorem mergeSort_before_sorted (l : List (List String)) :
    (l.mergeSort before).Pairwise fun a b => before a b = true := by
  refine List.pairwise_mergeSort (fun a b c hab hbc => ?_) (fun a b => ?_) l
  · rw [before_iff, not_lt] at *
    exact le_trans hab hbc
  · rw [Bool.or_eq_true, before_iff, before_iff, not_lt, not_lt]
    exact le_total a b

/-- A list without repeats is put in strictly increasing order. -/
theorem mergeSort_before_pairwise {l : List (List String)} (h : l.Nodup) :
    (l.mergeSort before).Pairwise (· < ·) := by
  have hnodup : (l.mergeSort before).Nodup := (List.mergeSort_perm l before).nodup_iff.mpr h
  refine ((mergeSort_before_sorted l).and hnodup).imp fun {a b} ⟨hle, hne⟩ => ?_
  rw [before_iff, not_lt] at hle
  exact lt_of_le_of_ne hle hne

/-- Lists with the same members to be kept, in any order, come to the same list in order. -/
theorem filter_mergeSort_congr {l l' : List (List String)} {keep : List String → Bool}
    (h : (l.filter keep).Perm (l'.filter keep)) :
    (l.mergeSort before).filter keep = (l'.mergeSort before).filter keep := by
  have hperm (l : List (List String)) : ((l.mergeSort before).filter keep).Perm (l.filter keep) :=
    (List.mergeSort_perm l before).filter keep
  refine List.Perm.eq_of_pairwise (fun a b _ _ hab hba => ?_)
    ((mergeSort_before_sorted l).filter keep) ((mergeSort_before_sorted l').filter keep)
    ((hperm l).trans (h.trans (hperm l').symm))
  rw [before_iff, not_lt] at hab hba
  exact le_antisymm hab hba

/-- A source is a file below the root that has a suffix asked for and is not ignored. -/
theorem mem_sources_iff {segments : List String} :
    segments ∈ f.sources fs extensions ↔
      segments ∈ fs.filesBelow f.root ∧ hasSuffix extensions segments = true ∧
        f.ignores (f.root.below segments) = false := by
  simp [sources]

/-- Further files that are ignored have no part in the sources. -/
theorem sources_of_ignored {fs' : FileSystem} {more : List (List String)}
    (files : fs'.filesBelow f.root = fs.filesBelow f.root ++ more)
    (ignored : ∀ segments ∈ more, f.ignores (f.root.below segments) = true) :
    f.sources fs' extensions = f.sources fs extensions := by
  refine filter_mergeSort_congr (List.Perm.of_eq ?_)
  rw [files, List.filter_append, List.append_right_eq_self, List.filter_eq_nil_iff]
  intro segments hmem
  simp [ignored segments hmem]

/-- The sources stand in strictly increasing order. -/
theorem sources_pairwise (h : fs.tree.WellFormed) :
    (f.sources fs extensions).Pairwise (· < ·) :=
  (mergeSort_before_pairwise (FileSystem.nodup_filesBelow h)).filter _

/-- The sources are given by segments. -/
theorem isSegment_of_mem_sources (h : fs.tree.WellFormed) {segments : List String}
    (hmem : segments ∈ f.sources fs extensions) : ∀ s ∈ segments, Path.IsSegment s :=
  FileSystem.isSegment_of_mem_filesBelow h (mem_sources_iff.mp hmem).1

/-! ## A small project -/

/-- The root of a small project. -/
def smallRoot : Path := ⟨.root, ["r"]⟩

/-- A project in which there is nothing but, possibly, something in the place of its file of patterns. -/
def smallProject (own : Option FileTree) : FileSystem where
  tree := .directory [("r", .directory (own.toList.map fun t => (fileName, t)))]
  here := smallRoot
  home := smallRoot

end Filter

end Ignore

end Specifiers
