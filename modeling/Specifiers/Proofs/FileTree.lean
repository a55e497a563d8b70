import Mathlib.Data.List.Nodup
import Specifiers.FileSystem
import Specifiers.Proofs.Path
import Specifiers.Proofs.Table

/-!
# The files below a directory

In a well-formed tree the entries of a directory have different names, and the names are segments. Below
such a directory each file is listed once, under segments that lead to it.
-/

namespace Specifiers

namespace FileTree

/-- Do the entries of every directory have different names, all of them segments? -/
inductive WellFormed : FileTree → Prop
  | file (bytes : List UInt8) : WellFormed (file bytes)
  | directory {es : List (String × FileTree)} (names : (es.map (·.1)).Nodup)
      (segments : ∀ e ∈ es, Path.IsSegment e.1) (inner : ∀ e ∈ es, WellFormed e.2) :
      WellFormed (directory es)

variable {t : FileTree} {es : List (String × FileTree)} {segments : List String}

/-! ## The listing -/

mutual

/-- The segments on the way stand before those of each file. -/
theorem files_eq_map (below : List String) :
    ∀ t : FileTree, files below t = (files [] t).map (below.reverse ++ ·)
  | file _ => by simp [files]
  | directory es => by rw [files, files, filesOf_eq_map below es]

theorem filesOf_eq_map (below : List String) :
    ∀ es : List (String × FileTree), filesOf below es = (filesOf [] es).map (below.reverse ++ ·)
  | [] => by simp [filesOf]
  | (name, t) :: es => by
    rw [filesOf, filesOf, files_eq_map (name :: below) t, files_eq_map [name] t,
      filesOf_eq_map below es]
    simp [Function.comp_def]

end

/-- The files below entries are those below each of them, in order. -/
theorem filesOf_eq_flatMap (es : List (String × FileTree)) :
    filesOf [] es = es.flatMap fun e => (files [] e.2).map (e.1 :: ·) := by
  induction es with
  | nil => simp [filesOf]
  | cons e es ih =>
    obtain ⟨name, t⟩ := e
    rw [filesOf, files_eq_map [name] t, ih]
    simp

/-- A listed file is listed below one of the entries. -/
theorem mem_filesOf_iff :
    segments ∈ filesOf [] es ↔ ∃ e ∈ es, ∃ rest ∈ files [] e.2, e.1 :: rest = segments := by
  simp [filesOf_eq_flatMap]

/-- The files below a directory are listed under segments. -/
theorem WellFormed.isSegment (h : t.WellFormed) :
    ∀ segments ∈ files [] t, ∀ s ∈ segments, Path.IsSegment s := by
  induction h with
  | file bytes => simp [files]
  | directory _ names _ ih =>
    rw [files]
    intro segments hmem
    obtain ⟨e, he, rest, hrest, rfl⟩ := mem_filesOf_iff.mp hmem
    intro s hs
    rcases List.mem_cons.mp hs with rfl | hs
    · exact names e he
    · exact ih e he rest hrest s hs

/-- Each file is listed once. -/
theorem WellFormed.nodup (h : t.WellFormed) : (files [] t).Nodup := by
  induction h with
  | file bytes => simp [files]
  | directory names _ _ ih =>
    rw [files, filesOf_eq_flatMap, List.nodup_flatMap]
    refine ⟨fun e he => (ih e he).map fun _ _ h => (List.cons.inj h).2, ?_⟩
    -- Files below different entries differ in their first segment.
    refine (List.pairwise_map.mp names).imp fun {a b} hab => ?_
    refine List.disjoint_left.mpr fun segments ha hb => ?_
    obtain ⟨_, _, rfl⟩ := List.mem_map.mp ha
    obtain ⟨_, _, h⟩ := List.mem_map.mp hb
    exact hab (List.cons.inj h).1.symm

/-! ## Following segments -/

/-- Whatever segments lead to in a well-formed tree is well-formed. -/
theorem WellFormed.follow {above : List FileTree} {found : FileTree} (h : t.WellFormed)
    (habove : ∀ outer ∈ above, outer.WellFormed)
    (hfound : FileTree.follow above t segments = .ok found) : found.WellFormed := by
  -- Going up leads to one of the directories above, which are well-formed, too.
  induction segments generalizing above t with
  | nil =>
    obtain rfl : t = found := by simpa [FileTree.follow] using hfound
    exact h
  | cons s rest ih =>
    cases h with
    | file bytes => simp [FileTree.follow] at hfound
    | directory names segs inner =>
      have hdir := WellFormed.directory names segs inner
      rw [FileTree.follow.eq_def] at hfound
      simp only at hfound
      split at hfound
      · cases above with
        | nil => exact ih hdir (by simp) hfound
        | cons outer above =>
          exact ih (habove outer List.mem_cons_self)
            (fun t ht => habove t (List.mem_cons_of_mem _ ht)) hfound
      · split at hfound
        · rename_i next hnext
          refine ih (inner _ (Table.mem_of_find? hnext)) (fun t ht => ?_) hfound
          rcases List.mem_cons.mp ht with rfl | ht
          · exact hdir
          · exact habove t ht
        · simp at hfound

end FileTree

namespace FileSystem

variable {fs : FileSystem} {p : Path}

/-- What stands at a path of a well-formed tree is well-formed. -/
theorem wellFormed_of_at? {t : FileTree} (h : fs.tree.WellFormed) (ht : fs.at? p = some t) :
    t.WellFormed := by
  rw [at?, FileTree.at?] at ht
  cases hfound : FileTree.follow [] fs.tree (fs.segmentsOf p) with
  | error e => simp [hfound, Except.toOption] at ht
  | ok found =>
    obtain rfl : found = t := by simpa [hfound, Except.toOption] using ht
    exact h.follow (by simp) hfound

/-- The files below a path are those of a tree: none, or the tree that stands there. -/
theorem filesBelow_eq (h : fs.tree.WellFormed) :
    fs.filesBelow p = [] ∨ ∃ t : FileTree, t.WellFormed ∧ fs.filesBelow p = FileTree.files [] t := by
  rw [filesBelow]
  split
  · rename_i es hes
    exact .inr ⟨_, wellFormed_of_at? h hes, by rw [FileTree.files]⟩
  · exact .inl rfl

/-- Each file below a path is listed once. -/
theorem nodup_filesBelow (h : fs.tree.WellFormed) : (fs.filesBelow p).Nodup := by
  rcases filesBelow_eq (p := p) h with hnil | ⟨t, ht, heq⟩
  · rw [hnil]
    exact List.nodup_nil
  · rw [heq]
    exact ht.nodup

/-- The files below a path are listed under segments. -/
theorem isSegment_of_mem_filesBelow (h : fs.tree.WellFormed) {segments : List String}
    (hmem : segments ∈ fs.filesBelow p) : ∀ s ∈ segments, Path.IsSegment s := by
  rcases filesBelow_eq (p := p) h with hnil | ⟨t, ht, heq⟩
  · simp [hnil] at hmem
  · exact ht.isSegment segments (heq ▸ hmem)

end FileSystem

end Specifiers
