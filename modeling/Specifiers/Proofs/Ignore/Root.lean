import Specifiers.Proofs.Ignore.Filter

/-!
# Paths below the root and beside it

A path can be given from the root or as an absolute one. From an absolute root both ways lead to the same
segments, and so to the same name for the patterns, however the path is spelled: the segments of an absolute
path are compared with those of the root one by one and taken off (`ignores_below`). So a path beside the
root is not taken for one below it when its text goes on where that of the root ends.

A path that is joined to a relative root is itself relative, and nothing is taken off it. The patterns see
it under the whole of its segments, those of the root among them, which need not be the verdict for the
path alone (`join_relative_differs`).
-/

namespace Specifiers

namespace Ignore

namespace Filter

variable {fs : FileSystem} {root : Path} {exclude keep : List String} {f : Filter}
  {notices : List Notice}

/-- A relative path is seen under its own segments. -/
theorem ignores_of_relative {p : Path} (relative : p.absolute = false) :
    f.ignores p = f.ignoresRelative (Path.relativeText p.segments) := by
  rw [ignores, relative, if_neg Bool.false_ne_true]

/-- A path is seen under the same name from a root as below it, when the root is absolute or adds no
segments. -/
theorem ignores_below_eq (hroot : f.root.absolute = true ∨ f.root.segments = []) {p : Path}
    (relative : p.absolute = false) : f.ignores (f.root.below p.segments) = f.ignores p := by
  have hname : nameBelow f.root p.segments = Path.relativeText p.segments := by
    rw [nameBelow]
    split
    · rfl
    · next habsolute =>
      have hempty : f.root.segments = [] := hroot.resolve_left habsolute
      rw [hempty, List.nil_append]
  rw [ignores_below, hname, ignores_of_relative relative]

/-- For every spelling of a relative path, the path joined to the root is ignored exactly when the relative
one is, if the root is absolute or has no segments; joined to any other root, it is matched under the
segments of the root and its own. And every absolute path that starts at another root, or whose segments do
not begin with those of the root, is ignored, whatever the patterns to keep say. -/
theorem ignores_join (loaded : load fs root exclude keep = .ok (f, notices)) :
    (∀ text, (Path.ofString text).absolute = false →
      (root.absolute = true ∨ root.segments = [] →
        f.ignores ((Path.ofString text).from' root) = f.ignores (Path.ofString text)) ∧
      (root.absolute = false →
        f.ignores ((Path.ofString text).from' root) =
          f.ignoresRelative (Path.relativeText (root.segments ++ (Path.ofString text).segments)))) ∧
    ∀ p : Path, p.absolute = true → ¬(p.anchor = root.anchor ∧ root.segments <+: p.segments) →
      f.ignores p = true := by
  -- the loaded filter's root is the one it was loaded for
  obtain ⟨rfl, -⟩ := of_load loaded
  constructor
  · intro text relative
    have hjoin : (Path.ofString text).from' f.root = f.root.below (Path.ofString text).segments := by
      rw [Path.from', relative, if_neg Bool.false_ne_true]
    rw [hjoin]
    constructor
    · intro hroot
      exact ignores_below_eq hroot relative
    · intro hrelative
      rw [ignores_below, nameBelow, if_neg (by simp [hrelative])]
  · intro p habsolute houtside
    exact ignores_of_isOutside ⟨habsolute, houtside⟩

/-- In a small project, a name to exclude and one to keep are seen alike below the root and from it,
however the path is spelled. Beside the root the name to keep is ignored, though the text of the path
begins with that of the root; so it is at the root that two slashes name. -/
theorem ignores_join_small :
    smallRoot.absolute = true ∧
      ∃ f, load (smallProject none) smallRoot ["a.js"] ["b.js"] = .ok (f, []) ∧
        f.ignores ((Path.ofString "lib/.//../a.js/").from' smallRoot) = true ∧
        f.ignores ((Path.ofString "lib/b.js").from' smallRoot) = false ∧
        f.ignores (Path.ofString "/rx/b.js") = true ∧ f.ignores (Path.ofString "//r/b.js") = true := by
  obtain ⟨f, hload, ha, hb⟩ : ∃ f, load (smallProject none) smallRoot ["a.js"] ["b.js"] = .ok (f, []) ∧
      f.ignores (Path.ofString "lib/.//../a.js/") = true ∧ f.ignores (Path.ofString "lib/b.js") = false :=
    ⟨_, rfl, by decide +kernel, by decide +kernel⟩
  obtain ⟨hjoin, houtside⟩ := ignores_join hload
  refine ⟨rfl, f, hload, ?_, ?_, ?_, ?_⟩
  · rw [(hjoin _ (by decide)).1 (.inl rfl), ha]
  · rw [(hjoin _ (by decide)).1 (.inl rfl), hb]
  · exact houtside _ (by decide) (by decide)
  · exact houtside _ (by decide) (by decide)

/-- A pattern that is bound to the root excludes a file there, but not that file joined to a relative
root. -/
theorem join_relative_differs :
    ¬∀ (fs : FileSystem) (root : Path) (exclude keep : List String) (f : Filter) (notices : List Notice),
      load fs root exclude keep = .ok (f, notices) → ∀ text, (Path.ofString text).absolute = false →
        f.ignores ((Path.ofString text).from' root) = f.ignores (Path.ofString text) := by
  intro h
  obtain ⟨f, hload, hjoined, halone⟩ :
      ∃ f, load (smallProject none) (Path.ofString "sub") ["/a.js"] [] = .ok (f, []) ∧
        f.ignores ((Path.ofString "a.js").from' (Path.ofString "sub")) = false ∧
        f.ignores (Path.ofString "a.js") = true :=
    ⟨_, rfl, by decide +kernel, by decide +kernel⟩
  have heq := h _ _ _ _ f [] hload "a.js" (by decide)
  rw [hjoined, halone] at heq
  cases heq

end Filter

end Ignore

end Specifiers
