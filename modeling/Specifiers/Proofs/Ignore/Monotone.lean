import Specifiers.Proofs.Ignore.Filter
import Specifiers.Proofs.Ignore.Rules

/-!
# Filters with more patterns

Whether a path is ignored is decided by four lists: what is to be kept, what is to be excluded, what every
project excludes, and what the project's own file says. A filter that is laxer than another in each of
these lists ignores no more than it (`IsLaxer.ignores`). From this the effect of a further pattern is read
off list by list. The project's own file can only add to what is ignored without it, since a negation in
it frees nothing that the other lists select.
-/

namespace Specifiers

namespace Ignore

namespace Filter

/-- One filter is laxer than another of the same root when it keeps at least as much, and each of its
other lists selects at most as much. -/
structure IsLaxer (lax strict : Filter) : Prop where
  root : lax.root = strict.root
  included : ∀ path, strict.included.selects path = true → lax.included.selects path = true
  excluded : ∀ path, lax.excluded.selects path = true → strict.excluded.selects path = true
  standard : ∀ path, lax.standard.selects path = true → strict.standard.selects path = true
  own : ∀ path, lax.own.any (·.selects path) = true → strict.own.any (·.selects path) = true

variable {lax strict : Filter}

theorem ignoresRelative_iff {f : Filter} {path : String} :
    f.ignoresRelative path = true ↔ ¬f.included.selects path = true ∧
      (f.excluded.selects path = true ∨ f.standard.selects path = true ∨
        f.own.any (·.selects path) = true) := by
  simp [ignoresRelative, or_assoc]

theorem IsLaxer.ignoresRelative (h : lax.IsLaxer strict) {path : String}
    (ignored : lax.ignoresRelative path = true) : strict.ignoresRelative path = true := by
  rw [ignoresRelative_iff] at ignored ⊢
  obtain ⟨hkept, hlists⟩ := ignored
  refine ⟨fun hselects => hkept (h.included path hselects), ?_⟩
  exact hlists.imp (h.excluded path) (Or.imp (h.standard path) (h.own path))

/-- What a laxer filter ignores, a stricter one ignores. -/
theorem IsLaxer.ignores (h : lax.IsLaxer strict) {p : Path} (ignored : lax.ignores p = true) :
    strict.ignores p = true := by
  unfold Filter.ignores at ignored ⊢
  rw [← h.root]
  split
  · next habsolute =>
    rw [if_pos habsolute] at ignored
    split
    · next segments hsegments =>
      rw [hsegments] at ignored
      exact h.ignoresRelative ignored
    · rfl
  · next hrelative =>
    rw [if_neg hrelative] at ignored
    exact h.ignoresRelative ignored

/-! ## Filters that are loaded -/

variable {fs fs' : FileSystem} {root : Path} {exclude keep exclude' keep' : List String} {f f' : Filter}
  {notices notices' : List Notice}

/-- Filters of one root are compared list by list. -/
theorem isLaxer_of_load (before : load fs root exclude keep = .ok (f, notices))
    (after : load fs' root exclude' keep' = .ok (f', notices')) (excluded : SelectsAtMost exclude exclude')
    (included : SelectsAtMost keep' keep)
    (own : ∀ path, f.own.any (·.selects path) = true → f'.own.any (·.selects path) = true) :
    f.IsLaxer f' := by
  obtain ⟨hroot, hincluded, hexcluded, hstandard, -⟩ := of_load before
  obtain ⟨hroot', hincluded', hexcluded', hstandard', -⟩ := of_load after
  constructor
  case root => rw [hroot, hroot']
  case included => exact included _ _ hincluded' hincluded
  case excluded => exact excluded _ _ hexcluded hexcluded'
  case standard => exact SelectsAtMost.refl _ _ _ hstandard hstandard'
  case own => exact own

/-- The rules of a project's own file do not depend on the lists of patterns. -/
theorem own_eq_of_load (before : load fs root exclude keep = .ok (f, notices))
    (after : load fs root exclude' keep' = .ok (f', notices')) : f.own = f'.own := by
  obtain ⟨-, -, -, -, hown⟩ := of_load before
  obtain ⟨-, -, -, -, hown'⟩ := of_load after
  exact (Prod.mk.inj (Except.ok.inj (hown.symm.trans hown'))).1

/-- A project without a file of patterns has a filter without rules of its own. -/
theorem own_eq_none (absent : fs.hasEntry (root.below [fileName]) = false)
    (loaded : load fs root exclude keep = .ok (f, notices)) : f.own = none := by
  obtain ⟨-, -, -, -, hown⟩ := of_load loaded
  rw [ownRules_of_not_hasEntry absent] at hown
  exact (Prod.mk.inj (Except.ok.inj hown)).1.symm

/-- For every filter that is loaded and every path: what is ignored without a file of patterns in the
project stays ignored with any such file; a further pattern to exclude that is no negation leaves ignored
what is ignored; and a further pattern to keep that is no negation leaves kept what is kept, and ignored
what lies outside the root. -/
theorem ignores_monotone (loaded : load fs root exclude keep = .ok (f, notices)) (p : Path) :
    (fs.hasEntry (root.below [fileName]) = false → f.ignores p = true →
      ∀ fs' f' notices', load fs' root exclude keep = .ok (f', notices') → f'.ignores p = true) ∧
    (∀ pattern f' notices', ¬IsNegation pattern →
      load fs root (exclude ++ [pattern]) keep = .ok (f', notices') →
        f.ignores p = true → f'.ignores p = true) ∧
    (∀ pattern f' notices', ¬IsNegation pattern →
      load fs root exclude (keep ++ [pattern]) = .ok (f', notices') →
        (f.ignores p = false → f'.ignores p = false) ∧ (p.IsOutside root → f'.ignores p = true)) := by
  refine ⟨fun absent ignored fs' f' notices' hload => ?_, fun pattern f' notices' hpattern hload => ?_,
    fun pattern f' notices' hpattern hload => ⟨fun kept => ?_, fun outside => ?_⟩⟩
  · refine (isLaxer_of_load loaded hload (.refl _) (.refl _) fun path hselects => ?_).ignores ignored
    rw [own_eq_none absent loaded] at hselects
    exact absurd hselects Bool.false_ne_true
  · refine (isLaxer_of_load loaded hload (selectsAtMost_concat _ hpattern) (.refl _) ?_).ignores
    rw [own_eq_of_load loaded hload]
    exact fun _ h => h
  -- one more pattern that keeps makes the filter the laxer of the two, so the roles are exchanged
  · have hlaxer : f'.IsLaxer f := by
      refine isLaxer_of_load hload loaded (.refl _) (selectsAtMost_concat _ hpattern) ?_
      rw [own_eq_of_load loaded hload]
      exact fun _ h => h
    rw [← Bool.not_eq_true] at kept ⊢
    exact fun ignored => kept (hlaxer.ignores ignored)
  · rw [← (of_load hload).1] at outside
    exact ignores_of_isOutside outside

/-- In a small project that excludes one name, this name stays ignored though the project's own file has
its negation, and though another name is excluded, too; and with another name to keep, what is kept stays
kept, and what has this name outside the root is still ignored. -/
theorem ignores_monotone_small :
    let negation := FileTree.file (Utf8.encode "!a.js".toList)
    ∃ f own further kept : Filter, load (smallProject none) smallRoot ["a.js"] [] = .ok (f, []) ∧
      load (smallProject (some negation)) smallRoot ["a.js"] [] = .ok (own, []) ∧
      load (smallProject none) smallRoot (["a.js"] ++ ["b.js"]) [] = .ok (further, []) ∧
      load (smallProject none) smallRoot ["a.js"] ([] ++ ["c.js"]) = .ok (kept, []) ∧
      own.ignores (smallRoot.below ["a.js"]) = true ∧
      further.ignores (smallRoot.below ["a.js"]) = true ∧
      kept.ignores (smallRoot.below ["d.js"]) = false ∧ kept.ignores ⟨.root, ["c.js"]⟩ = true := by
  intro negation
  obtain ⟨f, hf, hignored, hkept⟩ : ∃ f, load (smallProject none) smallRoot ["a.js"] [] = .ok (f, []) ∧
      f.ignores (smallRoot.below ["a.js"]) = true ∧ f.ignores (smallRoot.below ["d.js"]) = false :=
    ⟨_, rfl, by decide +kernel, by decide +kernel⟩
  obtain ⟨own, hown⟩ : ∃ own, load (smallProject (some negation)) smallRoot ["a.js"] [] = .ok (own, []) :=
    ⟨_, rfl⟩
  obtain ⟨further, hfurther⟩ : ∃ further,
      load (smallProject none) smallRoot (["a.js"] ++ ["b.js"]) [] = .ok (further, []) := ⟨_, rfl⟩
  obtain ⟨kept, hload⟩ : ∃ kept,
      load (smallProject none) smallRoot ["a.js"] ([] ++ ["c.js"]) = .ok (kept, []) := ⟨_, rfl⟩
  have ha := ignores_monotone hf (smallRoot.below ["a.js"])
  have hd := ignores_monotone hf (smallRoot.below ["d.js"])
  have hc := ignores_monotone hf ⟨.root, ["c.js"]⟩
  exact ⟨f, own, further, kept, hf, hown, hfurther, hload, ha.1 (by decide) hignored _ _ _ hown,
    ha.2.1 _ _ _ (by decide) hfurther hignored, (hd.2.2 _ _ _ (by decide) hload).1 hkept,
    (hc.2.2 _ _ _ (by decide) hload).2 ⟨rfl, by decide⟩⟩

end Filter

end Ignore

end Specifiers
