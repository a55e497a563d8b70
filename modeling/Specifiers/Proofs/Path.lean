import Specifiers.Path
import Specifiers.Proofs.Text.Split

/-!
# Paths

The names of a directory's entries are segments: they are not empty, have no slash in them and are not
made of dots that a path leaves out or goes up by. The text of segments reads back as those segments, so
different segments have different texts. A resolved path leads downwards only, from the root.
-/

namespace Specifiers

namespace Path

/-- Can the text be the name of an entry of a directory? -/
structure IsSegment (s : String) : Prop where
  nonempty : s ≠ ""
  noDot : s ≠ "."
  noDots : s ≠ ".."
  noSlash : '/' ∉ s.toList

instance (s : String) : Decidable (IsSegment s) :=
  decidable_of_iff (s ≠ "" ∧ s ≠ "." ∧ s ≠ ".." ∧ '/' ∉ s.toList)
    ⟨fun ⟨a, b, c, d⟩ => ⟨a, b, c, d⟩, fun ⟨a, b, c, d⟩ => ⟨a, b, c, d⟩⟩

variable {a b : List String}

/-- Between its slashes the text of segments has those segments. -/
theorem pieces_relativeText (nonempty : a ≠ []) (h : ∀ s ∈ a, '/' ∉ s.toList) :
    Split.pieces '/' (relativeText a).toList = a.map String.toList := by
  have hempty : a.isEmpty = false := by simpa using nonempty
  rw [relativeText, hempty, if_neg Bool.false_ne_true, String.toList_intercalate]
  refine Split.pieces_intercalate (by simpa using nonempty) fun text m => ?_
  obtain ⟨s, hs, rfl⟩ := List.mem_map.mp m
  exact h s hs

/-- The text of segments reads back as those segments. -/
theorem segmentsOf_relativeText (h : ∀ s ∈ a, IsSegment s) :
    segmentsOf (relativeText a).toList = a := by
  by_cases ha : a = []
  · subst ha
    rfl
  · -- No segment is among the pieces that a path leaves out.
    have hkept : (a.map String.toList).filter (fun piece => piece != [] && piece != ['.']) =
        a.map String.toList := by
      refine List.filter_eq_self.mpr fun text m => ?_
      obtain ⟨s, hs, rfl⟩ := List.mem_map.mp m
      have hnil : s.toList ≠ [] := fun e => (h s hs).nonempty (String.toList_injective e)
      have hdot : s.toList ≠ ['.'] := fun e => (h s hs).noDot (String.toList_injective e)
      simp [hnil, hdot]
    rw [segmentsOf, pieces_relativeText ha fun s hs => (h s hs).noSlash, hkept, List.map_map]
    simp

/-- Different segments have different texts. -/
theorem eq_of_relativeText_eq (ha : ∀ s ∈ a, IsSegment s) (hb : ∀ s ∈ b, IsSegment s)
    (h : relativeText a = relativeText b) : a = b := by
  rw [← segmentsOf_relativeText ha, h, segmentsOf_relativeText hb]

/-- The segments of a path stand between the slashes of its text, and are not empty. -/
theorem mem_pieces_of_mem_segmentsOf {cs : List Char} {s : String} (h : s ∈ segmentsOf cs) :
    s.toList ≠ [] ∧ s.toList ∈ Split.pieces '/' cs := by
  obtain ⟨piece, hpiece, rfl⟩ := List.mem_map.mp h
  rw [List.mem_filter, Bool.and_eq_true, bne_iff_ne] at hpiece
  rw [String.toList_ofList]
  exact ⟨hpiece.2.1, hpiece.1⟩

/-! ## Further segments -/

/-- Further segments do not move the start of a path. -/
@[simp]
theorem absolute_below (p : Path) (segments : List String) :
    (p.below segments).absolute = p.absolute := rfl

/-- The last list comes after one more separator. -/
theorem intercalate_concat {α : Type} (sep last : List α) {xs : List (List α)} (h : xs ≠ []) :
    List.intercalate sep (xs ++ [last]) = List.intercalate sep xs ++ sep ++ last := by
  induction xs with
  | nil => exact absurd rfl h
  | cons x xs ih =>
    cases xs with
    | nil => simp [List.intercalate]
    | cons y xs =>
      have hrest : List.intercalate sep (x :: (y :: xs ++ [last])) =
          x ++ sep ++ List.intercalate sep (y :: xs ++ [last]) := by simp [List.intercalate]
      rw [List.cons_append, hrest, ih (by simp)]
      simp [List.intercalate]

/-- A further segment follows after a slash. -/
theorem toList_text_below {p : Path} (h : p.segments ≠ []) (name : String) :
    (p.below [name]).text.toList = p.text.toList ++ '/' :: name.toList := by
  have hne : p.segments.isEmpty = false := by simpa using h
  have hconcat : ("/".intercalate (p.segments ++ [name])).toList =
      ("/".intercalate p.segments).toList ++ '/' :: name.toList := by
    rw [String.toList_intercalate, String.toList_intercalate, List.map_append, List.map_cons,
      List.map_nil, intercalate_concat _ _ (by simpa using h), List.append_assoc]
    rfl
  rw [text, text, absolute_below]
  split
  · rw [below, String.toList_append, String.toList_append, hconcat, List.append_assoc]
  · rw [relativeText, relativeText, below, hne, if_neg (by simp), if_neg Bool.false_ne_true, hconcat]

/-- The text of a path ends with its last segment. -/
theorem suffix_text_below (p : Path) (name : String) :
    name.toList <:+ (p.below [name]).text.toList := by
  by_cases h : p.segments = []
  · have hname : "/".intercalate [name] = name := by simp
    unfold text below
    rw [h, List.nil_append, hname]
    split
    · rw [String.toList_append]
      exact List.suffix_append _ _
    · have htext : relativeText [name] = name := by rw [relativeText, if_neg (by simp), hname]
      exact ⟨[], by rw [htext, List.nil_append]⟩
  · rw [toList_text_below h]
    exact (List.suffix_cons _ _).trans (List.suffix_append _ _)

/-- What lies below a path is seen from it under its own segments. -/
theorem relativeTo?_below (p : Path) (segments : List String) :
    (p.below segments).relativeTo? p = some segments := by
  simp [relativeTo?, below]

/-- Does a path lie outside a directory? Only an absolute path does: it starts at another root, or its
segments do not begin with those of the directory; they are compared as a whole. -/
def IsOutside (p root : Path) : Prop :=
  p.absolute = true ∧ ¬(p.anchor = root.anchor ∧ root.segments <+: p.segments)

/-- What lies outside a directory is not seen from it. -/
theorem relativeTo?_of_isOutside {p root : Path} (h : p.IsOutside root) :
    p.relativeTo? root = none := by
  rw [relativeTo?, if_neg]
  rw [Bool.and_eq_true, beq_iff_eq, List.isPrefixOf_iff_prefix]
  exact h.2

/-- A path below another one has its own name. -/
theorem name_below (p : Path) {segments : List String} (h : segments ≠ []) :
    (p.below segments).name = segments.getLast?.getD "" := by
  unfold name below
  rw [List.getLast?_append, List.getLast?_eq_some_getLast h, Option.some_or]

/-! ## Suffixes -/

/-- The suffix of a name is its last dot with what follows, if something stands before the dot and after
it; without such a dot the name has no suffix. -/
inductive IsSuffix (name : String) : String → Prop
  | dot {stem rest : List Char} (split : name.toList = stem ++ '.' :: rest) (last : '.' ∉ rest)
      (before : stem ≠ []) (after : rest ≠ []) : IsSuffix name (String.ofList ('.' :: rest))
  | bare (none : ∀ stem rest, name.toList = stem ++ '.' :: rest → '.' ∉ rest → stem = [] ∨ rest = []) :
      IsSuffix name ""

/-- The suffix of a name is from its last dot on, unless the dot is at its start or at its end. -/
theorem isSuffix_iff {name suffix : String} : IsSuffix name suffix ↔ suffixOf name = suffix := by
  unfold suffixOf
  constructor
  · rintro (⟨split, last, before, after⟩ | none)
    · rw [Split.atLast?_eq_some_iff.mpr ⟨split, last⟩]
      simp [before, after]
    · split
      · next hsplit =>
        obtain ⟨hname, hlast⟩ := Split.atLast?_eq_some_iff.mp hsplit
        -- a dot at either end makes no suffix
        rcases none _ _ hname hlast with rfl | rfl <;> simp
      · rfl
  · rintro rfl
    cases hsplit : Split.atLast? '.' name.toList with
    | none =>
      refine .bare fun stem rest hname hlast => ?_
      rw [Split.atLast?_eq_some_iff.mpr ⟨hname, hlast⟩] at hsplit
      cases hsplit
    | some parts =>
      obtain ⟨stem, rest⟩ := parts
      obtain ⟨hname, hlast⟩ := Split.atLast?_eq_some_iff.mp hsplit
      dsimp only
      by_cases hbare : stem = [] ∨ rest = []
      · rw [if_pos (by simpa using hbare)]
        refine .bare fun stem' rest' hname' hlast' => ?_
        rw [Split.atLast?_eq_some_iff.mpr ⟨hname', hlast'⟩] at hsplit
        obtain ⟨rfl, rfl⟩ := Prod.mk.inj (Option.some.inj hsplit)
        exact hbare
      · rw [if_neg (by simpa using hbare)]
        exact .dot hname hlast (fun h => hbare (.inl h)) fun h => hbare (.inr h)

/-! ## Resolved paths -/

/-- When steps upwards have been taken none is left. -/
theorem dots_notMem_collapseFrom {before : List String} (h : ".." ∉ before) (segments : List String) :
    ".." ∉ collapseFrom before segments := by
  induction segments generalizing before with
  | nil => simpa [collapseFrom] using h
  | cons s rest ih =>
    rw [collapseFrom]
    split
    · exact ih fun hmem => h (List.mem_of_mem_tail hmem)
    · next hs =>
      refine ih fun hmem => ?_
      rcases List.mem_cons.mp hmem with heq | hmem
      · exact hs (by simp [heq])
      · exact h hmem

/-- A resolved path has no double dots. -/
theorem dots_notMem_resolve (p start : Path) : ".." ∉ (p.resolve start).segments :=
  dots_notMem_collapseFrom List.not_mem_nil _

/-- A path that is resolved from an absolute one is absolute. -/
theorem absolute_resolve (p : Path) {start : Path} (h : start.absolute = true) :
    (p.resolve start).absolute = true := by
  have hfull : (p.from' start).absolute = true := by
    unfold from'
    split
    · assumption
    · exact h
  simp only [resolve, hfull]
  rfl

end Path

end Specifiers
