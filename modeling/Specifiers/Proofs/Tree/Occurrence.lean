import Mathlib.Data.List.Lex
import Mathlib.Data.List.Nodup
import Specifiers.Proofs.Tree.Preorder

/-!
# The places of the nodes of a tree

A node can stand at several places of a tree. A place is a list of numbers: for each step down that of a
field, and that of an item of the field, which is zero for a field that is itself the node (`Occurs`).
`occurrences` lists the nodes together with their places. The nodes are those of the pre-order, the places
stand in strictly increasing order, which is the order of the document, and every place at which a node
stands is there: so the pre-order, and with it the walk, comes by each occurrence of a node exactly once.
-/

namespace Specifiers

namespace Tree

variable {t child u : Tree} {i j : Nat} {place : List Nat}

/-! ## Children in their places -/

/-- A child of a tree is a field that is a node, or an item of a list field that is a node. -/
inductive ChildAt (t : Tree) : Nat → Nat → Tree → Prop
  | field {i : Nat} {name : String} {child : Tree} (field : t.fields[i]? = some (name, child))
      (node : child.isNode) : ChildAt t i 0 child
  | item {i j : Nat} {name : String} {items : List Tree} {child : Tree}
      (field : t.fields[i]? = some (name, list items)) (item : items[j]? = some child)
      (node : child.isNode) : ChildAt t i j child

/-- A node stands at a place below a tree when every step on the way leads from a node to a child. -/
inductive Occurs : Tree → List Nat → Tree → Prop
  | here {t : Tree} (node : t.isNode) : Occurs t [] t
  | step {t child u : Tree} {i j : Nat} {place : List Nat} (node : t.isNode)
      (first : ChildAt t i j child) (rest : Occurs child place u) : Occurs t (i :: j :: place) u

/-- What a field offers: the items of a list, or itself. -/
def offered : Tree → List Tree
  | list items => items
  | t => [t]

/-- The children of a tree in their places. -/
def placedChildren (t : Tree) : List ((Nat × Nat) × Tree) :=
  t.fields.zipIdx.flatMap fun f =>
    (f.1.2.offered.zipIdx.filter (·.1.isNode)).map fun c => ((f.2, c.2), c.1)

/-- Of the trees that a field offers the nodes are children. -/
theorem nodesOfField_eq_filter (t : Tree) : t.nodesOfField = t.offered.filter isNode := by
  cases t <;> simp [nodesOfField, offered, List.filter_singleton]

/-- Without their places these are the children. -/
theorem map_snd_placedChildren (t : Tree) : t.placedChildren.map (·.2) = t.children := by
  have hoffered (v : Tree) : (v.offered.zipIdx.filter (·.1.isNode)).map (·.1) = v.nodesOfField := by
    conv_rhs => rw [nodesOfField_eq_filter, ← List.zipIdx_map_fst 0 v.offered, List.filter_map]
    rfl
  rw [placedChildren, children, List.map_flatMap]
  conv_rhs => rw [← List.zipIdx_map_fst 0 t.fields, List.flatMap_map]
  refine congrArg (List.flatMap · _) (funext fun f => ?_)
  rw [List.map_map, ← hoffered]
  rfl

/-- A child stands in a field, at a place among the trees that the field offers. -/
theorem childAt_iff : ChildAt t i j child ↔
    ∃ name v, t.fields[i]? = some (name, v) ∧ v.offered[j]? = some child ∧ child.isNode := by
  constructor
  · rintro (⟨field, node⟩ | ⟨field, item, node⟩)
    · refine ⟨_, _, field, ?_, node⟩
      cases child with
      | list items => simp [isNode, kind?, Tree.field, fields, text?] at node
      | _ => rfl
    · exact ⟨_, _, field, item, node⟩
  · rintro ⟨name, v, field, item, node⟩
    cases v with
    | list items => exact .item field item node
    | _ =>
      obtain ⟨rfl, rfl⟩ : j = 0 ∧ _ = child := by simpa [offered, List.getElem?_singleton] using item
      exact .field field node

/-- The children are found with their places. -/
theorem mem_placedChildren_iff : ((i, j), child) ∈ t.placedChildren ↔ ChildAt t i j child := by
  rw [childAt_iff]
  simp only [placedChildren, List.mem_flatMap, List.mem_map, List.mem_filter, Prod.exists,
    List.mk_mem_zipIdx_iff_getElem?, Prod.mk.injEq]
  constructor
  · rintro ⟨name, v, i', hfield, child', j', ⟨hitem, hnode⟩, ⟨rfl, rfl⟩, rfl⟩
    exact ⟨name, v, hfield, hitem, hnode⟩
  · rintro ⟨name, v, hfield, hitem, hnode⟩
    exact ⟨name, v, i, hfield, child, j, ⟨hitem, hnode⟩, ⟨rfl, rfl⟩, rfl⟩

/-- Children stand in the order of their places. -/
theorem pairwise_placedChildren (t : Tree) : t.placedChildren.Pairwise fun a b =>
    a.1.1 < b.1.1 ∨ a.1.1 = b.1.1 ∧ a.1.2 < b.1.2 := by
  have hindices {α : Type} (l : List α) : l.zipIdx.Pairwise fun a b => a.2 < b.2 := by
    rw [← List.pairwise_map (f := Prod.snd), List.zipIdx_map_snd]
    exact List.pairwise_lt_range'
  rw [placedChildren, List.pairwise_flatMap]
  refine ⟨fun f _ => ?_, (hindices t.fields).imp fun {f g} hfg a ha b hb => ?_⟩
  · rw [List.pairwise_map]
    exact ((hindices _).filter _).imp fun hlt => .inr ⟨rfl, hlt⟩
  · obtain ⟨c, -, rfl⟩ := List.mem_map.mp ha
    obtain ⟨d, -, rfl⟩ := List.mem_map.mp hb
    exact .inl hfg

/-! ## Occurrences -/

/-- A child weighs less than the tree. -/
theorem weight_lt_of_mem_placedChildren {c : (Nat × Nat) × Tree} (h : c ∈ t.placedChildren) :
    weight c.2 < weight t := by
  have hchild : c.2 ∈ t.children := map_snd_placedChildren t ▸ List.mem_map_of_mem h
  obtain ⟨before, after, hsplit⟩ := List.append_of_mem hchild
  have hchildren := weightItems_children_lt t
  rw [hsplit, weightItems_append, weightItems] at hchildren
  omega

/-- The nodes at and below a tree with their places; none when it is no node. -/
def occurrences (t : Tree) : List (List Nat × Tree) :=
  if t.isNode then
    ([], t) :: t.placedChildren.attach.flatMap fun c =>
      (occurrences c.1.2).map fun o => (c.1.1.1 :: c.1.1.2 :: o.1, o.2)
  else []
termination_by weight t
decreasing_by exact weight_lt_of_mem_placedChildren c.2

/-- In what is no node no node occurs. -/
theorem occurrences_eq_nil (h : t.isNode = false) : t.occurrences = [] := by
  rw [occurrences, if_neg (by simp [h])]

/-- First comes the node itself, and then what stands below each of its children. -/
theorem occurrences_eq_cons (h : t.isNode) :
    t.occurrences = ([], t) :: t.placedChildren.flatMap fun c =>
      c.2.occurrences.map fun o => (c.1.1 :: c.1.2 :: o.1, o.2) := by
  rw [occurrences, if_pos h]
  conv_rhs => rw [← List.attach_map_subtype_val t.placedChildren, List.flatMap_map]

/-- What holds of a tree whenever it holds of its children holds of every tree. -/
theorem induction_on_children {motive : Tree → Prop}
    (step : ∀ t, (∀ c ∈ t.placedChildren, motive c.2) → motive t) (t : Tree) : motive t := by
  induction hn : weight t using Nat.strongRecOn generalizing t with
  | ind n ih =>
    subst hn
    exact step t fun c hc => ih _ (weight_lt_of_mem_placedChildren hc) c.2 rfl

/-- Without their places the occurrences are the pre-order. -/
theorem map_snd_occurrences (t : Tree) : t.occurrences.map (·.2) = t.preorder := by
  induction t using induction_on_children with
  | step t ih =>
    by_cases h : t.isNode
    · rw [occurrences_eq_cons h, preorder_eq_cons h, ← map_snd_placedChildren, List.map_cons,
        List.map_flatMap, List.flatMap_map]
      refine congrArg (t :: ·) (List.flatMap_congr fun c hc => ?_)
      rw [List.map_map, ← ih c hc]
      rfl
    · rw [Bool.not_eq_true] at h
      rw [occurrences_eq_nil h, preorder_eq_nil h]
      rfl

/-- The places stand in the order of the document, and none of them stands twice. -/
theorem pairwise_occurrences (t : Tree) : (t.occurrences.map (·.1)).Pairwise (· < ·) := by
  induction t using induction_on_children with
  | step t ih =>
    by_cases h : t.isNode
    · rw [List.pairwise_map, occurrences_eq_cons h, List.pairwise_cons, List.pairwise_flatMap]
      refine ⟨fun p hp => ?_, fun c hc => ?_, (pairwise_placedChildren t).imp fun {a b} hab p hp q hq => ?_⟩
      · obtain ⟨c, -, hp⟩ := List.mem_flatMap.mp hp
        obtain ⟨o, -, rfl⟩ := List.mem_map.mp hp
        exact List.nil_lt_cons _ _
      · -- Below one child all places start alike.
        have hc := ih c hc
        rw [List.pairwise_map] at hc ⊢
        exact hc.imp fun hlt => by simpa [List.cons_lt_cons_iff] using hlt
      · obtain ⟨o, -, rfl⟩ := List.mem_map.mp hp
        obtain ⟨o', -, rfl⟩ := List.mem_map.mp hq
        simp only [List.cons_lt_cons_iff]
        rcases hab with hlt | ⟨heq, hlt⟩
        · exact .inl hlt
        · exact .inr ⟨heq, .inl hlt⟩
    · rw [Bool.not_eq_true] at h
      rw [occurrences_eq_nil h]
      exact List.Pairwise.nil

/-- The places that are listed are those at which nodes stand. -/
theorem mem_occurrences_iff : (place, u) ∈ t.occurrences ↔ Occurs t place u := by
  constructor
  · intro hmem
    induction t using induction_on_children generalizing place u with
    | step t ih =>
      -- a tree that is no node has no occurrences at all, so there is nothing to descend into
      by_cases h : t.isNode
      · rw [occurrences_eq_cons h] at hmem
        rcases List.mem_cons.mp hmem with heq | hmem
        · obtain ⟨rfl, rfl⟩ := Prod.mk.inj heq
          exact .here h
        · obtain ⟨c, hc, hmem⟩ := List.mem_flatMap.mp hmem
          obtain ⟨o, ho, heq⟩ := List.mem_map.mp hmem
          obtain ⟨rfl, rfl⟩ := Prod.mk.inj heq
          exact .step h (mem_placedChildren_iff.mp hc) (ih c hc ho)
      · rw [Bool.not_eq_true] at h
        rw [occurrences_eq_nil h] at hmem
        exact absurd hmem List.not_mem_nil
  · intro h
    induction h with
    | here node =>
      rw [occurrences_eq_cons node]
      exact List.mem_cons_self
    | step node first _ ih =>
      rw [occurrences_eq_cons node]
      refine List.mem_cons_of_mem _ (List.mem_flatMap.mpr ⟨_, mem_placedChildren_iff.mpr first, ?_⟩)
      exact List.mem_map.mpr ⟨_, ih, rfl⟩

end Tree

end Specifiers
