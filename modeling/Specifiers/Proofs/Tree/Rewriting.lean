import Mathlib.Data.List.Forall2
import Specifiers.Proofs.Table
import Specifiers.Proofs.Tree.Occurrence

/-!
# Trees that are rewritten field by field

A tree can be rewritten at all depths at once: nodes get extra fields, and the fields of objects come in
another order, while lists keep the order of their items (`Rewritten`). Which fields can be added and
whether the order is kept are parameters. A field that is not added is found under its name as before,
and rewritten itself. Where the added fields give a node no children, the nodes of a tree correspond to
those of the rewritten one, in the same order when the order of fields is kept, and otherwise in some
order (`Rewritten.preorder`).
-/

namespace Specifiers

namespace Tree

/-! ## Orders -/

/-- Whether the order of fields is kept. -/
inductive FieldOrder
  | kept
  | any

namespace FieldOrder

variable {α β : Type} {o : FieldOrder} {xs ys zs : List α}

/-- Are the lists the same, but for the order where this is not kept? -/
def Relates : FieldOrder → List α → List α → Prop
  | kept => Eq
  | any => List.Perm

/-- In either order the items are the same. -/
theorem Relates.perm (h : o.Relates xs ys) : xs.Perm ys := by
  cases o with
  | kept => exact .of_eq h
  | any => exact h

theorem Relates.refl (xs : List α) : o.Relates xs xs := by
  cases o with
  | kept => exact Eq.refl xs
  | any => exact .refl xs

theorem Relates.trans (h : o.Relates xs ys) (h' : o.Relates ys zs) : o.Relates xs zs := by
  cases o with
  | kept => exact Eq.trans h h'
  | any => exact List.Perm.trans h h'

/-- Lists that are the same but for the order stay so when such lists are appended. -/
theorem Relates.append {xs' ys' : List α} (h : o.Relates xs ys) (h' : o.Relates xs' ys') :
    o.Relates (xs ++ xs') (ys ++ ys') := by
  cases o with
  | kept => exact congrArg₂ _ h h'
  | any => exact List.Perm.append h h'

/-- They stay so when each item is replaced by a list. -/
theorem Relates.flatMap (h : o.Relates xs ys) (f : α → List β) :
    o.Relates (xs.flatMap f) (ys.flatMap f) := by
  cases o with
  | kept => exact congrArg _ h
  | any => exact List.Perm.flatMap_right f h

/-- They stay so when items are left out and replaced. -/
theorem Relates.filterMap (h : o.Relates xs ys) (f : α → Option β) :
    o.Relates (xs.filterMap f) (ys.filterMap f) := by
  cases o with
  | kept => exact congrArg _ h
  | any => exact List.Perm.filterMap f h

/-- Do the items of a list correspond to those of another one, but for the order where this is not
kept? -/
def Lifts (o : FieldOrder) (R : α → α → Prop) (xs ys : List α) : Prop :=
  ∃ mid, List.Forall₂ R xs mid ∧ o.Relates mid ys

variable {R : α → α → Prop} {S : β → β → Prop}

theorem Lifts.nil : o.Lifts R [] [] := ⟨[], .nil, .refl []⟩

/-- Correspondences are appended. -/
theorem Lifts.append {xs' ys' : List α} (h : o.Lifts R xs ys) (h' : o.Lifts R xs' ys') :
    o.Lifts R (xs ++ xs') (ys ++ ys') := by
  obtain ⟨mid, hmid, horder⟩ := h
  obtain ⟨mid', hmid', horder'⟩ := h'
  exact ⟨mid ++ mid', List.rel_append hmid hmid', horder.append horder'⟩

/-- Where items correspond and so do the lists that they are replaced by, the results do. -/
theorem Lifts.flatMap {f g : α → List β} (h : o.Lifts R xs ys)
    (hf : ∀ x ∈ xs, ∀ y, R x y → o.Lifts S (f x) (g y)) :
    o.Lifts S (xs.flatMap f) (ys.flatMap g) := by
  obtain ⟨mid, hmid, horder⟩ := h
  -- First each item is replaced where it is; the order is changed after that, by whole lists.
  have hlift : o.Lifts S (xs.flatMap f) (mid.flatMap g) := by
    clear horder
    induction hmid with
    | nil => exact .nil
    | cons first _ ih =>
      obtain ⟨hfirst, hrest⟩ := List.forall_mem_cons.mp hf
      exact (hfirst _ first).append (ih hrest)
  obtain ⟨mid', hmid', horder'⟩ := hlift
  exact ⟨mid', hmid', horder'.trans (horder.flatMap g)⟩

end FieldOrder

/-! ## Rewriting -/

/-- Fields of the same names, in order, with values that correspond; extra fields can stand between them
where fields are added. -/
inductive Extended (Extra : String → Tree → Prop) (R : Tree → Tree → Prop) :
    (adds : Bool) → List (String × Tree) → List (String × Tree) → Prop
  | nil {adds : Bool} : Extended Extra R adds [] []
  | keep {adds : Bool} {name : String} {t u : Tree} {fs gs : List (String × Tree)} (value : R t u)
      (rest : Extended Extra R adds fs gs) : Extended Extra R adds ((name, t) :: fs) ((name, u) :: gs)
  | add {name : String} {value : Tree} {fs gs : List (String × Tree)} (extra : Extra name value)
      (rest : Extended Extra R true fs gs) : Extended Extra R true fs ((name, value) :: gs)

/-- A tree is rewritten when the nodes in it have got extra fields, and the fields of its objects have
come into another order. Objects that are rewritten have different names for their fields. -/
inductive Rewritten (Extra : String → Tree → Prop) (o : FieldOrder) : Tree → Tree → Prop
  | refl (t : Tree) : Rewritten Extra o t t
  | list {ts us : List Tree} (items : List.Forall₂ (Rewritten Extra o) ts us) :
      Rewritten Extra o (list ts) (list us)
  | object {fs gs hs : List (String × Tree)}
      (fields : Extended Extra (Rewritten Extra o) (object fs).isNode fs gs)
      (names : (Table.keys gs).Nodup) (order : o.Relates gs hs) :
      Rewritten Extra o (object fs) (object hs)

section Extended

variable {Extra : String → Tree → Prop} {R : Tree → Tree → Prop} {adds : Bool}
  {fs gs : List (String × Tree)}

/-- A field that is not added is found as before. -/
theorem Extended.lookup (h : Extended Extra R adds fs gs) {name : String}
    (own : ∀ value, ¬Extra name value) (absent : R null null) :
    R ((fs.lookup name).getD null) ((gs.lookup name).getD null) := by
  induction h with
  | nil => exact absent
  | @keep _ name' t u fs gs value _ ih =>
    rw [List.lookup_cons, List.lookup_cons]
    cases name == name' with
    | true => exact value
    | false => exact ih
  | @add name' value fs gs extra _ ih =>
    have hne : name ≠ name' := fun heq => own value (heq ▸ extra)
    rwa [List.lookup_cons, beq_eq_false_iff_ne.mpr hne]

/-- There are as many fields as before, or more where fields are added. -/
theorem Extended.length (h : Extended Extra R adds fs gs) :
    gs.length = fs.length ∨ adds = true ∧ fs.length < gs.length := by
  induction h with
  | nil => exact .inl rfl
  | keep _ _ ih => exact ih.imp (congrArg (· + 1)) (And.imp_right Nat.succ_lt_succ)
  | add _ _ ih =>
    refine .inr ⟨rfl, ?_⟩
    rw [List.length_cons, Nat.lt_succ_iff]
    exact ih.elim Eq.ge fun h => h.2.le

/-- The nodes that the fields contribute correspond when the added ones contribute none. -/
theorem Extended.flatMap_nodesOfField (h : Extended Extra R adds fs gs)
    (value : ∀ t u, R t u → List.Forall₂ R t.nodesOfField u.nodesOfField)
    (extra : ∀ name value, Extra name value → value.nodesOfField = []) :
    List.Forall₂ R (fs.flatMap fun f => f.2.nodesOfField) (gs.flatMap fun g => g.2.nodesOfField) := by
  induction h with
  | nil => exact .nil
  | keep hvalue _ ih => exact List.rel_append (value _ _ hvalue) ih
  | add hextra _ ih => rwa [List.flatMap_cons, extra _ _ hextra, List.nil_append]

end Extended

namespace Rewritten

variable {Extra : String → Tree → Prop} {o : FieldOrder} {t u : Tree}

/-! ## What a rewritten tree is seen to be -/

/-- Rewriting leaves texts as they are. -/
theorem text?_eq (h : Rewritten Extra o t u) : u.text? = t.text? := by
  cases h <;> rfl

/-- A field that is not added is rewritten. -/
theorem field (h : Rewritten Extra o t u) {name : String} (own : ∀ value, ¬Extra name value) :
    Rewritten Extra o (t.field name) (u.field name) := by
  cases h with
  | refl => exact .refl _
  | list => exact .refl _
  | object fields names order =>
    -- The first field of a name is the only one after rewriting, so the order has no part in it.
    have hfield := fields.lookup own (.refl null)
    have hlookup := Table.find?_of_perm order.perm names name
    unfold Table.find? at hlookup
    rwa [← hlookup] at hfield

/-- An object that is rewritten has as many fields as before, or more when it is a node. -/
theorem length_fields {fs hs : List (String × Tree)} (h : Rewritten Extra o (.object fs) (.object hs)) :
    hs.length = fs.length ∨ 0 < fs.length ∧ fs.length < hs.length := by
  cases h with
  | refl => exact .inl rfl
  | object fields names order =>
    rw [← order.perm.length_eq]
    refine fields.length.imp_right fun ⟨hnode, hlt⟩ => ⟨?_, hlt⟩
    -- A node has a field.
    rw [List.length_pos_iff]
    rintro rfl
    cases hnode

/-- An object is as true as before: it gets fields only if it has some. -/
theorem holds_eq (h : Rewritten Extra o t u) : u.holds = t.holds := by
  cases h with
  | refl => rfl
  | list items => cases items <;> rfl
  | object fields names order =>
    have hlength := (Rewritten.object fields names order).length_fields
    rw [holds, holds, Bool.not_inj_iff, Bool.eq_iff_iff, List.isEmpty_iff_length_eq_zero,
      List.isEmpty_iff_length_eq_zero]
    omega

section Kind

variable (h : Rewritten Extra o t u) (own : ∀ value, ¬Extra "type" value)

include h own

/-- A field that is not added tells the kind, so it stays. -/
theorem kind?_eq : u.kind? = t.kind? := (h.field own).text?_eq

/-- So a tree is a node if it was one. -/
theorem isNode_eq : u.isNode = t.isNode := congrArg Option.isSome (h.kind?_eq own)

end Kind

/-! ## The nodes of a rewritten tree -/

/-- Added fields that give a node no children, and leave it its kind. -/
def Unseen (Extra : String → Tree → Prop) : Prop :=
  ∀ name value, Extra name value → name ≠ "type" ∧ value.nodesOfField = []

/-- The kind is none of the fields that are added. -/
theorem Unseen.own (unseen : Unseen Extra) (value : Tree) : ¬Extra "type" value :=
  fun h => (unseen _ _ h).1 rfl

/-- What a field offers as children corresponds, one by one. -/
theorem offered (h : Rewritten Extra o t u) :
    List.Forall₂ (Rewritten Extra o) t.offered u.offered := by
  cases h with
  | refl => exact List.forall₂_same.mpr fun _ _ => .refl _
  | list items => exact items
  | object fields names order => exact .cons (.object fields names order) .nil

/-- Of what is offered the nodes correspond. -/
theorem nodesOfField (h : Rewritten Extra o t u) (unseen : Unseen Extra) :
    List.Forall₂ (Rewritten Extra o) t.nodesOfField u.nodesOfField := by
  rw [nodesOfField_eq_filter, nodesOfField_eq_filter]
  refine List.rel_filter (fun a b hab => ?_) h.offered
  show a.isNode = true ↔ b.isNode = true
  rw [hab.isNode_eq unseen.own]

/-- The children of a node correspond, in another order if that of the fields is not kept. -/
theorem children (h : Rewritten Extra o t u) (unseen : Unseen Extra) :
    o.Lifts (Rewritten Extra o) t.children u.children := by
  cases h with
  | refl => exact ⟨_, List.forall₂_same.mpr fun _ _ => .refl _, .refl _⟩
  | list => exact .nil
  | object fields names order =>
    exact ⟨_, fields.flatMap_nodesOfField (fun _ _ h => h.nodesOfField unseen)
      fun _ _ h => (unseen _ _ h).2, order.flatMap _⟩

/-- The nodes of a tree correspond to those of the rewritten one. -/
theorem preorder (h : Rewritten Extra o t u) (unseen : Unseen Extra) :
    o.Lifts (Rewritten Extra o) t.preorder u.preorder := by
  -- The children of a node correspond first, and by induction what is below each pair of them. So an
  -- order of fields that is not kept permutes whole blocks of nodes, at each depth anew.
  induction t using induction_on_children generalizing u with
  | step t ih =>
    by_cases hnode : t.isNode
    · rw [preorder_eq_cons hnode, preorder_eq_cons (h.isNode_eq unseen.own ▸ hnode)]
      have hbelow : o.Lifts (Rewritten Extra o) (t.children.flatMap Tree.preorder)
          (u.children.flatMap Tree.preorder) := by
        refine (h.children unseen).flatMap fun child hchild v hv => ?_
        rw [← map_snd_placedChildren] at hchild
        obtain ⟨c, hc, rfl⟩ := List.mem_map.mp hchild
        exact ih c hc hv
      have hroot : o.Lifts (Rewritten Extra o) [t] [u] := ⟨[u], .cons h .nil, .refl _⟩
      exact hroot.append hbelow
    · rw [Bool.not_eq_true] at hnode
      rw [preorder_eq_nil hnode, preorder_eq_nil ((h.isNode_eq unseen.own).trans hnode)]
      exact .nil

end Rewritten

end Tree

end Specifiers
