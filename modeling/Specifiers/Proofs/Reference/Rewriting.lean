import Specifiers.Proofs.Reference
import Specifiers.Proofs.Tree.Rewriting

/-!
# References of rewritten trees

Which module a node refers to is read from a few of its fields, each by its name (`readFields`). Fields of
other names, whose values bring no nodes, are annotations: a tree with annotations has the listing that it
has without them. A tree whose fields come in another order has a listing of the same specifiers, as
often, but perhaps in another order. Both are cases of one law (`references_rewritten`). It goes node by
node: a rewritten node cites what the node cites, whenever that can be told.

It cannot always be told the other way round, since an object with one field, where a list of arguments is
expected, can be told when it has got another field.
-/

namespace Specifiers

namespace Tree.Rewritten

open Reference (sole_of_length_ne)

variable {Extra : String → Tree → Prop} {o : FieldOrder} {t u : Tree}

/-! ## Values where a list is expected -/

/-- A rewritten value has a length when it had one. -/
theorem length (h : Rewritten Extra o t u) {n : Nat} (hn : t.length = .ok n) :
    ∃ m, u.length = .ok m := by
  cases h with
  | refl => exact ⟨n, hn⟩
  | list => exact ⟨_, rfl⟩
  | object => exact ⟨_, rfl⟩

/-- An object with one field has a length, but no item. -/
theorem sole_object_ne_ok {fs : List (String × Tree)} (h : fs.length = 1) (a? : Option Tree) :
    (Tree.object fs).sole ≠ .ok a? := by
  simp [Tree.sole, Tree.length, Tree.first, h, bind, Except.bind]

/-- The sole item of a rewritten value is the rewritten item. -/
theorem sole (h : Rewritten Extra o t u) {a? : Option Tree} (ha : t.sole = .ok a?) :
    ∃ b?, u.sole = .ok b? ∧ Option.Rel (Rewritten Extra o) a? b? := by
  cases h with
  | refl =>
    refine ⟨a?, ha, ?_⟩
    cases a? with
    | none => exact .none
    | some a => exact .some (.refl a)
  | list items =>
    cases items with
    | nil =>
      obtain rfl := Except.ok.inj ha
      exact ⟨none, rfl, .none⟩
    | cons first rest =>
      cases rest with
      | nil =>
        obtain rfl := Except.ok.inj ha
        exact ⟨_, rfl, .some first⟩
      | cons _ rest =>
        rw [sole_of_length_ne rfl (by simp)] at ha
        obtain rfl := Except.ok.inj ha
        exact ⟨none, sole_of_length_ne rfl (by simp), .none⟩
  | @object fs gs hs fields names order =>
    -- an object of one entry has no first item to tell, and one of any other size has no sole item; rewriting
    -- keeps the number of entries
    by_cases hone : fs.length = 1
    · exact absurd ha (sole_object_ne_ok hone a?)
    · have hlength := (Rewritten.object fields names order).length_fields
      rw [sole_of_length_ne rfl hone] at ha
      obtain rfl := Except.ok.inj ha
      exact ⟨none, sole_of_length_ne rfl (by omega), .none⟩

end Tree.Rewritten

namespace Reference

open Specifiers.Tree (Rewritten isKind_iff)

/-! ## Annotations -/

/-- The names of the fields from which it is read what a node cites. -/
def readFields : List String :=
  ["type", "source", "callee", "arguments", "name", "computed", "object", "property", "value", "raw",
    "quasis", "expressions"]

/-- A field that is not read, and whose value is neither a node nor a list with a node in it. -/
structure IsAnnotation (name : String) (value : Tree) : Prop where
  unread : name ∉ readFields
  noNode : value.isNode = false
  noItem : ∀ item ∈ value.items, item.isNode = false

/-- Only annotations are added. -/
def Annotates (Extra : String → Tree → Prop) : Prop :=
  ∀ name value, Extra name value → IsAnnotation name value

section Rewritten

variable {Extra : String → Tree → Prop} {o : Tree.FieldOrder} {t u : Tree} {name : String}
  {adapt : Bool}

/-- An annotation brings no nodes. -/
theorem IsAnnotation.nodesOfField_eq_nil {value : Tree} (h : IsAnnotation name value) :
    value.nodesOfField = [] := by
  have hoffered : ∀ item ∈ value.offered, item.isNode = false := by
    cases value with
    | list items => exact h.noItem
    | _ => exact List.forall_mem_singleton.mpr h.noNode
  rw [Tree.nodesOfField_eq_filter, List.filter_eq_nil_iff]
  intro item hitem
  rw [hoffered item hitem]
  exact Bool.false_ne_true

/-- What annotates a node gives it no children and leaves it its kind. -/
theorem Annotates.unseen (hx : Annotates Extra) : Rewritten.Unseen Extra := by
  intro name value hextra
  have h := hx name value hextra
  refine ⟨?_, h.nodesOfField_eq_nil⟩
  rintro rfl
  exact h.unread (by decide)

variable (h : Rewritten Extra o t u) (hx : Annotates Extra)

include h hx

/-! ## One node -/

/-- A field that is read is rewritten. -/
theorem rewritten_field (read : name ∈ readFields) :
    Rewritten Extra o (t.field name) (u.field name) :=
  h.field fun value hextra => (hx name value hextra).unread read

/-- A rewritten tree is of the same kind. -/
theorem kind?_rewritten : u.kind? = t.kind? :=
  h.kind?_eq hx.unseen.own

/-- So the question for a kind has the same answer. -/
theorem isKind_rewritten (kind : String) : u.isKind kind = t.isKind kind := by
  rw [Tree.isKind, Tree.isKind, kind?_rewritten h hx]

/-- It spells the same text, if it spells one. -/
theorem stringLiteral?_rewritten : stringLiteral? u = stringLiteral? t := by
  have hvalue := rewritten_field h hx (show "value" ∈ readFields by decide)
  rw [stringLiteral?, stringLiteral?, isKind_rewritten h hx, hvalue.text?_eq]

/-- It is a certain name if it was that name. -/
theorem isIdentifier_rewritten (name : String) : isIdentifier u name = isIdentifier t name := by
  have hname := rewritten_field h hx (show "name" ∈ readFields by decide)
  rw [isIdentifier, isIdentifier, isKind_rewritten h hx, hname.text?_eq]

/-- It is a function that requires if it was one: the names are in fields of their own. -/
theorem isRequire_rewritten : isRequire u = isRequire t := by
  have hcomputed := rewritten_field h hx (show "computed" ∈ readFields by decide)
  have hobject := rewritten_field h hx (show "object" ∈ readFields by decide)
  have hproperty := rewritten_field h hx (show "property" ∈ readFields by decide)
  simp only [isRequire, isIdentifier_rewritten h hx, isKind_rewritten h hx, hcomputed.holds_eq,
    isIdentifier_rewritten hobject hx, isIdentifier_rewritten hproperty hx]

/-- It calls an import if it did. -/
theorem isImportCall_rewritten : IsImportCall u ↔ IsImportCall t := by
  have hcallee := rewritten_field h hx (show "callee" ∈ readFields by decide)
  rw [IsImportCall, IsImportCall, kind?_rewritten h hx, kind?_rewritten hcallee hx]

/-- It is an item of modules if it was one. -/
theorem isModuleItem_rewritten : IsModuleItem u ↔ IsModuleItem t := by
  rw [IsModuleItem, IsModuleItem, kind?_rewritten h hx]

/-- When the raw text of a template can be told, the rewritten template has the same. -/
theorem staticTemplate?_rewritten {s? : Option String} (hs : staticTemplate? t = .ok s?) :
    staticTemplate? u = .ok s? := by
  have hquasis := rewritten_field h hx (show "quasis" ∈ readFields by decide)
  have hexpressions := rewritten_field h hx (show "expressions" ∈ readFields by decide)
  by_cases hkind : t.kind? = some "TemplateLiteral"
  · have hkind' := (kind?_rewritten h hx).trans hkind
    cases hholds : (t.field "expressions").holds with
    | true =>
      rw [staticTemplate?_eq_length hkind hholds, map_eq_ok_iff] at hs
      obtain ⟨n, hn, rfl⟩ := hs
      obtain ⟨m, hm⟩ := hquasis.length hn
      rw [staticTemplate?_eq_length hkind' (hexpressions.holds_eq.trans hholds), hm]
      rfl
    | false =>
      rw [staticTemplate?_eq_sole hkind hholds, map_eq_ok_iff] at hs
      obtain ⟨a?, hsole, hs⟩ := hs
      obtain ⟨b?, hsole', hrel⟩ := hquasis.sole hsole
      rw [staticTemplate?_eq_sole hkind' (hexpressions.holds_eq.trans hholds), hsole', ← hs]
      cases hrel with
      | none => rfl
      | some hab =>
        have hvalue := rewritten_field hab hx (show "value" ∈ readFields by decide)
        have hraw := rewritten_field hvalue hx (show "raw" ∈ readFields by decide)
        exact congrArg Except.ok hraw.text?_eq
  · rw [staticTemplate?_of_kind?_ne hkind] at hs
    rw [staticTemplate?_of_kind?_ne (kind?_rewritten h hx ▸ hkind), hs]

/-- When the specifier of a call can be told, the rewritten call has the same. -/
theorem ofCall_rewritten {s? : Option String} (hs : ofCall t = .ok s?) : ofCall u = .ok s? := by
  have hcallee := rewritten_field h hx (show "callee" ∈ readFields by decide)
  have harguments := rewritten_field h hx (show "arguments" ∈ readFields by decide)
  rw [ofCall, isRequire_rewritten hcallee hx]
  rw [ofCall] at hs
  cases hrequire : isRequire (t.field "callee") with
  | false =>
    rw [hrequire] at hs
    exact hs
  | true =>
    rw [hrequire] at hs
    obtain ⟨a?, hsole, hs⟩ := bind_eq_ok_iff.mp hs
    obtain ⟨b?, hsole', hrel⟩ := harguments.sole hsole
    refine bind_eq_ok_iff.mpr ⟨b?, hsole', ?_⟩
    cases hrel with
    | none => exact hs
    | @some a b hab =>
      dsimp only at hs ⊢
      rw [stringLiteral?_rewritten hab hx]
      cases hliteral : stringLiteral? a with
      | none =>
        rw [hliteral] at hs
        exact staticTemplate?_rewritten hab hx hs
      | some literal =>
        rw [hliteral] at hs
        exact hs

/-- When it can be told what a node cites, the rewritten node cites the same. -/
theorem specifier_presented_rewritten {s? : Option String}
    (hs : (t.presented adapt >>= specifier?) = .ok s?) :
    (u.presented adapt >>= specifier?) = .ok s? := by
  have hsource := rewritten_field h hx (show "source" ∈ readFields by decide)
  have harguments := rewritten_field h hx (show "arguments" ∈ readFields by decide)
  -- an import call is shown as an import expression, all else as itself, in both trees alike
  by_cases hadapted : adapt = true ∧ IsImportCall t
  · have hadapted' := hadapted.imp_right (isImportCall_rewritten h hx).mpr
    rw [presented_importCall hadapted] at hs
    rw [presented_importCall hadapted']
    obtain ⟨shown, hshown, hs⟩ := bind_eq_ok_iff.mp hs
    obtain ⟨a?, hsole, rfl⟩ := map_eq_ok_iff.mp hshown
    obtain ⟨b?, hsole', hrel⟩ := harguments.sole hsole
    refine bind_eq_ok_iff.mpr ⟨_, map_eq_ok_iff.mpr ⟨b?, hsole', rfl⟩, ?_⟩
    rw [specifier?_importExpression] at hs ⊢
    cases hrel with
    | none => exact hs
    | some hab => rwa [Option.getD_some, stringLiteral?_rewritten hab hx]
  · have hadapted' : ¬(adapt = true ∧ IsImportCall u) := fun h' =>
      hadapted (h'.imp_right (isImportCall_rewritten h hx).mp)
    rw [presented_of_not hadapted] at hs
    rw [presented_of_not hadapted']
    change specifier? t = _ at hs
    change specifier? u = _
    -- of the rest, items carry their source and calls their only argument
    by_cases hitem : IsModuleItem t
    · rw [specifier?_moduleItem hitem] at hs
      rw [specifier?_moduleItem ((isModuleItem_rewritten h hx).mpr hitem),
        stringLiteral?_rewritten hsource hx, hs]
    · rw [specifier?_of_not hitem] at hs
      rw [specifier?_of_not fun h' => hitem ((isModuleItem_rewritten h hx).mp h'),
        isKind_rewritten h hx]
      split at hs
      · next hcall => rw [if_pos hcall, ofCall_rewritten h hx hs]
      · next hcall => rw [if_neg hcall, hs]

/-- It tells what it cites if it did, and cites the same. -/
theorem Tells.rewritten (htells : Tells adapt t) :
    Tells adapt u ∧ cited? adapt u = cited? adapt t := by
  obtain ⟨s?, hs⟩ := htells
  have hs' := specifier_presented_rewritten h hx hs
  refine ⟨⟨s?, hs'⟩, ?_⟩
  rw [cited?, cited?, hs, hs']

/-- It marks a module if it did. -/
theorem marks_rewritten : Marks adapt u ↔ Marks adapt t := by
  rw [Marks, Marks, isModuleItem_rewritten h hx, isImportCall_rewritten h hx]

omit h

/-! ## All nodes -/

/-- Nodes that are rewritten one by one cite the same, when it can be told what each of them cites. -/
theorem forall₂_rewritten {nodes nodes' : List Tree}
    (hnodes : List.Forall₂ (Rewritten Extra o) nodes nodes') (htells : ∀ node ∈ nodes, Tells adapt node) :
    (∀ node ∈ nodes', Tells adapt node) ∧
      nodes'.filterMap (cited? adapt) = nodes.filterMap (cited? adapt) ∧
      ((∃ node ∈ nodes', Marks adapt node) ↔ ∃ node ∈ nodes, Marks adapt node) := by
  induction hnodes with
  | nil => exact ⟨nofun, rfl, .rfl⟩
  | cons first _ ih =>
    obtain ⟨hfirst, hrest⟩ := List.forall_mem_cons.mp htells
    obtain ⟨hfirst, hcited⟩ := hfirst.rewritten first hx
    obtain ⟨hrest, hspecifiers, hmarks⟩ := ih hrest
    refine ⟨List.forall_mem_cons.mpr ⟨hfirst, hrest⟩, ?_, ?_⟩
    · rw [List.filterMap_cons, List.filterMap_cons, hcited, hspecifiers]
    · rw [List.exists_mem_cons_iff, List.exists_mem_cons_iff, marks_rewritten first hx, hmarks]

end Rewritten

end Reference

open Reference Specifiers.Tree in
/-- When a tree has a listing, the rewritten tree has one, too: it is a module for the one if it is for the
other, and the specifiers are the same, but for the order where this is not kept. -/
theorem references_rewritten {Extra : String → Tree → Prop} {o : FieldOrder} {t u : Tree}
    (h : Rewritten Extra o t u) (hx : Annotates Extra) {seed adapt : Bool} {l : Listing}
    (hl : references seed adapt t = .ok l) : ∃ l', references seed adapt u = .ok l' ∧
      l'.isModule = l.isModule ∧ o.Relates l.specifiers l'.specifiers := by
  obtain ⟨htells, hspecifiers, hmodule⟩ := references_eq_ok_iff.mp hl
  -- The nodes are rewritten one by one into `mid`, which has the nodes of `u` but for their order.
  obtain ⟨mid, hmid, horder⟩ := h.preorder hx.unseen
  obtain ⟨htells', hspecifiers', hmarks⟩ := forall₂_rewritten hx hmid htells
  obtain ⟨l', hl'⟩ : ∃ l', references seed adapt u = .ok l' :=
    exists_references_iff.mpr fun node hnode => htells' node (horder.perm.mem_iff.mpr hnode)
  obtain ⟨-, hlast, hmodule'⟩ := references_eq_ok_iff.mp hl'
  refine ⟨l', hl', ?_, ?_⟩
  · rw [Bool.eq_iff_iff, hmodule, hmodule', ← hmarks]
    simp only [horder.perm.mem_iff]
  · rw [hspecifiers, ← hspecifiers', hlast]
    exact horder.filterMap _

/-! ## Annotated and reordered trees -/

/-- A tree with annotations: at any of its nodes, at any depth, further fields stand among those that it
has, with names that no field of the node has. -/
def Tree.Annotated : Tree → Tree → Prop := Tree.Rewritten Reference.IsAnnotation .kept

/-- The same tree with the fields of its objects in another order, at every depth. Lists keep theirs. -/
def Tree.Reordered : Tree → Tree → Prop := Tree.Rewritten (fun _ _ => False) .any

/-- Annotations have no part in a listing. -/
theorem references_annotated {seed adapt : Bool} {t u : Tree} {l : Listing} (annotated : t.Annotated u)
    (listing : references seed adapt t = .ok l) : references seed adapt u = .ok l := by
  obtain ⟨l', hl', hmodule, hspecifiers⟩ := references_rewritten annotated (fun _ _ h => h) listing
  obtain ⟨specifiers, isModule⟩ := l
  obtain ⟨specifiers', isModule'⟩ := l'
  obtain rfl : specifiers = specifiers' := hspecifiers
  obtain rfl : isModule' = isModule := hmodule
  exact hl'

/-- The tree of a call of `require` with a string, and with further fields after its callee and before
those of its argument. -/
def requireCall (s : String) (atCall atArgument : List (String × Tree)) : Tree :=
  let argument : Tree := .object (atArgument ++ [("type", .text "Literal"), ("value", .text s)])
  .node "CallExpression" (("callee", .node "Identifier" [("name", .text "require")]) ::
    atCall ++ [("arguments", .list [argument])])

/-- A call with its place, and a range at its argument. -/
theorem references_annotated_requireCall :
    let place : Tree := .object [("start", .object [("line", .number (.whole 1))])]
    let range : Tree := .list [.number (.whole 8), .number (.whole 11)]
    references false true (requireCall "a" [("loc", place)] [("range", range)]) =
      .ok ⟨["a"], false⟩ := by
  intro place range
  have hplace : Reference.IsAnnotation "loc" place := ⟨by decide, rfl, by decide⟩
  have hrange : Reference.IsAnnotation "range" range := ⟨by decide, rfl, by decide⟩
  have hargument : Tree.Annotated (.object [("type", .text "Literal"), ("value", .text "a")])
      (.object [("range", range), ("type", .text "Literal"), ("value", .text "a")]) :=
    .object (.add hrange (.keep (.refl _) (.keep (.refl _) .nil))) (by decide) rfl
  have hcall : Tree.Annotated (requireCall "a" [] []) (requireCall "a" [("loc", place)] [("range", range)]) :=
    .object (.keep (.refl _) (.keep (.refl _) (.add hplace (.keep (.list (.cons hargument .nil)) .nil))))
      (by decide) rfl
  refine references_annotated hcall ?_
  rw [references_eq_map]
  rfl

/-- When a tree has a listing, the tree with its fields in another order has one, too: it is a module for
the one if it is for the other, and the specifiers are the same and as often there. -/
theorem references_reordered {seed adapt : Bool} {t u : Tree} {l : Listing} (reordered : t.Reordered u)
    (listing : references seed adapt t = .ok l) : ∃ l', references seed adapt u = .ok l' ∧
      l'.isModule = l.isModule ∧ l'.specifiers.Perm l.specifiers := by
  obtain ⟨l', hl', hmodule, hspecifiers⟩ :=
    references_rewritten reordered (fun _ _ h => h.elim) listing
  exact ⟨l', hl', hmodule, hspecifiers.perm.symm⟩

/-- Two calls in the other order. -/
theorem references_reordered_twoCalls :
    let left := ("left", requireCall "a" [] [])
    let right := ("right", requireCall "b" [] [])
    ∃ l, references false true (.object [right, ("type", .text "BinaryExpression"), left]) = .ok l ∧
      l.isModule = false ∧ l.specifiers.Perm ["a", "b"] := by
  intro left right
  have hreordered : Tree.Reordered (.node "BinaryExpression" [left, right])
      (.object [right, ("type", .text "BinaryExpression"), left]) :=
    .object (.keep (.refl _) (.keep (.refl _) (.keep (.refl _) .nil))) (by decide)
      (List.perm_append_singleton right [("type", .text "BinaryExpression"), left])
  have hlisting : references false true (.node "BinaryExpression" [left, right]) =
      .ok ⟨["a", "b"], false⟩ := by
    rw [references_eq_map]
    rfl
  exact references_reordered hreordered hlisting

end Specifiers
