import Mathlib.Tactic.Common
import Specifiers.Proofs.Result
import Specifiers.Proofs.Tree.Preorder
import Specifiers.Reference

/-!
# What a listing of a tree says

`references` folds over the nodes of a tree as they are presented. Here the same listing is read off
the recursive list of the nodes, node by node and without a fold: `Cites` says by which specifier a
node refers to a module, `IsModuleItem` and `IsImportCall` which nodes make the text a module.

One step of the fold is `specifier_presented_iff` (the specifier is the one that the node cites) with
`marksModule_presented` (the flag); the run over a list of nodes is `foldlM_add_eq_ok`. A value of an
unexpected shape stops the fold, and then there is no listing: there is one exactly when every node tells
what it cites (`exists_references_iff`). Nodes do on trees whose argument lists and template pieces are
lists or absent (`tells_of_hasLists`).
-/

namespace Specifiers

open Specifiers.Tree (Shapeless isKind_iff text?_eq_some_iff)

namespace Reference

/-! ## Which nodes cite a module -/

/-- A string literal of the given value. -/
def IsLiteral (t : Tree) (s : String) : Prop :=
  t.kind? = some "Literal" ∧ t.field "value" = .text s

/-- A template of one piece without substitutions, with its raw text. -/
def IsPlainTemplate (t : Tree) (s : String) : Prop :=
  t.kind? = some "TemplateLiteral" ∧ (t.field "expressions").holds = false ∧
    ∃ quasi, t.field "quasis" = .list [quasi] ∧ (quasi.field "value").field "raw" = .text s

/-- The identifier of the given name. -/
def IsName (t : Tree) (name : String) : Prop :=
  t.kind? = some "Identifier" ∧ t.field "name" = .text name

/-- A callee that takes a specifier: `require`, `import`, or `require.resolve` written with a dot. -/
def TakesSpecifier (callee : Tree) : Prop :=
  IsName callee "require" ∨ callee.kind? = some "Import" ∨
    (callee.kind? = some "MemberExpression" ∧ (callee.field "computed").holds = false ∧
      IsName (callee.field "object") "require" ∧ IsName (callee.field "property") "resolve")

/-- An import or an export. -/
def IsModuleItem (node : Tree) : Prop :=
  node.kind? = some "ImportDeclaration" ∨ node.kind? = some "ImportExpression" ∨
    node.kind? = some "ExportNamedDeclaration" ∨ node.kind? = some "ExportAllDeclaration"

/-- A call whose callee is `import`. -/
def IsImportCall (node : Tree) : Prop :=
  node.kind? = some "CallExpression" ∧ (node.field "callee").kind? = some "Import"

/-- By which specifier a node refers to a module, when import calls are adapted or not. -/
inductive Cites (adapt : Bool) (node : Tree) (s : String) : Prop
  /-- An import or export, by the string that is its source. -/
  | source (item : IsModuleItem node) (literal : IsLiteral (node.field "source") s)
  /-- An adapted import call, by a string that is its only argument. -/
  | adapted (argument : Tree) (adapts : adapt = true) (call : IsImportCall node)
      (only : node.field "arguments" = .list [argument]) (literal : IsLiteral argument s)
  /-- Any other call of a callee that takes a specifier, by a string or a plain template that is its
  only argument. -/
  | call (argument : Tree) (plain : ¬(adapt = true ∧ IsImportCall node))
      (call : node.kind? = some "CallExpression") (callee : TakesSpecifier (node.field "callee"))
      (only : node.field "arguments" = .list [argument])
      (text : IsLiteral argument s ∨ IsPlainTemplate argument s)

/-! ## The readers of a node against these rules -/

/-- The text of a literal is found when it is one. -/
theorem stringLiteral?_eq_some_iff {t : Tree} {s : String} :
    stringLiteral? t = some s ↔ IsLiteral t s := by
  simp [stringLiteral?, IsLiteral, isKind_iff, text?_eq_some_iff]

/-- A name is found when it is one. -/
theorem isIdentifier_iff {t : Tree} {name : String} : isIdentifier t name = true ↔ IsName t name := by
  simp [isIdentifier, IsName, isKind_iff, text?_eq_some_iff]

/-- A callee is found to require when it takes specifiers. -/
theorem isRequire_iff {callee : Tree} : isRequire callee = true ↔ TakesSpecifier callee := by
  simp [isRequire, TakesSpecifier, isKind_iff, isIdentifier_iff, or_assoc, and_assoc]

/-- Only items of modules mark a module. -/
theorem marksModule_iff {node : Tree} : marksModule node = true ↔ IsModuleItem node := by
  simp [marksModule, moduleKinds, IsModuleItem, isKind_iff]

/-- A call is found to import when its callee is the import itself. -/
theorem isImportCall_iff {node : Tree} : node.isImportCall = true ↔ IsImportCall node := by
  simp [Tree.isImportCall, IsImportCall, isKind_iff]

/-- A value has a sole item when its length is one and it has a first item. -/
theorem sole_eq_ok_some_iff {t a : Tree} :
    t.sole = .ok (some a) ↔ t.length = .ok 1 ∧ t.first = .ok a := by
  rw [Tree.sole]
  cases hn : t.length with
  | error e => simp [bind, Except.bind]
  | ok n =>
    by_cases h1 : n = 1
    · cases hf : t.first <;> simp [bind, Except.bind, pure, Except.pure, h1]
    · simp [bind, Except.bind, pure, Except.pure, h1]

/-- A value of another length has no sole item. -/
theorem sole_of_length_ne {t : Tree} {n : Nat} (h : t.length = .ok n) (hn : n ≠ 1) :
    t.sole = .ok none := by
  simp [Tree.sole, h, hn, bind, Except.bind, pure, Except.pure]

/-- A sole item is that of a list of one; only a text of one character has another, which is a text. -/
theorem sole_item {t a : Tree} (h : t.sole = .ok (some a)) : t = .list [a] ∨ ∃ c, a = .text c := by
  obtain ⟨hlength, hfirst⟩ := sole_eq_ok_some_iff.mp h
  cases t with
  | text s => exact .inr ⟨_, (Except.ok.inj hfirst).symm⟩
  | list ts =>
    cases ts with
    | nil => simp [Tree.first] at hfirst
    | cons b ts =>
      obtain rfl : b = a := Except.ok.inj hfirst
      obtain rfl : ts = [] := by simpa [Tree.length] using hlength
      exact .inl rfl
  | _ => simp [Tree.first] at hfirst

/-- The sole item of a list of one. -/
theorem sole_singleton (a : Tree) : (Tree.list [a]).sole = .ok (some a) := rfl

/-- A text is neither a literal nor a template. -/
theorem kind?_text (c : String) : (Tree.text c).kind? = none := rfl

/-- Without substitutions, a template has the raw text of its sole piece. -/
theorem staticTemplate?_eq_sole {t : Tree} (hk : t.kind? = some "TemplateLiteral")
    (he : (t.field "expressions").holds = false) :
    staticTemplate? t = (t.field "quasis").sole.map fun quasi? =>
      quasi?.bind fun quasi => ((quasi.field "value").field "raw").text? := by
  rw [staticTemplate?, Tree.sole, isKind_iff.mpr hk, he]
  cases hn : (t.field "quasis").length with
  | error e => simp [bind, Except.bind, Except.map, hn]
  | ok n =>
    by_cases h1 : n = 1
    · cases hf : (t.field "quasis").first <;>
        simp [bind, Except.bind, pure, Except.pure, Except.map, hn, hf, h1]
    · simp [bind, Except.bind, pure, Except.pure, Except.map, hn, h1]

/-- Of a template with substitutions only the number of its pieces is asked. -/
theorem staticTemplate?_eq_length {t : Tree} (hk : t.kind? = some "TemplateLiteral")
    (he : (t.field "expressions").holds = true) :
    staticTemplate? t = (t.field "quasis").length.map fun _ => none := by
  rw [staticTemplate?, isKind_iff.mpr hk, he]
  cases hn : (t.field "quasis").length <;>
    simp [bind, Except.bind, pure, Except.pure, Except.map, hn]

/-- What is no template has no raw text. -/
theorem staticTemplate?_of_kind?_ne {t : Tree} (hk : t.kind? ≠ some "TemplateLiteral") :
    staticTemplate? t = .ok none := by
  simp [staticTemplate?, hk, isKind_iff, pure, Except.pure]

/-- The raw text of a template is read off exactly when the template is plain. -/
theorem staticTemplate?_eq_ok_some_iff {t : Tree} {s : String} :
    staticTemplate? t = .ok (some s) ↔ IsPlainTemplate t s := by
  by_cases hk : t.kind? = some "TemplateLiteral"
  swap
  · simp [staticTemplate?_of_kind?_ne hk, IsPlainTemplate, hk]
  cases he : (t.field "expressions").holds with
  | true => simp [IsPlainTemplate, he, staticTemplate?_eq_length hk he, map_eq_ok_iff]
  | false =>
    rw [staticTemplate?_eq_sole hk he, map_eq_ok_iff]
    constructor
    · rintro ⟨quasi?, hsole, hbind⟩
      obtain ⟨quasi, rfl, hraw⟩ := Option.bind_eq_some_iff.mp hbind
      -- The item of a text has no fields, so no raw text.
      rcases sole_item hsole with hlist | ⟨c, rfl⟩
      · exact ⟨hk, he, quasi, hlist, text?_eq_some_iff.mp hraw⟩
      · cases hraw
    · rintro ⟨-, -, quasi, hlist, hraw⟩
      exact ⟨some quasi, by rw [hlist, sole_singleton], text?_eq_some_iff.mpr hraw⟩

/-! ## One step -/

/-- A call of any other callee cites nothing. -/
theorem ofCall_of_not_takesSpecifier {node : Tree} (hc : ¬TakesSpecifier (node.field "callee")) :
    ofCall node = .ok none := by
  have hrequire : isRequire (node.field "callee") = false := by
    simpa using fun h => hc (isRequire_iff.mp h)
  simp [ofCall, hrequire, pure, Except.pure]

/-- A call with one argument is read by it: by the string that it is, or else by its raw text. -/
theorem ofCall_of_sole {node argument : Tree} (hc : TakesSpecifier (node.field "callee"))
    (hs : (node.field "arguments").sole = .ok (some argument)) :
    ofCall node = match stringLiteral? argument with
      | some specifier => .ok (some specifier)
      | none => staticTemplate? argument := by
  rw [ofCall, isRequire_iff.mpr hc, hs]
  rfl

/-- The text of an argument is the value of a string literal, or else that of a plain template. -/
theorem argument_text_iff {argument : Tree} {s : String} :
    (match stringLiteral? argument with
      | some specifier => Except.ok (some specifier)
      | none => staticTemplate? argument) = .ok (some s) ↔
      IsLiteral argument s ∨ IsPlainTemplate argument s := by
  cases hl : stringLiteral? argument with
  | none =>
    have hno : ¬ IsLiteral argument s := by
      intro h
      rw [stringLiteral?_eq_some_iff.mpr h] at hl
      cases hl
    simp [hno, staticTemplate?_eq_ok_some_iff]
  | some literal =>
    have hliteral := stringLiteral?_eq_some_iff.mp hl
    have hno : ¬ IsPlainTemplate argument s := by
      rintro ⟨hk, -⟩
      simp [hliteral.1] at hk
    rw [← stringLiteral?_eq_some_iff, hl]
    simp [hno]

/-- A call cites a specifier when its callee takes one and its only argument is a text. -/
theorem ofCall_eq_ok_some_iff {node : Tree} {s : String} :
    ofCall node = .ok (some s) ↔ TakesSpecifier (node.field "callee") ∧
      ∃ argument, node.field "arguments" = .list [argument] ∧
        (IsLiteral argument s ∨ IsPlainTemplate argument s) := by
  by_cases hc : TakesSpecifier (node.field "callee")
  swap
  · simp [hc, ofCall_of_not_takesSpecifier hc]
  constructor
  · intro h
    have hbind := h
    rw [ofCall, isRequire_iff.mpr hc] at hbind
    obtain ⟨argument?, hs, hread⟩ := bind_eq_ok_iff.mp hbind
    cases argument? with
    | none => cases hread
    | some argument =>
      rw [ofCall_of_sole hc hs, argument_text_iff] at h
      rcases sole_item hs with hlist | ⟨c, rfl⟩
      · exact ⟨hc, argument, hlist, h⟩
      · simp [IsLiteral, IsPlainTemplate, kind?_text] at h
  · rintro ⟨-, argument, hlist, htext⟩
    rw [ofCall_of_sole hc (by rw [hlist, sole_singleton]), argument_text_iff]
    exact htext

/-- How a node that is no adapted import call is presented: as it is. -/
theorem presented_of_not {adapt : Bool} {node : Tree} (h : ¬(adapt = true ∧ IsImportCall node)) :
    node.presented adapt = .ok node := by
  rw [Tree.presented, if_neg]
  simpa [isImportCall_iff] using h

/-- How an adapted import call is presented: as an expression with its sole argument for source. -/
theorem presented_importCall {adapt : Bool} {node : Tree} (h : adapt = true ∧ IsImportCall node) :
    node.presented adapt = (node.field "arguments").sole.map fun argument? =>
      Tree.node "ImportExpression" [("source", argument?.getD .null)] := by
  rw [Tree.presented, if_pos (by simpa [isImportCall_iff] using h), Tree.importExpression]
  cases (node.field "arguments").sole <;> rfl

/-- An import or export is no call. -/
theorem IsModuleItem.kind?_ne {node : Tree} (h : IsModuleItem node) :
    node.kind? ≠ some "CallExpression" := by
  rcases h with h | h | h | h <;> simp [h]

/-- The specifier of an import or export is its source. -/
theorem specifier?_moduleItem {node : Tree} (h : IsModuleItem node) :
    specifier? node = .ok (stringLiteral? (node.field "source")) := by
  rw [specifier?, if_pos (marksModule_iff.mpr h)]

/-- The specifier of an adapted import call, as it is presented. -/
theorem specifier?_importExpression (source : Tree) :
    specifier? (Tree.node "ImportExpression" [("source", source)]) = .ok (stringLiteral? source) :=
  specifier?_moduleItem (.inr (.inl rfl))

/-- The specifier of any other node is that of a call. -/
theorem specifier?_of_not {node : Tree} (h : ¬ IsModuleItem node) :
    specifier? node = if node.isKind "CallExpression" then ofCall node else .ok none := by
  rw [specifier?, if_neg (fun hm => h (marksModule_iff.mp hm))]

/-- An adapted import call cites the string that is its sole argument. -/
theorem specifier_importCall_iff {adapt : Bool} {node : Tree} {s : String}
    (h : adapt = true ∧ IsImportCall node) :
    (node.presented adapt >>= specifier?) = .ok (some s) ↔
      ∃ argument, node.field "arguments" = .list [argument] ∧ IsLiteral argument s := by
  rw [presented_importCall h, bind_eq_ok_iff]
  constructor
  · rintro ⟨presented, hpresented, hs⟩
    obtain ⟨argument?, hsole, rfl⟩ := map_eq_ok_iff.mp hpresented
    rw [specifier?_importExpression, Except.ok.injEq, stringLiteral?_eq_some_iff] at hs
    cases argument? with
    | none => cases hs.1
    | some argument =>
      rcases sole_item hsole with hlist | ⟨c, rfl⟩
      · exact ⟨argument, hlist, hs⟩
      · cases hs.1
  · rintro ⟨argument, hlist, hliteral⟩
    refine ⟨_, by rw [hlist, sole_singleton]; rfl, ?_⟩
    rw [specifier?_importExpression, Option.getD_some, stringLiteral?_eq_some_iff.mpr hliteral]

/-- The presented node has the specifier that the node itself cites. -/
theorem specifier_presented_iff {adapt : Bool} {node : Tree} {s : String} :
    (node.presented adapt >>= specifier?) = .ok (some s) ↔ Cites adapt node s := by
  -- The three ways to cite exclude each other; in each case the other two constructors are absurd.
  by_cases hadapted : adapt = true ∧ IsImportCall node
  · rw [specifier_importCall_iff hadapted]
    constructor
    · rintro ⟨argument, hlist, hliteral⟩
      exact .adapted argument hadapted.1 hadapted.2 hlist hliteral
    · rintro (⟨item, -⟩ | ⟨argument, -, -, only, literal⟩ | ⟨-, plain, -⟩)
      · exact absurd hadapted.2.1 item.kind?_ne
      · exact ⟨argument, only, literal⟩
      · exact absurd hadapted plain
  rw [presented_of_not hadapted]
  change specifier? node = _ ↔ _
  by_cases hitem : IsModuleItem node
  · rw [specifier?_moduleItem hitem]
    constructor
    · intro h
      exact .source hitem (stringLiteral?_eq_some_iff.mp (Except.ok.inj h))
    · rintro (⟨-, literal⟩ | ⟨-, adapts, call, -⟩ | ⟨-, -, call, -⟩)
      · rw [stringLiteral?_eq_some_iff.mpr literal]
      · exact absurd ⟨adapts, call⟩ hadapted
      · exact absurd call hitem.kind?_ne
  rw [specifier?_of_not hitem]
  by_cases hcall : node.kind? = some "CallExpression"
  · rw [if_pos (isKind_iff.mpr hcall), ofCall_eq_ok_some_iff]
    constructor
    · rintro ⟨callee, argument, hlist, htext⟩
      exact .call argument hadapted hcall callee hlist htext
    · rintro (⟨item, -⟩ | ⟨-, adapts, call, -⟩ | ⟨argument, -, -, callee, only, text⟩)
      · exact absurd item hitem
      · exact absurd ⟨adapts, call⟩ hadapted
      · exact ⟨callee, argument, only, text⟩
  · rw [if_neg (fun h => hcall (isKind_iff.mp h))]
    constructor
    · intro h
      cases h
    · rintro (⟨item, -⟩ | ⟨-, -, call, -⟩ | ⟨-, -, call, -⟩)
      · exact absurd item hitem
      · exact absurd call.1 hcall
      · exact absurd call hcall

/-- A presented node makes its text a module when the node is an import or export, or an import call
that is adapted. -/
theorem marksModule_presented {adapt : Bool} {node presented : Tree}
    (h : node.presented adapt = .ok presented) :
    marksModule presented = true ↔ IsModuleItem node ∨ (adapt = true ∧ IsImportCall node) := by
  rw [marksModule_iff]
  by_cases hadapted : adapt = true ∧ IsImportCall node
  · rw [presented_importCall hadapted] at h
    obtain ⟨argument?, -, rfl⟩ := map_eq_ok_iff.mp h
    exact iff_of_true (.inr (.inl rfl)) (.inr hadapted)
  · rw [presented_of_not hadapted] at h
    obtain rfl := Except.ok.inj h
    simp [hadapted]

/-- The specifier that a node cites. -/
def cited? (adapt : Bool) (node : Tree) : Option String :=
  (node.presented adapt >>= specifier?).toOption.join

/-- The specifier that is found at a node is the one that it cites. -/
theorem cited?_eq_some_iff {adapt : Bool} {node : Tree} {s : String} :
    cited? adapt node = some s ↔ Cites adapt node s := by
  rw [← specifier_presented_iff, cited?]
  cases node.presented adapt >>= specifier? <;> simp [Except.toOption]

/-- What one node adds to a listing. -/
theorem add_presented {adapt : Bool} {node : Tree} {l l' : Listing}
    (h : (do add l (← Tree.presented adapt node)) = .ok l') :
    l'.specifiers = (cited? adapt node).toList ++ l.specifiers ∧
      (l'.isModule = true ↔
        l.isModule = true ∨ IsModuleItem node ∨ (adapt = true ∧ IsImportCall node)) := by
  obtain ⟨presented, hp, hadd⟩ := bind_eq_ok_iff.mp h
  obtain ⟨specifier, hs, hl'⟩ := bind_eq_ok_iff.mp hadd
  obtain rfl := Except.ok.inj hl'
  refine ⟨?_, ?_⟩
  · rw [cited?, hp, show (Except.ok presented >>= specifier?) = .ok specifier from hs]
    rfl
  · rw [Bool.or_eq_true, marksModule_presented hp]

/-! ## The run over the nodes -/

/-- Can it be told which specifier a node cites, if any? -/
def Tells (adapt : Bool) (node : Tree) : Prop :=
  ∃ specifier, (node.presented adapt >>= specifier?) = .ok specifier

/-- Does a node make its text a module? -/
def Marks (adapt : Bool) (node : Tree) : Prop :=
  IsModuleItem node ∨ (adapt = true ∧ IsImportCall node)

/-- A node is added to a listing when it tells what it cites. -/
theorem exists_add_presented_iff {adapt : Bool} {node : Tree} {l : Listing} :
    (∃ l', (do add l (← Tree.presented adapt node)) = .ok l') ↔ Tells adapt node := by
  constructor
  · rintro ⟨l', h⟩
    obtain ⟨presented, hp, hadd⟩ := bind_eq_ok_iff.mp h
    obtain ⟨specifier, hs, -⟩ := bind_eq_ok_iff.mp hadd
    exact ⟨specifier, bind_eq_ok_iff.mpr ⟨presented, hp, hs⟩⟩
  · rintro ⟨specifier, h⟩
    obtain ⟨presented, hp, hs⟩ := bind_eq_ok_iff.mp h
    exact ⟨_, bind_eq_ok_iff.mpr ⟨presented, hp, bind_eq_ok_iff.mpr ⟨specifier, hs, rfl⟩⟩⟩

/-- The run goes through when every node tells what it cites. -/
theorem exists_foldlM_add_iff {adapt : Bool} {nodes : List Tree} {l : Listing} :
    (∃ l', nodes.foldlM (fun l node => do add l (← Tree.presented adapt node)) l = .ok l') ↔
      ∀ node ∈ nodes, Tells adapt node := by
  induction nodes generalizing l with
  | nil => exact iff_of_true ⟨l, rfl⟩ (by simp)
  | cons node nodes ih =>
    simp only [List.foldlM_cons, List.forall_mem_cons]
    constructor
    · rintro ⟨l', h⟩
      obtain ⟨mid, hstep, hrest⟩ := bind_eq_ok_iff.mp h
      exact ⟨exists_add_presented_iff.mp ⟨mid, hstep⟩, ih.mp ⟨l', hrest⟩⟩
    · rintro ⟨hnode, hnodes⟩
      obtain ⟨mid, hstep⟩ := (exists_add_presented_iff (l := l)).mpr hnode
      obtain ⟨l', hrest⟩ := (ih (l := mid)).mpr hnodes
      exact ⟨l', bind_eq_ok_iff.mpr ⟨mid, hstep, hrest⟩⟩

/-- What a list of nodes adds to a listing, whose specifiers stand last first. -/
theorem foldlM_add_eq_ok {adapt : Bool} {nodes : List Tree} {l l' : Listing}
    (h : nodes.foldlM (fun l node => do add l (← Tree.presented adapt node)) l = .ok l') :
    l'.specifiers = (nodes.filterMap (cited? adapt)).reverse ++ l.specifiers ∧
      (l'.isModule = true ↔ l.isModule = true ∨
        ∃ node ∈ nodes, IsModuleItem node ∨ (adapt = true ∧ IsImportCall node)) := by
  -- The listing so far is generalised: its specifiers stay behind those of the nodes to come.
  induction nodes generalizing l with
  | nil =>
    obtain rfl : l = l' := by simpa [pure, Except.pure] using h
    simp
  | cons node nodes ih =>
    rw [List.foldlM_cons] at h
    obtain ⟨mid, hstep, hrest⟩ := bind_eq_ok_iff.mp h
    obtain ⟨hspecifiers, hmodule⟩ := add_presented hstep
    obtain ⟨hspecifiers', hmodule'⟩ := ih hrest
    refine ⟨?_, ?_⟩
    · rw [hspecifiers', hspecifiers]
      cases hc : cited? adapt node <;> simp [hc]
    · rw [hmodule', hmodule, or_assoc]
      simp only [List.mem_cons, exists_eq_or_imp]

/-! ## When there is a listing -/

/-- Is the value absent or a list? -/
def isOptionalList : Tree → Bool
  | .null | .list _ => true
  | _ => false

/-- Are the arguments of a node, and the pieces of each of them, lists if there are any? -/
def hasLists (node : Tree) : Bool :=
  isOptionalList (node.field "arguments") &&
    (node.field "arguments").items.all fun argument => isOptionalList (argument.field "quasis")

/-- An optional list has a sole item or none. -/
theorem sole_of_isOptionalList {t : Tree} (h : isOptionalList t) :
    t.sole = .ok none ∨ ∃ a ∈ t.items, t.sole = .ok (some a) := by
  match t with
  | .null | .list [] => exact .inl rfl
  | .list [a] => exact .inr ⟨a, List.mem_singleton_self a, rfl⟩
  | .list (a :: b :: items) => exact .inl (sole_of_length_ne rfl (by simp))

/-- A template whose pieces are an optional list has a raw text or none, but no fault. -/
theorem exists_staticTemplate? {t : Tree} (h : isOptionalList (t.field "quasis")) :
    ∃ o, staticTemplate? t = .ok o := by
  by_cases hk : t.kind? = some "TemplateLiteral"
  swap
  · exact ⟨none, staticTemplate?_of_kind?_ne hk⟩
  cases he : (t.field "expressions").holds with
  | false =>
    rw [staticTemplate?_eq_sole hk he]
    rcases sole_of_isOptionalList h with hs | ⟨a, -, hs⟩ <;> exact ⟨_, by rw [hs]; rfl⟩
  | true =>
    obtain ⟨n, hn⟩ : ∃ n, (t.field "quasis").length = .ok n := by
      cases hq : t.field "quasis" <;> simp [hq, isOptionalList] at h <;> exact ⟨_, rfl⟩
    exact ⟨none, by rw [staticTemplate?_eq_length hk he, hn]; rfl⟩

/-- A call with optional lists has a specifier or none, but no fault. -/
theorem exists_ofCall {node : Tree} (h : hasLists node) : ∃ o, ofCall node = .ok o := by
  obtain ⟨harguments, hpieces⟩ := Bool.and_eq_true_iff.mp h
  by_cases hc : TakesSpecifier (node.field "callee")
  swap
  · exact ⟨none, ofCall_of_not_takesSpecifier hc⟩
  rcases sole_of_isOptionalList harguments with hs | ⟨argument, hargument, hs⟩
  · exact ⟨none, by simp [ofCall, isRequire_iff.mpr hc, hs, bind, Except.bind, pure, Except.pure]⟩
  · rw [ofCall_of_sole hc hs]
    cases stringLiteral? argument with
    | some literal => exact ⟨_, rfl⟩
    | none => exact exists_staticTemplate? (List.all_eq_true.mp hpieces argument hargument)

/-- A call with optional lists tells what it cites. -/
theorem tells_of_hasLists (adapt : Bool) {node : Tree}
    (h : node.kind? = some "CallExpression" → hasLists node) : Tells adapt node := by
  unfold Tells
  by_cases hadapted : adapt = true ∧ IsImportCall node
  · rw [presented_importCall hadapted]
    obtain ⟨argument?, hs⟩ : ∃ argument?, (node.field "arguments").sole = .ok argument? := by
      have harguments := (Bool.and_eq_true_iff.mp (h hadapted.2.1)).1
      rcases sole_of_isOptionalList harguments with hs | ⟨argument, -, hs⟩ <;> exact ⟨_, hs⟩
    exact ⟨_, by rw [hs]; exact specifier?_importExpression (argument?.getD .null)⟩
  rw [presented_of_not hadapted]
  change ∃ o, specifier? node = .ok o
  by_cases hitem : IsModuleItem node
  · exact ⟨_, specifier?_moduleItem hitem⟩
  rw [specifier?_of_not hitem]
  split
  · next hcall => exact exists_ofCall (h (isKind_iff.mp hcall))
  · exact ⟨none, rfl⟩

end Reference

/-- A listing is the fold over the recursive list of the nodes, turned round. -/
theorem references_eq_map (seed adapt : Bool) (t : Tree) :
    references seed adapt t =
      (t.preorder.foldlM (fun l node => do Reference.add l (← Tree.presented adapt node))
        (⟨[], seed⟩ : Listing)).map fun l : Listing => ⟨l.specifiers.reverse, l.isModule⟩ := by
  rw [references, Tree.foldPresented, Tree.walk_eq_preorder]
  rfl

open Reference in
/-- There is a listing when every node tells what it cites. -/
theorem exists_references_iff {seed adapt : Bool} {t : Tree} :
    (∃ l, references seed adapt t = .ok l) ↔ ∀ node ∈ t.preorder, Tells adapt node := by
  rw [references_eq_map, ← exists_foldlM_add_iff (l := ⟨[], seed⟩)]
  constructor
  · rintro ⟨l, hl⟩
    obtain ⟨l', hfold, -⟩ := map_eq_ok_iff.mp hl
    exact ⟨l', hfold⟩
  · rintro ⟨l', hfold⟩
    exact ⟨_, map_eq_ok_iff.mpr ⟨l', hfold, rfl⟩⟩

open Reference in
/-- A listing is made of what the nodes cite, in pre-order and with repeats. -/
theorem references_eq_ok_iff {seed adapt : Bool} {t : Tree} {l : Listing} :
    references seed adapt t = .ok l ↔ (∀ node ∈ t.preorder, Tells adapt node) ∧
      l.specifiers = t.preorder.filterMap (cited? adapt) ∧
      (l.isModule = true ↔ seed = true ∨ ∃ node ∈ t.preorder, Marks adapt node) := by
  -- what a listing says is determined by the nodes; the converse then needs only that there is one
  have hread {l : Listing} (hl : references seed adapt t = .ok l) :
      l.specifiers = t.preorder.filterMap (cited? adapt) ∧
        (l.isModule = true ↔ seed = true ∨ ∃ node ∈ t.preorder, Marks adapt node) := by
    rw [references_eq_map] at hl
    obtain ⟨l', hfold, rfl⟩ := map_eq_ok_iff.mp hl
    obtain ⟨hspecifiers, hmodule⟩ := foldlM_add_eq_ok hfold
    exact ⟨by simp [hspecifiers], hmodule⟩
  constructor
  · intro hl
    exact ⟨exists_references_iff.mp ⟨l, hl⟩, hread hl⟩
  · rintro ⟨htells, hspecifiers, hmodule⟩
    obtain ⟨l', hl'⟩ : ∃ l', references seed adapt t = .ok l' := exists_references_iff.mpr htells
    obtain ⟨hspecifiers', hmodule'⟩ := hread hl'
    obtain ⟨specifiers, isModule⟩ := l
    obtain ⟨specifiers', isModule'⟩ := l'
    obtain rfl : specifiers' = specifiers := hspecifiers'.trans hspecifiers.symm
    obtain rfl : isModule' = isModule := Bool.eq_iff_iff.mpr (hmodule'.trans hmodule.symm)
    exact hl'

open Reference in
/-- The listing of a tree, read off the recursive list of its nodes. It is a module when it is known
to be one, or has an import or export among its nodes, or an import call when these are adapted; its
specifiers are those that the nodes cite, in pre-order and with repeats. There is a listing whenever
the arguments of calls, and the pieces of templates among these, are lists or absent. -/
theorem references_reads_preorder (seed adapt : Bool) (t : Tree) :
    (∀ l, references seed adapt t = .ok l →
      (l.isModule = true ↔ seed = true ∨
        ∃ node ∈ t.preorder, IsModuleItem node ∨ (adapt = true ∧ IsImportCall node)) ∧
      ∃ cited : Tree → Option String, (∀ node s, cited node = some s ↔ Cites adapt node s) ∧
        l.specifiers = t.preorder.filterMap cited) ∧
    ((∀ node ∈ t.preorder, node.kind? = some "CallExpression" → hasLists node) →
      ∃ l, references seed adapt t = .ok l) := by
  refine ⟨fun l hl => ?_, fun h => ?_⟩
  · obtain ⟨-, hspecifiers, hmodule⟩ := references_eq_ok_iff.mp hl
    exact ⟨hmodule, cited? adapt, fun node s => cited?_eq_some_iff, hspecifiers⟩
  · exact exists_references_iff.mpr fun node hnode => tells_of_hasLists adapt (h node hnode)

/-- The tree of `import(require("a"))`. -/
def importOfRequire : Tree :=
  .node "CallExpression" [("callee", .node "Import" []),
    ("arguments", .list [.node "CallExpression" [
      ("callee", .node "Identifier" [("name", .text "require")]),
      ("arguments", .list [.node "Literal" [("value", .text "a")]])]])]

/-- In `import(require("a"))` the outer call makes the text a module. -/
theorem references_reads_importOfRequire :
    ∃ l, references false true importOfRequire = .ok l ∧ l.isModule = true := by
  obtain ⟨hread, hexists⟩ := references_reads_preorder false true importOfRequire
  obtain ⟨l, hl⟩ := hexists (by decide)
  exact ⟨l, hl, (hread l hl).1.mpr (.inr ⟨_, List.mem_cons_self, .inr ⟨rfl, rfl, rfl⟩⟩)⟩

end Specifiers
