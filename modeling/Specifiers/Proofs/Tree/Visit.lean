import Mathlib.Data.List.Forall2
import Specifiers.Proofs.Reference
import Specifiers.Proofs.Tree.Occurrence

/-!
# What a visit presents

A visit goes through the nodes of a tree in pre-order, whether import calls are adapted or not, and hands
each node as it is presented to the handler of its kind, when there is one. Which nodes are presented, and
as what, does not depend on the handlers (`Presents`). An adapted import call is presented with its only
argument. It is told by the length of its field `arguments`, and there are values without one, or without
places to find it at (`Untellable`); such a value breaks the visit off before the call is presented. On
all other trees, those whose import calls have lists for their arguments among them, a visit presents every
node.
-/

namespace Specifiers

namespace Tree

open Reference (IsImportCall presented_of_not presented_importCall)

variable {t a node shown : Tree} {s : Shapeless} {adapt : Bool}

/-! ## Only items -/

/-- A list of one item has this for its only item, and a text of one character has itself. -/
inductive HasOnly : Tree → Tree → Prop
  | list (a : Tree) : HasOnly (list [a]) a
  | text (s : String) (single : s.length = 1) : HasOnly (text s) (text s)

/-- Of these values it cannot be told which is the only item: truth and numbers other than zero have no
length, and an object with a single field has a length of one, but no first item. -/
inductive Untellable : Tree → Shapeless → Prop
  | truth : Untellable (bool true) (.noLength "bool")
  | number (n : Number) (nonzero : n.isZero = false) : Untellable (number n) (.noLength n.typeName)
  | object (f : String × Tree) : Untellable (object [f]) .noPlaces

/-- What a list alone holds is told exactly when it can be. -/
theorem hasOnly_iff : HasOnly t a ↔ t.sole = .ok (some a) := by
  rw [Reference.sole_eq_ok_some_iff]
  constructor
  · rintro (_ | ⟨s, single⟩)
    · exact ⟨rfl, rfl⟩
    · refine ⟨by rw [length, single], ?_⟩
      rw [first, List.take_of_length_le (by rw [String.length_toList, single]), String.ofList_toList]
  · rintro ⟨hlength, hfirst⟩
    cases t with
    | list ts =>
      obtain ⟨b, rfl⟩ := List.length_eq_one_iff.mp (Except.ok.inj hlength)
      obtain rfl := Except.ok.inj hfirst
      exact .list b
    | text s =>
      have single : s.length = 1 := Except.ok.inj hlength
      rw [first, List.take_of_length_le (by rw [String.length_toList, single]),
        String.ofList_toList] at hfirst
      obtain rfl := Except.ok.inj hfirst
      exact .text s single
    | _ => simp [first] at hfirst

/-- A list cannot be told when its shape is not one of those that are expected. -/
theorem untellable_iff : Untellable t s ↔ t.sole = .error s := by
  -- telling the sole item fails at its length, or, where the length is one, at the first item
  have hsole : t.sole = .error s ↔ t.length = .error s ∨ t.length = .ok 1 ∧ t.first = .error s := by
    rw [sole, bind_eq_error_iff]
    refine or_congr_right ⟨?_, ?_⟩
    · rintro ⟨n, hn, h⟩
      by_cases hone : n = 1
      · subst hone
        exact ⟨hn, by simpa [bind_eq_error_iff, pure, Except.pure] using h⟩
      · simp [hone, pure, Except.pure] at h
    · rintro ⟨hn, hfirst⟩
      exact ⟨1, hn, by rw [hfirst]; rfl⟩
  rw [hsole]
  constructor
  · rintro (_ | ⟨n, nonzero⟩ | f)
    · exact .inl rfl
    · exact .inl (by rw [length, nonzero]; rfl)
    · exact .inr ⟨rfl, rfl⟩
  · cases t with
    | null => simp [length]
    | bool b =>
      cases b with
      | false => simp [length]
      | true =>
        rintro (h | ⟨h, -⟩)
        · obtain rfl := Except.error.inj h
          exact .truth
        · cases h
    | number n =>
      cases hzero : n.isZero with
      | false =>
        rintro (h | ⟨h, -⟩)
        · rw [length, hzero] at h
          obtain rfl := Except.error.inj h
          exact .number n hzero
        · simp [length, hzero] at h
      | true => simp [length, hzero]
    | text s => simp [length, first]
    | list ts =>
      rintro (h | ⟨h, hfirst⟩)
      · cases h
      · obtain ⟨b, rfl⟩ := List.length_eq_one_iff.mp (Except.ok.inj h)
        cases hfirst
    | object fs =>
      rintro (h | ⟨h, hfirst⟩)
      · cases h
      · obtain ⟨f, rfl⟩ := List.length_eq_one_iff.mp (Except.ok.inj h)
        obtain rfl := Except.error.inj hfirst
        exact .object f

/-! ## Presented nodes -/

/-- An import call as an expression of its own, with its source. -/
def importOf (source : Tree) : Tree := Tree.node "ImportExpression" [("source", source)]

/-- As what a node is presented. -/
inductive Shows (adapt : Bool) (node : Tree) : Tree → Prop
  /-- A node is presented as it is, unless it is an import call that is adapted. -/
  | itself (plain : ¬(adapt = true ∧ IsImportCall node)) : Shows adapt node node
  /-- An adapted import call is presented with its only argument. -/
  | only (a : Tree) (adapted : adapt = true ∧ IsImportCall node)
      (argument : HasOnly (node.field "arguments") a) : Shows adapt node (importOf a)
  /-- Without an only argument it is presented with null. -/
  | bare (adapted : adapt = true ∧ IsImportCall node)
      (noArgument : ∀ a, ¬HasOnly (node.field "arguments") a)
      (told : ∀ s, ¬Untellable (node.field "arguments") s) : Shows adapt node (importOf null)

/-- Why a node cannot be presented. -/
def Breaks (adapt : Bool) (node : Tree) (s : Shapeless) : Prop :=
  (adapt = true ∧ IsImportCall node) ∧ Untellable (node.field "arguments") s

/-- A node is shown to handlers as it is presented. -/
theorem shows_iff : Shows adapt node shown ↔ node.presented adapt = .ok shown := by
  -- only import calls that are to be adapted are shown in a form of their own
  by_cases adapted : adapt = true ∧ IsImportCall node
  · rw [presented_importCall adapted, map_eq_ok_iff]
    constructor
    · rintro (plain | ⟨a, -, argument⟩ | ⟨-, noArgument, told⟩)
      · exact absurd adapted plain
      · exact ⟨some a, hasOnly_iff.mp argument, rfl⟩
      · cases hsole : (node.field "arguments").sole with
        | error s => exact absurd (untellable_iff.mpr hsole) (told s)
        | ok a? =>
          cases a? with
          | none => exact ⟨none, rfl, rfl⟩
          | some a => exact absurd (hasOnly_iff.mpr hsole) (noArgument a)
    · rintro ⟨a?, hsole, rfl⟩
      cases a? with
      | none =>
        refine .bare adapted (fun a h => ?_) fun s h => ?_
        · simpa using hsole.symm.trans (hasOnly_iff.mp h)
        · simpa using hsole.symm.trans (untellable_iff.mp h)
      | some a => exact .only a adapted (hasOnly_iff.mpr hsole)
  · rw [presented_of_not adapted]
    constructor
    · rintro (_ | ⟨a, adapted', -⟩ | ⟨adapted', -, -⟩)
      · rfl
      · exact absurd adapted' adapted
      · exact absurd adapted' adapted
    · intro h
      obtain rfl := Except.ok.inj h
      exact .itself adapted

/-- A visit breaks at a node that cannot be presented. -/
theorem breaks_iff : Breaks adapt node s ↔ node.presented adapt = .error s := by
  by_cases adapted : adapt = true ∧ IsImportCall node
  · rw [presented_importCall adapted, Breaks, and_iff_right adapted, untellable_iff]
    cases (node.field "arguments").sole <;> simp [Except.map]
  · rw [presented_of_not adapted]
    simp [Breaks, adapted]

/-- As what nodes are presented one after the other: all of them, or those before the first one that
cannot be presented. -/
inductive Presents (adapt : Bool) : List Tree → List Tree → Option Shapeless → Prop
  | done : Presents adapt [] [] none
  | next {node shown : Tree} {nodes calls : List Tree} {fault : Option Shapeless}
      (first : Shows adapt node shown) (rest : Presents adapt nodes calls fault) :
      Presents adapt (node :: nodes) (shown :: calls) fault
  | stop {node : Tree} {nodes : List Tree} {s : Shapeless} (first : Breaks adapt node s) :
      Presents adapt (node :: nodes) [] (some s)

/-- Nodes are presented one after the other, up to the first that cannot be. -/
theorem exists_presents (adapt : Bool) (nodes : List Tree) :
    ∃ calls fault, Presents adapt nodes calls fault := by
  induction nodes with
  | nil => exact ⟨[], none, .done⟩
  | cons node nodes ih =>
    obtain ⟨calls, fault, hrest⟩ := ih
    cases hfirst : node.presented adapt with
    | error s => exact ⟨[], some s, .stop (breaks_iff.mpr hfirst)⟩
    | ok shown => exact ⟨shown :: calls, fault, .next (shows_iff.mpr hfirst) hrest⟩

section Presents

variable {nodes calls : List Tree} {fault : Option Shapeless}

/-- All nodes are presented when none of them breaks the visit off. -/
theorem Presents.fault_eq_none_iff (h : Presents adapt nodes calls fault) :
    fault = none ↔ ∀ node ∈ nodes, ∀ s, ¬Breaks adapt node s := by
  induction h with
  | done => simp
  | next first _ ih =>
    rw [ih, List.forall_mem_cons, and_iff_right]
    intro s hbreaks
    simpa using (shows_iff.mp first).symm.trans (breaks_iff.mp hbreaks)
  | stop first =>
    rw [List.forall_mem_cons]
    exact iff_of_false nofun fun h => h.1 _ first

/-- Then each of them is presented as it is shown. -/
theorem Presents.forall₂ (h : Presents adapt nodes calls fault) (hfault : fault = none) :
    List.Forall₂ (Shows adapt) nodes calls := by
  induction h with
  | done => exact .nil
  | next first _ ih => exact .cons first (ih hfault)
  | stop first => cases hfault

end Presents

/-! ## Handlers -/

/-- Handlers for kinds of nodes; they change a state, and can fail. -/
abbrev Handlers (α : Type) := String → Option (α → Tree → Except Shapeless α)

namespace Handlers

variable {α : Type} (handlers : Handlers α)

/-- Is there a handler for the kind of a node? -/
def has (node : Tree) : Bool := (node.kind?.bind handlers).isSome

/-- Hands a node to the handler of its kind; without one the state stays as it is. -/
def call (state : α) (node : Tree) : Except Shapeless α :=
  match node.kind?.bind handlers with
  | some handler => handler state node
  | none => .ok state

/-- Only nodes that have a handler count. -/
theorem foldlM_call_filter (nodes : List Tree) (state : α) :
    (nodes.filter handlers.has).foldlM handlers.call state = nodes.foldlM handlers.call state := by
  induction nodes generalizing state with
  | nil => rfl
  | cons node nodes ih =>
    cases hhandler : node.kind?.bind handlers with
    | none =>
      rw [List.filter_cons_of_neg (by simp [has, hhandler]), ih, List.foldlM_cons, call, hhandler]
      rfl
    | some handler =>
      rw [List.filter_cons_of_pos (by simp [has, hhandler]), List.foldlM_cons, List.foldlM_cons]
      exact congrArg _ (funext ih)

end Handlers

/-- How a visit ends. -/
def ending {α : Type} : Option Shapeless → α → Except Shapeless α
  | none, state => .ok state
  | some s, _ => .error s

/-- A fold over presented nodes hands over what is presented, and ends as that ends. -/
theorem Presents.foldlM_eq {α : Type} {nodes calls : List Tree} {fault : Option Shapeless}
    (h : Presents adapt nodes calls fault) (f : α → Tree → Except Shapeless α) (state : α) :
    nodes.foldlM (fun state node => do f state (← presented adapt node)) state =
      (calls.foldlM f state >>= ending fault) := by
  induction h generalizing state with
  | done => rfl
  | next first _ ih =>
    simp only [List.foldlM_cons, shows_iff.mp first, bind_assoc, ← ih]
    rfl
  | stop first =>
    rw [List.foldlM_cons, breaks_iff.mp first]
    rfl

/-- What a visit records of a node that is presented: the node with its kind, if that is wanted. -/
def recorded? (kinds : List String) (node : Tree) : Option (String × Tree) :=
  node.kind?.bind fun kind => if kinds.contains kind then some (kind, node) else none

/-- A visit is a fold that puts what is recorded in front of the rest, turned round. -/
theorem visit_eq_map (kinds : List String) (adapt : Bool) (t : Tree) :
    t.visit kinds adapt = (t.foldPresented adapt
      (fun seen node => .ok ((recorded? kinds node).toList ++ seen)) []).map List.reverse := by
  have hrecord (f : List (String × Tree) → Tree → Except Shapeless (List (String × Tree)))
      (hf : ∀ seen node, f seen node = .ok ((recorded? kinds node).toList ++ seen)) :
      t.foldPresented adapt f [] = t.foldPresented adapt
        (fun seen node => .ok ((recorded? kinds node).toList ++ seen)) [] := by
    have heq : f = fun seen node => .ok ((recorded? kinds node).toList ++ seen) := by
      funext seen node
      exact hf seen node
    rw [heq]
  unfold visit
  rw [hrecord _ fun seen node => ?_]
  · generalize t.foldPresented adapt _ [] = seen
    cases seen <;> rfl
  · unfold recorded?
    cases node.kind? with
    | none => rfl
    | some kind => by_cases h : kind ∈ kinds <;> simp [h, pure, Except.pure]

theorem foldlM_recorded (kinds : List String) (calls : List Tree) (seen : List (String × Tree)) :
    calls.foldlM (fun seen node => .ok ((recorded? kinds node).toList ++ seen)) seen =
      (.ok ((calls.filterMap (recorded? kinds)).reverse ++ seen) : Except Shapeless _) := by
  induction calls generalizing seen with
  | nil => rfl
  | cons node calls ih =>
    refine (ih _).trans ?_
    cases h : recorded? kinds node <;> simp [h]

/-- A visit that records the nodes of some kinds records those that are presented. -/
theorem Presents.visit_eq {calls : List Tree} {fault : Option Shapeless}
    (h : Presents adapt t.preorder calls fault) (kinds : List String) :
    t.visit kinds adapt = ending fault (calls.filterMap (recorded? kinds)) := by
  rw [visit_eq_map, foldPresented, walk_eq_preorder, h.foldlM_eq, foldlM_recorded]
  cases fault <;> simp [ending, bind, Except.bind, Except.map]

/-- The walk with a stack comes by every occurrence of a node exactly once, in the order of the document,
which is that of the recursive pre-order. A visit hands over, in this order, each node that has a handler
for the kind of which it is presented, until one of them cannot be presented. -/
theorem walk_visits_preorder (t : Tree) :
    t.walk = t.preorder ∧
      (t.occurrences.map (·.2) = t.walk ∧ (t.occurrences.map (·.1)).Pairwise (· < ·) ∧
        ∀ place u, (place, u) ∈ t.occurrences ↔ Occurs t place u) ∧
      ∀ adapt, ∃ calls fault, Presents adapt t.preorder calls fault ∧
        (fault = none ↔ ∀ node ∈ t.preorder, ∀ s, ¬Breaks adapt node s) ∧
        (fault = none → List.Forall₂ (Shows adapt) t.preorder calls) ∧
        (∀ kinds, t.visit kinds adapt = ending fault (calls.filterMap (recorded? kinds))) ∧
        ∀ (α : Type) (handlers : Handlers α) (state : α),
          t.foldPresented adapt handlers.call state =
            ((calls.filter handlers.has).foldlM handlers.call state >>= ending fault) := by
  refine ⟨walk_eq_preorder t, ⟨?_, pairwise_occurrences t, fun _ _ => mem_occurrences_iff⟩, ?_⟩
  · rw [map_snd_occurrences, walk_eq_preorder]
  · intro adapt
    obtain ⟨calls, fault, hpresents⟩ := exists_presents adapt t.preorder
    refine ⟨calls, fault, hpresents, hpresents.fault_eq_none_iff, hpresents.forall₂,
      hpresents.visit_eq, ?_⟩
    intro α handlers state
    rw [foldPresented, walk_eq_preorder, hpresents.foldlM_eq, handlers.foldlM_call_filter]

/-- The tree of an import call whose arguments are a number. -/
def importOfNumber : Tree :=
  .node "CallExpression" [("callee", .node "Import" []), ("arguments", .number (.whole 5))]

/-- Not every import call reaches a handler for import expressions: a number of arguments that is no list
breaks the visit off. -/
theorem visit_importOfNumber_breaks_off :
    ¬∀ (t : Tree), ∀ node ∈ t.preorder, IsImportCall node →
      ∃ seen source, t.visit ["ImportExpression"] true = .ok seen ∧
        ("ImportExpression", importOf source) ∈ seen := by
  intro h
  have hpreorder : importOfNumber.preorder =
      importOfNumber :: importOfNumber.children.flatMap preorder := preorder_eq_cons rfl
  have hcall : IsImportCall importOfNumber := ⟨rfl, rfl⟩
  have hbreaks : Breaks true importOfNumber (.noLength "int") := ⟨⟨rfl, hcall⟩, .number (.whole 5) rfl⟩
  obtain ⟨seen, source, hseen, -⟩ :=
    h importOfNumber importOfNumber (hpreorder ▸ List.mem_cons_self) hcall
  have hpresents : Presents true importOfNumber.preorder [] (some (.noLength "int")) :=
    hpreorder ▸ .stop hbreaks
  rw [hpresents.visit_eq] at hseen
  cases hseen

end Tree

end Specifiers
