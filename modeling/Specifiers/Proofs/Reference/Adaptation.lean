import Mathlib.Data.List.Basic
import Specifiers.Proofs.Reference

/-!
# What adapting import calls changes

An import call is read as a call when import calls are not adapted, and as an import expression when they
are. As a call it can also cite a plain template, as an import expression it makes the text a module; all
other nodes are read alike. So a tree that has a listing without adaptation has one with it, and the
adapted specifiers are the others without those of template imports (`cites_adapted_iff`).
-/

namespace Specifiers

namespace Reference

open Specifiers.Tree (isKind_iff)

variable {node : Tree} {s : String}

/-! ## One node -/

/-- An import call whose only argument is a plain template of the given text. -/
def ImportsTemplate (node : Tree) (s : String) : Prop :=
  IsImportCall node ∧ ∃ argument, node.field "arguments" = .list [argument] ∧
    IsPlainTemplate argument s

/-- No value is a literal and a template. -/
theorem IsPlainTemplate.not_isLiteral {t : Tree} {s s' : String} (h : IsPlainTemplate t s) :
    ¬IsLiteral t s' := by
  rintro ⟨hliteral, -⟩
  simp [h.1] at hliteral

/-- A template import is cited when import calls are not adapted. -/
theorem ImportsTemplate.cites (h : ImportsTemplate node s) : Cites false node s := by
  obtain ⟨hcall, argument, honly, htemplate⟩ := h
  exact .call argument (by simp) hcall.1 (.inr (.inl hcall.2)) honly (.inr htemplate)

/-- An adapted node cites what it cites otherwise, unless this is the text of a template import. -/
theorem cites_adapted_iff : Cites true node s ↔ Cites false node s ∧ ∀ s', ¬ImportsTemplate node s' := by
  constructor
  · rintro (⟨item, literal⟩ | ⟨argument, -, call, only, literal⟩ |
      ⟨argument, plain, call, callee, only, text⟩)
    · exact ⟨.source item literal, fun _ h => item.kind?_ne h.1.1⟩
    · refine ⟨.call argument (by simp) call.1 (.inr (.inl call.2)) only (.inl literal), fun s' h => ?_⟩
      obtain ⟨-, argument', only', template⟩ := h
      obtain rfl : argument' = argument := by simpa [only] using only'.symm
      exact template.not_isLiteral literal
    · exact ⟨.call argument (by simp) call callee only text, fun _ h => plain ⟨rfl, h.1⟩⟩
  · rintro ⟨⟨item, literal⟩ | ⟨-, adapts, -⟩ | ⟨argument, -, call, callee, only, text⟩, hno⟩
    · exact .source item literal
    · cases adapts
    · by_cases himport : IsImportCall node
      · rcases text with literal | template
        · exact .adapted argument rfl himport only literal
        · exact absurd ⟨himport, argument, only, template⟩ (hno s)
      · exact .call argument (fun h => himport h.2) call callee only text

/-- The specifier of a node that is no template import is the same with adaptation. -/
theorem cited?_adapted (h : ∀ s, ¬ImportsTemplate node s) : cited? true node = cited? false node := by
  refine Option.ext fun s => ?_
  rw [cited?_eq_some_iff, cited?_eq_some_iff, cites_adapted_iff, and_iff_left h]

/-- A template import has a specifier, but none with adaptation. -/
theorem ImportsTemplate.cited?_eq (h : ImportsTemplate node s) :
    cited? true node = none ∧ Reference.cited? false node = some s := by
  refine ⟨?_, cited?_eq_some_iff.mpr h.cites⟩
  refine Option.eq_none_iff_forall_ne_some.mpr fun s' hs' => ?_
  exact (cites_adapted_iff.mp (cited?_eq_some_iff.mp hs')).2 s h

/-- A node that tells what it cites does so with adaptation, too: fewer of its fields are read then. -/
theorem Tells.adapted (h : Tells false node) : Tells true node := by
  obtain ⟨specifier, hspecifier⟩ := h
  have hplain : node.presented false = .ok node := presented_of_not (by simp)
  by_cases himport : IsImportCall node
  · have hcall : ofCall node = .ok specifier := by
      rw [hplain] at hspecifier
      rw [← hspecifier]
      change _ = specifier? node
      rw [specifier?_of_not fun item => item.kind?_ne himport.1, if_pos (isKind_iff.mpr himport.1)]
    rw [ofCall, isRequire_iff.mpr (.inr (.inl himport.2))] at hcall
    obtain ⟨argument?, hsole, -⟩ := bind_eq_ok_iff.mp hcall
    refine ⟨stringLiteral? (argument?.getD .null), ?_⟩
    rw [presented_importCall ⟨rfl, himport⟩, hsole]
    exact specifier?_importExpression _
  · have hadapted : node.presented true = .ok node := presented_of_not fun h => himport h.2
    exact ⟨specifier, by rw [hadapted, ← hplain, hspecifier]⟩

/-! ## All nodes -/

/-- The adapted specifiers of nodes are among the others, in the same order. -/
theorem sublist_cited?_adapted (nodes : List Tree) :
    (nodes.filterMap (cited? true)).Sublist (nodes.filterMap (cited? false)) := by
  induction nodes with
  | nil => exact .slnil
  | cons node nodes ih =>
    by_cases h : ∃ s, ImportsTemplate node s
    · obtain ⟨s, h⟩ := h
      rw [List.filterMap_cons_none h.cited?_eq.1, List.filterMap_cons_some h.cited?_eq.2]
      exact ih.cons s
    · have hnode : cited? true node = cited? false node := cited?_adapted (not_exists.mp h)
      cases hcited : cited? false node with
      | none =>
        rwa [List.filterMap_cons_none (hnode.trans hcited), List.filterMap_cons_none hcited]
      | some s =>
        rw [List.filterMap_cons_some (hnode.trans hcited), List.filterMap_cons_some hcited]
        exact ih.cons_cons s

/-- They are all of them when none of the nodes is a template import: each of these is one fewer. -/
theorem cited?_adapted_eq_iff {nodes : List Tree} :
    nodes.filterMap (cited? true) = nodes.filterMap (cited? false) ↔
      ∀ node ∈ nodes, ∀ s, ¬ImportsTemplate node s := by
  constructor
  · induction nodes with
    | nil => simp
    | cons node nodes ih =>
      intro heq
      by_cases h : ∃ s, ImportsTemplate node s
      · obtain ⟨s, h⟩ := h
        rw [List.filterMap_cons_none h.cited?_eq.1, List.filterMap_cons_some h.cited?_eq.2] at heq
        have hlength := (sublist_cited?_adapted nodes).length_le
        rw [heq, List.length_cons] at hlength
        omega
      · refine List.forall_mem_cons.mpr ⟨not_exists.mp h, ih ?_⟩
        rw [List.filterMap_cons, List.filterMap_cons, cited?_adapted (not_exists.mp h)] at heq
        split at heq
        · exact heq
        · exact (List.cons.inj heq).2
  · exact fun h => List.filterMap_congr fun node hnode => cited?_adapted (h node hnode)

end Reference

open Reference in
/-- When a tree has a listing without adaptation it has one with it. The adapted specifiers are among the
others, in the same order and with repeats; they are all of them when no import call of the tree has a
plain template for its only argument; and the text is a module if it is one otherwise, or has an import
call. -/
theorem references_adapted {seed : Bool} {t : Tree} {l : Listing}
    (h : references seed false t = .ok l) : ∃ adapted, references seed true t = .ok adapted ∧
      adapted.specifiers.Sublist l.specifiers ∧
      (adapted.specifiers = l.specifiers ↔ ¬∃ node ∈ t.preorder, IsImportCall node ∧
        ∃ argument s, node.field "arguments" = .list [argument] ∧ IsPlainTemplate argument s) ∧
      (adapted.isModule = true ↔ l.isModule = true ∨ ∃ node ∈ t.preorder, IsImportCall node) := by
  obtain ⟨htells, hspecifiers, hmodule⟩ := references_eq_ok_iff.mp h
  obtain ⟨adapted, hadapted⟩ : ∃ adapted, references seed true t = .ok adapted :=
    exists_references_iff.mpr fun node hnode => (htells node hnode).adapted
  obtain ⟨-, hspecifiers', hmodule'⟩ := references_eq_ok_iff.mp hadapted
  refine ⟨adapted, hadapted, ?_, ?_, ?_⟩
  · rw [hspecifiers, hspecifiers']
    exact sublist_cited?_adapted _
  · rw [hspecifiers, hspecifiers', cited?_adapted_eq_iff]
    constructor
    · rintro hno ⟨node, hnode, hcall, argument, s, honly, htemplate⟩
      exact hno node hnode s ⟨hcall, argument, honly, htemplate⟩
    · rintro hno node hnode s ⟨hcall, argument, honly, htemplate⟩
      exact hno ⟨node, hnode, hcall, argument, s, honly, htemplate⟩
  · rw [hmodule, hmodule']
    simp [Marks, or_assoc, exists_or, and_or_left]

/-- The tree of a program of two import calls, with a string and with a plain template. -/
def twoImports : Tree :=
  let call (argument : Tree) : Tree :=
    .node "CallExpression" [("callee", .node "Import" []), ("arguments", .list [argument])]
  let quasi : Tree := .node "TemplateElement" [("value", .object [("raw", .text "b")])]
  .node "Program" [("body", .list [call (.node "Literal" [("value", .text "a")]),
    call (.node "TemplateLiteral" [("quasis", .list [quasi]), ("expressions", .list [])])])]

/-- Without adaptation both are cited, and with it only the string. -/
theorem references_adapted_twoImports :
    references false false twoImports = .ok ⟨["a", "b"], false⟩ ∧
      ∃ adapted, references false true twoImports = .ok adapted ∧
        adapted.specifiers.Sublist ["a", "b"] ∧ adapted.specifiers ≠ ["a", "b"] ∧
        adapted.isModule = true := by
  have hplain : references false false twoImports = .ok ⟨["a", "b"], false⟩ := by
    rw [references_eq_map]
    rfl
  obtain ⟨adapted, hadapted, hsublist, heq, hmodule⟩ := references_adapted hplain
  refine ⟨hplain, adapted, hadapted, hsublist, ?_, ?_⟩
  · rw [ne_eq, heq, not_not]
    exact ⟨_, List.mem_of_getElem? (i := 4) rfl, ⟨rfl, rfl⟩, _, "b", rfl, rfl, rfl, _, rfl, rfl⟩
  · exact hmodule.mpr (.inr ⟨_, List.mem_of_getElem? (i := 1) rfl, rfl, rfl⟩)

end Specifiers
