import Specifiers.Tree.Preorder

/-!
# The walk with a stack is the recursive walk

`walk` keeps the nodes still to visit on a stack, `preorder` recurses. Both list a node and then the
nodes below its children: for `preorder` this is `preorder_eq_cons`, read off its recursion over the
fields, and for `walk` it is the invariant of the stack (`toList_walkFrom`): what is still to come is
the pre-order of the stack, item by item. The two meet in `walk_eq_preorder`.
-/

namespace Specifiers

namespace Tree

/-- What is no node has no nodes below it either. -/
theorem preorder_eq_nil {t : Tree} (h : t.isNode = false) : t.preorder = [] := by
  cases t with
  | object fs => simp [preorder, h]
  | _ => rfl

/-- The nodes below the items of a list are those below its nodes. -/
theorem preorderItems_eq_flatMap (ts : List Tree) :
    preorderItems ts = (ts.filter isNode).flatMap preorder := by
  induction ts with
  | nil => rfl
  | cons t ts ih =>
    rw [preorderItems, ih]
    by_cases h : t.isNode
    · rw [List.filter_cons_of_pos h, List.flatMap_cons]
    · rw [List.filter_cons_of_neg h, preorder_eq_nil (by simpa using h), List.nil_append]

/-- The nodes below a single field are those below the nodes that it contributes. -/
theorem preorderFields_singleton (name : String) (t : Tree) :
    preorderFields [(name, t)] = t.nodesOfField.flatMap preorder := by
  cases t with
  | list items => simp [preorderFields, nodesOfField, preorderItems_eq_flatMap]
  | object fs =>
    by_cases h : (object fs).isNode <;> simp [preorderFields, nodesOfField, preorder, h]
  | _ => simp [preorderFields, nodesOfField, preorder]

/-- The nodes below fields come field by field. -/
theorem preorderFields_cons (f : String × Tree) (fs : List (String × Tree)) :
    preorderFields (f :: fs) = f.2.nodesOfField.flatMap preorder ++ preorderFields fs := by
  obtain ⟨name, t⟩ := f
  rw [← preorderFields_singleton name t]
  cases t <;> simp [preorderFields]

/-- The nodes below the fields of an object are those below its children. -/
theorem preorderFields_eq_flatMap (fs : List (String × Tree)) :
    preorderFields fs = (object fs).children.flatMap preorder := by
  induction fs with
  | nil => rfl
  | cons f fs ih =>
    rw [preorderFields_cons, ih]
    simp only [children, fields, List.flatMap_cons, List.flatMap_append]

/-- A node comes first, and then what is below each of its children. -/
theorem preorder_eq_cons {t : Tree} (h : t.isNode) : t.preorder = t :: t.children.flatMap preorder := by
  cases t with
  | object fs => rw [preorder, if_pos h, preorderFields_eq_flatMap]
  | _ => simp [isNode, kind?, field, fields, text?] at h

/-- A child is a node. -/
theorem isNode_of_mem_children {t child : Tree} (h : child ∈ t.children) : child.isNode := by
  obtain ⟨f, -, hf⟩ := List.mem_flatMap.mp h
  rw [nodesOfField.eq_def] at hf
  split at hf
  · exact (List.mem_filter.mp hf).2
  · split at hf
    · rwa [List.mem_singleton.mp hf]
    · exact absurd hf List.not_mem_nil

/-- The invariant of the stack: what the walk still adds is the pre-order of the stack. -/
theorem toList_walkFrom (visited : Array Tree) (stack : List Tree) (h : ∀ t ∈ stack, t.isNode) :
    (walkFrom visited stack).toList = visited.toList ++ stack.flatMap preorder := by
  fun_induction walkFrom visited stack with
  | case1 visited => simp
  | case2 visited t rest ih =>
    have hchildren : ∀ u ∈ t.children ++ rest, u.isNode := by
      intro u hu
      rcases List.mem_append.mp hu with hu | hu
      · exact isNode_of_mem_children hu
      · exact h u (List.mem_cons_of_mem t hu)
    rw [ih hchildren, List.flatMap_cons, preorder_eq_cons (h t List.mem_cons_self)]
    simp only [Array.toList_push, List.flatMap_append, List.append_assoc, List.cons_append,
      List.nil_append]

/-- The walk with a stack gives the recursive pre-order. -/
theorem walk_eq_preorder (t : Tree) : t.walk = t.preorder := by
  by_cases h : t.isNode
  · rw [walk, if_pos h, toList_walkFrom #[] [t] (by simpa using h)]
    simp
  · rw [walk, if_neg h, preorder_eq_nil (by simpa using h)]

end Tree

end Specifiers
