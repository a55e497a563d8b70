import Specifiers.Grammar.ModuleItem
import Specifiers.Proofs.Grammar.Expression

/-!
# Reading the statements that refer to a module

An expression that ends with a semicolon is a statement; an import of nothing and an export of everything
are items of a module. In a script the last two are rejected at their first token.
-/

namespace Specifiers

namespace Grammar

variable {m : Bool} {n : Nat} {nested : Nested} {ls ls' : List Lexeme} {l : Lexeme} {e : Tree}
  {value raw : String}

/-! ## Expressions as statements -/

theorem reads_expression (h : Reads m n (nested .assignment) ls (· = e) (.punctuator ";" :: ls')) :
    Reads m n (expression nested) ls (· = e) (.punctuator ";" :: ls') := by
  unfold expression
  exact (reads_isolate h).bind_eq (reads_atMark.bind_eq (.if_false rfl (.pure rfl)))

theorem reads_expressionStatement
    (h : Reads m n (nested .assignment) ls (· = e) (.punctuator ";" :: l :: ls')) :
    Reads m n (expressionStatement nested) ls (· = Node.expressionStatement e) (l :: ls') := by
  unfold expressionStatement
  exact (reads_expression h).bind_eq (reads_endStatement.bind_eq (.pure rfl))

/-- A statement that starts with a name, and is no label. -/
theorem reads_labeledStatement (hname : Node.name? e = none)
    (h : Reads m n (nested .assignment) ls (· = e) (.punctuator ";" :: l :: ls')) :
    Reads m n (labeledStatement nested) ls (· = Node.expressionStatement e) (l :: ls') := by
  unfold labeledStatement
  refine (reads_expression h).bind_eq ?_
  simp only [hname]
  exact reads_endStatement.bind_eq (.pure rfl)

/-- Before an item, what the last expression could be is forgotten. -/
theorem reads_forget :
    Reads m n (setCover ({ · with isAssignmentTarget := true, isBindingElement := true })) ls
      (· = ()) ls :=
  reads_setCover fun _ h => h

/-- An item that starts with a name is an expression. -/
theorem reads_listItem_identifier {name : String} (hasync : name ≠ "async") (hname : Node.name? e = none)
    (h : Reads m n (nested .assignment) (.identifier name :: ls) (· = e) (.punctuator ";" :: l :: ls')) :
    Reads m n (listItem nested) (.identifier name :: ls) (· = Node.expressionStatement e)
      (l :: ls') := by
  have hstatement : Reads m n (statement nested) (.identifier name :: ls)
      (· = Node.expressionStatement e) (l :: ls') := by
    unfold statement
    refine reads_lookahead.bind_eq ?_
    exact (reads_atAsyncFunction hasync).bind_eq (.if_false rfl (reads_labeledStatement hname h))
  unfold listItem
  exact reads_forget.bind_eq (reads_lookahead.bind_eq hstatement)

/-- An item that starts with an import call is an expression. -/
theorem reads_listItem_importCall
    (h : Reads m n (nested .assignment) (.keyword "import" :: .punctuator "(" :: ls) (· = e)
      (.punctuator ";" :: l :: ls')) :
    Reads m n (listItem nested) (.keyword "import" :: .punctuator "(" :: ls)
      (· = Node.expressionStatement e) (l :: ls') := by
  unfold listItem
  refine reads_forget.bind_eq (reads_lookahead.bind_eq ?_)
  exact reads_atImportCall.bind_eq (.if_true rfl (reads_expressionStatement h))

/-! ## Imports and exports -/

/-- The name of a module. -/
theorem reads_moduleName :
    Reads m n moduleName (.string value raw false :: l :: ls) (· = Node.literal (.text value))
      (l :: ls) := by
  unfold moduleName
  exact reads_lookahead.bind_eq (reads_take.discard.bind_eq (.pure rfl))

/-- An import of a module for its effects. -/
theorem reads_listItem_import :
    Reads true n (listItem nested)
      (.keyword "import" :: .string value raw false :: .punctuator ";" :: l :: ls)
      (· = Node.importDeclaration [] (Node.literal (.text value))) (l :: ls) := by
  have himport : Reads true n importDeclaration
      (.keyword "import" :: .string value raw false :: .punctuator ";" :: l :: ls)
      (· = Node.importDeclaration [] (Node.literal (.text value))) (l :: ls) := by
    unfold importDeclaration
    refine reads_context.bind_eq (.if_false rfl (reads_expectKeyword.bind_eq ?_))
    refine (reads_ahead _).bind_eq (.if_true rfl (reads_moduleName.bind_eq ?_))
    refine Reads.bind_eq (a := ([], Node.literal (.text value))) (.pure rfl) ?_
    exact reads_endStatement.bind_eq (.pure rfl)
  unfold listItem
  refine reads_forget.bind_eq (reads_lookahead.bind_eq ?_)
  refine reads_atImportCall.bind_eq (.if_false rfl (reads_context.bind_eq (.if_true rfl ?_)))
  exact himport

/-- An export of everything that another module exports. -/
theorem reads_listItem_export :
    Reads true n (listItem nested)
      (.keyword "export" :: .punctuator "*" :: .identifier "from" :: .string value raw false ::
        .punctuator ";" :: l :: ls)
      (· = Node.exportAll (Node.literal (.text value))) (l :: ls) := by
  have hfrom : Reads true n fromClause
      (.identifier "from" :: .string value raw false :: .punctuator ";" :: l :: ls)
      (· = Node.literal (.text value)) (.punctuator ";" :: l :: ls) := by
    unfold fromClause
    refine (reads_ahead _).bind_eq (.if_true rfl ?_)
    exact reads_take.discard.bind_eq reads_moduleName
  have hexport : Reads true n (exportDeclaration nested)
      (.keyword "export" :: .punctuator "*" :: .identifier "from" :: .string value raw false ::
        .punctuator ";" :: l :: ls)
      (· = Node.exportAll (Node.literal (.text value))) (l :: ls) := by
    unfold exportDeclaration
    refine reads_context.bind_eq (.if_false rfl (reads_expectKeyword.bind_eq ?_))
    refine reads_lookahead.bind_eq (reads_take.discard.bind_eq (hfrom.bind_eq ?_))
    exact reads_endStatement.bind_eq (.pure rfl)
  unfold listItem
  refine reads_forget.bind_eq (reads_lookahead.bind_eq ?_)
  exact reads_context.bind_eq (.if_true rfl hexport)

/-- A script has no imports. -/
theorem rejects_listItem_import (hcall : (l == .punctuator "(") = false) :
    Rejects false n (listItem nested) (.keyword "import" :: l :: ls) := by
  unfold listItem
  refine reads_forget.bind_rejects fun _ _ => reads_lookahead.bind_rejects fun _ hl => ?_
  subst hl
  refine reads_atImportCall.bind_rejects fun called hcalled => ?_
  rw [hcalled, hcall]
  refine reads_context.bind_rejects fun c hc => ?_
  subst hc
  exact reads_get.bind_rejects fun s _ => (rejects_rejectToken _ _).bind

/-- A script has no exports. -/
theorem rejects_listItem_export : Rejects false n (listItem nested) (.keyword "export" :: ls) := by
  unfold listItem
  refine reads_forget.bind_rejects fun _ _ => reads_lookahead.bind_rejects fun _ hl => ?_
  subst hl
  refine reads_context.bind_rejects fun c hc => ?_
  subst hc
  exact reads_get.bind_rejects fun s _ => (rejects_rejectToken _ _).bind

end Grammar

end Specifiers
