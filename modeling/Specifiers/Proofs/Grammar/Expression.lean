import Specifiers.Grammar.Expression
import Specifiers.Proofs.Grammar.Parse

/-!
# Reading a call with one argument

An expression that consists of a chain of members and calls passes through all levels of expressions
unchanged, when the token after it is a semicolon or a closing parenthesis: no level finds an operator of
its own. A chain in turn is its first operand with one step for each link.
-/

namespace Specifiers

namespace Grammar

variable {m : Bool} {n : Nat} {nested : Nested} {here mid there ls ls' : List Lexeme} {l l' : Lexeme}
  {e base item callee : Tree}

/-! ## Operands -/

/-- The token starts an operand, with no operator and no word of effect before it. -/
structure Lexeme.StartsOperand (l : Lexeme) : Prop where
  noOperator : isUnaryOperator l = false
  noStep : (l == .punctuator "++" || l == .punctuator "--") = false
  noAsync : (l == .identifier "async") = false
  noNew : (l == .keyword "new") = false

/-- The token ends an operand: a semicolon or a closing parenthesis. -/
def Lexeme.EndsOperand (l : Lexeme) : Prop := l = .punctuator ";" ∨ l = .punctuator ")"

/-- No operator stands before an operand, and none after it: so it is read at this level as at the one below.
-/
theorem reads_unary (hstart : l.StartsOperand) (hend : l'.EndsOperand)
    (h : Reads m n (callChain nested) (l :: ls) (· = e) (l' :: ls')) :
    Reads m n (unary nested) (l :: ls) (· = e) (l' :: ls') := by
  unfold unary stepped
  refine (reads_ahead isUnaryOperator).bind_eq (.if_false hstart.noOperator ?_)
  refine reads_context.bind_eq ((reads_ahead _).bind_eq ?_)
  refine (reads_ahead _).bind_eq (.if_false hstart.noStep ?_)
  refine (reads_inherit h).bind_eq (reads_get.bind fun s _ => (reads_ahead _).bind_eq ?_)
  refine .if_false ?_ (.pure rfl)
  rcases hend with rfl | rfl <;> exact Bool.and_false _

/-- It is so at the level of powers. -/
theorem reads_exponentiation (hend : l'.EndsOperand)
    (h : Reads m n (unary nested) (l :: ls) (· = e) (l' :: ls')) :
    Reads m n (exponentiation nested) (l :: ls) (· = e) (l' :: ls') := by
  unfold exponentiation
  refine (reads_inherit h).bind_eq (reads_atMark.bind_eq (.if_false ?_ (.pure rfl)))
  rcases hend with rfl | rfl <;> exact Bool.and_false _

/-- The token after the operand is no binary operator. -/
theorem reads_binary (hend : l'.EndsOperand)
    (h : Reads m n (exponentiation nested) (l :: ls) (· = e) (l' :: ls')) :
    Reads m n (binary nested) (l :: ls) (· = e) (l' :: ls') := by
  unfold binary
  refine (reads_inherit h).bind_eq (Reads.bind_eq (a := ([], e)) (reads_repeated ?_) (.pure rfl))
  refine reads_iterate_none (reads_get.bind fun s hs => ?_) rfl
  have hlevel : precedence s.context.allowIn s.lookahead.lexeme = 0 := by
    rw [hs.ahead.1]
    rcases hend with rfl | rfl <;> rfl
  simp only [hlevel, if_true]
  exact .pure rfl

/-- It is so at the level of conditions. -/
theorem reads_conditional (hend : l'.EndsOperand)
    (h : Reads m n (binary nested) (l :: ls) (· = e) (l' :: ls')) :
    Reads m n (conditional nested) (l :: ls) (· = e) (l' :: ls') := by
  unfold conditional
  refine (reads_inherit h).bind_eq ((reads_accept_other ?_).bind_eq (.if_false rfl (.pure rfl)))
  rcases hend with rfl | rfl <;> rfl

/-- A chain before the end of an operand is an expression without commas. -/
theorem reads_assignment (hstart : l.StartsOperand) (hend : l'.EndsOperand)
    (hkind : e.isKind "ArrowParameterPlaceHolder" = false)
    (h : Reads m n (callChain nested) (l :: ls) (· = e) (l' :: ls')) :
    Reads m n (assignment nested) (l :: ls) (· = e) (l' :: ls') := by
  have hbinary := reads_binary hend (reads_exponentiation hend (reads_unary hstart hend h))
  have hconditional := reads_conditional hend hbinary
  unfold assignment
  refine reads_context.bind_eq ((reads_ahead _).bind_eq ?_)
  refine .if_false rfl (reads_get.bind fun s hs => hconditional.bind_eq ?_)
  have hasync : Reads m n (asyncParameter nested s.lookahead e) (l' :: ls') (· = e) (l' :: ls') := by
    unfold asyncParameter
    refine reads_get.bind fun s' _ => .if_false ?_ (.pure rfl)
    rw [hs.ahead.1, hstart.noAsync]
    rfl
  -- Neither an arrow nor an assignment follows.
  refine hasync.bind_eq (reads_atMark.bind_eq (.if_false ?_ ((reads_ahead _).bind_eq ?_)))
  · rw [hkind]
    rcases hend with rfl | rfl <;> rfl
  · refine .if_false ?_ (.pure rfl)
    rcases hend with rfl | rfl <;> rfl

/-! ## Chains of members and calls -/

/-- One link of a chain: a call, or what follows as a member or a template. -/
def link (nested : Nested) (e : Tree) : Parse (Option Tree) := do
  if ← atMark "(" then return some (← callOf nested none e)
  memberOf nested e

/-- A chain is its first operand with its links, as long as there are some. -/
theorem reads_callChain (hstart : l.StartsOperand)
    (hbase : Reads m n (primary nested) (l :: ls) (· = base) mid)
    (hlinks : Reads m n (iterate (link nested) (n + 2) base) mid (· = e) there) :
    Reads m n (callChain nested) (l :: ls) (· = e) there := by
  have hmember : Reads m n (memberBase nested) (l :: ls) (· = base) mid := by
    unfold memberBase
    exact (reads_ahead _).bind_eq (reads_inherit (.if_false hstart.noNew hbase))
  unfold callChain
  refine reads_get.bind fun s hs => ?_
  have hasync : (if (s.lookahead.lexeme == .identifier "async") = true then some s.lookahead else none) =
      none := by
    rw [hs.ahead.1, hstart.noAsync, if_neg Bool.false_ne_true]
  simp only [hasync]
  refine reads_allowingIn ((reads_ahead _).bind_eq (reads_context.bind_eq (.if_false ?_ ?_)))
  · exact Bool.and_false _
  · exact hmember.bind_eq (reads_repeated hlinks)

/-- No link follows where an operand ends. -/
theorem reads_link_none (hend : l.EndsOperand) :
    Reads m n (link nested e) (l :: ls) (· = none) (l :: ls) := by
  unfold link memberOf
  rcases hend with rfl | rfl
  all_goals
    refine reads_atMark.bind_eq (.if_false rfl (reads_atMark.bind_eq (.if_false rfl ?_)))
    exact reads_atMark.bind_eq (.if_false rfl ((reads_ahead _).bind_eq (.if_false rfl (.pure rfl))))

/-- A member by its name. -/
theorem reads_link_member {name : String} :
    Reads m n (link nested e) (.punctuator "." :: .identifier name :: l :: ls)
      (· = some (Node.member false e (Node.identifier name))) (l :: ls) := by
  have hname :
      Reads m n anyName (.identifier name :: l :: ls) (· = Node.identifier name) (l :: ls) := by
    unfold anyName
    refine reads_take.bind fun t ht => ?_
    rw [ht]
    exact .if_true rfl (.pure rfl)
  unfold link memberOf
  refine reads_atMark.bind_eq (.if_false rfl (reads_atMark.bind_eq (.if_false rfl ?_)))
  refine reads_atMark.bind_eq (.if_true rfl (reads_settleMember.bind_eq (reads_expect.bind_eq ?_)))
  exact hname.bind_eq (.pure rfl)

/-- One argument in parentheses. -/
theorem reads_argumentsBy {argument : Parse Tree} (hclose : (l == .punctuator ")") = false)
    (hspread : (l == .punctuator "...") = false)
    (h : Reads m n argument (l :: ls) (· = item) (.punctuator ")" :: l' :: ls')) :
    Reads m n (argumentsBy nested argument) (.punctuator "(" :: l :: ls) (· = [item]) (l' :: ls') := by
  unfold argumentsBy
  refine reads_expect.bind_eq (Reads.bind_eq (a := ([item], true)) ?_ (reads_expect.bind_eq (.pure rfl)))
  refine reads_repeated ?_
  apply reads_iterate_some (b := ([item], true))
  case h =>
    exact reads_atMark.bind_eq (.if_false hclose (reads_atMark.bind_eq (.if_false hspread
      ((reads_isolate h).bind_eq (reads_atMark.bind_eq (.if_true rfl (.pure rfl)))))))
  case hrest =>
    exact reads_iterate_none (reads_atMark.bind_eq (.if_true rfl (.pure rfl))) rfl

/-- A call with one argument. -/
theorem reads_link_call (hclose : (l == .punctuator ")") = false)
    (hspread : (l == .punctuator "...") = false)
    (h : Reads m n (nested .assignment) (l :: ls) (· = item) (.punctuator ")" :: l' :: ls')) :
    Reads m n (link nested callee) (.punctuator "(" :: l :: ls) (· = some (Node.call callee [item]))
      (l' :: ls') := by
  have hargs : Reads m n (arguments nested) (.punctuator "(" :: l :: ls) (· = [item]) (l' :: ls') :=
    reads_argumentsBy hclose hspread h
  have hcall : Reads m n (callOf nested none callee) (.punctuator "(" :: l :: ls)
      (· = Node.call callee [item]) (l' :: ls') := by
    unfold callOf
    refine reads_get.bind fun s _ => reads_settle.bind_eq (.if_false rfl (hargs.bind_eq ?_))
    exact .if_false (Bool.and_false _) (reads_atMark.bind_eq (.if_false rfl (.pure rfl)))
  unfold link
  exact reads_atMark.bind_eq (.if_true rfl (hcall.bind_eq (.pure rfl)))

/-! ## First operands -/

/-- The identifier does not start a function. -/
theorem reads_atAsyncFunction {name : String} (hasync : name ≠ "async") :
    Reads m n atAsyncFunction (.identifier name :: ls) (· = false) (.identifier name :: ls) := by
  unfold atAsyncFunction
  refine (reads_ahead _).bind_eq (.if_false ?_ (.pure rfl))
  simpa using hasync

/-- A name that is no word of effect. -/
theorem reads_primary_identifier {name : String} (hasync : name ≠ "async") (hawait : name ≠ "await") :
    Reads m n (primary nested) (.identifier name :: l :: ls) (· = Node.identifier name) (l :: ls) := by
  unfold primary
  refine reads_get.bind fun s hs => ?_
  simp only [hs.ahead.1]
  refine .if_false ?_ ((reads_atAsyncFunction hasync).bind_eq (.if_false rfl ?_))
  · simp [hawait]
  · exact reads_take.bind fun t ht => by rw [ht]; exact .pure rfl

/-- A string without octal escapes. -/
theorem reads_primary_string {value raw : String} :
    Reads m n (primary nested) (.string value raw false :: l :: ls) (· = Node.literal (.text value))
      (l :: ls) := by
  unfold primary literal
  refine reads_get.bind fun s hs => ?_
  simp only [hs.ahead.1]
  exact .if_false rfl (reads_settle.bind_eq (reads_take.discard.bind_eq (.pure rfl)))

/-- A template without substitutions. -/
theorem reads_primary_template {raw : String} :
    Reads m n (primary nested) (.template raw true true :: l :: ls)
      (· = Node.templateLiteral [Node.templateElement raw true] []) (l :: ls) := by
  have hpiece : Reads m n templatePiece (.template raw true true :: l :: ls)
      (· = (Node.templateElement raw true, true)) (l :: ls) :=
    reads_lookahead.bind_eq (reads_take.discard.bind_eq (.pure rfl))
  unfold primary
  refine reads_get.bind fun s hs => ?_
  simp only [hs.ahead.1]
  unfold template
  refine (reads_ahead _).bind_eq (.if_true rfl (hpiece.bind_eq ?_))
  refine Reads.bind_eq (a := ([Node.templateElement raw true], [], true)) ?_ (.pure rfl)
  exact reads_repeated (reads_iterate_none (.pure rfl) rfl)

/-- The word `import` before an opening parenthesis, and before anything else. -/
theorem reads_atImportCall :
    Reads m n atImportCall (.keyword "import" :: l :: ls) (· = (l == .punctuator "("))
      (.keyword "import" :: l :: ls) := by
  unfold atImportCall
  refine (reads_ahead _).bind_eq (.if_true rfl ?_)
  exact reads_peek.bind fun t ht => .pure (by rw [ht])

/-- The callee of an import call. -/
theorem reads_primary_import :
    Reads m n (primary nested) (.keyword "import" :: .punctuator "(" :: ls) (· = Node.import')
      (.punctuator "(" :: ls) := by
  unfold primary keywordPrimary
  refine reads_get.bind fun s hs => ?_
  simp only [hs.ahead.1]
  refine reads_context.bind_eq (.if_false (Bool.and_false _) (.if_false (Bool.and_false _) ?_))
  refine reads_settle.bind_eq (reads_atImportCall.bind_eq (.if_true rfl ?_))
  exact reads_take.discard.bind_eq (.pure rfl)

/-! ## Whole expressions -/

/-- A string can start an operand. -/
theorem startsOperand_string {value raw : String} : (Lexeme.string value raw false).StartsOperand :=
  ⟨rfl, rfl, rfl, rfl⟩

/-- A template can start an operand. -/
theorem startsOperand_template {raw : String} : (Lexeme.template raw true true).StartsOperand :=
  ⟨rfl, rfl, rfl, rfl⟩

/-- The word that imports can start one: it is called like a function. -/
theorem startsOperand_import : (Lexeme.keyword "import").StartsOperand :=
  ⟨by decide, by decide, by decide, by decide⟩

/-- A name can start one, but for the one that can make a function. -/
theorem startsOperand_identifier {name : String} (hasync : name ≠ "async") :
    (Lexeme.identifier name).StartsOperand :=
  ⟨rfl, rfl, by simpa using hasync, rfl⟩

/-- An operand without links is an expression. -/
theorem reads_operand (hstart : l.StartsOperand) (hend : l'.EndsOperand)
    (hkind : e.isKind "ArrowParameterPlaceHolder" = false)
    (h : Reads m n (primary nested) (l :: ls) (· = e) (l' :: ls')) :
    Reads m n (assignment nested) (l :: ls) (· = e) (l' :: ls') :=
  reads_assignment hstart hend hkind
    (reads_callChain hstart h (reads_iterate_none (reads_link_none hend) rfl))

/-- The token is read as an argument, with this tree, when it is the last one of a call. -/
structure ReadsArgument (m : Bool) (n : Nat) (nested : Nested) (l : Lexeme) (item : Tree) : Prop where
  noClose : (l == .punctuator ")") = false
  noSpread : (l == .punctuator "...") = false
  reads : ∀ ls, Reads m n (nested .assignment) (l :: .punctuator ")" :: ls) (· = item)
    (.punctuator ")" :: ls)

variable {k : Nat} {a : Lexeme}

/-- The last link of a chain is a call with one argument. -/
theorem reads_iterate_call (harg : ReadsArgument m n nested a item) :
    Reads m n (iterate (link nested) (k + 2) callee)
      (.punctuator "(" :: a :: .punctuator ")" :: .punctuator ";" :: ls)
      (· = Node.call callee [item]) (.punctuator ";" :: ls) :=
  reads_iterate_some (reads_link_call harg.noClose harg.noSpread (harg.reads _))
    (reads_iterate_none (reads_link_none (.inl rfl)) rfl)

/-- A call of a first operand. -/
theorem reads_call (hstart : l.StartsOperand)
    (hbase : Reads m n (primary nested) (l :: ls) (· = callee)
      (.punctuator "(" :: a :: .punctuator ")" :: .punctuator ";" :: ls'))
    (harg : ReadsArgument m n nested a item) :
    Reads m n (assignment nested) (l :: ls) (· = Node.call callee [item]) (.punctuator ";" :: ls') :=
  reads_assignment hstart (.inl rfl) rfl (reads_callChain hstart hbase (reads_iterate_call harg))

/-- A call of a member of a first operand. A text with such a call is not empty. -/
theorem reads_memberCall {name : String} (hn : 0 < n) (hstart : l.StartsOperand)
    (hbase : Reads m n (primary nested) (l :: ls) (· = e) (.punctuator "." :: .identifier name ::
      .punctuator "(" :: a :: .punctuator ")" :: .punctuator ";" :: ls'))
    (harg : ReadsArgument m n nested a item) :
    Reads m n (assignment nested) (l :: ls)
      (· = Node.call (Node.member false e (Node.identifier name)) [item]) (.punctuator ";" :: ls') := by
  obtain ⟨k, rfl⟩ : ∃ k, n = k + 1 := ⟨n - 1, by omega⟩
  refine reads_assignment hstart (.inl rfl) rfl (reads_callChain hstart hbase ?_)
  exact reads_iterate_some reads_link_member (reads_iterate_call harg)

end Grammar

end Specifiers
