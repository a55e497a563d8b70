import Specifiers.Proofs.Grammar.Program
import Specifiers.Proofs.Grammar.Statement
import Specifiers.Proofs.Reference
import Specifiers.Proofs.Resolution

/-!
# The listing of statements that refer to modules

The statements that refer to a module by a plain specifier, each on a line of its own, are listed in
order and with repeats. The text is a script unless one of them is an import or export; then it is
rejected as a script, at the first of these, and read as a module from the start.
-/

namespace Specifiers

open Grammar

namespace Reference

/-- The ways to refer to a module in a statement. -/
inductive Form
  | require
  | requireResolve
  | requireTemplate
  | importCall
  | importDeclaration
  | exportAll
  deriving DecidableEq, Repr

namespace Form

/-- What stands before the specifier in the statement. -/
def opening : Form → String
  | require => "require(\x22"
  | requireResolve => "require.resolve(\x22"
  | requireTemplate => "require(\x60"
  | importCall => "import(\x22"
  | importDeclaration => "import \x22"
  | exportAll => "export * from \x22"

/-- What stands after the specifier in the statement. -/
def closing : Form → String
  | require | requireResolve | importCall => "\x22);"
  | requireTemplate => "\x60);"
  | importDeclaration | exportAll => "\x22;"

/-- The statement that refers to the module of a specifier. -/
def text (form : Form) (specifier : String) : String := form.opening ++ specifier ++ form.closing

/-- Does the statement make its text a module? -/
def marksModule : Form → Bool
  | require | requireResolve | requireTemplate => false
  | importCall | importDeclaration | exportAll => true

/-- Is the statement one that only a module can have? -/
def needsModule : Form → Bool
  | require | requireResolve | requireTemplate | importCall => false
  | importDeclaration | exportAll => true

/-- What only a module can hold marks it as one. -/
theorem marksModule_of_needsModule {form : Form} (h : form.needsModule = true) :
    form.marksModule = true := by
  cases form with
  | importDeclaration | exportAll => rfl
  | _ => exact absurd h (by decide)

/-- The tokens of the statement. -/
def tokens (specifier : String) : Form → List Lexeme
  | require => [.identifier "require", .punctuator "(", .string specifier specifier false,
    .punctuator ")", .punctuator ";"]
  | requireResolve => [.identifier "require", .punctuator ".", .identifier "resolve", .punctuator "(",
    .string specifier specifier false, .punctuator ")", .punctuator ";"]
  | requireTemplate => [.identifier "require", .punctuator "(", .template specifier true true,
    .punctuator ")", .punctuator ";"]
  | importCall => [.keyword "import", .punctuator "(", .string specifier specifier false,
    .punctuator ")", .punctuator ";"]
  | importDeclaration => [.keyword "import", .string specifier specifier false, .punctuator ";"]
  | exportAll => [.keyword "export", .punctuator "*", .identifier "from",
    .string specifier specifier false, .punctuator ";"]

/-- The tree of the statement. -/
def node (specifier : String) : Form → Tree
  | require => Node.expressionStatement
    (Node.call (Node.identifier "require") [Node.literal (.text specifier)])
  | requireResolve => Node.expressionStatement
    (Node.call (Node.member false (Node.identifier "require") (Node.identifier "resolve"))
      [Node.literal (.text specifier)])
  | requireTemplate => Node.expressionStatement
    (Node.call (Node.identifier "require")
      [Node.templateLiteral [Node.templateElement specifier true] []])
  | importCall => Node.expressionStatement (Node.call Node.import' [Node.literal (.text specifier)])
  | importDeclaration => Node.importDeclaration [] (Node.literal (.text specifier))
  | exportAll => Node.exportAll (Node.literal (.text specifier))

end Form

end Reference

/-! ## Spelling -/

namespace Grammar

variable {cs rest : List Char} {ls : List Lexeme}

/-- A word before a character that belongs to no name. -/
theorem spells_word {word : String} {c : Char} {l : Lexeme} (hl : lexemeOfWord word = l)
    (hword : isWord word.toList = true) (hc : IdentifierChar.isPart c = false)
    (steady : l.isSteady = true) (others : Spells (c :: rest) ls) :
    Spells (word.toList ++ c :: rest) (l :: ls) :=
  (hl ▸ yields_word hword (endsName_cons hc)).spells steady others

/-- The name of the function is a word, when no further character of a name follows. -/
theorem spells_require {c : Char} (hc : IdentifierChar.isPart c = false)
    (others : Spells (c :: rest) ls) :
    Spells ("require".toList ++ c :: rest) (.identifier "require" :: ls) :=
  spells_word (by decide) (by decide) hc (by decide) others

/-- So is the name of its method. -/
theorem spells_resolve (others : Spells ('(' :: rest) ls) :
    Spells ("resolve".toList ++ '(' :: rest) (.identifier "resolve" :: ls) :=
  spells_word (by decide) (by decide) (by decide) (by decide) others

/-- The word that imports is a keyword. -/
theorem spells_import {c : Char} (hc : IdentifierChar.isPart c = false)
    (others : Spells (c :: rest) ls) :
    Spells ("import".toList ++ c :: rest) (.keyword "import" :: ls) :=
  spells_word (by decide) (by decide) hc (by decide) others

/-- So is the word that exports. -/
theorem spells_export (others : Spells rest ls) :
    Spells ("export".toList ++ ' ' :: rest) (.keyword "export" :: ls) :=
  spells_word (by decide) (by decide) (by decide) (by decide) (others.blank (.inl rfl))

/-- The word before the name of a module is none. -/
theorem spells_from (others : Spells rest ls) :
    Spells ("from".toList ++ ' ' :: rest) (.identifier "from" :: ls) :=
  spells_word (by decide) (by decide) (by decide) (by decide) (others.blank (.inl rfl))

theorem spells_open (others : Spells rest ls) : Spells ('(' :: rest) (.punctuator "(" :: ls) :=
  (yields_mark (by decide) (by decide) (by decide) rfl (by decide) (by decide) rfl).spells rfl others

theorem spells_close (others : Spells rest ls) : Spells (')' :: rest) (.punctuator ")" :: ls) :=
  (yields_mark (by decide) (by decide) (by decide) rfl (by decide) (by decide) rfl).spells rfl others

theorem spells_semicolon (others : Spells rest ls) : Spells (';' :: rest) (.punctuator ";" :: ls) :=
  (yields_mark (by decide) (by decide) (by decide) rfl (by decide) (by decide) rfl).spells rfl others

/-- A dot before a word. -/
theorem spells_dot (others : Spells ('r' :: rest) ls) :
    Spells ('.' :: 'r' :: rest) (.punctuator "." :: ls) :=
  (yields_mark (by decide) (by decide) (by decide) rfl (by decide) (by decide) rfl).spells rfl others

/-- A star before a space. -/
theorem spells_star (others : Spells (' ' :: rest) ls) :
    Spells ('*' :: ' ' :: rest) (.punctuator "*" :: ls) :=
  (yields_mark (by decide) (by decide) (by decide) rfl (by decide) (by decide) rfl).spells rfl others

/-- A specifier in double quotes is a string when all its characters are plain. -/
theorem spells_string {specifier : String} (h : ∀ c ∈ specifier.toList, IsPlain c)
    (others : Spells rest ls) :
    Spells ('\x22' :: (specifier.toList ++ '\x22' :: rest))
      (.string specifier specifier false :: ls) := by
  have hyields := yields_string h rest
  rw [String.ofList_toList] at hyields
  exact hyields.spells rfl others

/-- Between backticks it is a template without substitutions. -/
theorem spells_template {specifier : String} (h : ∀ c ∈ specifier.toList, IsPlain c)
    (others : Spells rest ls) :
    Spells ('\x60' :: (specifier.toList ++ '\x60' :: rest)) (.template specifier true true :: ls) := by
  have hyields := yields_template h rest
  rw [String.ofList_toList] at hyields
  exact hyields.spells rfl others

end Grammar

namespace Reference

variable {specifier : String} {rest : List Char} {ls : List Lexeme}

/-- The characters of a statement spell its tokens, whatever follows. -/
theorem Form.spells (form : Form) (h : ∀ c ∈ specifier.toList, IsPlain c) (others : Spells rest ls) :
    Spells ((form.text specifier).toList ++ rest) (form.tokens specifier ++ ls) := by
  have hend := spells_close (spells_semicolon others)
  rw [text, String.toList_append, String.toList_append, List.append_assoc, List.append_assoc]
  cases form with
  | require => exact spells_require (by decide) (spells_open (spells_string h hend))
  | requireResolve =>
    exact spells_require (by decide) (spells_dot (spells_resolve (spells_open (spells_string h hend))))
  | requireTemplate => exact spells_require (by decide) (spells_open (spells_template h hend))
  | importCall => exact spells_import (by decide) (spells_open (spells_string h hend))
  | importDeclaration =>
    exact spells_import (by decide) (.blank (.inl rfl) (spells_string h (spells_semicolon others)))
  | exportAll =>
    have hfrom := spells_from (spells_string h (spells_semicolon others))
    exact spells_export (spells_star (.blank (.inl rfl) hfrom))

/-! ## Reading -/

variable {m : Bool} {n d : Nat}

/-- A string is read as an argument. -/
theorem readsArgument_string :
    ReadsArgument m n (parse (d + 1)) (.string specifier specifier false)
      (Node.literal (.text specifier)) :=
  ⟨rfl, rfl, fun _ => reads_operand startsOperand_string (.inr rfl) rfl reads_primary_string⟩

/-- A template is read as an argument. -/
theorem readsArgument_template :
    ReadsArgument m n (parse (d + 1)) (.template specifier true true)
      (Node.templateLiteral [Node.templateElement specifier true] []) :=
  ⟨rfl, rfl, fun _ => reads_operand startsOperand_template (.inr rfl) rfl reads_primary_template⟩

/-- An expression that starts with `require` is an item. -/
theorem reads_requireItem {e : Tree} {ls ls' : List Lexeme} {l : Lexeme} (hname : Node.name? e = none)
    (h : Reads m n (assignment (parse (d + 1))) (.identifier "require" :: ls) (· = e)
      (.punctuator ";" :: l :: ls')) :
    Reads m n (parse (d + 3) .listItem) (.identifier "require" :: ls) (· = Node.expressionStatement e)
      (l :: ls') := by
  show Reads m n (listItem (parse (d + 2))) _ _ _
  exact reads_listItem_identifier (by decide) hname h

/-- The name `require` is read as itself. -/
theorem reads_require {nested : Nested} {l : Lexeme} :
    Reads m n (primary nested) (.identifier "require" :: l :: ls) (· = Node.identifier "require")
      (l :: ls) :=
  reads_primary_identifier (by decide) (by decide)

/-- The name of the function can start an operand. -/
theorem startsOperand_require : (Lexeme.identifier "require").StartsOperand :=
  startsOperand_identifier (by decide)

/-- Each form starts with a token that an item can start with. -/
theorem Form.startsItem (form : Form) : StartsItem (form.tokens specifier) := by
  cases form <;> exact ⟨_, _, rfl, rfl, rfl⟩

/-- A statement that a script can have is an item under both grammars. -/
theorem Form.readsItem_of_not {form : Form} (h : form.needsModule = false) (hn : 0 < n) :
    ReadsItem m n (parse (d + 3)) (form.tokens specifier) (form.node specifier) := by
  refine ⟨form.startsItem, fun l ls' => ?_⟩
  cases form with
  | require =>
    exact reads_requireItem rfl (reads_call startsOperand_require reads_require readsArgument_string)
  | requireResolve =>
    exact reads_requireItem rfl
      (reads_memberCall hn startsOperand_require reads_require readsArgument_string)
  | requireTemplate =>
    exact reads_requireItem rfl (reads_call startsOperand_require reads_require readsArgument_template)
  | importCall =>
    show Reads m n (listItem (parse (d + 2))) _ _ _
    refine reads_listItem_importCall ?_
    show Reads m n (assignment (parse (d + 1))) _ _ _
    exact reads_call startsOperand_import reads_primary_import readsArgument_string
  | importDeclaration => exact absurd h (by decide)
  | exportAll => exact absurd h (by decide)

/-- Every statement is an item of a module. -/
theorem Form.readsItem (form : Form) (hn : 0 < n) :
    ReadsItem true n (parse (d + 3)) (form.tokens specifier) (form.node specifier) := by
  cases hform : form.needsModule with
  | false => exact readsItem_of_not hform hn
  | true =>
    refine ⟨form.startsItem, fun l ls' => ?_⟩
    show Reads true n (listItem (parse (d + 2))) _ _ _
    cases form with
    | importDeclaration => exact reads_listItem_import
    | exportAll => exact reads_listItem_export
    | _ => exact absurd hform (by decide)

/-- A script rejects the statements that need a module. -/
theorem Form.rejects {form : Form} (h : form.needsModule = true) (ls : List Lexeme) :
    Rejects false n (parse (d + 3) .listItem) (form.tokens specifier ++ ls) := by
  show Rejects false n (listItem (parse (d + 2))) _
  cases form with
  | importDeclaration => exact rejects_listItem_import rfl
  | exportAll => exact rejects_listItem_export
  | _ => exact absurd h (by decide)

/-! ## The listing -/

/-- A statement adds its specifier to a listing. -/
theorem Form.foldlM_add (form : Form) (l : Listing) :
    (form.node specifier).preorder.foldlM (fun l node => do add l (← Tree.presented true node)) l =
      .ok ⟨specifier :: l.specifiers, l.isModule || form.marksModule⟩ := by
  obtain ⟨specifiers, isModule⟩ := l
  cases isModule <;> cases form <;> rfl

variable {items : List (Form × String)}

/-- Statements add their specifiers one after the other. -/
theorem foldlM_add_items (l : Listing) :
    (items.flatMap fun i => (i.1.node i.2).preorder).foldlM
      (fun l node => do add l (← Tree.presented true node)) l =
    .ok ⟨(items.map (·.2)).reverse ++ l.specifiers, l.isModule || items.any (·.1.marksModule)⟩ := by
  induction items generalizing l with
  | nil => simp [pure, Except.pure]
  | cons i items ih =>
    rw [List.flatMap_cons, List.foldlM_append, Form.foldlM_add]
    refine (ih _).trans ?_
    simp [Bool.or_assoc]

/-- The children of a program are its items. -/
theorem children_program (name : String) {nodes : List Tree} (h : ∀ t ∈ nodes, t.isNode = true) :
    (Node.program name nodes).children = nodes := by
  have hfilter : nodes.filter Tree.isNode = nodes := List.filter_eq_self.mpr h
  have htext (s : String) : (Tree.text s).isNode = false := rfl
  rw [Node.program, Tree.node, Tree.children]
  simp [Tree.fields, Tree.nodesOfField, hfilter, htext]

/-- The listing of a program of statements. -/
theorem references_program (seed : Bool) (name : String) :
    references seed true (Node.program name (items.map fun i => i.1.node i.2)) =
      .ok ⟨items.map (·.2), seed || items.any (·.1.marksModule)⟩ := by
  have hnodes : ∀ t ∈ items.map fun i => i.1.node i.2, t.isNode = true := by
    intro t ht
    obtain ⟨⟨form, specifier⟩, -, rfl⟩ := List.mem_map.mp ht
    cases form <;> rfl
  -- The program itself refers to nothing.
  have hprogram : (do add ⟨[], seed⟩ (← Tree.presented true
      (Node.program name (items.map fun (i : Form × String) => i.1.node i.2)))) =
        .ok (⟨[], seed⟩ : Listing) := by
    cases seed <;> rfl
  rw [references_eq_map, Tree.preorder_eq_cons rfl, children_program name hnodes, List.flatMap_map,
    List.foldlM_cons, hprogram]
  refine (congrArg _ (foldlM_add_items _)).trans ?_
  simp [Except.map]

/-! ## The text -/

/-- The text of statements, one on each line; `ended` says whether the last line is ended, too. -/
def source (items : List (Form × String)) (ended : Bool) : String :=
  "\n".intercalate (items.map fun i => i.1.text i.2) ++ if ended then "\n" else ""

/-- The characters of the text, statement by statement. -/
theorem toList_source (ended : Bool) :
    (source items ended).toList =
      ['\n'].intercalate (items.map fun i => (i.1.text i.2).toList) ++ if ended then ['\n'] else [] := by
  rw [source, String.toList_append, String.toList_intercalate, List.map_map]
  cases ended <;> rfl

/-- The text spells the tokens of its statements. -/
theorem spells_source (plain : ∀ i ∈ items, ∀ c ∈ i.2.toList, IsPlain c) (ended : Bool) :
    Spells (source items ended).toList (tokensOf (fun i => i.1.tokens i.2) items) := by
  have hend : Spells (if ended then ['\n'] else []) [.endOfInput] := by
    have hend := yields_end.spells rfl (.nil [])
    cases ended with
    | false => exact hend
    | true => exact hend.blank (.inr rfl)
  rw [toList_source]
  induction items with
  | nil => exact hend
  | cons i items ih =>
    have hfirst := plain i List.mem_cons_self
    have ih := ih fun i hi => plain i (List.mem_cons_of_mem _ hi)
    rw [tokensOf_cons]
    -- The last statement has no separator after it.
    cases items with
    | nil => simpa [tokensOf] using i.1.spells hfirst hend
    | cons j items =>
      have hspells := i.1.spells hfirst (ih.blank (.inr rfl))
      simpa [List.append_assoc] using hspells

/-- A text has no fewer characters than statements. -/
theorem length_le_source (items : List (Form × String)) (ended : Bool) :
    items.length ≤ (source items ended).toList.length := by
  -- every item writes one character or more, its opening
  have htext (i : Form × String) : 1 ≤ (i.1.text i.2).toList.length := by
    have hopening : 1 ≤ i.1.opening.toList.length := by
      cases i.1 <;> decide
    rw [Form.text, String.toList_append, String.toList_append, List.length_append, List.length_append]
    omega
  rw [toList_source, List.length_append]
  refine Nat.le_add_right_of_le ?_
  induction items with
  | nil => exact Nat.zero_le _
  | cons i items ih =>
    have hi := htext i
    cases items with
    | nil => simpa using hi
    | cons j items =>
      rw [List.map_cons, List.map_cons, List.intercalate_cons_cons, List.length_append,
        List.length_append, List.length_cons]
      rw [List.map_cons] at ih
      omega

end Reference

/-- A text that spells tokens has no hashbang: no token starts with `#`. -/
theorem stripHashbang_of_spells {text : String} {l : Lexeme} {ls : List Lexeme}
    (h : Spells text.toList (l :: ls)) : stripHashbang text = text := by
  have hhead : ∀ cs, text.toList ≠ '#' :: cs := by
    intro cs hcs
    rw [hcs] at h
    generalize hall : '#' :: cs = all at h
    cases h with
    | @cons gap cs' rest _ _ blank steady first others =>
      cases gap with
      | nil =>
        -- The first token would start with the character, but scanning there fails.
        obtain ⟨p, hp⟩ := first.scans default
        have hscan : scanLexeme ⟨⟨default, '#' :: cs⟩, []⟩ = .error (Place.reject default) := rfl
        rw [List.nil_append] at hall
        rw [← hall, hscan] at hp
        exact absurd hp (by simp)
      | cons c gap =>
        obtain ⟨rfl, -⟩ := List.cons.inj hall
        exact absurd (blank '#' List.mem_cons_self) (by decide)
  have hstrip : Hashbang.strip text.toList = text.toList := by
    unfold Hashbang.strip
    split
    · rename_i cs hcs
      exact absurd hcs (hhead _)
    · rfl
  rw [stripHashbang, hstrip, String.ofList_toList]

/-! ## Extraction -/

/-- The listing of a text that is a script. -/
theorem extract_of_script {levels : Nat} {text : String} {t : Tree} (hstrip : stripHashbang text = text)
    (hscript : parseProgram levels .script text = .ok t) :
    (extract levels text).result = (references false true t).mapError .shapeless := by
  have hanswer (s : Unit) : grammarParser levels text .script s = (.tree t, s) := by
    rw [grammarParser, grammarOutcome, hscript]
  rw [extract, Resolution.extractWith_result, hstrip]
  simp only [Resolution.steps, Resolution.advance, hanswer, Resolution.afterScript, Resolution.listing]

/-- The listing of a text that is a module and no script. -/
theorem extract_of_module {levels : Nat} {text : String} {t : Tree} {r : Rejection}
    (hstrip : stripHashbang text = text)
    (hscript : parseProgram levels .script text = .error (.rejected r))
    (hmodule : parseProgram levels .module' text = .ok t) :
    (extract levels text).result = (references true true t).mapError .shapeless := by
  have hrejected (s : Unit) : grammarParser levels text .script s = (.rejected (.ofRejection r), s) := by
    rw [grammarParser, grammarOutcome, hscript]
  have hanswer (s : Unit) : grammarParser levels text .module' s = (.tree t, s) := by
    rw [grammarParser, grammarOutcome, hmodule]
  rw [extract, Resolution.extractWith_result, hstrip]
  simp only [Resolution.steps, Resolution.advance, hrejected, hanswer, Resolution.afterScript,
    Resolution.afterModule, Resolution.listing]

open Reference in
/-- The listing of statements that refer to modules, each on a line of its own: the specifiers in order
and with repeats, of a module when one of the statements is an import call, an import or an export. Three
levels of goals are enough for it. -/
theorem extract_source (depth : Nat) (items : List (Form × String)) (ended : Bool)
    (plain : ∀ i ∈ items, ∀ c ∈ i.2.toList, IsPlain c) :
    (extract (depth + 3) (source items ended)).result =
      .ok ⟨items.map (·.2), items.any (·.1.marksModule)⟩ := by
  have hspells := spells_source plain ended
  have hlength := length_le_source items ended
  have hpositive : ∀ i ∈ items, 0 < (source items ended).toList.length := fun i hi =>
    Nat.lt_of_lt_of_le (List.length_pos_of_mem hi) hlength
  have hstrip : stripHashbang (source items ended) = source items ended := by
    obtain ⟨l, ls, hls⟩ := tokensOf_eq_cons (fun (i : Form × String) => i.1.tokens i.2) items
    exact stripHashbang_of_spells (hls ▸ hspells)
  cases hfirst : items.find? (·.1.needsModule) with
  | none =>
    -- Every statement can stand in a script; the import calls alone decide.
    have hnone : ∀ i ∈ items, i.1.needsModule = false := by simpa using hfirst
    have htree : parseProgram (depth + 3) .script (source items ended) =
        .ok (Node.program Mode.script.name (items.map fun i => i.1.node i.2)) :=
      parseProgram_eq hspells (fun i hi => Form.readsItem_of_not (hnone i hi) (hpositive i hi)) hlength
    rw [extract_of_script hstrip htree, references_program]
    rfl
  | some i =>
    -- The script attempt ends at the first statement that needs a module.
    obtain ⟨hneeds, before, after, hsplit, hbefore⟩ := List.find?_eq_some_iff_append.mp hfirst
    have hmem : i ∈ items := hsplit ▸ List.mem_append_right before List.mem_cons_self
    have hitems : ∀ j ∈ before, j.1.needsModule = false ∧ j ∈ items := fun j hj =>
      ⟨by simpa using hbefore j hj, hsplit ▸ List.mem_append_left (i :: after) hj⟩
    have hcount : before.length ≤ items.length := by
      rw [hsplit, List.length_append]
      omega
    have hspells' : Spells (source items ended).toList
        (tokensOf (fun i => i.1.tokens i.2) (before ++ i :: after)) := by
      rw [← hsplit]
      exact hspells
    obtain ⟨r, hscript⟩ : ∃ r, parseProgram (depth + 3) .script (source items ended) = .error (.rejected r) :=
      parseProgram_rejects hspells'
        (fun j hj => Form.readsItem_of_not (hitems j hj).1 (hpositive j (hitems j hj).2))
        (Nat.le_trans hcount hlength) i.1.startsItem fun ls => Form.rejects hneeds ls
    have htree : parseProgram (depth + 3) .module' (source items ended) =
        .ok (Node.program Mode.module'.name (items.map fun i => i.1.node i.2)) :=
      parseProgram_eq hspells (fun i hi => i.1.readsItem (hpositive i hi)) hlength
    have hmarks : items.any (·.1.marksModule) = true :=
      List.any_eq_true.mpr ⟨i, hmem, Form.marksModule_of_needsModule hneeds⟩
    rw [extract_of_module hstrip hscript htree, references_program, hmarks]
    rfl

open Reference in
/-- A text of five lines, among them an import call and an export. -/
theorem extract_source_fiveLines :
    (extract 400 (source [(.require, "a"), (.requireTemplate, "./b'"), (.importCall, "c"),
      (.exportAll, "a"), (.requireResolve, "")] true)).result = .ok ⟨["a", "./b'", "c", "a", ""], true⟩ := by
  have hplain (items : List (Form × String))
      (h : items.all (fun i => i.2.toList.all fun c => decide (IsPlain c)) = true) :
      ∀ i ∈ items, ∀ c ∈ i.2.toList, IsPlain c := by
    simpa using h
  exact extract_source 397 _ true (hplain _ (by decide))

end Specifiers
