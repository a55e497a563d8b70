import Mathlib.Tactic.Common
import Specifiers.Proofs.Console.Parts

/-!
# The parts of messages with escaped texts

A text is escaped by putting backslashes before its tags (`Part.guarded`) and doubling a single backslash at
its end (`closedCount`). What backslashes at the end come to depends on what follows them in a message, so
they are set apart from the text before them (`toList_escape`). The parts of a message with an escaped text
are the parts of the text, guarded, with what stands before and after them.
-/

namespace Specifiers

namespace Console

variable {cs content body : List Char} {ps : List Part} {count n : Nat}

/-- The part that stands for another one in an escaped text. -/
def Part.guarded : Part → Part
  | plain cs => plain cs
  | tag n content => tag (2 * n + 1) content

/-- The guarded part is written as the part is escaped. -/
theorem chars_guarded (p : Part) : p.guarded.chars = p.escaped := by
  cases p <;> rfl

/-- A part that is guarded can still be one of a message. -/
theorem Part.Stands.guarded {p : Part} (h : p.Stands) : p.guarded.Stands := by
  cases p with
  | plain => exact h
  | tag => exact h

/-- Guarding keeps parts apart, for it adds backslashes to tags only. -/
theorem Splits.map_guarded (h : Splits ps) : Splits (ps.map Part.guarded) where
  stands p hp := by
    obtain ⟨q, hq, rfl⟩ := List.mem_map.mp hp
    exact (h.stands q hq).guarded
  chain := by
    refine List.isChain_map_of_isChain Part.guarded (fun p q hpq => ?_) h.chain
    cases p <;> cases q <;> exact hpq

/-! ## Backslashes at the end -/

/-- Parts with backslashes after them. -/
def withEnd (count : Nat) : List Part → List Part
  | [] => plainPart (slashes count)
  | .tag n content :: ps => .tag n content :: withEnd count ps
  | [.plain cs] => [.plain (cs ++ slashes count)]
  | .plain cs :: p :: ps => .plain cs :: withEnd count (p :: ps)

/-- Backslashes at the end are written after everything else. -/
theorem chars_withEnd (count : Nat) (ps : List Part) :
    (withEnd count ps).flatMap Part.chars = ps.flatMap Part.chars ++ slashes count := by
  induction ps using withEnd.induct with
  | case1 => rw [withEnd, chars_plainPart, reverse_slashes, List.flatMap_nil, List.nil_append]
  | case2 n content ps ih => rw [withEnd, List.flatMap_cons, List.flatMap_cons, ih, List.append_assoc]
  | case3 cs => simp [withEnd, Part.chars]
  | case4 cs p ps ih => rw [withEnd, List.flatMap_cons, ih, ← List.append_assoc, ← List.flatMap_cons]

/-- Guarding leaves backslashes at the end as they are. -/
theorem map_guarded_withEnd (count : Nat) (ps : List Part) :
    (withEnd count ps).map Part.guarded = withEnd count (ps.map Part.guarded) := by
  induction ps using withEnd.induct with
  | case1 =>
    rcases plainPart_eq (slashes count) with ⟨-, h⟩ | ⟨-, h⟩
    · rw [List.map_nil, withEnd, h, List.map_nil]
    · rw [List.map_nil, withEnd, h, List.map_singleton, Part.guarded]
  | case2 n content ps ih => exact congrArg (Part.tag (2 * n + 1) content :: ·) ih
  | case3 cs => rfl
  | case4 cs p ps ih => exact congrArg (Part.plain cs :: ·) ih

/-- No tag starts in backslashes. -/
theorem untagged_slashes (n : Nat) : Untagged (slashes n) := by
  intro u v huv
  have hmem : '[' ∈ slashes n := huv ▸ List.mem_append_right u List.mem_cons_self
  exact absurd (eq_of_mem_slashes hmem) (by decide)

/-- Parts with backslashes after them can be parts of a message again. -/
theorem Splits.withEnd (h : Splits ps) (count : Nat) : Splits (withEnd count ps) := by
  induction ps using withEnd.induct with
  | case1 =>
    refine splits_plainPart ?_
    rw [reverse_slashes]
    exact untagged_slashes count
  | case2 n content ps ih => exact (ih h.of_cons).cons_tag (h.stands _ List.mem_cons_self)
  | case3 cs =>
    obtain ⟨hne, huntagged⟩ : cs ≠ [] ∧ Untagged cs := h.stands _ List.mem_cons_self
    refine ⟨List.forall_mem_singleton.mpr ⟨?_, huntagged.append_slashes count⟩, .singleton _⟩
    exact fun hnil => hne (List.append_eq_nil_iff.mp hnil).1
  | case4 cs p ps ih =>
    obtain ⟨hprecedes, -⟩ := List.isChain_cons_cons.mp h.chain
    cases p with
    | plain => exact hprecedes.elim
    | tag n content =>
      have hrest := ih h.of_cons
      exact ⟨List.forall_mem_cons.mpr ⟨h.stands _ List.mem_cons_self, hrest.stands⟩,
        List.isChain_cons_cons.mpr ⟨hprecedes, hrest.chain⟩⟩

/-- The parts of a text with backslashes after it. -/
theorem parts_append_slashes (cs : List Char) (count : Nat) :
    parts (cs ++ slashes count) = withEnd count (parts cs) := by
  have hchars : (withEnd count (parts cs)).flatMap Part.chars = cs ++ slashes count := by
    rw [chars_withEnd, chars_parts]
  rw [← hchars, parts_chars ((splits_parts cs).withEnd count)]

/-- Backslashes at the end of a text are those of its last part. -/
theorem Splits.getLast?_chars {cs : List Char} (h : Splits (ps ++ [Part.plain cs])) :
    ((ps ++ [Part.plain cs]).flatMap Part.chars).getLast? = cs.getLast? := by
  obtain ⟨hne, -⟩ : cs ≠ [] ∧ Untagged cs := h.stands _ (List.mem_append_right ps List.mem_cons_self)
  rw [List.flatMap_append, List.flatMap_singleton, Part.chars, List.getLast?_append_of_ne_nil _ hne]

/-- What a text is escaped as that does not end with a backslash does not end with one either. -/
theorem getLast?_guarded (last : body.getLast? ≠ some '\\') :
    (((parts body).map Part.guarded).flatMap Part.chars).getLast? ≠ some '\\' := by
  have hsplits := splits_parts body
  have hbody := chars_parts body
  rcases List.eq_nil_or_concat' (parts body) with hnil | ⟨ps, p, hconcat⟩
  · rw [hnil]
    exact nofun
  · rw [hconcat] at hsplits hbody ⊢
    rw [List.map_append, List.map_singleton]
    cases p with
    | plain cs =>
      have hguarded := hsplits.map_guarded
      rw [List.map_append, List.map_singleton] at hguarded
      rw [Part.guarded] at hguarded ⊢
      rw [hguarded.getLast?_chars, ← hsplits.getLast?_chars, hbody]
      exact last
    | tag n content =>
      rw [Part.guarded, List.flatMap_append, List.flatMap_singleton, Part.chars, ← List.append_assoc,
        List.getLast?_concat]
      decide

/-- How many backslashes stand at the end of an escaped text. -/
def closedCount (count : Nat) : Nat := if count = 1 then 2 else count

/-- Only a single backslash at the end is doubled. -/
theorem closeSlash_append_slashes (last : body.getLast? ≠ some '\\') (count : Nat) :
    closeSlash (body ++ slashes count) = body ++ slashes (closedCount count) := by
  have hreverse : (body ++ slashes count).reverse = slashes count ++ body.reverse := by
    rw [List.reverse_append, reverse_slashes]
  have hhead : body.reverse.head? ≠ some '\\' := by rwa [List.head?_reverse]
  rw [closeSlash, hreverse, closedCount]
  -- Which backslashes the end is made of decides, and what comes before them starts with none.
  cases hbody : body.reverse with
  | nil =>
    rcases count with _ | _ | count
    · rfl
    · simp [slashes]
    · rfl
  | cons c cs =>
    have hc : c ≠ '\\' := by simpa [hbody] using hhead
    rcases count with _ | _ | count
    · simp [slashes, hc]
    · simp [slashes, hc]
    · rfl

/-- How a text is escaped that ends with a number of backslashes. -/
theorem toList_escape {s : String} (h : s.toList = body ++ slashes count)
    (last : body.getLast? ≠ some '\\') : (escape s).toList =
      ((parts body).map Part.guarded).flatMap Part.chars ++ slashes (closedCount count) := by
  have hescaped : (parts s.toList).flatMap Part.escaped =
      ((parts body).map Part.guarded).flatMap Part.chars ++ slashes count := by
    calc (parts s.toList).flatMap Part.escaped
        = ((parts s.toList).map Part.guarded).flatMap Part.chars := by
          rw [List.flatMap_map]
          exact List.flatMap_congr fun p _ => (chars_guarded p).symm
      _ = ((parts body).map Part.guarded).flatMap Part.chars ++ slashes count := by
          rw [h, parts_append_slashes, map_guarded_withEnd, chars_withEnd]
  rw [escape, hescaped, closeSlash_append_slashes (getLast?_guarded last), String.toList_ofList]

/-! ## Messages -/

/-- Without a bracket no tag starts. -/
theorem untagged_of_not_mem (h : '[' ∉ cs) : Untagged cs := by
  intro u v huv
  exact absurd (huv ▸ List.mem_append_right u List.mem_cons_self) h

/-- Parts before a tag that takes no backslashes from them. -/
theorem Splits.append_tag {qs : List Part} (h : Splits ps)
    (last : (ps.flatMap Part.chars).getLast? ≠ some '\\') (h' : Splits (.tag n content :: qs)) :
    Splits (ps ++ .tag n content :: qs) where
  stands := List.forall_mem_append.mpr ⟨h.stands, h'.stands⟩
  chain := by
    rw [List.isChain_append]
    refine ⟨h.chain, h'.chain, fun p hp q hq => ?_⟩
    obtain rfl : Part.tag n content = q := Option.some.inj hq
    cases p with
    | tag => trivial
    | plain cs =>
      obtain ⟨init, rfl⟩ := List.getLast?_eq_some_iff.mp hp
      rwa [h.getLast?_chars] at last

/-- Parts with two blanks before them. -/
def withBlanks : List Part → List Part
  | [] => [.plain [' ', ' ']]
  | .plain cs :: ps => .plain (' ' :: ' ' :: cs) :: ps
  | .tag n content :: ps => .plain [' ', ' '] :: .tag n content :: ps

/-- Blanks in front are written before everything else. -/
theorem chars_withBlanks (ps : List Part) :
    (withBlanks ps).flatMap Part.chars = ' ' :: ' ' :: ps.flatMap Part.chars := by
  rcases ps with _ | ⟨_ | _, ps⟩ <;> rfl

/-- Guarding leaves blanks in front as they are. -/
theorem map_guarded_withBlanks (ps : List Part) :
    (withBlanks ps).map Part.guarded = withBlanks (ps.map Part.guarded) := by
  rcases ps with _ | ⟨_ | _, ps⟩ <;> rfl

/-- A character other than a bracket in front makes no tag. -/
theorem Untagged.cons (h : Untagged cs) {c : Char} (hc : c ≠ '[') : Untagged (c :: cs) := by
  intro u v huv
  cases u with
  | nil => exact absurd (List.cons.inj huv).1 hc
  | cons d u => exact h u v (List.cons.inj huv).2

/-- Blanks in front go to the first characters, or are a part of their own before a tag. -/
theorem Splits.withBlanks (h : Splits ps) : Splits (withBlanks ps) := by
  have hblanks : Untagged [' ', ' '] := untagged_of_not_mem (by decide)
  rcases ps with _ | ⟨cs | ⟨n, content⟩, ps⟩
  · exact ⟨List.forall_mem_singleton.mpr ⟨List.cons_ne_nil _ _, hblanks⟩, .singleton _⟩
  · obtain ⟨hne, huntagged⟩ : cs ≠ [] ∧ Untagged cs := h.stands _ List.mem_cons_self
    have hplain : Untagged (' ' :: ' ' :: cs) := (huntagged.cons (by decide)).cons (by decide)
    refine ⟨List.forall_mem_cons.mpr ⟨⟨List.cons_ne_nil _ _, hplain⟩, h.of_cons.stands⟩, ?_⟩
    cases ps with
    | nil => exact .singleton _
    | cons p ps =>
      obtain ⟨hprecedes, hchain⟩ := List.isChain_cons_cons.mp h.chain
      cases p with
      | plain => exact hprecedes.elim
      | tag n content =>
        refine List.isChain_cons_cons.mpr ⟨?_, hchain⟩
        obtain ⟨c, cs, rfl⟩ := List.exists_cons_of_ne_nil hne
        exact hprecedes
  · refine ⟨List.forall_mem_cons.mpr ⟨⟨List.cons_ne_nil _ _, hblanks⟩, h.stands⟩, ?_⟩
    exact List.isChain_cons_cons.mpr ⟨by simp [Part.Precedes], h.chain⟩

variable {s : String}

/-- The parts of an escaped text on a line of its own, behind two blanks. -/
theorem parts_line (h : s.toList = body ++ slashes count) (last : body.getLast? ≠ some '\\') :
    parts ("  " ++ escape s).toList =
      (withEnd (closedCount count) (withBlanks (parts body))).map Part.guarded := by
  have hsplits := ((splits_parts body).withBlanks.withEnd (closedCount count)).map_guarded
  rw [← parts_chars hsplits, map_guarded_withEnd, chars_withEnd, map_guarded_withBlanks,
    chars_withBlanks, String.toList_append, toList_escape h last]
  rfl

/-- The message that shows a text as a heading. -/
def heading (s : String) (isModule : Bool) : String :=
  "[bold]" ++ escape s ++ "[/bold] [dim](" ++ (if isModule then "module" else "script") ++ ")[/dim]"

/-- The parts of a heading behind its text. -/
def kindParts (isModule : Bool) : List Part :=
  [.plain [' '], .tag 0 "dim".toList, .plain (if isModule then "(module)" else "(script)").toList,
    .tag 0 "/dim".toList]

/-- The parts of what tells the kind of a file: a tag, a word in parentheses, and the tag that closes it. -/
theorem parts_kind (isModule : Bool) :
    parts (" [dim](" ++ (if isModule then "module" else "script") ++ ")[/dim]").toList =
      kindParts isModule := by
  cases isModule <;> rfl

/-- The parts of a heading with an escaped text. -/
theorem parts_heading (isModule : Bool) (h : s.toList = body ++ slashes count)
    (last : body.getLast? ≠ some '\\') : parts (heading s isModule).toList =
      .tag 0 "bold".toList :: ((parts body).map Part.guarded ++
        .tag (closedCount count) "/bold".toList :: kindParts isModule) := by
  have hbold : IsTag "bold".toList := isTag_of_all (by decide) (by decide)
  have hclose : IsTag "/bold".toList := isTag_of_all (by decide) (by decide)
  let kind := " [dim](" ++ (if isModule then "module" else "script") ++ ")[/dim]"
  have hkind : Splits (kindParts isModule) := parts_kind isModule ▸ splits_parts kind.toList
  have hkindChars : (kindParts isModule).flatMap Part.chars = kind.toList :=
    parts_kind isModule ▸ chars_parts kind.toList
  have hsplits := ((splits_parts body).map_guarded.append_tag (getLast?_guarded last)
    (hkind.cons_tag (n := closedCount count) hclose)).cons_tag (n := 0) hbold
  rw [← parts_chars hsplits]
  refine congrArg parts ?_
  simp only [heading, String.toList_append, toList_escape h last, List.flatMap_cons,
    List.flatMap_append, hkindChars, Part.chars, kind]
  simp [slashes]

end Console

end Specifiers
