import Mathlib.Data.List.Basic
import Mathlib.Data.List.Chain
import Mathlib.Data.List.TakeDrop
import Mathlib.Data.List.TakeWhile
import Mathlib.Tactic.Common
import Specifiers.Console.Markup

/-!
# Messages and their parts

The parts of a message are the only ones of their kind (`Splits`) whose characters, one after the other,
are the message: splitting a message and writing parts are inverse to each other (`parts_chars`,
`splits_parts`).
-/

namespace Specifiers

namespace Console

variable {cs content rest before u v : List Char} {c : Char} {count n skip : Nat}

/-! ## Tags -/

/-- Is the character a square bracket? -/
def isBracket (c : Char) : Bool := c == ']' || c == '['

/-- Can characters stand in the brackets of a tag? -/
structure IsTag (content : List Char) : Prop where
  start : ∃ c rest, content = c :: rest ∧ isTagStart c = true
  inside : ∀ c ∈ content, isBracket c = false

/-- That characters are those of a tag can be computed. -/
theorem isTag_of_all {c : Char} (start : isTagStart c = true)
    (inside : (c :: rest).all (fun d => !isBracket d) = true) : IsTag (c :: rest) where
  start := ⟨c, rest, rfl, start⟩
  inside d hd := by simpa using List.all_eq_true.mp inside d hd

/-- What a tag starts with is no bracket. -/
theorem isBracket_of_isTagStart (h : isTagStart c = true) : isBracket c = false := by
  by_contra hbracket
  rw [Bool.not_eq_false, isBracket, Bool.or_eq_true, beq_iff_eq, beq_iff_eq] at hbracket
  rcases hbracket with rfl | rfl
  · exact absurd h (by decide)
  · exact absurd h (by decide)

/-- Up to the first bracket. -/
theorem span_brackets (cs : List Char) : (cs.span fun d => d != ']' && d != '[') =
    (cs.takeWhile fun d => !isBracket d, cs.dropWhile fun d => !isBracket d) := by
  have hsame : (fun d : Char => d != ']' && d != '[') = fun d => !isBracket d := by
    funext d
    rw [isBracket, Bool.not_or]
    rfl
  rw [hsame, List.span_eq_takeWhile_dropWhile]

/-- A text starts with what stands in the brackets of a tag and the bracket that closes it. -/
theorem tagContent?_eq_some_iff :
    tagContent? cs = some content ↔ IsTag content ∧ ∃ rest, cs = content ++ ']' :: rest := by
  constructor
  · intro h
    cases cs with
    | nil => exact nomatch h
    | cons c cs =>
      rw [tagContent?, span_brackets] at h
      split at h
      · next hstart =>
        split at h
        · next inside rest hspan =>
          obtain ⟨htake, hdrop⟩ := Prod.mk.inj hspan
          obtain rfl := Option.some.inj h
          refine ⟨⟨⟨c, inside, rfl, hstart⟩, List.forall_mem_cons.mpr ⟨isBracket_of_isTagStart hstart, ?_⟩⟩,
            rest, ?_⟩
          · intro d hd
            rw [← htake] at hd
            simpa using List.mem_takeWhile_imp hd
          · rw [List.cons_append, ← hdrop, ← htake, List.takeWhile_append_dropWhile]
        · exact nomatch h
      · exact nomatch h
  · rintro ⟨⟨⟨c, inside, rfl, hstart⟩, hinside⟩, rest, rfl⟩
    -- brackets alone end the scan, and a tag has none inside
    have hpass : ∀ d ∈ inside, (!isBracket d) = true := fun d hd => by
      rw [hinside d (List.mem_cons_of_mem c hd), Bool.not_false]
    have hstop : (!isBracket ']') = false := rfl
    rw [List.cons_append, tagContent?, if_pos hstart, span_brackets, List.takeWhile_append_of_pos hpass,
      List.dropWhile_append_of_pos hpass, List.takeWhile_cons_of_neg (by simp [hstop]),
      List.dropWhile_cons_of_neg (by simp [hstop]), List.append_nil]
    rfl

/-- A tag that is there stays there, whatever comes after. -/
theorem tagContent?_append (h : tagContent? cs = some content) (rest : List Char) :
    tagContent? (cs ++ rest) = some content := by
  obtain ⟨htag, after, rfl⟩ := tagContent?_eq_some_iff.mp h
  exact tagContent?_eq_some_iff.mpr ⟨htag, after ++ rest, by rw [List.append_assoc, List.cons_append]⟩

/-- Where no tag starts in a whole text, none starts in its beginning. -/
theorem tagContent?_of_append_eq_none (h : tagContent? (cs ++ rest) = none) : tagContent? cs = none := by
  by_contra hsome
  obtain ⟨content, hcontent⟩ := Option.ne_none_iff_exists'.mp hsome
  exact nomatch h.symm.trans (tagContent?_append hcontent rest)

/-- Can characters come after a text without making a tag of its end: are there none, or does the next
bracket open one? -/
def IsAside (rest : List Char) : Prop :=
  rest = [] ∨ ∃ n after, rest = slashes n ++ '[' :: after

/-- No tag comes to be where the next bracket opens one. -/
theorem tagContent?_append_eq_none (h : tagContent? cs = none) (aside : IsAside rest) :
    tagContent? (cs ++ rest) = none := by
  by_contra hsome
  obtain ⟨content, hcontent⟩ := Option.ne_none_iff_exists'.mp hsome
  obtain ⟨htag, after, happend⟩ := tagContent?_eq_some_iff.mp hcontent
  rcases List.append_eq_append_iff.mp happend with ⟨u, rfl, hrest⟩ | ⟨u, rfl, hu⟩
  · -- The tag would end after the text, behind the next bracket.
    -- Before that bracket there are backslashes only, so it would be among the characters of the tag.
    rcases aside with rfl | ⟨n, after', rfl⟩
    · simp at hrest
    · have hfirst := congrArg (List.find? isBracket) hrest
      have hnone : List.find? isBracket u = none := by
        rw [List.find?_eq_none]
        intro d hd
        rw [htag.inside d (List.mem_append_right cs hd)]
        exact Bool.false_ne_true
      have hslashes : List.find? isBracket (slashes n) = none := by
        rw [List.find?_eq_none]
        intro d hd
        rw [List.eq_of_mem_replicate hd]
        decide
      rw [List.find?_append, hslashes, List.find?_append, hnone] at hfirst
      simp [isBracket] at hfirst
  · cases u with
    | nil =>
      rw [List.nil_append] at hu
      rcases aside with rfl | ⟨n, after', rfl⟩
      · exact nomatch hu
      · cases n with
        | zero => simp [slashes] at hu
        | succ n => simp [slashes, List.replicate_succ] at hu
    | cons d u =>
      obtain ⟨rfl, -⟩ := List.cons.inj hu
      exact nomatch h.symm.trans (tagContent?_eq_some_iff.mpr ⟨htag, u, rfl⟩)

/-! ## Parts -/

/-- Does no tag start among the characters? -/
def Untagged (cs : List Char) : Prop := ∀ u v, cs = u ++ '[' :: v → tagContent? v = none

/-- The characters of a part of a message. -/
def Part.chars : Part → List Char
  | plain cs => cs
  | tag n content => slashes n ++ '[' :: content ++ [']']

/-- Can a part be one of a message, as far as it goes by itself? -/
def Part.Stands : Part → Prop
  | plain cs => cs ≠ [] ∧ Untagged cs
  | tag _ content => IsTag content

/-- Can a part stand right before another one? Characters come before a tag only, and not with a backslash
at their end, which would belong to the tag. -/
def Part.Precedes : Part → Part → Prop
  | plain cs, tag _ _ => cs.getLast? ≠ some '\\'
  | plain _, plain _ => False
  | tag _ _, _ => True

/-- Can these be the parts of a message? -/
structure Splits (ps : List Part) : Prop where
  stands : ∀ p ∈ ps, p.Stands
  chain : ps.IsChain Part.Precedes

/-- The parts after the first can be those of a message, too. -/
theorem Splits.of_cons {p : Part} {ps : List Part} (h : Splits (p :: ps)) : Splits ps where
  stands := (List.forall_mem_cons.mp h.stands).2
  chain := h.chain.of_cons

/-- A tag can stand before any parts. -/
theorem Splits.cons_tag {ps : List Part} (htag : IsTag content) (h : Splits ps) :
    Splits (.tag n content :: ps) where
  stands := List.forall_mem_cons.mpr ⟨htag, h.stands⟩
  chain := by
    rw [List.isChain_cons]
    exact ⟨fun _ _ => trivial, h.chain⟩

/-! ## From parts to a message and back -/

theorem slashes_succ (n : Nat) : slashes (n + 1) = slashes n ++ ['\\'] := List.replicate_succ'

theorem slashes_cons (n : Nat) : slashes (n + 1) = '\\' :: slashes n := List.replicate_succ

theorem slashes_append (n m : Nat) : slashes n ++ slashes m = slashes (n + m) :=
  List.replicate_append_replicate

theorem reverse_slashes (n : Nat) : (slashes n).reverse = slashes n := List.reverse_replicate

theorem eq_of_mem_slashes (h : c ∈ slashes n) : c = '\\' := List.eq_of_mem_replicate h

/-- A bracket before backslashes at the end of a text stands in what comes before them. -/
theorem exists_of_append_slashes (h : cs ++ slashes n = u ++ '[' :: v) :
    ∃ w, cs = u ++ '[' :: w ∧ v = w ++ slashes n := by
  have hslash (a : List Char) (hmem : '[' :: a <:+ slashes n) : False :=
    absurd (eq_of_mem_slashes (hmem.subset List.mem_cons_self)) (by decide)
  rcases List.append_eq_append_iff.mp h with ⟨w, -, hw⟩ | ⟨w, hcs, hw⟩
  · exact (hslash v ⟨w, hw.symm⟩).elim
  · cases w with
    | nil => exact (hslash v ⟨[], hw⟩).elim
    | cons d w =>
      obtain ⟨rfl, hv⟩ := List.cons.inj hw
      exact ⟨w, hcs, hv⟩

/-- Backslashes at the end of a text do not make a tag of it. -/
theorem Untagged.append_slashes (h : Untagged cs) (n : Nat) : Untagged (cs ++ slashes n) := by
  intro u v huv
  obtain ⟨w, rfl, rfl⟩ := exists_of_append_slashes huv
  have hw := h u w rfl
  by_contra hsome
  obtain ⟨content, hcontent⟩ := Option.ne_none_iff_exists'.mp hsome
  have haside : tagContent? (w ++ (slashes n ++ ['['])) = none :=
    tagContent?_append_eq_none hw (.inr ⟨n, [], rfl⟩)
  rw [← List.append_assoc, tagContent?_append hcontent ['[']] at haside
  exact nomatch haside

/-- Characters that belong to a tag already are passed over. -/
theorem partsFrom_skip (before : List Char) (count skip : Nat) (cs : List Char) :
    partsFrom before count skip cs = partsFrom before count 0 (cs.drop skip) := by
  induction cs generalizing skip with
  | nil => rw [List.drop_nil, partsFrom.eq_def, partsFrom.eq_def]
  | cons c cs ih =>
    cases skip with
    | zero => rfl
    | succ skip => rw [partsFrom, ih, List.drop_succ_cons]

/-- A backslash is counted, for it may belong to a tag. -/
theorem partsFrom_slash (before : List Char) (count : Nat) (cs : List Char) :
    partsFrom before count 0 ('\\' :: cs) = partsFrom before (count + 1) 0 cs := by
  rw [partsFrom, if_pos (beq_self_eq_true '\\')]

/-- So are several of them. -/
theorem partsFrom_slashes (before : List Char) (count n : Nat) (rest : List Char) :
    partsFrom before count 0 (slashes n ++ rest) = partsFrom before (count + n) 0 rest := by
  induction n generalizing count with
  | zero => rfl
  | succ n ih =>
    rw [slashes_cons, List.cons_append, partsFrom_slash, ih, Nat.add_right_comm, Nat.add_assoc]

/-- After the content of a tag and its bracket comes the rest. -/
theorem drop_tag (content rest : List Char) :
    (content ++ ']' :: rest).drop (content.length + 1) = rest := by
  rw [List.drop_append, List.drop_eq_nil_of_le (Nat.le_succ _)]
  simp

/-- A tag ends the current part. -/
theorem partsFrom_tag (htag : IsTag content) (before : List Char) (count n : Nat) (rest : List Char) :
    partsFrom before count 0 (slashes n ++ '[' :: (content ++ ']' :: rest)) =
      plainPart before ++ .tag (count + n) content :: parts rest := by
  have hcontent : tagContent? (content ++ ']' :: rest) = some content :=
    tagContent?_eq_some_iff.mpr ⟨htag, rest, rfl⟩
  rw [partsFrom_slashes, partsFrom, if_neg (by decide), if_pos (beq_self_eq_true '[')]
  simp only [hcontent]
  rw [partsFrom_skip, drop_tag, parts]

/-- A character with which no tag starts goes to the current part, with the backslashes before it. -/
theorem partsFrom_cons (slash : c ≠ '\\') (untagged : c = '[' → tagContent? cs = none)
    (before : List Char) (count : Nat) :
    partsFrom before count 0 (c :: cs) = partsFrom (c :: slashes count ++ before) 0 0 cs := by
  rw [partsFrom, if_neg (by simpa using slash)]
  by_cases hbracket : c = '['
  · subst hbracket
    rw [if_pos (beq_self_eq_true '['), untagged rfl]
  · rw [if_neg (by simpa using hbracket)]

/-- Characters among which no tag starts go to the current part, and those that follow go on from there,
when no backslash comes right before. -/
theorem partsFrom_append_of_last
    (untagged : ∀ u v, cs = u ++ '[' :: v → tagContent? (v ++ rest) = none) (nonempty : cs ≠ [])
    (last : cs.getLast? ≠ some '\\') (before : List Char) (count : Nat) :
    partsFrom before count 0 (cs ++ rest) =
      partsFrom (cs.reverse ++ (slashes count ++ before)) 0 0 rest := by
  induction cs generalizing before count with
  | nil => exact absurd rfl nonempty
  | cons c cs ih =>
    have hcs : ∀ u v, cs = u ++ '[' :: v → tagContent? (v ++ rest) = none := fun u v h =>
      untagged (c :: u) v (by rw [h, List.cons_append])
    have hlast (h : cs ≠ []) : cs.getLast? ≠ some '\\' := by
      obtain ⟨d, cs, rfl⟩ := List.exists_cons_of_ne_nil h
      rwa [List.getLast?_cons_cons] at last
    rw [List.cons_append, List.reverse_cons]
    -- backslashes are only counted, and any other character settles those before it as text
    by_cases hslash : c = '\\'
    · subst hslash
      have hnil : cs ≠ [] := by
        rintro rfl
        exact last rfl
      rw [partsFrom_slash, ih hcs hnil (hlast hnil), slashes_cons]
      simp
    · rw [partsFrom_cons hslash fun h => untagged [] cs (by rw [h, List.nil_append])]
      by_cases hnil : cs = []
      · subst hnil
        rfl
      · rw [ih hcs hnil (hlast hnil)]
        simp [slashes]

/-- Characters among which no tag starts are the last part. -/
theorem partsFrom_of_untagged (untagged : Untagged cs) (before : List Char) (count : Nat) :
    partsFrom before count 0 cs = plainPart (cs.reverse ++ (slashes count ++ before)) := by
  induction cs generalizing before count with
  | nil => rfl
  | cons c cs ih =>
    have hcs : Untagged cs := fun u v h => untagged (c :: u) v (by rw [h, List.cons_append])
    rw [List.reverse_cons]
    by_cases hslash : c = '\\'
    · subst hslash
      rw [partsFrom_slash, ih hcs, slashes_cons]
      simp
    · rw [partsFrom_cons hslash fun h => untagged [] cs (by rw [h, List.nil_append]), ih hcs]
      simp [slashes]

/-- The current part is read backwards. -/
theorem plainPart_reverse (h : cs ≠ []) : plainPart cs.reverse = [.plain cs] := by
  rw [plainPart, if_neg (by simpa using h), List.reverse_reverse]

/-- A tag is written in brackets, with its backslashes before them. -/
theorem flatMap_chars_cons_tag (n : Nat) (content : List Char) (ps : List Part) :
    (Part.tag n content :: ps).flatMap Part.chars =
      slashes n ++ '[' :: (content ++ ']' :: ps.flatMap Part.chars) := by
  simp [Part.chars]

/-- A tag in front is found, and the parts after it are those of the rest. -/
theorem parts_cons_tag (htag : IsTag content) (n : Nat) (ps : List Part) :
    parts ((Part.tag n content :: ps).flatMap Part.chars) =
      .tag n content :: parts (ps.flatMap Part.chars) := by
  rw [flatMap_chars_cons_tag, parts, partsFrom_tag htag, Nat.zero_add]
  rfl

/-- Parts are found again in the message that they are written as. -/
theorem parts_chars {ps : List Part} (h : Splits ps) : parts (ps.flatMap Part.chars) = ps := by
  induction ps with
  | nil => rfl
  | cons p ps ih =>
    have hps := h.of_cons
    cases p with
    | tag n content =>
      have htag : IsTag content := h.stands _ List.mem_cons_self
      rw [parts_cons_tag htag, ih hps]
    -- Characters are the last part, or a tag comes after them: two parts of characters would be one.
    | plain cs =>
      obtain ⟨hne, huntagged⟩ : cs ≠ [] ∧ Untagged cs := h.stands _ List.mem_cons_self
      have hplain : plainPart (cs.reverse ++ (slashes 0 ++ [])) = [.plain cs] :=
        (congrArg plainPart (List.append_nil _)).trans (plainPart_reverse hne)
      cases ps with
      | nil => rw [List.flatMap_singleton, parts, Part.chars, partsFrom_of_untagged huntagged, hplain]
      | cons p ps =>
        obtain ⟨hprecedes, -⟩ := List.isChain_cons_cons.mp h.chain
        cases p with
        | plain cs' => exact hprecedes.elim
        | tag n content =>
          have htag : IsTag content := hps.stands _ List.mem_cons_self
          have haside : IsAside ((Part.tag n content :: ps).flatMap Part.chars) :=
            .inr ⟨n, _, flatMap_chars_cons_tag n content ps⟩
          have hparts : parts (ps.flatMap Part.chars) = ps :=
            (List.cons.inj ((parts_cons_tag htag n ps).symm.trans (ih hps))).2
          rw [List.flatMap_cons, parts, Part.chars, partsFrom_append_of_last
            (fun u v huv => tagContent?_append_eq_none (huntagged u v huv) haside) hne hprecedes,
            flatMap_chars_cons_tag, partsFrom_tag htag, hparts, Nat.zero_add]
          exact congrArg (· ++ Part.tag n content :: ps) hplain

/-! ## From a message to parts and back -/

/-- Can `before`, read backwards, and a number of backslashes be what the current part holds before the
rest of a message: does no tag start in it? -/
structure IsOpen (before : List Char) (count : Nat) (rest : List Char) : Prop where
  last : before.head? ≠ some '\\'
  untagged : ∀ u v, before.reverse = u ++ '[' :: v → tagContent? (v ++ (slashes count ++ rest)) = none

/-- Nothing is a current part with which a message can start. -/
theorem isOpen_nil (count : Nat) (rest : List Char) : IsOpen [] count rest where
  last := nofun
  untagged u v h := by simp at h

/-- The current part, closed before a tag or at the end. -/
theorem IsOpen.untagged_reverse (h : IsOpen before count rest) : Untagged before.reverse :=
  fun u v huv => tagContent?_of_append_eq_none (h.untagged u v huv)

/-- A backslash stays with the current part as one of those that are counted. -/
theorem IsOpen.slash (h : IsOpen before count ('\\' :: rest)) : IsOpen before (count + 1) rest where
  last := h.last
  untagged u v huv := by
    rw [slashes_succ, List.append_assoc]
    exact h.untagged u v huv

/-- A character with which no tag starts goes to the current part. -/
theorem IsOpen.cons (h : IsOpen before count (c :: rest)) (slash : c ≠ '\\')
    (untagged : c = '[' → tagContent? rest = none) :
    IsOpen (c :: slashes count ++ before) 0 rest where
  last := by simpa using slash
  untagged u v huv := by
    have hreverse : (c :: slashes count ++ before).reverse = before.reverse ++ slashes count ++ [c] := by
      simp [reverse_slashes]
    rw [hreverse] at huv
    rcases List.eq_nil_or_concat v with rfl | ⟨v, d, rfl⟩
    · -- The bracket is the character itself.
      obtain ⟨-, hc⟩ := List.append_inj' huv rfl
      exact untagged (List.cons.inj hc).1
    · rw [List.concat_eq_append, ← List.cons_append, ← List.append_assoc] at huv
      obtain ⟨hopen, hd⟩ := List.append_inj' huv rfl
      obtain rfl := (List.cons.inj hd).1
      obtain ⟨w, hbefore, rfl⟩ := exists_of_append_slashes hopen
      have hnone := h.untagged u w hbefore
      simpa [slashes] using hnone

/-- The current part is a part unless it is empty. -/
theorem plainPart_eq (before : List Char) :
    (before = [] ∧ plainPart before = []) ∨
      (before.reverse ≠ [] ∧ plainPart before = [.plain before.reverse]) := by
  by_cases hnil : before = []
  · subst hnil
    exact .inl ⟨rfl, rfl⟩
  · have hreverse : before.reverse ≠ [] := by simpa using hnil
    have hplain := plainPart_reverse hreverse
    rw [List.reverse_reverse] at hplain
    exact .inr ⟨hreverse, hplain⟩

/-- Its characters are those read so far, in their order. -/
theorem chars_plainPart (before : List Char) :
    (plainPart before).flatMap Part.chars = before.reverse := by
  rcases plainPart_eq before with ⟨rfl, -⟩ | ⟨-, hplain⟩
  · rfl
  · rw [hplain, List.flatMap_singleton, Part.chars]

/-- Characters among which no tag starts can be the last part. -/
theorem splits_plainPart (untagged : Untagged before.reverse) : Splits (plainPart before) := by
  rcases plainPart_eq before with ⟨-, hplain⟩ | ⟨hne, hplain⟩
  · rw [hplain]
    exact ⟨nofun, .nil⟩
  · rw [hplain]
    exact ⟨List.forall_mem_singleton.mpr ⟨hne, untagged⟩, .singleton _⟩

/-- Characters among which no tag starts can be the part before a tag. -/
theorem splits_plainPart_append {ps : List Part} (untagged : Untagged before.reverse)
    (last : before.head? ≠ some '\\') (h : Splits (.tag n content :: ps)) :
    Splits (plainPart before ++ .tag n content :: ps) := by
  rcases plainPart_eq before with ⟨-, hplain⟩ | ⟨hne, hplain⟩
  · rw [hplain]
    exact h
  · rw [hplain]
    refine ⟨List.forall_mem_cons.mpr ⟨⟨hne, untagged⟩, h.stands⟩, ?_⟩
    exact List.isChain_cons_cons.mpr ⟨by simpa [Part.Precedes] using last, h.chain⟩

/-- Splitting a message goes on rightly from what the current part holds. -/
theorem splits_partsFrom (h : IsOpen before count (cs.drop skip)) :
    Splits (partsFrom before count skip cs) ∧
      (partsFrom before count skip cs).flatMap Part.chars =
        before.reverse ++ (slashes count ++ cs.drop skip) := by
  induction cs generalizing before count skip with
  | nil =>
    have hreverse : (slashes count ++ before).reverse = before.reverse ++ slashes count := by
      rw [List.reverse_append, reverse_slashes]
    rw [partsFrom, chars_plainPart, hreverse, List.drop_nil, List.append_nil]
    -- At the end the backslashes that are counted belong to the part.
    refine ⟨splits_plainPart ?_, rfl⟩
    rw [hreverse]
    exact h.untagged_reverse.append_slashes count
  | cons c cs ih =>
    cases skip with
    | succ skip =>
      rw [partsFrom, List.drop_succ_cons]
      exact ih h
    | zero =>
      rw [List.drop_zero] at h ⊢
      by_cases hslash : c = '\\'
      · subst hslash
        obtain ⟨hsplits, hchars⟩ := @ih before (count + 1) 0 h.slash
        rw [partsFrom_slash, hchars, slashes_succ, List.append_assoc]
        exact ⟨hsplits, rfl⟩
      · by_cases htag : ∃ content, c = '[' ∧ tagContent? cs = some content
        · -- The tag closes the current part, and behind it a new one is open.
          obtain ⟨content, rfl, hcontent⟩ := htag
          obtain ⟨htag, rest, rfl⟩ := tagContent?_eq_some_iff.mp hcontent
          obtain ⟨hsplits, hchars⟩ := @ih [] 0 (content.length + 1) (isOpen_nil _ _)
          rw [partsFrom_skip, drop_tag] at hsplits hchars
          have hparts := partsFrom_tag htag before count 0 rest
          rw [slashes, List.replicate_zero, List.nil_append, Nat.add_zero] at hparts
          rw [hparts]
          refine ⟨splits_plainPart_append h.untagged_reverse h.last (hsplits.cons_tag htag), ?_⟩
          rw [List.flatMap_append, chars_plainPart, List.flatMap_cons, parts, hchars]
          simp [Part.chars, slashes]
        · have huntagged : c = '[' → tagContent? cs = none := by
            intro hc
            by_contra hsome
            obtain ⟨content, hcontent⟩ := Option.ne_none_iff_exists'.mp hsome
            exact htag ⟨content, hc, hcontent⟩
          obtain ⟨hsplits, hchars⟩ := @ih (c :: slashes count ++ before) 0 0 (h.cons hslash huntagged)
          rw [partsFrom_cons hslash huntagged, hchars]
          refine ⟨hsplits, ?_⟩
          simp [slashes]

/-- The parts of a message can be its parts. -/
theorem splits_parts (cs : List Char) : Splits (parts cs) := (splits_partsFrom (isOpen_nil 0 cs)).1

/-- The parts of a message, one after the other, are the message. -/
theorem chars_parts (cs : List Char) : (parts cs).flatMap Part.chars = cs :=
  (splits_partsFrom (isOpen_nil 0 cs)).2

end Console

end Specifiers
