import Mathlib.Data.List.TakeWhile
import Specifiers.Console.Line

/-!
# Messages without tags in their texts

A text that is put into a message as it is can break the message off, but not a text without an opening
bracket: nothing in it is taken for a tag. Whether what is shown can be put out is up to the display.
-/

namespace Specifiers

namespace Console

variable {front rest before : List Char} {c : Char} {text markup : String} {d : Display}

/-! ## Closing tags -/

/-- The tag with the name of the style that was opened last closes it. -/
theorem applyTag_close (name : List Char) (trimmed : trimEnd (name.dropWhile isBlank) = name)
    (nonempty : name ≠ []) (unassigned : '=' ∉ name) (opened : List OpenTag) (position : Nat) :
    applyTag d (⟨d.styleName (String.ofList name), []⟩ :: opened) ('/' :: name) position = .ok opened := by
  have hname : ('/' :: name).takeWhile (· != '=') = '/' :: name := by
    rw [List.takeWhile_eq_self_iff]
    intro c hc
    rcases List.mem_cons.mp hc with rfl | hc
    · rfl
    · have hne : c ≠ '=' := fun heq => unassigned (heq ▸ hc)
      simpa using hne
  have hempty : ¬name.isEmpty = true := by simpa using nonempty
  -- Without parameters there is nothing to be read when it is closed.
  have hclose (style : String) : OpenTag.close d ⟨style, []⟩ = .ok () := by simp [OpenTag.close]
  simp only [applyTag, hname, trimmed]
  rw [if_neg hempty]
  simp only [List.find?_cons, List.eraseP_cons, beq_self_eq_true, hclose]
  rfl

section Parts

variable {opened opened' : List OpenTag} {position n : Nat} {parts : List Part}
  {content shown : List Char}

/-- Characters are shown before what comes after them. -/
theorem renderFrom_plain (cs : List Char)
    (h : renderFrom d opened (position + (Part.plain cs).size) parts = .ok shown) :
    renderFrom d opened position (.plain cs :: parts) = .ok (shownText cs ++ shown) := by
  rw [renderFrom, h]
  rfl

/-- A tag after an even number of backslashes is one, and half of them are shown. -/
theorem renderFrom_tag (heven : n % 2 = 0)
    (happlied : applyTag d opened content (position + n) = .ok opened')
    (h : renderFrom d opened' (position + (Part.tag n content).size) parts = .ok shown) :
    renderFrom d opened position (.tag n content :: parts) =
      .ok (shownText (slashes (n / 2)) ++ shown) := by
  have hodd : ¬n % 2 = 1 := by omega
  rw [renderFrom, if_neg hodd, happlied]
  show (renderFrom d opened' _ parts >>= fun cs => pure (shownText (slashes (n / 2)) ++ cs)) = _
  rw [h]
  rfl

end Parts

/-! ## Texts without brackets -/

/-- Up to a character that is neither a bracket nor a backslash, characters without an opening bracket go
to the current part. -/
theorem partsFrom_append (bracket : '[' ∉ front) (hc : c ≠ '\\' ∧ c ≠ '[') (count : Nat) :
    partsFrom before count 0 (front ++ c :: rest) =
      partsFrom (c :: front.reverse ++ slashes count ++ before) 0 0 rest := by
  induction front generalizing before count with
  | nil => simp [partsFrom, hc]
  | cons d front ih =>
    obtain ⟨hd, hfront⟩ := List.ne_and_not_mem_of_not_mem_cons bracket
    rw [List.cons_append, partsFrom]
    by_cases hslash : d = '\\'
    · subst hslash
      rw [if_pos (beq_self_eq_true _), ih hfront]
      simp [slashes, List.replicate_succ]
    · rw [if_neg (by simpa using hslash), if_neg (by simpa using hd.symm), ih hfront]
      simp [slashes]

/-- A text without an opening bracket can be shown. -/
theorem exists_render_of_untagged (bracket : '[' ∉ text.toList) (hc : text.toList = front ++ [c])
    (last : c ≠ '\\') : ∃ cs, render d text = .ok cs := by
  obtain ⟨hfront, hc'⟩ : '[' ∉ front ∧ c ≠ '[' := by simpa [hc, eq_comm] using bracket
  have hparts : parts text.toList = plainPart (c :: front.reverse ++ slashes 0 ++ []) := by
    rw [hc, parts, partsFrom_append hfront ⟨last, hc'⟩]
    rfl
  rw [render, hparts]
  exact ⟨_, rfl⟩

/-- Such a text can be shown in green. -/
theorem exists_render_green (bracket : '[' ∉ text.toList) (hc : text.toList = front ++ [c])
    (last : c ≠ '\\') : ∃ cs, render d ("[green]" ++ text ++ "[/green]") = .ok cs := by
  obtain ⟨hfront, hc'⟩ : '[' ∉ front ∧ c ≠ '[' := by simpa [hc, eq_comm] using bracket
  have hopen (cs : List Char) : partsFrom [] 0 0 ("[green]".toList ++ cs) =
      .tag 0 "green".toList :: partsFrom [] 0 0 cs := rfl
  have hclose (before : List Char) : partsFrom before 0 0 "[/green]".toList =
      plainPart before ++ [.tag 0 "/green".toList] := rfl
  have hparts : parts ("[green]" ++ text ++ "[/green]").toList = .tag 0 "green".toList ::
      (plainPart (c :: front.reverse ++ slashes 0 ++ []) ++ [.tag 0 "/green".toList]) := by
    rw [String.toList_append, String.toList_append, hc, parts, List.append_assoc, hopen,
      List.append_assoc, List.singleton_append, partsFrom_append hfront ⟨last, hc'⟩, hclose]
  obtain ⟨cs, hplain⟩ : ∃ cs, plainPart (c :: front.reverse ++ slashes 0 ++ []) = [.plain cs] := ⟨_, rfl⟩
  have hclosed (position : Nat) :
      applyTag d [⟨d.styleName "green", []⟩] "/green".toList position = .ok [] :=
    applyTag_close "green".toList rfl (by decide) (by decide) [] position
  rw [render, hparts, hplain]
  exact ⟨_, renderFrom_tag rfl rfl (renderFrom_plain cs (renderFrom_tag rfl (hclosed _) rfl))⟩

/-! ## Refusals -/

/-- When a message that can be shown is not put out, the display has refused it. -/
theorem exists_refusal_of_line {cs : List Char} {err : MarkupError} (h : render d markup = .ok cs)
    (failed : line d markup = .error err) :
    ∃ shown complaint, d.refusal? shown = some complaint := by
  have hput : put d (shownLines d cs) = .error err := by rw [← failed, line, h]; rfl
  rw [put] at hput
  split at hput
  · cases hput
  · next complaint hcomplaint => exact ⟨_, complaint, hcomplaint⟩

end Console

end Specifiers
