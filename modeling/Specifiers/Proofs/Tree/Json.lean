import Mathlib.Tactic.Common
import Specifiers.Tree.Json

/-!
# How long the text of a tree is

The text of a list or of an object grows with the texts of what is in it (`length_bracketed_lt`). So the
text of a list is longer than that of any other list that is part of it (`length_textAt_list_lt`), and
the text of an object is longer as soon as one of its fields is, and no other is shorter
(`length_textAt_object_lt`).
-/

namespace Specifiers

namespace Json

/-! ## Lines between brackets -/

/-- The room that lines take, each with what stands between two of them. -/
def room (sep : String) : List String → Nat
  | [] => 0
  | s :: lines => s.length + sep.length + room sep lines

/-- Lines with a separator between them take their room, but for one separator. -/
theorem length_intercalate (sep : String) {lines : List String} (h : lines ≠ []) :
    (sep.intercalate lines).length + sep.length = room sep lines := by
  induction lines with
  | nil => exact absurd rfl h
  | cons s lines ih =>
    cases lines with
    | nil => simp [room]
    | cons t lines =>
      have hrest := ih (List.cons_ne_nil t lines)
      rw [String.intercalate_cons_cons, room, ← hrest]
      simp only [String.length_append]
      omega

variable {sep : String} {level : Nat} {lines lines' : List String}

/-- One more line takes more room. -/
theorem room_lt_room_cons (hsep : 0 < sep.length) (s : String) (lines : List String) :
    room sep lines < room sep (s :: lines) := by
  rw [room]
  omega

/-- Taking lines away leaves less room taken. -/
theorem room_lt_of_sublist (hsep : 0 < sep.length) (h : lines.Sublist lines')
    (hne : lines.length ≠ lines'.length) : room sep lines < room sep lines' := by
  induction h with
  | slnil => exact absurd rfl hne
  | @cons xs ys s hsub ih =>
    have hcons := room_lt_room_cons hsep s ys
    by_cases hlength : xs.length = ys.length
    · rw [hsub.eq_of_length hlength]
      exact hcons
    · exact Nat.lt_trans (ih hlength) hcons
  | @cons_cons xs ys s hsub ih =>
    have hrest := ih (by simpa using hne)
    rw [room, room]
    omega

/-- A line that is longer takes more room. -/
theorem room_append_cons_lt (before after : List String) {s s' : String} (h : s.length < s'.length) :
    room sep (before ++ s :: after) < room sep (before ++ s' :: after) := by
  induction before with
  | nil =>
    rw [List.nil_append, List.nil_append, room, room]
    omega
  | cons line before ih =>
    rw [List.cons_append, List.cons_append, room, room]
    omega

section Map

variable {α : Type} {items : List α} {f g : α → String}

/-- Lines that are not longer take no more room. -/
theorem room_map_le (h : ∀ a ∈ items, (f a).length ≤ (g a).length) :
    room sep (items.map f) ≤ room sep (items.map g) := by
  induction items with
  | nil => exact Nat.le_refl _
  | cons a items ih =>
    obtain ⟨ha, hitems⟩ := List.forall_mem_cons.mp h
    have hrest := ih hitems
    rw [List.map_cons, List.map_cons, room, room]
    omega

/-- Lines of which none is longer and one is shorter take less room. -/
theorem room_map_lt (h : ∀ a ∈ items, (f a).length ≤ (g a).length)
    (hlt : ∃ a ∈ items, (f a).length < (g a).length) :
    room sep (items.map f) < room sep (items.map g) := by
  induction items with
  | nil => simp at hlt
  | cons a items ih =>
    obtain ⟨ha, hitems⟩ := List.forall_mem_cons.mp h
    rw [List.map_cons, List.map_cons, room, room]
    obtain ⟨b, hb, hlt⟩ := hlt
    rcases List.mem_cons.mp hb with rfl | hb
    · have hrest := @room_map_le sep _ _ _ _ hitems
      omega
    · have hrest := ih hitems ⟨b, hb, hlt⟩
      omega

end Map

/-- What stands between two lines of brackets at a level. -/
def comma (level : Nat) : String := "," ++ newLine (level + 1)

theorem length_comma_pos (level : Nat) : 0 < (comma level).length := by
  rw [comma, String.length_append]
  exact Nat.add_pos_left (by decide) _

theorem length_newLine_pos (level : Nat) : 0 < (newLine level).length := by
  rw [newLine, String.length_append]
  exact Nat.add_pos_left (by decide) _

/-- How long lines in brackets are. -/
theorem length_bracketed (level : Nat) (start stop : String) (h : lines ≠ []) :
    (bracketed start stop level lines).length + 1 =
      start.length + stop.length + (newLine level).length + room (comma level) lines := by
  have hempty : ¬lines.isEmpty = true := by simpa using h
  have hlines := length_intercalate (comma level) h
  have hcomma : (comma level).length = 1 + (newLine (level + 1)).length := by
    rw [comma, String.length_append]
    rfl
  rw [bracketed, if_neg hempty, ← comma]
  simp only [String.length_append]
  omega

/-- Lines that take more room make a longer text. -/
theorem length_bracketed_lt (start stop : String)
    (h : room (comma level) lines < room (comma level) lines') :
    (bracketed start stop level lines).length < (bracketed start stop level lines').length := by
  have hne' : lines' ≠ [] := by
    rintro rfl
    exact absurd h (Nat.not_lt_zero _)
  have hlength' := length_bracketed level start stop hne'
  by_cases hne : lines = []
  · subst hne
    have hpos := length_newLine_pos level
    have hroom : 0 < room (comma level) lines' := Nat.zero_lt_of_lt h
    have hempty : (bracketed start stop level []).length = start.length + stop.length :=
      String.length_append start stop
    omega
  · have hlength := length_bracketed level start stop hne
    omega

/-! ## Lists and objects -/

/-- The items of a list are written one by one. -/
theorem itemTexts_eq_map (level : Nat) (ts : List Tree) :
    itemTexts level ts = ts.map (textAt level) := by
  induction ts with
  | nil => rfl
  | cons t ts ih => rw [itemTexts, ih, List.map_cons]

/-- The fields of an object are written one by one, each with its name. -/
theorem fieldTexts_eq_map (level : Nat) (fs : List (String × Tree)) :
    fieldTexts level fs = fs.map fun f => quote f.1 ++ ": " ++ textAt level f.2 := by
  induction fs with
  | nil => rfl
  | cons f fs ih => rw [fieldTexts, ih, List.map_cons]

/-- A list is written as its items in brackets. -/
theorem textAt_list (level : Nat) (ts : List Tree) :
    textAt level (.list ts) = bracketed "[" "]" level (ts.map (textAt (level + 1))) := by
  rw [textAt, itemTexts_eq_map]

/-- An object is written as its fields in braces. -/
theorem textAt_object (level : Nat) (fs : List (String × Tree)) :
    textAt level (.object fs) = bracketed "\x7b" "\x7d" level
      (fs.map fun f => quote f.1 ++ ": " ++ textAt (level + 1) f.2) := by
  rw [textAt, fieldTexts_eq_map]

/-- A list from which items have been taken has a shorter text. -/
theorem length_textAt_list_lt {ts ts' : List Tree} (level : Nat) (h : ts.Sublist ts')
    (hne : ts.length ≠ ts'.length) :
    (textAt level (.list ts)).length < (textAt level (.list ts')).length := by
  rw [textAt_list, textAt_list]
  refine length_bracketed_lt "[" "]" (room_lt_of_sublist (length_comma_pos level) (h.map _) ?_)
  rwa [List.length_map, List.length_map]

/-- An object in which the text of a field is shorter, and that of no field longer, has a shorter
text. -/
theorem length_textAt_object_lt {α : Type} (level : Nat) (items : List α) (name : α → String)
    (t t' : α → Tree)
    (le : ∀ a ∈ items, (textAt (level + 1) (t a)).length ≤ (textAt (level + 1) (t' a)).length)
    (lt : ∃ a ∈ items, (textAt (level + 1) (t a)).length < (textAt (level + 1) (t' a)).length) :
    (textAt level (.object (items.map fun a => (name a, t a)))).length <
      (textAt level (.object (items.map fun a => (name a, t' a)))).length := by
  rw [textAt_object, textAt_object, List.map_map, List.map_map]
  refine length_bracketed_lt "\x7b" "\x7d" (room_map_lt (fun a ha => ?_) ?_)
  · have hle := le a ha
    simp only [Function.comp_apply, String.length_append]
    omega
  · obtain ⟨a, ha, hlt⟩ := lt
    refine ⟨a, ha, ?_⟩
    simp only [Function.comp_apply, String.length_append]
    omega

/-- An object in which one field has been made shorter has a shorter text. -/
theorem length_textAt_object_field_lt {level : Nat} (before after : List (String × Tree))
    (name : String) {t t' : Tree}
    (h : (textAt (level + 1) t).length < (textAt (level + 1) t').length) :
    (textAt level (.object (before ++ (name, t) :: after))).length <
      (textAt level (.object (before ++ (name, t') :: after))).length := by
  rw [textAt_object, textAt_object, List.map_append, List.map_append, List.map_cons, List.map_cons]
  refine length_bracketed_lt "\x7b" "\x7d" (room_append_cons_lt _ _ ?_)
  simp only [String.length_append]
  omega

end Json

end Specifiers
