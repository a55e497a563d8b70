import Specifiers.Text.Blank

/-!
# Displays

What the printing of messages leaves to the terminal and to the library that draws on it: how names of
styles are compared, whether the parameters of an action can be read, in which lines a line of text is shown
when it may be too long for the terminal, and whether its characters can be put out at all.
-/

namespace Specifiers

namespace Console

/-- A terminal, as far as it has a part in what is put out. -/
structure Display where
  /-- The form in which the name of a style is compared. -/
  styleName : String → String
  /-- What is wrong with the parameters of an action, if something is. -/
  complaint? : List Char → Option String
  /-- The lines in which a line of text is shown. -/
  wrap : List Char → List (List Char)
  /-- What is wrong with characters that are to be put out, if something is: the encoding of what is put out
  need not have all of them. -/
  refusal? : List Char → Option String
  /-- A line of text is shown in one line at least. -/
  wrap_ne_nil : ∀ text, wrap text ≠ []
  /-- The lines are whole. -/
  wrap_unbroken : ∀ text, '\n' ∉ text → ∀ line ∈ wrap text, '\n' ∉ line
  /-- When a text is shown in a single line, only blanks at its end can differ. -/
  wrap_single : ∀ text line, wrap text = [line] → ∃ front rest rest', text = front ++ rest ∧
    line = front ++ rest' ∧ (∀ c ∈ rest, isBlank c = true) ∧ ∀ c ∈ rest', isBlank c = true

namespace Display

/-- A display on which no line is too long. Names of styles are compared as they are, and the parameters of
actions are taken to be in order, as are all characters. -/
def endless : Display where
  styleName := id
  complaint? _ := none
  wrap text := [text]
  refusal? _ := none
  wrap_ne_nil _ := nofun
  wrap_unbroken _ unbroken _ hline := List.mem_singleton.mp hline ▸ unbroken
  wrap_single text _ h := ⟨text, [], [], (List.append_nil text).symm,
    (List.singleton_inj.mp h).symm.trans (List.append_nil text).symm, nofun, nofun⟩

/-- Is a line of text shown in a line, as it is? -/
def Fits (d : Display) (text : List Char) : Prop := d.wrap text = [text]

/-- Is a line of text shown as it is, and can it be put out? -/
def Shows (d : Display) (text : List Char) : Prop :=
  d.Fits text ∧ d.refusal? (text ++ ['\n']) = none

end Display

end Console

end Specifiers
