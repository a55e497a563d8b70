import Specifiers.Console.Display
import Specifiers.Proofs.Console.Wrap
import Specifiers.Text.Lowercase

/-!
# Terminals

The display of a terminal with a number of columns. A name of a style is a list of attributes, some of which
have short names too; in whatever order they come, the name is compared in a fixed one. Other names are
compared in small letters. The parameters of actions are taken to be in order. What is put out is in UTF-8,
which has all characters.
-/

namespace Specifiers

namespace Console

/-- The attributes of styles in the order in which they are compared, each with its short name. -/
def attributes : List (String × String) :=
  [("bold", "b"), ("dim", "d"), ("italic", "i"), ("underline", "u"), ("blink", "blink"),
    ("blink2", "blink2"), ("reverse", "r"), ("conceal", "c"), ("strike", "s"), ("underline2", "uu"),
    ("frame", "frame"), ("encircle", "encircle"), ("overline", "o")]

/-- A name of a style as a terminal compares it. -/
def plainStyleName (name : String) : String :=
  let trimmed := lowercase (String.ofList (trimEnd (name.toList.dropWhile isBlank)))
  let named := (words trimmed.toList).map fun word => String.ofList (trimEnd word)
  if named.all fun word => attributes.any fun a => a.1 == word || a.2 == word then
    " ".intercalate ((attributes.filter fun a => named.contains a.1 || named.contains a.2).map (·.1))
  else trimmed

/-- The display of a terminal with `n` columns, which are at least as many as a wide character takes. -/
def Display.ofWidth (n : Nat) (_wide : 2 ≤ n) : Display where
  styleName := plainStyleName
  complaint? _ := none
  wrap := wrapTo n
  refusal? _ := none
  wrap_ne_nil := wrapTo_ne_nil n
  wrap_unbroken text unbroken line hline feed := by
    rcases mem_of_mem_wrapTo hline feed with h | h
    · exact unbroken h
    · exact absurd h (by decide)
  wrap_single _ _ := wrapTo_single

/-- A terminal shows a text as it is that is not too wide and has not too many characters. -/
theorem fits_ofWidth {n : Nat} (wide : 2 ≤ n) {text : List Char} (narrow : width text ≤ n)
    (short : text.length ≤ n) : (Display.ofWidth n wide).Fits text := wrapTo_of_narrow narrow short

/-- A terminal shows a text as it is only if it is not too wide, but for blanks at the end. -/
theorem width_le_of_fits {n : Nat} (wide : 2 ≤ n) {text : List Char}
    (fits : (Display.ofWidth n wide).Fits text) : width (trimEnd text) ≤ n := by
  obtain ⟨whole, hfill, -⟩ := List.map_eq_singleton_iff.mp (show wrapTo n text = [text] from fits)
  obtain ⟨hwhole, hwidth⟩ := fill_eq_singleton (Nat.zero_le n) hfill
  rwa [hwhole, flatten_words, List.nil_append] at hwidth

/-- In a terminal of 80 columns a specifier of 100 characters takes two lines. -/
example : (wrapTo 80 (' ' :: ' ' :: List.replicate 100 'x')).map List.length = [80, 22] := by
  decide +kernel

end Console

end Specifiers
