import Specifiers.Console.EmojiTable
import Specifiers.Text.Blank
import Specifiers.Text.Lowercase
import Specifiers.Text.Split

/-!
# Emoji in messages

A name of an emoji between two colons is shown as the emoji. After the name may come, with a hyphen, in
which of two ways it is to be shown. What stands between two colons without a blank and is no name
stays as it is.
-/

namespace Specifiers

namespace Console

/-- Can the character be part of an emoji? It is one that is seen, and no colon. -/
def isEmojiChar (c : Char) : Bool := ' ' < c && c != ':'

/-- An emoji: the characters that are shown in place of its name. -/
structure Emoji where
  chars : List Char
  nonempty : chars ≠ []
  seen : chars.all isEmojiChar = true

/-- The emoji of these characters. -/
def Emoji.ofChars? (chars : List Char) : Option Emoji :=
  if h : chars ≠ [] ∧ chars.all isEmojiChar = true then some ⟨chars, h.1, h.2⟩ else none

/-- The emoji of a line of the table, when the line is that of the name. -/
def emojiOfLine? (name line : List Char) : Option Emoji :=
  if (name ++ [' ']).isPrefixOf line then Emoji.ofChars? (line.drop (name.length + 1)) else none

/-- The emoji with a name in small letters. -/
def emoji? (name : List Char) : Option Emoji := do
  let first ← name.head?
  let table ← emojiTable.lookup first
  (Split.pieces '\n' table.toList).findSome? (emojiOfLine? name)

/-- The ways to show an emoji, each with the character that asks for it. -/
def variants : List (List Char × Char) :=
  [("-emoji:".toList, '\ufe0f'), ("-text:".toList, '\ufe0e')]

/-- A name between colons, as it stands in a text after the first of them: the name, the character for
a way to show it, if there is one, and what follows the second colon. -/
structure EmojiCode where
  name : List Char
  variant : Option Char
  rest : List Char

/-- Reads a name up to the colon after it; `name` holds its characters so far, the last first. -/
def codeFrom (name : List Char) : List Char → Option EmojiCode
  | [] => none
  | c :: cs =>
    if c == ':' then some ⟨name.reverse, none, cs⟩
    else match variants.find? fun v => v.1.isPrefixOf (c :: cs) with
    | some (suffix, variant) => some ⟨name.reverse, some variant, (c :: cs).drop suffix.length⟩
    | none => if isBlank c then none else codeFrom (c :: name) cs

/-- The emoji of a name between colons. -/
def EmojiCode.shown? (code : EmojiCode) : Option (List Char) :=
  (emoji? (lowercase (String.ofList code.name)).toList).map fun e => e.chars ++ code.variant.toList

/-- Shows the emoji of a text; `skip` is the number of characters that belong to a name already
seen. -/
def showEmojiFrom (skip : Nat) : List Char → List Char
  | [] => []
  | c :: cs =>
    match skip with
    | skip + 1 => showEmojiFrom skip cs
    | 0 =>
      if c == ':' then
        match codeFrom [] cs with
        | some code =>
          let n := cs.length - code.rest.length
          code.shown?.getD (c :: cs.take n) ++ showEmojiFrom n cs
        | none => c :: showEmojiFrom 0 cs
      else c :: showEmojiFrom 0 cs

/-- Shows the emoji of a text. -/
def showEmoji (cs : List Char) : List Char := showEmojiFrom 0 cs

end Console

end Specifiers
