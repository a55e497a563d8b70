import Mathlib.Data.List.Infix
import Specifiers.Proofs.Text.Utf8
import Specifiers.Text.PercentEncoding

/-!
# What percent decoding keeps and what it shortens

A text without an escape decodes to itself (`decode_of_not_hasEscape`). Any other text gets shorter
(`length_decode_lt`): an escape has three characters, and no step of reading bytes as UTF-8 gives more
than one character for a byte of an escape. That a step never takes a literal character apart is what
the count over `Item`s rests on.
-/

namespace Specifiers

namespace PercentEncoding

/-! ## Escapes -/

/-- Does a text hold a percent sign with two hexadecimal digits after it? -/
def HasEscape (cs : List Char) : Prop :=
  ∃ high low, ['%', high, low] <:+: cs ∧ Digit.isHex high = true ∧ Digit.isHex low = true

/-- The byte of the escape that a text starts with, and the text after it. -/
def escape? : List Char → Option (UInt8 × List Char)
  | '%' :: high :: low :: rest => do
    let h ← Digit.hexValue? high
    let l ← Digit.hexValue? low
    return (UInt8.ofNat (16 * h + l), rest)
  | _ => none

/-- An escape is a percent sign with two digits, which are those of its byte. -/
theorem escape?_eq_some_iff {cs rest : List Char} {b : UInt8} :
    escape? cs = some (b, rest) ↔ ∃ high low h l, cs = '%' :: high :: low :: rest ∧
      Digit.hexValue? high = some h ∧ Digit.hexValue? low = some l ∧ UInt8.ofNat (16 * h + l) = b := by
  constructor
  · intro h
    unfold escape? at h
    split at h
    · next high low tail =>
      cases hh : Digit.hexValue? high <;> cases hl : Digit.hexValue? low <;> simp [hh, hl] at h
      obtain ⟨rfl, rfl⟩ := h
      exact ⟨high, low, _, _, rfl, hh, hl, by simp⟩
    · simp at h
  · rintro ⟨high, low, h, l, rfl, hh, hl, rfl⟩
    simp [escape?, hh, hl]

/-- A text starts with an escape when it starts with a percent sign and two digits. -/
theorem escape?_isSome_iff {cs : List Char} :
    (escape? cs).isSome = true ↔
      ∃ high low, ['%', high, low] <+: cs ∧ Digit.isHex high = true ∧ Digit.isHex low = true := by
  simp only [Digit.isHex, Option.isSome_iff_exists, Prod.exists, escape?_eq_some_iff]
  constructor
  · rintro ⟨b, rest, high, low, h, l, rfl, hh, hl, -⟩
    exact ⟨high, low, ⟨rest, rfl⟩, ⟨h, hh⟩, ⟨l, hl⟩⟩
  · rintro ⟨high, low, ⟨rest, rfl⟩, ⟨h, hh⟩, ⟨l, hl⟩⟩
    exact ⟨_, rest, high, low, h, l, rfl, hh, hl, rfl⟩

theorem not_hasEscape_nil : ¬HasEscape [] := by
  rintro ⟨high, low, h, -⟩
  simpa using h.length_le

/-- An escape is at the start or further on. -/
theorem hasEscape_cons {c : Char} {cs : List Char} :
    HasEscape (c :: cs) ↔ (escape? (c :: cs)).isSome = true ∨ HasEscape cs := by
  simp only [HasEscape, escape?_isSome_iff, List.infix_cons_iff, or_and_right, exists_or]

/-- Is there an escape? One looks for it at every place. -/
def hasEscape : List Char → Bool
  | [] => false
  | c :: cs => (escape? (c :: cs)).isSome || hasEscape cs

/-- Looking at every place finds an escape if there is one. -/
theorem hasEscape_iff {cs : List Char} : hasEscape cs = true ↔ HasEscape cs := by
  induction cs with
  | nil => simp [hasEscape, not_hasEscape_nil]
  | cons c cs ih => rw [hasEscape, Bool.or_eq_true, ih, hasEscape_cons]

instance (cs : List Char) : Decidable (HasEscape cs) := decidable_of_iff _ hasEscape_iff

/-! ## Bytes -/

/-- An escape stands for its byte. -/
theorem bytesFrom_of_escape {cs rest : List Char} {b : UInt8} (h : escape? cs = some (b, rest)) :
    bytesFrom 0 cs = b :: bytesFrom 0 rest := by
  obtain ⟨high, low, h, l, rfl, hh, hl, rfl⟩ := escape?_eq_some_iff.mp h
  simp [bytesFrom, hh, hl]

/-- A character with which no escape starts stands for itself. -/
theorem bytesFrom_of_escape_eq_none {c : Char} {cs : List Char} (h : escape? (c :: cs) = none) :
    bytesFrom 0 (c :: cs) = String.utf8EncodeChar c ++ bytesFrom 0 cs := by
  rw [bytesFrom.eq_def]
  dsimp only
  split
  · next high low rest =>
    split
    · next hh hl => simp [escape?, hh, hl] at h
    · rfl
  · rfl

/-- A text without an escape decodes to itself. -/
theorem decode_of_not_hasEscape {cs : List Char} (h : ¬HasEscape cs) : decode cs = cs := by
  have hbytes : bytesFrom 0 cs = Utf8.encode cs := by
    induction cs with
    | nil => rfl
    | cons c cs ih =>
      rw [hasEscape_cons, not_or, Bool.not_eq_true, Option.isSome_eq_false_iff,
        Option.isNone_iff_eq_none] at h
      rw [bytesFrom_of_escape_eq_none h.1, ih h.2]
      rfl
  rw [decode, hbytes, Utf8.decode_encode]

/-! ## Counting characters -/

/-- What a percent-encoded text is made of: characters that stand for themselves, and escapes, which
stand for bytes. -/
inductive Item
  | char (c : Char)
  | escape (b : UInt8)

/-- The bytes of an item. -/
def Item.bytes : Item → List UInt8
  | char c => String.utf8EncodeChar c
  | escape b => [b]

/-- Tails at the start of the bytes of items are those of as many escapes. -/
theorem drop_bytes {items : List Item} {k : Nat} (hk : k ≤ (items.flatMap Item.bytes).length)
    (tails : ∀ b ∈ (items.flatMap Item.bytes).take k, Utf8.IsTail b) :
    (items.flatMap Item.bytes).drop k = (items.drop k).flatMap Item.bytes := by
  induction k generalizing items with
  | zero => rfl
  | succ k ih =>
    cases items with
    | nil => rfl
    | cons item items =>
      cases item with
      | char c =>
        obtain ⟨b, bs, hbytes, hb, -⟩ := Utf8.exists_encode_eq_cons c
        rw [List.flatMap_cons, Item.bytes, hbytes] at tails
        exact absurd (tails b List.mem_cons_self) hb
      | escape b => exact ih (by simpa [Item.bytes] using hk) fun b hb => tails b (List.mem_cons_of_mem _ hb)

/-- Items decode to one character each at most. -/
theorem length_decode_bytes_le (items : List Item) :
    (Utf8.decode (items.flatMap Item.bytes)).length ≤ items.length := by
  induction hn : items.length using Nat.strongRecOn generalizing items with
  | ind n ih =>
    cases items with
    | nil => simp
    | cons item items =>
      subst hn
      rw [List.flatMap_cons, List.length_cons]
      cases item with
      | char c =>
        have hrest := ih items.length (by simp) items rfl
        rw [Item.bytes, Utf8.decode_encodeChar_append, List.length_cons]
        omega
      | escape b =>
        -- The step at the escape takes tails with it, and they are escapes, too.
        obtain ⟨k, hk, htaken, htail⟩ := Utf8.exists_taken_step b (items.flatMap Item.bytes)
        have hlength : (items.drop k).length ≤ items.length := by simp
        have hrest := ih (items.drop k).length (by rw [List.length_cons]; omega) (items.drop k) rfl
        rw [Item.bytes, List.singleton_append, Utf8.decode_cons, htaken, Nat.add_sub_cancel,
          drop_bytes hk htail, List.length_cons]
        omega

/-- A text is made of items: fewer than its characters if it has an escape. -/
theorem exists_items (cs : List Char) :
    ∃ items : List Item, bytesFrom 0 cs = items.flatMap Item.bytes ∧ items.length ≤ cs.length ∧
      (HasEscape cs → items.length < cs.length) := by
  -- an escape takes three characters at once, so the induction is on the length
  induction hn : cs.length using Nat.strongRecOn generalizing cs with
  | ind n ih =>
    subst hn
    cases cs with
    | nil => exact ⟨[], rfl, le_rfl, fun h => absurd h not_hasEscape_nil⟩
    | cons c cs =>
      cases hescape : escape? (c :: cs) with
      | some r =>
        obtain ⟨b, rest⟩ := r
        have hlength : (c :: cs).length = rest.length + 3 := by
          obtain ⟨_, _, _, _, heq, -⟩ := escape?_eq_some_iff.mp hescape
          rw [heq]
          rfl
        obtain ⟨items, hbytes, hle, -⟩ := ih rest.length (by omega) rest rfl
        have hfewer : (Item.escape b :: items).length < (c :: cs).length := by
          rw [hlength, List.length_cons]
          omega
        refine ⟨.escape b :: items, ?_, hfewer.le, fun _ => hfewer⟩
        rw [bytesFrom_of_escape hescape, hbytes]
        rfl
      | none =>
        obtain ⟨items, hbytes, hle, hlt⟩ := ih cs.length (by simp) cs rfl
        refine ⟨.char c :: items, ?_, by simpa using hle, fun h => ?_⟩
        · rw [bytesFrom_of_escape_eq_none hescape, hbytes]
          rfl
        · rw [hasEscape_cons, hescape] at h
          simpa using hlt (by simpa using h)

/-- Decoding makes a text with an escape shorter. -/
theorem length_decode_lt {cs : List Char} (h : HasEscape cs) : (decode cs).length < cs.length := by
  obtain ⟨items, hbytes, -, hlt⟩ := exists_items cs
  rw [decode, hbytes]
  exact (length_decode_bytes_le items).trans_lt (hlt h)

end PercentEncoding

end Specifiers
