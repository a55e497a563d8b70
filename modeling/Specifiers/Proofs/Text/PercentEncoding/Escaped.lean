import Specifiers.Proofs.Text.PercentEncoding

/-!
# Texts with some characters escaped

Any characters of a text can be escaped: the percent signs and digits of their bytes in UTF-8 then stand
in their place (`Escaped`). Where the text itself has no percent sign, it is what the escaped text decodes
to. An escape spells its byte whatever follows, and a character that is not escaped starts no escape, so
the bytes that are read are those of the text.
-/

namespace Specifiers

namespace PercentEncoding

/-- Is a character the digit of a value below sixteen, in lower or in upper case? -/
def IsDigitOf (n : Nat) (c : Char) : Prop := c = Digit.ofValue n ∨ c = (Digit.ofValue n).toUpper

/-- Is a text the escapes of bytes, one after the other? -/
inductive Escapes : List UInt8 → List Char → Prop
  | nil : Escapes [] []
  | cons {b : UInt8} {bs : List UInt8} {high low : Char} {written : List Char}
      (first : IsDigitOf (b.toNat / 16) high) (second : IsDigitOf (b.toNat % 16) low)
      (rest : Escapes bs written) : Escapes (b :: bs) ('%' :: high :: low :: written)

/-- Is the second text the first one, with some characters replaced by the escapes of their bytes? -/
inductive Escaped : List Char → List Char → Prop
  | nil : Escaped [] []
  | literal {cs es : List Char} (c : Char) (rest : Escaped cs es) : Escaped (c :: cs) (c :: es)
  | escape {cs es : List Char} (c : Char) (written : List Char)
      (bytes : Escapes (String.utf8EncodeChar c) written) (rest : Escaped cs es) :
      Escaped (c :: cs) (written ++ es)

variable {cs es written : List Char} {bs : List UInt8}

/-- No character need be escaped. -/
theorem Escaped.refl : (cs : List Char) → Escaped cs cs
  | [] => .nil
  | c :: cs => .literal c (refl cs)

theorem IsDigitOf.hexValue? {n : Nat} {c : Char} (h : IsDigitOf n c) (hn : n < 16) :
    Digit.hexValue? c = some n := by
  have hdigits : ∀ n < 16, Digit.hexValue? (Digit.ofValue n) = some n ∧
      Digit.hexValue? (Digit.ofValue n).toUpper = some n := by decide
  rcases h with rfl | rfl
  · exact (hdigits n hn).1
  · exact (hdigits n hn).2

/-- The digits of a byte make its escape, whatever follows. -/
theorem escape?_of_isDigitOf {b : UInt8} {high low : Char} (first : IsDigitOf (b.toNat / 16) high)
    (second : IsDigitOf (b.toNat % 16) low) (rest : List Char) :
    escape? ('%' :: high :: low :: rest) = some (b, rest) := by
  have hb : b.toNat < 256 := b.toNat_lt
  have hbyte : UInt8.ofNat (16 * (b.toNat / 16) + b.toNat % 16) = b := by
    rw [Nat.div_add_mod, UInt8.ofNat_toNat]
  exact escape?_eq_some_iff.mpr ⟨high, low, _, _, rfl, first.hexValue? (by omega),
    second.hexValue? (by omega), hbyte⟩

/-- Escapes spell their bytes, whatever follows. -/
theorem Escapes.bytesFrom_append (h : Escapes bs written) (rest : List Char) :
    bytesFrom 0 (written ++ rest) = bs ++ bytesFrom 0 rest := by
  induction h with
  | nil => rfl
  | cons first second _ ih =>
    rw [List.cons_append, List.cons_append, List.cons_append,
      bytesFrom_of_escape (escape?_of_isDigitOf first second _), ih, List.cons_append]

/-- An escape starts with a percent sign. -/
theorem escape?_of_ne {c : Char} (h : c ≠ '%') : escape? (c :: cs) = none := by
  refine Option.eq_none_iff_forall_ne_some.mpr fun ⟨b, rest⟩ hescape => ?_
  obtain ⟨high, low, _, _, heq, -⟩ := escape?_eq_some_iff.mp hescape
  exact h (List.cons.inj heq).1

/-- An escaped text spells the bytes of the text. -/
theorem Escaped.bytesFrom_eq (h : Escaped cs es) (plain : '%' ∉ cs) :
    bytesFrom 0 es = Utf8.encode cs := by
  induction h with
  | nil => rfl
  | literal c rest ih =>
    rw [List.mem_cons, not_or] at plain
    rw [bytesFrom_of_escape_eq_none (escape?_of_ne (Ne.symm plain.1)), ih plain.2]
    rfl
  | escape c written bytes rest ih =>
    rw [List.mem_cons, not_or] at plain
    rw [bytes.bytesFrom_append, ih plain.2]
    rfl

/-- An escaped text decodes to the text. -/
theorem Escaped.decode_eq (h : Escaped cs es) (plain : '%' ∉ cs) : decode es = cs := by
  rw [decode, h.bytesFrom_eq plain, Utf8.decode_encode]

end PercentEncoding

end Specifiers
