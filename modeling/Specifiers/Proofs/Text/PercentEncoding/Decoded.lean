import Specifiers.Proofs.Text.PercentEncoding.Escaped
import Specifiers.Proofs.Text.Utf8.Replacing

/-!
# What percent-encoded texts stand for

A percent-encoded text spells bytes: each escape the byte of its two digits, each other character the bytes
of its own encoding (`Spells`). The text that it stands for is the one that these bytes read as, with a
replacement character for bytes at fault (`Decodes`). All this is said with the digits of a byte and the
encoding of a character, and it is what decoding does with every text (`decodes_iff`).
-/

namespace Specifiers

namespace PercentEncoding

/-- Does a text spell bytes, by an escape its byte, and by a character with which none starts its own? -/
inductive Spells : List Char → List UInt8 → Prop
  | nil : Spells [] []
  | escape {cs written : List Char} {bs : List UInt8} (b : UInt8) (isEscape : Escapes [b] written)
      (rest : Spells cs bs) : Spells (written ++ cs) (b :: bs)
  | literal {cs : List Char} {bs : List UInt8} (c : Char)
      (noEscape : ∀ b written, Escapes [b] written → ¬written <+: c :: cs) (rest : Spells cs bs) :
      Spells (c :: cs) (String.utf8EncodeChar c ++ bs)

/-- Does a percent-encoded text stand for another one? -/
def Decodes (cs text : List Char) : Prop := ∃ bytes, Spells cs bytes ∧ Utf8.Reads bytes text

variable {cs rest text : List Char} {c : Char} {b : UInt8} {bs : List UInt8}

/-- A character is a digit of the value that it is read with. -/
theorem isDigitOf_of_hexValue? {n : Nat} (h : Digit.hexValue? c = some n) : n < 16 ∧ IsDigitOf n c := by
  have decimals : ∀ k < 10, Char.ofNat (48 + k) = Digit.ofValue k := by decide
  have lowers : ∀ k < 6, Char.ofNat (97 + k) = Digit.ofValue (k + 10) := by decide
  have uppers : ∀ k < 6, Char.ofNat (65 + k) = (Digit.ofValue (k + 10)).toUpper := by decide
  have hc : Char.ofNat c.toNat = c := Char.ofNat_toNat c
  unfold Digit.hexValue? at h
  change (if 48 ≤ c.toNat ∧ c.toNat ≤ 57 then some (c.toNat - 48)
    else if 97 ≤ c.toNat ∧ c.toNat ≤ 102 then some (c.toNat - 97 + 10)
    else if 65 ≤ c.toNat ∧ c.toNat ≤ 70 then some (c.toNat - 65 + 10) else none) = some n at h
  generalize c.toNat = v at h hc
  subst hc
  split_ifs at h with hdecimal hlower hupper
  all_goals obtain rfl := Option.some.inj h
  · have hv : v = 48 + (v - 48) := by omega
    exact ⟨by omega, .inl (by rw [← decimals _ (by omega), ← hv])⟩
  · have hv : v = 97 + (v - 97) := by omega
    exact ⟨by omega, .inl (by rw [← lowers _ (by omega), ← hv])⟩
  · have hv : v = 65 + (v - 65) := by omega
    exact ⟨by omega, .inr (by rw [← uppers _ (by omega), ← hv])⟩

/-- An escape is read from the percent sign and the digits of its byte. -/
theorem escape?_eq_some_iff_escapes :
    escape? cs = some (b, rest) ↔ ∃ written, Escapes [b] written ∧ cs = written ++ rest := by
  constructor
  · intro hescape
    obtain ⟨high, low, h, l, rfl, hhigh, hlow, rfl⟩ := escape?_eq_some_iff.mp hescape
    obtain ⟨hh, first⟩ := isDigitOf_of_hexValue? hhigh
    obtain ⟨hl, second⟩ := isDigitOf_of_hexValue? hlow
    have hbyte : (UInt8.ofNat (16 * h + l)).toNat = 16 * h + l := by simp; omega
    have hdiv : (16 * h + l) / 16 = h := by omega
    have hmod : (16 * h + l) % 16 = l := by omega
    refine ⟨['%', high, low], .cons ?_ ?_ .nil, rfl⟩
    · rwa [hbyte, hdiv]
    · rwa [hbyte, hmod]
  · rintro ⟨written, hescape, rfl⟩
    cases hescape with
    | cons first second hnil =>
      cases hnil
      exact escape?_of_isDigitOf first second rest

/-- With a character no escape starts exactly when none is read from it. -/
theorem escape?_eq_none_iff :
    escape? cs = none ↔ ∀ b written, Escapes [b] written → ¬written <+: cs := by
  rw [Option.eq_none_iff_forall_ne_some]
  constructor
  · rintro h b written hescape ⟨rest, rfl⟩
    exact h (b, rest) (escape?_eq_some_iff_escapes.mpr ⟨written, hescape, rfl⟩)
  · rintro h ⟨b, rest⟩ hsome
    obtain ⟨written, hescape, rfl⟩ := escape?_eq_some_iff_escapes.mp hsome
    exact h b written hescape (List.prefix_append _ _)

/-- The bytes that are read from a text are those that it spells. -/
theorem spells_bytesFrom (cs : List Char) : Spells cs (bytesFrom 0 cs) := by
  induction hlength : cs.length using Nat.strongRecOn generalizing cs with
  | _ n ih =>
    cases cs with
    | nil => exact .nil
    | cons c cs =>
      cases hescape : escape? (c :: cs) with
      | none =>
        rw [bytesFrom_of_escape_eq_none hescape]
        exact .literal c (escape?_eq_none_iff.mp hescape)
          (ih cs.length (by rw [← hlength, List.length_cons]; omega) cs rfl)
      | some found =>
        obtain ⟨b, rest⟩ := found
        obtain ⟨written, isEscape, hwritten⟩ := escape?_eq_some_iff_escapes.mp hescape
        have hshorter : rest.length < n := by
          obtain ⟨_, _, _, _, hcs, -⟩ := escape?_eq_some_iff.mp hescape
          rw [← hlength, hcs]
          simp only [List.length_cons]
          omega
        rw [bytesFrom_of_escape hescape, hwritten]
        exact .escape b isEscape (ih rest.length hshorter rest rfl)

/-- A text spells one sequence of bytes, those that are read from it. -/
theorem spells_iff : Spells cs bs ↔ bytesFrom 0 cs = bs := by
  constructor
  · intro h
    induction h with
    | nil => rfl
    | escape b isEscape rest ih =>
      rw [bytesFrom_of_escape (escape?_eq_some_iff_escapes.mpr ⟨_, isEscape, rfl⟩), ih]
    | literal c noEscape rest ih => rw [bytesFrom_of_escape_eq_none (escape?_eq_none_iff.mpr noEscape), ih]
  · rintro rfl
    exact spells_bytesFrom cs

/-- A percent-encoded text stands for one text, the one that it decodes to. -/
theorem decodes_iff : Decodes cs text ↔ decode cs = text := by
  unfold Decodes decode
  constructor
  · rintro ⟨bytes, hspells, hreads⟩
    rw [spells_iff.mp hspells, Utf8.reads_iff.mp hreads]
  · intro h
    exact ⟨bytesFrom 0 cs, spells_bytesFrom cs, Utf8.reads_iff.mpr h⟩

end PercentEncoding

end Specifiers
