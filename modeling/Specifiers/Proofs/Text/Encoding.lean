import Mathlib.Tactic.Common
import Specifiers.Text.Encoding

/-!
# When bytes cannot be decoded

Whatever bytes do not spell is replaced. A known encoding fails only where a mark must tell the order of
the bytes, and at least one unit is there but no mark, or where it decodes nothing at all; a registered one
fails when it says so (`Refuses`).
-/

namespace Specifiers

variable {bytes : List UInt8} {err : Encoding.DecodeError}

/-- Does a codec give no text for bytes? -/
inductive Codec.Refuses : Codec → List UInt8 → Encoding.DecodeError → Prop
  | utf16 {bytes : List UInt8} (long : 2 ≤ bytes.length) (little : ¬[0xFF, 0xFE] <+: bytes)
      (big : ¬[0xFE, 0xFF] <+: bytes) : Refuses (.known (.utf16 none)) bytes (.missingMark 16)
  | utf32 {bytes : List UInt8} (long : 4 ≤ bytes.length) (little : ¬[0xFF, 0xFE, 0, 0] <+: bytes)
      (big : ¬[0, 0, 0xFE, 0xFF] <+: bytes) : Refuses (.known (.utf32 none)) bytes (.missingMark 32)
  | idna (bytes : List UInt8) : Refuses (.known .idna) bytes .unsupported
  | undefined (bytes : List UInt8) : Refuses (.known .undefined) bytes .undefined
  | registered {decode : List UInt8 → Except String (List Char)} {bytes : List UInt8}
      {message : String} (answer : decode bytes = .error message) :
      Refuses (.registered decode) bytes (.refused message)

namespace Encoding

open Codec (Refuses)

/-- Units of two bytes cannot be put in order exactly where a unit is there but no mark. -/
theorem decodeMarked16_eq_error_iff :
    decodeMarked16 bytes = .error err ↔ Refuses (.known (.utf16 none)) bytes err := by
  rw [decodeMarked16.eq_def]
  split
  · simp only [reduceCtorEq, false_iff]
    rintro ⟨-, little, -⟩
    exact little (List.prefix_append [0xFF, 0xFE] _)
  · simp only [reduceCtorEq, false_iff]
    rintro ⟨-, -, big⟩
    exact big (List.prefix_append [0xFE, 0xFF] _)
  -- without a mark the byte order is unknown, which is an error as soon as there are bytes enough to tell
  · next hlittle hbig =>
    split
    · next hshort =>
      simp only [reduceCtorEq, false_iff]
      rintro ⟨long, -, -⟩
      omega
    · next hlong =>
      constructor
      · rintro ⟨⟩
        refine .utf16 (by omega) ?_ ?_
        · rintro ⟨rest, rfl⟩
          exact hlittle rest rfl
        · rintro ⟨rest, rfl⟩
          exact hbig rest rfl
      · rintro ⟨-, -, -⟩
        rfl

/-- Units of four bytes cannot be put in order exactly where a unit is there but no mark. -/
theorem decodeMarked32_eq_error_iff :
    decodeMarked32 bytes = .error err ↔ Refuses (.known (.utf32 none)) bytes err := by
  rw [decodeMarked32.eq_def]
  split
  · simp only [reduceCtorEq, false_iff]
    rintro ⟨⟩
    next little _ => exact little (List.prefix_append [0xFF, 0xFE, 0, 0] _)
  · simp only [reduceCtorEq, false_iff]
    rintro ⟨⟩
    next big => exact big (List.prefix_append [0, 0, 0xFE, 0xFF] _)
  -- without a mark the byte order is unknown, which is an error as soon as there are bytes enough to tell
  · next hlittle hbig =>
    split
    · next hshort =>
      simp only [reduceCtorEq, false_iff]
      rintro ⟨⟩
      omega
    · next hlong =>
      constructor
      · rintro ⟨⟩
        refine .utf32 (by omega) ?_ ?_
        · rintro ⟨rest, rfl⟩
          exact hlittle rest rfl
        · rintro ⟨rest, rfl⟩
          exact hbig rest rfl
      · rintro ⟨⟩
        rfl

/-- A known encoding fails exactly where a mark is lacking, or where it decodes nothing. -/
theorem decode_eq_error_iff {e : Encoding} :
    e.decode bytes = .error err ↔ Refuses (.known e) bytes err := by
  cases e with
  | utf16 order =>
    cases order with
    | none => exact decodeMarked16_eq_error_iff
    | some order => exact ⟨nofun, nofun⟩
  | utf32 order =>
    cases order with
    | none => exact decodeMarked32_eq_error_iff
    | some order => exact ⟨nofun, nofun⟩
  | idna =>
    constructor
    · rintro ⟨⟩
      exact .idna bytes
    · rintro ⟨⟩
      rfl
  | undefined =>
    constructor
    · rintro ⟨⟩
      exact .undefined bytes
    · rintro ⟨⟩
      rfl
  | _ => exact ⟨nofun, nofun⟩

end Encoding

namespace Codec

/-- A codec gives no text for bytes exactly when it refuses them. -/
theorem decode_eq_error_iff {c : Codec} : c.decode bytes = .error err ↔ c.Refuses bytes err := by
  cases c with
  | known e => exact Encoding.decode_eq_error_iff
  | registered decode =>
    rw [Codec.decode]
    cases hanswer : decode bytes with
    | ok cs =>
      constructor
      · nofun
      · intro refused
        cases refused with
        | registered answer => exact absurd (hanswer.symm.trans answer) nofun
    | error message =>
      constructor
      · rintro ⟨⟩
        exact .registered hanswer
      · intro refused
        cases refused with
        | registered answer => rw [Except.error.inj (hanswer.symm.trans answer)]; rfl

end Codec

end Specifiers
