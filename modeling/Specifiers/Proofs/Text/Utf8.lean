import Mathlib.Tactic.Common
import Specifiers.Text.Utf8

/-!
# Reading bytes character by character

Decoding is a sequence of steps, each of which takes one byte or more and gives one character
(`decode_cons`). The bytes that a step takes after its first one are tails, which no character starts
with (`tail_of_mem_taken`), and the bytes that spell a character are taken by one step
(`exists_encode_eq_cons`). So decoding undoes encoding, and never takes a character apart.
-/

namespace Specifiers

namespace Utf8

/-- Can the byte only stand after the first one of a character? -/
def IsTail (b : UInt8) : Prop := 0x80 ≤ b.toNat ∧ b.toNat ≤ 0xBF

namespace Step

/-- The character that a step gives. -/
def result : Step → Char
  | char c _ => c
  | fault _ _ => replacement

/-- How many bytes a step takes. -/
def taken : Step → Nat
  | char _ n | fault n _ => n

end Step

/-! ## Steps -/

/-- The characters decoded so far stay in front, and the bytes of the last step are passed over. -/
theorem decodeFrom_eq (before : List Char) (skip : Nat) (bytes : List UInt8) :
    decodeFrom before skip bytes = before.reverse ++ decode (bytes.drop skip) := by
  unfold decode
  induction bytes generalizing before skip with
  | nil => simp [decodeFrom]
  | cons b bs ih =>
    cases skip with
    | succ skip => exact ih before skip
    | zero =>
      rw [List.drop_zero, decodeFrom, decodeFrom]
      cases step b bs with
      | char c n => simp [ih (c :: before), ih [c]]
      | fault n reason => simp [ih (replacement :: before), ih [replacement]]

@[simp]
theorem decode_nil : decode [] = [] := rfl

/-- Decoding goes on after the bytes that the first step takes. -/
theorem decode_cons (b : UInt8) (bs : List UInt8) :
    decode (b :: bs) = (step b bs).result :: decode (bs.drop ((step b bs).taken - 1)) := by
  rw [decode, decodeFrom]
  cases step b bs with
  | char c n => exact decodeFrom_eq [c] (n - 1) bs
  | fault n reason => exact decodeFrom_eq [replacement] (n - 1) bs

/-- Reading on after a first byte takes tails only. -/
theorem exists_taken_follow (value read count low high : Nat) (bs : List UInt8) (hlow : 0x80 ≤ low)
    (hhigh : high ≤ 0xBF) :
    ∃ k ≤ bs.length, (follow value read count low high bs).taken = read + k ∧
      ∀ b ∈ bs.take k, IsTail b := by
  induction bs generalizing value read count low high with
  | nil => cases count <;> exact ⟨0, by simp, rfl, by simp⟩
  | cons b bs ih =>
    cases count with
    | zero => exact ⟨0, by simp, rfl, by simp⟩
    | succ count =>
      rw [follow]
      split
      · next hb =>
        obtain ⟨k, hk, htaken, htail⟩ :=
          ih (value * 64 + (b.toNat - 0x80)) (read + 1) count 0x80 0xBF (by omega) (by omega)
        rw [Bool.and_eq_true, decide_eq_true_eq, decide_eq_true_eq] at hb
        refine ⟨k + 1, by simpa using hk, by rw [htaken]; omega, ?_⟩
        rw [List.take_succ_cons, List.forall_mem_cons]
        exact ⟨⟨by omega, by omega⟩, htail⟩
      · exact ⟨0, by simp, rfl, by simp⟩

/-- A step takes its first byte and some of the tails after it. -/
theorem exists_taken_step (b : UInt8) (bs : List UInt8) :
    ∃ k ≤ bs.length, (step b bs).taken = k + 1 ∧ ∀ b ∈ bs.take k, IsTail b := by
  unfold step
  cases hlead : lead? b.toNat with
  | none => exact ⟨0, by simp, rfl, by simp⟩
  | some lead =>
    obtain ⟨value, count, low, high⟩ := lead
    -- Where a byte is to follow, its range lies within that of the tails.
    have hrange : count = 0 ∨ 0x80 ≤ low ∧ high ≤ 0xBF := by
      unfold lead? at hlead
      split_ifs at hlead <;> grind
    rcases hrange with rfl | ⟨hlow, hhigh⟩
    · exact ⟨0, by simp, by simp [follow, Step.taken], by simp⟩
    · obtain ⟨k, hk, htaken, htail⟩ := exists_taken_follow value 1 count low high bs hlow hhigh
      exact ⟨k, hk, by simp only [htaken]; omega, htail⟩

/-! ## The bytes of a character -/

/-- Reading on over a tail within the range takes its six bits. -/
theorem follow_tail {value read count low high n : Nat} (bs : List UInt8) (hn : n < 64)
    (hlow : low ≤ n + 128) (hhigh : n + 128 ≤ high) :
    follow value read (count + 1) low high (UInt8.ofNat (n + 128) :: bs) =
      follow (value * 64 + n) (read + 1) count 0x80 0xBF bs := by
  have hbyte : (UInt8.ofNat (n + 128)).toNat = n + 128 := by simp; omega
  rw [follow, hbyte, if_pos (by simp [hlow, hhigh]), Nat.add_sub_cancel]

/-- A first byte below 0xE0 announces one tail. -/
theorem lead?_two {n : Nat} (hlow : 2 ≤ n) (hhigh : n < 32) :
    lead? (n + 192) = some (n, 1, 0x80, 0xBF) := by
  unfold lead?
  split_ifs <;> grind

/-- A first byte below 0xF0 announces two tails. -/
theorem lead?_three {n : Nat} (h : n < 16) :
    lead? (n + 224) =
      some (n, 2, if n = 0 then 0xA0 else 0x80, if n = 13 then 0x9F else 0xBF) := by
  unfold lead?
  split_ifs <;> grind

/-- Any other first byte announces three tails. -/
theorem lead?_four {n : Nat} (h : n < 5) :
    lead? (n + 240) = some (n, 3, if n = 0 then 0x90 else 0x80, if n = 4 then 0x8F else 0xBF) := by
  unfold lead?
  split_ifs <;> grind

/-- The bytes of a character start with one that is no tail, and one step takes them all. -/
theorem exists_encode_eq_cons (c : Char) :
    ∃ b bs, String.utf8EncodeChar c = b :: bs ∧ ¬IsTail b ∧
      ∀ rest, step b (bs ++ rest) = .char c (bs.length + 1) := by
  have hvalid : c.val.toNat < 0xD800 ∨ 0xDFFF < c.val.toNat ∧ c.val.toNat < 0x110000 := c.valid
  have hc : Char.ofNat c.val.toNat = c := Char.ofNat_toNat c
  unfold String.utf8EncodeChar IsTail step
  generalize c.val.toNat = v at hvalid hc ⊢
  dsimp only
  -- The cases are the lengths of the encoding, which the ranges of first bytes match.
  split_ifs with h1 h2 h3
  · have hb : (UInt8.ofNat v).toNat = v := by simp; omega
    refine ⟨_, _, rfl, by omega, fun rest => ?_⟩
    rw [hb, lead?, if_pos (by omega)]
    exact congrArg (Step.char · 1) hc
  · have hb : (UInt8.ofNat (v / 64 % 32 + 192)).toNat = v / 64 % 32 + 192 := by simp; omega
    refine ⟨_, _, rfl, by omega, fun rest => ?_⟩
    have hv : v / 64 % 32 * 64 + v % 64 = v := by omega
    simp only [hb, lead?_two (n := v / 64 % 32) (by omega) (by omega), List.cons_append]
    rw [follow_tail _ (by omega) (by omega) (by omega), hv, follow, hc]
    rfl
  · have hb : (UInt8.ofNat (v / 4096 % 16 + 224)).toNat = v / 4096 % 16 + 224 := by simp; omega
    refine ⟨_, _, rfl, by omega, fun rest => ?_⟩
    have hv : (v / 4096 % 16 * 64 + v / 64 % 64) * 64 + v % 64 = v := by omega
    simp only [hb, lead?_three (n := v / 4096 % 16) (by omega), List.cons_append]
    rw [follow_tail _ (by omega) (by split <;> omega) (by split <;> omega),
      follow_tail _ (by omega) (by omega) (by omega), hv, follow, hc]
    rfl
  · have hb : (UInt8.ofNat (v / 262144 % 8 + 240)).toNat = v / 262144 % 8 + 240 := by simp; omega
    refine ⟨_, _, rfl, by omega, fun rest => ?_⟩
    have hv : ((v / 262144 % 8 * 64 + v / 4096 % 64) * 64 + v / 64 % 64) * 64 + v % 64 = v := by
      omega
    simp only [hb, lead?_four (n := v / 262144 % 8) (by omega), List.cons_append]
    rw [follow_tail _ (by omega) (by split <;> omega) (by split <;> omega),
      follow_tail _ (by omega) (by omega) (by omega), follow_tail _ (by omega) (by omega) (by omega),
      hv, follow, hc]
    rfl

/-- Decoding the bytes of a character gives it, whatever comes after. -/
theorem decode_encodeChar_append (c : Char) (rest : List UInt8) :
    decode (String.utf8EncodeChar c ++ rest) = c :: decode rest := by
  obtain ⟨b, bs, hbytes, -, hstep⟩ := exists_encode_eq_cons c
  rw [hbytes, List.cons_append, decode_cons, hstep]
  simp [Step.result, Step.taken]

/-- Decoding undoes encoding. -/
theorem decode_encode (cs : List Char) : decode (encode cs) = cs := by
  unfold encode
  induction cs with
  | nil => rfl
  | cons c cs ih => rw [List.flatMap_cons, decode_encodeChar_append, ih]

end Utf8

end Specifiers
