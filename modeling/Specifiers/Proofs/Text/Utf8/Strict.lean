import Mathlib.Data.List.Basic
import Specifiers.Proofs.Text.Utf8

/-!
# Strict decoding

A step gives a character only for the bytes that encode it (`encodeChar_of_step`): the ranges of the
bytes after a first one leave no second spelling. So all bytes are the encoding of a text, followed by
what no step reads (`exists_encode_append`), and strict decoding gives this text and stops there. Bytes
decode without a fault when they encode a text (`decodeUntil_eq_none_iff`).

What follows can change a step only if the bytes end too early for it (`step_append`).
-/

namespace Specifiers

namespace Utf8

/-! ## Steps that give a character -/

/-- Reading on takes a byte of the range when it gives a character. -/
theorem follow_eq_char_iff {value read count low high n : Nat} {bs : List UInt8} {c : Char} :
    follow value read (count + 1) low high bs = .char c n ↔
      ∃ t rest, bs = t :: rest ∧ (low ≤ t.toNat ∧ t.toNat ≤ high) ∧
        follow (value * 64 + (t.toNat - 0x80)) (read + 1) count 0x80 0xBF rest = .char c n := by
  cases bs with
  | nil => simp [follow]
  | cons t rest =>
    rw [follow]
    by_cases h : low ≤ t.toNat ∧ t.toNat ≤ high
    · rw [if_pos (by simpa using h)]
      constructor
      · exact fun hrest => ⟨t, rest, rfl, h, hrest⟩
      · rintro ⟨_, _, hcons, -, hrest⟩
        obtain ⟨rfl, rfl⟩ := List.cons_eq_cons.mp hcons
        exact hrest
    · rw [if_neg (by simpa using h)]
      constructor
      · rintro ⟨⟩
      · rintro ⟨_, _, hcons, hrange, -⟩
        obtain ⟨rfl, rfl⟩ := List.cons_eq_cons.mp hcons
        exact absurd hrange h

/-- What a first byte announces. -/
theorem lead?_eq_some {b value count low high : Nat} (h : lead? b = some (value, count, low, high)) :
    (b < 0x80 ∧ value = b ∧ count = 0) ∨
      (0xC2 ≤ b ∧ b < 0xE0 ∧ value = b - 0xC0 ∧ count = 1 ∧ low = 0x80 ∧ high = 0xBF) ∨
      (0xE0 ≤ b ∧ b < 0xF0 ∧ value = b - 0xE0 ∧ count = 2 ∧
        low = (if b = 0xE0 then 0xA0 else 0x80) ∧ high = if b = 0xED then 0x9F else 0xBF) ∨
      (0xF0 ≤ b ∧ b < 0xF5 ∧ value = b - 0xF0 ∧ count = 3 ∧
        low = (if b = 0xF0 then 0x90 else 0x80) ∧ high = if b = 0xF4 then 0x8F else 0xBF) := by
  unfold lead? at h
  split_ifs at h <;> simp_all

/-- A byte is given by its number. -/
theorem ofNat_eq_of_toNat {b : UInt8} {n : Nat} (h : n = b.toNat) : UInt8.ofNat n = b := by
  rw [h, UInt8.ofNat_toNat]

/-- A code point is given by its character, outside the surrogates. -/
theorem toNat_val_ofNat {v : Nat} (h : v < 0xD800 ∨ 0xDFFF < v ∧ v < 0x110000) :
    (Char.ofNat v).val.toNat = v := by
  have hvalid : v.isValidChar := h
  rw [Char.ofNat, dif_pos hvalid]
  rfl

/-- The bytes of a code point outside the surrogates. -/
theorem encodeChar_ofNat {v : Nat} (h : v < 0xD800 ∨ 0xDFFF < v ∧ v < 0x110000) :
    String.utf8EncodeChar (Char.ofNat v) =
      if v ≤ 0x7F then [UInt8.ofNat v]
      else if v ≤ 0x7FF then [UInt8.ofNat (v / 64 % 32 + 0xC0), UInt8.ofNat (v % 64 + 0x80)]
      else if v ≤ 0xFFFF then
        [UInt8.ofNat (v / 4096 % 16 + 0xE0), UInt8.ofNat (v / 64 % 64 + 0x80),
          UInt8.ofNat (v % 64 + 0x80)]
      else
        [UInt8.ofNat (v / 262144 % 8 + 0xF0), UInt8.ofNat (v / 4096 % 64 + 0x80),
          UInt8.ofNat (v / 64 % 64 + 0x80), UInt8.ofNat (v % 64 + 0x80)] := by
  unfold String.utf8EncodeChar
  rw [toNat_val_ofNat h]

section

variable {b t u w : UInt8}

/-- The code point that two bytes spell is encoded by them. -/
theorem encodeChar_of_two (hb : 0xC2 ≤ b.toNat ∧ b.toNat < 0xE0)
    (ht : 0x80 ≤ t.toNat ∧ t.toNat ≤ 0xBF) :
    String.utf8EncodeChar (Char.ofNat ((b.toNat - 0xC0) * 64 + (t.toNat - 0x80))) = [b, t] := by
  rw [encodeChar_ofNat (by omega), if_neg (by omega), if_pos (by omega),
    ofNat_eq_of_toNat (b := b) (by omega), ofNat_eq_of_toNat (b := t) (by omega)]

/-- The code point that three bytes spell is encoded by them: the range of the second byte excludes
surrogates and code points with two bytes. -/
theorem encodeChar_of_three (hb : 0xE0 ≤ b.toNat ∧ b.toNat < 0xF0)
    (ht : (if b.toNat = 0xE0 then 0xA0 else 0x80) ≤ t.toNat ∧
      t.toNat ≤ if b.toNat = 0xED then 0x9F else 0xBF)
    (hu : 0x80 ≤ u.toNat ∧ u.toNat ≤ 0xBF) :
    String.utf8EncodeChar (Char.ofNat
      (((b.toNat - 0xE0) * 64 + (t.toNat - 0x80)) * 64 + (u.toNat - 0x80))) = [b, t, u] := by
  have hrange : (b.toNat = 0xE0 → 0xA0 ≤ t.toNat) ∧ (b.toNat = 0xED → t.toNat ≤ 0x9F) ∧
      0x80 ≤ t.toNat ∧ t.toNat ≤ 0xBF := by
    split_ifs at ht <;> omega
  clear ht
  rw [encodeChar_ofNat (by omega), if_neg (by omega), if_neg (by omega), if_pos (by omega),
    ofNat_eq_of_toNat (b := b) (by omega), ofNat_eq_of_toNat (b := t) (by omega),
    ofNat_eq_of_toNat (b := u) (by omega)]

/-- The code point that four bytes spell is encoded by them: the range of the second byte excludes code
points with three bytes and what lies beyond the last one. -/
theorem encodeChar_of_four (hb : 0xF0 ≤ b.toNat ∧ b.toNat < 0xF5)
    (ht : (if b.toNat = 0xF0 then 0x90 else 0x80) ≤ t.toNat ∧
      t.toNat ≤ if b.toNat = 0xF4 then 0x8F else 0xBF)
    (hu : 0x80 ≤ u.toNat ∧ u.toNat ≤ 0xBF) (hw : 0x80 ≤ w.toNat ∧ w.toNat ≤ 0xBF) :
    String.utf8EncodeChar (Char.ofNat
      ((((b.toNat - 0xF0) * 64 + (t.toNat - 0x80)) * 64 + (u.toNat - 0x80)) * 64 + (w.toNat - 0x80))) =
      [b, t, u, w] := by
  have hrange : (b.toNat = 0xF0 → 0x90 ≤ t.toNat) ∧ (b.toNat = 0xF4 → t.toNat ≤ 0x8F) ∧
      0x80 ≤ t.toNat ∧ t.toNat ≤ 0xBF := by
    split_ifs at ht <;> omega
  clear ht
  rw [encodeChar_ofNat (by omega), if_neg (by omega), if_neg (by omega), if_neg (by omega),
    ofNat_eq_of_toNat (b := b) (by omega), ofNat_eq_of_toNat (b := t) (by omega),
    ofNat_eq_of_toNat (b := u) (by omega), ofNat_eq_of_toNat (b := w) (by omega)]

end

/-- A step gives a character only for the bytes that encode it. -/
theorem encodeChar_of_step {b : UInt8} {bs : List UInt8} {c : Char} {n : Nat}
    (h : step b bs = .char c n) :
    ∃ tail rest, bs = tail ++ rest ∧ n = tail.length + 1 ∧ String.utf8EncodeChar c = b :: tail := by
  unfold step at h
  cases hlead : lead? b.toNat with
  | none =>
    rw [hlead] at h
    cases h
  | some lead =>
    obtain ⟨value, count, low, high⟩ := lead
    rw [hlead] at h
    dsimp only at h
    rcases lead?_eq_some hlead with ⟨hb, hvalue, hcount⟩ | ⟨hb, hb', hvalue, hcount, hlow, hhigh⟩ |
      ⟨hb, hb', hvalue, hcount, hlow, hhigh⟩ | ⟨hb, hb', hvalue, hcount, hlow, hhigh⟩
    · rw [hvalue, hcount, follow] at h
      obtain ⟨rfl, rfl⟩ := Step.char.inj h
      refine ⟨[], bs, rfl, rfl, ?_⟩
      rw [encodeChar_ofNat (by omega), if_pos (by omega), ofNat_eq_of_toNat rfl]
    · rw [hvalue, hcount, hlow, hhigh, follow_eq_char_iff] at h
      obtain ⟨t, rest, rfl, ht, h⟩ := h
      obtain ⟨rfl, rfl⟩ := Step.char.inj h
      exact ⟨[t], rest, rfl, rfl, encodeChar_of_two ⟨hb, hb'⟩ ht⟩
    · rw [hvalue, hcount, hlow, hhigh, follow_eq_char_iff] at h
      obtain ⟨t, _, rfl, ht, h⟩ := h
      obtain ⟨u, rest, rfl, hu, h⟩ := follow_eq_char_iff.mp h
      obtain ⟨rfl, rfl⟩ := Step.char.inj h
      exact ⟨[t, u], rest, rfl, rfl, encodeChar_of_three ⟨hb, hb'⟩ ht hu⟩
    · rw [hvalue, hcount, hlow, hhigh, follow_eq_char_iff] at h
      obtain ⟨t, _, rfl, ht, h⟩ := h
      obtain ⟨u, _, rfl, hu, h⟩ := follow_eq_char_iff.mp h
      obtain ⟨w, rest, rfl, hw, h⟩ := follow_eq_char_iff.mp h
      obtain ⟨rfl, rfl⟩ := Step.char.inj h
      exact ⟨[t, u, w], rest, rfl, rfl, encodeChar_of_four ⟨hb, hb'⟩ ht hu hw⟩

/-! ## Steps with more to come -/

/-- More bytes change nothing in what was read, unless the bytes ended too early. -/
theorem follow_append {value read count low high : Nat} (bs more : List UInt8) :
    follow value read count low high (bs ++ more) = follow value read count low high bs ∨
      ∃ k, follow value read count low high bs = .fault k .unexpectedEnd := by
  induction bs generalizing value read count low high with
  | nil =>
    cases count with
    | zero => exact .inl (by simp [follow])
    | succ count => exact .inr ⟨read, rfl⟩
  | cons b bs ih =>
    cases count with
    | zero => exact .inl (by simp [follow])
    | succ count =>
      rw [List.cons_append, follow, follow]
      split
      · exact ih
      · exact .inl rfl

/-- What follows does not change a step, unless the bytes end too early for it. -/
theorem step_append (b : UInt8) (bs more : List UInt8) :
    step b (bs ++ more) = step b bs ∨ ∃ k, step b bs = .fault k .unexpectedEnd := by
  unfold step
  cases lead? b.toNat with
  | none => exact .inl rfl
  | some lead => exact follow_append bs more

/-- More bytes do not mend a fault other than that they end too early. -/
theorem step_append_of_fault {b : UInt8} {bs : List UInt8} {n : Nat} {reason : Reason}
    (h : step b bs = .fault n reason) (hreason : reason ≠ .unexpectedEnd) (more : List UInt8) :
    step b (bs ++ more) = .fault n reason := by
  obtain hsame | ⟨k, hend⟩ := step_append b bs more
  · rw [hsame, h]
  · rw [h] at hend
    exact absurd (Step.fault.inj hend).2 hreason

/-! ## All bytes -/

theorem encode_cons (c : Char) (cs : List Char) :
    encode (c :: cs) = String.utf8EncodeChar c ++ encode cs := List.flatMap_cons

/-- Texts are encoded one after the other. -/
theorem encode_append (cs ds : List Char) : encode (cs ++ ds) = encode cs ++ encode ds :=
  List.flatMap_append

/-- All bytes encode a text, but for what follows from the first fault on. -/
theorem exists_encode_append (bytes : List UInt8) :
    ∃ cs rest, bytes = encode cs ++ rest ∧
      (rest = [] ∨ ∃ b bs n reason, rest = b :: bs ∧ step b bs = .fault n reason) := by
  induction hlength : bytes.length using Nat.strongRecOn generalizing bytes with
  | _ n ih =>
    cases bytes with
    | nil => exact ⟨[], [], rfl, .inl rfl⟩
    | cons b bs =>
      cases hstep : step b bs with
      | fault k reason => exact ⟨[], b :: bs, rfl, .inr ⟨b, bs, k, reason, rfl, hstep⟩⟩
      | char c k =>
        obtain ⟨tail, rest, rfl, -, hencode⟩ := encodeChar_of_step hstep
        have hshorter : rest.length < n := by
          rw [← hlength, List.length_cons, List.length_append]
          omega
        obtain ⟨cs, rest, rfl, hrest⟩ := ih _ hshorter rest rfl
        refine ⟨c :: cs, rest, ?_, hrest⟩
        rw [encode_cons, hencode, List.cons_append, List.cons_append, List.append_assoc]

/-- Bytes of the last step are passed over. -/
theorem decodeUntil_skip (before : List Char) (position : Nat) (passed rest : List UInt8) :
    decodeUntil before position passed.length (passed ++ rest) =
      decodeUntil before (position + passed.length) 0 rest := by
  induction passed generalizing position with
  | nil => rfl
  | cons b passed ih =>
    rw [List.length_cons, List.cons_append, decodeUntil, ih]
    congr 1
    omega

/-- Strict decoding reads the text that bytes encode, and goes on after them. -/
theorem decodeUntil_encode_append (before : List Char) (position : Nat) (cs : List Char)
    (rest : List UInt8) :
    decodeUntil before position 0 (encode cs ++ rest) =
      decodeUntil (cs.reverse ++ before) (position + (encode cs).length) 0 rest := by
  induction cs generalizing before position with
  | nil => rfl
  | cons c cs ih =>
    obtain ⟨b, bs, hbytes, -, hstep⟩ := exists_encode_eq_cons c
    have hall : encode (c :: cs) = b :: (bs ++ encode cs) := by
      rw [encode_cons, hbytes, List.cons_append]
    rw [hall, List.cons_append, decodeUntil, List.append_assoc, hstep]
    dsimp only
    rw [Nat.add_sub_cancel, decodeUntil_skip, ih, List.reverse_cons, List.append_assoc]
    simp only [List.length_cons, List.length_append, List.singleton_append]
    congr 1
    omega

/-- Strict decoding stops at what no step reads. -/
theorem decodeUntil_of_step {b : UInt8} {bs : List UInt8} {n : Nat} {reason : Reason}
    (h : step b bs = .fault n reason) (before : List Char) (position : Nat) :
    decodeUntil before position 0 (b :: bs) = (before, some ⟨position, n, b, reason⟩) := by
  rw [decodeUntil, h]

/-- Bytes decode without a fault exactly when they encode a text, which is then read. -/
theorem decodeUntil_eq_none_iff (before : List Char) (position : Nat) {after : List Char}
    {bytes : List UInt8} :
    decodeUntil before position 0 bytes = (after, none) ↔
      ∃ cs, bytes = encode cs ∧ after = cs.reverse ++ before := by
  constructor
  · intro h
    obtain ⟨cs, rest, rfl, rfl | ⟨b, bs, n, reason, rfl, hstep⟩⟩ := exists_encode_append bytes
    · rw [decodeUntil_encode_append, decodeUntil] at h
      exact ⟨cs, List.append_nil _, (Prod.mk.inj h).1.symm⟩
    · rw [decodeUntil_encode_append, decodeUntil_of_step hstep] at h
      cases (Prod.mk.inj h).2
  · rintro ⟨cs, rfl, rfl⟩
    rw [← List.append_nil (encode cs), decodeUntil_encode_append, decodeUntil]

/-- The bytes after those of a text belong to the rest of the text. -/
theorem encode_append_eq_iff {cs ds : List Char} {rest : List UInt8} :
    encode cs ++ rest = encode ds ↔ ∃ es, ds = cs ++ es ∧ rest = encode es := by
  constructor
  · intro h
    have hds := (decodeUntil_eq_none_iff [] 0).mpr ⟨ds, h, rfl⟩
    rw [decodeUntil_encode_append, decodeUntil_eq_none_iff] at hds
    obtain ⟨es, rfl, hreverse⟩ := hds
    refine ⟨es, ?_, rfl⟩
    simpa using congrArg List.reverse hreverse
  · rintro ⟨es, rfl, rfl⟩
    rw [encode_append]

/-- Different texts have different bytes. -/
theorem encode_injective {cs ds : List Char} (h : encode cs = encode ds) : cs = ds := by
  rw [← decode_encode cs, h, decode_encode]

end Utf8

end Specifiers
