import Specifiers.Proofs.Text.Utf8.Strict

/-!
# What decoding puts in the place of faults

Bytes read as a text character by character; where no character stands, the bytes at fault are read as one
replacement character (`Reads`). How many they are is the practice that the Unicode standard names after the
maximal subpart: as many as are the beginning of a character, or else a single byte (`AtFault`). The relation
speaks of what characters are encoded by, and not of the steps of decoding. It leaves one text for all bytes,
the one that they decode to (`reads_iff`).
-/

namespace Specifiers

namespace Utf8

/-- Are bytes the beginning of those of a character, some of which are missing? -/
def Begins (bs : List UInt8) : Prop := ∃ c more, String.utf8EncodeChar c = bs ++ more ∧ more ≠ []

/-- Are bytes, with others after them, at fault, and are they all that are at fault together? -/
structure AtFault (bad rest : List UInt8) : Prop where
  nonempty : bad ≠ []
  noChar : ∀ c, ¬String.utf8EncodeChar c <+: bad ++ rest
  together : bad.length = 1 ∨ Begins bad
  maximal : ∀ more, more ≠ [] → more <+: rest → ¬Begins (bad ++ more)

/-- Do bytes read as a text, with a replacement character for all that are at fault together? -/
inductive Reads : List UInt8 → List Char → Prop
  | nil : Reads [] []
  | char {bs : List UInt8} {cs : List Char} (c : Char) (rest : Reads bs cs) :
      Reads (String.utf8EncodeChar c ++ bs) (c :: cs)
  | fault {bs : List UInt8} {cs : List Char} (bad : List UInt8) (atFault : AtFault bad bs)
      (rest : Reads bs cs) : Reads (bad ++ bs) (replacement :: cs)

variable {b : UInt8} {bs bad bad' rest rest' : List UInt8} {n : Nat} {reason : Reason}

/-! ## Steps that find a fault -/

/-- Bytes that read on to a character can always be found: the least of the range, then the least tails. -/
theorem exists_follow_eq_char (value read count low high : Nat) (hrange : low ≤ high)
    (hhigh : high ≤ 0xBF) :
    ∃ more c, more.length = count ∧ follow value read count low high more = .char c (read + count) := by
  induction count generalizing value read low high with
  | zero => exact ⟨[], _, rfl, rfl⟩
  | succ count ih =>
    have hbyte : (UInt8.ofNat low).toNat = low := by simp; omega
    obtain ⟨more, c, hlength, hmore⟩ :=
      ih (value * 64 + (low - 0x80)) (read + 1) 0x80 0xBF (by omega) (Nat.le_refl _)
    refine ⟨UInt8.ofNat low :: more, c, by simp [hlength], ?_⟩
    rw [follow, hbyte, if_pos (by simpa using hrange), hmore, Nat.add_assoc, Nat.add_comm 1]

/-- Reading on finds a fault after bytes that other ones would have completed, and the byte at which it does
settles this. -/
theorem follow_eq_fault {value read count low high : Nat} (hrange : low ≤ high) (hhigh : high ≤ 0xBF)
    (h : follow value read count low high bs = .fault n reason) :
    ∃ k ≤ bs.length, n = read + k ∧
      (∃ more c, more ≠ [] ∧
        follow value read count low high (bs.take k ++ more) = .char c (read + k + more.length)) ∧
      ∀ t rest, bs.drop k = t :: rest → ∀ rest',
        follow value read count low high (bs.take k ++ t :: rest') = .fault n reason := by
  -- along the bytes, with what is read so far and the next byte's range free
  induction bs generalizing value read count low high with
  | nil =>
    cases count with
    | zero => simp [follow] at h
    | succ count =>
      obtain ⟨more, c, hlength, hmore⟩ := exists_follow_eq_char value read (count + 1) low high hrange hhigh
      obtain ⟨rfl, -⟩ := Step.fault.inj h
      -- the input ends inside the sequence: any good continuation completes it, and no byte is at fault
      refine ⟨0, (Nat.le_refl _), rfl, ⟨more, c, ?_, ?_⟩, by simp⟩
      · exact List.ne_nil_of_length_eq_add_one hlength
      · simpa [hlength] using hmore
  | cons b bs ih =>
    cases count with
    | zero => simp [follow] at h
    | succ count =>
      rw [follow] at h
      split at h
      · next hb =>
        obtain ⟨k, hk, rfl, ⟨more, c, hne, hmore⟩, hsettled⟩ := ih (by omega) (Nat.le_refl _) h
        refine ⟨k + 1, by simpa using hk, by omega, ⟨more, c, hne, ?_⟩, fun t rest hdrop rest' => ?_⟩
        · rw [List.take_succ_cons, List.cons_append, follow, if_pos hb, hmore]
          congr 1
          omega
        · rw [List.take_succ_cons, List.cons_append, follow, if_pos hb, hsettled t rest hdrop]
      · next hb =>
        obtain ⟨more, c, hlength, hmore⟩ := exists_follow_eq_char value read (count + 1) low high hrange hhigh
        obtain ⟨rfl, rfl⟩ := Step.fault.inj h
        -- the byte is out of range: the fault is here, whatever follows it
        refine ⟨0, Nat.zero_le _, rfl, ⟨more, c, List.ne_nil_of_length_eq_add_one hlength, ?_⟩, ?_⟩
        · simpa [hlength] using hmore
        · intro t rest hdrop rest'
          obtain ⟨rfl, rfl⟩ := List.cons.inj hdrop
          rw [List.take_zero, List.nil_append, follow, if_neg hb]

/-- The range that a first byte announces is one of tails, and not empty. -/
theorem range_of_lead? {value count low high : Nat} (h : lead? b.toNat = some (value, count, low, high)) :
    count = 0 ∨ low ≤ high ∧ high ≤ 0xBF := by
  rcases lead?_eq_some h with ⟨-, -, hcount⟩ | ⟨-, -, -, -, hlow, hhigh⟩ |
    ⟨-, -, -, -, hlow, hhigh⟩ | ⟨-, -, -, -, hlow, hhigh⟩
  · exact .inl hcount
  · omega
  · right
    split_ifs at hlow hhigh <;> omega
  · right
    split_ifs at hlow hhigh <;> omega

/-- A step finds a fault in a single byte or in bytes that other ones would have completed, and the byte
after them settles this. -/
theorem step_eq_fault (h : step b bs = .fault n reason) :
    ∃ k ≤ bs.length, n = k + 1 ∧
      (k = 0 ∨ ∃ more c, more ≠ [] ∧ step b (bs.take k ++ more) = .char c (1 + k + more.length)) ∧
      ∀ t rest, bs.drop k = t :: rest → ∀ rest', step b (bs.take k ++ t :: rest') = .fault n reason := by
  unfold step at h ⊢
  cases hlead : lead? b.toNat with
  | none =>
    rw [hlead] at h
    obtain ⟨rfl, rfl⟩ := Step.fault.inj h
    exact ⟨0, Nat.zero_le _, rfl, .inl rfl, fun _ _ _ _ => rfl⟩
  | some lead =>
    obtain ⟨value, count, low, high⟩ := lead
    rw [hlead] at h
    dsimp only at h ⊢
    rcases range_of_lead? hlead with rfl | ⟨hrange, hhigh⟩
    · simp [follow] at h
    · obtain ⟨k, hk, hn, hmore, hsettled⟩ := follow_eq_fault hrange hhigh h
      exact ⟨k, hk, by omega, .inr hmore, hsettled⟩

/-- The bytes of a character are taken by one step. -/
theorem step_of_encodeChar {c : Char} (h : String.utf8EncodeChar c = b :: bs) (rest : List UInt8) :
    step b (bs ++ rest) = .char c (bs.length + 1) := by
  obtain ⟨b', bs', hbytes, -, hstep⟩ := exists_encode_eq_cons c
  obtain ⟨rfl, rfl⟩ := List.cons.inj (hbytes.symm.trans h)
  exact hstep rest

/-- The bytes of a fault that a step finds are at fault together. -/
theorem atFault_of_step (h : step b bs = .fault n reason) :
    AtFault (b :: bs.take (n - 1)) (bs.drop (n - 1)) := by
  obtain ⟨k, hk, rfl, hcompleted, hsettled⟩ := step_eq_fault h
  rw [Nat.add_sub_cancel]
  constructor
  case nonempty => exact List.cons_ne_nil _ _
  case noChar =>
    intro c hprefix
    rw [List.cons_append, List.take_append_drop] at hprefix
    obtain ⟨rest, hrest⟩ := hprefix
    obtain ⟨b', bs', hbytes, -, hstep⟩ := exists_encode_eq_cons c
    rw [hbytes, List.cons_append] at hrest
    obtain ⟨rfl, rfl⟩ := List.cons.inj hrest
    exact Step.noConfusion ((hstep rest).symm.trans h)
  case together =>
    rcases hcompleted with rfl | ⟨more, c, hne, hstep⟩
    · exact .inl (by simp)
    · -- The step takes all the bytes, so they are those of the character.
      obtain ⟨tail, rest, hall, hlength, hencode⟩ := encodeChar_of_step hstep
      have hlengths := congrArg List.length hall
      rw [List.length_append, List.length_append, List.length_take, Nat.min_eq_left hk] at hlengths
      have hrest : rest = [] := List.length_eq_zero_iff.mp (by omega)
      refine .inr ⟨c, more, ?_, hne⟩
      rw [hencode, List.cons_append, hall, hrest, List.append_nil]
  case maximal =>
    rintro more hne hprefix ⟨c, missing, hencode, -⟩
    cases more with
    | nil => exact hne rfl
    | cons t more =>
      obtain ⟨rest, hrest⟩ := hprefix
      rw [List.cons_append, List.cons_append, List.append_assoc, List.cons_append] at hencode
      have hstep := step_of_encodeChar hencode []
      rw [List.append_nil, hsettled t _ hrest.symm] at hstep
      cases hstep

/-! ## One text for all bytes -/

/-- What is at fault together is given by the bytes. -/
theorem AtFault.length_le (h : AtFault bad rest) (h' : AtFault bad' rest')
    (same : bad ++ rest = bad' ++ rest') : bad'.length ≤ bad.length := by
  by_contra longer
  -- The longer one is a beginning that goes on from the shorter one.
  obtain ⟨more, rfl⟩ : bad <+: bad' :=
    List.prefix_of_prefix_length_le (List.prefix_append bad rest) (same ▸ List.prefix_append bad' rest')
      (by omega)
  rw [List.append_assoc, List.append_cancel_left_eq] at same
  have hne : more ≠ [] := by
    rintro rfl
    simp at longer
  have hbad := List.length_pos_iff.mpr h.nonempty
  rcases h'.together with hone | hbegins
  · rw [List.length_append] at hone longer
    omega
  · exact h.maximal more hne ⟨rest', same.symm⟩ hbegins

/-- Bytes at fault are those of the fault that a step finds. -/
theorem AtFault.decode_append (h : AtFault bad rest) :
    decode (bad ++ rest) = replacement :: decode rest := by
  cases bad with
  | nil => exact absurd rfl h.nonempty
  | cons b bs =>
    rw [List.cons_append, decode_cons]
    cases hstep : step b (bs ++ rest) with
    | char c n =>
      obtain ⟨tail, after, hall, -, hencode⟩ := encodeChar_of_step hstep
      exact absurd ⟨after, by rw [hencode, List.cons_append, List.cons_append, hall]⟩ (h.noChar c)
    | fault n reason =>
      have hfound := atFault_of_step hstep
      obtain ⟨k, hk, rfl, -⟩ := step_eq_fault hstep
      rw [Nat.add_sub_cancel] at hfound
      have same : (b :: bs) ++ rest =
          (b :: (bs ++ rest).take k) ++ (bs ++ rest).drop k := by
        rw [List.cons_append, List.cons_append, List.take_append_drop]
      -- both are longest beginnings without a character, so neither is longer than the other
      have hle := h.length_le hfound same
      have hge := hfound.length_le h same.symm
      rw [List.length_cons, List.length_cons, List.length_take, Nat.min_eq_left hk] at hle hge
      have hk : k = bs.length := by omega
      simp [Step.result, Step.taken, hk]

/-- Bytes read as what they decode to. -/
theorem reads_decode (bytes : List UInt8) : Reads bytes (decode bytes) := by
  -- a step takes one byte or more, so the induction is on the number of bytes
  induction hlength : bytes.length using Nat.strongRecOn generalizing bytes with
  | _ n ih =>
    cases bytes with
    | nil => exact .nil
    | cons b bs =>
      rw [List.length_cons] at hlength
      cases hstep : step b bs with
      | char c k =>
        obtain ⟨tail, rest, rfl, rfl, hencode⟩ := encodeChar_of_step hstep
        have hshorter : rest.length < n := by
          rw [List.length_append] at hlength
          omega
        rw [← List.cons_append, ← hencode, decode_encodeChar_append]
        exact .char c (ih _ hshorter rest rfl)
      | fault k reason =>
        have hfault := atFault_of_step hstep
        have hbytes : b :: bs = (b :: bs.take (k - 1)) ++ bs.drop (k - 1) := by
          rw [List.cons_append, List.take_append_drop]
        have hshorter : (bs.drop (k - 1)).length < n := by
          rw [List.length_drop]
          omega
        rw [hbytes, hfault.decode_append]
        exact .fault _ hfault (ih _ hshorter _ rfl)

/-- Bytes read as one text, which is the one that they decode to. -/
theorem reads_iff {bytes : List UInt8} {text : List Char} : Reads bytes text ↔ decode bytes = text := by
  constructor
  · intro h
    induction h with
    | nil => rfl
    | char c rest ih => rw [decode_encodeChar_append, ih]
    | fault bad atFault rest ih => rw [atFault.decode_append, ih]
  · rintro rfl
    exact reads_decode bytes

end Utf8

end Specifiers
