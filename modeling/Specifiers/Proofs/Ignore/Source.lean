import Specifiers.Proofs.Ignore.Rules
import Specifiers.Proofs.Ignore.Standard
import Specifiers.Proofs.Text.Utf8.Strict

/-!
# Files of patterns

A file of patterns is decoded piece by piece, with the bytes of a character that a piece cuts in two left
over for the next one. All pieces together decode without a fault exactly when the whole file does
(`decodePieces_eq_none_iff`), so the size of the pieces has no part in whether a file can be used: it can
when its bytes encode a text each of whose lines can be read (`ofBytes_eq_ok_iff`).

A filter is loaded when the patterns given for it can be read and the project's own file, if there is
one, can be used. Where something other than a file stands in its place, a notice is given and the project
has no rules of its own. A file that cannot be used, though, is an error.
-/

namespace Specifiers

namespace Ignore

open Utf8

/-! ## Pieces -/

/-- Are these bytes left over from a piece: none, or the beginning of a character? -/
def IsLeftOver (left : List UInt8) : Prop :=
  left = [] ∨ ∃ b bs k, left = b :: bs ∧ step b bs = .fault k .unexpectedEnd

/-- The end of the bytes is no fault when nothing is left over. -/
theorem decodePieces_end {before : List Char} {left : List UInt8} (n : Nat) :
    decodePieces before left (n + 1) [] =
      (before, left.head?.map fun b => ⟨0, left.length, b, .unexpectedEnd⟩) := by
  cases left <;> rfl

/-- A piece that ends with a character leaves nothing over. -/
theorem decodePieces_of_encode {before cs : List Char} {left bytes : List UInt8} {n : Nat}
    (h : bytes ≠ []) (piece : left ++ bytes.take pieceSize = encode cs) :
    decodePieces before left (n + 1) bytes =
      decodePieces (cs.reverse ++ before) [] n (bytes.drop pieceSize) := by
  have hdecode : decodeUntil before 0 0 (left ++ bytes.take pieceSize) =
      (cs.reverse ++ before, none) := (decodeUntil_eq_none_iff _ _).mpr ⟨cs, piece, rfl⟩
  cases bytes with
  | nil => exact absurd rfl h
  | cons b bytes => simp only [decodePieces, hdecode]

/-- A piece with a fault leaves over what follows the characters before it, if it ends too early; any
other fault is the end. -/
theorem decodePieces_of_step {before cs : List Char} {left bytes bs : List UInt8} {b : UInt8} {k n : Nat}
    {reason : Reason} (h : bytes ≠ []) (piece : left ++ bytes.take pieceSize = encode cs ++ b :: bs)
    (faulty : step b bs = .fault k reason) :
    decodePieces before left (n + 1) bytes =
      if reason = .unexpectedEnd then
        decodePieces (cs.reverse ++ before) (b :: bs) n (bytes.drop pieceSize)
      else (before, some ⟨(encode cs).length, k, b, reason⟩) := by
  have hdecode : decodeUntil before 0 0 (left ++ bytes.take pieceSize) =
      (cs.reverse ++ before, some ⟨(encode cs).length, k, b, reason⟩) := by
    rw [piece, decodeUntil_encode_append, decodeUntil_of_step faulty, Nat.zero_add]
  have hdrop : (left ++ bytes.take pieceSize).drop (encode cs).length = b :: bs := by
    rw [piece, List.drop_left]
  cases bytes with
  | nil => exact absurd rfl h
  | cons b bytes => simp only [decodePieces, hdecode, hdrop, beq_iff_eq]

/-- What has been read belongs to every text that the bytes can encode. -/
theorem exists_encode_append_iff {before after cs : List Char} {rest : List UInt8} :
    (∃ ds, encode cs ++ rest = encode ds ∧ after = ds.reverse ++ before) ↔
      ∃ es, rest = encode es ∧ after = es.reverse ++ (cs.reverse ++ before) := by
  simp only [encode_append_eq_iff]
  constructor
  · rintro ⟨_, ⟨es, rfl, hes⟩, rfl⟩
    exact ⟨es, hes, by simp⟩
  · rintro ⟨es, hes, rfl⟩
    exact ⟨_, ⟨es, rfl, hes⟩, by simp⟩

/-- The pieces of a file decode without a fault exactly when the bytes left over before them and their
own ones encode a text, which is then read. -/
theorem decodePieces_eq_none_iff {before after : List Char} {left bytes : List UInt8} {n : Nat}
    (leftOver : IsLeftOver left) (enough : bytes.length < n) :
    decodePieces before left n bytes = (after, none) ↔
      ∃ cs, left ++ bytes = encode cs ∧ after = cs.reverse ++ before := by
  -- on the number of pieces, with what the last piece left over as part of the input
  induction n generalizing before left bytes with
  | zero => omega
  | succ n ih =>
    by_cases hbytes : bytes = []
    · subst hbytes
      rw [decodePieces_end, List.append_nil, ← decodeUntil_eq_none_iff before 0]
      obtain rfl | ⟨b, bs, k, rfl, hstep⟩ := leftOver
      · rfl
      · rw [decodeUntil_of_step hstep]
        simp
    · have hrest : (bytes.drop pieceSize).length < n := by
        have hpositive : 0 < bytes.length := List.length_pos_iff.mpr hbytes
        rw [List.length_drop, pieceSize]
        omega
      -- the longest good beginning of this piece; only a sequence cut short by its end may stay for the next
      obtain ⟨cs, rest, hpiece, hfault⟩ := exists_encode_append (left ++ bytes.take pieceSize)
      have hall : left ++ bytes = encode cs ++ (rest ++ bytes.drop pieceSize) := by
        rw [← List.append_assoc, ← hpiece, List.append_assoc, List.take_append_drop]
      rw [hall, exists_encode_append_iff]
      obtain rfl | ⟨b, bs, k, reason, rfl, hstep⟩ := hfault
      · rw [decodePieces_of_encode hbytes (hpiece.trans (List.append_nil _)), ih (.inl rfl) hrest]
      · rw [decodePieces_of_step hbytes hpiece hstep]
        split
        · next hreason =>
          subst hreason
          exact ih (.inr ⟨b, bs, k, rfl, hstep⟩) hrest
        · next hreason =>
          -- any other fault stands, whatever bytes follow
          have hstep' := step_append_of_fault hstep hreason (bytes.drop pieceSize)
          rw [← decodeUntil_eq_none_iff _ 0, List.cons_append, decodeUntil_of_step hstep']
          simp

/-! ## The rules of a file -/

/-- The bytes of a file spell rules exactly when they encode a text whose lines do. -/
theorem ofBytes_eq_ok_iff {bytes : List UInt8} {rules : Rules} :
    Rules.ofBytes bytes = .ok rules ↔ ∃ text, bytes = encode text ∧
      Rules.ofLines (Lines.lines (Lines.unify text)) = .ok rules := by
  -- as many rounds as this reach the end of the bytes
  have hpieces (after : List Char) : decodePieces [] [] (bytes.length + 2) bytes = (after, none) ↔
      ∃ text, bytes = encode text ∧ after = text.reverse := by
    rw [decodePieces_eq_none_iff (.inl rfl) (by omega)]
    simp
  unfold Rules.ofBytes
  split
  · next after hnone =>
    obtain ⟨text, rfl, rfl⟩ := (hpieces after).mp hnone
    rw [mapError_eq_ok_iff, List.reverse_reverse]
    constructor
    · exact fun h => ⟨text, rfl, h⟩
    · rintro ⟨text', htext, h⟩
      rwa [encode_injective htext]
  · next before fault hsome =>
    constructor
    · intro h
      split at h <;> cases h
    · rintro ⟨text, htext, -⟩
      have hnone := (hpieces text.reverse).mpr ⟨text, htext, rfl⟩
      rw [hsome] at hnone
      cases hnone

/-- Can bytes be used as a file of patterns: do they encode a text, and can each of its lines be read? -/
def IsUsable (bytes : List UInt8) : Prop :=
  ∃ text, bytes = encode text ∧
    ∀ line ∈ Lines.lines (Lines.unify text), ∃ p, Pattern.ofLine line = .ok p

theorem exists_ofBytes_iff {bytes : List UInt8} :
    (∃ rules, Rules.ofBytes bytes = .ok rules) ↔ IsUsable bytes := by
  simp only [ofBytes_eq_ok_iff, IsUsable, ← Rules.exists_ofLines_iff]
  rw [exists_comm]
  simp only [exists_and_left]

variable {fs : FileSystem} {root : Path} {exclude keep : List String}

namespace Filter

/-- When the patterns given for it can be read, a filter takes the rules of the project's own file, and
its loading ends with an error only where that does. -/
theorem load_eq {excluded included : Rules} (hexclude : rulesOf exclude = .ok excluded)
    (hkeep : rulesOf keep = .ok included) :
    load fs root exclude keep = (ownRules fs root).map fun own =>
      ({ root, included, excluded, standard := standardRules, own := own.1 }, own.2) := by
  unfold load
  rw [hexclude, hkeep, rulesOf_standardPatterns]
  cases ownRules fs root <;> rfl

/-- For every project and all lists of patterns that can be read: a filter is loaded exactly when the
project's file of patterns, if it can be read as a file, can be used; and where it cannot be read as a
file, the filter has no rules of its own, and a notice says so unless there is nothing in its place. -/
theorem exists_load_iff (excluded : ∃ rules, rulesOf exclude = .ok rules)
    (included : ∃ rules, rulesOf keep = .ok rules) :
    ((∃ f notices, load fs root exclude keep = .ok (f, notices)) ↔
      ∀ bytes, fs.read (root.below [fileName]) = .ok bytes → IsUsable bytes) ∧
    ∀ e, fs.read (root.below [fileName]) = .error e →
      ∃ f, f.own = none ∧ load fs root exclude keep =
        .ok (f, if fs.hasEntry (root.below [fileName]) then
          [.ignoreFileUnreadable (root.below [fileName]).text e.message] else []) := by
  obtain ⟨excluded, hexclude⟩ := excluded
  obtain ⟨included, hkeep⟩ := included
  rw [load_eq hexclude hkeep]
  constructor
  · cases hread : fs.read (root.below [fileName]) with
    | error e =>
      rw [ownRules_of_read_error hread]
      exact ⟨fun _ _ => nofun, fun _ => ⟨_, _, rfl⟩⟩
    | ok bytes =>
      rw [ownRules_of_read_ok hread]
      constructor
      · rintro ⟨f, notices, h⟩ bytes' hbytes
        obtain rfl := Except.ok.inj hbytes
        obtain ⟨own, hown, -⟩ := map_eq_ok_iff.mp h
        obtain ⟨rules, hrules, -⟩ := map_eq_ok_iff.mp hown
        exact exists_ofBytes_iff.mp ⟨rules, hrules⟩
      · intro h
        obtain ⟨rules, hrules⟩ := exists_ofBytes_iff.mpr (h bytes rfl)
        rw [hrules]
        exact ⟨_, _, rfl⟩
  · intro e he
    rw [ownRules_of_read_error he]
    exact ⟨_, rfl, rfl⟩

/-- With a name to keep and a directory to exclude, a filter is loaded where a directory stands in the
place of the file of patterns, with a notice, and where that file has lines with patterns; and no filter is
loaded where a line of it cannot be read. -/
theorem exists_load_iff_small :
    let loads (own : FileTree) := load (smallProject (some own)) smallRoot ["vendor/"] ["a.js"]
    (∃ f, f.own = none ∧ loads (.directory []) =
      .ok (f, [.ignoreFileUnreadable "/r/.gitignore" "[Errno 21] Is a directory: '/r/.gitignore'"])) ∧
    (∃ f notices, loads (.file (encode "b.js\r\n!c.js".toList)) = .ok (f, notices)) ∧
    ¬∃ f notices, loads (.file (encode "b.js\n!\n".toList)) = .ok (f, notices) := by
  intro loads
  have hloads (own : FileTree) :=
    @exists_load_iff (smallProject (some own)) smallRoot ["vendor/"] ["a.js"] ⟨_, rfl⟩ ⟨_, rfl⟩
  refine ⟨(hloads (.directory [])).2 _ rfl, (hloads _).1.mpr fun bytes hbytes => ?_, fun h => ?_⟩
  · obtain rfl := Except.ok.inj hbytes
    exact exists_ofBytes_iff.mp ⟨_, rfl⟩
  · obtain ⟨rules, hrules⟩ := exists_ofBytes_iff.mpr ((hloads _).1.mp h _ rfl)
    cases hrules

/-- Bytes that encode no text stop the loading, though every list of patterns that is given can be read. -/
theorem load_undecodable_breaks_off :
    ¬∀ (fs : FileSystem) (root : Path) (exclude keep : List String),
      (∃ rules, rulesOf exclude = .ok rules) → (∃ rules, rulesOf keep = .ok rules) →
        ∃ f notices, load fs root exclude keep = .ok (f, notices) := by
  intro h
  obtain ⟨f, notices, hload⟩ :=
    h (smallProject (some (.file [0xFF]))) smallRoot [] [] ⟨_, rfl⟩ ⟨_, rfl⟩
  have herror : load (smallProject (some (.file [0xFF]))) smallRoot [] [] =
      .error (.decoding ⟨0, 1, 0xFF, .invalidStart⟩) := rfl
  rw [herror] at hload
  cases hload

end Filter

end Ignore

end Specifiers
