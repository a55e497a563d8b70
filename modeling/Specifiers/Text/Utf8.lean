import Specifiers.Text.Digit

/-!
# UTF-8

Bytes as text. One step reads the character at the start of the bytes, or says how many bytes are at
fault and why; these are the bytes of the longest beginning of a character. Decoding puts one
replacement character in their place, strict decoding stops at the first of them.
-/

namespace Specifiers

namespace Utf8

/-- Why bytes spell no character. -/
inductive Reason
  | invalidStart
  | invalidContinuation
  | unexpectedEnd
  deriving DecidableEq, Repr

/-- The wording of a reason. -/
def Reason.wording : Reason → String
  | invalidStart => "invalid start byte"
  | invalidContinuation => "invalid continuation byte"
  | unexpectedEnd => "unexpected end of data"

/-- What the bytes start with: a character, or a fault, of so many bytes. -/
inductive Step
  | char (c : Char) (length : Nat)
  | fault (length : Nat) (reason : Reason)
  deriving Repr

/-- What a first byte announces: its share of the code point, how many bytes follow, and the range of
the first of them. The ranges exclude longer spellings than needed, surrogates, and what lies beyond
the last code point. -/
def lead? (b : Nat) : Option (Nat × Nat × Nat × Nat) :=
  if b < 0x80 then some (b, 0, 0, 0)
  else if b < 0xC2 then none
  else if b < 0xE0 then some (b - 0xC0, 1, 0x80, 0xBF)
  else if b < 0xF0 then
    some (b - 0xE0, 2, if b = 0xE0 then 0xA0 else 0x80, if b = 0xED then 0x9F else 0xBF)
  else if b < 0xF5 then
    some (b - 0xF0, 3, if b = 0xF0 then 0x90 else 0x80, if b = 0xF4 then 0x8F else 0xBF)
  else none

/-- Reads the bytes that follow a first byte: `value` is the code point so far, `read` the number of
bytes read, `count` that of the bytes to come, of which the next lies between `low` and `high`. -/
def follow (value read : Nat) : Nat → Nat → Nat → List UInt8 → Step
  | 0, _, _, _ => .char (Char.ofNat value) read
  | _ + 1, _, _, [] => .fault read .unexpectedEnd
  | count + 1, low, high, b :: bs =>
    if low ≤ b.toNat && b.toNat ≤ high then
      follow (value * 64 + (b.toNat - 0x80)) (read + 1) count 0x80 0xBF bs
    else .fault read .invalidContinuation

/-- What the bytes `b :: bs` start with. -/
def step (b : UInt8) (bs : List UInt8) : Step :=
  match lead? b.toNat with
  | none => .fault 1 .invalidStart
  | some (value, count, low, high) => follow value 1 count low high bs

/-- The character that stands for bytes at fault. -/
def replacement : Char := '\ufffd'

/-- Decodes bytes, with `before` the characters decoded so far, the last first, and `skip` the number
of bytes that belong to the last step. -/
def decodeFrom (before : List Char) (skip : Nat) : List UInt8 → List Char
  | [] => before.reverse
  | b :: bs =>
    match skip with
    | skip + 1 => decodeFrom before skip bs
    | 0 => match step b bs with
      | .char c n => decodeFrom (c :: before) (n - 1) bs
      | .fault n _ => decodeFrom (replacement :: before) (n - 1) bs

/-- The text that bytes spell, with a replacement character for each fault. -/
def decode (bytes : List UInt8) : List Char := decodeFrom [] 0 bytes

/-- A fault in bytes: where it is, the first byte of it, and why. -/
structure Fault where
  position : Nat
  length : Nat
  byte : UInt8
  reason : Reason
  deriving DecidableEq, Repr

/-- The wording of a fault. -/
def Fault.message (f : Fault) : String :=
  let place :=
    if f.length = 1 then
      "byte 0x" ++ String.ofList (Digit.hex 2 f.byte.toNat) ++ " in position " ++ toString f.position
    else
      "bytes in position " ++ toString f.position ++ "-" ++ toString (f.position + f.length - 1)
  "'utf-8' codec can't decode " ++ place ++ ": " ++ f.reason.wording

/-- Decodes bytes up to the first fault: the characters before it, the last first, and the fault if
there is one. -/
def decodeUntil (before : List Char) (position skip : Nat) :
    List UInt8 → List Char × Option Fault
  | [] => (before, none)
  | b :: bs =>
    match skip with
    | skip + 1 => decodeUntil before (position + 1) skip bs
    | 0 => match step b bs with
      | .char c n => decodeUntil (c :: before) (position + 1) (n - 1) bs
      | .fault n reason => (before, some ⟨position, n, b, reason⟩)

/-- The text that bytes spell, or the first fault. -/
def decode? (bytes : List UInt8) : Except Fault (List Char) :=
  match decodeUntil [] 0 0 bytes with
  | (before, none) => .ok before.reverse
  | (_, some fault) => .error fault

/-- The bytes that spell a text. -/
def encode (cs : List Char) : List UInt8 := cs.flatMap String.utf8EncodeChar

end Utf8

end Specifiers
