import Specifiers.Text.CodeUnit

/-!
# Encodings

The ways in which bytes spell a text, and their names. In a name only letters, digits and dots count:
anything else between them is one underscore, and capitals are small letters. What bytes do not spell
is replaced, so most encodings decode any bytes. Those that need a mark to tell the order of the bytes
fail without it, and two names stand for encodings that decode nothing.

Besides the encodings that are known here there are others, which someone has registered under their
names. Of these nothing is known but that they give a text for bytes, or say why they do not.
-/

namespace Specifiers

/-- A way in which bytes spell a text. Without an order of the bytes a mark at the start tells it. -/
inductive Encoding
  | utf8
  /-- With a mark at the start that is no part of the text. -/
  | utf8Marked
  | ascii
  | latin1
  | windows1252
  | utf16 (order : Option ByteOrder)
  | utf32 (order : Option ByteOrder)
  /-- For the names of hosts: it does not replace what bytes do not spell, and so cannot be used here. -/
  | idna
  /-- The encoding that is there to be refused. -/
  | undefined
  deriving DecidableEq, Repr

namespace Encoding

/-- Why a name gives no encoding of texts. -/
inductive NameError
  | unknown (name : String)
  | notText (name : String)
  deriving DecidableEq, Repr

/-- How many bytes of a name a message shows at most. -/
def shownBytes : Nat := 400

/-- The wording of the error. -/
def NameError.message : NameError → String
  | unknown name => "unknown encoding: " ++ name
  | notText name =>
    "'" ++ String.ofList (Utf8.decode ((Utf8.encode name.toList).take shownBytes)) ++
      "' is not a text encoding; use codecs.open() to handle arbitrary codecs"

/-- Why bytes have no text. -/
inductive DecodeError
  /-- The mark that tells the order of the bytes is missing; the width of a unit in bits is given. -/
  | missingMark (width : Nat)
  | unsupported
  | undefined
  /-- What an encoding says that someone has registered. -/
  | refused (message : String)
  deriving DecidableEq, Repr

/-- The wording of the error. -/
def DecodeError.message : DecodeError → String
  | missingMark width => "UTF-" ++ toString width ++ " stream does not start with BOM"
  | unsupported => "Unsupported error handling replace"
  | undefined => "undefined encoding"
  | refused message => message

/-! ## Names -/

/-- The characters of a name that count; `started` tells whether there was one before, and `gap`
whether something else came since. -/
def canonicalFrom (started gap : Bool) : List Char → List Char
  | [] => []
  | c :: cs =>
    if c.isAlphanum || c == '.' then
      (if started && gap then ['_'] else []) ++ c.toLower :: canonicalFrom true false cs
    else canonicalFrom started true cs

/-- The form in which names are compared. -/
def canonical (name : String) : String := String.ofList (canonicalFrom false false name.toList)

/-- What a name can stand for: an encoding of texts, or something else that bytes are put into. -/
inductive Meaning
  | text (e : Encoding)
  | other
  deriving DecidableEq, Repr

/-- The main names. -/
def names : List (String × Meaning) :=
  [("utf_8", .text .utf8), ("utf_8_sig", .text .utf8Marked), ("ascii", .text .ascii),
    ("latin_1", .text .latin1), ("iso8859_1", .text .latin1), ("cp1252", .text .windows1252),
    ("utf_16", .text (.utf16 none)), ("utf_16_le", .text (.utf16 (some .little))),
    ("utf_16_be", .text (.utf16 (some .big))), ("utf_32", .text (.utf32 none)),
    ("utf_32_le", .text (.utf32 (some .little))), ("utf_32_be", .text (.utf32 (some .big))),
    ("idna", .text .idna), ("undefined", .text .undefined),
    ("base64_codec", .other), ("bz2_codec", .other), ("hex_codec", .other), ("quopri_codec", .other),
    ("rot_13", .other), ("uu_codec", .other), ("zlib_codec", .other)]

/-- Further names, in which a dot may stand for an underscore. -/
def aliases : List (String × Meaning) :=
  (["u8", "utf", "utf8", "utf8_ucs2", "utf8_ucs4", "cp65001"].map fun n => (n, .text .utf8)) ++
  (["646", "ansi_x3.4_1968", "ansi_x3_4_1968", "ansi_x3.4_1986", "cp367", "csascii", "ibm367",
      "iso646_us", "iso_646.irv_1991", "iso_ir_6", "us", "us_ascii"].map fun n => (n, .text .ascii)) ++
  (["8859", "cp819", "csisolatin1", "ibm819", "iso8859", "iso8859_1", "iso_8859_1",
      "iso_8859_1_1987", "iso_ir_100", "l1", "latin", "latin1"].map fun n => (n, .text .latin1)) ++
  (["1252", "windows_1252"].map fun n => (n, .text .windows1252)) ++
  (["u16", "utf16"].map fun n => (n, .text (.utf16 none))) ++
  (["unicodebigunmarked", "utf_16be"].map fun n => (n, .text (.utf16 (some .big)))) ++
  (["unicodelittleunmarked", "utf_16le"].map fun n => (n, .text (.utf16 (some .little)))) ++
  (["u32", "utf32"].map fun n => (n, .text (.utf32 none))) ++
  [("utf_32be", .text (.utf32 (some .big))), ("utf_32le", .text (.utf32 (some .little)))] ++
  (["base64", "base_64", "bz2", "hex", "quopri", "quoted_printable", "quotedprintable", "rot13", "uu",
      "zip", "zlib"].map fun n => (n, .other))

/-- What a name in the form for comparing stands for. -/
def meaning? (name : String) : Option Meaning :=
  let undotted := String.ofList (name.toList.map fun c => if c == '.' then '_' else c)
  (aliases.lookup name).or ((aliases.lookup undotted).or (names.lookup name))

/-- The name of the encoding of the surroundings, in this spelling only. -/
def localName : String := "locale"

/-! ## Decoding -/

/-- The character of a byte that stands for the code point of its number, up to a limit. -/
def byteBelow (limit : Nat) (b : UInt8) : Char :=
  if b.toNat < limit then Char.ofNat b.toNat else Utf8.replacement

/-- The characters of the bytes from 0x80 to 0x9F in the encoding `windows1252`. -/
def windowsChars : List Char :=
  ['\u20ac', '\ufffd', '\u201a', '\u0192', '\u201e', '\u2026', '\u2020', '\u2021',
    '\u02c6', '\u2030', '\u0160', '\u2039', '\u0152', '\ufffd', '\u017d', '\ufffd',
    '\ufffd', '\u2018', '\u2019', '\u201c', '\u201d', '\u2022', '\u2013', '\u2014',
    '\u02dc', '\u2122', '\u0161', '\u203a', '\u0153', '\ufffd', '\u017e', '\u0178']

/-- The character of a byte in the encoding `windows1252`. -/
def windowsChar (b : UInt8) : Char :=
  if 0x80 ≤ b.toNat && b.toNat < 0xA0 then windowsChars.getD (b.toNat - 0x80) Utf8.replacement
  else Char.ofNat b.toNat

/-- The text of bytes without the mark at their start. A mark that is cut short counts as one. -/
def decodeMarked : List UInt8 → List Char
  | 0xEF :: 0xBB :: 0xBF :: bytes => Utf8.decode bytes
  | [0xEF, 0xBB] => []
  | [0xEF] => []
  | bytes => Utf8.decode bytes

/-- The text of units of two bytes after the mark that tells their order. -/
def decodeMarked16 : List UInt8 → Except DecodeError (List Char)
  | 0xFF :: 0xFE :: bytes => .ok (CodeUnit.decode16 .little bytes)
  | 0xFE :: 0xFF :: bytes => .ok (CodeUnit.decode16 .big bytes)
  | bytes => if bytes.length < 2 then .ok (CodeUnit.decode16 .little bytes) else .error (.missingMark 16)

/-- The text of units of four bytes after the mark that tells their order. -/
def decodeMarked32 : List UInt8 → Except DecodeError (List Char)
  | 0xFF :: 0xFE :: 0 :: 0 :: bytes => .ok (CodeUnit.decode32 .little bytes)
  | 0 :: 0 :: 0xFE :: 0xFF :: bytes => .ok (CodeUnit.decode32 .big bytes)
  | bytes => if bytes.length < 4 then .ok (CodeUnit.decode32 .little bytes) else .error (.missingMark 32)

/-- The text that bytes spell. -/
def decode (e : Encoding) (bytes : List UInt8) : Except DecodeError (List Char) :=
  match e with
  | utf8 => .ok (Utf8.decode bytes)
  | utf8Marked => .ok (decodeMarked bytes)
  | ascii => .ok (bytes.map (byteBelow 0x80))
  | latin1 => .ok (bytes.map (byteBelow 0x100))
  | windows1252 => .ok (bytes.map windowsChar)
  | utf16 (some order) => .ok (CodeUnit.decode16 order bytes)
  | utf16 none => decodeMarked16 bytes
  | utf32 (some order) => .ok (CodeUnit.decode32 order bytes)
  | utf32 none => decodeMarked32 bytes
  | idna => .error .unsupported
  | undefined => .error .undefined

end Encoding

/-! ## Codecs -/

/-- What a name of an encoding of texts gives: a known encoding, or one that someone has registered,
which decodes bytes or says why it does not. -/
inductive Codec
  | known (e : Encoding)
  | registered (decode : List UInt8 → Except String (List Char))

namespace Codec

/-- The text that bytes spell. -/
def decode : Codec → List UInt8 → Except Encoding.DecodeError (List Char)
  | known e, bytes => e.decode bytes
  | registered decode, bytes => (decode bytes).mapError .refused

/-- The codecs that are registered under names besides the known ones. -/
abbrev Registry := String → Option (List UInt8 → Except String (List Char))

open Encoding in
/-- The codec with a name. The encoding of the surroundings is `utf8`. -/
def named (registry : Registry) (name : String) : Except NameError Codec :=
  if name == localName then .ok (known .utf8)
  else match meaning? (canonical name) with
  | some (.text e) => .ok (known e)
  | some .other => .error (.notText name)
  | none =>
    match registry name with
    | some decode => .ok (registered decode)
    | none => .error (.unknown name)

end Codec

end Specifiers
