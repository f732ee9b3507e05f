import BoundQuery.Raised

/-!
# Character sets

The driver knows its character sets by name, in any case of letters. A connection that
was never opened still encodes the queries that it is given, in the encoding that goes
with its character set. A code point that the encoding does not have is an error, and no
encoding has a surrogate.
-/

namespace BoundQuery

/-- The names of the known character sets in lower case. -/
def knownCharsets : List String :=
  ["armscii8", "ascii", "big5", "binary", "cp1250", "cp1251", "cp1256", "cp1257",
    "cp850", "cp852", "cp866", "cp932", "dec8", "eucjpms", "euckr", "gb18030",
    "gb2312", "gbk", "geostd8", "greek", "hebrew", "hp8", "keybcs2", "koi8r", "koi8u",
    "latin1", "latin2", "latin5", "latin7", "macce", "macroman", "sjis", "swe7",
    "tis620", "ujis", "utf8", "utf8mb3", "utf8mb4"]

def isKnownCharset (name : Text) : Bool :=
  knownCharsets.any fun known => Text.ofString known == name.lowerAscii

/-! ## Encodings -/

/-- The encodings of queries on a connection that was never opened. -/
inductive Encoding
  | utf8
  | windows1252
  | ascii
  deriving DecidableEq

namespace Encoding

def ofCharset? (name : String) : Option Encoding :=
  match name with
  | "utf8mb4" => some utf8
  | "latin1" => some windows1252
  | "ascii" => some ascii
  | _ => none

/-- The characters above U+00FF that Windows-1252 has. -/
def windows1252Extras : List Nat :=
  [0x20AC, 0x201A, 0x0192, 0x201E, 0x2026, 0x2020, 0x2021, 0x02C6, 0x2030, 0x0160,
    0x2039, 0x0152, 0x017D, 0x2018, 0x2019, 0x201C, 0x201D, 0x2022, 0x2013, 0x2014,
    0x02DC, 0x2122, 0x0161, 0x203A, 0x0153, 0x017E, 0x0178]

def has (encoding : Encoding) (point : CodePoint) : Bool :=
  match encoding with
  | utf8 => !point.isSurrogate
  | windows1252 =>
      decide (point.value < 0x80) ||
        decide (0xA0 ≤ point.value ∧ point.value ≤ 0xFF) ||
        windows1252Extras.contains point.value
  | ascii => decide (point.value < 0x80)

def name : Encoding → String
  | utf8 => "utf-8"
  | windows1252 => "charmap"
  | ascii => "ascii"

/-- The reason that an error gives for a code point that an encoding does not have. -/
def reason : Encoding → String
  | utf8 => "surrogates not allowed"
  | windows1252 => "character maps to <undefined>"
  | ascii => "ordinal not in range(128)"

/-- The position of the first code point that cannot be encoded. -/
def firstFailure? (encoding : Encoding) (text : Text) : Option Nat :=
  text.findIdx? fun point => !encoding.has point

/-- The error that encoding a text raises, if it raises one. -/
def failure? (encoding : Encoding) (text : Text) : Option Raised :=
  (encoding.firstFailure? text).map fun (position : Nat) =>
    .host .encoding
      [.text (Text.ofString encoding.name), .text text, .integer position,
        .integer (position + 1), .text (Text.ofString encoding.reason)]

end Encoding

end BoundQuery
