/-
Percent decoding: a percent sign and two hexadecimal digits stand for a byte.

* `percentDecode` — the text with the bytes put in place; a percent sign that is not
  followed by two hexadecimal digits stays.

Design notes: the bytes are put into the UTF-8 form of each longest run of ASCII
characters, and the run is then decoded with replacement characters. A run ends at the
first other character, so a byte sequence cannot continue across it.
-/
import LintReport.Text.Utf8

namespace LintReport.Text

/-- The value of a hexadecimal digit of either case. -/
def hexValue? (c : Char) : Option Nat :=
  if '0' ≤ c && c ≤ '9' then some (c.toNat - '0'.toNat)
  else if 'a' ≤ c && c ≤ 'f' then some (c.toNat - 'a'.toNat + 10)
  else if 'A' ≤ c && c ≤ 'F' then some (c.toNat - 'A'.toNat + 10)
  else none

/-- The byte of two hexadecimal digits. -/
def hexPair? (high low : Char) : Option UInt8 :=
  match hexValue? high, hexValue? low with
  | some h, some l => some (UInt8.ofNat (16 * h + l))
  | _, _ => none

/-- The bytes of a run of ASCII characters, with the percent escapes replaced. -/
def percentBytes : List Char → List UInt8
  | '%' :: a :: b :: rest =>
    match hexPair? a b with
    | some byte => byte :: percentBytes rest
    | none => '%'.toUInt8 :: percentBytes (a :: b :: rest)
  | c :: rest => c.toUInt8 :: percentBytes rest
  | [] => []

/-- Decodes a text whose pending run of ASCII characters is kept in reverse. -/
def percentDecodeFrom (run : List Char) : List Char → List Char
  | [] => Utf8.decodeLossy (percentBytes run.reverse)
  | c :: rest =>
    if c.toNat < 128 then percentDecodeFrom (c :: run) rest
    else Utf8.decodeLossy (percentBytes run.reverse) ++ c :: percentDecodeFrom [] rest

/-- The text with its percent escapes decoded. -/
def percentDecode (cs : List Char) : List Char := percentDecodeFrom [] cs

end LintReport.Text
