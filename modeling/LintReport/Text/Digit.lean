/-
Digits of all scripts.

* `decimalValue?` — the value of a decimal digit, the characters numbers are read from;
* `isDigit` — the wider class that also holds superscripts, subscripts and circled
  digits, which have a digit shape but cannot be read as a decimal numeral.

`isDigit_of_decimalValue?` says that the second class contains the first; it is
strictly larger (`'²'`).

Design notes: every script's decimal digits are ten consecutive code points, so the
table lists the code point of each zero.
-/
import LintReport.Text.CodeRange

namespace LintReport.Text

/-- Code points of the decimal zeros above the ASCII block. -/
def zeroDigits : Array Nat := #[
  1632, 1776, 1984, 2406, 2534, 2662, 2790, 2918, 3046, 3174, 3302, 3430, 3558, 3664, 3792, 3872,
  4160, 4240, 6112, 6160, 6470, 6608, 6784, 6800, 6992, 7088, 7232, 7248, 42528, 43216, 43264,
  43472, 43504, 43600, 44016, 65296, 66720, 68912, 69734, 69872, 69942, 70096, 70384, 70736,
  70864, 71248, 71360, 71472, 71904, 72016, 72784, 73040, 73120, 92768, 92864, 93008, 120782,
  120792, 120802, 120812, 120822, 123200, 123632, 125264, 130032]

/-- Digits that have no decimal value in a numeral. -/
def ornamentalDigitRanges : Array (Nat × Nat) := #[
  (178, 179), (185, 185), (4969, 4977), (6618, 6618), (8304, 8304), (8308, 8313), (8320, 8329),
  (9312, 9320), (9332, 9340), (9352, 9360), (9450, 9450), (9461, 9469), (9471, 9471),
  (10102, 10110), (10112, 10120), (10122, 10130), (68160, 68163), (69216, 69224), (69714, 69722),
  (127232, 127242)]

/-- The value of a decimal digit of any script. -/
def decimalValue? (c : Char) : Option Nat :=
  if c.toNat < 128 then
    if c.isDigit then some (c.toNat - 48) else none
  else
    (zeroDigits.find? fun z => z ≤ c.toNat && c.toNat ≤ z + 9).map (c.toNat - ·)

/-- Digits in the wide sense, with superscripts and circled digits. -/
def isDigit (c : Char) : Bool :=
  (decimalValue? c).isSome || inRanges ornamentalDigitRanges c.toNat

theorem isDigit_of_decimalValue? {c : Char} {n : Nat} (h : decimalValue? c = some n) :
    isDigit c = true := by
  simp [isDigit, h]

end LintReport.Text
