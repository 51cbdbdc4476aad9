/-
Quoted texts: how a text is shown inside a message so that its ends and its invisible
characters can be seen.

* `quote` — the text between quotes, with escapes.

Design notes: single quotes are used unless the text holds single quotes and no double
quote. The quote in use and the backslash are escaped, tab, line feed and carriage return
have letters, and any other character that is not printable is written by its code point
with two, four or eight hexadecimal digits.
-/
import LintReport.Text.Printable

namespace LintReport.Text

/-- The lower-case hexadecimal digits of a number, padded with zeros to a width. -/
def hex (width n : Nat) : List Char :=
  let digits := Nat.toDigits 16 n
  List.replicate (width - digits.length) '0' ++ digits

/-- A character by its code point, after a backslash. -/
def codeEscape (c : Char) : List Char :=
  if c.toNat < 0x100 then '\\' :: 'x' :: hex 2 c.toNat
  else if c.toNat < 0x10000 then '\\' :: 'u' :: hex 4 c.toNat
  else '\\' :: 'U' :: hex 8 c.toNat

/-- One character of a quoted text, between the given quotes. -/
def quoteChar (mark : Char) (c : Char) : List Char :=
  if c = mark || c = '\\' then ['\\', c]
  else if c = '\n' then ['\\', 'n']
  else if c = '\r' then ['\\', 'r']
  else if c = '\t' then ['\\', 't']
  else if isPrintable c then [c]
  else codeEscape c

/-- The quotes a text is put between. -/
def quoteMark (cs : List Char) : Char :=
  if cs.contains '\'' && !cs.contains '"' then '"' else '\''

/-- A text between quotes, given as characters. -/
def quoteChars (cs : List Char) : List Char :=
  let mark := quoteMark cs
  mark :: cs.flatMap (quoteChar mark) ++ [mark]

/-- The text between quotes. -/
def quote (s : String) : String := String.ofList (quoteChars s.toList)

end LintReport.Text
