/-
Division of a text into lines.

* `lines` — the lines of a text, without their line breaks; a break at the very end
  does not open another line;
* `unifyBreaks` — the text with every carriage return, alone or before a line feed,
  replaced by one line feed, as files are read.

Design notes: a line break is a line feed, a carriage return, the pair of them, a
vertical tab, a form feed, a separator (28 to 30), the next-line character or one of
the two Unicode separators.
-/
import LintReport.Text.CodeRange

namespace LintReport.Text

/-- Code points of the characters that end a line. -/
def lineBreakRanges : Array (Nat × Nat) := #[(10, 13), (28, 30), (133, 133), (8232, 8233)]

/-- A character that ends a line. -/
def isLineBreak (c : Char) : Bool := inRanges lineBreakRanges c.toNat

/-- Puts a character in front of the first line. -/
def consToLines (c : Char) : List (List Char) → List (List Char)
  | [] => [[c]]
  | line :: rest => (c :: line) :: rest

/-- The lines of a text, given as characters. -/
def lineChars : List Char → List (List Char)
  | [] => []
  | '\r' :: '\n' :: rest => [] :: lineChars rest
  | c :: rest => if isLineBreak c then [] :: lineChars rest else consToLines c (lineChars rest)

/-- The lines of a text. -/
def lines (s : String) : List String := (lineChars s.toList).map String.ofList

/-- Replaces each carriage return, with the line feed after it if there is one, by a line feed. -/
def unifyBreaks : List Char → List Char
  | [] => []
  | '\r' :: '\n' :: rest => '\n' :: unifyBreaks rest
  | c :: rest => (if c = '\r' then '\n' else c) :: unifyBreaks rest

end LintReport.Text
