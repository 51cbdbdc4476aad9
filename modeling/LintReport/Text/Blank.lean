/-
White space, and texts without the white space around them.

* `isBlank` — the white-space characters of all scripts, separators 28 to 31 included;
* `trimEndChars`, `trim` — characters without the white space at their end, and a text without
  the white space around it.
-/
import LintReport.Text.CodeRange

namespace LintReport.Text

/-- The white-space code points. -/
def blankRanges : Array (Nat × Nat) := #[
  (9, 13), (28, 32), (133, 133), (160, 160), (5760, 5760), (8192, 8202), (8232, 8233),
  (8239, 8239), (8287, 8287), (12288, 12288)]

/-- White space of any script. -/
def isBlank (c : Char) : Bool := inRanges blankRanges c.toNat

/-- The characters without the white space at their end. -/
def trimEndChars : List Char → List Char
  | [] => []
  | c :: rest =>
    match trimEndChars rest with
    | [] => if isBlank c then [] else [c]
    | kept => c :: kept

/-- The text without white space on either side. -/
def trim (s : String) : String := String.ofList (trimEndChars (s.toList.dropWhile isBlank))

end LintReport.Text
