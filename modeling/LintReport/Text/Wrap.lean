/-
Wrapping of running text.

* `wrap` — the lines of a text, broken at blanks so that they keep to a width.

Design notes: a line takes words as long as they fit. Several blanks between two words stay if
both words are on one line. A word that is too long for any line stands alone.
-/

namespace LintReport.Text

/-- The words of a text, each with the number of blanks before it. -/
def spacedWords (blanks : Nat) (word : List Char) : List Char → List (Nat × List Char)
  | [] => if word.isEmpty then [] else [(blanks, word.reverse)]
  | c :: rest =>
    if c != ' ' then spacedWords blanks (c :: word) rest
    else if word.isEmpty then spacedWords (blanks + 1) [] rest
    else (blanks, word.reverse) :: spacedWords 1 [] rest

/-- The lines of words, after a line that is begun. -/
def fillLines (width : Nat) (line : List Char) : List (Nat × List Char) → List (List Char)
  | [] => if line.isEmpty then [] else [line]
  | (blanks, word) :: rest =>
    if line.isEmpty then fillLines width word rest
    else if line.length + blanks + word.length ≤ width then
      fillLines width (line ++ List.replicate blanks ' ' ++ word) rest
    else line :: fillLines width word rest

/-- The lines of a text under a width. -/
def wrap (width : Nat) (s : String) : List String :=
  (fillLines width [] (spacedWords 0 [] s.toList)).map String.ofList

end LintReport.Text
