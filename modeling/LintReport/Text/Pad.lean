/-
Padding of texts to a width, counted in characters.

* `padEnd` — blanks after the text, `padStart` — blanks before it; a text that is already
  as long stays as it is.
-/

namespace LintReport.Text

/-- The text followed by blanks up to the width. -/
def padEnd (width : Nat) (s : String) : String :=
  s ++ String.ofList (List.replicate (width - s.length) ' ')

/-- The text preceded by blanks up to the width. -/
def padStart (width : Nat) (s : String) : String :=
  String.ofList (List.replicate (width - s.length) ' ') ++ s

end LintReport.Text
