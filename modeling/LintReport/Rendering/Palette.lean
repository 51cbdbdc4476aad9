/-
The colors of rendered messages, by role.

* `Palette` — the roles, all of them in color or none;
* one function per role: the ground and the letters of a severity, muted text, accented text,
  the marker of an excerpt, and good news.
-/
import LintReport.Diagnostic.Severity
import LintReport.Terminal.Style

namespace LintReport

open Terminal (Color Style)

/-- The roles of colors; a palette that is not enabled leaves every text as it is. -/
structure Palette where
  enabled : Bool
  deriving DecidableEq, Repr, Inhabited

/-- The color of a severity. -/
def Severity.color : Severity → Color
  | .error => .plain .red
  | .warning => .plain .yellow

namespace Palette

/-- The text in a style. -/
def style (p : Palette) (s : Style) (text : String) : String :=
  if p.enabled then s.apply text else text

/-- The text on the color of a severity. -/
def severityGround (p : Palette) (s : Severity) (text : String) : String :=
  p.style (.onGround s.color) text

/-- The text in the color of a severity. -/
def severityLetters (p : Palette) (s : Severity) (text : String) : String :=
  p.style (.lettersIn s.color) text

/-- Hints and other text of second rank. -/
def muted (p : Palette) (text : String) : String := p.style (.lettersIn (.bright .black)) text

/-- File paths and the names of rules. -/
def accent (p : Palette) (text : String) : String := p.style (.lettersIn (.plain .blue)) text

/-- The marks under the columns of an excerpt. -/
def marker (p : Palette) (text : String) : String := p.style (.lettersIn (.plain .red)) text

/-- Good news. -/
def success (p : Palette) (text : String) : String := p.style (.lettersIn (.plain .green)) text

@[simp] theorem style_disabled (s : Style) (text : String) : style ⟨false⟩ s text = text := rfl

end Palette

end LintReport
