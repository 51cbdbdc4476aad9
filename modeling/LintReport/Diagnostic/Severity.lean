/-
The two severities of a diagnostic.

* `Severity` — errors, which come first, and warnings;
* `Severity.parse?` — the severity a token names, whatever its case and the white space
  around it.
-/
import LintReport.Text.Blank
import LintReport.Text.Casing

namespace LintReport

/-- How serious a diagnostic is. -/
inductive Severity
  | error
  | warning
  deriving DecidableEq, Repr, Inhabited

namespace Severity

/-- The word of a severity in reports. -/
def word : Severity → String
  | error => "error"
  | warning => "warn"

/-- The place of a severity in the order of importance, the first place being one. -/
def rank : Severity → Int
  | error => 1
  | warning => 2

/-- The name of a severity in running text. -/
def label : Severity → String
  | error => "Error"
  | warning => "Warning"

/-- The form in which a token is compared with the words. -/
def token (raw : String) : String := Text.lower (Text.trim raw)

/-- The severity that a token names. -/
def parse? (raw : String) : Option Severity :=
  match token raw with
  | "error" => some error
  | "warn" => some warning
  | "warning" => some warning
  | _ => none

/-- Negative, zero or positive as the first severity comes before, with or after the second. -/
def compare (a b : Severity) : Int := a.rank - b.rank

end Severity

end LintReport
