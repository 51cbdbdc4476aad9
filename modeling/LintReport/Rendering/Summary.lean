/-
The summary after the messages of a run.

* `pluralize` — a count with its noun;
* `summaryLines` — the verdict, and the number of ignored messages if there are any.
-/
import LintReport.Diagnostic.Message
import LintReport.Rendering.Palette

namespace LintReport

/-- A count with its noun, in the plural unless the count is one. -/
def pluralize (count : Int) (noun : String) : String :=
  if count = 1 then s!"{count} {noun}" else s!"{count} {noun}s"

/-- The verdict on a run. -/
def verdict (palette : Palette) (t : Tally) : String :=
  if 0 < t.errors then
    let warnings := if 0 < t.warnings then " and " ++ pluralize t.warnings "warning" else ""
    palette.style (.lettersIn (.plain .red))
      ("❌ Validation failed with " ++ pluralize t.errors "error" ++ warnings ++ ".")
  else if 0 < t.warnings then
    palette.style (.lettersIn (.plain .yellow))
      ("⚠️ Your document is valid with " ++ pluralize t.warnings "warning" ++ ".")
  else palette.success "✅ No problems found."

/-- The lines of the summary. -/
def summaryLines (palette : Palette) (t : Tally) : List String :=
  verdict palette t ::
    if 0 < t.ignored then
      let problems := pluralize t.ignored "problem"
      let verb := if t.ignored = 1 then "was" else "were"
      [palette.muted s!"{problems} {verb} explicitly ignored."]
    else []

end LintReport
