/-
The layout with one line for each message, by file.

* `Stylish.line` — the line of a message, with columns for its position and its rule;
* `Stylish.group` — the lines of a file: its path, its messages, and an empty line.
-/
import LintReport.Rendering.Codeframe
import LintReport.Rendering.Group
import LintReport.Text.Pad

namespace LintReport.Stylish

/-- The line of a message whose position can be written. -/
def line (palette : Palette) (positionWidth ruleWidth : Nat) (r : Resolved) : String :=
  let position := Text.padEnd (positionWidth + 2) r.primary.position
  let rule := palette.severityLetters r.message.severity (Text.padEnd ruleWidth r.message.rule)
  s!"  {position} {rule} {r.message.text}"

/-- The line of a message, if its position can be written. -/
def line? (palette : Palette) (positionWidth ruleWidth : Nat) (r : Resolved) :
    Except Text.Numeral.Error String :=
  if r.primary.start.isWritable then .ok (line palette positionWidth ruleWidth r)
  else .error .unwritable

/-- The lines of a group. -/
def group (palette : Palette) (view : Viewpoint) (g : FileGroup) :
    Attempt Fault (List String) := do
  let path ← Attempt.ofLogged (view.shownPath g.path)
  let lines := g.messages.mapM (line? palette g.positionWidth g.ruleWidth)
  let lines ← (Attempt.ofExcept lines).adapt Fault.numeral
  return s!"{palette.accent path}:" :: lines ++ [""]

/-- The lines of groups. -/
def groups (palette : Palette) (view : Viewpoint) (gs : List FileGroup) :
    Attempt Fault (List String) := do
  return (← gs.mapM (group palette view)).flatten

/-- The lines of messages, by file. -/
def render (docs : Documents) (palette : Palette) (view : Viewpoint) (msgs : List Message) :
    Attempt Fault (List String) := do
  let gs ← groupByFile Fault.numeral (Location.resolve docs) msgs
  groups palette view gs

end LintReport.Stylish
