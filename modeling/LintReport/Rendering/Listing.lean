/-
Rendering of messages as chunks of text.

* `truncationNotice` — the line on messages that the cap leaves out;
* `renderMessages` — the chunks of a list of messages: those of the selected messages in the
  layout asked for, and the notice.

Every chunk is written with a line break after it. Without any message there is no chunk.
-/
import LintReport.Rendering.Layout
import LintReport.Rendering.Selection
import LintReport.Rendering.Stylish

namespace LintReport

/-- The advice at the end of the notice. -/
def maxMessagesHint : String := "increase with `--max-messages N`"

/-- The notice on messages that a cap leaves out, whose number must be one that is written. -/
def truncationNotice (palette : Palette) (s : Selection) (cap : Int) :
    Except Fault (Option String) :=
  if !s.isTruncated cap then .ok none
  else if !Text.Numeral.isWritable (s.hidden cap) then .error (.numeral .unwritable)
  else .ok (some s!"< ... {s.hidden cap} more messages hidden > {palette.muted maxMessagesHint}")

/-- The chunks of selected messages in a layout. -/
def renderSelected (docs : Documents) (palette : Palette) (view : Viewpoint) (layout : Layout)
    (msgs : List Message) : Attempt Fault (List String) :=
  match layout with
  | .codeframe => Codeframe.render docs palette view msgs
  | .stylish => Stylish.render docs palette view msgs

/-- The chunks of a list of messages; `here` is where a relative directory starts from. -/
def renderMessages (docs : Documents) (env : Environment) (here : String) (o : RenderOptions)
    (palette : Option Palette) (msgs : List Message) : Attempt Fault (List String) := do
  let s := Selection.ofMessages msgs o.maxMessages
  Attempt.ofLogged s.note
  if s.total = 0 then return []
  let palette ← match palette with
    | some p => pure p
    | none => Attempt.ofLogged (o.palette env)
  let chunks ← renderSelected docs palette ⟨here, o.directory⟩ o.layout s.visible
  let notice ← Attempt.ofExcept (truncationNotice palette s o.maxMessages)
  return chunks ++ notice.toList

end LintReport
