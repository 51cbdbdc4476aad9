/-
Writing of rendered messages.

* `Console.writeChunks` — writes chunks to the diagnostics, each with a line break after it;
* `formatMessages` — renders messages and writes them.
-/
import LintReport.Rendering.Listing
import LintReport.Terminal.Console

namespace LintReport

/-- The note on chunks that were written. -/
def noteWritten (count : Nat) : Logged Unit :=
  .note .trace s!"Wrote {count} chunk(s) to the diagnostic stream"

/-- Writes chunks to the diagnostics. -/
def Console.writeChunks (c : Console) (chunks : List String) : Logged Unit := do
  chunks.forM (c.diagnose true)
  noteWritten chunks.length

/-- Renders messages and writes them to a console; `here` is where a relative directory starts
from. -/
def formatMessages (docs : Documents) (env : Environment) (here : String) (o : RenderOptions)
    (c : Console) (msgs : List Message) : Attempt Fault Unit := do
  let chunks ← renderMessages docs env here o none msgs
  Attempt.ofLogged (c.writeChunks chunks)

end LintReport
