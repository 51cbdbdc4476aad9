/-
Settings that are built step by step.

* `Settings.Step` — a table is read, or the environment or given values are put over the settings;
* `Settings.Step.apply`, `Settings.Step.take` — the settings that a step gives, or why it is
  refused, and whether the refusal can be told;
* `Settings.next`, `Settings.after` — the settings that stand after a step, and after many.

Design notes: a refused step leaves the settings as they are. As in a session of a reader the
latest step comes first.
-/
import LintReport.Settings.File

namespace LintReport.Settings

/-- What is done with settings. -/
inductive Step
  /-- The settings of a table take the place of all others. -/
  | table (file : Option Path) (fields : Fields)
  | environment (vars : List (String × String))
  | override (o : Overrides)

/-- The settings that a step gives, or the refusal of a value. -/
def Step.apply (s : Settings) : Step → Attempt Error Settings
  | .table file fields => ofTable file fields
  | .environment vars => Attempt.ofExcept (s.withVariables vars)
  | .override o => Attempt.ofExcept (s.override o)

/-- The settings that a step gives. A refusal tells the value, which must be one that can be
printed. -/
def Step.take (deepest : Nat) (s : Settings) (step : Step) : Attempt Failure Settings :=
  (step.apply s).adapt (.ofError deepest)

/-- The settings that stand after a step. -/
def next (deepest : Nat) (s : Settings) (step : Step) : Settings :=
  match (step.take deepest s).outcome with
  | .ok s' => s'
  | .error _ => s

/-- The settings that stand after some steps, the latest of which comes first. -/
def after (deepest : Nat) : List Step → Settings
  | [] => standard
  | step :: past => (after deepest past).next deepest step

end LintReport.Settings
