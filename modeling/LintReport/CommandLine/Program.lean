/-
The program: its commands, and what a run writes.

* `Session.version` — the command that tells the version;
* `World.start` — the run of a command line up to its end;
* `World.run` — what a run ends with, and what it writes to its two streams.
-/
import LintReport.CommandLine.Render
import LintReport.Files.Documents

namespace LintReport

/-- The version of the program. -/
def version : String := "0.1.0"

namespace Session

/-- The help of the command that tells the version. -/
def versionPage : Page where
  arguments := "[OPTIONS]"
  summary := "Show the current version of Lintframe."
  options := [("-h, --help", "Show this message and exit.")]
  commands := []

/-- The names of the help option, the only one of the command. -/
def helpSwitches : List (Switch Unit) := [⟨"-h", (), false⟩, ⟨"--help", (), false⟩]

/-- The command that tells the version, called below the program. -/
def versionCommand (w : World) : Command := ⟨w.program ++ " version", versionPage⟩

/-- Tells the version, under a heading if more is asked for. -/
def tellVersion (s : Session) : Logged Unit := do
  let console := Console.styling s.color
  let number := console.styled { bold := some true } version
  if s.verbosity ≤ Level.info then
    console.print true
      (console.styled { bold := some true, underline := some true } "Lintframe version:")
    console.print true s!"    {number}"
  else console.print true number

/-- Runs the command that tells the version. -/
def version (s : Session) (w : World) (args : List String) : Attempt Stop Exit :=
  match Switch.parse helpSwitches true args with
  | .error e => throw (.misuse (versionCommand w) e (some s.color))
  | .ok p =>
    if p.has () then throw (.help (versionCommand w))
    else if !p.rest.isEmpty then
      throw (.misuse (versionCommand w) (.extraArguments p.rest) (some s.color))
    else do
      Attempt.ofLogged s.tellVersion
      return .success

/-- Says how the program is used, for a command line without a command. -/
def hint (s : Session) (w : World) : Logged Unit := do
  let console := Console.styling s.color
  console.print true "Hint: use 'lintframe render REPORT.json' to render a lint report."
  console.print true ""
  console.print true (w.command.page.text w.width w.command.name)

end Session

/-- The commands by name. -/
def commands : List (String × (Session → World → List String → Attempt Stop Exit)) :=
  [("render", Session.render), ("version", Session.version)]

namespace World

/-- Why a name is none of a command; one that looks like options is read as such first. -/
def refuseCommand (w : World) (args : List String) (name : String) : Stop :=
  let unknown : Stop :=
    .misuse w.command (.noSuchCommand name (Text.closest name (commands.map (·.1)))) none
  if Switch.isOption name then
    match GlobalArguments.read w args with
    | .error stop => stop
    | .ok _ => unknown
  else unknown

/-- The run of a command line. -/
def start (w : World) (args : List String) : Attempt Stop Exit := do
  let global ← Attempt.ofExcept (GlobalArguments.read w args)
  match global.rest with
  | [] => do
    let s ← global.session w
    Attempt.ofLogged (s.hint w)
    return .success
  | name :: own =>
    match commands.lookup name with
    | none => throw (w.refuseCommand (name :: own) name)
    | some command => do
      let s ← global.session w
      command s w own

/-- The run of a command line, with what is said at its end. -/
def finish (w : World) (args : List String) : Logged Ending := do
  match ← (w.start args).run with
  | .ok e => return .exited e.code
  | .error stop => w.tell stop

/-- The log of a run; a run that asks for no level in the right way shows no notes. -/
def log (w : World) : Log :=
  let quiet : Log := ⟨.critical, []⟩
  match w.env.logLevel? with
  | .ok asked => (quiet.setup w.env asked).toOption.getD quiet
  | .error _ => quiet

end World

/-- What a run ends with, and what it writes. -/
structure Run where
  ending : Ending
  output : String
  diagnostics : String
  deriving Repr

/-- A run of the program. -/
def World.run (w : World) (args : List String) : Run :=
  let run := w.finish args
  let events := w.log.shown (SourceCache.replay w.tree [] run.events).2
  ⟨run.value, writtenTo .output events, writtenTo .diagnostics events⟩

end LintReport
