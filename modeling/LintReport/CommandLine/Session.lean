/-
The options before a command, and what they decide for it.

* `Verbosity.ofCounts?` — the level of the program's own output;
* `GlobalOption` — the options that come before a command;
* `Session` — verbosity and color of a run.
-/
import LintReport.CommandLine.Choice
import LintReport.CommandLine.Ending
import LintReport.CommandLine.Switch

namespace LintReport

/-- The level of the program's own output, from the numbers of options that raise and lower it;
none if there are some of both. -/
def Verbosity.ofCounts? (verbose quiet : Int) : Option Level :=
  if 0 < verbose && 0 < quiet then none
  else if 3 ≤ verbose then some .trace
  else if verbose = 2 then some .debug
  else if verbose = 1 then some .info
  else if 1 ≤ quiet then some .error
  else some .warning

/-- An option that comes before a command. -/
inductive GlobalOption
  | quiet
  | verbose
  | noColor
  | color
  | help
  deriving DecidableEq, Repr

namespace GlobalOption

/-- The names of the options. -/
def switches : List (Switch GlobalOption) := [
  ⟨"-q", .quiet, false⟩, ⟨"--quiet", .quiet, false⟩, ⟨"-v", .verbose, false⟩,
  ⟨"--verbose", .verbose, false⟩, ⟨"--no-color", .noColor, false⟩, ⟨"--color", .color, true⟩,
  ⟨"-h", .help, false⟩, ⟨"--help", .help, false⟩]

/-- The help of the program. -/
def page : Page where
  arguments := "[OPTIONS] [COMMAND] [ARGS]..."
  summary := "Render lint diagnostics as codeframes or compact per-file listings."
  options := [
    ("-q, --quiet", "Suppress the totals summary and informational output."),
    ("-v, --verbose", "Increase verbosity. Specify multiple times for more detail."),
    ("--no-color", "Disable color output (equivalent to --color=never)."),
    ("--color COLORMODE", "Color output: auto (default), always, or never."),
    ("-h, --help", "Show this message and exit.")]
  commands := [
    ("render", "Render the messages of a JSON lint REPORT (use '-' for STDIN)."),
    ("version", "Show the current version of Lintframe.")]

end GlobalOption

/-- The program as a command without a name of its own. -/
def World.command (w : World) : Command := ⟨w.program, GlobalOption.page⟩

/-- What the options before a command say. -/
structure GlobalArguments where
  verbose : Nat
  quiet : Nat
  colorMode : Option ColorMode
  /-- The command and its own arguments. -/
  rest : List String
  deriving Repr

namespace GlobalArguments

/-- What a command line says before its command. -/
def read (w : World) (args : List String) : Except Stop GlobalArguments :=
  match Switch.parse GlobalOption.switches false args with
  | .error e => .error (.misuse w.command e none)
  | .ok p =>
    if p.has .help then .error (.help w.command)
    else
      let finish (mode : Option ColorMode) : GlobalArguments :=
        ⟨p.count .verbose, p.count .quiet, if p.has .noColor then some .never else mode, p.rest⟩
      match p.value? .color with
      | none => .ok (finish none)
      | some word =>
        match ColorMode.choice.read word with
        | .ok mode => .ok (finish (some mode))
        | .error e => .error (.misuse w.command (.badValue "--color" e) none)

end GlobalArguments

/-- What the options before a command decide. -/
structure Session where
  verbosity : Level
  colorMode : Option ColorMode
  color : Bool
  deriving Repr, Inhabited

/-- The decisions of the options before a command. The level of the log has to be one. -/
def GlobalArguments.session (a : GlobalArguments) (w : World) : Attempt Stop Session := do
  match Verbosity.ofCounts? a.verbose a.quiet with
  | none => throw (.refused .verboseAndQuiet none)
  | some verbosity =>
    match w.env.logLevel? with
    | .error e => throw (.crashed (.logLevel e))
    | .ok _ =>
      let color ← Attempt.ofLogged (ColorMode.resolve w.env a.colorMode)
      return ⟨verbosity, a.colorMode, color⟩

end LintReport
