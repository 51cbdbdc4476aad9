/-
How a run of the program ends.

* `World` — what a run finds around it: files, variables, the input, and its own name;
* `Refusal` — trouble that the user is told about, each kind with its exit status;
* `Crash` — trouble that nobody handles;
* `Stop` — why a run ends before its regular end.
-/
import LintReport.CommandLine.Help
import LintReport.CommandLine.Usage
import LintReport.Diagnostic.Report
import LintReport.Log
import LintReport.Rendering.Output
import LintReport.Settings.File

namespace LintReport

/-- What a run finds around it. -/
structure World where
  /-- The name of the program in its help. -/
  program : String
  /-- The width of help texts. -/
  width : Nat
  tree : FileTree
  env : Environment
  input : List UInt8
  limits : Limits
  deriving Repr, Inhabited

/-- Trouble that the user is told about. -/
inductive Refusal
  | verboseAndQuiet
  | settings (e : Settings.Error)
  | noReport (report : String)
  | unreadable (report : String) (e : ReadError)
  | undecodable (report : String) (e : Text.Utf8.Error)
  | malformed (report : String) (e : Report.Error)
  deriving Repr

namespace Refusal

/-- The exit status of a refusal. -/
def exit : Refusal → Exit
  | verboseAndQuiet => .usage
  | settings _ => .config
  | noReport _ => .noInput
  | unreadable .. => .io
  | undecodable .. => .data
  | malformed .. => .data

/-- The wording of a refusal. -/
def message : Refusal → String
  | verboseAndQuiet => "The '--verbose' and '--quiet' options are mutually exclusive."
  | settings e => e.message
  | noReport report => s!"Report not found: {report}"
  | unreadable report e => s!"Cannot read {report}: {e.message}"
  | undecodable report e => s!"{report}: not valid UTF-8 ({e.message})"
  | malformed report e => s!"{report}: {e.message}"

end Refusal

/-- Trouble that nobody handles. -/
inductive Crash
  | logLevel (e : Text.Numeral.Error)
  | settings (e : SettingsFile.Fault)
  | report (e : Report.Error)
  | rendering (e : Fault)
  | nullCharacter
  deriving Repr

/-- The wording of trouble that nobody handles. -/
def Crash.message : Crash → String
  | logLevel e => e.message
  | settings e => e.message
  | report e => e.message
  | rendering e => e.message
  | nullCharacter => ReadError.nullCharacter.message

/-- A command as its help shows it, with the name that it is called by. -/
structure Command where
  name : String
  page : Page
  deriving Repr

/-- Why a run ends early; `color` says whether color was decided on by then. -/
inductive Stop
  | help (command : Command)
  | misuse (command : Command) (e : UsageError) (color : Option Bool)
  | refused (r : Refusal) (color : Option Bool)
  | crashed (c : Crash)
  deriving Repr

/-- What a run ends with: an exit status, or trouble that nobody handles. -/
inductive Ending
  | exited (status : Nat)
  | crashed (c : Crash)
  deriving Repr

/-- The exit status of a run; trouble that nobody handles counts as a failure. -/
def Ending.status : Ending → Nat
  | .exited status => status
  | .crashed _ => Exit.failure.code

/-- A text as an error stream shows it before there is a console: without color, or where none
was decided on and the stream is no terminal, control sequences are taken out. -/
def World.shown (w : World) (color : Option Bool) (text : String) : String :=
  if color.getD (w.env.terminal.getD false) then text else Terminal.stripEscapes text

/-- Writes a line to the error stream. -/
def World.report (w : World) (color : Option Bool) (text : String) : Logged Unit :=
  .write .diagnostics (w.shown color (text ++ "\n"))

/-- The line of an error. -/
def errorLine (text : String) : String := s!"Error: {text}"

/-- The lines on the use of a command. -/
def Command.advice (c : Command) : String :=
  s!"{c.page.usageLine c.name}\nTry '{c.name} --help' for help.\n"

/-- Tells why a run ends early. -/
def World.tell (w : World) : Stop → Logged Ending
  | .help c => do
    Logged.write .output (c.page.text w.width c.name ++ "\n")
    return .exited Exit.success.code
  | .misuse c e color => do
    if !e.isBare then w.report color c.advice
    w.report (if e.isBare then none else color) (errorLine e.message)
    return .exited UsageError.status
  | .refused r color => do
    w.report color (errorLine r.message)
    return .exited r.exit.code
  | .crashed c => return .crashed c

end LintReport
