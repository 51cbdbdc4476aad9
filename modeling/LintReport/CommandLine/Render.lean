/-
The command that renders a report.

* `RenderArguments` — what its part of the command line says;
* `Session.readReport` — the messages of a report file or of the input;
* `Session.render` — renders the messages and tells how many there are.

The command ends with status 1 if there is an error that is not ignored, otherwise with 0.
-/
import LintReport.CommandLine.Session
import LintReport.Rendering.Summary

namespace LintReport

/-- An option of the command. -/
inductive RenderOption
  | format
  | maxMessages
  | cwd
  | config
  | noConfig
  | summary (on : Bool)
  | help
  deriving DecidableEq, Repr

namespace RenderOption

/-- The names of the options. -/
def switches : List (Switch RenderOption) := [
  ⟨"--format", .format, true⟩, ⟨"--max-messages", .maxMessages, true⟩, ⟨"--cwd", .cwd, true⟩,
  ⟨"--config", .config, true⟩, ⟨"--no-config", .noConfig, false⟩,
  ⟨"--summary", .summary true, false⟩, ⟨"--no-summary", .summary false, false⟩,
  ⟨"-h", .help, false⟩, ⟨"--help", .help, false⟩]

/-- The help of the command. -/
def page : Page where
  arguments := "[OPTIONS] REPORT"
  summary := "Render the messages of a JSON lint REPORT (use '-' for STDIN)."
  options := [
    ("--format OUTPUTFORMAT", "Output layout (codeframe, stylish). Default: codeframe."),
    ("--max-messages INTEGER RANGE", "Maximum number of messages to show. Default: 100.  [x>=1]"),
    ("--cwd DIRECTORY", "Show file paths relative to this directory (default: current directory)."),
    ("--config FILE", "Read settings from this TOML file instead of discovering one."),
    ("--no-config", "Ignore lintframe.toml and [tool.lintframe] in pyproject.toml."),
    ("--summary / --no-summary", "Print the totals summary after the messages."),
    ("-h, --help", "Show this message and exit.")]
  commands := []

end RenderOption

/-! ### Arguments -/

/-- What the options of the command say. -/
structure RenderArguments where
  layout : Option Layout
  maxMessages : Value
  cwd : Option String
  config : Option Path
  noConfig : Bool
  summary : Bool
  deriving Repr

/-- Why the value of an option cannot be used. -/
inductive BadArgument
  | refused (option : String) (reason : BadValue)
  | nullCharacter
  deriving DecidableEq, Repr

namespace RenderArguments

/-- What is said if no option is given. -/
def none : RenderArguments := ⟨.none, .null, .none, .none, false, true⟩

/-- A cap: a numeral that is at least one. -/
def readMaxMessages (word : String) : Except BadValue Int :=
  match Text.Numeral.read word with
  | .error _ => .error (.noInteger word)
  | .ok n => if n < 1 then .error (.tooSmall n 1) else .ok n

/-- A path that must not lead to a file. -/
def checkDirectory (tree : FileTree) (path : String) : Except BadArgument Unit :=
  if FileTree.hasNull path then .error .nullCharacter
  else
    match tree.entry path with
    | .ok .directory => .ok ()
    | .ok _ => .error (.refused "--cwd" (.isFile "Directory" path))
    | .error _ => .ok ()

/-- A path that must lead to a file that can be read. -/
def checkFile (tree : FileTree) (path : String) : Except BadArgument Unit :=
  if FileTree.hasNull path then .error .nullCharacter
  else
    match tree.entry path with
    | .ok (.file _) => .ok ()
    | .ok .locked => .error (.refused "--config" (.unreadable "File" path))
    | .ok .directory => .error (.refused "--config" (.isDirectory "File" path))
    | .error _ => .error (.refused "--config" (.missing "File" path))

/-- The arguments with an option and its value. -/
def set (tree : FileTree) (a : RenderArguments) (key : RenderOption) (value : String) :
    Except BadArgument RenderArguments :=
  match key with
  | .format =>
    match Layout.choice.read value with
    | .ok l => .ok { a with layout := some l }
    | .error e => .error (.refused "--format" e)
  | .maxMessages =>
    match readMaxMessages value with
    | .ok n => .ok { a with maxMessages := .int n }
    | .error e => .error (.refused "--max-messages" e)
  | .cwd => do
    checkDirectory tree value
    return { a with cwd := some value }
  | .config => do
    checkFile tree value
    return { a with config := some (Path.ofString value) }
  | .noConfig => .ok { a with noConfig := true }
  | .summary on => .ok { a with summary := on }
  | .help => .ok a

/-- What options say; each is looked at where it comes first, with the value it has last. -/
def ofParsed (tree : FileTree) (p : Parsed RenderOption) : Except BadArgument RenderArguments :=
  p.given.foldlM (fun a g => a.set tree g.key ((p.value? g.key).getD g.value)) none

end RenderArguments

namespace Session

/-- The command, called below the program. -/
def renderCommand (w : World) : Command := ⟨w.program ++ " render", RenderOption.page⟩

/-- A misuse of the command. -/
def misuse (s : Session) (w : World) (e : UsageError) : Stop :=
  .misuse (renderCommand w) e (some s.color)

/-- What the command line says after the command: the options, and the report. -/
def readArguments (s : Session) (w : World) (args : List String) :
    Except Stop (RenderArguments × String) :=
  match Switch.parse RenderOption.switches true args with
  | .error e => .error (s.misuse w e)
  | .ok p =>
    if p.has .help then .error (.help (renderCommand w))
    else
      match RenderArguments.ofParsed w.tree p with
      | .error .nullCharacter => .error (.crashed .nullCharacter)
      | .error (.refused option e) => .error (s.misuse w (.badValue option e))
      | .ok a =>
        match p.rest with
        | [] => .error (s.misuse w (.missingArgument "REPORT"))
        | [report] => .ok (a, report)
        | _ :: others => .error (s.misuse w (.extraArguments others))

/-! ### The report -/

/-- A refusal after color was decided on. -/
def refuse (s : Session) (r : Refusal) : Stop := .refused r (some s.color)

/-- Why a report gives no messages, as an end of the run. -/
def stopOfReport (s : Session) (report : String) (e : Report.Error) : Stop :=
  if e.isFormat then s.refuse (.malformed report e) else .crashed (.report e)

/-- Why a report cannot be read, as an end of the run. -/
def stopOfRead (s : Session) (report : String) : ReadError → Stop
  | .undecodable e => s.refuse (.undecodable report e)
  | .nullCharacter => .crashed .nullCharacter
  | e => s.refuse (.unreadable report e)

/-- Why a report file gives no messages, as an end of the run. -/
def stopOfLoad (s : Session) (report : String) : Report.LoadError → Stop
  | .unreadable e => s.stopOfRead report e
  | .refused e => s.stopOfReport report e

/-- The messages of the input. -/
def readInput (s : Session) (w : World) : Attempt Stop (List Message) := do
  let text ← (Attempt.ofExcept (FileTree.textOfBytes w.input)).adapt (s.stopOfRead "-")
  (Report.ofText w.limits (Path.ofString w.tree.here) text).adapt (s.stopOfReport "-")

/-- The messages of a report, which a dash alone says is the input. -/
def readReport (s : Session) (w : World) (report : String) : Attempt Stop (List Message) :=
  if report = "-" then s.readInput w
  else
    let path := (Path.ofString report).toString
    match w.tree.isFile path with
    | .error e => throw (s.refuse (.unreadable report (.refused e path)))
    | .ok false => throw (s.refuse (.noReport report))
    | .ok true => (Report.load w.limits w.tree report).adapt (s.stopOfLoad report)

/-! ### The run -/

/-- The directory that paths are shown relative to. -/
def directory (w : World) (a : RenderArguments) : String :=
  match a.cwd with
  | some cwd => if cwd = "" then w.tree.here else Path.normal (Path.absolute w.tree.here cwd)
  | none => w.tree.here

/-- The settings of a run, those of the command line over all others. -/
def settings (s : Session) (w : World) (a : RenderArguments) : Attempt Stop Settings := do
  let base ← (Settings.load w.limits w.tree (Path.ofString (directory w a)) a.config a.noConfig
    w.env.vars).adapt fun
      | .refused e => s.refuse (.settings e)
      | .fault e => .crashed (.settings e)
  (Attempt.ofExcept (base.override ⟨a.maxMessages, a.layout, s.colorMode⟩)).adapt fun e =>
    s.refuse (.settings e)

/-- Says which file the settings come from. -/
def announce (s : Session) (console : Console) (settings : Settings) : Logged Unit :=
  match settings.file with
  | some path =>
    if s.verbosity ≤ Level.info then
      console.print true s!"Using configuration from {path.toString}"
    else pure ()
  | none => pure ()

/-- The note on a report that was rendered. -/
def noteRendered (report : String) (t : Tally) : Logged Unit :=
  .note .debug (s!"Rendered report {report}: {t.errors} error(s), {t.warnings} warning(s), "
    ++ s!"{t.ignored} ignored")

/-- What a report makes the command end with. -/
def exitOf (t : Tally) : Exit := if 0 < t.errors then .failure else .success

/-- Renders a report with settings that are in force. -/
def renderWith (s : Session) (w : World) (a : RenderArguments) (report : String)
    (settings : Settings) : Attempt Stop Exit := do
  let color ← Attempt.ofLogged (ColorMode.resolve w.env (some settings.colorMode))
  let console := Console.styling color
  Attempt.ofLogged (s.announce console settings)
  let messages ← s.readReport w report
  let options := settings.renderOptions (directory w a) color
  let docs := SourceCache.documents w.tree [] w.limits
  let rendered := renderMessages docs w.env w.tree.here options (some ⟨color⟩) messages
  let chunks ← rendered.adapt (Stop.crashed ∘ Crash.rendering)
  Attempt.ofLogged (console.writeChunks chunks)
  let tally := Tally.ofMessages messages
  if a.summary && s.verbosity ≤ Level.warning then
    Attempt.ofLogged ((summaryLines ⟨color⟩ tally).forM (console.diagnose true))
  Attempt.ofLogged (noteRendered report tally)
  return exitOf tally

/-- Runs the command with its arguments. -/
def render (s : Session) (w : World) (args : List String) : Attempt Stop Exit := do
  let (a, report) ← Attempt.ofExcept (s.readArguments w args)
  s.renderWith w a report (← s.settings w a)

end Session

end LintReport
