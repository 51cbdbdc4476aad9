/-
Faults in the use of the command line, and the statuses that a run ends with.

* `UsageError` — an argument that the command line does not allow, with its wording;
* `Exit` — the meaning of an exit status.
-/
import LintReport.Text.Quoted
import LintReport.Text.Similarity

namespace LintReport

/-- What a run ends with. -/
inductive Exit
  | success
  | failure
  | usage
  | data
  | noInput
  | io
  | config
  deriving DecidableEq, Repr, Inhabited

namespace Exit

/-- The exit status. -/
def code : Exit → Nat
  | success => 0
  | failure => 1
  | usage => 64
  | data => 65
  | noInput => 66
  | io => 74
  | config => 78

/-- The name of an exit status. -/
def name : Exit → String
  | success => "SUCCESS"
  | failure => "FAILURE"
  | usage => "USAGE_ERROR"
  | data => "DATA_ERROR"
  | noInput => "FILE_NOT_FOUND"
  | io => "IO_ERROR"
  | config => "CONFIG_ERROR"

end Exit

/-- Why the value of an option is refused. -/
inductive BadValue
  | notAmong (value : String) (choices : List String)
  | noInteger (value : String)
  | tooSmall (n least : Int)
  | missing (kind path : String)
  | isFile (kind path : String)
  | isDirectory (kind path : String)
  | unreadable (kind path : String)
  deriving DecidableEq, Repr

/-- The wording of a refusal. -/
def BadValue.message : BadValue → String
  | notAmong value choices =>
    let choices := ", ".intercalate choices
    s!"Invalid value '{value}'. Must be one of: {choices}"
  | noInteger value => s!"{Text.quote value} is not a valid integer range."
  | tooSmall n least => s!"{n} is not in the range x>={least}."
  | missing kind path => s!"{kind} {Text.quote path} does not exist."
  | isFile kind path => s!"{kind} {Text.quote path} is a file."
  | isDirectory kind path => s!"{kind} {Text.quote path} is a directory."
  | unreadable kind path => s!"{kind} {Text.quote path} is not readable."

/-- An argument that the command line does not allow. -/
inductive UsageError
  | noSuchOption (name : String) (similar : List String)
  | needsValue (option : String)
  | takesNoValue (option : String)
  | badValue (option : String) (reason : BadValue)
  | missingArgument (name : String)
  | extraArguments (args : List String)
  | noSuchCommand (name : String) (similar : List String)
  deriving DecidableEq, Repr

namespace UsageError

/-- The status of every misuse that the option parser finds. -/
def status : Nat := 2

/-- A question after the wording that names what may have been meant. -/
def suggestion : List String → String
  | [] => ""
  | [name] => s!" Did you mean {Text.quote name}?"
  | names =>
    let choices := ", ".intercalate (names.mergeSort.map Text.quote)
    s!" (Did you mean one of: {choices}?)"

/-- The wording of a misuse. -/
def message : UsageError → String
  | noSuchOption name similar => s!"No such option {Text.quote name}." ++ suggestion similar
  | needsValue option => s!"Option {Text.quote option} requires an argument."
  | takesNoValue option => s!"Option {Text.quote option} does not take a value."
  | badValue option reason => s!"Invalid value for '{option}': {reason.message}"
  | missingArgument name => s!"Missing argument '{name}'."
  | extraArguments args =>
    let noun := if args.length = 1 then "argument" else "arguments"
    let shown := " ".intercalate args
    s!"Got unexpected extra {noun} ({shown})"
  | noSuchCommand name similar => s!"No such command {Text.quote name}." ++ suggestion similar

/-- Whether a misuse is told without the usage of the command. -/
def isBare : UsageError → Bool
  | needsValue _ => true
  | takesNoValue _ => true
  | _ => false

end UsageError

end LintReport
