/-
Consoles: where a program writes what its user reads.

* `Console` — a console that writes texts as they are, or one that colors warnings and errors
  and takes control sequences out of every text unless color is enabled;
* `Console.print`, `Console.diagnose`, `Console.warn`, `Console.fail` — output, diagnostics,
  warnings and errors; all but the first go to the channel of diagnostics;
* `Console.styled` — a text in a style, as the console shows it.
-/
import LintReport.Journal
import LintReport.Terminal.Style

namespace LintReport

open Terminal (Style)

/-- A console. The plain one carries its color flag without looking at it. -/
inductive Console
  | plain (color : Bool)
  | styling (color : Bool)
  deriving DecidableEq, Repr, Inhabited

namespace Console

/-- Whether color is enabled. -/
def color : Console → Bool
  | plain c => c
  | styling c => c

/-- A text with a line break after it if that is asked for. -/
def terminated (newline : Bool) (text : String) : String := if newline then text ++ "\n" else text

/-- A text as it is written. -/
def shown (c : Console) (text : String) : String :=
  match c with
  | plain _ => text
  | styling true => text
  | styling false => Terminal.stripEscapes text

/-- The style of warnings. -/
def warningStyle : Style := .lettersIn (.plain .yellow)

/-- The style of errors. -/
def errorStyle : Style := .lettersIn (.bright .red)

/-- A text of its own style, as it is written. -/
def shownIn (c : Console) (s : Style) (newline : Bool) (text : String) : String :=
  match c with
  | plain _ => terminated newline text
  | styling _ => c.shown (terminated newline (s.apply text))

/-- Writes a text to the output. -/
def print (c : Console) (newline : Bool) (text : String) : Logged Unit :=
  .write .output (c.shown (terminated newline text))

/-- Writes a text to the diagnostics. -/
def diagnose (c : Console) (newline : Bool) (text : String) : Logged Unit :=
  .write .diagnostics (c.shown (terminated newline text))

/-- Writes a warning. -/
def warn (c : Console) (newline : Bool) (text : String) : Logged Unit :=
  .write .diagnostics (c.shownIn warningStyle newline text)

/-- Writes an error. -/
def fail (c : Console) (newline : Bool) (text : String) : Logged Unit :=
  .write .diagnostics (c.shownIn errorStyle newline text)

/-- Whether the console puts texts into styles. -/
def styles : Console → Bool
  | plain _ => false
  | styling c => c

/-- A text in a style, if the console shows any. -/
def styled (c : Console) (s : Style) (text : String) : String :=
  if c.styles then s.apply text else text

end Console

end LintReport
