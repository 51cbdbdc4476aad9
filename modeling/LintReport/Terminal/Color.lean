/-
Whether output is colored.

* `ColorMode` — what the user asks for;
* `Environment` — the variables of the process, and whether its error stream is a terminal;
* `ColorMode.resolve` — the decision: the user's word first, then the variables, then the
  terminal.
-/
import LintReport.Journal

namespace LintReport

/-- What the user asks for. -/
inductive ColorMode
  | auto
  | always
  | never
  deriving DecidableEq, Repr, Inhabited

/-- The word of a color mode. -/
def ColorMode.word : ColorMode → String
  | .auto => "auto"
  | .always => "always"
  | .never => "never"

/-- The color modes, in the order in which they are listed. -/
def ColorMode.all : List ColorMode := [.auto, .always, .never]

/-- The color mode of a word. -/
def ColorMode.ofWord? (word : String) : Option ColorMode := ColorMode.all.find? (·.word = word)

/-- What a program finds around it: its variables, and whether its error stream is a terminal,
none if that cannot be told. -/
structure Environment where
  vars : List (String × String)
  terminal : Option Bool
  deriving Repr, Inhabited

/-- The value of a variable. -/
def Environment.get? (e : Environment) (name : String) : Option String := e.vars.lookup name

/-- The variable that turns color on, unless it is empty or zero. -/
def forceColorVariable : String := "FORCE_COLOR"

/-- The variable that turns color off, whatever its value. -/
def noColorVariable : String := "NO_COLOR"

/-- The note on a decision by the terminal. -/
def noteTerminal (isTerminal : Bool) : Logged Unit :=
  .note .trace ("Color auto-detection: isatty=" ++ if isTerminal then "True" else "False")

/-- Whether output is colored. A stream that cannot tell is taken for none of a terminal. -/
def ColorMode.resolve (env : Environment) (mode : Option ColorMode) : Logged Bool := do
  match mode with
  | some .always => return true
  | some .never => return false
  | _ =>
    let forced := (env.get? forceColorVariable).getD ""
    if forced != "" && forced != "0" then return true
    else if (env.get? noColorVariable).isSome then return false
    else
      let isTerminal := env.terminal.getD false
      noteTerminal isTerminal
      return isTerminal

end LintReport
