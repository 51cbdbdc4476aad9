/-
Help texts.

* `Page` — what the help of a command says;
* `Page.usageLine`, `Page.text` — the usage of the command, and the whole help.

The help is two blanks in from the left; the rows of a list have their second column after the
longest first one, which is not counted beyond thirty characters.
-/
import LintReport.Text.Pad
import LintReport.Text.Wrap

namespace LintReport

/-- The help of a command: its arguments, what it does, its options, and its commands. -/
structure Page where
  arguments : String
  summary : String
  options : List (String × String)
  commands : List (String × String)
  deriving DecidableEq, Repr, Inhabited

namespace Page

/-- The greatest width of a first column. -/
def maxColumn : Nat := 30

/-- The column at which the second texts of rows begin. -/
def secondColumn (rows : List (String × String)) : Nat :=
  min ((rows.map fun row => row.1.length).foldl max 0) maxColumn + 2

/-- The lines of a row. -/
def rowLines (width column : Nat) (row : String × String) : List String :=
  match Text.wrap (max (width - column - 2) 10) row.2 with
  | [] => ["  " ++ row.1]
  | first :: others =>
    let indent := String.ofList (List.replicate (column + 2) ' ')
    ("  " ++ Text.padEnd column row.1 ++ first) :: others.map (indent ++ ·)

/-- The lines of a list under a heading, nothing for an empty list. -/
def listLines (width : Nat) (heading : String) (rows : List (String × String)) : List String :=
  if rows.isEmpty then []
  else "" :: heading :: rows.flatMap (rowLines width (secondColumn rows))

/-- How a command is used. -/
def usageLine (p : Page) (name : String) : String := s!"Usage: {name} {p.arguments}"

/-- The help of a command. -/
def text (p : Page) (width : Nat) (name : String) : String :=
  "\n".intercalate ([p.usageLine name, "", "  " ++ p.summary]
    ++ listLines width "Options:" p.options ++ listLines width "Commands:" p.commands)

end Page

end LintReport
