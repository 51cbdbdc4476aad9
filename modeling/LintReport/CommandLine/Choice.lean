/-
Values that are chosen by a word.

* `Choice` — the words of a type with the values that they stand for;
* `Choice.read` — the value of a word, whatever its case;
* `Choice.completions` — the words that a beginning may be completed to.
-/
import LintReport.CommandLine.Usage
import LintReport.Diagnostic.Severity
import LintReport.Rendering.Layout
import LintReport.Text.Casing

namespace LintReport

/-- The words of a type with their values, in the order in which they are listed. -/
structure Choice (α : Type) where
  /-- The name of the type, as it is shown. -/
  kind : String
  members : List (String × α)
  deriving Repr

namespace Choice

variable {α : Type}

/-- The words. -/
def words (c : Choice α) : List String := c.members.map (·.1)

/-- The value of a word. -/
def read (c : Choice α) (word : String) : Except BadValue α :=
  match c.members.find? fun (w, _) => Text.lower w == Text.lower word with
  | some (_, a) => .ok a
  | none => .error (.notAmong word c.words)

/-- The words that begin in a given way. -/
def completions (c : Choice α) (beginning : String) : List String :=
  c.words.filter fun w => (Text.lower beginning).toList.isPrefixOf (Text.lower w).toList

end Choice

/-- The color modes by word. -/
def ColorMode.choice : Choice ColorMode := ⟨"ColorMode", ColorMode.all.map fun m => (m.word, m)⟩

/-- The layouts by word. -/
def Layout.choice : Choice Layout := ⟨"OutputFormat", Layout.all.map fun l => (l.word, l)⟩

/-- The severities by word. -/
def Severity.choice : Choice Severity :=
  ⟨"Severity", [Severity.error, .warning].map fun s => (s.word, s)⟩

end LintReport
