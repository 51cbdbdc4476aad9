/-
Where a diagnostic points to.

* `Position` — a line and a column, counted from one in well-formed reports;
* `Source` — a document, known by its path, perhaps with its text;
* `Span` — a stretch of a document between positions;
* `Span.position?` — the text of the position at which a span starts, if it can be written;
* `Location` — a span, or a pointer into the structure of a document.
-/
import LintReport.Text.Numeral

namespace LintReport

/-- A line and a column. A report may give any integers. -/
structure Position where
  line : Int
  column : Int
  deriving DecidableEq, Repr, Inhabited

/-- Whether both numbers of a position have few enough digits to be written. -/
def Position.isWritable (p : Position) : Bool :=
  Text.Numeral.isWritable p.line && Text.Numeral.isWritable p.column

/-- The text of a position that can be written, with a colon. -/
def Position.shown (p : Position) : String := s!"{p.line}:{p.column}"

/-- The first position of a document. -/
def Position.origin : Position := ⟨1, 1⟩

/-- A document: the absolute path that it is known under, and its text where a report
carries it. -/
structure Source where
  ref : String
  body : Option String
  deriving DecidableEq, Repr, Inhabited

/-- A stretch of a document, with the pointer it was found by. -/
structure Span where
  source : Source
  start : Position
  stop : Option Position
  pointer : Option String
  deriving DecidableEq, Repr, Inhabited

/-- The text of the position at which a span starts, which must be one that can be written. -/
def Span.position (s : Span) : String := s.start.shown

/-- The text of the position at which a span starts, if it can be written. -/
def Span.position? (s : Span) : Except Text.Numeral.Error String :=
  if s.start.isWritable then .ok s.position else .error .unwritable

/-- Where a diagnostic points to: a span, or a pointer whose value, or whose key if `onKey`,
is meant. -/
inductive Location
  | span (s : Span)
  | pointer (source : Source) (pointer : String) (onKey : Bool)
  deriving DecidableEq, Repr, Inhabited

/-- The document of a location. -/
def Location.source : Location → Source
  | .span s => s.source
  | .pointer source _ _ => source

/-- The pointer of a location, if it has one. -/
def Location.pointer? : Location → Option String
  | .span s => s.pointer
  | .pointer _ p _ => some p

end LintReport
