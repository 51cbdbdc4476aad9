/-
Diagnostics and their counts.

* `Message` — one diagnostic with its locations;
* `Message.ofLocations?` — a message from a list of locations: the first is its primary one,
  the second its secondary one, any others are dropped;
* `Tally` — how many errors, warnings and ignored messages there are.
-/
import LintReport.Diagnostic.Location
import LintReport.Diagnostic.Severity
import LintReport.Journal
import LintReport.Text.Quoted

namespace LintReport

/-- One diagnostic. -/
structure Message where
  severity : Severity
  text : String
  rule : String
  primary : Location
  secondary : Option Location
  suggestions : List String
  ignored : Bool
  /-- The place from which the document of the message is referred to. -/
  origin : Option Location
  deriving DecidableEq, Repr, Inhabited

namespace Message

/-- The path of the document that a message is about. -/
def file (m : Message) : String := m.primary.source.ref

/-- The locations that a message keeps. -/
def locations (m : Message) : List Location := m.primary :: m.secondary.toList

/-- The note on locations that a message does not keep. -/
def noteDropped (rule : String) (count : Nat) : Logged Unit :=
  if 2 < count then
    .note .trace s!"Dropping {count - 2} extra location(s) of {Text.quote rule} message"
  else pure ()

/-- A message with the given locations; none without a location. -/
def ofLocations? (severity : Severity) (text rule : String) (locations : List Location)
    (suggestions : List String) (ignored : Bool) (origin : Option Location) :
    Logged (Option Message) := do
  match locations with
  | [] => pure none
  | primary :: others =>
    noteDropped rule locations.length
    pure (some ⟨severity, text, rule, primary, others.head?, suggestions, ignored, origin⟩)

/-- The wording of the refusal of a message without a location. -/
def noLocation (rule : String) : String := s!"Message from rule {Text.quote rule} has no location"

end Message

/-- How many messages of each kind there are; an ignored message counts as ignored only. -/
structure Tally where
  errors : Int
  warnings : Int
  ignored : Int
  deriving DecidableEq, Repr, Inhabited

namespace Tally

/-- The number of all messages. -/
def total (t : Tally) : Int := t.errors + t.warnings + t.ignored

/-- The counts with one more message. -/
def add (t : Tally) (m : Message) : Tally :=
  if m.ignored then { t with ignored := t.ignored + 1 }
  else match m.severity with
    | .error => { t with errors := t.errors + 1 }
    | .warning => { t with warnings := t.warnings + 1 }

/-- The counts of a list of messages. -/
def ofMessages (ms : List Message) : Tally := ms.foldl add ⟨0, 0, 0⟩

end Tally

end LintReport
