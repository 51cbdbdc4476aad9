/-
Selection of the messages that are shown.

* `Selection.ofMessages` — the messages that are not ignored, errors first and otherwise in
  their order, up to a cap; with the counts of all and of the ignored messages;
* `Selection.isTruncated`, `Selection.hidden` — whether the cap leaves messages out, and the
  number that is told in that case.
-/
import LintReport.Diagnostic.Message

namespace LintReport

/-- The messages that are shown, and the counts of all and of the ignored ones. -/
structure Selection where
  visible : List Message
  total : Int
  ignored : Int
  deriving DecidableEq, Repr, Inhabited

/-- The first `cap` elements; a negative cap leaves out as many at the end. -/
def takeUpTo {α : Type} (cap : Int) (xs : List α) : List α :=
  if 0 ≤ cap then xs.take cap.toNat else xs.take (xs.length - cap.natAbs)

namespace Selection

/-- The messages that are not ignored, by severity. -/
def ranked (ms : List Message) : List Message :=
  (ms.filter fun m => !m.ignored).mergeSort fun a b => a.severity.rank ≤ b.severity.rank

/-- The selection of messages under a cap. -/
def ofMessages (ms : List Message) (cap : Int) : Selection :=
  let remaining := ranked ms
  ⟨takeUpTo cap remaining, ms.length, ms.length - remaining.length⟩

/-- How many messages are not ignored. -/
def shownBeforeCap (s : Selection) : Int := s.total - s.ignored

/-- Whether a cap leaves out messages that are not ignored. -/
def isTruncated (s : Selection) (cap : Int) : Bool := cap < s.shownBeforeCap

/-- The number of messages beyond a cap, ignored ones included. -/
def hidden (s : Selection) (cap : Int) : Int := s.total - cap

/-- The note on a selection. -/
def note (s : Selection) : Logged Unit :=
  .note .debug s!"Selected {s.visible.length} of {s.total} message(s) ({s.ignored} ignored)"

end Selection

end LintReport
