/-
Messages by file, with the widths of their columns.

* `Resolved` — a message with the spans of its locations;
* `FileGroup` — the messages of one file, in order, with the width of their longest rule name
  and of their longest position;
* `FileGroup.add` — a group with one more message, whose positions must be such as can be written;
* `groupByFile` — the groups of a list of messages, in the order in which the files come first.

Design notes: how a location is resolved is a parameter, and what it fails with is one too; so a
position that cannot be written has to be made a failure of that kind.
-/
import LintReport.Diagnostic.Message

namespace LintReport

/-- A message with the spans of its locations. -/
structure Resolved where
  message : Message
  primary : Span
  secondary : Option Span
  deriving DecidableEq, Repr, Inhabited

/-- The spans of a message. -/
def Resolved.spans (r : Resolved) : List Span := r.primary :: r.secondary.toList

/-- Whether the positions of all spans of a message can be written. -/
def Resolved.isWritable (r : Resolved) : Bool := r.spans.all fun s => s.start.isWritable

/-- The messages of one file, and the widths of their columns. -/
structure FileGroup where
  path : String
  messages : List Resolved
  ruleWidth : Nat
  positionWidth : Nat
  deriving DecidableEq, Repr, Inhabited

namespace FileGroup

/-- The group of a file without messages. -/
def empty (path : String) : FileGroup := ⟨path, [], 0, 0⟩

/-- The group with one more message, its columns as wide as needed. -/
def extend (g : FileGroup) (r : Resolved) : FileGroup :=
  { g with
    messages := g.messages ++ [r]
    ruleWidth := max g.ruleWidth r.message.rule.length
    positionWidth := (r.spans.map fun s => s.position.length).foldl max g.positionWidth }

/-- Adds a message to a group, if its positions can be written: the width of their column is the
length of the longest of their texts. -/
def add (g : FileGroup) (r : Resolved) : Except Text.Numeral.Error FileGroup :=
  if r.isWritable then .ok (g.extend r) else .error .unwritable

end FileGroup

/-- The message with the spans of its locations. -/
def Message.resolve {ε : Type} (resolve : Location → Attempt ε Span) (msg : Message) :
    Attempt ε Resolved := do
  let primary ← resolve msg.primary
  let secondary ← msg.secondary.mapM resolve
  return ⟨msg, primary, secondary⟩

/-- The groups with one more message, which goes into the group of its file. -/
def addToGroups (r : Resolved) : List FileGroup → Except Text.Numeral.Error (List FileGroup)
  | [] => do return [← (FileGroup.empty r.message.file).add r]
  | g :: rest =>
    if g.path = r.message.file then do return (← g.add r) :: rest
    else do return g :: (← addToGroups r rest)

/-- The messages by file, in the order in which the files come first; `refuse` is the failure over
a position that cannot be written. -/
def groupByFile {ε : Type} (refuse : Text.Numeral.Error → ε) (resolve : Location → Attempt ε Span)
    (msgs : List Message) : Attempt ε (List FileGroup) :=
  msgs.foldlM (fun groups msg => do
    let r ← msg.resolve resolve
    (Attempt.ofExcept (addToGroups r groups)).adapt refuse) []

end LintReport
