/-
Reports: the messages that a JSON document holds.

* `Report.message` — the message of one item of a report, or why it is none;
* `Report.ofValue` — the messages of a report that is decoded already;
* `Report.ofText`, `Report.load` — the messages of a text, of a file;
* `Report.write` — the items of messages in the same format.

A report is a list of items, or a table that holds the list as `messages` or, if it has no
such key, as `problems`. An item has a `severity`, a `message`, a `ruleId` and the list of its
locations under `location`; it may have `suggest`, `ignored` and `from`. A location has a
`source`; with a `start` it is a span, and otherwise it needs a `pointer`.

Design notes: the fields of an item are looked at in a fixed order and the first fault is
told. Texts are made from any value that can be printed, integers from whatever stands for one. An
infinite number stands for none, and a value that is nested deeper than a limit is not printed;
both are told as faults of the whole report, not of their item.
-/
import LintReport.Diagnostic.Message
import LintReport.Files.Tree
import LintReport.Json.Read
import LintReport.Limits

namespace LintReport.Report

/-- Why an item of a report is no message. -/
inductive Fault
  | missing (key : String)
  | messageKind
  | noLocation
  | suggestKind
  | severity (token : String)
  | ignoredKind (v : Value)
  | locationKind
  | sourceKind
  | positionKind
  | noPointer
  | integer (e : Value.IntError)
  /-- A text is to be made from a value that cannot be printed. -/
  | unprintable (e : Value.PrintError)
  | nullCharacter
  deriving Repr

/-- The wording of a fault. -/
def Fault.message : Fault → String
  | .missing key => Text.quote key
  | .messageKind => "message must be an object"
  | .noLocation => "'location' must be a non-empty list"
  | .suggestKind => "'suggest' must be a list"
  | .severity token => s!"{Text.quote token} is not a valid Severity"
  | .ignoredKind v => s!"'ignored' must be a boolean, got {v.inspect}"
  | .locationKind => "location must be an object"
  | .sourceKind => "'source' must be an object"
  | .positionKind => "position must be an object with 'line' and 'col'"
  | .noPointer => "structural location requires a 'pointer'"
  | .integer e => e.message
  | .unprintable e => e.message
  | .nullCharacter => "embedded null byte"

/-! ### Items -/

/-- The value of a key that must be there. -/
def required (fields : Fields) (key : String) : Except Fault Value :=
  match fields.lookup key with
  | some v => .ok v
  | none => .error (.missing key)

/-- The integer of a key that must be there. -/
def integer (fields : Fields) (key : String) : Except Fault Int := do
  match (← required fields key).toInt with
  | .ok n => .ok n
  | .error e => .error (.integer e)

/-- The text of a value that can be printed. -/
def printed (deepest : Nat) (v : Value) : Except Fault String :=
  (v.shown? deepest).mapError .unprintable

/-- The path that a source is known under: a relative one starts from the base directory. -/
def absoluteRef (base : Path) (ref : String) : Except Fault String :=
  if Path.isAbsolute ref then .ok ref
  else if FileTree.hasNull ref then .error .nullCharacter
  else .ok (base.below ref).resolved

/-- The source of a location. -/
def source (deepest : Nat) (base : Path) : Value → Except Fault Source
  | .table fields => do
    let ref ← absoluteRef base (← printed deepest (← required fields "absoluteRef"))
    match fields.lookup "body" with
    | some (.text body) => .ok ⟨ref, some body⟩
    | _ => .ok ⟨ref, none⟩
  | _ => .error .sourceKind

/-- A position. -/
def position : Value → Except Fault Position
  | .table fields => do
    let line ← integer fields "line"
    let column ← integer fields "col"
    .ok ⟨line, column⟩
  | _ => .error .positionKind

/-- The value of a key if it is given. -/
def given? (fields : Fields) (key : String) : Option Value :=
  (fields.lookup key).filter Value.isTruthy

/-- A location. -/
def location (deepest : Nat) (base : Path) : Value → Except Fault Location
  | .table fields => do
    let src ← source deepest base (← required fields "source")
    match fields.lookup "start" with
    | some start =>
      let start ← position start
      let stop ← (given? fields "end").mapM position
      let pointer ← (given? fields "pointer").mapM (printed deepest)
      .ok (.span ⟨src, start, stop, pointer⟩)
    | none =>
      match given? fields "pointer" with
      | some p => do
        let pointer ← printed deepest p
        .ok (.pointer src pointer (given? fields "reportOnKey").isSome)
      | none => .error .noPointer
  | _ => .error .locationKind

/-- The fault of a value that does not say whether an item is ignored; it tells the value, if that
can be printed. -/
def Fault.ofIgnored (deepest : Nat) (v : Value) : Fault :=
  match v.check deepest with
  | .ok () => .ignoredKind v
  | .error e => .unprintable e

/-- Whether an item is ignored. -/
def ignored (deepest : Nat) (fields : Fields) : Except Fault Bool :=
  match fields.lookup "ignored" with
  | none => .ok false
  | some (.bool b) => .ok b
  | some v => .error (.ofIgnored deepest v)

/-- The severity of an item. -/
def severity (deepest : Nat) (fields : Fields) : Except Fault Severity := do
  let raw ← printed deepest (← required fields "severity")
  match Severity.parse? raw with
  | some s => .ok s
  | none => .error (.severity (Severity.token raw))

/-- The message of one item of a report. -/
def message (deepest : Nat) (base : Path) : Value → Except Fault (Logged Message)
  | .table fields => do
    let .list (first :: others) := (fields.lookup "location").getD .null | .error .noLocation
    let .list suggestions := (given? fields "suggest").getD (.list []) | .error .suggestKind
    let severity ← severity deepest fields
    let text ← printed deepest (← required fields "message")
    let rule ← printed deepest (← required fields "ruleId")
    let primary ← location deepest base first
    let others ← others.mapM (location deepest base)
    let suggestions ← suggestions.mapM (printed deepest)
    let ignored ← ignored deepest fields
    let origin ← (given? fields "from").mapM (location deepest base)
    .ok do
      Message.noteDropped rule (others.length + 1)
      pure ⟨severity, text, rule, primary, others.head?, suggestions, ignored, origin⟩
  | _ => .error .messageKind

/-! ### Whole reports -/

/-- Why a report is refused. -/
inductive Error
  | notJson (text : String) (reason : Json.Reason) (position : Nat)
  | noList
  | item (index : Nat) (fault : Fault)
  /-- A number is infinite where an integer is needed. -/
  | infinite
  /-- An integer has too many digits. -/
  | tooLong (digits : Nat)
  /-- The text is nested too deeply to be read. -/
  | tooDeep
  /-- A value is nested too deeply to be printed. -/
  | deepValue
  /-- Half of a surrogate pair stands alone, so that no texts of characters say what the report
  holds. -/
  | unpaired
  deriving Repr

/-- The wording of a refusal. -/
def Error.message : Error → String
  | .notJson text reason position =>
    s!"Report is not valid JSON: {Json.describe text reason position}"
  | .noList => "Report must be a list of messages or an object with 'messages'"
  | .item index fault => s!"Invalid message at index {index}: {fault.message}"
  | .infinite => Value.IntError.infinite.message
  | .tooLong digits => (Text.Numeral.Error.tooLong digits).message
  | .tooDeep => "maximum recursion depth exceeded while decoding a JSON document"
  | .deepValue => Value.PrintError.tooDeep.message
  | .unpaired => "surrogates not allowed"

/-- Whether a refusal is about the form of the report: those that are not are faults of the
numbers, of the nesting or of the characters, which the form allows. -/
def Error.isFormat : Error → Bool
  | .notJson .. | .noList | .item .. => true
  | .infinite | .tooLong _ | .tooDeep | .deepValue | .unpaired => false

/-- The list of items that a decoded report holds. -/
def items? : Value → Option (List Value)
  | .list items => some items
  | .table fields =>
    match (fields.lookup "messages").or (fields.lookup "problems") with
    | some (.list items) => some items
    | _ => none
  | _ => none

/-- The refusal over a fault of an item. -/
def Error.ofFault (index : Nat) : Fault → Error
  | .integer .infinite => .infinite
  | .unprintable .tooDeep => .deepValue
  | fault => .item index fault

/-- The messages of items, the first of which has the given index. -/
def messagesFrom (deepest : Nat) (base : Path) (index : Nat) :
    List Value → Attempt Error (List Message)
  | [] => pure []
  | item :: rest =>
    match message deepest base item with
    | .error fault => throw (.ofFault index fault)
    | .ok m => do
      let m ← Attempt.ofLogged m
      return m :: (← messagesFrom deepest base (index + 1) rest)

/-- The messages of a decoded report whose relative paths start from `base`; values that are nested
deeper than a limit are not printed. -/
def ofValue (deepest : Nat) (base : Path) (v : Value) : Attempt Error (List Message) := do
  match items? v with
  | none => throw .noList
  | some items =>
    let messages ← messagesFrom deepest base 0 items
    Attempt.ofLogged (.note .debug s!"Parsed {messages.length} message(s) from report")
    return messages

/-- The messages of a report given as a text. -/
def ofText (limits : Limits) (base : Path) (text : String) : Attempt Error (List Message) :=
  match Json.read limits.report text with
  | .ok v => ofValue limits.printed base v
  | .error (.malformed reason position) => throw (.notJson text reason position)
  | .error (.tooLong digits) => throw (.tooLong digits)
  | .error .tooDeep => throw .tooDeep
  | .error .unpaired => throw .unpaired

/-- Why no messages come from a file: it cannot be read, or it holds no report. -/
inductive LoadError
  | unreadable (e : ReadError)
  | refused (e : Error)
  deriving Repr

/-- The wording of a failure. -/
def LoadError.message : LoadError → String
  | .unreadable e => e.message
  | .refused e => e.message

/-- The directory that the relative paths of a report file start from. -/
def baseOf (tree : FileTree) (path : String) : Path :=
  (Path.ofString (Path.ofString (Path.absolute tree.here path)).resolved).parent

/-- The messages of a report file. -/
def load (limits : Limits) (tree : FileTree) (path : String) :
    Attempt LoadError (List Message) := do
  let text ← (Attempt.ofExcept (tree.readText path)).adapt LoadError.unreadable
  (ofText limits (baseOf tree path) text).adapt LoadError.refused

/-! ### Writing -/

/-- The written form of a source. -/
def writeSource (s : Source) : Value :=
  .table (("absoluteRef", .text s.ref) :: (s.body.map fun body => ("body", .text body)).toList)

/-- The written form of a position. -/
def writePosition (p : Position) : Value :=
  .table [("line", .int p.line), ("col", .int p.column)]

/-- The written form of a location. -/
def writeLocation : Location → Value
  | .span s =>
    .table ([("source", writeSource s.source), ("start", writePosition s.start)]
      ++ (s.stop.map fun p => ("end", writePosition p)).toList
      ++ (s.pointer.map fun p => ("pointer", .text p)).toList)
  | .pointer source p onKey =>
    .table [("source", writeSource source), ("pointer", .text p), ("reportOnKey", .bool onKey)]

/-- The item of a message. -/
def write (m : Message) : Value :=
  .table ([("severity", .text m.severity.word), ("message", .text m.text), ("ruleId", .text m.rule),
      ("suggest", .list (m.suggestions.map .text)), ("ignored", .bool m.ignored),
      ("location", .list (m.locations.map writeLocation))]
    ++ (m.origin.map fun l => ("from", writeLocation l)).toList)

end LintReport.Report
