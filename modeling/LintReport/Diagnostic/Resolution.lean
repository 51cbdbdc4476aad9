/-
Resolution: from a pointer to the place in the document that it means.

* `Yaml.Document.child?`, `Yaml.Document.walk` — one step, and all steps, of a pointer through
  the nodes of a document;
* `Location.resolve?` — the span of a location, or why there is none;
* `Location.resolve` — the span of a location, the first position of its document if there is
  none.

A segment leads from a mapping to the value of its first entry whose key is that text, and
from a sequence to the item whose number it writes. Where a segment leads nowhere, the node
reached so far is the one that is meant.

Design notes: a `Fault` is a failure that no fallback is made for: a path with a null
character, a segment that looks like a number and is none, an escape in a document that names
no character, a position too far out to be written, a marker too wide for it.
-/
import LintReport.Diagnostic.Pointer
import LintReport.Files.Documents
import LintReport.Text.Digit
import LintReport.Yaml.Document

namespace LintReport

/-- A failure that no fallback is made for. -/
inductive Fault
  | nullCharacter
  | numeral (e : Text.Numeral.Error)
  | codePoint (code : Nat)
  | tooWide (width : Int)
  deriving DecidableEq, Repr

/-- The greatest number that a code point is compared with at all. -/
def Fault.maxCode : Nat := 0x7fffffff

/-- The greatest length that a text can be asked to have. -/
def Fault.maxLength : Int := 0x7fffffffffffffff

/-- The wording of a fault. -/
def Fault.message : Fault → String
  | .nullCharacter => ReadError.nullCharacter.message
  | .numeral e => e.message
  | .codePoint code =>
    if code ≤ Fault.maxCode then "chr() arg not in range(0x110000)"
    else "Python int too large to convert to C int"
  | .tooWide width =>
    if width ≤ Fault.maxLength then "" else "cannot fit 'int' into an index-sized integer"

namespace Yaml.Document

/-- A node by its number. -/
def node? (d : Document) (id : Nat) : Option Node := d.nodes[id]?

/-- Whether a node is the scalar with a text. -/
def hasText (d : Document) (text : String) (id : Nat) : Bool :=
  match d.node? id with
  | some ⟨.scalar t, _, _⟩ => t = some text
  | _ => false

/-- Where a segment leads from a node: the node below it, and its key if it has one. -/
def child? (d : Document) (id : Nat) (segment : String) :
    Except Text.Numeral.Error (Option (Nat × Option Nat)) :=
  match d.node? id with
  | some ⟨.mapping entries, _, _⟩ =>
    .ok ((entries.find? fun (key, _) => d.hasText segment key).map fun (key, value) =>
      (value, some key))
  | some ⟨.sequence items, _, _⟩ =>
    if segment.toList.all Text.isDigit && !segment.isEmpty then
      match Text.Numeral.read segment with
      | .ok n => .ok (items[n.toNat]?.map fun item => (item, none))
      | .error e => .error e
    else .ok none
  | _ => .ok none

/-- What a walk along segments comes to: the node reached, the key it was reached by, and the
segment that leads nowhere, if one does. -/
structure Reached where
  id : Nat
  key : Option Nat
  missing : Option String
  deriving DecidableEq, Repr

/-- Follows segments from a node, which was reached by a key. -/
def walk (d : Document) (id : Nat) (key : Option Nat) :
    List String → Except Text.Numeral.Error Reached
  | [] => .ok ⟨id, key, none⟩
  | segment :: rest =>
    match d.child? id segment with
    | .error e => .error e
    | .ok none => .ok ⟨id, none, some segment⟩
    | .ok (some (id, key)) => d.walk id key rest

end Yaml.Document

/-! ### Positions -/

/-- The position of an index of a text, where only line feeds end lines. -/
def Position.ofIndex (cs : List Char) (index : Nat) : Position :=
  let before := cs.take index
  ⟨before.count '\n' + 1, (before.reverse.takeWhile (· != '\n')).length + 1⟩

/-- The position of an index of a text as its document counts lines and columns. -/
def Position.ofMark (cs : List Char) (index : Nat) : Position :=
  let c := (Yaml.Cursor.start cs).advance index
  ⟨c.line + 1, c.column + 1⟩

/-- The first and the last position of a node. White space at the end of a node is left out:
a block collection stops only where the next line starts. -/
def Yaml.Node.span (cs : List Char) (n : Yaml.Node) : Position × Position :=
  let stop := max (Text.trimEndChars (cs.take n.stop)).length n.start
  (Position.ofMark cs n.start, Position.ofIndex cs stop)

/-! ### Locations -/

/-- Why a location has no span. -/
inductive Unresolved
  | unreadable (ref : String) (e : ReadError)
  | unparsable (ref : String)
  | tooDeep (ref : String)
  deriving DecidableEq, Repr

/-- The wording of a failure to resolve. -/
def Unresolved.message : Unresolved → String
  | .unreadable ref e => s!"Cannot read {ref}: {e.message}"
  | .unparsable ref => s!"Cannot parse {ref}"
  | .tooDeep ref => s!"Cannot parse {ref}: document is nested too deeply"

namespace Location

/-- The text of a source, whose absence is a failure to resolve. -/
def readSource (docs : Documents) (source : Source) :
    Attempt Fault (Except Unresolved String) := do
  match ← Attempt.ofLogged (source.text docs).run with
  | .ok text => return .ok text
  | .error .nullCharacter => throw .nullCharacter
  | .error e => return .error (.unreadable source.ref e)

/-- The document of a text. -/
def composeSource (deepest : Nat) (ref : String) (cs : List Char) :
    Attempt Fault (Except Unresolved (Option Yaml.Document)) :=
  match Yaml.compose deepest cs with
  | .ok d => pure (.ok d)
  | .error .malformed => pure (.error (.unparsable ref))
  | .error .tooDeep => pure (.error (.tooDeep ref))
  | .error (.codePoint n) => throw (.codePoint n)
  | .error (.numeral e) => throw (.numeral e)

/-- The node that a pointer means: the key of the last step if that is asked for and the
whole pointer could be followed, otherwise the last node reached. -/
def target (d : Yaml.Document) (ref pointer : String) (onKey : Bool) :
    Attempt Fault Yaml.Node := do
  match d.walk d.root none (Pointer.parse pointer) with
  | .error e => throw (.numeral e)
  | .ok reached =>
    if let some segment := reached.missing then
      Attempt.ofLogged (.note .debug
        s!"Pointer {pointer}: segment {Text.quote segment} not found in {ref}")
    let id := if onKey then reached.key.getD reached.id else reached.id
    return (d.node? id).getD default

/-- The span of a pointer into a document. -/
def resolvePointer (docs : Documents) (source : Source) (pointer : String) (onKey : Bool) :
    Attempt Fault (Except Unresolved Span) := do
  match ← readSource docs source with
  | .error e => return .error e
  | .ok text =>
    match ← composeSource docs.limits.document source.ref text.toList with
    | .error e => return .error e
    | .ok none => return .ok ⟨source, Position.origin, none, some pointer⟩
    | .ok (some d) =>
      let node ← target d source.ref pointer onKey
      let (start, stop) := node.span text.toList
      return .ok ⟨source, start, some stop, some pointer⟩

/-- The span of a location, or why there is none. -/
def resolve? (docs : Documents) : Location → Attempt Fault (Except Unresolved Span)
  | .span s => pure (.ok s)
  | .pointer source p onKey => resolvePointer docs source p onKey

/-- The span that stands in for a location without one. -/
def fallback (l : Location) : Span := ⟨l.source, Position.origin, none, l.pointer?⟩

/-- The span of a location, or the first position of its document, with a warning. -/
def resolve (docs : Documents) (l : Location) : Attempt Fault Span := do
  match ← l.resolve? docs with
  | .ok s => return s
  | .error e =>
    Attempt.ofLogged (.note .warning e.message)
    return l.fallback

end Location

end LintReport
