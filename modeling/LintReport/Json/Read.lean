/-
Reading of JSON texts.

* `Json.read` — the value of a text, or the first error.

Design notes: the reader is a machine over the tokens. It keeps the stack of open lists and
tables, innermost first, and what may come next; a key that comes twice keeps its place and
takes the later value. The height of the stack is bounded, since deeper texts are refused.

The texts of a value are texts of characters, and half of a surrogate pair alone is none. Such a
half is no fault of the form, so it is looked for only once the whole text has been read: until
then the machine takes a text with one for an empty text.
-/
import LintReport.Json.Token

namespace LintReport.Json

/-- Why a text is not read. -/
inductive Error
  | malformed (reason : Reason) (position : Nat)
  | tooLong (digits : Nat)
  | tooDeep
  /-- The text has a value, but half of a surrogate pair stands alone in it. -/
  | unpaired
  deriving DecidableEq, Repr

/-- An open list, its items last first, or an open table with the key that awaits its value. -/
inductive Frame
  | list (items : List Value)
  | table (fields : Fields) (key : String)

/-- What may come next. -/
inductive Expected
  | value
  | firstItem
  | key
  | firstKey
  | colon
  | separator
  | done (v : Value)

/-- The state of the reader. -/
structure State where
  stack : List Frame
  expected : Expected

/-- The state before the first token. -/
def State.start : State := ⟨[], .value⟩

/-- The state after a complete value. -/
def State.put (stack : List Frame) (v : Value) : State :=
  match stack with
  | [] => ⟨[], .done v⟩
  | .list items :: outer => ⟨.list (v :: items) :: outer, .separator⟩
  | .table fields key :: outer => ⟨.table (fields.set key v) key :: outer, .separator⟩

/-- The state after an opening bracket. -/
def State.enter (deepest : Nat) (stack : List Frame) (frame : Frame) (expected : Expected) :
    Except Error State :=
  if deepest ≤ stack.length then .error .tooDeep else .ok ⟨frame :: stack, expected⟩

/-- The state after a token where a value may stand. -/
def State.stepValue (deepest : Nat) (stack : List Frame) (lexeme : Lexeme) :
    Except Error State :=
  match lexeme.token with
  | .openList => State.enter deepest stack (.list []) .firstItem
  | .openTable => State.enter deepest stack (.table [] "") .firstKey
  | .text s => .ok (State.put stack (.text (s.getD "")))
  | .atom v => .ok (State.put stack v)
  | .faulty reason position => .error (.malformed reason position)
  | .tooLong digits => .error (.tooLong digits)
  | _ => .error (.malformed .expectedValue lexeme.position)

/-- The state after a token where a key may stand. -/
def State.stepKey (stack : List Frame) (lexeme : Lexeme) : Except Error State :=
  match lexeme.token, stack with
  | .text key, .table fields _ :: outer => .ok ⟨.table fields (key.getD "") :: outer, .colon⟩
  | .faulty reason position, _ => .error (.malformed reason position)
  | _, _ => .error (.malformed .expectedKey lexeme.position)

/-- The state after one more token. -/
def State.step (deepest : Nat) (s : State) (lexeme : Lexeme) : Except Error State :=
  match s.expected, lexeme.token, s.stack with
  | .firstItem, .closeList, .list _ :: outer => .ok (State.put outer (.list []))
  | .firstItem, _, stack => State.stepValue deepest stack lexeme
  | .value, _, stack => State.stepValue deepest stack lexeme
  | .firstKey, .closeTable, .table _ _ :: outer => .ok (State.put outer (.table []))
  | .firstKey, _, stack => State.stepKey stack lexeme
  | .key, _, stack => State.stepKey stack lexeme
  | .colon, .colon, stack => .ok ⟨stack, .value⟩
  | .colon, _, _ => .error (.malformed .expectedColon lexeme.position)
  | .separator, .comma, .list items :: outer => .ok ⟨.list items :: outer, .value⟩
  | .separator, .closeList, .list items :: outer => .ok (State.put outer (.list items.reverse))
  | .separator, .comma, .table fields key :: outer => .ok ⟨.table fields key :: outer, .key⟩
  | .separator, .closeTable, .table fields _ :: outer => .ok (State.put outer (.table fields))
  | .separator, _, _ => .error (.malformed .expectedComma lexeme.position)
  | .done v, .finish, _ => .ok ⟨[], .done v⟩
  | .done _, _, _ => .error (.malformed .extraData lexeme.position)

/-- Whether a token is a text with half of a surrogate pair alone. -/
def Lexeme.isUnpaired (l : Lexeme) : Bool :=
  match l.token with
  | .text none => true
  | _ => false

/-- The value of characters, whose nesting must not be deeper than a limit. -/
def readChars (deepest : Nat) (cs : List Char) : Except Error Value :=
  if cs.head? = some '\ufeff' then .error (.malformed .byteOrderMark 0)
  else
    match (lexemes cs).foldlM (State.step deepest) State.start with
    | .ok ⟨_, .done v⟩ => if (lexemes cs).any Lexeme.isUnpaired then .error .unpaired else .ok v
    | .ok _ => .error (.malformed .expectedValue cs.length)
    | .error e => .error e

/-- The value of a text, whose nesting must not be deeper than a limit. -/
def read (deepest : Nat) (s : String) : Except Error Value := readChars deepest s.toList

/-- The line and the column of a position, both counted from one. -/
def lineColumn (cs : List Char) (position : Nat) : Nat × Nat :=
  let before := cs.take position
  (before.count '\n' + 1, (before.reverse.takeWhile (· != '\n')).length + 1)

/-- The wording of a fault at a position: where it stands is told by line, column and index. -/
def describe (s : String) (reason : Reason) (position : Nat) : String :=
  let (line, column) := lineColumn s.toList position
  s!"{reason.message}: line {line} column {column} (char {position})"

end LintReport.Json
