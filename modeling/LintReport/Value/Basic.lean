/-
Untyped values: what a report or a settings file holds before its fields are read.

* `Value` — null, truth values, integers, double-precision numbers, texts, dates, lists and
  tables; a table keeps its keys in the order in which they first came;
* `Value.depth` — how deep lists and tables are nested in a value;
* `Value.inspect` and `Value.shown` — the text of a value, inside a message and on its own;
* `Value.check` — whether there is such a text: an integer may have too many digits for one, and
  lists and tables may be nested too deeply;
* `Value.shown?` — the text of a value, if there is one;
* `Value.toInt` — the integer that a value stands for.
-/
import LintReport.Text.Numeral
import LintReport.Value.Binary64
import LintReport.Value.Moment

namespace LintReport

/-- An untyped value. -/
inductive Value
  | null
  | bool (b : Bool)
  | int (n : Int)
  | real (x : Binary64)
  | text (s : String)
  | moment (m : Moment)
  | list (items : List Value)
  | table (fields : List (String × Value))
  deriving Repr, Inhabited

/-- A table: keys with their values, in order. -/
abbrev Fields := List (String × Value)

/-- Gives a key a value; a new key goes to the end. -/
def Fields.set (key : String) (value : Value) : Fields → Fields
  | [] => [(key, value)]
  | (k, v) :: rest => if k = key then (k, value) :: rest else (k, v) :: Fields.set key value rest

namespace Value

mutual

/-- How deep lists and tables are nested in a value. -/
def depth : Value → Nat
  | list items => depthItems items + 1
  | table fields => depthFields fields + 1
  | _ => 0

/-- The depth of the deepest item of a list. -/
def depthItems : List Value → Nat
  | [] => 0
  | v :: rest => max (depth v) (depthItems rest)

/-- The depth of the deepest field of a table. -/
def depthFields : List (String × Value) → Nat
  | [] => 0
  | (_, v) :: rest => max (depth v) (depthFields rest)

end

mutual

/-- The text of a value inside a message, where it has one: texts stand between quotes. -/
def inspect : Value → String
  | null => "None"
  | bool b => if b then "True" else "False"
  | int n => toString n
  | real x => x.shown
  | text s => Text.quote s
  | moment m => m.inspect
  | list items => "[" ++ ", ".intercalate (inspectItems items) ++ "]"
  | table fields => "\x7b" ++ ", ".intercalate (inspectFields fields) ++ "\x7d"

/-- The texts of the items of a list. -/
def inspectItems : List Value → List String
  | [] => []
  | v :: rest => inspect v :: inspectItems rest

/-- The texts of the fields of a table. -/
def inspectFields : List (String × Value) → List String
  | [] => []
  | (k, v) :: rest => (Text.quote k ++ ": " ++ inspect v) :: inspectFields rest

end

/-- The text of a value on its own, where it has one: a text is shown as it is, a date with time
has a blank between the two. -/
def shown : Value → String
  | text s => s
  | moment (.stamp d t offset) =>
    s!"{d.iso} {t.iso}" ++ (offset.map Offset.iso).getD ""
  | moment m => m.iso
  | v => v.inspect

/-! ### Values without a text -/

/-- Why a value has no text. -/
inductive PrintError
  /-- An integer in it has too many digits. -/
  | unwritable
  /-- Lists and tables are nested too deeply in it. -/
  | tooDeep
  deriving DecidableEq, Repr

/-- The wording of the failure to print a value. -/
def PrintError.message : PrintError → String
  | .unwritable => Text.Numeral.Error.unwritable.message
  | .tooDeep => "maximum recursion depth exceeded while getting the repr of an object"

mutual

/-- Looks a value over in the order in which it is printed: integers must have few enough digits,
and lists and tables must not be nested deeper than a limit. -/
def check : Nat → Value → Except PrintError Unit
  | _, int n => if Text.Numeral.isWritable n then .ok () else .error .unwritable
  | 0, list _ => .error .tooDeep
  | 0, table _ => .error .tooDeep
  | deepest + 1, list items => checkItems deepest items
  | deepest + 1, table fields => checkFields deepest fields
  | _, _ => .ok ()

/-- Looks the items of a list over. -/
def checkItems : Nat → List Value → Except PrintError Unit
  | _, [] => .ok ()
  | deepest, v :: rest => do
    check deepest v
    checkItems deepest rest

/-- Looks the fields of a table over. -/
def checkFields : Nat → List (String × Value) → Except PrintError Unit
  | _, [] => .ok ()
  | deepest, (_, v) :: rest => do
    check deepest v
    checkFields deepest rest

end

/-- The text of a value on its own, if it can be printed. -/
def shown? (deepest : Nat) (v : Value) : Except PrintError String := do
  v.check deepest
  return v.shown

/-! ### What values stand for -/

/-- Whether a value counts as given: null, false, zero and everything empty do not. -/
def isTruthy : Value → Bool
  | null => false
  | bool b => b
  | int n => n != 0
  | real x => !x.isZero
  | text s => !s.isEmpty
  | moment _ => true
  | list items => !items.isEmpty
  | table fields => !fields.isEmpty

/-- The kind of a value, as a message names it. -/
def kindName : Value → String
  | null => "NoneType"
  | bool _ => "bool"
  | int _ => "int"
  | real _ => "float"
  | text _ => "str"
  | moment m => m.kindName
  | list _ => "list"
  | table _ => "dict"

/-- Why a value stands for no integer. -/
inductive IntError
  | numeral (e : Text.Numeral.Error)
  | kind (name : String)
  | notANumber
  | infinite
  deriving DecidableEq, Repr

/-- The wording of a refusal. -/
def IntError.message : IntError → String
  | .numeral e => e.message
  | .kind name =>
    s!"int() argument must be a string, a bytes-like object or a real number, not '{name}'"
  | .notANumber => "cannot convert float NaN to integer"
  | .infinite => "cannot convert float infinity to integer"

/-- The integer a value stands for: a truth value is 0 or 1, a number loses its fraction, and
a text is read as a numeral. -/
def toInt : Value → Except IntError Int
  | bool b => .ok (if b then 1 else 0)
  | int n => .ok n
  | real (.infinite _) => .error .infinite
  | real x =>
    match x.truncate? with
    | some n => .ok n
    | none => .error .notANumber
  | text s =>
    match Text.Numeral.read s with
    | .ok n => .ok n
    | .error e => .error (.numeral e)
  | v => .error (.kind v.kindName)

end Value

end LintReport
