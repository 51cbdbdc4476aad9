/-
Integers written as decimal numerals.

* `Numeral.read` — the integer a text stands for: white space around it, one sign, then
  digits of any script, with single underscores between digits;
* `Numeral.isWritable` — whether an integer is written at all;
* `Numeral.Error` — why a text is no numeral or too long for one, or an integer has none.

Design notes: a numeral has at most 4300 digits. The limit is checked on the leading run of
digits and underscores, so a long run wins over an unreadable character after it, and a
misplaced underscore inside the run wins over the limit. White space is the ASCII kind
without the separators 28 to 31, and every kind above ASCII.
-/
import LintReport.Text.Blank
import LintReport.Text.Digit
import LintReport.Text.Quoted

namespace LintReport.Text.Numeral

/-- Why a text is not read as an integer, or an integer is not written. -/
inductive Error
  | malformed (text : String)
  | tooLong (digits : Nat)
  /-- An integer has too many digits to be written. -/
  | unwritable
  deriving DecidableEq, Repr

/-- The largest number of digits that is read or written. -/
def maxDigits : Nat := 4300

/-- The wording of a refusal; of a long text the quoted form is cut after 200 characters. -/
def Error.message : Error → String
  | .malformed text =>
    "invalid literal for int() with base 10: "
      ++ String.ofList ((Text.quote text).toList.take 200)
  | .tooLong digits =>
    s!"Exceeds the limit ({maxDigits} digits) for integer string conversion: value has "
      ++ s!"{digits} digits; use sys.set_int_max_str_digits() to increase the limit"
  | .unwritable =>
    s!"Exceeds the limit ({maxDigits} digits) for integer string conversion; "
      ++ "use sys.set_int_max_str_digits() to increase the limit"

/-- Whether an integer has few enough digits to be written. -/
def isWritable (n : Int) : Bool := n.natAbs < Nat.pow 10 maxDigits

/-- White space that may stand around a numeral. -/
def isSpace (c : Char) : Bool := Text.isBlank c && !(28 ≤ c.toNat && c.toNat ≤ 31)

/-- A character of the run of digits: its digit, or none for an underscore. -/
def runValue? (c : Char) : Option (Option Nat) :=
  if c = '_' then some none else (Text.decimalValue? c).map some

/-- The digits of a run in which each underscore stands between two digits. -/
def digits? : List Char → Option (List Nat)
  | [] => some []
  | [c] => (Text.decimalValue? c).map ([·])
  | c :: '_' :: d :: rest =>
    match Text.decimalValue? c with
    | some n => (n :: ·) <$> digits? (d :: rest)
    | none => none
  | c :: rest =>
    match Text.decimalValue? c with
    | some n => (n :: ·) <$> digits? rest
    | none => none

/-- The number that a list of decimal digits stands for. -/
def ofDigits (ds : List Nat) : Nat := ds.foldl (fun n d => n * 10 + d) 0

/-- Reads an unsigned numeral; `whole` is the text shown when it is refused. -/
def readUnsigned (whole : String) (cs : List Char) : Except Error Nat :=
  let run := cs.takeWhile fun c => (runValue? c).isSome
  let rest := cs.drop run.length
  match digits? run with
  | none => .error (.malformed whole)
  | some ds =>
    if maxDigits < ds.length then .error (.tooLong ds.length)
    else if ds.isEmpty || rest.any (!isSpace ·) then .error (.malformed whole)
    else .ok (ofDigits ds)

/-- The integer that a text stands for. -/
def read (s : String) : Except Error Int :=
  match s.toList.dropWhile isSpace with
  | '-' :: rest => (fun n => -(n : Int)) <$> readUnsigned s rest
  | '+' :: rest => (fun n => (n : Int)) <$> readUnsigned s rest
  | cs => (fun n => (n : Int)) <$> readUnsigned s cs

end LintReport.Text.Numeral
