/-
Dates and times of a settings file.

* `Toml.moment?` — the value of a written date, time of day, or date with a time of day.

Design notes: the parts of a moment have fixed widths but for the fraction of a second, of which
six digits count. Seconds may be left out. Between date and time stands a letter `T` or a blank;
after the time a letter `Z`, or a sign with hours and minutes. The year of a date with a time may
be written with the digits of any script.
-/
import LintReport.Text.Digit
import LintReport.Value.Moment

namespace LintReport.Toml

/-- The number of digit characters. -/
def digitsNumber (ds : List Char) : Nat := ds.foldl (fun n c => n * 10 + (c.toNat - 48)) 0

/-- The number of two digits at the beginning of the characters, at most `bound`, and the
characters after them. -/
def pair? (bound : Nat) : List Char → Option (Nat × List Char)
  | a :: b :: rest =>
    if a.isDigit && b.isDigit && digitsNumber [a, b] ≤ bound then some (digitsNumber [a, b], rest)
    else none
  | _ => none

/-- The characters after one that must come first. -/
def after? (mark : Char) : List Char → Option (List Char)
  | c :: rest => if c = mark then some rest else none
  | [] => none

/-- The year of four digits at the beginning of the characters, and the characters after it. -/
def year? (digit? : Char → Option Nat) (cs : List Char) : Option (Nat × List Char) := do
  let ds ← (cs.take 4).mapM digit?
  if ds.length = 4 then some (ds.foldl (fun n d => n * 10 + d) 0, cs.drop 4) else none

/-- The value of a digit character. -/
def plainDigit? (c : Char) : Option Nat := if c.isDigit then some (c.toNat - 48) else none

/-- A date at the beginning of the characters, and the characters after it. -/
def date? (digit? : Char → Option Nat) (cs : List Char) : Option (Date × List Char) := do
  let (year, cs) ← year? digit? cs
  let (month, cs) ← pair? 12 (← after? '-' cs)
  let (day, cs) ← pair? 31 (← after? '-' cs)
  let date : Date := ⟨year, month, day⟩
  if date.isValid then some (date, cs) else none

/-- Microseconds of a fraction of a second. -/
def microseconds (ds : List Char) : Nat := digitsNumber ((ds ++ List.replicate 6 '0').take 6)

/-- The fraction of a second at the beginning of the characters, if a point comes first, and the
characters after it. -/
def fraction? : List Char → Option (Nat × List Char)
  | '.' :: rest =>
    let ds := rest.takeWhile Char.isDigit
    if ds.isEmpty then none else some (microseconds ds, rest.drop ds.length)
  | cs => some (0, cs)

/-- The seconds at the beginning of the characters and their fraction, if a colon comes first,
and the characters after them. -/
def seconds? : List Char → Option (Nat × Nat × List Char)
  | ':' :: cs => do
    let (second, cs) ← pair? 59 cs
    let (micro, cs) ← fraction? cs
    return (second, micro, cs)
  | cs => some (0, 0, cs)

/-- A time of day at the beginning of the characters, and the characters after it. -/
def clock? (cs : List Char) : Option (Clock × List Char) := do
  let (hour, cs) ← pair? 23 cs
  let (minute, cs) ← pair? 59 (← after? ':' cs)
  let (second, micro, cs) ← seconds? cs
  return (⟨hour, minute, second, micro⟩, cs)

/-- The offset that the characters are, none of them left over. -/
def offset? : List Char → Option (Option Offset)
  | [] => some none
  | ['Z'] => some (some ⟨false, 0, "UTC"⟩)
  | ['z'] => some (some ⟨false, 0, "UTC"⟩)
  | sign :: cs => do
    if !(sign = '+' || sign = '-') then none
    let (hours, rest) ← pair? 23 cs
    let (minutes, rest) ← pair? 59 (← after? ':' rest)
    if rest.isEmpty then some (some ⟨sign = '-', 60 * hours + minutes, String.ofList (sign :: cs)⟩)
    else none

/-- What separates a time from the date before it. -/
def isClockMark (c : Char) : Bool := c = 'T' || c = 't' || c = ' '

/-- The date with a time of day that the characters are. -/
def stamp? (cs : List Char) : Option Moment := do
  let (date, cs) ← date? Text.decimalValue? cs
  let cs ← (if cs.head?.any isClockMark then some cs.tail else none)
  let (clock, cs) ← clock? cs
  return .stamp date clock (← offset? cs)

/-- The value of a written moment. -/
def moment? (cs : List Char) : Option Moment :=
  match date? plainDigit? cs, clock? cs with
  | some (date, []), _ => some (.date date)
  | _, some (clock, []) => some (.clock clock)
  | _, _ => stamp? cs

end LintReport.Toml
