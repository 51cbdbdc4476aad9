/-
Dates and times, as they stand in a settings file.

* `Moment` — a calendar date, a time of day, or both with an optional offset;
* `Moment.iso` — the standard written form;
* `Moment.inspect` — the form shown inside a message.
-/
import LintReport.Text.Quoted

namespace LintReport

/-- A calendar date. -/
structure Date where
  year : Nat
  month : Nat
  day : Nat
  deriving DecidableEq, Repr, Inhabited

/-- A time of day with microseconds. -/
structure Clock where
  hour : Nat
  minute : Nat
  second : Nat
  micro : Nat
  deriving DecidableEq, Repr, Inhabited

/-- A distance from universal time, in minutes, with the name it was written by. -/
structure Offset where
  negative : Bool
  minutes : Nat
  name : String
  deriving DecidableEq, Repr, Inhabited

/-- A date, a time of day, or a date with a time of day. -/
inductive Moment
  | date (d : Date)
  | clock (t : Clock)
  | stamp (d : Date) (t : Clock) (offset : Option Offset)
  deriving DecidableEq, Repr, Inhabited

/-- The decimal digits of a number, padded with zeros to a width. -/
def zeroPadded (width n : Nat) : String :=
  let digits := Nat.toDigits 10 n
  String.ofList (List.replicate (width - digits.length) '0' ++ digits)

namespace Date

/-- Year, month and day, with hyphens. -/
def iso (d : Date) : String := s!"{zeroPadded 4 d.year}-{zeroPadded 2 d.month}-{zeroPadded 2 d.day}"

/-- Whether the year has a 29 February. -/
def isLeap (year : Nat) : Bool := year % 4 == 0 && (year % 100 != 0 || year % 400 == 0)

/-- The number of days of a month. -/
def monthDays (year month : Nat) : Nat :=
  if month = 2 then (if isLeap year then 29 else 28)
  else if month = 4 || month = 6 || month = 9 || month = 11 then 30 else 31

/-- Whether the date is in the calendar of the years 1 to 9999. -/
def isValid (d : Date) : Bool :=
  1 ≤ d.year && d.year ≤ 9999 && 1 ≤ d.month && d.month ≤ 12 && 1 ≤ d.day &&
    d.day ≤ monthDays d.year d.month

end Date

namespace Clock

/-- Hours, minutes and seconds with colons, and the microseconds if there are any. -/
def iso (t : Clock) : String :=
  s!"{zeroPadded 2 t.hour}:{zeroPadded 2 t.minute}:{zeroPadded 2 t.second}"
    ++ (if t.micro = 0 then "" else s!".{zeroPadded 6 t.micro}")

/-- The numbers of a time of day, seconds and microseconds only as far as they are needed. -/
def numbers (t : Clock) : List Nat :=
  if t.micro != 0 then [t.hour, t.minute, t.second, t.micro]
  else if t.second != 0 then [t.hour, t.minute, t.second]
  else [t.hour, t.minute]

end Clock

namespace Offset

/-- Sign, hours and minutes. -/
def iso (o : Offset) : String :=
  (if o.negative && o.minutes != 0 then "-" else "+")
    ++ s!"{zeroPadded 2 (o.minutes / 60)}:{zeroPadded 2 (o.minutes % 60)}"

/-- The offset as a message shows it: days and seconds, the seconds never negative. -/
def inspect (o : Offset) : String :=
  let seconds := o.minutes * 60
  let length :=
    if seconds = 0 then "0"
    else if o.negative then s!"days=-1, seconds={86400 - seconds}"
    else s!"seconds={seconds}"
  s!"datetime.timezone(datetime.timedelta({length}), {Text.quote o.name})"

end Offset

namespace Moment

/-- The standard written form, with a `T` between date and time. -/
def iso : Moment → String
  | date d => d.iso
  | clock t => t.iso
  | stamp d t offset => s!"{d.iso}T{t.iso}" ++ (offset.map Offset.iso).getD ""

/-- Numbers separated by commas. -/
def commaSeparated (ns : List Nat) : String := ", ".intercalate (ns.map toString)

/-- The form shown inside a message. -/
def inspect : Moment → String
  | date d => s!"datetime.date({commaSeparated [d.year, d.month, d.day]})"
  | clock t => s!"datetime.time({commaSeparated t.numbers})"
  | stamp d t offset =>
    let numbers := commaSeparated ([d.year, d.month, d.day] ++ t.numbers)
    match offset with
    | none => s!"datetime.datetime({numbers})"
    | some o => s!"datetime.datetime({numbers}, tzinfo={o.inspect})"

/-- The kind of the value, as a message names it. -/
def kindName : Moment → String
  | date _ => "datetime.date"
  | clock _ => "datetime.time"
  | stamp .. => "datetime.datetime"

end Moment

end LintReport
