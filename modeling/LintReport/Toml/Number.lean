/-
Numbers of a settings file.

* `Toml.number?` — the value of a written number: an integer in one of four bases, or a decimal
  number with a point, an exponent or both, or a named one.

Design notes: an underscore may stand between two digits and nowhere else. A decimal number has
no leading zero, its point stands between two digits, and an integer has no more digits than can
be read. Only a decimal or a named number has a sign.
-/
import LintReport.Text.Numeral
import LintReport.Text.Percent
import LintReport.Value.Basic

namespace LintReport.Toml

/-- A sign. -/
def isSign (c : Char) : Bool := c = '+' || c = '-'

/-- The value of a digit of a base. -/
def digitOf? (b : Nat) (c : Char) : Option Nat := (Text.hexValue? c).filter (· < b)

/-- The characters without the underscores between two digits; `after` says whether the
character before was a digit. -/
def dropSeparators (b : Nat) (after : Bool) : List Char → List Char
  | [] => []
  | c :: rest =>
    if c = '_' && after && rest.head?.any (fun d => (digitOf? b d).isSome) then
      dropSeparators b false rest
    else c :: dropSeparators b (digitOf? b c).isSome rest

/-- The digits that the characters are, one or more. -/
def digitsOf? (b : Nat) (cs : List Char) : Option (List Nat) :=
  if cs.isEmpty then none else (dropSeparators b false cs).mapM (digitOf? b)

/-- The number of some digits of a base. -/
def ofDigits (b : Nat) (ds : List Nat) : Nat := ds.foldl (fun n d => n * b + d) 0

/-- A digit or an underscore. -/
def isRunChar (c : Char) : Bool := c.isDigit || c = '_'

/-- The digits after a point, if there is a point, and the characters after them. -/
def fractionDigits? : List Char → Option (List Nat × List Char)
  | '.' :: rest =>
    let run := rest.takeWhile isRunChar
    (digitsOf? 10 run).map fun ds => (ds, rest.drop run.length)
  | cs => some ([], cs)

/-- The exponent that the characters are, none of them left over. -/
def exponent? : List Char → Option Int
  | [] => some 0
  | c :: rest =>
    if !(c = 'e' || c = 'E') then none
    else
      let unsigned := if rest.head?.any isSign then rest.tail else rest
      (digitsOf? 10 unsigned).map fun ds =>
        if rest.head? = some '-' then -(ofDigits 10 ds : Int) else ofDigits 10 ds

/-- The value of a decimal number without its sign. -/
def decimal? (negative : Bool) (cs : List Char) : Option Value := do
  let run := cs.takeWhile isRunChar
  let whole ← digitsOf? 10 run
  if 1 < whole.length && whole.head? = some 0 then none
  let rest := cs.drop run.length
  if rest.isEmpty then
    if Text.Numeral.maxDigits < whole.length then none
    let n : Int := ofDigits 10 whole
    return .int (if negative then -n else n)
  let (fraction, rest) ← fractionDigits? rest
  let exponent ← exponent? rest
  return .real
    (.ofDecimal negative (ofDigits 10 (whole ++ fraction)) (exponent - fraction.length))

/-- The value of a decimal or a named number without its sign. -/
def unsigned? (negative : Bool) (cs : List Char) : Option Value :=
  if cs = "inf".toList then some (.real (.infinite negative))
  else if cs = "nan".toList then some (.real .notANumber)
  else decimal? negative cs

/-- The value of a written number. -/
def number? : List Char → Option Value
  | '+' :: cs => unsigned? false cs
  | '-' :: cs => unsigned? true cs
  | '0' :: 'b' :: cs => (digitsOf? 2 cs).map fun ds => .int (ofDigits 2 ds)
  | '0' :: 'o' :: cs => (digitsOf? 8 cs).map fun ds => .int (ofDigits 8 ds)
  | '0' :: 'x' :: cs => (digitsOf? 16 cs).map fun ds => .int (ofDigits 16 ds)
  | cs => unsigned? false cs

end LintReport.Toml
