/-
Double-precision numbers rounded to decimals.

* `Binary64.fixed` — with a number of digits after the point;
* `Binary64.scientific` — with one digit before the point, a number of digits after it, and an
  exponent;
* `Binary64.general` — with a number of digits in all, in the shorter of the two forms.

Design notes: the functions give the text of the magnitude of a finite number `m · 2 ^ e`.
Rounding is exact, a half goes to the even neighbour. A whole number has a point only if
`point` asks for it, which also keeps zeros at the end of the general form.
-/
import LintReport.Value.Binary64

namespace LintReport.Binary64

/-- The integer nearest to `m · 2 ^ e · 10 ^ power`. -/
def rounded (m : Nat) (e power : Int) : Nat :=
  let (n, d) := scaled 2 e m 1
  let (n, d) := scaled 10 power n d
  roundDiv n d

/-- The decimal digits of a number, at least `width` of them. -/
def digitsOf (width n : Nat) : List Char :=
  let ds := Nat.toDigits 10 n
  List.replicate (width - ds.length) '0' ++ ds

/-- Digits with a point before the last `places` of them. -/
def withPoint (places : Nat) (point : Bool) (ds : List Char) : List Char :=
  let whole := ds.length - places
  if places = 0 then ds ++ (if point then ['.'] else [])
  else ds.take whole ++ '.' :: ds.drop whole

/-- The number with `places` digits after the point. -/
def fixed (places : Nat) (point : Bool) (m : Nat) (e : Int) : List Char :=
  withPoint places point (digitsOf (places + 1) (rounded m e places))

/-- The digits of the number rounded to `places + 1` of them, and the power of ten of the first
one. -/
def leading (places m : Nat) (e : Int) : Nat × Int :=
  if m = 0 then (0, 0)
  else
    let top := leadingPower m e
    let n := rounded m e (places - top)
    if n = Nat.pow 10 (places + 1) then (n / 10, top + 1) else (n, top)

/-- An exponent of at least two digits. -/
def exponentText (power : Int) : List Char :=
  'e' :: (if power < 0 then '-' else '+') :: digitsOf 2 power.natAbs

/-- The number with `places` digits after the point and an exponent. -/
def scientific (places : Nat) (point : Bool) (m : Nat) (e : Int) : List Char :=
  let (n, top) := leading places m e
  withPoint places point (digitsOf (places + 1) n) ++ exponentText top

/-- A decimal without the zeros at its end, and without the point if they are all that follows
it. -/
def trimZeros (cs : List Char) : List Char :=
  if cs.contains '.' then
    let kept := cs.reverse.dropWhile (· = '0')
    (if kept.head? = some '.' then kept.tail else kept).reverse
  else cs

/-- The number with `count` digits, at least one, with an exponent if it is below `-4` or not
below `count`. -/
def general (count : Nat) (point : Bool) (m : Nat) (e : Int) : List Char :=
  let places := max count 1 - 1
  let (n, top) := leading places m e
  let trim (cs : List Char) := if point then cs else trimZeros cs
  if -4 ≤ top && top ≤ places then trim (fixed (places - top).toNat point m e)
  else trim (withPoint places point (digitsOf (places + 1) n)) ++ exponentText top

end LintReport.Binary64
