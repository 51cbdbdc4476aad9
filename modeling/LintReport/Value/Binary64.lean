/-
Double-precision numbers, held exactly.

* `Binary64` — a finite number `± mantissa · 2 ^ exponent`, an infinity, or no number;
* `Binary64.ofDecimal` — the number nearest to a decimal, ties to the even mantissa;
* `Binary64.truncate?` — the integer part, where there is one;
* `Binary64.shown` — the shortest decimal that is nearest to the number and to no other.

Design notes: everything is integer arithmetic. A finite number is normalised: its mantissa
is below `2 ^ 53`, and at least `2 ^ 52` unless the exponent is the least one, `-1074`.
The shortest decimal is searched on the grids of 1, 2, … 17 digits: the first grid on which
one of the number's two neighbours lies in the interval of reals that round to the number
gives the digits, the nearer neighbour winning, and the even one of two equally near.
-/

namespace LintReport

/-- A double-precision number. -/
inductive Binary64
  | finite (negative : Bool) (mantissa : Nat) (exponent : Int)
  | infinite (negative : Bool)
  | notANumber
  deriving DecidableEq, Repr, Inhabited

namespace Binary64

/-- The bound of mantissas, `2 ^ 53`. -/
def bound : Nat := Nat.pow 2 53

/-- The least exponent of a normalised number. -/
def minExponent : Int := -1074

/-- The greatest exponent of a finite number. -/
def maxExponent : Int := 971

/-- The quotient rounded to the nearest integer, a half to the even neighbour. -/
def roundDiv (num den : Nat) : Nat :=
  let q := num / den
  let twice := 2 * (num % den)
  if twice < den then q
  else if den < twice then q + 1
  else q + q % 2

/-- Multiplies one side of a fraction by a power: `num · base ^ e / den`. -/
def scaled (base : Nat) (e : Int) (num den : Nat) : Nat × Nat :=
  if 0 ≤ e then (num * base.pow e.toNat, den) else (num, den * base.pow (-e).toNat)

/-- The exponent of the number nearest to a positive fraction, unless the mantissa is carried. -/
def unit (num den : Nat) : Int :=
  -- the quotient has 53 or 54 binary digits at the first guess
  let guess : Int := (num.log2 : Int) - (den.log2 : Int) - 53
  let fits (e : Int) : Bool :=
    let (n, d) := scaled 2 (-e) num den
    n < d * bound
  max minExponent (if fits guess then guess else guess + 1)

/-- A fraction rounded to a multiple of `2 ^ unit`. -/
def roundTo (negative : Bool) (num den : Nat) (unit : Int) : Binary64 :=
  let (n, d) := scaled 2 (-unit) num den
  let m := roundDiv n d
  let (m, e) := if m = bound then (bound / 2, unit + 1) else (m, unit)
  if maxExponent < e then .infinite negative else .finite negative m e

/-- The number nearest to a positive fraction. -/
def ofFraction (negative : Bool) (num den : Nat) : Binary64 :=
  roundTo negative num den (unit num den)

/-- The number nearest to the decimal `± digits · 10 ^ exponent`. -/
def ofDecimal (negative : Bool) (digits : Nat) (exponent : Int) : Binary64 :=
  let magnitude : Int := ((Nat.toDigits 10 digits).length : Int) + exponent
  if digits = 0 || magnitude < -330 then .finite negative 0 minExponent
  else if 310 < magnitude then .infinite negative
  else
    let (n, d) := scaled 10 exponent digits 1
    ofFraction negative n d

/-- Whether the number is zero, of either sign. -/
def isZero : Binary64 → Bool
  | .finite _ m _ => m == 0
  | _ => false

/-- Whether the number is finite and has no fractional part. -/
def isInteger : Binary64 → Bool
  | .finite _ m e => 0 ≤ e || m % Nat.pow 2 (-e).toNat == 0
  | _ => false

/-- The integer part of a finite number. -/
def truncate? : Binary64 → Option Int
  | .finite negative m e =>
    let (n, d) := scaled 2 e m 1
    some (if negative then -((n / d : Nat) : Int) else ((n / d : Nat) : Int))
  | _ => none

/-- The bounds, as numerators over a common denominator, of the reals that round to
`m · 2 ^ e`, the number itself, and that denominator. -/
def interval (m : Nat) (e : Int) : Nat × Nat × Nat × Nat :=
  -- below a power of two the neighbour is half as far
  let below := if m = bound / 2 && minExponent < e then 1 else 2
  let (unit, den) := scaled 2 (e - 2) 1 1
  ((4 * m - below) * unit, 4 * m * unit, (4 * m + 2) * unit, den)

/-- The point of the grid with spacing `10 ^ p` that is nearest to the number among those
that round to it, if there is one (the even one of two equally near points). -/
def gridPoint? (m : Nat) (e : Int) (p : Int) : Option Nat :=
  let (low, mid, high, den) := interval m e
  let (num10, den10) := scaled 10 (-p) 1 1
  -- a value x is the multiple x · num10 / (den · den10) of the spacing
  let step := den * den10
  let (low, mid, high) := (low * num10, mid * num10, high * num10)
  let inside (k : Nat) : Bool :=
    if m % 2 = 0 then low ≤ k * step && k * step ≤ high else low < k * step && k * step < high
  let k := mid / step
  let down := k != 0 && inside k
  let up := inside (k + 1)
  if down && up then some (roundDiv mid step)
  else if down then some k
  else if up then some (k + 1)
  else none

/-- The exponent of ten of the leading digit. -/
def leadingPower (m : Nat) (e : Int) : Int :=
  let (n, d) := scaled 2 e m 1
  if d ≤ n then ((Nat.toDigits 10 (n / d)).length : Int) - 1
  else
    -- the least k with 1 ≤ n · 10 ^ k / d
    let k := (d / n).log2 * 3 / 10
    let rec search (fuel k : Nat) : Int :=
      match fuel with
      | 0 => -(k : Int)
      | fuel + 1 => if d ≤ n * Nat.pow 10 k then -(k : Int) else search fuel (k + 1)
    search 25 k

/-- The shortest digits of a positive number, with the exponent of ten of their last one. -/
def shortest (m : Nat) (e : Int) : Nat × Int :=
  let top := leadingPower m e
  let rec go (left : Nat) (p : Int) : Nat × Int :=
    match left with
    | 0 => (0, p)
    | left + 1 =>
      match gridPoint? m e p with
      | some k => (k, p)
      | none => go left (p - 1)
  go 18 top

/-- Removes zeros at the end of a number, raising the exponent with each. -/
def dropZeros : Nat → Nat → Int → Nat × Int
  | 0, n, p => (n, p)
  | fuel + 1, n, p => if n != 0 && n % 10 == 0 then dropZeros fuel (n / 10) (p + 1) else (n, p)

/-- Lays out digits with their decimal point after `point` of them: positional for
`-3 ≤ point ≤ 16`, otherwise with an exponent of at least two digits. -/
def layOut (digits : List Char) (point : Int) : List Char :=
  if -3 ≤ point && point ≤ 16 then
    if point ≤ 0 then '0' :: '.' :: List.replicate (-point).toNat '0' ++ digits
    else
      let whole := digits.take point.toNat
      let rest := digits.drop point.toNat
      whole ++ List.replicate (point.toNat - whole.length) '0' ++ '.' ::
        (if rest.isEmpty then ['0'] else rest)
  else
    let fraction := match digits.drop 1 with
      | [] => []
      | ds => '.' :: ds
    let power := Nat.toDigits 10 (point - 1).natAbs
    digits.take 1 ++ fraction ++ 'e' :: (if point - 1 < 0 then '-' else '+') ::
      (if power.length < 2 then '0' :: power else power)

/-- The text of a number: the shortest decimal that reads back as it. -/
def shown : Binary64 → String
  | .finite negative m e =>
    let sign := if negative then ['-'] else []
    if m = 0 then String.ofList (sign ++ ['0', '.', '0'])
    else
      let (n, p) := shortest m e
      let (n, p) := dropZeros 20 n p
      let digits := Nat.toDigits 10 n
      String.ofList (sign ++ layOut digits (digits.length + p))
  | .infinite negative => if negative then "-inf" else "inf"
  | .notANumber => "nan"

end Binary64

end LintReport
