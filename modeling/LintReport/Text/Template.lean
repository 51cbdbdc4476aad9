/-
Templates: texts with slots for values.

* `Template.Slot` — how a value is to be written;
* `Template.write?` — the text of a value in a slot;
* `Template.fill?` — the text of a template with the values in their slots.

A slot is a percent sign, and then, all but the letter optional: a name between parentheses,
flags, a width, a point with a precision, a length mark, and a letter. Width and precision may
be stars, which stand for a value each. Two percent signs stand for one.

Design notes: values are given in a row, and there must be as many as slots, or as one table,
whose fields are taken by name. The `fuel` of the loop is the number of characters left.
-/
import LintReport.Value.Basic
import LintReport.Value.Rounded

namespace LintReport.Template

/-- How a value is to be written. -/
structure Slot where
  left : Bool
  plus : Bool
  blank : Bool
  alternate : Bool
  zeros : Bool
  width : Nat
  precision : Option Nat
  letter : Char
  deriving Repr

/-! ### Writing -/

/-- What stands before a number: its sign, or what stands in the place of a plus. -/
def Slot.sign (s : Slot) (negative : Bool) : List Char :=
  if negative then ['-'] else if s.plus then ['+'] else if s.blank then [' '] else []

/-- A text in the width of a slot. -/
def Slot.pad (s : Slot) (cs : List Char) : List Char :=
  let fill := List.replicate (s.width - cs.length) ' '
  if s.left then cs ++ fill else fill ++ cs

/-- A number in the width of a slot; zeros go between what stands before it and its digits. -/
def Slot.padNumber (s : Slot) (before digits : List Char) : List Char :=
  if s.zeros && !s.left then
    before ++ List.replicate (s.width - (before.length + digits.length)) '0' ++ digits
  else s.pad (before ++ digits)

/-- The integer that a value is. -/
def integer? : Value → Option Int
  | .bool b => some (if b then 1 else 0)
  | .int n => some n
  | _ => none

/-- The integer that a value is, or that is left of it without its fraction. -/
def whole? : Value → Option Int
  | .real x => x.truncate?
  | v => integer? v

/-- The number that a value is. -/
def real? : Value → Option Binary64
  | .real x => some x
  | v => do
    let n ← integer? v
    if n = 0 then return .finite false 0 Binary64.minExponent
    match Binary64.ofFraction (n < 0) n.natAbs 1 with
    | .infinite _ => none
    | x => return x

/-- The characters with the letters in upper case, if that is asked for. -/
def raised (upper : Bool) (cs : List Char) : List Char :=
  if upper then cs.map Char.toUpper else cs

/-- An integer in a base, with the mark of the base if the slot asks for one. -/
def Slot.integer (s : Slot) (base : Nat) (mark : List Char) (n : Int) : List Char :=
  let ds := Nat.toDigits base n.natAbs
  let ds := List.replicate (s.precision.getD 0 - ds.length) '0' ++ ds
  let upper := s.letter.isUpper
  s.padNumber (s.sign (n < 0) ++ raised upper (if s.alternate then mark else [])) (raised upper ds)

/-- A number in the form that the letter of the slot asks for. -/
def Slot.real (s : Slot) (x : Binary64) : List Char :=
  let places := s.precision.getD 6
  let number (negative : Bool) (cs : List Char) : List Char :=
    s.padNumber (s.sign negative) (raised s.letter.isUpper cs)
  match x with
  | .finite negative m e =>
    number negative (match s.letter.toLower with
      | 'e' => Binary64.scientific places s.alternate m e
      | 'f' => Binary64.fixed places s.alternate m e
      | _ => Binary64.general places s.alternate m e)
  | .infinite negative => number negative "inf".toList
  | .notANumber => number false "nan".toList

/-- A text, cut to the precision of a slot. -/
def Slot.text (s : Slot) (cs : List Char) : List Char :=
  s.pad (match s.precision with
    | some n => cs.take n
    | none => cs)

/-- The character that a value is: one of its code, or the only one of a text. -/
def character? : Value → Option Char
  | .text t =>
    match t.toList with
    | [c] => some c
    | _ => none
  | v => do
    let n ← integer? v
    if 0 ≤ n && n.toNat.isValidChar then some (Char.ofNat n.toNat) else none

/-- The text of a value in a slot. -/
def write? (s : Slot) (v : Value) : Option (List Char) :=
  match s.letter with
  | 's' => some (s.text v.shown.toList)
  | 'r' => some (s.text v.inspect.toList)
  | 'a' => some (s.text (v.inspect.toList.flatMap fun c =>
      if c.toNat < 128 then [c] else Text.codeEscape c))
  | 'c' => (character? v).map fun c => s.pad [c]
  | 'x' => (integer? v).map (s.integer 16 ['0', 'x'])
  | 'X' => (integer? v).map (s.integer 16 ['0', 'x'])
  | 'o' => (integer? v).map (s.integer 8 ['0', 'o'])
  | l =>
    if ['d', 'i', 'u'].contains l then (whole? v).map (s.integer 10 [])
    else if ['e', 'f', 'g'].contains l.toLower then (real? v).map s.real
    else none

/-! ### Reading slots -/

/-- The values that are still to be put in, and the fields of the table that they are, if they
are one. -/
structure Supply where
  values : List Value
  named : Option Fields

/-- All values; a table on its own that holds anything gives its fields by name. -/
def Supply.ofValues (values : List Value) : Supply :=
  match values with
  | [.table (field :: fields)] => ⟨values, some (field :: fields)⟩
  | _ => ⟨values, none⟩

/-- The next value, and those after it. -/
def Supply.next? (s : Supply) : Option (Value × Supply) :=
  match s.values with
  | [] => none
  | v :: rest => some (v, { s with values := rest })

/-- Whether no value is left over; a table need not be used up. -/
def Supply.isSpent (s : Supply) : Bool := s.named.isSome || s.values.isEmpty

/-- The characters before the parenthesis that closes an open one, and those after it; `depth`
more are open. -/
def splitClosing? (depth : Nat) : List Char → Option (List Char × List Char)
  | [] => none
  | c :: rest =>
    if c = ')' && depth = 0 then some ([], rest)
    else
      let depth := if c = '(' then depth + 1 else if c = ')' then depth - 1 else depth
      (splitClosing? depth rest).map fun (inside, after) => (c :: inside, after)

/-- The field of a name between parentheses becomes the next value. -/
def readName? (cs : List Char) (supply : Supply) : Option (List Char × Supply) :=
  match cs with
  | '(' :: rest => do
    let (name, rest) ← splitClosing? 0 rest
    let v ← (← supply.named).lookup (String.ofList name)
    return (rest, { supply with values := [v] })
  | _ => some (cs, supply)

/-- The greatest width or precision. -/
def maxCount : Nat := 0x7fffffff

/-- A width or a precision: digits, or a star that takes the next value. -/
def readCount? (cs : List Char) (supply : Supply) : Option (Int × List Char × Supply) :=
  match cs with
  | '*' :: rest => do
    let (v, supply) ← supply.next?
    let n ← integer? v
    if maxCount < n.natAbs then none else return (n, rest, supply)
  | _ =>
    let ds := cs.takeWhile Char.isDigit
    let n := ds.foldl (fun n d => n * 10 + (d.toNat - 48)) 0
    if maxCount < n then none else some (n, cs.drop ds.length, supply)

/-- The precision after a point. -/
def readPrecision? (cs : List Char) (supply : Supply) :
    Option (Option Nat × List Char × Supply) :=
  match cs with
  | '.' :: rest => do
    let (n, rest, supply) ← readCount? rest supply
    return (some n.toNat, rest, supply)
  | _ => some (none, cs, supply)

/-- The characters after a length mark, which means nothing. -/
def skipLength : List Char → List Char
  | [] => []
  | c :: rest => if ['h', 'l', 'L'].contains c then rest else c :: rest

/-- A slot after its percent sign, the characters after it, and the values that are left. -/
def readSlot? (cs : List Char) (supply : Supply) : Option (Slot × List Char × Supply) := do
  let (cs, supply) ← readName? cs supply
  let flags := cs.takeWhile fun c => ['-', '+', ' ', '#', '0'].contains c
  let (width, cs, supply) ← readCount? (cs.drop flags.length) supply
  let (precision, cs, supply) ← readPrecision? cs supply
  match skipLength cs with
  | [] => none
  | letter :: rest =>
    let slot : Slot := ⟨flags.contains '-' || width < 0, flags.contains '+', flags.contains ' ',
      flags.contains '#', flags.contains '0', width.natAbs, precision, letter⟩
    return (slot, rest, supply)

/-- The characters with the values in their slots. -/
def fillChars? : Nat → List Char → Supply → Option (List Char)
  | _, [], supply => if supply.isSpent then some [] else none
  | 0, _, _ => none
  | fuel + 1, '%' :: '%' :: rest, supply => ('%' :: ·) <$> fillChars? fuel rest supply
  | fuel + 1, '%' :: rest, supply => do
    let (slot, rest, supply) ← readSlot? rest supply
    let (v, supply) ← supply.next?
    return (← write? slot v) ++ (← fillChars? fuel rest supply)
  | fuel + 1, c :: rest, supply => (c :: ·) <$> fillChars? fuel rest supply

/-- The text with the values in their slots; without values it is taken as it is. -/
def fill? (template : String) (values : List Value) : Option String :=
  if values.isEmpty then some template
  else
    (fillChars? template.length template.toList (.ofValues values)).map String.ofList

end LintReport.Template
