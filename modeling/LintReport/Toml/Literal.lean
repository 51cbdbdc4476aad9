/-
Keys and values of a settings file.

* `Toml.readKey` — the path of a key, plain or between quotes, with points between its parts;
* `Toml.readValue` — a value: a text, a number, a moment, a truth value, a list, or a table
  between braces.

Design notes: a list or a table between braces may go over several lines and end with a comma.
How deep values are nested is limited. The `fuel` of the readers bounds the number of items; twice
the length of the text is enough, for two calls in a row take a character.
-/
import LintReport.Toml.Moment
import LintReport.Toml.Number
import LintReport.Toml.Parts
import LintReport.Toml.Text

namespace LintReport.Toml

/-! ### Keys -/

/-- A character of a plain key. -/
def isKeyChar (c : Char) : Bool := c.isAlphanum || c = '-' || c = '_'

/-- The characters after white space on the line. -/
def skipGap (cs : List Char) : List Char := cs.dropWhile isGap

/-- A plain key; white space around it does not count. -/
def readPlainKey (cs : List Char) : Except Error (String × List Char) :=
  let raw := cs.takeWhile fun c => isKeyChar c || isGap c
  let key := (raw.reverse.dropWhile isGap).reverse
  if key.isEmpty || key.any isGap then .error .malformed
  else .ok (String.ofList key, cs.drop raw.length)

/-- One part of a key, and the characters after it and the white space that follows. -/
def readKeyPart (cs : List Char) : Except Error (String × List Char) :=
  match cs with
  | c :: rest =>
    if c = '"' || c = '\'' then
      if opensLines c rest then .error .malformed
      else
        match readText c rest with
        | some (key, rest) => .ok (key, skipGap rest)
        | none => .error .malformed
    else readPlainKey cs
  | [] => .error .malformed

/-- The parts of a key, at most `fuel`. -/
def readKeyFrom : Nat → List Char → Except Error (List String × List Char)
  | 0, _ => .error .malformed
  | fuel + 1, cs => do
    let (key, rest) ← readKeyPart (skipGap cs)
    match rest with
    | '.' :: rest =>
      let (path, rest) ← readKeyFrom fuel rest
      return (key :: path, rest)
    | _ => return ([key], rest)

/-- The path of a key. -/
def readKey (limits : Limits) (cs : List Char) : Except Error (List String × List Char) :=
  readKeyFrom limits.keyParts cs

/-- The characters after an equals sign and the white space around it. -/
def skipEquals (cs : List Char) : Except Error (List Char) :=
  match skipGap cs with
  | '=' :: rest => .ok (skipGap rest)
  | _ => .error .malformed

/-! ### Values without parts -/

/-- A character at which a number ends. -/
def endsNumber (c : Char) : Bool := isSpacing c || c = '#' || c = ',' || c = ']' || c = '\x7d'

/-- The date, or the date with the time that follows it after a blank. -/
def readClockAfter (raw : List Char) (date : Date) (cs : List Char) :
    Except Error (Value × List Char) :=
  let more := cs.takeWhile fun c => c = ' ' || !endsNumber c
  let clock := (more.reverse.dropWhile Text.isBlank).reverse
  let rest := cs.drop more.length
  if clock.isEmpty then .ok (.moment (.date date), rest)
  else
    match moment? (raw ++ clock) with
    | some m => .ok (.moment m, rest)
    | none => .error .malformed

/-- A number or a moment. -/
def readNumber (cs : List Char) : Except Error (Value × List Char) :=
  let raw := cs.takeWhile (!endsNumber ·)
  let rest := cs.drop raw.length
  match moment? raw with
  | some (.date date) => readClockAfter raw date rest
  | some m => .ok (.moment m, rest)
  | none =>
    match number? raw with
    | some v => .ok (v, rest)
    | none => .error .malformed

/-- The words that stand for values. -/
def words : List (List Char × Value) :=
  [("true".toList, .bool true), ("false".toList, .bool false)]

/-- Whether a number begins here: a digit, a sign, or one of the names of numbers. -/
def startsNumber (cs : List Char) : Bool :=
  let raw := cs.takeWhile (!endsNumber ·)
  cs.head?.any (fun c => c.isDigit || isSign c) || raw = "inf".toList || raw = "nan".toList

/-- A value without parts. -/
def readScalar (cs : List Char) : Except Error (Value × List Char) :=
  match words.find? fun (word, _) => word.isPrefixOf cs with
  | some (word, v) => .ok (v, cs.drop word.length)
  | none => if startsNumber cs then readNumber cs else .error .malformed

/-! ### Values -/

/-- The characters after a comment and before the end of its line. -/
def skipComment : List Char → Except Error (List Char)
  | [] => .ok []
  | '\n' :: rest => .ok ('\n' :: rest)
  | '\r' :: rest => .ok ('\r' :: rest)
  | c :: rest => if isControl c then .error .malformed else skipComment rest

/-- The characters after white space, line breaks and comments, at most `fuel` of them. -/
def skipSpacing : Nat → List Char → Except Error (List Char)
  | 0, cs => .ok cs
  | fuel + 1, cs =>
    match cs.dropWhile isSpacing with
    | '#' :: rest => do skipSpacing fuel (← skipComment rest)
    | rest => .ok rest

/-- The characters after all white space, line breaks and comments. -/
def skipAll (cs : List Char) : Except Error (List Char) := skipSpacing cs.length cs

variable (limits : Limits)

mutual

/-- A value and the characters after it; it may be nested `level` deep. -/
def readValue : Nat → Nat → List Char → Except Error (Value × List Char)
  | 0, _, _ => .error .malformed
  | fuel + 1, level, cs =>
    match level, cs with
    | level + 1, '[' :: rest => readItems fuel level [] true rest
    | level + 1, '\x7b' :: rest => readPairs fuel level [] true rest
    | _, c :: rest =>
      if c = '"' || c = '\'' then
        match readText c rest with
        | some (s, rest) => .ok (.text s, rest)
        | none => .error .malformed
      else readScalar cs
    | _, [] => .error .malformed

/-- The items of a list up to its closing bracket; `items` holds those before, last first, and
`free` says whether another one may come. -/
def readItems : Nat → Nat → List Value → Bool → List Char → Except Error (Value × List Char)
  | 0, _, _, _, _ => .error .malformed
  | fuel + 1, level, items, free, cs => do
    match ← skipAll cs, free with
    | ']' :: rest, _ => return (.list items.reverse, rest)
    | ',' :: rest, false => readItems fuel level items true rest
    | cs, true =>
      let (v, rest) ← readValue fuel level cs
      readItems fuel level (v :: items) false rest
    | _, false => throw .malformed

/-- The pairs of a table up to its closing brace; `fields` holds those before, and `free` says
whether another one may come. -/
def readPairs : Nat → Nat → Fields → Bool → List Char → Except Error (Value × List Char)
  | 0, _, _, _, _ => .error .malformed
  | fuel + 1, level, fields, free, cs => do
    match ← skipAll cs, free with
    | '\x7d' :: rest, _ => return (.table (← finish limits fields), rest)
    | ',' :: rest, false => readPairs fuel level fields true rest
    | cs, true =>
      let (path, rest) ← readKey limits cs
      let (v, rest) ← readValue fuel level (← skipEquals rest)
      readPairs fuel level (← assign v path fields) false rest
    | _, false => throw .malformed

end

end LintReport.Toml
