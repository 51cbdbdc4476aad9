/-
Tokens of JSON texts.

* `Json.Token` — brackets, separators, texts and the other atoms, or what is wrong in place
  of one;
* `Json.lexemes` — the tokens of a text with their positions.

Design notes: a fault inside a token is a token of its own, because a reader that expects
a separator complains of the missing separator and never looks inside the token. A number is
an integer unless it has a fraction or an exponent; `NaN` and the infinities are numbers too.
A `\u` escape of one half of a surrogate pair alone stands for no character, and a text with such
an escape in it is no text.
-/
import LintReport.Text.Percent
import LintReport.Value.Basic

namespace LintReport.Json

/-- What is wrong with a JSON text. -/
inductive Reason
  | byteOrderMark
  | expectedValue
  | expectedKey
  | expectedColon
  | expectedComma
  | extraData
  | controlCharacter
  | unterminatedText
  | badEscape
  | badUnicodeEscape
  deriving DecidableEq, Repr

/-- The wording of a reason. -/
def Reason.message : Reason → String
  | .byteOrderMark => "Unexpected UTF-8 BOM (decode using utf-8-sig)"
  | .expectedValue => "Expecting value"
  | .expectedKey => "Expecting property name enclosed in double quotes"
  | .expectedColon => "Expecting ':' delimiter"
  | .expectedComma => "Expecting ',' delimiter"
  | .extraData => "Extra data"
  | .controlCharacter => "Invalid control character at"
  | .unterminatedText => "Unterminated string starting at"
  | .badEscape => "Invalid \\escape"
  | .badUnicodeEscape => "Invalid \\uXXXX escape"

/-- A token, or what stands in its place. -/
inductive Token
  | openTable
  | closeTable
  | openList
  | closeList
  | colon
  | comma
  /-- A text; none if it holds half of a surrogate pair alone. -/
  | text (s : Option String)
  | atom (v : Value)
  /-- A text token with a fault at a position. -/
  | faulty (reason : Reason) (position : Nat)
  /-- An integer with too many digits. -/
  | tooLong (digits : Nat)
  /-- A character that begins no token. -/
  | unknown
  | finish
  deriving Repr, Inhabited

/-- A token and the position at which it begins. -/
structure Lexeme where
  position : Nat
  token : Token
  deriving Repr, Inhabited

/-- White space between tokens. -/
def isSpace (c : Char) : Bool := c = ' ' || c = '\t' || c = '\n' || c = '\r'

/-! ### Texts -/

/-- The character of a one-letter escape. -/
def letterEscape? : Char → Option Char
  | '"' => some '"'
  | '\\' => some '\\'
  | '/' => some '/'
  | 'b' => some '\x08'
  | 'f' => some '\x0c'
  | 'n' => some '\n'
  | 'r' => some '\r'
  | 't' => some '\t'
  | _ => none

/-- The number of four hexadecimal digits. -/
def hexQuad? (a b c d : Char) : Option Nat :=
  match Text.hexPair? a b, Text.hexPair? c d with
  | some high, some low => some (high.toNat * 256 + low.toNat)
  | _, _ => none

/-- First halves of surrogate pairs. -/
def isHighHalf (n : Nat) : Bool := 0xD800 ≤ n && n < 0xDC00

/-- Second halves of surrogate pairs. -/
def isLowHalf (n : Nat) : Bool := 0xDC00 ≤ n && n < 0xE000

/-- The character of a code unit that stands alone; none for half of a surrogate pair. -/
def unitChar? (n : Nat) : Option Char :=
  if isHighHalf n || isLowHalf n then none else some (Char.ofNat n)

/-- The character of a `\u` escape whose backslash stands at `position`, given what follows
its `u`, with the number of characters of the escape after the backslash. Two escapes that
form a surrogate pair are one character. The escape must not end the text. -/
def unicodeEscape (position : Nat) : List Char → Except (Reason × Nat) (Option Char × Nat)
  | a :: b :: c :: d :: e :: rest =>
    match hexQuad? a b c d with
    | none => .error (.badUnicodeEscape, position + 1)
    | some n =>
      match isHighHalf n, e, rest with
      | true, '\\', 'u' :: a' :: b' :: c' :: d' :: _ :: _ =>
        match hexQuad? a' b' c' d' with
        | none => .error (.badUnicodeEscape, position + 7)
        | some m =>
          if isLowHalf m then
            .ok (some (Char.ofNat (0x10000 + (n - 0xD800) * 1024 + (m - 0xDC00))), 11)
          else .ok (unitChar? n, 5)
      | _, _, _ => .ok (unitChar? n, 5)
  | _ => .error (.badUnicodeEscape, position + 1)

/-- The character of an escape whose backslash stands at `position`, given what follows the
backslash, with the number of characters after it; `start` is where the text token begins. -/
def escape (start position : Nat) : List Char → Except (Reason × Nat) (Option Char × Nat)
  | [] => .error (.unterminatedText, start)
  | 'u' :: rest => unicodeEscape position rest
  | c :: _ =>
    match letterEscape? c with
    | none => .error (.badEscape, position)
    | some x => .ok (some x, 1)

/-- The characters with one more in front of them; none if that is none. -/
def consWith (c : Option Char) (cs : Option (List Char)) : Option (List Char) :=
  c.bind fun c => cs.map (c :: ·)

/-- The rest of a text token, read from `position`, and what follows it with its position;
`start` is where the token begins. The characters are none if one of them is. -/
def readText (start position : Nat) (cs : List Char) :
    Except (Reason × Nat) (Option (List Char) × Nat × List Char) :=
  match cs with
  | [] => .error (.unterminatedText, start)
  | '"' :: rest => .ok (some [], position + 1, rest)
  | '\\' :: rest =>
    match escape start position rest with
    | .error e => .error e
    | .ok (x, length) =>
      (fun (cs, after) => (consWith x cs, after))
        <$> readText start (position + 1 + length) (rest.drop length)
  | c :: rest =>
    if c.toNat < 32 then .error (.controlCharacter, position)
    else (fun (cs, after) => (consWith c cs, after)) <$> readText start (position + 1) rest
termination_by cs.length
decreasing_by all_goals simp only [List.length_cons, List.length_drop]; omega

/-! ### Numbers -/

/-- The parts of a number: its digits before the point, after it, and its exponent. -/
structure Numeral where
  negative : Bool
  whole : List Char
  fraction : Option (List Char)
  exponent : Option Int

/-- The number of a list of digit characters. -/
def digitsValue (ds : List Char) : Nat := ds.foldl (fun n c => n * 10 + (c.toNat - 48)) 0

/-- Digits before the point: a zero stands alone. -/
def wholeDigits : List Char → List Char
  | '0' :: _ => ['0']
  | cs => cs.takeWhile Char.isDigit

/-- A point and digits, if they follow. -/
def fraction? : List Char → Option (List Char)
  | '.' :: rest =>
    match rest.takeWhile Char.isDigit with
    | [] => none
    | ds => some ds
  | _ => none

/-- An exponent, if one follows, with the number of its characters. -/
def exponent? : List Char → Option (Int × Nat)
  | e :: rest =>
    if e = 'e' || e = 'E' then
      let (negative, signs, ds) := match rest with
        | '-' :: ds => (true, 1, ds)
        | '+' :: ds => (false, 1, ds)
        | ds => (false, 0, ds)
      match ds.takeWhile Char.isDigit with
      | [] => none
      | ds =>
        let power : Int := digitsValue ds
        some (if negative then -power else power, 1 + signs + ds.length)
    else none
  | [] => none

/-- A number at the beginning of the characters, with the number of its characters. -/
def readNumber (cs : List Char) : Option (Token × Nat) :=
  let negative := cs.head? == some '-'
  let signs := if negative then 1 else 0
  let cs := cs.drop signs
  match wholeDigits cs with
  | [] => none
  | whole =>
    let cs := cs.drop whole.length
    let fraction := fraction? cs
    let pointed := (fraction.map fun ds => ds.length + 1).getD 0
    let exponent := exponent? (cs.drop pointed)
    let length := signs + whole.length + pointed + (exponent.map (·.2)).getD 0
    match fraction, exponent with
    | none, none =>
      if Text.Numeral.maxDigits < whole.length then some (.tooLong whole.length, length)
      else
        let n := digitsValue whole
        some (.atom (.int (if negative then -(n : Int) else n)), length)
    | _, _ =>
      let ds := fraction.getD []
      let power := (exponent.map (·.1)).getD 0 - ds.length
      some (.atom (.real (.ofDecimal negative (digitsValue (whole ++ ds)) power)), length)

/-! ### All tokens -/

/-- The named atoms. -/
def names : List (List Char × Value) := [
  ("null".toList, .null), ("true".toList, .bool true), ("false".toList, .bool false),
  ("NaN".toList, .real .notANumber), ("Infinity".toList, .real (.infinite false)),
  ("-Infinity".toList, .real (.infinite true))]

/-- The token that begins with a character, and the characters after it with their position. -/
def next (position : Nat) (c : Char) (rest : List Char) : Token × Nat × List Char :=
  match c with
  | '\x7b' => (.openTable, position + 1, rest)
  | '\x7d' => (.closeTable, position + 1, rest)
  | '[' => (.openList, position + 1, rest)
  | ']' => (.closeList, position + 1, rest)
  | ':' => (.colon, position + 1, rest)
  | ',' => (.comma, position + 1, rest)
  | '"' =>
    match readText position (position + 1) rest with
    | .ok (cs, after) => (.text (cs.map String.ofList), after)
    | .error (reason, at_) => (.faulty reason at_, position + 1, rest)
  | c =>
    match names.find? fun (name, _) => name.isPrefixOf (c :: rest) with
    | some (name, v) => (.atom v, position + name.length, (c :: rest).drop name.length)
    | none =>
      match readNumber (c :: rest) with
      | some (token, length) => (token, position + length, (c :: rest).drop length)
      | none => (.unknown, position + 1, rest)

/-- The tokens from a position on; every token takes at least one of the `fuel` characters. -/
def lexemesFrom : Nat → Nat → List Char → List Lexeme
  | 0, position, _ => [⟨position, .finish⟩]
  | _, position, [] => [⟨position, .finish⟩]
  | fuel + 1, position, c :: rest =>
    if isSpace c then lexemesFrom fuel (position + 1) rest
    else
      let (token, position', rest') := next position c rest
      ⟨position, token⟩ :: lexemesFrom fuel position' rest'

/-- The tokens of a text. -/
def lexemes (cs : List Char) : List Lexeme := lexemesFrom cs.length 0 cs

end LintReport.Json
