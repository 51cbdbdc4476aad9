/-
Styled text for terminals.

* `Style` — colors and other attributes of a text;
* `Color.ofValue?` — the color that a value names;
* `Style.apply` — the text with the control sequences that turn the attributes on, and the
  one that turns them all off after it;
* `stripEscapes` — a text without control sequences.

Design notes: a control sequence is an escape character and a bracket, then any number of
parameter characters, any number of intermediate ones, and a final one. Stripping is one pass
from the left, so what a removed sequence leaves side by side is not looked at again.
-/
import LintReport.Value.Basic

namespace LintReport.Terminal

/-- The eight hues of a terminal. -/
inductive Hue
  | black
  | red
  | green
  | yellow
  | blue
  | magenta
  | cyan
  | white
  deriving DecidableEq, Repr, Inhabited

/-- A color: a hue, bright or not, the terminal's own color, or one by its number or by its
three parts. -/
inductive Color
  | plain (h : Hue)
  | bright (h : Hue)
  | standard
  | indexed (n : UInt8)
  | mixed (red green blue : UInt8)
  deriving DecidableEq, Repr, Inhabited

/-- The place of a hue in the order of the terminal. -/
def Hue.index : Hue → Nat
  | .black => 0
  | .red => 1
  | .green => 2
  | .yellow => 3
  | .blue => 4
  | .magenta => 5
  | .cyan => 6
  | .white => 7

/-- The code of a color: `offset` is 0 for the letters and 10 for the ground. -/
def Color.code (offset : Nat) : Color → String
  | .plain h => toString (30 + h.index + offset)
  | .bright h => toString (90 + h.index + offset)
  | .standard => toString (39 + offset)
  | .indexed n => s!"{38 + offset};5;{n}"
  | .mixed r g b => s!"{38 + offset};2;{r};{g};{b}"

/-- The hues by name. -/
def Hue.names : List (String × Hue) := [
  ("black", .black), ("red", .red), ("green", .green), ("yellow", .yellow), ("blue", .blue),
  ("magenta", .magenta), ("cyan", .cyan), ("white", .white)]

/-- The colors by name. -/
def Color.names : List (String × Color) :=
  Hue.names.map (fun (n, h) => (n, .plain h))
    ++ Hue.names.map (fun (n, h) => ("bright_" ++ n, .bright h)) ++ [("reset", .standard)]

/-- The color of a name. -/
def Color.ofName? (name : String) : Option Color := Color.names.lookup name

/-- The byte that a value is. -/
def byteOf? : Value → Option UInt8
  | .int n => if 0 ≤ n && n < 256 then some (UInt8.ofNat n.toNat) else none
  | _ => none

/-- The color that a value names, by its name, its number or its three parts. -/
def Color.ofValue? : Value → Option Color
  | .text name => Color.ofName? name
  | .list [r, g, b] => do return .mixed (← byteOf? r) (← byteOf? g) (← byteOf? b)
  | v => (byteOf? v).map .indexed

/-- Attributes of a text. One that is given as false is turned off. -/
structure Style where
  letters : Option Color := none
  ground : Option Color := none
  bold : Option Bool := none
  dim : Option Bool := none
  underline : Option Bool := none
  overline : Option Bool := none
  italic : Option Bool := none
  blink : Option Bool := none
  reverse : Option Bool := none
  strike : Option Bool := none
  reset : Bool := true
  deriving DecidableEq, Repr, Inhabited

/-- The control sequence of a code. -/
def sequence (code : String) : String := s!"\x1b[{code}m"

/-- The code that turns an attribute on, or off. -/
def switch (state : Option Bool) (on off : String) : List String :=
  match state with
  | none => []
  | some true => [on]
  | some false => [off]

namespace Style

/-- The codes of a style, in the order in which they are written. -/
def codes (s : Style) : List String :=
  (s.letters.map (Color.code 0)).toList ++ (s.ground.map (Color.code 10)).toList
    ++ switch s.bold "1" "22" ++ switch s.dim "2" "22" ++ switch s.underline "4" "24"
    ++ switch s.overline "53" "55" ++ switch s.italic "3" "23" ++ switch s.blink "5" "25"
    ++ switch s.reverse "7" "27" ++ switch s.strike "9" "29"

/-- The text in a style. -/
def apply (s : Style) (text : String) : String :=
  String.join (s.codes.map sequence) ++ text ++ if s.reset then sequence "0" else ""

/-- The style that only colors the letters. -/
def lettersIn (c : Color) : Style := { letters := some c }

/-- The style that only colors the ground. -/
def onGround (c : Color) : Style := { ground := some c }

end Style

/-! ### Stripping -/

/-- Characters that may follow the bracket of a control sequence. -/
def isParameter (c : Char) : Bool := '0' ≤ c && c ≤ '?'

/-- Characters that may follow the parameters of a control sequence. -/
def isIntermediate (c : Char) : Bool := ' ' ≤ c && c ≤ '/'

/-- Characters that end a control sequence. -/
def isFinal (c : Char) : Bool := '@' ≤ c && c ≤ '~'

/-- The length of the control sequence at the beginning of a text. -/
def escapeLength? : List Char → Option Nat
  | '\x1b' :: '[' :: rest =>
    let parameters := (rest.takeWhile isParameter).length
    let intermediates := ((rest.drop parameters).takeWhile isIntermediate).length
    match rest.drop (parameters + intermediates) with
    | c :: _ => if isFinal c then some (parameters + intermediates + 3) else none
    | [] => none
  | _ => none

/-- The characters outside of control sequences, after `skip` more of the present one. -/
def stripAfter (skip : Nat) : List Char → List Char
  | [] => []
  | c :: rest =>
    match skip with
    | k + 1 => stripAfter k rest
    | 0 =>
      match escapeLength? (c :: rest) with
      | some n => stripAfter (n - 1) rest
      | none => c :: stripAfter 0 rest

/-- The characters outside of control sequences. -/
def stripChars (cs : List Char) : List Char := stripAfter 0 cs

/-- The text without control sequences. -/
def stripEscapes (s : String) : String := String.ofList (stripChars s.toList)

end LintReport.Terminal
