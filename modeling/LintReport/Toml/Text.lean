/-
Texts of a settings file.

* `Toml.readText` — the text after an opening quotation mark, and what follows it.

Design notes: between double quotes a backslash begins an escape, between single quotes
nothing does. Three quotes open a text of several lines; a line break right after them does not
count, and a backslash before a line break takes out all white space up to the next character.
Up to two quotes may stand before the three that close such a text.
-/
import LintReport.Text.Percent

namespace LintReport.Toml

/-- White space on one line. -/
def isGap (c : Char) : Bool := c = ' ' || c = '\t'

/-- White space, line breaks included. -/
def isSpacing (c : Char) : Bool := isGap c || c = '\n' || c = '\r'

/-- A character that may stand in no text and in no comment. -/
def isControl (c : Char) : Bool := (c.toNat < 32 && c != '\t') || c.toNat = 127

/-- The character of an escape of one letter. -/
def letterEscape? : Char → Option Char
  | 'b' => some '\x08'
  | 'e' => some '\x1b'
  | 't' => some '\t'
  | 'n' => some '\n'
  | 'f' => some '\x0c'
  | 'r' => some '\r'
  | '"' => some '"'
  | '\\' => some '\\'
  | _ => none

/-- The character of a code point written with hexadecimal digits. -/
def codePoint? (ds : List Char) : Option Char := do
  let n ← ds.foldlM (fun n c => (Text.hexValue? c).map (n * 16 + ·)) 0
  if n.isValidChar then some (Char.ofNat n) else none

/-- The number of hexadecimal digits of an escape. -/
def escapeWidth? : Char → Option Nat
  | 'x' => some 2
  | 'u' => some 4
  | 'U' => some 8
  | _ => none

/-- What an escape stands for, given the characters after its backslash, and how many of them
belong to it. -/
def escape? (severalLines : Bool) (cs : List Char) : Option (List Char × Nat) :=
  match cs with
  | [] => none
  | c :: rest =>
    if severalLines && isSpacing c then
      let gap := cs.takeWhile isSpacing
      if gap.contains '\n' then some ([], gap.length) else none
    else
      match escapeWidth? c with
      | some width =>
        if rest.length < width then none
        else (codePoint? (rest.take width)).map fun x => ([x], width + 1)
      | none => (letterEscape? c).map fun x => ([x], 1)

/-- The rest of a text of one line, and what follows its closing quote. -/
def readLine (quote : Char) (cs : List Char) : Option (List Char × List Char) :=
  match cs with
  | [] => none
  | c :: rest =>
    if c = quote then some ([], rest)
    else if c = '\\' && quote = '"' then
      match escape? false rest with
      | none => none
      | some (xs, length) =>
        (readLine quote (rest.drop length)).map fun (text, after) => (xs ++ text, after)
    else if isControl c then none
    else (readLine quote rest).map fun (text, after) => (c :: text, after)
termination_by cs.length
decreasing_by all_goals simp only [List.length_cons, List.length_drop]; omega

/-- The rest of a text of several lines, and what follows its closing quotes. -/
def readLines (quote : Char) (cs : List Char) : Option (List Char × List Char) :=
  match cs with
  | [] => none
  | c :: rest =>
    if c = quote then
      let more := (rest.takeWhile (· = quote)).length
      if more < 2 then
        (readLines quote (rest.drop more)).map fun (text, after) =>
          (List.replicate (more + 1) quote ++ text, after)
      else if more < 5 then some (List.replicate (more - 2) quote, rest.drop more)
      else none
    else if c = '\\' && quote = '"' then
      match escape? true rest with
      | none => none
      | some (xs, length) =>
        (readLines quote (rest.drop length)).map fun (text, after) => (xs ++ text, after)
    else if isControl c && c != '\n' && c != '\r' then none
    else (readLines quote rest).map fun (text, after) => (c :: text, after)
termination_by cs.length
decreasing_by all_goals simp only [List.length_cons, List.length_drop]; omega

/-- Whether two more quotes follow an opening one. -/
def opensLines (quote : Char) (cs : List Char) : Bool := [quote, quote].isPrefixOf cs

/-- The characters after a line break at the beginning. -/
def withoutBreak : List Char → List Char
  | '\n' :: rest => rest
  | '\r' :: '\n' :: rest => rest
  | cs => cs

/-- The text after an opening quote, and what follows it. -/
def readText (quote : Char) (cs : List Char) : Option (String × List Char) :=
  let read :=
    if opensLines quote cs then readLines quote (withoutBreak (cs.drop 2)) else readLine quote cs
  read.map fun (text, after) => (String.ofList text, after)

end LintReport.Toml
