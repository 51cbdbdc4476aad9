/-
Scalars of YAML texts: plain ones, quoted ones, and blocks of lines.

* `Yaml.plainScalar`, `Yaml.quotedScalar`, `Yaml.blockScalar` — the text of a scalar that
  begins at a cursor, and where it ends.

Design notes: a line break inside a scalar becomes a blank unless empty lines follow, which
then stand for the breaks. A loop that goes from line to line takes as fuel the number of
characters left, of which every round uses at least one. A character that is half a surrogate
pair is kept as none, since no text can hold it.
-/
import LintReport.Text.Percent
import LintReport.Yaml.Cursor
import LintReport.Yaml.Token

namespace LintReport.Yaml

/-- Characters of a scalar; none stands for half a surrogate pair. -/
abbrev Chars := List (Option Char)

/-- The text of the characters, if all of them are there. -/
def Chars.text? (cs : Chars) : Option String := (cs.mapM id).map String.ofList

/-- Breaks between two lines of a scalar, folded: one line feed becomes a blank, and more
lose the first. -/
def folded (first : Char) (others : List Char) : List Char :=
  if first != '\n' then first :: others
  else if others.isEmpty then [' ']
  else others

/-! ### Plain scalars -/

/-- The characters of a plain scalar up to the next blank, break or indicator. -/
def plainRun (inFlow : Bool) : List Char → List Char
  | [] => []
  | c :: rest =>
    let follows := rest.headD endChar
    let endsHere :=
      isSpacing c
        || (c = ':' && (isSpacing follows || (inFlow && ",[]\x7b\x7d".toList.contains follows)))
        || (inFlow && ",?[]\x7b\x7d".toList.contains c)
    if endsHere then [] else c :: plainRun inFlow rest

/-- The empty lines after a break inside a plain scalar, and whether they lead to the border
of a document. -/
def plainBreaks : Nat → Cursor → List Char × Cursor × Bool
  | 0, c => ([], c, false)
  | fuel + 1, c =>
    if c.peek = ' ' then plainBreaks fuel c.next
    else
      match c.lineBreak? with
      | none => ([], c, false)
      | some (x, c) =>
        if c.atBorder then ([], c, true)
        else
          let (xs, c, border) := plainBreaks fuel c
          (x :: xs, c, border)

/-- What stands between two runs of a plain scalar: its characters, empty if the scalar ends
here, the cursor, and whether it crosses a line break. -/
def plainSpaces (c : Cursor) : List Char × Cursor × Bool :=
  let (blanks, after) := c.takeWhile (· = ' ')
  match after.lineBreak? with
  | none => (blanks, after, false)
  | some (x, after) =>
    if after.atBorder then ([], after, true)
    else
      let (xs, after, border) := plainBreaks (after.rest.length + 1) after
      (if border then [] else folded x xs, after, true)

/-- What is found of a scalar: its characters, the index at which it stops, the cursor after
it, and whether a key may follow. -/
structure Found where
  chars : Chars
  stop : Nat
  cursor : Cursor
  keyMayFollow : Bool

/-- A plain scalar whose lines are indented by `indent` or more. -/
def plainFrom (inFlow : Bool) (indent : Int) : Nat → Cursor → List Char → Bool → Nat → Found
  | 0, c, _, crossed, stop => ⟨[], stop, c, crossed⟩
  | fuel + 1, c, spaces, crossed, stop =>
    let run := if c.peek = '#' then [] else plainRun inFlow c.rest
    if run.isEmpty then ⟨[], stop, c, crossed⟩
    else
      let c := c.advance run.length
      let stop := c.index
      let (between, after, crossed) := plainSpaces c
      let found :=
        if between.isEmpty || after.peek = '#' || (!inFlow && (after.column : Int) < indent) then
          ⟨[], stop, after, crossed⟩
        else plainFrom inFlow indent fuel after between crossed stop
      { found with chars := (spaces ++ run).map some ++ found.chars }

/-- The plain scalar at a cursor; `indent` is the indentation of the collection around it. -/
def plainScalar (inFlow : Bool) (indent : Int) (c : Cursor) : Found :=
  plainFrom inFlow (indent + 1) (c.rest.length + 1) c [] false c.index

/-! ### Quoted scalars -/

/-- The character of a one-letter escape. -/
def letterEscape? : Char → Option Char
  | '0' => some '\x00'
  | 'a' => some '\x07'
  | 'b' => some '\x08'
  | 't' => some '\t'
  | '\t' => some '\t'
  | 'n' => some '\n'
  | 'v' => some '\x0b'
  | 'f' => some '\x0c'
  | 'r' => some '\r'
  | 'e' => some '\x1b'
  | ' ' => some ' '
  | '"' => some '"'
  | '\\' => some '\\'
  | '/' => some '/'
  | 'N' => some '\u0085'
  | '_' => some '\u00a0'
  | 'L' => some '\u2028'
  | 'P' => some '\u2029'
  | _ => none

/-- The number of hexadecimal digits of an escape. -/
def escapeWidth? : Char → Option Nat
  | 'x' => some 2
  | 'u' => some 4
  | 'U' => some 8
  | _ => none

/-- The number of some hexadecimal digits. -/
def hexNumber? (cs : List Char) : Option Nat :=
  (cs.mapM Text.hexValue?).map fun ds => ds.foldl (fun n d => n * 16 + d) 0

/-- The character of a code point, none for half a surrogate pair. -/
def charOfCode (n : Nat) : Except Error (Option Char) :=
  if 0x10FFFF < n then .error (.codePoint n)
  else if 0xD800 ≤ n && n < 0xE000 then .ok none
  else .ok (some (Char.ofNat n))

/-- The empty lines after a break inside a quoted scalar. -/
def quotedBreaks : Nat → Cursor → Except Error (List Char × Cursor)
  | 0, c => .ok ([], c)
  | fuel + 1, c =>
    if c.atBorder then .error .malformed
    else
      let c := c.skipWhile fun x => x = ' ' || x = '\t'
      match c.lineBreak? with
      | none => .ok ([], c)
      | some (x, c) => (fun (xs, c) => (x :: xs, c)) <$> quotedBreaks fuel c

/-- The blanks or the breaks inside a quoted scalar. -/
def quotedSpaces (c : Cursor) : Except Error (List Char × Cursor) := do
  let (blanks, c) := c.takeWhile fun x => x = ' ' || x = '\t'
  if c.rest.isEmpty then throw .malformed
  match c.lineBreak? with
  | none => return (blanks, c)
  | some (x, c) =>
    let (xs, c) ← quotedBreaks (c.rest.length + 1) c
    return (folded x xs, c)

/-- An escape, read after its backslash. -/
def escaped (c : Cursor) : Except Error (Chars × Cursor) :=
  match letterEscape? c.peek with
  | some x => .ok ([some x], c.next)
  | none =>
    match escapeWidth? c.peek with
    | some width =>
      let digits := c.next.rest.take width
      match hexNumber? digits with
      | some n =>
        if digits.length < width then .error .malformed
        else (fun x => ([x], c.next.advance width)) <$> charOfCode n
      | none => .error .malformed
    | none =>
      match c.lineBreak? with
      | some (_, c) => (fun (xs, c) => (xs.map some, c)) <$> quotedBreaks (c.rest.length + 1) c
      | none => .error .malformed

/-- The characters of a quoted scalar up to the next blank, break or closing quote. -/
def quotedRun (double : Bool) : Nat → Cursor → Except Error (Chars × Cursor)
  | 0, c => .ok ([], c)
  | fuel + 1, c => do
    let (run, c) := c.takeWhile fun x => !(isSpacing x || x = '\'' || x = '"' || x = '\\')
    let x := c.peek
    let put (cs : Chars) (c : Cursor) : Except Error (Chars × Cursor) := do
      let (more, c) ← quotedRun double fuel c
      return (run.map some ++ cs ++ more, c)
    if !double && x = '\'' && c.peekAt 1 = '\'' then put [some '\''] (c.advance 2)
    else if (double && x = '\'') || (!double && (x = '"' || x = '\\')) then put [some x] c.next
    else if double && x = '\\' then
      let (cs, c) ← escaped c.next
      put cs c
    else return (run.map some, c)

/-- The rest of a quoted scalar up to its closing quote. -/
def quotedFrom (double : Bool) (mark : Char) : Nat → Cursor → Except Error (Chars × Cursor)
  | 0, _ => .error .malformed
  | fuel + 1, c => do
    let (run, c) ← quotedRun double (c.rest.length + 1) c
    if c.peek = mark then return (run, c)
    let (spaces, c) ← quotedSpaces c
    let (more, c) ← quotedFrom double mark fuel c
    return (run ++ spaces.map some ++ more, c)

/-- The quoted scalar at a cursor. -/
def quotedScalar (c : Cursor) : Except Error Found := do
  let mark := c.peek
  let (cs, c) ← quotedFrom (mark = '"') mark (c.rest.length + 1) c.next
  return ⟨cs, c.next.index, c.next, false⟩

/-! ### Block scalars -/

/-- What the header of a block scalar says about its last line breaks. -/
inductive Chomping
  | strip
  | clip
  | keep
  deriving DecidableEq, Repr

/-- The chomping indicator at a cursor. -/
def chomping? (c : Cursor) : Option (Chomping × Cursor) :=
  if c.peek = '+' then some (.keep, c.next)
  else if c.peek = '-' then some (.strip, c.next)
  else none

/-- The indentation indicator at a cursor. -/
def indentation? (c : Cursor) : Except Error (Option Nat × Cursor) :=
  if c.peek.isDigit then
    if c.peek = '0' then .error .malformed else .ok (some (c.peek.toNat - 48), c.next)
  else .ok (none, c)

/-- The indicators of a block scalar, in either order. -/
def blockHeader (c : Cursor) : Except Error (Chomping × Option Nat × Cursor) := do
  match chomping? c with
  | some (chomping, c) =>
    let (increment, c) ← indentation? c
    return (chomping, increment, c)
  | none =>
    let (increment, c) ← indentation? c
    match increment, chomping? c with
    | some n, some (chomping, c) => return (chomping, some n, c)
    | _, _ => return (.clip, increment, c)

/-- The cursor after the rest of a line that holds nothing but a comment. -/
def restOfLine (c : Cursor) : Except Error Cursor :=
  let c := c.skipBlanks.skipComment
  if endsLine c.peek then .ok c.skipBreak else .error .malformed

/-- The empty lines before a block scalar of unknown indentation: their breaks, the widest
indentation met, the index after the last break, and the cursor. -/
def blockIndentation : Nat → Cursor → Nat → Nat → List Char × Nat × Nat × Cursor
  | 0, c, widest, stop => ([], widest, stop, c)
  | fuel + 1, c, widest, stop =>
    if c.peek = ' ' then blockIndentation fuel c.next (max widest c.next.column) stop
    else
      match c.lineBreak? with
      | none => ([], widest, stop, c)
      | some (x, c) =>
        let (xs, widest, stop, c) := blockIndentation fuel c widest c.index
        (x :: xs, widest, stop, c)

/-- The cursor after at most as many blanks as lead to a column. -/
def skipToColumn (column : Nat) (c : Cursor) : Cursor :=
  c.advance (min (column - c.column) (c.rest.takeWhile (· = ' ')).length)

/-- The empty lines inside a block scalar: their breaks, the index after the last one, and the
cursor. -/
def blockBreaks (indent : Nat) : Nat → Cursor → Nat → List Char × Nat × Cursor
  | 0, c, stop => ([], stop, c)
  | fuel + 1, c, stop =>
    let c := skipToColumn indent c
    match c.lineBreak? with
    | none => ([], stop, c)
    | some (x, c) =>
      let (xs, stop, c) := blockBreaks indent fuel c c.index
      (x :: xs, stop, c)

/-- The lines of a block scalar from a cursor on, after the given empty lines. -/
def blockLines (fold : Bool) (chomping : Chomping) (indent : Nat) :
    Nat → Cursor → List Char → Nat → List Char × Nat × Cursor
  | 0, c, _, stop => ([], stop, c)
  | fuel + 1, c, breaks, stop =>
    if c.column != indent || c.rest.isEmpty then
      -- no line at all: the empty lines are all there is
      (if chomping = .keep then breaks else [], stop, c)
    else
      let begun := !(c.peek = ' ' || c.peek = '\t')
      let (line, c) := c.takeWhile (!endsLine ·)
      let last := (c.lineBreak?.map (·.1)).toList
      let c := c.skipBreak
      let (after, stop, c) := blockBreaks indent (c.rest.length + 1) c c.index
      if c.column = indent && !c.rest.isEmpty then
        let between :=
          if fold && last = ['\n'] && begun && !(c.peek = ' ' || c.peek = '\t') then
            if after.isEmpty then [' '] else []
          else last
        let (more, stop, c) := blockLines fold chomping indent fuel c after stop
        (breaks ++ line ++ between ++ more, stop, c)
      else
        let tail :=
          (if chomping = .strip then [] else last) ++ if chomping = .keep then after else []
        (breaks ++ line ++ tail, stop, c)

/-- The block scalar at a cursor; `indent` is the indentation of the collection around it. -/
def blockScalar (indent : Int) (c : Cursor) : Except Error Found := do
  let fold := c.peek = '>'
  let (chomping, increment, c) ← blockHeader c.next
  if !endsWord c.peek then throw .malformed
  let c ← restOfLine c
  let least := max 1 (indent + 1).toNat
  let (breaks, indent, stop, c) := match increment with
    | none =>
      let (breaks, widest, stop, c) := blockIndentation (c.rest.length + 1) c 0 c.index
      (breaks, max least widest, stop, c)
    | some n =>
      let indent := least + n - 1
      let (breaks, stop, c) := blockBreaks indent (c.rest.length + 1) c c.index
      (breaks, indent, stop, c)
  let (cs, stop, c) := blockLines fold chomping indent (c.rest.length + 1) c breaks stop
  return ⟨cs.map some, stop, c, true⟩

end LintReport.Yaml
