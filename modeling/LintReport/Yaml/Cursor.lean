/-
Places in a YAML text.

* `Yaml.Cursor` — what is left of a text, with the index, the line and the column of its first
  character, all counted from zero;
* `Cursor.advance` — the cursor some characters further on, which also gives the line and the
  column of an index.

Design notes: a line ends with a line feed, a carriage return that no line feed follows, the
next-line character or one of the two Unicode separators. The byte-order mark takes no column.
Past the end of the text a cursor sees the null character, which no YAML text may hold.
-/

namespace LintReport.Yaml

/-- What stands past the end of the text. -/
def endChar : Char := '\x00'

/-- Characters that break a line. -/
def isBreak (c : Char) : Bool :=
  c = '\n' || c = '\r' || c = '\u0085' || c = '\u2028' || c = '\u2029'

/-- A line break, or the end of the text. -/
def endsLine (c : Char) : Bool := c = endChar || isBreak c

/-- A blank, a line break, or the end of the text. -/
def endsWord (c : Char) : Bool := c = ' ' || endsLine c

/-- A blank, a tab, a line break, or the end of the text. -/
def isSpacing (c : Char) : Bool := c = '\t' || endsWord c

/-- What is left of a text, and where it begins. -/
structure Cursor where
  rest : List Char
  index : Nat
  line : Nat
  column : Nat
  deriving Repr, Inhabited

namespace Cursor

/-- The beginning of a text. -/
def start (cs : List Char) : Cursor := ⟨cs, 0, 0, 0⟩

/-- The next character. -/
def peek (c : Cursor) : Char := c.rest.headD endChar

/-- The character `k` places after the next one. -/
def peekAt (c : Cursor) (k : Nat) : Char := c.rest.getD k endChar

/-- The cursor after the next character. -/
def next (c : Cursor) : Cursor :=
  match c.rest with
  | [] => c
  | x :: rest =>
    let follows := rest.headD endChar
    if isBreak x && (x != '\r' || follows != '\n') then
      ⟨rest, c.index + 1, c.line + 1, 0⟩
    else ⟨rest, c.index + 1, c.line, if x = '\ufeff' then c.column else c.column + 1⟩

/-- The cursor after `n` more characters. -/
def advance : Nat → Cursor → Cursor
  | 0, c => c
  | n + 1, c => advance n c.next

/-- The cursor after the characters with a property. -/
def skipWhile (p : Char → Bool) (c : Cursor) : Cursor := c.advance (c.rest.takeWhile p).length

/-- The characters with a property, and the cursor after them. -/
def takeWhile (p : Char → Bool) (c : Cursor) : List Char × Cursor :=
  let taken := c.rest.takeWhile p
  (taken, c.advance taken.length)

/-- The cursor after the blanks. -/
def skipBlanks (c : Cursor) : Cursor := c.skipWhile (· = ' ')

/-- The cursor after a line break, with the character it stands for: the Unicode separators
stand for themselves and any other break for a line feed. -/
def lineBreak? (c : Cursor) : Option (Char × Cursor) :=
  match c.rest with
  | '\r' :: '\n' :: _ => some ('\n', c.advance 2)
  | x :: _ =>
    if x = '\u2028' || x = '\u2029' then some (x, c.next)
    else if isBreak x then some ('\n', c.next)
    else none
  | [] => none

/-- The cursor after a line break, if there is one. -/
def skipBreak (c : Cursor) : Cursor := (c.lineBreak?.map (·.2)).getD c

/-- Three hyphens or three dots, as at the border of two documents. -/
def atMarker (mark : Char) (c : Cursor) : Bool :=
  c.peek = mark && c.peekAt 1 = mark && c.peekAt 2 = mark && isSpacing (c.peekAt 3)

/-- The border of a document. -/
def atBorder (c : Cursor) : Bool := c.atMarker '-' || c.atMarker '.'

/-- The cursor after a comment, if there is one. -/
def skipComment (c : Cursor) : Cursor :=
  if c.peek = '#' then c.skipWhile (!endsLine ·) else c

end Cursor

end LintReport.Yaml
