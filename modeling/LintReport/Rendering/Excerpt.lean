/-
Excerpts: the lines of a document around a span, with a marker under its columns.

* `Excerpt.rows` — the rows of an excerpt, from the lines of a document;
* `Excerpt.render` — the excerpt of a span, empty if its document cannot be read.

An excerpt shows the two lines before the first line of the span, and the span's lines, at
most five of them. Each row has the number of its line in a gutter; the row after the first
line of the span has the marker.
-/
import LintReport.Diagnostic.Resolution
import LintReport.Rendering.Palette
import LintReport.Text.Pad

namespace LintReport.Excerpt

/-- How many lines before a span are shown. -/
def linesBefore : Int := 2

/-- How many lines of a span are shown. -/
def maxLines : Int := 5

/-- The column at which a marker under a line begins: it is moved to the line if it lies
outside. -/
def markerColumn (line : String) (span : Span) : Int :=
  min (max span.start.column 1) (line.length + 1)

/-- How wide a marker under a line is: up to the end of the span or of the line. -/
def markerWidth (line : String) (span : Span) : Int :=
  match span.stop with
  | none => 1
  | some stop =>
    if stop.line = span.start.line then max (stop.column - markerColumn line span) 1
    else max (line.length - markerColumn line span + 1) 1

/-- The marker under a line, blanks and carets. -/
def marker (line : String) (span : Span) : String :=
  String.ofList (List.replicate (markerColumn line span - 1).toNat ' '
    ++ List.replicate (markerWidth line span).toNat '^')

/-- The gutter of a row: what stands for the line number, in a width. -/
def gutter (width : Nat) (number : String) : String := s!" {Text.padStart width number} |"

/-- The number of the first line that is shown. -/
def firstLine (span : Span) : Int := max 1 (span.start.line - linesBefore)

/-- The number of the last line that is shown of a document with `count` lines. -/
def lastLine (count : Nat) (span : Span) : Int :=
  let stop := span.stop.getD span.start
  min (min (max stop.line span.start.line) count) (span.start.line + maxLines - 1)

/-- The row of a line, and the row with the marker if the span starts there. -/
def rowsOf (palette : Palette) (width : Nat) (span : Span) (number : Int) (line : String) :
    List String :=
  let left := palette.muted (gutter width (toString number))
  let row := if line = "" then left else s!"{left} {line}"
  if number = span.start.line then
    let blank := palette.muted (gutter width "")
    [row, s!"{blank} {palette.marker (marker line span)}"]
  else [row]

/-- The rows of an excerpt; none if the span does not start inside of the document. -/
def rows (palette : Palette) (lines : List String) (span : Span) : List String :=
  if span.start.line < 1 || (lines.length : Int) < span.start.line then []
  else
    let first := (firstLine span).toNat
    let last := lastLine lines.length span
    let width := (toString last).length
    ((lines.take last.toNat).zipIdx 1).drop (first - 1)
      |>.flatMap fun (line, number) => rowsOf palette width span number line

/-- The line that a span starts in, if it starts inside of the document. -/
def startLine? (lines : List String) (span : Span) : Option String :=
  if span.start.line < 1 then none else lines[(span.start.line - 1).toNat]?

/-- The width of the marker, if there is no room for it. -/
def tooWide? (room : Int) (lines : List String) (span : Span) : Option Int :=
  (startLine? lines span).bind fun line =>
    if room < markerWidth line span then some (markerWidth line span) else none

/-- The note on a document without an excerpt. -/
def noteMissing (ref : String) (e : ReadError) : Logged Unit :=
  .note .debug s!"No codeframe for {ref}: {e.message}"

/-- The excerpt of a span. -/
def render (docs : Documents) (palette : Palette) (span : Span) : Attempt Fault String := do
  match ← Attempt.ofLogged (span.source.lines docs).run with
  | .ok lines =>
    match tooWide? docs.limits.marker lines span with
    | some width => throw (.tooWide width)
    | none => return "\n".intercalate (rows palette lines span)
  | .error .nullCharacter => throw .nullCharacter
  | .error e =>
    Attempt.ofLogged (noteMissing span.source.ref e)
    return ""

end LintReport.Excerpt
