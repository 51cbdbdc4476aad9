/-
The layout with a block for each message.

* `didYouMean` — the suggestions of a message;
* `Span.shownFrom` — the path of a span from a directory, with its position;
* `Codeframe.block` — the block of a message: a numbered header, the text, the suggestions, the
  excerpt, where the document is referred from, and the rule.
-/
import LintReport.Diagnostic.Message
import LintReport.Files.Path
import LintReport.Rendering.Excerpt

namespace LintReport

/-- How many suggestions are shown. -/
def maxSuggestions : Nat := 5

/-- The suggestions of a message: nothing, one in the line, or a list. -/
def didYouMean : List String → String
  | [] => ""
  | [s] => s!"Did you mean: {s} ?\n\n"
  | suggestions =>
    "Did you mean:\n  - " ++ "\n  - ".intercalate (suggestions.take maxSuggestions) ++ "\n\n"

/-- The path of a file from a directory; the file itself if there is none. -/
def Viewpoint.shownPath (view : Viewpoint) (file : String) : Logged String :=
  match Path.relative? view.here view.directory file with
  | some path => pure path
  | none => do
    Logged.note .debug s!"No relative path from {view.directory} to {file}"
    return file

/-- The path of a span from a directory, with its position, which must be one that can be
written. -/
def Span.shownFrom (view : Viewpoint) (s : Span) : Attempt Fault String := do
  let path ← Attempt.ofLogged (view.shownPath s.source.ref)
  let position ← (Attempt.ofExcept s.position?).adapt Fault.numeral
  return s!"{path}:{position}"

namespace Codeframe

/-- The note on where a document is referred from. -/
def referredFrom (docs : Documents) (palette : Palette) (view : Viewpoint) :
    Option Location → Attempt Fault String
  | none => pure ""
  | some origin => do
    let span ← origin.resolve docs
    let place ← span.shownFrom view
    return s!"referenced from {palette.accent place}\n\n"

/-- The header of a block. -/
def header (palette : Palette) (m : Message) (index : Int) (place : String) (span : Span) :
    String :=
  let pointer := match span.pointer with
    | none => ""
    | some p => if p = "" then "" else palette.muted s!"at {p}"
  s!"[{index + 1}] {palette.severityGround m.severity place} {pointer}\n\n"

/-- The last line of a block. -/
def footer (palette : Palette) (m : Message) : String :=
  s!"{m.severity.label} was generated by the {palette.accent m.rule} rule.\n\n"

/-- The block of a message, which has the given index in the listing. -/
def block (docs : Documents) (palette : Palette) (view : Viewpoint) (index : Int) (m : Message) :
    Attempt Fault String := do
  let span ← m.primary.resolve docs
  let place ← span.shownFrom view
  if !Text.Numeral.isWritable (index + 1) then throw (.numeral .unwritable)
  let excerpt ← Excerpt.render docs palette span
  let origin ← referredFrom docs palette view m.origin
  return header palette m index place span ++ s!"{m.text}\n\n" ++ didYouMean m.suggestions
    ++ excerpt ++ "\n\n" ++ origin ++ footer palette m

/-- The blocks of messages, the first of which has the given index. -/
def blocksFrom (docs : Documents) (palette : Palette) (view : Viewpoint) (index : Nat) :
    List Message → Attempt Fault (List String)
  | [] => pure []
  | m :: rest => do
    let first ← block docs palette view index m
    return first :: (← blocksFrom docs palette view (index + 1) rest)

/-- The blocks of messages. -/
def render (docs : Documents) (palette : Palette) (view : Viewpoint) (msgs : List Message) :
    Attempt Fault (List String) :=
  blocksFrom docs palette view 0 msgs

end Codeframe

end LintReport
