/-
Pointers into the structure of a document.

* `Pointer.parse` — the segments of a written pointer;
* `Pointer.decodeSegment` — what a written segment means.

A pointer may begin with `#`. Its segments stand between slashes; empty ones do not count.
In a segment percent escapes are decoded first, and then `~1` stands for a slash and `~0` for
a tilde.
-/
import LintReport.Text.Percent

namespace LintReport.Pointer

/-- Replaces every occurrence of a tilde and a digit by a character. -/
def replaceTilde (digit by_ : Char) : List Char → List Char
  | [] => []
  | [c] => [c]
  | c :: d :: rest =>
    if c = '~' && d = digit then by_ :: replaceTilde digit by_ rest
    else c :: replaceTilde digit by_ (d :: rest)

/-- A segment as it is meant. -/
def decodeSegment (cs : List Char) : List Char :=
  replaceTilde '0' '~' (replaceTilde '1' '/' (Text.percentDecode cs))

/-- The characters of a pointer without the mark at its beginning. -/
def body (cs : List Char) : List Char :=
  match cs with
  | '#' :: rest => rest
  | _ => cs

/-- The segments of a pointer, given as characters. -/
def parseChars (cs : List Char) : List (List Char) :=
  (((body cs).splitOn '/').filter (!·.isEmpty)).map decodeSegment

/-- The segments of a pointer. -/
def parse (pointer : String) : List String := (parseChars pointer.toList).map String.ofList

end LintReport.Pointer
