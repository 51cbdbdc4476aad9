/-
Texts of documents, and the cache of those that were read.

* `Documents` — the texts of the documents on disk at one moment, and how far they are followed;
* `Source.text` — the text of a source: its own body, or else the text on disk;
* `SourceCache` — the texts read so far, at most 256, the one used last in front;
* `SourceCache.documents` — the texts that a reader with a cache gets;
* `SourceCache.replay` — the cache after the events of a computation, and those of its
  events that a reader of the journal sees: asking for a cached text leaves no trace.

Design notes: a computation on documents does not carry the cache. It is given the texts
as they are, notes which it asked for, and the cache follows from its events. A text that
cannot be read is never kept.
-/
import LintReport.Diagnostic.Location
import LintReport.Files.Tree
import LintReport.Journal
import LintReport.Limits

namespace LintReport

/-- The texts of the documents on disk, by the path they are known under, and the limits under
which they are read and shown. -/
structure Documents where
  read : String → Except ReadError String
  limits : Limits

instance : CoeFun Documents fun _ => String → Except ReadError String := ⟨Documents.read⟩

namespace Source

/-- The text of a source. -/
def text (docs : Documents) (s : Source) : Attempt ReadError String :=
  match s.body with
  | some body => pure body
  | none => do
    Attempt.ofLogged (.consult s.ref)
    Attempt.ofExcept (docs s.ref)

/-- The lines of a source. -/
def lines (docs : Documents) (s : Source) : Attempt ReadError (List String) := do
  return Text.lines (← s.text docs)

end Source

/-- Texts read from disk, by path, the one used last in front. -/
abbrev SourceCache := List (String × String)

namespace SourceCache

/-- The number of texts that are kept. -/
def capacity : Nat := 256

/-- The cached text of a path. -/
def find? (cache : SourceCache) (ref : String) : Option String := cache.lookup ref

/-- The cache with a text in front; the text used least recently goes if there are too many. -/
def touch (cache : SourceCache) (ref text : String) : SourceCache :=
  ((ref, text) :: cache.filter fun e => e.1 != ref).take capacity

/-- The text that a reader gets for a path, and the cache afterwards. -/
def read (tree : FileTree) (cache : SourceCache) (ref : String) :
    Except ReadError String × SourceCache :=
  match cache.find? ref with
  | some text => (.ok text, cache.touch ref text)
  | none =>
    match tree.readText ref with
    | .ok text => (.ok text, cache.touch ref text)
    | .error e => (.error e, cache)

/-- The texts that a reader gets at this moment. -/
def documents (tree : FileTree) (cache : SourceCache) (limits : Limits) : Documents :=
  ⟨fun ref => (cache.read tree ref).1, limits⟩

/-- The note on a text that is read from disk. -/
def readingNote (ref : String) : Event := .note .trace s!"Reading source text from {ref}"

/-- The cache after some events, and the events with notes on the texts that were read. -/
def replay (tree : FileTree) (cache : SourceCache) : List Event → SourceCache × List Event
  | [] => (cache, [])
  | .consulted ref :: rest =>
    let note := if (cache.find? ref).isSome then [] else [readingNote ref]
    let (after, shown) := replay tree (cache.read tree ref).2 rest
    (after, note ++ shown)
  | e :: rest =>
    let (after, shown) := replay tree cache rest
    (after, e :: shown)

end SourceCache

end LintReport
