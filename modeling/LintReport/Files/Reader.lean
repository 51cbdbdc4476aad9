/-
Readers of documents, over a whole session.

* `Reader` — the files as they are at one moment, and the texts that were kept;
* `Reader.answer`, `Reader.keeps` — what a reader gets for a source, and whether a path is asked
  of the kept texts;
* `Reader.Step`, `Reader.next`, `Reader.after` — what happens in a session, and the reader after it;
* `Reader.lookups` — the texts asked for by path since the texts were last forgotten.

Design notes: a session is a list of steps with the latest one in front, so that what came before
a step is the rest of the list.
-/
import LintReport.Files.Documents

namespace LintReport

namespace FileTree

/-- The tree with something at the end of some names, in the place of what was there. -/
def put (t : FileTree) (names : List String) (e : Entry) : FileTree :=
  { t with entries := (names, e) :: t.entries.filter (·.1 != names) }

/-- The tree with nothing at the end of some names. -/
def remove (t : FileTree) (names : List String) : FileTree :=
  { t with entries := t.entries.filter (·.1 != names) }

end FileTree

/-- The files as they are at one moment, the texts that were kept, and the limits of the reader. -/
structure Reader where
  tree : FileTree
  cache : SourceCache
  limits : Limits
  deriving Repr, Inhabited

namespace Reader

/-- A reader that has kept nothing. -/
def fresh (tree : FileTree) : Reader := ⟨tree, [], .usual⟩

/-- The texts that the reader gets for paths. -/
def documents (r : Reader) : Documents := r.cache.documents r.tree r.limits

/-- What the reader gets for a source. -/
def answer (r : Reader) (s : Source) : Except ReadError String := (s.text r.documents).outcome

/-- Whether the text of a path was kept, so that the file is not read. -/
def keeps (r : Reader) (ref : String) : Bool := (r.cache.find? ref).isSome

/-- What happens in a session. -/
inductive Step
  /-- The files change. -/
  | change (f : FileTree → FileTree)
  /-- All texts are forgotten. -/
  | clear
  | read (s : Source)

namespace Step

/-- A file is written. -/
def write (names : List String) (bytes : List UInt8) : Step := .change (·.put names (.file bytes))

/-- A file is deleted. -/
def delete (names : List String) : Step := .change (·.remove names)

/-- Whether all texts are forgotten. -/
def isClear : Step → Bool
  | .clear => true
  | _ => false

end Step

/-- The reader after a step. -/
def next (r : Reader) : Step → Reader
  | .change f => { r with tree := f r.tree }
  | .clear => { r with cache := [] }
  | .read s => { r with cache := (r.cache.replay r.tree (s.text r.documents).run.events).1 }

/-- The reader after a session, whose latest step comes first. -/
def after (tree : FileTree) : List Step → Reader
  | [] => fresh tree
  | step :: past => (after tree past).next step

/-- The steps since the texts were last forgotten. -/
def sinceClear (past : List Step) : List Step := past.takeWhile (!·.isClear)

/-- A text that was asked for by its path: among which files, whether it was kept, and what the
reader got. -/
structure Lookup where
  ref : String
  tree : FileTree
  kept : Bool
  answer : Except ReadError String

/-- The texts asked for by path since the texts were last forgotten, the latest first. -/
def lookups (tree : FileTree) : List Step → List Lookup
  | [] => []
  | .change _ :: past => lookups tree past
  | .clear :: _ => []
  | .read s :: past =>
    match s.body with
    | some _ => lookups tree past
    | none =>
      let r := after tree past
      ⟨s.ref, r.tree, r.keeps s.ref, r.answer s⟩ :: lookups tree past

/-- The paths whose texts were got, the latest first. -/
def readRefs (ls : List Lookup) : List String := ls.filterMap fun l =>
  match l.answer with
  | .ok _ => some l.ref
  | .error _ => none

/-! ### One read -/

variable {r : Reader} {s : Source}

theorem text_of_body {body : String} (h : s.body = some body) (docs : Documents) :
    s.text docs = pure body := by
  rw [Source.text, h]

theorem answer_of_body {body : String} (h : s.body = some body) : r.answer s = .ok body := by
  rw [answer, text_of_body h, Attempt.outcome_pure]

theorem next_read_of_body {body : String} (h : s.body = some body) : r.next (.read s) = r := by
  rw [next, text_of_body h]
  rfl

theorem answer_of_ref (h : s.body = none) : r.answer s = (r.cache.read r.tree s.ref).1 := by
  rw [answer, Source.text, h]
  rfl

theorem next_read_of_ref (h : s.body = none) :
    r.next (.read s) = { r with cache := (r.cache.read r.tree s.ref).2 } := by
  have hevents : (s.text r.documents).run.events = [.consulted s.ref] := by
    rw [Source.text, h]
    cases r.documents.read s.ref with
    | ok text => rfl
    | error e => rfl
  rw [next, hevents]
  rfl

end Reader

end LintReport
