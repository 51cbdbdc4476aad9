/-
Whole settings files.

* `Toml.read` — the table of a text under some limits, or why it is none.

Design notes: a text is a row of statements. Each gives a key its value, or is the header of a
section, which the next keys go into. A section whose path goes on from the path of another one
before it lies inside of that one. The table of a section goes into the table around it when the
section ends, so of two faults the one further inside is told. A table that does not fit into
the whole text makes the text malformed; one that does not fit into a section is told by its key.
-/
import LintReport.Toml.Literal

namespace LintReport.Toml

/-- A header was read, and what follows it is not yet at an end: the path of the header, the part
of it below the section around, whether there are two pairs of brackets, the tables of the same
list before this one, whether the list around counts the table among its own, and the fields. -/
structure Section where
  path : List String
  below : List String
  several : Bool
  before : List Fields
  counted : Bool
  fields : Fields

/-- The key of a section in the table around it. -/
def Section.key (s : Section) : String := s.below.headD ""

/-- Tables inside of each other, with a node in the innermost one. -/
def wrap (path : List String) (node : Node) : Node :=
  path.foldr (fun key node => .table .passing [(key, node)]) node

/-- What a section gives its key. -/
def Section.node (s : Section) : Node :=
  let own := if s.several then .tables (s.before ++ [s.fields]) else .table .header s.fields
  match s.below.tail with
  | [] => own
  | key :: path =>
    .table (if s.counted then .element else .passing) [(key, wrap path own)]

/-- Whether a path leads into a section. -/
def Section.leadsTo (s : Section) (path : List String) : Bool :=
  s.path.length < path.length && s.path.isPrefixOf path

/-- Whether a header continues the list that a section is in. -/
def Section.continuesAt (s : Section) (several : Bool) (path : List String) : Bool :=
  several && s.several && s.below.length = 1 && s.path = path

/-- The tables of a text so far: the fields outside of all sections that have not ended, and
these sections, the innermost first. -/
structure Progress where
  fields : Fields
  sections : List Section

/-- A fault outside of every section. -/
def outside {α : Type} (x : Except Error α) : Except Error α :=
  match x with
  | .ok a => .ok a
  | .error _ => .error .malformed

/-- Begins a section inside of the present one. -/
def Progress.enter (p : Progress) (several : Bool) (path : List String) : Progress :=
  let above := (p.sections.head?.map (·.path.length)).getD 0
  let below := path.drop above
  let counted := several && p.sections.any fun s => !s.before.isEmpty && s.path = below.take 1
  { p with sections := ⟨path, below, several, [], counted, []⟩ :: p.sections }

/-- The fields and the sections around a section, after it has ended. -/
def leave (limits : Limits) (fields : Fields) (s : Section) :
    List Section → Except Error (Fields × List Section)
  | [] => do
    check (depth limits) s.fields
    return (← outside (add (depth limits) true s.key s.node fields), [])
  | around :: rest => do
    check (depth limits) s.fields
    let fieldsAround ← attach limits s.key s.node around.fields
    return (fields, { around with fields := fieldsAround } :: rest)

/-- The tables with the sections ended that a header does not lead into, at most `fuel` of
them. -/
def turnWithin (limits : Limits) (several : Bool) (path : List String) :
    Nat → Progress → Except Error Progress
  | 0, p => .ok p
  | fuel + 1, p =>
    match p.sections with
    | [] => .ok (p.enter several path)
    | s :: rest =>
      if s.leadsTo path then .ok (p.enter several path)
      else if s.continuesAt several path then do
        check (depth limits) s.fields
        return { p with sections :=
          { s with before := s.before ++ [s.fields], fields := [] } :: rest }
      else do
        let (fields, sections) ← leave limits p.fields s rest
        turnWithin limits several path fuel ⟨fields, sections⟩

/-- The tables after a header. -/
def Progress.turn (limits : Limits) (p : Progress) (several : Bool) (path : List String) :
    Except Error Progress :=
  turnWithin limits several path (p.sections.length + 1) p

/-- The tables after a key with its value. -/
def Progress.assign (p : Progress) (path : List String) (v : Value) : Except Error Progress :=
  match p.sections with
  | [] => do return { p with fields := ← outside (Toml.assign v path p.fields) }
  | s :: rest => do
    return { p with sections := { s with fields := ← Toml.assign v path s.fields } :: rest }

/-- The fields of all sections, after they have ended, at most `fuel` of them. -/
def closeWithin (limits : Limits) : Nat → Progress → Except Error Fields
  | 0, p => .ok p.fields
  | fuel + 1, p =>
    match p.sections with
    | [] => .ok p.fields
    | s :: rest => do
      let (fields, sections) ← leave limits p.fields s rest
      closeWithin limits fuel ⟨fields, sections⟩

/-- The characters after white space and a comment that end a statement. -/
def skipTail (cs : List Char) : Except Error (List Char) :=
  match cs.dropWhile fun c => isGap c || c = '\r' with
  | '#' :: rest => skipComment rest
  | [] => .ok []
  | '\n' :: rest => .ok rest
  | _ => .error .malformed

/-- The characters after the brackets that close a header. -/
def skipClosing (several : Bool) (cs : List Char) : Except Error (List Char) :=
  match several, cs with
  | false, ']' :: rest => skipTail rest
  | true, ']' :: ']' :: rest => skipTail rest
  | _, _ => .error .malformed

/-- The tables after the statements of a text, at most `fuel` of them. A header ends sections
as soon as its path is read. -/
def readFrom (limits : Limits) : Nat → Progress → List Char → Except Error Progress
  | 0, p, _ => .ok p
  | fuel + 1, p, cs => do
    match ← skipAll cs with
    | [] => return p
    | '[' :: rest =>
      let several := rest.head? = some '['
      let (path, rest) ← readKey limits (if several then rest.tail else rest)
      let p ← p.turn limits several path
      readFrom limits fuel p (← skipClosing several rest)
    | cs =>
      let (path, rest) ← readKey limits cs
      let (v, rest) ← readValue limits (2 * cs.length) limits.settings (← skipEquals rest)
      let rest ← skipTail rest
      readFrom limits fuel (← p.assign path v) rest

/-- The table of a text. -/
def read (limits : Limits) (s : String) : Except Error LintReport.Fields := do
  let p ← readFrom limits s.length ⟨[], []⟩ s.toList
  let fields ← finish limits (← closeWithin limits p.sections.length p)
  if limits.tables < (Value.table fields).depth then throw .tooDeep
  return fields

end LintReport.Toml
