/-
Paths of files, with a slash between their names.

* `Path` — a root mark and names, without empty and one-dot names; two-dot names stay;
* `Path.collapse` — names without two-dot names, for a path that starts at the root;
* `Path.normal` — the lexical normal form of an absolute path;
* `Path.relative?` — how a path is written from a directory;
* `Viewpoint` — the directory that paths are shown from.

Design notes: nothing here looks at a file. A path that begins with exactly two slashes
keeps both when it is normalised; a path relative to a directory compares names only.
-/

namespace LintReport

/-- A path: the slashes it starts with, none for a relative path, and its names. -/
structure Path where
  root : String
  names : List String
  deriving DecidableEq, Repr, Inhabited

namespace Path

/-- Whether a written path starts at the root. -/
def isAbsolute (s : String) : Bool := s.toList.head? == some '/'

/-- What stands between the slashes of a written path. -/
def segments (s : String) : List String := (s.toList.splitOn '/').map String.ofList

/-- Segments that name something. -/
def named (names : List String) : List String := names.filter fun n => n != "" && n != "."

/-- The root mark: exactly two slashes are kept, any other number counts as one. -/
def rootMark (s : String) : String :=
  match s.toList with
  | '/' :: '/' :: '/' :: _ => "/"
  | '/' :: '/' :: _ => "//"
  | '/' :: _ => "/"
  | _ => ""

/-- The path that a text writes. -/
def ofString (s : String) : Path := ⟨rootMark s, named (segments s)⟩

/-- The names with slashes between them. -/
def joined (names : List String) : String := "/".intercalate names

/-- The text of a path; a dot stands for the empty one. -/
def toString (p : Path) : String :=
  if p.root = "" && p.names.isEmpty then "." else p.root ++ joined p.names

/-- The path of a name, or of several, below a path; an absolute text stands for itself. -/
def below (p : Path) (s : String) : Path :=
  if isAbsolute s then ofString s else ⟨p.root, p.names ++ named (segments s)⟩

/-- The last name, empty at the root. -/
def name (p : Path) : String := p.names.getLastD ""

/-- The directory that holds the last name. -/
def parent (p : Path) : Path := ⟨p.root, p.names.dropLast⟩

/-- The paths of names, given last first, and of all that remains when the last ones go. -/
def withAncestors (root : String) : List String → List Path
  | [] => [⟨root, []⟩]
  | n :: rest => ⟨root, (n :: rest).reverse⟩ :: withAncestors root rest

/-- The path and the directories above it, up to the root. -/
def selfAndAncestors (p : Path) : List Path := withAncestors p.root p.names.reverse

/-- The names left after each two-dot name has removed the name before it; `kept` holds the
names so far, last first. At the root a two-dot name removes nothing. -/
def collapseAfter (kept : List String) : List String → List String
  | [] => kept.reverse
  | n :: rest =>
    if n = ".." then collapseAfter kept.tail rest else collapseAfter (n :: kept) rest

/-- The names of a path from the root, without two-dot names. -/
def collapse (names : List String) : List String := collapseAfter [] names

/-- The names of the normal form of an absolute written path. -/
def normalNames (s : String) : List String := collapse (named (segments s))

/-- A written path made absolute from a directory. -/
def absolute (directory s : String) : String :=
  if isAbsolute s then s
  else if directory.toList.getLast? = some '/' then directory ++ s
  else directory ++ "/" ++ s

/-- The lexical normal form of an absolute written path. -/
def normal (s : String) : String := rootMark s ++ joined (normalNames s)

/-- The normal form of an absolute path with a single slash at its beginning. -/
def resolved (p : Path) : String := "/" ++ joined (collapse p.names)

/-- The names that two lists share from the left. -/
def commonNames : List String → List String → List String
  | a :: as, b :: bs => if a = b then a :: commonNames as bs else []
  | _, _ => []

/-- The way from one list of names to another: up to the names they share, then down. -/
def stepsBetween (origin goal : List String) : List String :=
  let shared := (commonNames origin goal).length
  List.replicate (origin.length - shared) ".." ++ goal.drop shared

/-- How `file` is written from the directory `origin`, both made absolute from `here`; none
for the empty text. -/
def relative? (here origin file : String) : Option String :=
  if file = "" then none
  else
    match stepsBetween (normalNames (absolute here origin)) (normalNames (absolute here file)) with
    | [] => some "."
    | steps => some (joined steps)

end Path

/-- The directory that paths are shown from; a relative one starts from `here`. -/
structure Viewpoint where
  here : String
  directory : String
  deriving DecidableEq, Repr, Inhabited

end LintReport
