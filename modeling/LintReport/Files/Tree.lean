/-
Trees of files, as a program finds them.

* `FileTree` — the files below a root, and the directory that relative paths start from;
* `FileTree.entry` — what a path leads to, or why it leads nowhere;
* `FileTree.readText` — the text of a file: UTF-8, with every carriage return that is alone
  or before a line feed read as a line feed;
* `ReadError.message` — the wording of a failure.

Design notes: a path is followed name by name from the root, so `missing/../a` is not found
although its normal form is; a name may have 255 bytes and a path 4095. A tree lists its
files and its directories, and every directory on the way to one of them is there as well.
-/
import LintReport.Files.Path
import LintReport.Text.Lines
import LintReport.Text.Quoted
import LintReport.Text.Utf8

namespace LintReport

/-- What stands at a path: a file with its bytes, one that may not be read, or a directory. -/
inductive Entry
  | file (bytes : List UInt8)
  | locked
  | directory
  deriving DecidableEq, Repr, Inhabited

/-- Why the file system refuses a path. -/
inductive FileError
  | notFound
  | denied
  | notDirectory
  | isDirectory
  | nameTooLong
  deriving DecidableEq, Repr

/-- The number of a refusal. -/
def FileError.code : FileError → Nat
  | .notFound => 2
  | .denied => 13
  | .notDirectory => 20
  | .isDirectory => 21
  | .nameTooLong => 36

/-- The meaning of a refusal. -/
def FileError.meaning : FileError → String
  | .notFound => "No such file or directory"
  | .denied => "Permission denied"
  | .notDirectory => "Not a directory"
  | .isDirectory => "Is a directory"
  | .nameTooLong => "File name too long"

/-- The wording of a refusal of a path. -/
def FileError.message (e : FileError) (path : String) : String :=
  s!"[Errno {e.code}] {e.meaning}: {Text.quote path}"

/-- Why a text cannot be read from a path. -/
inductive ReadError
  | refused (e : FileError) (path : String)
  | undecodable (e : Text.Utf8.Error)
  /-- The path holds a null character, which no path may. -/
  | nullCharacter
  deriving DecidableEq, Repr

/-- The wording of a failure to read. -/
def ReadError.message : ReadError → String
  | .refused e path => e.message path
  | .undecodable e => e.message
  | .nullCharacter => "embedded null byte"

/-- The files and directories, by the names that lead to them from the root. -/
structure FileTree where
  /-- The directory that relative paths start from, an absolute path. -/
  here : String
  entries : List (List String × Entry)
  deriving Repr, Inhabited

namespace FileTree

/-- What stands at the end of a list of names from the root. -/
def at? (t : FileTree) (names : List String) : Option Entry :=
  match t.entries.find? fun (path, _) => path == names with
  | some (_, e) => some e
  | none =>
    if names.isEmpty || t.entries.any fun (path, _) => names.isPrefixOf path then some .directory
    else none

/-- Follows segments from a place; `place` holds its names, last first. -/
def follow (t : FileTree) (place : List String) (here : Entry) :
    List String → Except FileError Entry
  | [] => .ok here
  | n :: rest =>
    if here != .directory then .error .notDirectory
    else if n = "" || n = "." then follow t place here rest
    else if n = ".." then follow t place.tail .directory rest
    else if 255 < n.utf8ByteSize then .error .nameTooLong
    else
      match t.at? (n :: place).reverse with
      | some e => follow t (n :: place) e rest
      | none => .error .notFound

/-- The longest path that is looked at, in bytes. -/
def maxPathBytes : Nat := 4095

/-- What a written path leads to. -/
def entry (t : FileTree) (path : String) : Except FileError Entry :=
  if path = "" then .error .notFound
  else if maxPathBytes < path.utf8ByteSize then .error .nameTooLong
  else t.follow [] .directory (Path.segments (Path.absolute t.here path))

/-- Whether a path holds a character that no path may hold. -/
def hasNull (path : String) : Bool := path.toList.contains '\x00'

/-- Whether a path leads to a file. A path that leads nowhere does not; a path too long to be
looked at is an error. -/
def isFile (t : FileTree) (path : String) : Except FileError Bool :=
  if hasNull path then .ok false
  else
    match t.entry path with
    | .ok e => .ok (e != .directory)
    | .error .nameTooLong => .error .nameTooLong
    | .error .denied => .error .denied
    | .error _ => .ok false

/-- The bytes of a file. -/
def readBytes (t : FileTree) (path : String) : Except ReadError (List UInt8) :=
  if hasNull path then .error .nullCharacter
  else
    match t.entry path with
    | .ok (.file bytes) => .ok bytes
    | .ok .locked => .error (.refused .denied path)
    | .ok .directory => .error (.refused .isDirectory path)
    | .error e => .error (.refused e path)

/-- The text of bytes as it is read from a file. -/
def textOfBytes (bytes : List UInt8) : Except ReadError String :=
  match Text.Utf8.decode bytes with
  | .ok cs => .ok (String.ofList (Text.unifyBreaks cs))
  | .error e => .error (.undecodable e)

/-- The text of the file at a written path, which is first put into the form of a `Path`. -/
def readText (t : FileTree) (path : String) : Except ReadError String := do
  textOfBytes (← t.readBytes (Path.ofString path).toString)

end FileTree

end LintReport
