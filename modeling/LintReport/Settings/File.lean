/-
Settings files: where they are found and how they are read.

* `SettingsFile.read` — the table of a file, empty if the file cannot be used;
* `SettingsFile.table?` — the part of a table that is about the formatter;
* `SettingsFile.discover` — the file that applies to a directory: the first one on the way up;
* `Settings.load` — the settings of a file and of the environment.

Design notes: a file of its own is used whole and wins over the project file beside it, which
is used if its table about the formatter holds anything. Trouble with a file is noted, and the
file then gives nothing. Some trouble is not foreseen and stops everything: bytes that are no
UTF-8, a path that cannot be looked at, a key that comes twice below a header, tables that are
nested too deeply once they are put together, and a refused value that cannot be told. A file whose
own text nests deeper than the reader goes is malformed; that a reader gives up for any other
reason, as where there is no room left for it, is not considered.
-/
import LintReport.Files.Tree
import LintReport.Journal
import LintReport.Settings.Basic
import LintReport.Toml.Document

namespace LintReport

namespace SettingsFile

/-- Trouble that stops everything. -/
inductive Fault
  | undecodable (e : Text.Utf8.Error)
  | nullCharacter
  | refused (e : FileError) (path : String)
  | repeatedKey (key : String)
  | redefined
  /-- The tables are nested too deeply to be handed on. -/
  | tooDeep
  | unprintable (e : Value.PrintError)
  deriving DecidableEq, Repr

/-- The wording of trouble. -/
def Fault.message : Fault → String
  | .undecodable e => e.message
  | .nullCharacter => ReadError.nullCharacter.message
  | .refused e path => e.message path
  | .repeatedKey key => s!"Key \"{key}\" already exists."
  | .redefined => "Redefinition of an existing table"
  | .tooDeep => "maximum recursion depth exceeded"
  | .unprintable e => e.message

/-- The note on a file that cannot be read. -/
def noteUnreadable (path : Path) (reason : String) : Logged Unit :=
  .note .error s!"Error loading TOML from {path.toString}: {reason}"

/-- The note on a file whose text is no settings file; what is wrong with it is not told. -/
def noteMalformed (path : Path) : Logged Unit :=
  .note .error s!"Error decoding TOML from {path.toString}: <toml error>"

/-- The table of a text that was read from a file. -/
def parse (limits : Limits) (path : Path) (text : String) : Attempt Fault Fields :=
  match Toml.read limits text with
  | .ok fields => pure fields
  | .error (.repeatedKey key) => throw (.repeatedKey key)
  | .error .redefined => throw .redefined
  | .error .tooDeep => throw .tooDeep
  | .error .malformed => do
    Attempt.ofLogged (noteMalformed path)
    return []

/-- The table of a file. -/
def read (limits : Limits) (tree : FileTree) (path : Path) : Attempt Fault Fields :=
  match tree.readText path.toString with
  | .ok text => parse limits path text
  | .error (.undecodable e) => throw (.undecodable e)
  | .error .nullCharacter => throw .nullCharacter
  | .error (.refused e p) => do
    Attempt.ofLogged (noteUnreadable path (e.message p))
    return []

/-- The name of a file that holds nothing else. -/
def ownName : String := "lintframe.toml"

/-- The name of a project file, which may hold settings of many tools. -/
def projectName : String := "pyproject.toml"

/-- The part of a table that is about the formatter. -/
def table? (path : Path) (fields : Fields) : Option Fields :=
  if path.name != projectName then some fields
  else
    match fields.lookup "tool" with
    | some (.table tools) =>
      match tools.lookup "lintframe" with
      | some (.table own) => some own
      | _ => none
    | _ => none

/-- Whether a path leads to a file. -/
def isFile (tree : FileTree) (path : Path) : Attempt Fault Bool :=
  match tree.isFile path.toString with
  | .ok b => pure b
  | .error e => throw (.refused e path.toString)

/-- Whether a project file holds settings of the formatter. -/
def isInProject (limits : Limits) (tree : FileTree) (path : Path) : Attempt Fault Bool := do
  if ← isFile tree path then
    return !((table? path (← read limits tree path)).getD []).isEmpty
  else return false

/-- The file that applies to the first of some directories for which there is one. -/
def discoverIn (limits : Limits) (tree : FileTree) : List Path → Attempt Fault (Option Path)
  | [] => pure none
  | directory :: others => do
    let own := directory.below ownName
    if ← isFile tree own then
      Attempt.ofLogged (.note .debug s!"Using config file {own.toString}")
      return some own
    let project := directory.below projectName
    if ← isInProject limits tree project then
      Attempt.ofLogged (.note .debug s!"Using [tool.lintframe] from {project.toString}")
      return some project
    discoverIn limits tree others

/-- The note on a directory that no file applies to. -/
def noteNone (start : Path) : Logged Unit :=
  .note .trace s!"No config file found from {start.toString} upwards"

/-- The file that applies to a directory. -/
def discover (limits : Limits) (tree : FileTree) (start : Path) :
    Attempt Fault (Option Path) := do
  let found ← discoverIn limits tree start.selfAndAncestors
  if found.isNone then Attempt.ofLogged (noteNone start)
  return found

end SettingsFile

namespace Settings

/-- Why there are no settings: a layer is refused, or trouble stops everything. -/
inductive Failure
  | refused (e : Error)
  | fault (e : SettingsFile.Fault)
  deriving Repr

/-- The wording of a failure. -/
def Failure.message : Failure → String
  | .refused e => e.message
  | .fault e => e.message

/-- The failure of a layer that is refused: the refusal, or trouble if it cannot be worded. -/
def Failure.ofError (deepest : Nat) (e : Error) : Failure :=
  match e.check deepest with
  | .ok () => .refused e
  | .error unprintable => .fault (.unprintable unprintable)

/-- The settings file to be read: the one asked for, or else the one that applies. -/
def chooseFile (limits : Limits) (tree : FileTree) (directory : Path) (file : Option Path) :
    Attempt SettingsFile.Fault (Option Path) :=
  match file with
  | some path => pure (some path)
  | none => SettingsFile.discover limits tree directory

/-- The settings of a file. -/
def ofFile (limits : Limits) (tree : FileTree) (path : Path) : Attempt Failure Settings := do
  let fields ← (SettingsFile.read limits tree path).adapt .fault
  let own := (SettingsFile.table? path fields).getD []
  (ofTable (some path) own).adapt (.ofError limits.printed)

/-- The settings that apply to a directory, without those of the command line. -/
def load (limits : Limits) (tree : FileTree) (directory : Path) (file : Option Path)
    (noFile : Bool) (vars : List (String × String)) : Attempt Failure Settings := do
  let path ← if noFile then pure none else (chooseFile limits tree directory file).adapt .fault
  let settings ← match path with
    | some path => ofFile limits tree path
    | none => pure standard
  (Attempt.ofExcept (settings.withVariables vars)).adapt (.ofError limits.printed)

end Settings

end LintReport
