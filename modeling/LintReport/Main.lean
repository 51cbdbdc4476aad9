/-
The executable.

It takes the files that a run may look at out of the file system, runs, and writes what the run
wrote. The files are those that the command line names, the settings files of every directory
above one of these, and the documents that the run asks for.
-/
import LintReport.CommandLine.Program

namespace LintReport

/-- What stands at a path, if anything does. -/
def Entry.look (path : String) : IO (Option Entry) := do
  match ← (IO.FS.readBinFile path).toBaseIO with
  | .ok bytes => return some (.file bytes.toList)
  | .error (.inappropriateType ..) => return some .directory
  | .error (.permissionDenied ..) => return some .locked
  | .error _ => return none

/-- What stands on the way along segments from a place; `place` holds its names, last first. -/
def FileTree.walk (place : List String) : List String → IO (List (List String × Entry))
  | [] => return []
  | n :: rest => do
    if n = "" || n = "." then walk place rest
    else if n = ".." then walk place.tail rest
    else
      let names := (n :: place).reverse
      match ← Entry.look ("/" ++ "/".intercalate names) with
      | some .directory => return (names, .directory) :: (← walk (n :: place) rest)
      | some e => return [(names, e)]
      | none => return []

/-- The tree with what stands on the way along some paths. -/
def FileTree.withPaths (t : FileTree) (paths : List String) : IO FileTree := do
  let found ← paths.mapM fun path => walk [] (Path.segments (Path.absolute t.here path))
  return { t with entries := (found.flatten ++ t.entries).eraseDups }

/-- The settings files of a directory and of all directories above it. -/
def settingsFilesOf (directory : Path) : List String :=
  directory.selfAndAncestors.flatMap fun d =>
    [(d.below SettingsFile.ownName).toString, (d.below SettingsFile.projectName).toString]

/-- The paths that an argument may name, as a whole or as the value of an option. -/
def pathsOf (argument : String) : List String :=
  match Switch.splitValue argument with
  | (name, some value) => [name, value]
  | (name, none) => [name]

/-- The paths that a command line names, and those of the settings files that may apply. -/
def namedBy (here : String) (args : List String) : List String :=
  let paths := args.flatMap pathsOf
  let directories := here :: paths.map fun path => Path.normal (Path.absolute here path)
  paths ++ directories.flatMap fun d => settingsFilesOf (Path.ofString d)

/-- The documents that a run asks for. -/
def askedFor (events : List Event) : List String :=
  events.filterMap fun
    | .consulted ref => some ref
    | _ => none

/-- The variables that a run looks at, as far as they are set. -/
def readVariables : IO (List (String × String)) := do
  let names := [Settings.maxMessagesVariable, logLevelVariable, forceColorVariable,
    noColorVariable]
  let values ← names.mapM fun name => IO.getEnv name
  return (names.zip values).filterMap fun (name, value) => value.map fun value => (name, value)

/-- The bytes of the input, which is read only if an argument asks for it. -/
def readInput (args : List String) : IO (List UInt8) := do
  if args.contains "-" then return (← (← IO.getStdin).readBinToEnd).toList
  else return []

/-- What the run of a command line finds around it. -/
def World.ofArguments (args : List String) : IO World := do
  let here := toString (← IO.currentDir)
  let tree ← FileTree.withPaths ⟨here, []⟩ (namedBy here args)
  let terminal ← (← IO.getStderr).isTty
  let w : World :=
    ⟨"lintframe", 78, tree, ⟨← readVariables, some terminal⟩, ← readInput args, .usual⟩
  return { w with tree := ← w.tree.withPaths (askedFor (w.finish args).events) }

end LintReport

open LintReport

/-- Runs a command line. -/
def main (args : List String) : IO UInt32 := do
  let run := (← World.ofArguments args).run args
  IO.print run.output
  IO.eprint run.diagnostics
  if let .crashed e := run.ending then IO.eprintln e.message
  return run.ending.status.toUInt32
