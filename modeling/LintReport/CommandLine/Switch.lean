/-
Options of a command line.

* `Switch` — an option by one of its names;
* `Switch.parse` — the options that are given, in order, and the other arguments.

Design notes: a name with two dashes stands alone or before an equals sign and a value. Names of
one dash and one letter may share a dash; what follows a letter that takes a value is the value.
Two dashes alone end the options.
-/
import LintReport.CommandLine.Usage

namespace LintReport

/-- A name of an option, with its dashes; `κ` is the type of the options. -/
structure Switch (κ : Type) where
  name : String
  key : κ
  takesValue : Bool
  deriving Repr

/-- An option that is given, with its value or the empty text. -/
structure Given (κ : Type) where
  key : κ
  value : String
  deriving DecidableEq, Repr

/-- The options that are given, and the other arguments. -/
structure Parsed (κ : Type) where
  given : List (Given κ)
  rest : List String
  deriving DecidableEq, Repr

namespace Switch

variable {κ : Type}

/-- Whether a name has two dashes. -/
def isLong (name : String) : Bool := "--".toList.isPrefixOf name.toList

/-- Whether an argument is one or more options. -/
def isOption (arg : String) : Bool := arg.toList.head? = some '-' && arg.length != 1

/-- The option of a name, with its value: the one attached to it, or else the next argument.
The number is that of the next arguments that are used. -/
def take (s : Switch κ) (attached : Option String) (next : List String) :
    Except UsageError (Given κ × Nat) :=
  match s.takesValue, attached, next with
  | true, some value, _ => .ok (⟨s.key, value⟩, 0)
  | true, none, value :: _ => .ok (⟨s.key, value⟩, 1)
  | true, none, [] => .error (.needsValue s.name)
  | false, some _, _ => .error (.takesNoValue s.name)
  | false, none, _ => .ok (⟨s.key, ""⟩, 0)

/-- The long names. -/
def longNames (switches : List (Switch κ)) : List String :=
  (switches.map Switch.name).filter isLong

/-- An option by its long name. -/
def readLong (switches : List (Switch κ)) (name : String) (attached : Option String)
    (next : List String) : Except UsageError (List (Given κ) × Nat) :=
  match switches.find? fun s => isLong s.name && s.name == name with
  | none => .error (.noSuchOption name (Text.closest name (longNames switches)))
  | some s => (fun (g, used) => ([g], used)) <$> s.take attached next

/-- Options by letters that share a dash. -/
def readLetters (switches : List (Switch κ)) (next : List String) :
    List Char → Except UsageError (List (Given κ) × Nat)
  | [] => .ok ([], 0)
  | c :: rest =>
    let name := String.ofList ['-', c]
    match switches.find? fun s => s.name == name with
    | none => .error (.noSuchOption name [])
    | some s =>
      if s.takesValue then
        let attached := if rest.isEmpty then none else some (String.ofList rest)
        (fun (g, used) => ([g], used)) <$> s.take attached next
      else do
        let (g, _) ← s.take none next
        let (others, used) ← readLetters switches next rest
        return (g :: others, used)

/-- The parts of an argument before and after its first equals sign. -/
def splitValue (arg : String) : String × Option String :=
  let name := arg.toList.takeWhile (· != '=')
  match arg.toList.drop name.length with
  | _ :: value => (String.ofList name, some (String.ofList value))
  | [] => (arg, none)

/-- The options of an argument, with the number of the next arguments that are used. -/
def read (switches : List (Switch κ)) (arg : String) (next : List String) :
    Except UsageError (List (Given κ) × Nat) :=
  if isLong arg then
    let (name, attached) := splitValue arg
    readLong switches name attached next
  else readLetters switches next (arg.toList.drop 1)

/-- The options and the other arguments of a command line; `mixed` says whether options may
come after other arguments. -/
def parse (switches : List (Switch κ)) (mixed : Bool) (args : List String) :
    Except UsageError (Parsed κ) :=
  match args with
  | [] => .ok ⟨[], []⟩
  | arg :: next =>
    if arg = "--" then .ok ⟨[], next⟩
    else if isOption arg then do
      let (given, used) ← read switches arg next
      let parsed ← parse switches mixed (next.drop used)
      return { parsed with given := given ++ parsed.given }
    else if mixed then do
      let parsed ← parse switches mixed next
      return { parsed with rest := arg :: parsed.rest }
    else .ok ⟨[], arg :: next⟩
termination_by args.length
decreasing_by all_goals simp only [List.length_cons, List.length_drop]; omega

end Switch

namespace Parsed

variable {κ : Type} [BEq κ]

/-- Whether an option is given. -/
def has (p : Parsed κ) (key : κ) : Bool := p.given.any (·.key == key)

/-- How often an option is given. -/
def count (p : Parsed κ) (key : κ) : Nat := p.given.countP (·.key == key)

/-- The value of an option, the last one if there are several. -/
def value? (p : Parsed κ) (key : κ) : Option String :=
  (p.given.reverse.find? (·.key == key)).map (·.value)

end Parsed

end LintReport
