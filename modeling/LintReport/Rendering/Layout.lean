/-
The two layouts of rendered messages, and the options of a rendering.

* `Layout` — a block with an excerpt for each message, or one line for each, by file;
* `RenderOptions` — cap, directory, layout and color of a rendering;
* `RenderOptions.ofValues` — options from untyped values, or what is wrong with them.
-/
import LintReport.Rendering.Palette
import LintReport.Terminal.Color
import LintReport.Value.Basic

namespace LintReport

/-- The layouts. -/
inductive Layout
  | codeframe
  | stylish
  deriving DecidableEq, Repr, Inhabited

/-- The word of a layout. -/
def Layout.word : Layout → String
  | .codeframe => "codeframe"
  | .stylish => "stylish"

/-- The layouts, in the order in which they are listed. -/
def Layout.all : List Layout := [.codeframe, .stylish]

/-- The layout of a word. -/
def Layout.ofWord? (word : String) : Option Layout := Layout.all.find? (·.word = word)

/-- How many messages are shown if nothing else is asked for. -/
def defaultMaxMessages : Int := 100

/-- The options of a rendering. -/
structure RenderOptions where
  maxMessages : Int
  /-- The directory that paths are shown relative to. -/
  directory : String
  layout : Layout
  /-- Whether to color; none leaves it to the environment. -/
  color : Option Bool
  deriving DecidableEq, Repr, Inhabited

namespace RenderOptions

/-- What is wrong with options. -/
inductive Error
  | maxMessages (v : Value)
  | layout (v : Value)
  | directory (kind : String)
  /-- A value is refused that cannot be told. -/
  | unprintable (e : Value.PrintError)
  deriving Repr

/-- The wording of a refusal. -/
def Error.message : Error → String
  | .maxMessages v => s!"max_messages must be a positive integer, got {v.inspect}"
  | .layout v => s!"{v.inspect} is not a valid OutputFormat"
  | .directory kind => s!"expected str, bytes or os.PathLike object, not {kind}"
  | .unprintable e => e.message

/-- The refusal of a value, which tells it, if it can be printed. -/
def Error.of (deepest : Nat) (v : Value) (telling : Value → Error) : Error :=
  match v.check deepest with
  | .ok () => telling v
  | .error e => .unprintable e

/-- A cap: an integer that is at least one. -/
def readMaxMessages (deepest : Nat) : Value → Except Error Int
  | .int n => if n < 1 then .error (.of deepest (.int n) .maxMessages) else .ok n
  | v => .error (.of deepest v .maxMessages)

/-- A layout, by its word. -/
def readLayout (deepest : Nat) (v : Value) : Except Error Layout :=
  match v with
  | .text word =>
    match Layout.ofWord? word with
    | some l => .ok l
    | none => .error (.layout v)
  | _ => .error (.of deepest v .layout)

/-- A directory. -/
def readDirectory : Value → Except Error String
  | .text s => .ok s
  | v => .error (.directory v.kindName)

/-- Options from untyped values; values that are nested deeper than a limit cannot be told. -/
def ofValues (deepest : Nat) (maxMessages directory layout : Value) (color : Option Bool) :
    Except Error RenderOptions := do
  let maxMessages ← readMaxMessages deepest maxMessages
  let layout ← readLayout deepest layout
  let directory ← readDirectory directory
  return ⟨maxMessages, directory, layout, color⟩

/-- The palette of a rendering. -/
def palette (env : Environment) (o : RenderOptions) : Logged Palette := do
  match o.color with
  | some enabled => return ⟨enabled⟩
  | none => return ⟨← ColorMode.resolve env none⟩

end RenderOptions

end LintReport
