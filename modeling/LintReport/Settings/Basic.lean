/-
Settings of the formatter, and the layers that they come from.

* `Settings` — cap, layout and color mode, and the file they were read from;
* `Settings.ofTable` — the defaults with the values of a table over them;
* `Settings.withVariables`, `Settings.override` — settings with the values of the environment,
  and of the command line, over them;
* `Settings.Error.message` — the wording of a refusal, which names the layer at fault;
* `Settings.Error.check` — whether a refusal can be worded, for it tells the value.

Design notes: a layer that gives no value leaves the one below. Every value that is given is
looked at, even if a higher layer replaces it.
-/
import LintReport.Files.Path
import LintReport.Rendering.Layout
import LintReport.Text.Blank
import LintReport.Text.Casing

namespace LintReport

/-- The settings of the formatter. -/
structure Settings where
  maxMessages : Int
  layout : Layout
  colorMode : ColorMode
  file : Option Path
  deriving DecidableEq, Repr, Inhabited

namespace Settings

/-- Settings without any layer. -/
def standard : Settings := ⟨defaultMaxMessages, .codeframe, .auto, none⟩

/-- Why a layer is refused; `origin` names the layer. -/
inductive Error
  | noTable (origin : String)
  | noInteger (origin : String) (v : Value)
  | tooSmall (origin : String) (n : Int)
  | layout (origin : String) (v : Value)
  | color (origin : String) (v : Value)
  deriving Repr

/-- The name of the table that the settings stand in. -/
def tableName : String := "format"

/-- The key of the cap. -/
def maxMessagesKey : String := "max_messages"

/-- The key of the layout. -/
def layoutKey : String := "format"

/-- The key of the color mode. -/
def colorKey : String := "color"

/-- The keys that have a meaning. -/
def keys : List String := [maxMessagesKey, layoutKey, colorKey]

/-- The wording of a refusal. -/
def Error.message : Error → String
  | noTable origin => s!"{origin}: [{tableName}] must be a table"
  | noInteger origin v => s!"{origin}: max_messages must be an integer, got {v.inspect}"
  | tooSmall origin n => s!"{origin}: max_messages must be at least 1, got {n}"
  | layout origin v =>
    let choices := ", ".intercalate (Layout.all.map Layout.word)
    s!"{origin}: format must be one of {choices}, got {v.inspect}"
  | color origin v =>
    let choices := ", ".intercalate (ColorMode.all.map ColorMode.word)
    s!"{origin}: color must be one of {choices}, got {v.inspect}"

/-- The value that a refusal tells, if it tells one. -/
def Error.told? : Error → Option Value
  | noTable _ => none
  | noInteger _ v | layout _ v | color _ v => some v
  | tooSmall _ n => some (.int n)

/-- Whether a refusal can be worded: the value that it tells must be one that can be printed. -/
def Error.check (deepest : Nat) (e : Error) : Except Value.PrintError Unit :=
  match e.told? with
  | none => .ok ()
  | some v => v.check deepest

/-! ### Values -/

/-- The integer that a value gives: truth values give none, nor do numbers with a fraction. -/
def integer? : Value → Option Int
  | .bool _ => none
  | .real x => if x.isInteger then x.truncate? else none
  | v => v.toInt.toOption

/-- A cap. -/
def readMaxMessages (origin : String) (v : Value) : Except Error Int :=
  match integer? v with
  | none => .error (.noInteger origin v)
  | some n => if n < 1 then .error (.tooSmall origin n) else .ok n

/-- The word that a value gives, whatever its case and the white space around it. -/
def wordOf (v : Value) : String := Text.lower (Text.trim v.shown)

/-- A layout. -/
def readLayout (origin : String) (v : Value) : Except Error Layout :=
  match Layout.ofWord? (wordOf v) with
  | some l => .ok l
  | none => .error (.layout origin v)

/-- A color mode; a truth value is a mode as well. -/
def readColorMode (origin : String) (v : Value) : Except Error ColorMode :=
  match v with
  | .bool b => .ok (if b then .always else .never)
  | v =>
    match ColorMode.ofWord? (wordOf v) with
    | some m => .ok m
    | none => .error (.color origin v)

/-- The value of a key if it is there, read. -/
def readKey {α : Type} (read : Value → Except Error α) (standard : α) (fields : Fields)
    (key : String) : Except Error α :=
  match fields.lookup key with
  | some v => read v
  | none => .ok standard

/-! ### Tables -/

/-- The name of a file in a refusal. -/
def originOf (file : Option Path) : String := (file.map Path.toString).getD "<config>"

/-- The fields that the settings are read from. -/
def section? (origin : String) (table : Fields) : Except Error Fields :=
  match table.lookup tableName with
  | none => .ok []
  | some (.table fields) => .ok fields
  | some _ => .error (.noTable origin)

/-- The settings of the fields of a file. -/
def ofFields (file : Option Path) (fields : Fields) : Except Error Settings := do
  let origin := originOf file
  let maxMessages ← readKey (readMaxMessages origin) standard.maxMessages fields maxMessagesKey
  let layout ← readKey (readLayout origin) standard.layout fields layoutKey
  let colorMode ← readKey (readColorMode origin) standard.colorMode fields colorKey
  return ⟨maxMessages, layout, colorMode, file⟩

/-- The keys without a meaning, in the order of their characters. -/
def unknownKeys (fields : Fields) : List String :=
  ((fields.map (·.1)).filter fun k => !keys.contains k).mergeSort

/-- The note on a key without a meaning. -/
def noteUnknown (origin key : String) : Logged Unit :=
  .note .warning s!"{origin}: ignoring unknown key {Text.quote key} in [{tableName}]"

/-- The settings of a table, which was read from a file. -/
def ofTable (file : Option Path) (table : Fields) : Attempt Error Settings := do
  let fields ← Attempt.ofExcept (section? (originOf file) table)
  let settings ← Attempt.ofExcept (ofFields file fields)
  Attempt.ofLogged ((unknownKeys fields).forM (noteUnknown (originOf file)))
  return settings

/-! ### Higher layers -/

/-- The variable that gives the cap. -/
def maxMessagesVariable : String := "LINTFRAME_MAX_MESSAGES"

/-- The settings with the variables over them; an empty variable gives nothing. -/
def withVariables (s : Settings) (vars : List (String × String)) : Except Error Settings :=
  match vars.lookup maxMessagesVariable with
  | none => .ok s
  | some raw =>
    if raw = "" then .ok s
    else do
      let n ← readMaxMessages maxMessagesVariable (.text (Text.trim raw))
      return { s with maxMessages := n }

/-- Values that replace all others; a null cap is not given. -/
structure Overrides where
  maxMessages : Value
  layout : Option Layout
  colorMode : Option ColorMode
  deriving Repr

/-- The settings with the given values over them. -/
def override (s : Settings) (o : Overrides) : Except Error Settings := do
  let maxMessages ← match o.maxMessages with
    | .null => .ok s.maxMessages
    | v => readMaxMessages "--max-messages" v
  return { s with
    maxMessages := maxMessages
    layout := o.layout.getD s.layout
    colorMode := o.colorMode.getD s.colorMode }

/-- The options of a rendering with these settings. -/
def renderOptions (s : Settings) (directory : String) (color : Bool) : RenderOptions :=
  ⟨s.maxMessages, directory, s.layout, some color⟩

end Settings

end LintReport
