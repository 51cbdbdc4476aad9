/-
Settings come from layers.

* `Settings.Layers` — a table, variables, and the command line;
* `Settings.Layers.refusals` — what is refused in the layers, in the order in which it is met;
* `Settings.Layers.Decides` — each setting is that of the highest layer that gives it;
* `Settings.layers_decide` — there are settings exactly if nothing is refused, and which ones; and
  the first refusal is told exactly if its value can be printed;
* `Settings.layers_untold` — a table with a value that is refused, which is not told.

Design notes: every value that is given is read, and a higher layer hides none of the refusals.
-/
import LintReport.Proofs.Refusals

namespace LintReport

open Outcome

namespace Settings

/-- The layers: a table with the file that it comes from, if there is one; the variables; and the
values of the command line. -/
structure Layers where
  table : Option (Path × Fields)
  vars : List (String × String)
  overrides : Overrides

namespace Layers

/-- The settings of the layers. -/
def settings (limits : Limits) (l : Layers) : Except Failure Settings := do
  let s ← withTable limits l.vars l.table
  (s.override l.overrides).mapError (.ofError limits.printed)

/-- The file that the table comes from. -/
def file (l : Layers) : Option Path := l.table.map (·.1)

/-- The fields of the table; there are none without a table. -/
def fields (l : Layers) : Fields := (l.table.map (·.2)).getD []

/-- What is refused in the layers, in the order in which it is met. -/
def refusals (l : Layers) : List Error :=
  tableRefusals l.file l.fields ++ (capInVariables l.vars).refusal
    ++ (capInCommand l.overrides).refusal

/-- Each setting is that of the highest layer that gives it. -/
structure Decides (l : Layers) (s : Settings) : Prop where
  maxMessages : highest defaultMaxMessages [capInCommand l.overrides, capInVariables l.vars,
    inTable l.file l.fields readMaxMessages maxMessagesKey] = .ok s.maxMessages
  layout : highest .codeframe [l.overrides.layout.map .ok,
    inTable l.file l.fields readLayout layoutKey] = .ok s.layout
  colorMode : highest .auto [l.overrides.colorMode.map .ok,
    inTable l.file l.fields readColorMode colorKey] = .ok s.colorMode
  file : s.file = l.file

/-- The settings that the layers leave, one over the other. -/
def top (l : Layers) : Settings :=
  let below := tableSettings l.file l.fields
  { below with
    maxMessages := (capInCommand l.overrides).over
      ((capInVariables l.vars).over below.maxMessages)
    layout := l.overrides.layout.getD below.layout
    colorMode := l.overrides.colorMode.getD below.colorMode }

/-- Without a table the settings are those of an empty one, which no file gave. -/
theorem ofTableFor_eq (l : Layers) :
    ofTableFor l.table = (ofTable l.file l.fields).outcome := by
  rw [file, fields]
  cases l.table with
  | none => rfl
  | some t => rfl

/-- **The settings of the layers**: the first refusal is told, or else each layer is over the one
below. -/
theorem settings_eq (limits : Limits) (l : Layers) :
    l.settings limits
      = (firstOf l.refusals >>= fun _ => .ok l.top).mapError (.ofError limits.printed) := by
  simp only [settings, withTable, ofTableFor_eq, outcome_ofTable_eq, withVariables_eq, override_eq,
    ← mapError_bind, refusals, firstOf_append, bind_assoc, ok_bind]
  rfl

variable {limits : Limits} {l : Layers}

theorem settings_of_nil (h : l.refusals = []) : l.settings limits = .ok l.top := by
  rw [settings_eq, h]
  rfl

theorem settings_of_cons {e : Error} {es : List Error} (h : l.refusals = e :: es) :
    l.settings limits = .error (.ofError limits.printed e) := by
  rw [settings_eq, h]
  rfl

/-- If nothing is refused, each layer is over the one below. -/
theorem decides_top (h : l.refusals = []) : l.Decides l.top := by
  simp only [refusals, tableRefusals, List.append_eq_nil_iff] at h
  obtain ⟨⟨⟨⟨⟨-, hcap⟩, hlayout⟩, hcolor⟩, hvariable⟩, hcommand⟩ := h
  constructor
  · exact highest_cons hcommand (highest_cons hvariable (highest_cons hcap highest_nil))
  · exact highest_given (highest_cons hlayout highest_nil)
  · exact highest_given (highest_cons hcolor highest_nil)
  · rfl

/-- The layers decide on one setting of each kind only. -/
theorem Decides.unique {s s' : Settings} (h : l.Decides s) (h' : l.Decides s') : s = s' := by
  obtain ⟨cap, layout, colorMode, file⟩ := s
  obtain ⟨cap', layout', colorMode', file'⟩ := s'
  obtain rfl := Except.ok.inj (h.maxMessages.symm.trans h'.maxMessages)
  obtain rfl := Except.ok.inj (h.layout.symm.trans h'.layout)
  obtain rfl := Except.ok.inj (h.colorMode.symm.trans h'.colorMode)
  obtain rfl : file = file' := h.file.trans h'.file.symm
  rfl

theorem settings_eq_ok_iff {s : Settings} :
    l.settings limits = .ok s ↔ l.refusals = [] ∧ l.Decides s := by
  cases hrefusals : l.refusals with
  | nil =>
    rw [settings_of_nil hrefusals, Except.ok.injEq]
    constructor
    · rintro rfl
      exact ⟨rfl, decides_top hrefusals⟩
    · rintro ⟨-, h⟩
      exact (decides_top hrefusals).unique h
  | cons e es => simp [settings_of_cons hrefusals]

theorem settings_eq_refused_iff {e : Error} :
    l.settings limits = .error (.refused e)
      ↔ l.refusals.head? = some e ∧ e.IsTellable limits.printed := by
  cases hrefusals : l.refusals with
  | nil => simp [settings_of_nil hrefusals]
  | cons e' es =>
    rw [settings_of_cons hrefusals, Except.error.injEq, Failure.ofError_eq_refused,
      List.head?_cons,
      Option.some.injEq]

/-! ### Keys without a meaning -/

/-- Tables whose parts about the formatter agree on the keys that have a meaning. -/
inductive SameKeys (table table' : Fields) : Prop
  | same (h : table.lookup tableName = table'.lookup tableName)
  | keys {fields fields' : Fields} (h : table.lookup tableName = some (.table fields))
      (h' : table'.lookup tableName = some (.table fields'))
      (hkeys : ∀ key ∈ keys, fields.lookup key = fields'.lookup key)

theorem section_eq {origin : String} {table fields : Fields}
    (h : table.lookup tableName = some (.table fields)) : section? origin table = .ok fields := by
  rw [section?, h]

/-- Tables that agree on the keys that have a meaning give the same settings. -/
theorem ofTableFor_congr {path : Path} {table table' : Fields} (h : SameKeys table table') :
    ofTableFor (some (path, table)) = ofTableFor (some (path, table')) := by
  show (ofTable _ table).outcome = (ofTable _ table').outcome
  rw [outcome_ofTable, outcome_ofTable]
  cases h with
  | same h =>
    unfold section?
    rw [h]
  | keys h h' hkeys =>
    -- fields are only ever looked up by the three keys that have a meaning
    rw [section_eq h, section_eq h', ok_bind, ok_bind]
    unfold ofFields readKey
    rw [hkeys maxMessagesKey (by simp [Settings.keys]), hkeys layoutKey (by simp [Settings.keys]),
      hkeys colorKey (by simp [Settings.keys])]

end Layers

open Layers in
/-- **The layers decide.**  There are settings exactly if nothing is refused in any layer, hidden
or not; each of them is then that of the highest layer that gives it, and keys without a meaning
change nothing.  If something is refused, the first refusal is told exactly if the value in it can
be printed: its integers can be written, and it is not nested too deeply. -/
theorem layers_decide (limits : Limits) (l : Layers) :
    (∀ tree directory file noFile, tableFor limits tree directory file noFile = .ok l.table →
      ((load limits tree directory file noFile l.vars).outcome
        >>= fun s => (s.override l.overrides).mapError (.ofError limits.printed))
        = l.settings limits) ∧
    (∀ tree directory file, tableFor limits tree directory file true = .ok none) ∧
    (Fails (l.settings limits) ↔ l.refusals ≠ []) ∧
    (∀ s, l.settings limits = .ok s ↔ l.refusals = [] ∧ l.Decides s) ∧
    (∀ e, l.settings limits = .error (.refused e)
      ↔ l.refusals.head? = some e ∧ e.IsTellable limits.printed) ∧
    ∀ path table table', SameKeys table table' →
      (Layers.mk (some (path, table)) l.vars l.overrides).settings limits
        = (Layers.mk (some (path, table')) l.vars l.overrides).settings limits := by
  refine ⟨?_, fun tree directory file => rfl, ?_, fun s => settings_eq_ok_iff,
    fun e => settings_eq_refused_iff, ?_⟩
  · intro tree directory file noFile htable
    rw [outcome_load, htable]
    rfl
  · cases hrefusals : l.refusals with
    | nil => simp [settings_of_nil hrefusals]
    | cons e es => simp [settings_of_cons hrefusals]
  · intro path table table' h
    unfold settings withTable
    rw [ofTableFor_congr h]

/-- The command line decides over a file on the color mode, the variables on the cap, and the file
on the layout, with or without another key. -/
theorem layers_decide_each :
    let path := Path.ofString "/lintframe.toml"
    let fields : Fields := [(maxMessagesKey, .int 7), (layoutKey, .text " Stylish"),
      (colorKey, .bool true)]
    let l : Layers := ⟨some (path, [(tableName, .table fields)]), [(maxMessagesVariable, " 12 ")],
      ⟨.null, none, some .never⟩⟩
    let s : Settings := ⟨12, .stylish, .never, some path⟩
    let limits := Limits.usual
    l.refusals = [] ∧ l.settings limits = .ok s ∧ l.Decides s ∧
      (Layers.mk (some (path, [(tableName, .table (("other", .null) :: fields))])) l.vars
        l.overrides).settings limits = .ok s ∧
      ∀ tree directory, ((load limits tree directory none true l.vars).outcome
        >>= fun s => (s.override l.overrides).mapError (.ofError limits.printed))
        = (Layers.mk none l.vars l.overrides).settings limits := by
  intro path fields l s limits
  obtain ⟨-, -, hfails, hdecides, -, hkeys⟩ := layers_decide limits l
  have hnil : l.refusals = [] := by decide +kernel
  have hsettings : l.settings limits = .ok s := by
    obtain ⟨s', hs'⟩ := not_fails_iff.mp (mt hfails.mp (not_not.mpr hnil))
    -- failures have no decidable equality, but settings do
    have hs : (l.settings limits).toOption = some s := by decide +kernel
    rw [hs'] at hs ⊢
    exact congrArg Except.ok (Option.some.inj hs)
  have hsame : Layers.SameKeys [(tableName, .table (("other", .null) :: fields))]
      [(tableName, .table fields)] := by
    refine .keys rfl rfl fun key hkey => ?_
    have hother : (key == "other") = false := by
      rw [beq_eq_false_iff_ne]
      rintro rfl
      exact absurd hkey (by decide)
    rw [List.lookup_cons, hother]
  obtain ⟨hload, -⟩ := layers_decide limits ⟨none, l.vars, l.overrides⟩
  exact ⟨hnil, hsettings, ((hdecides s).mp hsettings).2, (hkeys _ _ _ hsame).trans hsettings,
    fun tree directory => hload tree directory none true rfl⟩

/-- A table with a list as the cap is refused, but if the list holds too large an integer, the
refusal cannot be told, however deep values are printed. -/
theorem layers_untold :
    let cap : Value := .list [.int (Nat.pow 10 Text.Numeral.maxDigits)]
    let l : Layers := ⟨some (.ofString "/lintframe.toml",
      [(tableName, .table [(maxMessagesKey, cap)])]), [], ⟨.null, none, none⟩⟩
    l.refusals = [.noInteger "/lintframe.toml" cap] ∧
      ¬ ∃ limits e, l.settings limits = .error (.refused e) := by
  intro cap l
  have hrefusals : l.refusals = [.noInteger "/lintframe.toml" cap] := rfl
  refine ⟨hrefusals, ?_⟩
  rintro ⟨limits, e, h⟩
  obtain ⟨hhead, htellable⟩ := Layers.settings_eq_refused_iff.mp h
  rw [hrefusals] at hhead
  obtain rfl := Option.some.inj hhead
  have hlarge : cap.isWritable = false := by decide +kernel
  cases hlarge.symm.trans (htellable cap rfl).1

end Settings

end LintReport
