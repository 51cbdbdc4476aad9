/-
What a single layer says about the settings.

* `Settings.Reading` — nothing, or the reading of a value, which may be a refusal;
* `Settings.highest` — the reading of the highest layer that says anything;
* `Settings.outcome_ofTable_eq`, `Settings.withVariables_eq`, `Settings.override_eq` — what a layer
  does: its first refusal is told, or it leaves settings.

Design notes: a layer that is silent and one whose value is refused are two things, so a layer
gives an optional reading.
-/
import LintReport.Proofs.Outcome
import LintReport.Settings.Basic

namespace LintReport

open Outcome

namespace Settings

/-! ### Readings -/

/-- What a layer says about a setting: nothing, or the reading of a value. -/
abbrev Reading (α : Type) := Option (Except Error α)

/-- The refusal of a layer, if there is one. -/
def Reading.refusal {α : Type} : Reading α → List Error
  | some (.error e) => [e]
  | _ => []

theorem Reading.mem_refusal {α : Type} {x : Reading α} {e : Error} :
    e ∈ x.refusal ↔ x = some (.error e) := by
  cases x with
  | none => simp [refusal]
  | some r =>
    cases r with
    | ok a => simp [refusal]
    | error e' => simp [refusal, eq_comm]

/-- The setting that a layer leaves, over the one below it. -/
def Reading.over {α : Type} (below : α) : Reading α → α
  | some (.ok a) => a
  | _ => below

/-- The reading of the highest layer that says anything, which comes first in the list, and the
standard setting if no layer does. -/
def highest {α : Type} (standard : α) (layers : List (Reading α)) : Except Error α :=
  (layers.findSome? id).getD (.ok standard)

/-- Nothing is wrong, or else the first refusal is. -/
def firstOf : List Error → Except Error Unit
  | [] => .ok ()
  | e :: _ => .error e

theorem firstOf_append (es es' : List Error) :
    firstOf (es ++ es') = firstOf es >>= fun _ => firstOf es' := by
  cases es with
  | nil => rfl
  | cons e es => rfl

section

variable {α : Type} {x : Reading α} {standard below : α} {layers : List (Reading α)}

/-- A layer is refused, or it leaves a setting. -/
theorem getD_reading : x.getD (.ok below) = firstOf x.refusal >>= fun _ => .ok (x.over below) := by
  cases x with
  | none => rfl
  | some r =>
    cases r with
    | ok a => rfl
    | error e => rfl

theorem highest_nil : highest standard [] = .ok standard := rfl

/-- A layer that is not refused decides over those below it, if it says anything. -/
theorem highest_cons (hx : x.refusal = []) (h : highest standard layers = .ok below) :
    highest standard (x :: layers) = .ok (x.over below) := by
  cases x with
  | none => exact h
  | some r =>
    cases r with
    | ok a => rfl
    | error e => cases hx

/-- A setting that is given decides over the layers below. -/
theorem highest_given {given : Option α} (h : highest standard layers = .ok below) :
    highest standard (given.map .ok :: layers) = .ok (given.getD below) := by
  cases given with
  | none => exact h
  | some a => rfl

end

/-! ### Single layers -/

/-- The reading of a key of a table, which comes from a file. -/
def inTable {α : Type} (file : Option Path) (table : Fields)
    (read : String → Value → Except Error α) (key : String) : Reading α :=
  match section? (originOf file) table with
  | .ok fields => (fields.lookup key).map (read (originOf file))
  | .error _ => none

/-- What is refused in a table, in the order in which it is met. -/
def tableRefusals (file : Option Path) (table : Fields) : List Error :=
  Reading.refusal (some (section? (originOf file) table))
    ++ (inTable file table readMaxMessages maxMessagesKey).refusal
    ++ (inTable file table readLayout layoutKey).refusal
    ++ (inTable file table readColorMode colorKey).refusal

/-- The settings that a table leaves, over the standard ones. -/
def tableSettings (file : Option Path) (table : Fields) : Settings where
  maxMessages := (inTable file table readMaxMessages maxMessagesKey).over defaultMaxMessages
  layout := (inTable file table readLayout layoutKey).over .codeframe
  colorMode := (inTable file table readColorMode colorKey).over .auto
  file := file

/-- The cap of the variables; an empty variable says nothing. -/
def capInVariables (vars : List (String × String)) : Reading Int :=
  ((vars.lookup maxMessagesVariable).filter (· ≠ "")).map fun raw =>
    readMaxMessages maxMessagesVariable (.text (Text.trim raw))

/-- The cap of the command line. -/
def capInCommand (o : Overrides) : Reading Int :=
  match o.maxMessages with
  | .null => none
  | v => some (readMaxMessages "--max-messages" v)

/-- A table is read after its part about the formatter. -/
theorem outcome_ofTable (file : Option Path) (table : Fields) :
    (ofTable file table).outcome = section? (originOf file) table >>= ofFields file := by
  rw [ofTable, Attempt.outcome_bind, Attempt.outcome_ofExcept]
  congr 1
  funext fields
  rw [Attempt.outcome_bind, Attempt.outcome_ofExcept]
  cases ofFields file fields with
  | ok s => rfl
  | error e => rfl

/-- The settings of fields, one reading after the other. -/
theorem ofFields_eq {file : Option Path} {table fields : Fields}
    (h : section? (originOf file) table = .ok fields) :
    ofFields file fields = (do
      let cap ← (inTable file table readMaxMessages maxMessagesKey).getD (.ok defaultMaxMessages)
      let layout ← (inTable file table readLayout layoutKey).getD (.ok .codeframe)
      let colorMode ← (inTable file table readColorMode colorKey).getD (.ok .auto)
      .ok ⟨cap, layout, colorMode, file⟩) := by
  have hkey : ∀ {α : Type} (read : String → Value → Except Error α) (standard : α) (key : String),
      readKey (read (originOf file)) standard fields key
        = (inTable file table read key).getD (.ok standard) := by
    intro α read standard key
    rw [readKey, inTable, h]
    dsimp only
    cases fields.lookup key with
    | none => rfl
    | some v => rfl
  rw [ofFields]
  simp only [hkey]
  rfl

/-- The first refusal of a table is told, or else it leaves settings. -/
theorem outcome_ofTable_eq (file : Option Path) (table : Fields) :
    (ofTable file table).outcome
      = firstOf (tableRefusals file table) >>= fun _ => .ok (tableSettings file table) := by
  rw [outcome_ofTable, tableRefusals]
  cases hfields : section? (originOf file) table with
  | error e => rfl
  | ok fields =>
    simp only [ok_bind, ofFields_eq hfields, getD_reading, firstOf_append, bind_assoc]
    rfl

theorem withVariables_eq (s : Settings) (vars : List (String × String)) :
    s.withVariables vars = firstOf (capInVariables vars).refusal >>= fun _ =>
      .ok { s with maxMessages := (capInVariables vars).over s.maxMessages } := by
  have hread : s.withVariables vars = (capInVariables vars).getD (.ok s.maxMessages) >>= fun n =>
      .ok { s with maxMessages := n } := by
    rw [withVariables, capInVariables]
    cases vars.lookup maxMessagesVariable with
    | none => rfl
    | some raw =>
      by_cases hempty : raw = ""
      · rw [hempty, Option.filter_some, if_neg (by simp)]
        rfl
      · dsimp only
        rw [if_neg hempty, Option.filter_some, if_pos (by simpa using hempty)]
        simp only [Option.map_some, Option.getD_some, pure_eq]
  rw [hread, getD_reading, bind_assoc]
  rfl

theorem override_eq (s : Settings) (o : Overrides) :
    s.override o = firstOf (capInCommand o).refusal >>= fun _ =>
      .ok { s with
        maxMessages := (capInCommand o).over s.maxMessages
        layout := o.layout.getD s.layout
        colorMode := o.colorMode.getD s.colorMode } := by
  have hread : s.override o = (capInCommand o).getD (.ok s.maxMessages) >>= fun n =>
      .ok ⟨n, o.layout.getD s.layout, o.colorMode.getD s.colorMode, s.file⟩ := by
    rw [override, capInCommand]
    cases o.maxMessages with
    | null => rfl
    | _ => rfl
  rw [hread, getD_reading, bind_assoc]
  rfl

end Settings

end LintReport
