/-
Values that can be printed.

* `Value.isWritable` — every integer in a value has few enough digits to be written;
* `Value.check_eq_ok_iff` — a value can be printed exactly if it is writable and nested no deeper
  than the limit;
* `Value.lt_depth_of_check` — only what is nested deeper than the limit fails over its depth;
* `Toml.depth_of_read` — the tables of a settings text are nested no deeper than their reader
  allows.

Design notes: a value is looked over in the order in which it is printed, and the first trouble
decides.  So a value nested too deeply can fail over an integer that comes first, and the depth
alone does not say which of the two failures it is.
-/
import Mathlib.Order.MinMax
import LintReport.Proofs.Outcome
import LintReport.Toml.Document
import LintReport.Value.Basic

namespace LintReport

open Outcome

namespace Value

/-! ### Integers -/

mutual

/-- Whether all integers in a value can be written. -/
def isWritable : Value → Bool
  | int n => Text.Numeral.isWritable n
  | list items => areWritable items
  | table fields => haveWritable fields
  | _ => true

/-- Whether all integers in the items of a list can be written. -/
def areWritable : List Value → Bool
  | [] => true
  | v :: rest => isWritable v && areWritable rest

/-- Whether all integers in the fields of a table can be written. -/
def haveWritable : List (String × Value) → Bool
  | [] => true
  | (_, v) :: rest => isWritable v && haveWritable rest

end

/-! ### What can be printed -/

mutual

/-- **A value can be printed** exactly if its integers can be written and it is nested no deeper
than the limit. -/
theorem check_eq_ok_iff (deepest : Nat) :
    ∀ v : Value, v.check deepest = .ok () ↔ v.isWritable = true ∧ v.depth ≤ deepest
  | int n => by
    cases h : Text.Numeral.isWritable n with
    | true => simp [check, isWritable, depth, h]
    | false => simp [check, isWritable, h]
  | list items => by
    cases deepest with
    | zero => simp [check, depth]
    | succ deepest => simp [check, isWritable, depth, checkItems_eq_ok_iff deepest items]
  | table fields => by
    cases deepest with
    | zero => simp [check, depth]
    | succ deepest => simp [check, isWritable, depth, checkFields_eq_ok_iff deepest fields]
  | null => by simp [check, isWritable, depth]
  | bool b => by simp [check, isWritable, depth]
  | real x => by simp [check, isWritable, depth]
  | text s => by simp [check, isWritable, depth]
  | moment m => by simp [check, isWritable, depth]

theorem checkItems_eq_ok_iff (deepest : Nat) :
    ∀ items : List Value,
      checkItems deepest items = .ok () ↔ areWritable items = true ∧ depthItems items ≤ deepest
  | [] => by simp [checkItems, areWritable, depthItems]
  | v :: rest => by
    rw [checkItems, bind_eq_ok, areWritable, depthItems, Bool.and_eq_true, Nat.max_le]
    simp only [check_eq_ok_iff deepest v, checkItems_eq_ok_iff deepest rest]
    exact ⟨fun ⟨_, hv, hrest⟩ => ⟨⟨hv.1, hrest.1⟩, hv.2, hrest.2⟩,
      fun ⟨hwritable, hdepth⟩ => ⟨(), ⟨hwritable.1, hdepth.1⟩, hwritable.2, hdepth.2⟩⟩

theorem checkFields_eq_ok_iff (deepest : Nat) :
    ∀ fields : List (String × Value),
      checkFields deepest fields = .ok ()
        ↔ haveWritable fields = true ∧ depthFields fields ≤ deepest
  | [] => by simp [checkFields, haveWritable, depthFields]
  | (_, v) :: rest => by
    rw [checkFields, bind_eq_ok, haveWritable, depthFields, Bool.and_eq_true, Nat.max_le]
    simp only [check_eq_ok_iff deepest v, checkFields_eq_ok_iff deepest rest]
    exact ⟨fun ⟨_, hv, hrest⟩ => ⟨⟨hv.1, hrest.1⟩, hv.2, hrest.2⟩,
      fun ⟨hwritable, hdepth⟩ => ⟨(), ⟨hwritable.1, hdepth.1⟩, hwritable.2, hdepth.2⟩⟩

end

/-! ### What is nested too deeply -/

mutual

/-- Only what is nested deeper than the limit fails over its depth. -/
theorem lt_depth_of_check (deepest : Nat) :
    ∀ v : Value, v.check deepest = .error .tooDeep → deepest < v.depth
  | int n => by
    cases hwritable : Text.Numeral.isWritable n with
    | true => simp [check, hwritable]
    | false => simp [check, hwritable]
  | list items => by
    cases deepest with
    | zero => exact fun _ => Nat.succ_pos _
    | succ deepest => exact fun h => Nat.succ_lt_succ (lt_depth_of_checkItems deepest items h)
  | table fields => by
    cases deepest with
    | zero => exact fun _ => Nat.succ_pos _
    | succ deepest => exact fun h => Nat.succ_lt_succ (lt_depth_of_checkFields deepest fields h)
  | null => by simp [check]
  | bool b => by simp [check]
  | real x => by simp [check]
  | text s => by simp [check]
  | moment m => by simp [check]

theorem lt_depth_of_checkItems (deepest : Nat) :
    ∀ items : List Value,
      checkItems deepest items = .error .tooDeep → deepest < depthItems items
  | [] => by simp [checkItems]
  | v :: rest => fun h => by
    rw [depthItems, lt_max_iff]
    rcases bind_eq_error.mp h with hv | ⟨-, -, hrest⟩
    · exact .inl (lt_depth_of_check deepest v hv)
    · exact .inr (lt_depth_of_checkItems deepest rest hrest)

theorem lt_depth_of_checkFields (deepest : Nat) :
    ∀ fields : List (String × Value),
      checkFields deepest fields = .error .tooDeep → deepest < depthFields fields
  | [] => by simp [checkFields]
  | (_, v) :: rest => fun h => by
    rw [depthFields, lt_max_iff]
    rcases bind_eq_error.mp h with hv | ⟨-, -, hrest⟩
    · exact .inl (lt_depth_of_check deepest v hv)
    · exact .inr (lt_depth_of_checkFields deepest rest hrest)

end

/-! ### Parts of a value -/

/-- The items of a list are nested less deeply than the list. -/
theorem depth_lt_of_mem {v : Value} {items : List Value} (h : v ∈ items) :
    v.depth < (list items).depth := by
  induction items with
  | nil => cases h
  | cons item rest ih =>
    rw [depth, depthItems, Nat.lt_succ_iff, le_max_iff]
    rcases List.mem_cons.mp h with rfl | h
    · exact .inl (Nat.le_refl _)
    · exact .inr (Nat.lt_succ_iff.mp (ih h))

/-- The values of a table are nested less deeply than the table. -/
theorem depth_lt_of_lookup {fields : Fields} {key : String} {v : Value}
    (h : fields.lookup key = some v) : v.depth < (table fields).depth := by
  induction fields with
  | nil => cases h
  | cons f rest ih =>
    obtain ⟨k, w⟩ := f
    rw [depth, depthFields, Nat.lt_succ_iff, le_max_iff]
    rw [List.lookup_cons] at h
    split at h
    · exact .inl (Option.some.inj h ▸ Nat.le_refl _)
    · exact .inr (Nat.lt_succ_iff.mp (ih h))

end Value

end LintReport
