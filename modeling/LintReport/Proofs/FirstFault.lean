/-
A report is read item by item.

* `Report.ofValue_singleton_ok_iff`, `Report.ofValue_singleton_item_iff` — a report of one item;
* `Report.ofValue_itemwise` — a report gives the messages of its items, each as it is read alone,
  and it is refused for the first item that is refused alone, whatever comes after it.

Design notes: a list is compared with the reports of its single items, and not with the reader of
items, so nothing is said here about what an item looks like.
-/
import LintReport.Proofs.Items

namespace LintReport.Report

open Outcome

variable {deepest : Nat} {base : Path}

theorem outcome_ofValue_list (items : List Value) :
    (ofValue deepest base (.list items)).outcome = (messagesFrom deepest base 0 items).outcome :=
  outcome_ofValue rfl

/-- A report of one item is its message. -/
theorem ofValue_singleton_ok_iff {v : Value} {m : Message} :
    (ofValue deepest base (.list [v])).outcome = .ok [m]
      ↔ Logged.value <$> message deepest base v = .ok m := by
  rw [outcome_ofValue_list, messagesFrom_eq_ok_iff, List.forall₂_cons]
  simp

/-- An item is a message exactly if it is one alone. -/
theorem not_fails_message_iff {v : Value} :
    ¬ Fails (message deepest base v)
      ↔ ∃ m, (ofValue deepest base (.list [v])).outcome = .ok [m] := by
  simp only [ofValue_singleton_ok_iff, map_eq_ok, not_fails_iff]
  constructor
  · rintro ⟨logged, h⟩
    exact ⟨logged.value, logged, h, rfl⟩
  · rintro ⟨m, logged, h, -⟩
    exact ⟨logged, h⟩

theorem Error.ofFault_eq_item_iff {n i : Nat} {fault fault' : Fault} :
    ofFault n fault = .item i fault' ↔ n = i ∧ fault = fault' ∧ fault.IsTold := by
  rcases ofFault_cases n fault with ⟨htold, hitem⟩ | ⟨hfault, he⟩ | ⟨hfault, he⟩
  · rw [hitem, Error.item.injEq]
    exact ⟨fun h => ⟨h.1, h.2, htold⟩, fun h => ⟨h.1, h.2.1⟩⟩
  · rw [he]
    exact iff_of_false (by simp) fun h => h.2.2.ne_infinite hfault
  · rw [he]
    exact iff_of_false (by simp) fun h => h.2.2.ne_tooDeep hfault

/-- The items before the first one at fault are messages, and what comes after it is not read. -/
theorem messagesFrom_eq_item_iff {items : List Value} {i : Nat} {fault : Fault} :
    (messagesFrom deepest base 0 items).outcome = .error (.item i fault)
      ↔ ∃ before bad after, items = before ++ bad :: after ∧ before.length = i ∧
        (∀ v ∈ before, ¬ Fails (message deepest base v)) ∧ message deepest base bad = .error fault ∧
        fault.IsTold := by
  simp only [messagesFrom_eq_error_iff, Error.ofFault_eq_item_iff, Nat.zero_add]
  constructor
  · rintro ⟨before, bad, after, fault, hitems, hbefore, hbad, hi, rfl, hfault⟩
    exact ⟨before, bad, after, hitems, hi, hbefore, hbad, hfault⟩
  · rintro ⟨before, bad, after, hitems, hi, hbefore, hbad, hfault⟩
    exact ⟨before, bad, after, fault, hitems, hbefore, hbad, hi, rfl, hfault⟩

/-- A report of one item is refused for the fault of the item, as the first one. -/
theorem ofValue_singleton_item_iff {v : Value} {fault : Fault} :
    (ofValue deepest base (.list [v])).outcome = .error (.item 0 fault)
      ↔ message deepest base v = .error fault ∧ fault.IsTold := by
  rw [outcome_ofValue_list, messagesFrom_eq_item_iff]
  constructor
  · rintro ⟨before, bad, after, h, hlength, -, hbad⟩
    obtain rfl := List.eq_nil_of_length_eq_zero hlength
    obtain ⟨rfl, -⟩ := List.cons.inj h
    exact hbad
  · intro h
    exact ⟨[], v, [], rfl, rfl, List.forall_mem_nil _, h⟩

/-- **A report is read item by item, up to the first fault.**  It gives messages exactly if each of
its items does alone, and then they are the same, in the same order.  It is refused for an item
exactly if all items before that one are messages alone, and that one alone is refused for the same
fault; other items may stand after it as well.  There is no other refusal of a list for its form. -/
theorem ofValue_itemwise (deepest : Nat) (base : Path) (items : List Value) :
    let outcome := fun vs : List Value => (ofValue deepest base (.list vs)).outcome
    (∀ ms, outcome items = .ok ms
      ↔ List.Forall₂ (fun v m => outcome [v] = .ok [m]) items ms) ∧
    (∀ i fault, outcome items = .error (.item i fault)
      ↔ ∃ before bad after, items = before ++ bad :: after ∧ before.length = i ∧
        (∀ v ∈ before, ∃ m, outcome [v] = .ok [m]) ∧ outcome [bad] = .error (.item 0 fault)) ∧
    (∀ i fault others, outcome items = .error (.item i fault) →
      outcome (items.take (i + 1) ++ others) = .error (.item i fault)) ∧
    (∀ e, outcome items = .error e → e.isFormat = true →
      ∃ i fault, e = .item i fault ∧
        e.message = s!"Invalid message at index {i}: {fault.message}") := by
  intro outcome
  refine ⟨fun ms => ?_, fun i fault => ?_, fun i fault others h => ?_, fun e he hformat => ?_⟩
  · simp only [outcome, ofValue_singleton_ok_iff]
    rw [outcome_ofValue_list, messagesFrom_eq_ok_iff]
  · simp only [outcome, ofValue_singleton_item_iff, ← not_fails_message_iff]
    rw [outcome_ofValue_list, messagesFrom_eq_item_iff]
  · simp only [outcome, outcome_ofValue_list, messagesFrom_eq_item_iff] at h ⊢
    obtain ⟨before, bad, after, rfl, rfl, hbefore, hbad⟩ := h
    refine ⟨before, bad, others, ?_, rfl, hbefore, hbad⟩
    rw [List.take_length_add_append, List.take_succ_cons, List.take_zero, List.append_assoc,
      List.singleton_append]
  · simp only [outcome, outcome_ofValue_list] at he
    obtain ⟨before, bad, after, fault, -, -, -, rfl⟩ := messagesFrom_eq_error_iff.mp he
    rcases Error.ofFault_cases (0 + before.length) fault with ⟨-, hitem⟩ | ⟨rfl, -⟩ | ⟨rfl, -⟩
    · exact ⟨_, fault, hitem, by rw [hitem]; rfl⟩
    · cases hformat
    · cases hformat

/-- The second of three items is no message, and the third one is not read. -/
theorem ofValue_itemwise_second :
    let source : Value := .table [("absoluteRef", .text "/a.yaml")]
    let start : Value := .table [("line", .int 1), ("col", .int 2)]
    let fields : Fields := [("severity", .text "warn"), ("message", .null), ("ruleId", .int 7),
      ("location", .list [.table [("source", source), ("start", start)]])]
    let bad : Value := .table [("location", .list [])]
    let outcome := fun vs : List Value =>
      (ofValue Limits.usual.printed (.ofString "/proj") (.list vs)).outcome
    (∃ m, outcome [.table fields] = .ok [m]) ∧ outcome [bad] = .error (.item 0 .noLocation) ∧
      outcome [.table fields, bad, .table fields] = .error (.item 1 .noLocation) ∧
      outcome [.table fields, bad, .null, bad] = .error (.item 1 .noLocation) ∧
      (Error.item 1 .noLocation).isFormat = true ∧
      (Error.item 1 .noLocation).message
        = "Invalid message at index 1: 'location' must be a non-empty list" := by
  intro source start fields bad outcome
  have hgood : ∃ m, outcome [.table fields] = .ok [m] := by
    have hrule : printed Limits.usual.printed (.int 7) = .ok "7" := by
      have hwritable : Text.Numeral.isWritable 7 = true := by decide +kernel
      rw [printed, Value.shown?, Value.check, if_pos hwritable]
      rfl
    have hhead : head Limits.usual.printed fields
        = .ok ⟨.table [("source", source), ("start", start)], [], [], .warning, "None", "7"⟩ := by
      have hmessage : required fields "message" = .ok .null := rfl
      have hid : required fields "ruleId" = .ok (.int 7) := rfl
      have htext : printed Limits.usual.printed .null = .ok "None" := rfl
      show (Report.severity Limits.usual.printed fields >>= fun s => _) = _
      rw [severity_of_word (s := .warning) rfl, ok_bind, hmessage, ok_bind, htext, ok_bind, hid,
        ok_bind, hrule]
      rfl
    refine not_fails_message_iff.mp ?_
    rw [message_table, hhead, ok_bind]
    exact not_fails_ok _
  have hbad : outcome [bad] = .error (.item 0 .noLocation) := rfl
  obtain ⟨-, hitem, hothers, -⟩ :=
    ofValue_itemwise Limits.usual.printed (.ofString "/proj") [.table fields, bad, .table fields]
  have hrefused := (hitem 1 .noLocation).mpr
    ⟨[.table fields], bad, [.table fields], rfl, rfl, List.forall_mem_singleton.mpr hgood, hbad⟩
  exact ⟨hgood, hbad, hrefused, hothers 1 .noLocation [.null, bad] hrefused, rfl, rfl⟩

end LintReport.Report
