/-
Infinite numbers in reports.

* `Value.toInt_eq_infinite` — infinite numbers are the only values whose conversion to an integer
  overflows;
* `Report.InfinitePosition`, `Report.InfiniteLocation`, `Report.InfiniteItem` — an infinite number
  stands where a line or a column is read;
* `Report.Overflows` — the first item of a report that is no message is one of these;
* `Report.Buries` — the first item of a report that is no message has a value nested too deeply;
* `Report.ofValue_answers_iff` — every other report gives messages, or is refused for its form.

Design notes: the fields of an item are read in a fixed order and the first fault decides, so an
infinite number is only met if all that is read before it is as it should be.  No symbolic links
lead round in a loop here, so making a path absolute fails over a null character only.
-/
import LintReport.Proofs.Items

namespace LintReport

open Outcome

/-- Infinite numbers are the only values whose conversion to an integer overflows. -/
theorem Value.toInt_eq_infinite {v : Value} :
    v.toInt = .error .infinite ↔ ∃ negative, v = .real (.infinite negative) := by
  cases v with
  | real x =>
    cases x with
    | infinite negative => exact iff_of_true rfl ⟨negative, rfl⟩
    | finite negative m e => simp [toInt, Binary64.truncate?]
    | notANumber => simp [toInt, Binary64.truncate?]
  | text s =>
    rw [toInt]
    cases Text.Numeral.read s with
    | ok n => simp
    | error e => simp
  | _ => simp [toInt]

namespace Report

variable {deepest : Nat} {base : Path}

/-! ### Positions -/

/-- Positions in which an infinite number is met: the line is one, or it is an integer and the
column is one. -/
inductive InfinitePosition : Value → Prop
  | line {fields : Fields} {negative : Bool}
      (h : fields.lookup "line" = some (.real (.infinite negative))) :
      InfinitePosition (.table fields)
  | column {fields : Fields} {n : Int} {negative : Bool} (hline : integer fields "line" = .ok n)
      (h : fields.lookup "col" = some (.real (.infinite negative))) :
      InfinitePosition (.table fields)

/-- The integer of a key overflows exactly if an infinite number stands there. -/
theorem integer_eq_infinite {fields : Fields} {key : String} :
    integer fields key = .error (.integer .infinite)
      ↔ ∃ negative, fields.lookup key = some (.real (.infinite negative)) := by
  unfold integer required
  cases fields.lookup key with
  | none => simp
  | some v =>
    rw [ok_bind]
    constructor
    · intro h
      cases hint : v.toInt with
      | ok n =>
        rw [hint] at h
        cases h
      | error e =>
        rw [hint] at h
        cases h
        obtain ⟨negative, rfl⟩ := Value.toInt_eq_infinite.mp hint
        exact ⟨negative, rfl⟩
    · rintro ⟨negative, h⟩
      rw [Option.some.inj h]
      rfl

theorem position_eq_infinite {v : Value} :
    position v = .error (.integer .infinite) ↔ InfinitePosition v := by
  constructor
  · intro h
    cases v with
    | table fields =>
      rcases bind_eq_error.mp h with hline | ⟨n, hline, h⟩
      · obtain ⟨negative, hline⟩ := integer_eq_infinite.mp hline
        exact .line hline
      · rcases bind_eq_error.mp h with hcolumn | ⟨m, -, h⟩
        · obtain ⟨negative, hcolumn⟩ := integer_eq_infinite.mp hcolumn
          exact .column hline hcolumn
        · cases h
    | _ => cases h
  · intro h
    cases h with
    | line h => exact bind_eq_error.mpr (.inl (integer_eq_infinite.mpr ⟨_, h⟩))
    | column hline h =>
      refine bind_eq_error.mpr (.inr ⟨_, hline, bind_eq_error.mpr (.inl ?_)⟩)
      exact integer_eq_infinite.mpr ⟨_, h⟩

/-! ### Locations -/

/-- Locations in whose start, or in whose end, an infinite number is met. -/
inductive InfiniteLocation (deepest : Nat) (base : Path) : Value → Prop
  | start {fields : Fields} {start : Value} {src : Source}
      (hsource : sourceOf deepest base fields = .ok src)
      (hstart : fields.lookup "start" = some start)
      (h : InfinitePosition start) : InfiniteLocation deepest base (.table fields)
  | stop {fields : Fields} {start stop : Value} {src : Source} {p : Position}
      (hsource : sourceOf deepest base fields = .ok src)
      (hstart : fields.lookup "start" = some start)
      (hposition : position start = .ok p) (hstop : given? fields "end" = some stop)
      (h : InfinitePosition stop) : InfiniteLocation deepest base (.table fields)

theorem required_ne_infinite {fields : Fields} {key : String} :
    required fields key ≠ .error (.integer .infinite) := by
  intro h
  obtain ⟨-, h⟩ := required_eq_error.mp h
  cases h

theorem printed_ne_infinite {v : Value} : printed deepest v ≠ .error (.integer .infinite) := by
  rw [printed, Ne, mapError_eq_error]
  rintro ⟨e, -, h⟩
  cases h

theorem absoluteRef_ne_infinite {ref : String} :
    absoluteRef base ref ≠ .error (.integer .infinite) := by
  unfold absoluteRef
  split
  · simp
  · split
    · simp
    · simp

/-- No integer is read from a source. -/
theorem sourceOf_ne_infinite {fields : Fields} :
    sourceOf deepest base fields ≠ .error (.integer .infinite) := by
  refine bind_ne_error required_ne_infinite fun raw => ?_
  cases raw with
  | table fields =>
    refine bind_ne_error required_ne_infinite fun raw => ?_
    refine bind_ne_error printed_ne_infinite fun ref => ?_
    refine bind_ne_error absoluteRef_ne_infinite fun path => ?_
    split
    · simp
    · simp
  | _ => simp [source]

theorem pointerOf_ne_infinite {fields : Fields} {src : Source} :
    pointerOf deepest fields src ≠ .error (.integer .infinite) := by
  unfold pointerOf
  split
  · exact bind_ne_error printed_ne_infinite fun pointer => by simp
  · simp

theorem spanOf_eq_infinite {fields : Fields} {src : Source} {start : Value} :
    spanOf deepest fields src start = .error (.integer .infinite)
      ↔ InfinitePosition start ∨ ∃ p stop, position start = .ok p ∧
          given? fields "end" = some stop ∧ InfinitePosition stop := by
  rw [spanOf, bind_eq_error, position_eq_infinite]
  refine or_congr_right ⟨?_, ?_⟩
  · rintro ⟨p, hp, h⟩
    rcases bind_eq_error.mp h with h | ⟨q, -, h⟩
    · obtain ⟨stop, hstop, h⟩ := optionMapM_eq_error.mp h
      exact ⟨p, stop, hp, hstop, position_eq_infinite.mp h⟩
    · refine absurd h (bind_ne_error (fun h => ?_) fun pointer => by simp)
      obtain ⟨v, -, h⟩ := optionMapM_eq_error.mp h
      exact printed_ne_infinite h
  · rintro ⟨p, stop, hp, hstop, h⟩
    refine ⟨p, hp, bind_eq_error.mpr (.inl ?_)⟩
    exact optionMapM_eq_error.mpr ⟨stop, hstop, position_eq_infinite.mpr h⟩

theorem location_eq_infinite {v : Value} :
    location deepest base v = .error (.integer .infinite) ↔ InfiniteLocation deepest base v := by
  constructor
  · intro h
    cases v with
    | table fields =>
      rw [location_table] at h
      rcases bind_eq_error.mp h with h | ⟨src, hsource, h⟩
      · exact absurd h sourceOf_ne_infinite
      · cases hstart : fields.lookup "start" with
        | none =>
          rw [hstart] at h
          exact absurd h pointerOf_ne_infinite
        | some start =>
          rw [hstart] at h
          rcases spanOf_eq_infinite.mp h with h | ⟨p, stop, hp, hstop, h⟩
          · exact .start hsource hstart h
          · exact .stop hsource hstart hp hstop h
    | _ => cases h
  · intro h
    cases h with
    | start hsource hstart h =>
      rw [location_table, hsource, ok_bind, hstart]
      exact spanOf_eq_infinite.mpr (.inl h)
    | stop hsource hstart hp hstop h =>
      rw [location_table, hsource, ok_bind, hstart]
      exact spanOf_eq_infinite.mpr (.inr ⟨_, _, hp, hstop, h⟩)

/-! ### Items -/

/-- Items in whose locations, or else in whose origin, an infinite number is met. -/
inductive InfiniteItem (deepest : Nat) (base : Path) : Value → Prop
  | location {fields : Fields} {h : Head} {before after : List Value} {bad : Value}
      (hhead : head deepest fields = .ok h)
      (hlocations : h.first :: h.others = before ++ bad :: after)
      (hbefore : ∀ l ∈ before, ¬ Fails (location deepest base l))
      (hbad : InfiniteLocation deepest base bad) :
      InfiniteItem deepest base (.table fields)
  | origin {fields : Fields} {h : Head} {bad : Value} (hhead : head deepest fields = .ok h)
      (hlocations : ∀ l ∈ h.first :: h.others, ¬ Fails (location deepest base l))
      (hsuggestions : ∀ s ∈ h.suggestions, ¬ Fails (printed deepest s))
      (hignored : ¬ Fails (ignored deepest fields)) (horigin : given? fields "from" = some bad)
      (hbad : InfiniteLocation deepest base bad) : InfiniteItem deepest base (.table fields)

theorem severity_ne_infinite {fields : Fields} :
    severity deepest fields ≠ .error (.integer .infinite) := by
  refine bind_ne_error required_ne_infinite fun v => ?_
  refine bind_ne_error printed_ne_infinite fun raw => ?_
  split
  · simp
  · simp

/-- No integer is read from a head. -/
theorem head_ne_infinite {fields : Fields} : head deepest fields ≠ .error (.integer .infinite) := by
  unfold head
  split
  · split
    · refine bind_ne_error severity_ne_infinite fun s => ?_
      refine bind_ne_error required_ne_infinite fun v => ?_
      refine bind_ne_error printed_ne_infinite fun text => ?_
      refine bind_ne_error required_ne_infinite fun v => ?_
      exact bind_ne_error printed_ne_infinite fun rule => by simp
    · simp
  · simp

theorem ignored_ne_infinite {fields : Fields} :
    ignored deepest fields ≠ .error (.integer .infinite) := by
  unfold ignored
  split
  · simp
  · simp
  · unfold Fault.ofIgnored
    split
    · simp
    · simp

/-- The locations of an item are read one after the other, and its origin last. -/
theorem Head.message_eq (fields : Fields) (h : Head) :
    h.message deepest base fields = (do
      let locations ← (h.first :: h.others).mapM (location deepest base)
      let suggestions ← h.suggestions.mapM (printed deepest)
      let ignored ← ignored deepest fields
      let origin ← (given? fields "from").mapM (location deepest base)
      .ok do
        Message.noteDropped h.rule locations.length
        pure ⟨h.severity, h.text, h.rule, locations.headD default, locations.tail.head?,
          suggestions, ignored, origin⟩) := by
  rw [Head.message, List.mapM_cons]
  simp only [bind_assoc, pure_bind]
  rfl

theorem Head.message_eq_infinite {fields : Fields} {h : Head} :
    h.message deepest base fields = .error (.integer .infinite)
      ↔ (∃ before bad after, h.first :: h.others = before ++ bad :: after ∧
          (∀ l ∈ before, ¬ Fails (location deepest base l)) ∧ InfiniteLocation deepest base bad) ∨
        ((∀ l ∈ h.first :: h.others, ¬ Fails (location deepest base l)) ∧
          (∀ s ∈ h.suggestions, ¬ Fails (printed deepest s)) ∧ ¬ Fails (ignored deepest fields) ∧
          ∃ bad, given? fields "from" = some bad ∧ InfiniteLocation deepest base bad) := by
  have hall : ∀ {α : Type} (vs : List Value) (read : Value → Except Fault α),
      (∀ v ∈ vs, ¬ Fails (read v)) ↔ ∃ rs, vs.mapM read = .ok rs := by
    intro α vs read
    rw [← not_fails_iff, fails_mapM]
    simp
  -- all locations are read before the suggestions, these before the flag, and the flag before the
  -- origin, so an infinite number in the origin is only met if nothing before it fails
  rw [message_eq, bind_eq_error, mapM_eq_error_iff, hall, hall, not_fails_iff]
  simp only [location_eq_infinite]
  refine or_congr_right ⟨?_, ?_⟩
  · rintro ⟨ls, hls, h⟩
    rcases bind_eq_error.mp h with h | ⟨ss, hss, h⟩
    · obtain ⟨-, s, -, -, -, h⟩ := mapM_eq_error_iff.mp h
      exact absurd h printed_ne_infinite
    · rcases bind_eq_error.mp h with h | ⟨b, hb, h⟩
      · exact absurd h ignored_ne_infinite
      · rcases bind_eq_error.mp h with h | ⟨origin, -, h⟩
        · obtain ⟨bad, hbad, h⟩ := optionMapM_eq_error.mp h
          exact ⟨⟨ls, hls⟩, ⟨ss, hss⟩, ⟨b, hb⟩, bad, hbad, location_eq_infinite.mp h⟩
        · cases h
  · rintro ⟨⟨ls, hls⟩, ⟨ss, hss⟩, ⟨b, hb⟩, bad, hbad, h⟩
    refine ⟨ls, hls, ?_⟩
    rw [hss, ok_bind, hb, ok_bind]
    refine bind_eq_error.mpr (.inl ?_)
    exact optionMapM_eq_error.mpr ⟨bad, hbad, location_eq_infinite.mpr h⟩

theorem message_eq_infinite {v : Value} :
    message deepest base v = .error (.integer .infinite) ↔ InfiniteItem deepest base v := by
  constructor
  · intro h
    cases v with
    | table fields =>
      rw [message_table] at h
      rcases bind_eq_error.mp h with h | ⟨hd, hhead, h⟩
      · exact absurd h head_ne_infinite
      · rcases Head.message_eq_infinite.mp h with ⟨before, bad, after, hsplit, hbefore, hbad⟩ |
          ⟨hlocations, hsuggestions, hignored, bad, horigin, hbad⟩
        · exact .location hhead hsplit hbefore hbad
        · exact .origin hhead hlocations hsuggestions hignored horigin hbad
    | _ => cases h
  · intro h
    cases h with
    | location hhead hsplit hbefore hbad =>
      rw [message_table, hhead, ok_bind]
      exact Head.message_eq_infinite.mpr (.inl ⟨_, _, _, hsplit, hbefore, hbad⟩)
    | origin hhead hlocations hsuggestions hignored horigin hbad =>
      rw [message_table, hhead, ok_bind]
      exact Head.message_eq_infinite.mpr (.inr
        ⟨hlocations, hsuggestions, hignored, _, horigin, hbad⟩)

/-! ### Reports -/

/-- Reports whose first item that is no message has an infinite number where a line or a column
is read. -/
inductive Overflows (deepest : Nat) (base : Path) (v : Value) : Prop
  | item {before after : List Value} {bad : Value}
      (hitems : items? v = some (before ++ bad :: after))
      (hbefore : ∀ item ∈ before, ¬ Fails (message deepest base item))
      (hbad : InfiniteItem deepest base bad) :
      Overflows deepest base v

/-- Reports whose first item that is no message has a value nested too deeply, where a text is made
of it. -/
inductive Buries (deepest : Nat) (base : Path) (v : Value) : Prop
  | item {before after : List Value} {bad : Value}
      (hitems : items? v = some (before ++ bad :: after))
      (hbefore : ∀ item ∈ before, ¬ Fails (message deepest base item))
      (hbad : message deepest base bad = .error (.unprintable .tooDeep)) : Buries deepest base v

theorem overflows_iff {v : Value} :
    Overflows deepest base v
      ↔ ∃ items, items? v = some items ∧ Meets deepest base items (.integer .infinite) := by
  constructor
  · intro h
    cases h with
    | item hitems hbefore hbad =>
      exact ⟨_, hitems, _, _, _, rfl, hbefore, message_eq_infinite.mpr hbad⟩
  · rintro ⟨items, hitems, before, bad, after, rfl, hbefore, hbad⟩
    exact .item hitems hbefore (message_eq_infinite.mp hbad)

theorem buries_iff {v : Value} :
    Buries deepest base v
      ↔ ∃ items, items? v = some items ∧ Meets deepest base items (.unprintable .tooDeep) := by
  constructor
  · intro h
    cases h with
    | item hitems hbefore hbad => exact ⟨_, hitems, _, _, _, rfl, hbefore, hbad⟩
  · rintro ⟨items, hitems, before, bad, after, rfl, hbefore, hbad⟩
    exact .item hitems hbefore hbad

/-- A report overflows exactly if the first item that is no message has an infinite number. -/
theorem ofValue_eq_infinite {v : Value} :
    (ofValue deepest base v).outcome = .error .infinite ↔ Overflows deepest base v := by
  rw [overflows_iff]
  cases hitems : items? v with
  | none => simp [outcome_ofValue_of_none hitems]
  | some items => simp [outcome_ofValue hitems, messagesFrom_eq_infinite]

theorem ofValue_eq_deepValue {v : Value} :
    (ofValue deepest base v).outcome = .error .deepValue ↔ Buries deepest base v := by
  rw [buries_iff]
  cases hitems : items? v with
  | none => simp [outcome_ofValue_of_none hitems]
  | some items => simp [outcome_ofValue hitems, messagesFrom_eq_deepValue]

/-- The items of a report are nested less deeply than the report. -/
theorem depth_lt_of_items? {v item : Value} {items : List Value} (h : items? v = some items)
    (hitem : item ∈ items) : item.depth < v.depth := by
  cases v with
  | list items' =>
    obtain rfl := Option.some.inj h
    exact Value.depth_lt_of_mem hitem
  | table fields =>
    rw [items?] at h
    split at h
    · rename_i items' hlookup
      obtain rfl := Option.some.inj h
      have hdepth : (Value.list items').depth < (Value.table fields).depth := by
        rcases Option.or_eq_some_iff.mp hlookup with hlookup | ⟨-, hlookup⟩
        · exact Value.depth_lt_of_lookup hlookup
        · exact Value.depth_lt_of_lookup hlookup
      exact (Value.depth_lt_of_mem hitem).trans hdepth
    · cases h
  | _ => cases h

/-- **A decoded report gives messages, or is refused for its form, exactly if it does not
overflow**, nor buries a value too deeply.  If it overflows, the infinite number ends the reading,
and no item is told to be at fault; so does a value that is nested too deeply, and only a report
that is nested deeper than the limit itself can hold one where a text is made of it. -/
theorem ofValue_answers_iff (deepest : Nat) (base : Path) (v : Value) :
    (((∃ ms, (ofValue deepest base v).outcome = .ok ms) ∨
        ∃ e, (ofValue deepest base v).outcome = .error e ∧ e.isFormat = true)
        ↔ ¬ Overflows deepest base v ∧ ¬ Buries deepest base v) ∧
      ((ofValue deepest base v).outcome = .error .infinite ↔ Overflows deepest base v) ∧
      ((ofValue deepest base v).outcome = .error .deepValue ↔ Buries deepest base v) ∧
      (Buries deepest base v → deepest < v.depth) := by
  refine ⟨?_, ofValue_eq_infinite, ofValue_eq_deepValue, fun h => ?_⟩
  · rw [← ofValue_eq_infinite, ← ofValue_eq_deepValue]
    constructor
    · rintro (⟨ms, h⟩ | ⟨e, h, hformat⟩)
      · rw [h]
        simp
      · rw [h]
        constructor
        · rintro ⟨⟩
          cases hformat
        · rintro ⟨⟩
          cases hformat
    · rintro ⟨hfinite, hshallow⟩
      cases h : (ofValue deepest base v).outcome with
      | ok ms => exact .inl ⟨ms, rfl⟩
      | error e =>
        rcases ofValue_error_cases h with hformat | rfl | rfl
        · exact .inr ⟨e, rfl, hformat⟩
        · exact absurd h hfinite
        · exact absurd h hshallow
  · cases h with
    | item hitems _ hbad =>
      have hitem := depth_lt_of_items? hitems (List.mem_append_right _ List.mem_cons_self)
      exact (lt_depth_of_message hbad).trans hitem

/-- A warning at an infinite line is neither a message nor told to be at fault. -/
theorem ofValue_of_infinite_line :
    let source : Value := .table [("absoluteRef", .text "/a.yaml")]
    let start : Value := .table [("line", .real (.infinite false)), ("col", .int 1)]
    let fields : Fields := [("severity", .text "warn"), ("message", .text "m"),
      ("ruleId", .text "r"), ("location", .list [.table [("source", source), ("start", start)]])]
    let outcome :=
      (ofValue Limits.usual.printed (.ofString "/proj") (.list [.table fields])).outcome
    outcome = .error .infinite ∧
      ¬ ((∃ ms, outcome = .ok ms) ∨ ∃ e, outcome = .error e ∧ e.isFormat = true) := by
  intro source start fields outcome
  have hhead : head Limits.usual.printed fields
      = .ok ⟨.table [("source", source), ("start", start)], [], [], .warning, "m", "r"⟩ := by
    show (Report.severity Limits.usual.printed fields >>= fun s => _) = _
    rw [severity_of_word (s := .warning) rfl]
    rfl
  have hinfinite : outcome = .error .infinite := by
    have hbad : InfiniteItem Limits.usual.printed (.ofString "/proj") (.table fields) := by
      refine .location hhead (List.nil_append _).symm ?_ (.start rfl rfl (.line rfl))
      exact List.forall_mem_nil _
    exact ofValue_eq_infinite.mpr (.item rfl (List.forall_mem_nil _) hbad)
  refine ⟨hinfinite, ?_⟩
  rintro (⟨ms, h⟩ | ⟨e, h, hformat⟩)
  · cases h.symm.trans hinfinite
  · obtain rfl := Except.error.inj (h.symm.trans hinfinite)
    cases hformat

end Report

end LintReport
