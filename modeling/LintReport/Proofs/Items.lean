/-
The items of a report, read step by step.

* `Report.location_table` — a location is read as its source, and then as a span or a pointer;
* `Report.Head` — what an item says besides its locations;
* `Report.message_table` — an item is read as its head, and then its locations;
* `Report.messagesFrom_eq_ok_iff` — items are messages exactly if each one is;
* `Report.lt_depth_of_message` — an item fails over a value nested too deeply only if it is nested
  deeper itself;
* `Report.ofValue_error_cases` — a report is refused for its form, because of an infinite number,
  or because of a value nested too deeply.

Design notes: nothing that stands in a head is read as an integer, so whatever goes wrong with a
number goes wrong after it.  Texts are made of values in all parts of an item, positions aside.
-/
import LintReport.Proofs.Printing
import LintReport.Proofs.Reports

namespace LintReport

open Outcome

/-- The word of a severity names it. -/
theorem Severity.parse?_word (s : Severity) : parse? s.word = some s := by
  cases s with
  | error => decide +kernel
  | warning => decide +kernel

namespace Report

variable {deepest : Nat} {base : Path}

/-! ### Keys -/

theorem required_eq_ok {fields : Fields} {key : String} {v : Value} :
    required fields key = .ok v ↔ fields.lookup key = some v := by
  unfold required
  cases fields.lookup key with
  | none => simp
  | some v' => simp

theorem required_eq_error {fields : Fields} {key : String} {fault : Fault} :
    required fields key = .error fault ↔ fields.lookup key = none ∧ .missing key = fault := by
  unfold required
  cases fields.lookup key with
  | none => simp
  | some v => simp

/-- The text of a text is the text itself. -/
@[simp] theorem printed_text (deepest : Nat) (s : String) : printed deepest (.text s) = .ok s := rfl

theorem printed_eq_ok {v : Value} {s : String} (h : printed deepest v = .ok s) : s = v.shown := by
  rw [printed, Value.shown?, mapError_eq_ok] at h
  obtain ⟨-, -, h⟩ := bind_eq_ok.mp h
  exact (Except.ok.inj h).symm

theorem mapM_printed_text (deepest : Nat) (ss : List String) :
    (ss.map Value.text).mapM (printed deepest) = .ok ss := by
  rw [mapM_eq_ok_iff, List.forall₂_map_left_iff]
  exact List.forall₂_same.mpr fun s _ => printed_text deepest s

/-! ### Locations -/

/-- The source of a location. -/
def sourceOf (deepest : Nat) (base : Path) (fields : Fields) : Except Fault Source :=
  required fields "source" >>= source deepest base

/-- The location of fields with a start. -/
def spanOf (deepest : Nat) (fields : Fields) (src : Source) (start : Value) :
    Except Fault Location := do
  let start ← position start
  let stop ← (given? fields "end").mapM position
  let pointer ← (given? fields "pointer").mapM (printed deepest)
  .ok (.span ⟨src, start, stop, pointer⟩)

/-- The location of fields without a start. -/
def pointerOf (deepest : Nat) (fields : Fields) (src : Source) : Except Fault Location :=
  match given? fields "pointer" with
  | some p => do
    let pointer ← printed deepest p
    .ok (.pointer src pointer (given? fields "reportOnKey").isSome)
  | none => .error .noPointer

/-- A location is read as its source, and then as a span or a pointer. -/
theorem location_table (fields : Fields) :
    location deepest base (.table fields) = (do
      let src ← sourceOf deepest base fields
      match fields.lookup "start" with
      | some start => spanOf deepest fields src start
      | none => pointerOf deepest fields src) := by
  rw [location, sourceOf, bind_assoc]
  rfl

/-- The source that is read stands in the location. -/
theorem source_spanOf {fields : Fields} {src : Source} {start : Value} {l : Location}
    (h : spanOf deepest fields src start = .ok l) : l.source = src := by
  obtain ⟨p, -, h⟩ := bind_eq_ok.mp h
  obtain ⟨q, -, h⟩ := bind_eq_ok.mp h
  obtain ⟨pointer, -, h⟩ := bind_eq_ok.mp h
  cases h
  rfl

theorem source_pointerOf {fields : Fields} {src : Source} {l : Location}
    (h : pointerOf deepest fields src = .ok l) : l.source = src := by
  unfold pointerOf at h
  split at h
  · obtain ⟨pointer, -, h⟩ := bind_eq_ok.mp h
    cases h
    rfl
  · cases h

/-! ### Single items -/

/-- What an item says besides its locations, which are still to be read. -/
structure Head where
  first : Value
  others : List Value
  suggestions : List Value
  severity : Severity
  text : String
  rule : String

/-- The head of an item. -/
def head (deepest : Nat) (fields : Fields) : Except Fault Head := do
  let .list (first :: others) := (fields.lookup "location").getD .null | .error .noLocation
  let .list suggestions := (given? fields "suggest").getD (.list []) | .error .suggestKind
  let severity ← severity deepest fields
  let text ← printed deepest (← required fields "message")
  let rule ← printed deepest (← required fields "ruleId")
  return ⟨first, others, suggestions, severity, text, rule⟩

theorem severity_of_word {fields : Fields} {s : Severity}
    (h : fields.lookup "severity" = some (.text s.word)) : severity deepest fields = .ok s := by
  simp only [severity, required_eq_ok.mpr h, ok_bind, printed_text, Severity.parse?_word]

/-- The message of an item whose head is read. -/
def Head.message (deepest : Nat) (base : Path) (fields : Fields) (h : Head) :
    Except Fault (Logged Message) := do
  let primary ← location deepest base h.first
  let others ← h.others.mapM (location deepest base)
  let suggestions ← h.suggestions.mapM (printed deepest)
  let ignored ← ignored deepest fields
  let origin ← (given? fields "from").mapM (location deepest base)
  .ok do
    Message.noteDropped h.rule (others.length + 1)
    pure ⟨h.severity, h.text, h.rule, primary, others.head?, suggestions, ignored, origin⟩

/-- An item is read as its head, and then its locations. -/
theorem message_table (fields : Fields) :
    message deepest base (.table fields)
      = head deepest fields >>= fun h => h.message deepest base fields := by
  rw [message, head]
  cases (fields.lookup "location").getD .null with
  | list locations =>
    cases locations with
    | nil => rfl
    | cons first others =>
      cases (given? fields "suggest").getD (.list []) with
      | list suggestions =>
        simp only [bind_assoc, pure_bind]
        rfl
      | _ => rfl
  | _ => rfl

/-- What a head is read from: the list of locations, and that of the suggestions if there is one. -/
theorem of_head {fields : Fields} {h : Head} (hhead : head deepest fields = .ok h) :
    fields.lookup "location" = some (.list (h.first :: h.others)) ∧
      (given? fields "suggest").getD (.list []) = .list h.suggestions := by
  unfold head at hhead
  split at hhead
  · rename_i first others hlocation
    split at hhead
    · rename_i suggestions hsuggest
      obtain ⟨severity, -, hhead⟩ := bind_eq_ok.mp hhead
      obtain ⟨raw, -, hhead⟩ := bind_eq_ok.mp hhead
      obtain ⟨text, -, hhead⟩ := bind_eq_ok.mp hhead
      obtain ⟨raw, -, hhead⟩ := bind_eq_ok.mp hhead
      obtain ⟨rule, -, hhead⟩ := bind_eq_ok.mp hhead
      cases hhead
      refine ⟨?_, hsuggest⟩
      cases hlookup : fields.lookup "location" with
      | none =>
        rw [hlookup] at hlocation
        cases hlocation
      | some locations =>
        rw [hlookup, Option.getD_some] at hlocation
        rw [hlocation]
    · cases hhead
  · cases hhead

/-! ### Lists of items -/

/-- Items are messages exactly if each one is, and then in their order. -/
theorem messagesFrom_eq_ok_iff {i : Nat} {items : List Value} {ms : List Message} :
    (messagesFrom deepest base i items).outcome = .ok ms
      ↔ List.Forall₂ (fun item m => Logged.value <$> message deepest base item = .ok m)
        items ms := by
  induction items generalizing i ms with
  | nil =>
    rw [List.forall₂_nil_left_iff]
    show Except.ok [] = Except.ok ms ↔ _
    rw [Except.ok.injEq]
    exact eq_comm
  | cons item rest ih =>
    rw [List.forall₂_cons_left_iff]
    cases hitem : message deepest base item with
    | error fault =>
      rw [messagesFrom_cons_of_error hitem]
      refine iff_of_false (by simp) ?_
      rintro ⟨m, ms', h, -⟩
      cases h
    | ok logged =>
      rw [messagesFrom_cons hitem, map_eq_ok]
      constructor
      · rintro ⟨ms', hrest, rfl⟩
        exact ⟨logged.value, ms', rfl, ih.mp hrest, rfl⟩
      · rintro ⟨m, ms', hm, hrest, rfl⟩
        cases hm
        exact ⟨ms', ih.mpr hrest, rfl⟩

/-! ### What is nested too deeply -/

/-- What is read fails over a value nested too deeply only if the limit is below a depth. -/
def FailsBelow {α : Type} (deepest depth : Nat) (x : Except Fault α) : Prop :=
  x = .error (.unprintable .tooDeep) → deepest < depth

section

variable {α β : Type} {depth : Nat} {x : Except Fault α}

theorem FailsBelow.of_ne (h : x ≠ .error (.unprintable .tooDeep)) : FailsBelow deepest depth x :=
  fun hx => absurd hx h

theorem FailsBelow.bind {f : α → Except Fault β} (hx : FailsBelow deepest depth x)
    (hf : ∀ a, x = .ok a → FailsBelow deepest depth (f a)) :
    FailsBelow deepest depth (x >>= f) := by
  intro h
  rcases bind_eq_error.mp h with h | ⟨a, ha, h⟩
  · exact hx h
  · exact hf a ha h

theorem FailsBelow.mapM {f : β → Except Fault α} {xs : List β}
    (hf : ∀ b ∈ xs, FailsBelow deepest depth (f b)) : FailsBelow deepest depth (xs.mapM f) := by
  intro h
  obtain ⟨before, b, after, rfl, -, hb⟩ := mapM_eq_error_iff.mp h
  exact hf b (List.mem_append_right _ List.mem_cons_self) hb

theorem FailsBelow.optionMapM {f : β → Except Fault α} {b? : Option β}
    (hf : ∀ b, b? = some b → FailsBelow deepest depth (f b)) :
    FailsBelow deepest depth (b?.mapM f) := by
  intro h
  obtain ⟨b, hb, h⟩ := optionMapM_eq_error.mp h
  exact hf b hb h

end

theorem failsBelow_printed {depth : Nat} {v : Value} (hdepth : v.depth ≤ depth) :
    FailsBelow deepest depth (printed deepest v) := by
  intro h
  rw [printed, Value.shown?, mapError_eq_error] at h
  obtain ⟨e, h, he⟩ := h
  obtain rfl := Fault.unprintable.inj he
  rcases bind_eq_error.mp h with h | ⟨-, -, h⟩
  · exact Nat.lt_of_lt_of_le (Value.lt_depth_of_check deepest v h) hdepth
  · cases h

theorem failsBelow_required {depth : Nat} {fields : Fields} {key : String} :
    FailsBelow deepest depth (required fields key) := by
  refine .of_ne fun h => ?_
  obtain ⟨-, h⟩ := required_eq_error.mp h
  cases h

/-- No text is made in reading a position. -/
theorem failsBelow_position {depth : Nat} {v : Value} : FailsBelow deepest depth (position v) := by
  have hinteger : ∀ (fields : Fields) (key : String),
      FailsBelow deepest depth (integer fields key) := by
    refine fun fields key => failsBelow_required.bind fun raw _ => .of_ne ?_
    split
    · simp
    · simp
  cases v with
  | table fields =>
    refine (hinteger _ _).bind fun line _ => (hinteger _ _).bind fun column _ => ?_
    exact .of_ne (by simp)
  | _ => exact .of_ne (by simp [position])

/-- The value of a key in a table is nested less deeply than the table. -/
theorem depth_le_of_given? {fields : Fields} {key : String} {v : Value}
    (h : given? fields key = some v) : v.depth ≤ (Value.table fields).depth := by
  obtain ⟨hlookup, -⟩ := Option.filter_eq_some_iff.mp h
  exact Nat.le_of_lt (Value.depth_lt_of_lookup hlookup)

theorem depth_le_of_required {fields : Fields} {key : String} {v : Value}
    (h : required fields key = .ok v) : v.depth ≤ (Value.table fields).depth :=
  Nat.le_of_lt (Value.depth_lt_of_lookup (required_eq_ok.mp h))

theorem failsBelow_source {depth : Nat} {v : Value} (hdepth : v.depth ≤ depth) :
    FailsBelow deepest depth (source deepest base v) := by
  cases v with
  | table fields =>
    refine failsBelow_required.bind fun raw hraw => ?_
    refine (failsBelow_printed ((depth_le_of_required hraw).trans hdepth)).bind fun ref _ => ?_
    refine FailsBelow.bind (.of_ne ?_) fun ref _ => .of_ne ?_
    · unfold absoluteRef
      split
      · simp
      · split
        · simp
        · simp
    · split
      · simp
      · simp
  | _ => exact .of_ne (by simp [source])

theorem failsBelow_location {depth : Nat} {v : Value} (hdepth : v.depth ≤ depth) :
    FailsBelow deepest depth (location deepest base v) := by
  cases v with
  | table fields =>
    rw [location_table]
    have hsource : FailsBelow deepest depth (sourceOf deepest base fields) :=
      failsBelow_required.bind fun raw hraw =>
        failsBelow_source ((depth_le_of_required hraw).trans hdepth)
    refine hsource.bind fun src _ => ?_
    split
    · refine failsBelow_position.bind fun start _ => ?_
      refine (FailsBelow.optionMapM fun _ _ => failsBelow_position).bind fun stop _ => ?_
      refine (FailsBelow.optionMapM fun p hp => ?_).bind fun pointer _ => .of_ne (by simp)
      exact failsBelow_printed ((depth_le_of_given? hp).trans hdepth)
    · unfold pointerOf
      split
      · rename_i p hp
        refine (failsBelow_printed ((depth_le_of_given? hp).trans hdepth)).bind fun _ _ => ?_
        exact .of_ne (by simp)
      · exact .of_ne (by simp)
  | _ => exact .of_ne (by simp [location])

theorem failsBelow_head {fields : Fields} :
    FailsBelow deepest (Value.table fields).depth (head deepest fields) := by
  have htext : ∀ key : String, FailsBelow deepest (Value.table fields).depth
      (required fields key >>= printed deepest) := fun key =>
    failsBelow_required.bind fun raw hraw => failsBelow_printed (depth_le_of_required hraw)
  have hseverity : FailsBelow deepest (Value.table fields).depth (severity deepest fields) := by
    unfold severity
    rw [← bind_assoc]
    refine (htext "severity").bind fun raw _ => .of_ne ?_
    split
    · simp
    · simp
  unfold head
  split
  · split
    · refine hseverity.bind fun s _ => ?_
      rw [← bind_assoc]
      refine (htext "message").bind fun text _ => ?_
      rw [← bind_assoc]
      exact (htext "ruleId").bind fun rule _ => .of_ne (by simp)
    · exact .of_ne (by simp)
  · exact .of_ne (by simp)

theorem failsBelow_ignored {fields : Fields} :
    FailsBelow deepest (Value.table fields).depth (ignored deepest fields) := by
  unfold ignored
  split
  · exact .of_ne (by simp)
  · exact .of_ne (by simp)
  · rename_i v _ hv
    intro h
    unfold Fault.ofIgnored at h
    split at h
    · cases h
    · rename_i e he
      obtain rfl := Fault.unprintable.inj (Except.error.inj h)
      exact (Value.lt_depth_of_check deepest v he).trans (Value.depth_lt_of_lookup hv)

/-- **An item fails over a value nested too deeply** only if it is nested deeper than the limit
itself. -/
theorem lt_depth_of_message {v : Value}
    (h : message deepest base v = .error (.unprintable .tooDeep)) : deepest < v.depth := by
  cases v with
  | table fields =>
    rw [message_table] at h
    refine failsBelow_head.bind (fun h hhead => ?_) h
    obtain ⟨hlocations, hsuggestions⟩ := of_head hhead
    -- what the head leaves to be read stands in one of the two lists
    have hlocation : ∀ l ∈ h.first :: h.others, l.depth ≤ (Value.table fields).depth := fun l hl =>
      ((Value.depth_lt_of_mem hl).trans (Value.depth_lt_of_lookup hlocations)).le
    have hsuggestion : ∀ s ∈ h.suggestions, s.depth ≤ (Value.table fields).depth := by
      intro s hs
      cases hgiven : given? fields "suggest" with
      | none =>
        rw [hgiven, Option.getD_none, Value.list.injEq] at hsuggestions
        rw [← hsuggestions] at hs
        cases hs
      | some v =>
        rw [hgiven, Option.getD_some] at hsuggestions
        subst hsuggestions
        exact (Value.depth_lt_of_mem hs).le.trans (depth_le_of_given? hgiven)
    rw [List.forall_mem_cons] at hlocation
    refine (failsBelow_location hlocation.1).bind fun primary _ => ?_
    refine (FailsBelow.mapM fun l hl => failsBelow_location (hlocation.2 l hl)).bind fun _ _ => ?_
    refine (FailsBelow.mapM fun s hs => failsBelow_printed (hsuggestion s hs)).bind fun _ _ => ?_
    refine failsBelow_ignored.bind fun _ _ => ?_
    refine FailsBelow.bind (.optionMapM fun l hl => ?_) fun _ _ => .of_ne (by simp)
    exact failsBelow_location (depth_le_of_given? hl)
  | _ => cases h

/-! ### Refusals -/

/-- A decoded report is refused for its form, because of an infinite number, or because of a value
nested too deeply. -/
theorem ofValue_error_cases {v : Value} {e : Error}
    (h : (ofValue deepest base v).outcome = .error e) :
    e.isFormat = true ∨ e = .infinite ∨ e = .deepValue := by
  cases hitems : items? v with
  | none =>
    obtain rfl := Except.error.inj ((outcome_ofValue_of_none hitems).symm.trans h)
    exact .inl rfl
  | some items =>
    exact messagesFrom_error_cases (outcome_ofValue hitems ▸ h)

end Report

end LintReport
