/-
What is written in the format of reports is read back.

* `Report.WritesSource`, `Report.WritesPosition`, `Report.WritesLocation`,
  `Report.WritesMessage` — a value says all of a source, a position, a location, a message;
* `Report.writesMessage_write` — what is written of a message says all of it;
* `Message.IsExpressible` — the paths of a message are absolute, and its pointers are not empty;
* `Report.ofValue_of_written` — written messages are read back exactly if they are expressible.

Design notes: a table says what its keys say, in whatever order they stand and whatever other keys
there are.  Values that count as not given are where a reader could go astray: an empty text, an
empty list and `false` are read back, and only an empty pointer is taken for none.
-/
import LintReport.Proofs.Items

namespace LintReport

open Outcome

/-! ### Pairs -/

section

variable {α β : Type} {writes : α → β → Prop} {reads : β → α → Prop} {good : α → Prop}

/-- What is written element by element is read so exactly if each element is good, if that holds
of single elements. -/
theorem forall₂_reads_iff {as : List α} {bs : List β} (h : List.Forall₂ writes as bs)
    (hreads : ∀ a b, writes a b → (reads b a ↔ good a)) :
    List.Forall₂ reads bs as ↔ ∀ a ∈ as, good a := by
  induction h with
  | nil => simp
  | cons hab _ ih => rw [List.forall₂_cons, hreads _ _ hab, ih, List.forall_mem_cons]

theorem optionRel_reads_iff {x : Option α} {y : Option β} (h : Option.Rel writes x y)
    (hreads : ∀ a b, writes a b → (reads b a ↔ good a)) :
    Option.Rel reads y x ↔ ∀ a ∈ x.toList, good a := by
  cases h with
  | none => simp
  | @some a b hab =>
    rw [Option.toList_some, List.forall_mem_singleton, ← hreads _ _ hab]
    constructor
    · rintro ⟨h⟩
      exact h
    · exact .some

end

/-- A list of at most one element is its head. -/
theorem toList_head? {α : Type} {xs : List α} (h : xs.length ≤ 1) : xs.head?.toList = xs := by
  cases xs with
  | nil => rfl
  | cons x xs =>
    obtain rfl : xs = [] := List.eq_nil_of_length_eq_zero (by simpa using h)
    rfl

/-! ### What can be said -/

/-- Locations that the format can express: the path is absolute, and a pointer is not empty. -/
def Location.IsExpressible : Location → Prop
  | .span s => Path.isAbsolute s.source.ref = true ∧ s.pointer ≠ some ""
  | .pointer src p _ => Path.isAbsolute src.ref = true ∧ p ≠ ""

/-- Messages all of whose locations the format can express. -/
def Message.IsExpressible (m : Message) : Prop :=
  ∀ l ∈ m.locations ++ m.origin.toList, l.IsExpressible

/-- The normal form of a path is absolute. -/
theorem Path.isAbsolute_resolved (p : Path) : isAbsolute p.resolved = true := by
  rw [isAbsolute, resolved, String.toList_append]
  rfl

namespace Report

variable {deepest : Nat} {base : Path}

/-- A value says all of a source. -/
inductive WritesSource (s : Source) : Value → Prop
  | table {fields : Fields} (href : fields.lookup "absoluteRef" = some (.text s.ref))
      (hbody : fields.lookup "body" = s.body.map .text) : WritesSource s (.table fields)

/-- A value says all of a position. -/
inductive WritesPosition (p : Position) : Value → Prop
  | table {fields : Fields} (hline : fields.lookup "line" = some (.int p.line))
      (hcolumn : fields.lookup "col" = some (.int p.column)) : WritesPosition p (.table fields)

/-- A value says all of a location. -/
inductive WritesLocation : Location → Value → Prop
  | span {s : Span} {fields : Fields} {source start : Value}
      (hlookup : fields.lookup "source" = some source) (hsource : WritesSource s.source source)
      (hstart : fields.lookup "start" = some start) (hposition : WritesPosition s.start start)
      (hstop : Option.Rel WritesPosition s.stop (fields.lookup "end"))
      (hpointer : fields.lookup "pointer" = s.pointer.map .text) :
      WritesLocation (.span s) (.table fields)
  | pointer {src : Source} {p : String} {onKey : Bool} {fields : Fields} {source : Value}
      (hlookup : fields.lookup "source" = some source) (hsource : WritesSource src source)
      (hstart : fields.lookup "start" = none) (hpointer : fields.lookup "pointer" = some (.text p))
      (honKey : fields.lookup "reportOnKey" = some (.bool onKey)) :
      WritesLocation (.pointer src p onKey) (.table fields)

/-- A value says all of a message. -/
inductive WritesMessage (m : Message) : Value → Prop
  | table {fields : Fields} {locations : List Value}
      (hseverity : fields.lookup "severity" = some (.text m.severity.word))
      (htext : fields.lookup "message" = some (.text m.text))
      (hrule : fields.lookup "ruleId" = some (.text m.rule))
      (hsuggestions : fields.lookup "suggest" = some (.list (m.suggestions.map .text)))
      (hignored : fields.lookup "ignored" = some (.bool m.ignored))
      (hlookup : fields.lookup "location" = some (.list locations))
      (hlocations : List.Forall₂ WritesLocation m.locations locations)
      (horigin : Option.Rel WritesLocation m.origin (fields.lookup "from")) :
      WritesMessage m (.table fields)

/-! ### What is written -/

theorem writesSource_write (s : Source) : WritesSource s (writeSource s) := by
  refine .table rfl ?_
  cases s.body with
  | none => rfl
  | some body => rfl

theorem writesPosition_write (p : Position) : WritesPosition p (writePosition p) :=
  .table rfl rfl

theorem writesLocation_write (l : Location) : WritesLocation l (writeLocation l) := by
  cases l with
  | pointer src p onKey => exact .pointer rfl (writesSource_write src) rfl rfl rfl
  | span s =>
    obtain ⟨src, start, stop, pointer⟩ := s
    refine .span rfl (writesSource_write src) rfl (writesPosition_write start) ?_ ?_
    · cases stop with
      | some p => exact .some (writesPosition_write p)
      | none =>
        cases pointer with
        | some p => exact .none
        | none => exact .none
    · cases stop with
      | some p =>
        cases pointer with
        | some p => rfl
        | none => rfl
      | none =>
        cases pointer with
        | some p => rfl
        | none => rfl

/-- What is written of a message says all of it. -/
theorem writesMessage_write (m : Message) : WritesMessage m (write m) := by
  have hlocations : List.Forall₂ WritesLocation m.locations (m.locations.map writeLocation) := by
    rw [List.forall₂_map_right_iff]
    exact List.forall₂_same.mpr fun l _ => writesLocation_write l
  refine .table ?_ ?_ ?_ ?_ ?_ ?_ hlocations ?horigin
  case horigin =>
    cases horigin : m.origin with
    | none => exact .none
    | some l => exact .some (writesLocation_write l)
  all_goals simp [List.lookup_cons]

/-! ### What is read -/

/-- An absolute path stands for itself, and no other path does. -/
theorem absoluteRef_eq_self_iff (base : Path) {ref : String} :
    absoluteRef base ref = .ok ref ↔ Path.isAbsolute ref = true := by
  unfold absoluteRef
  cases habsolute : Path.isAbsolute ref with
  | true => simp
  | false =>
    refine iff_of_false ?_ (by simp)
    rw [if_neg (by simp)]
    split
    · simp
    · intro h
      rw [← Except.ok.inj h, Path.isAbsolute_resolved] at habsolute
      cases habsolute

theorem source_of_writes (deepest : Nat) (base : Path) {s : Source} {v : Value}
    (h : WritesSource s v) :
    source deepest base v = .ok s ↔ Path.isAbsolute s.ref = true := by
  cases h with
  | @table fields href hbody =>
    have hread : source deepest base (.table fields)
        = (fun ref => ⟨ref, s.body⟩) <$> absoluteRef base s.ref := by
      rw [source, required_eq_ok.mpr href, ok_bind, printed_text, ok_bind, hbody]
      cases s.body with
      | none => rfl
      | some body => rfl
    rw [hread, map_eq_ok, ← absoluteRef_eq_self_iff base]
    constructor
    · rintro ⟨ref, href, h⟩
      rw [href, ← h]
    · intro h
      exact ⟨s.ref, h, rfl⟩

theorem position_of_writes {p : Position} {v : Value} (h : WritesPosition p v) :
    position v = .ok p := by
  cases h with
  | table hline hcolumn =>
    simp only [position, integer, required_eq_ok.mpr hline, required_eq_ok.mpr hcolumn, ok_bind,
      Value.toInt]

theorem isTruthy_of_writesPosition {p : Position} {v : Value} (h : WritesPosition p v) :
    v.isTruthy = true := by
  cases h with
  | @table fields hline hcolumn =>
    cases fields with
    | nil => cases hline
    | cons f fields => rfl

theorem isTruthy_of_writesLocation {l : Location} {v : Value} (h : WritesLocation l v) :
    v.isTruthy = true := by
  have htable : ∀ {fields : Fields} {v : Value}, fields.lookup "source" = some v →
      (Value.table fields).isTruthy = true := by
    intro fields v h
    cases fields with
    | nil => cases h
    | cons f fields => rfl
  cases h with
  | span hlookup => exact htable hlookup
  | pointer hlookup => exact htable hlookup

/-- A value that may be missing is given if it is there, where it counts as given. -/
theorem given?_of_rel {α : Type} {writes : α → Value → Prop} {x : Option α} {fields : Fields}
    {key : String} (htruthy : ∀ {a v}, writes a v → v.isTruthy = true)
    (h : Option.Rel writes x (fields.lookup key)) : Option.Rel writes x (given? fields key) := by
  unfold given?
  generalize fields.lookup key = found at h ⊢
  cases h with
  | none => exact .none
  | @some a v h =>
    rw [Option.filter_some, if_pos (htruthy h)]
    exact .some h

/-- A pointer that may be missing is read back unless it is empty. -/
theorem given?_pointer {fields : Fields} {pointer : Option String}
    (h : fields.lookup "pointer" = pointer.map .text) :
    (given? fields "pointer").mapM (printed deepest) = .ok pointer ↔ pointer ≠ some "" := by
  rw [given?, h]
  cases pointer with
  | none => simp
  | some p =>
    by_cases hp : p = ""
    · have hfalsy : (Value.text p).isTruthy = false := by simpa [Value.isTruthy] using hp
      rw [Option.map_some, Option.filter_some, if_neg (by rw [hfalsy]; exact Bool.false_ne_true)]
      simp [hp]
    · have htruthy : (Value.text p).isTruthy = true := by simpa [Value.isTruthy] using hp
      simp [Option.filter_some, htruthy, hp]

theorem spanOf_of_writes {s : Span} {fields : Fields} {start : Value}
    (hposition : WritesPosition s.start start)
    (hstop : Option.Rel WritesPosition s.stop (fields.lookup "end"))
    (hpointer : fields.lookup "pointer" = s.pointer.map .text) :
    spanOf deepest fields s.source start = .ok (.span s) ↔ s.pointer ≠ some "" := by
  have hread : (given? fields "end").mapM position = .ok s.stop := by
    have hgiven := given?_of_rel isTruthy_of_writesPosition hstop
    have hreads : ∀ p v, WritesPosition p v → (position v = .ok p ↔ True) :=
      fun _ _ h => iff_of_true (position_of_writes h) trivial
    exact optionMapM_eq_ok.mpr ((optionRel_reads_iff hgiven hreads).mpr fun _ _ => trivial)
  have hgiven : (given? fields "pointer").mapM (printed deepest) = .ok s.pointer
      ↔ s.pointer ≠ some "" := given?_pointer hpointer
  rw [spanOf, position_of_writes hposition, ok_bind, hread, ok_bind, ← hgiven, bind_eq_ok]
  constructor
  · rintro ⟨pointer, h, hspan⟩
    obtain rfl : pointer = s.pointer := congrArg Location.pointer? (Except.ok.inj hspan)
    exact h
  · intro h
    exact ⟨_, h, rfl⟩

theorem pointerOf_of_writes {src : Source} {p : String} {onKey : Bool} {fields : Fields}
    (hpointer : fields.lookup "pointer" = some (.text p))
    (honKey : fields.lookup "reportOnKey" = some (.bool onKey)) :
    pointerOf deepest fields src = .ok (.pointer src p onKey) ↔ p ≠ "" := by
  have hflag : (given? fields "reportOnKey").isSome = onKey := by
    rw [given?, honKey]
    cases onKey with
    | true => rfl
    | false => rfl
  have hgiven : (given? fields "pointer").mapM (printed deepest) = .ok (some p)
      ↔ some p ≠ some "" := given?_pointer hpointer
  rw [pointerOf, hflag]
  cases hp : given? fields "pointer" with
  | none =>
    rw [hp] at hgiven
    simpa using hgiven
  | some v =>
    rw [hp] at hgiven
    cases hv : printed deepest v with
    | error e => simpa [hv] using hgiven
    | ok pointer => simpa [hv] using hgiven

/-- What says all of a location is read as that location exactly if it is expressible. -/
theorem location_of_writes (deepest : Nat) (base : Path) {l : Location} {v : Value}
    (h : WritesLocation l v) :
    location deepest base v = .ok l ↔ l.IsExpressible := by
  cases h with
  | @span s fields source start hlookup hsource hstart hposition hstop hpointer =>
    have hsourceOf : sourceOf deepest base fields = Report.source deepest base source := by
      rw [sourceOf, required_eq_ok.mpr hlookup, ok_bind]
    rw [location_table, hsourceOf, hstart, bind_eq_ok, Location.IsExpressible,
      ← source_of_writes deepest base hsource, ← spanOf_of_writes hposition hstop hpointer]
    constructor
    · rintro ⟨src, hsrc, h⟩
      -- the source that is read stands in the result, so it is the one that is written
      obtain rfl : s.source = src := source_spanOf h
      exact ⟨hsrc, h⟩
    · rintro ⟨hsrc, h⟩
      exact ⟨_, hsrc, h⟩
  | @pointer src p onKey fields source hlookup hsource hstart hpointer honKey =>
    have hsourceOf : sourceOf deepest base fields = Report.source deepest base source := by
      rw [sourceOf, required_eq_ok.mpr hlookup, ok_bind]
    rw [location_table, hsourceOf, hstart, bind_eq_ok, Location.IsExpressible,
      ← source_of_writes deepest base hsource, ← pointerOf_of_writes hpointer honKey]
    constructor
    · rintro ⟨src', hsrc, h⟩
      obtain rfl : src = src' := source_pointerOf h
      exact ⟨hsrc, h⟩
    · rintro ⟨hsrc, h⟩
      exact ⟨_, hsrc, h⟩

/-- The head of an item that says all of a message. -/
theorem head_of_writes {m : Message} {fields : Fields} {first : Value} {others : List Value}
    (hseverity : fields.lookup "severity" = some (.text m.severity.word))
    (htext : fields.lookup "message" = some (.text m.text))
    (hrule : fields.lookup "ruleId" = some (.text m.rule))
    (hsuggestions : fields.lookup "suggest" = some (.list (m.suggestions.map .text)))
    (hlookup : fields.lookup "location" = some (.list (first :: others))) :
    head deepest fields
      = .ok ⟨first, others, m.suggestions.map .text, m.severity, m.text, m.rule⟩ := by
  have hsuggest : (given? fields "suggest").getD (.list []) = .list (m.suggestions.map .text) := by
    rw [given?, hsuggestions]
    cases m.suggestions with
    | nil => rfl
    | cons t ts => rfl
  simp only [head, hlookup, Option.getD_some, hsuggest, severity_of_word hseverity,
    required_eq_ok.mpr htext, required_eq_ok.mpr hrule, ok_bind, printed_text, pure_eq]

/-- The message of an item: its locations are read, its suggestions, its flag, and its origin. -/
theorem Head.message_eq_ok_iff {fields : Fields} {h : Head} {m : Message} :
    Logged.value <$> h.message deepest base fields = .ok m
      ↔ ∃ primary others suggestions b origin, location deepest base h.first = .ok primary ∧
          h.others.mapM (location deepest base) = .ok others ∧
          h.suggestions.mapM (printed deepest) = .ok suggestions ∧
          ignored deepest fields = .ok b ∧
          (given? fields "from").mapM (location deepest base) = .ok origin ∧
          Message.mk h.severity h.text h.rule primary others.head? suggestions b origin = m := by
  rw [Head.message]
  constructor
  · intro hm
    obtain ⟨logged, hm, hvalue⟩ := map_eq_ok.mp hm
    obtain ⟨primary, hp, hm⟩ := bind_eq_ok.mp hm
    obtain ⟨others, hothers, hm⟩ := bind_eq_ok.mp hm
    obtain ⟨suggestions, hs, hm⟩ := bind_eq_ok.mp hm
    obtain ⟨b, hb, hm⟩ := bind_eq_ok.mp hm
    obtain ⟨origin, ho, hm⟩ := bind_eq_ok.mp hm
    cases hm
    exact ⟨primary, others, suggestions, b, origin, hp, hothers, hs, hb, ho, hvalue⟩
  · rintro ⟨primary, others, suggestions, b, origin, hp, hothers, hs, hb, ho, rfl⟩
    rw [hp, hothers, hs, hb, ho]
    rfl

/-- What says all of a message is read as that message exactly if it is expressible. -/
theorem message_of_writes {m : Message} {v : Value} (h : WritesMessage m v) :
    Logged.value <$> message deepest base v = .ok m ↔ m.IsExpressible := by
  cases h with
  | @table fields locations hseverity htext hrule hsuggestions hignored hlookup hlocations
      horigin =>
    obtain ⟨first, others, hfirst, hothers, rfl⟩ := List.forall₂_cons_left_iff.mp hlocations
    have hprimary := location_of_writes deepest base hfirst
    have hsecondary : others.mapM (location deepest base) = .ok m.secondary.toList
        ↔ ∀ l ∈ m.secondary.toList, l.IsExpressible := by
      rw [mapM_eq_ok_iff]
      exact forall₂_reads_iff hothers fun _ _ h => location_of_writes deepest base h
    have horigin : (given? fields "from").mapM (location deepest base) = .ok m.origin
        ↔ ∀ l ∈ m.origin.toList, l.IsExpressible := by
      rw [optionMapM_eq_ok]
      exact optionRel_reads_iff (given?_of_rel isTruthy_of_writesLocation horigin)
        fun _ _ h => location_of_writes deepest base h
    have hread : ignored deepest fields = .ok m.ignored := by rw [ignored, hignored]
    have hexpressible : m.IsExpressible ↔ m.primary.IsExpressible ∧
        (∀ l ∈ m.secondary.toList, l.IsExpressible) ∧
        ∀ l ∈ m.origin.toList, l.IsExpressible := by
      rw [Message.IsExpressible, Message.locations, List.cons_append, List.forall_mem_cons,
        List.forall_mem_append]
    rw [message_table, head_of_writes hseverity htext hrule hsuggestions hlookup, ok_bind,
      Head.message_eq_ok_iff, hexpressible, ← hprimary, ← hsecondary, ← horigin]
    constructor
    · rintro ⟨primary, ls, suggestions, b, origin, hp, hls, -, -, ho, hm⟩
      obtain rfl : primary = m.primary := congrArg Message.primary hm
      obtain rfl : origin = m.origin := congrArg Message.origin hm
      have hhead : ls.head? = m.secondary := congrArg Message.secondary hm
      -- a message has at most two locations, so that none of them is dropped
      have hlength : ls.length ≤ 1 := by
        rw [(of_mapM_eq_ok hls).1, ← hothers.length_eq]
        exact Option.length_toList_le
      refine ⟨hp, ?_, ho⟩
      rw [hls, ← hhead, toList_head? hlength]
    · rintro ⟨hp, hs, ho⟩
      have hhead : m.secondary.toList.head? = m.secondary := by
        cases m.secondary with
        | none => rfl
        | some l => rfl
      refine ⟨_, _, _, _, _, hp, hs, mapM_printed_text deepest _, hread, ho, ?_⟩
      rw [hhead]

/-! ### Whole reports -/

/-- A report holds items: it is their list, or a table with the list as `messages`, or as
`problems` if there are no `messages`. -/
inductive Holds (items : List Value) : Value → Prop
  | bare : Holds items (.list items)
  | messages {fields : Fields} (h : fields.lookup "messages" = some (.list items)) :
      Holds items (.table fields)
  | problems {fields : Fields} (hmessages : fields.lookup "messages" = none)
      (h : fields.lookup "problems" = some (.list items)) : Holds items (.table fields)

theorem items?_of_holds {items : List Value} {v : Value} (h : Holds items v) :
    items? v = some items := by
  cases h with
  | bare => rfl
  | messages h => simp [items?, h]
  | problems hmessages h => simp [items?, hmessages, h]

/-- **Written messages are read back** exactly if they are expressible: what is written of them
says all of them, and a report that holds items which say all of them gives these messages, in
this order. -/
theorem ofValue_of_written (deepest : Nat) (base : Path) (ms : List Message) :
    List.Forall₂ WritesMessage ms (ms.map write) ∧
      ∀ items v, List.Forall₂ WritesMessage ms items → Holds items v →
        ((ofValue deepest base v).outcome = .ok ms ↔ ∀ m ∈ ms, m.IsExpressible) := by
  constructor
  · rw [List.forall₂_map_right_iff]
    exact List.forall₂_same.mpr fun m _ => writesMessage_write m
  · intro items v hwrites hholds
    rw [outcome_ofValue (items?_of_holds hholds), messagesFrom_eq_ok_iff]
    exact forall₂_reads_iff hwrites fun _ _ h => message_of_writes h

/-- A message is read back in which everything is empty, zero or false that may be. -/
theorem ofValue_of_written_blank :
    let src : Source := ⟨"/a.yaml", some ""⟩
    let m : Message := ⟨.warning, "", "", .span ⟨src, ⟨0, 0⟩, some ⟨0, 0⟩, none⟩,
      some (.pointer src "#" false), [], false, some (.pointer ⟨"/b.yaml", none⟩ "#/x" true)⟩
    let v : Value := .table [("total", .int 1), ("problems", .list [write m])]
    List.Forall₂ WritesMessage [m] [write m] ∧ Holds [write m] v ∧
      (∀ m' ∈ [m], m'.IsExpressible) ∧
      (ofValue Limits.usual.printed (.ofString "/proj") v).outcome = .ok [m] := by
  intro src m v
  obtain ⟨hwrites, hread⟩ := ofValue_of_written Limits.usual.printed (.ofString "/proj") [m]
  have hholds : Holds [write m] v := .problems rfl rfl
  have hexpressible : ∀ m' ∈ [m], m'.IsExpressible := by
    rw [List.forall_mem_singleton]
    intro l hl
    have hl : l = m.primary ∨ l = .pointer src "#" false
        ∨ l = .pointer ⟨"/b.yaml", none⟩ "#/x" true := by
      simpa [Message.locations, m] using hl
    have ha : Path.isAbsolute "/a.yaml" = true := by decide
    have hb : Path.isAbsolute "/b.yaml" = true := by decide
    rcases hl with rfl | rfl | rfl
    · exact ⟨ha, by decide⟩
    · exact ⟨ha, by decide⟩
    · exact ⟨hb, by decide⟩
  exact ⟨hwrites, hholds, hexpressible, (hread _ v hwrites hholds).mpr hexpressible⟩

end Report

end LintReport
