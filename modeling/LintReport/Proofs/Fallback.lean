/-
Locations without a span.

* `Location.Broken` — a location whose document cannot be read, or is no document;
* `Location.spanIn_of_broken` — the first position of the document stands in for its span;
* `Message.not_unshowable_of_broken` — a message is shown although its location is broken;
* `Location.resolve_ok_iff` — a location gets a span unless it is faulty, and which one;
* `Location.resolve_of_escape` — a document with an escape past the last code point is no
  document, and yet nothing stands in for the span of a location in it.

Design notes: a broken location and a faulty one are two things.  Of a broken one the resolution
says why it has no span, and goes on; a faulty one ends the rendering.
-/
import LintReport.Proofs.Faults

namespace LintReport

open Outcome

/-- Locations that have no span, which is said and passed over. -/
def Location.Broken (docs : Documents) (l : Location) : Prop :=
  ∃ e, (l.resolve? docs).outcome = .ok (.error e)

namespace Location

variable {docs : Documents} {l : Location}

theorem fallback_eq (l : Location) : l.fallback = ⟨l.source, ⟨1, 1⟩, none, l.pointer?⟩ := rfl

/-- The first position of its document stands in for the span of a broken location. -/
theorem spanIn_of_broken (h : l.Broken docs) : l.spanIn docs = .ok l.fallback := by
  obtain ⟨e, he⟩ := h
  rw [spanIn_eq, he]
  rfl

theorem spanIn_of_resolve? {s : Span} (h : (l.resolve? docs).outcome = .ok (.ok s)) :
    l.spanIn docs = .ok s := by
  rw [spanIn_eq, h]
  rfl

theorem not_faulty_of_broken (h : l.Broken docs) : ¬ l.Faulty docs := by
  rw [← fails_spanIn, spanIn_of_broken h]
  exact not_fails_ok _

/-- The first position of a document can be written. -/
theorem not_unplaceable_of_broken (h : l.Broken docs) : ¬ l.Unplaceable docs := by
  have horigin : Position.origin.isWritable = true := by decide +kernel
  exact not_unplaceable_iff.mpr ⟨l.fallback, spanIn_of_broken h, horigin⟩

/-- The path of the document of a broken location has no null character. -/
theorem text_ne_nullCharacter_of_broken (h : l.Broken docs) :
    (l.source.text docs).outcome ≠ .error .nullCharacter := by
  intro hnull
  cases l with
  | span s =>
    obtain ⟨e, he⟩ := h
    cases he
  | pointer source pointer onKey => exact not_faulty_of_broken h (.path hnull)

end Location

/-- A marker under a span without an end is one column wide, so there is room for it. -/
theorem Excerpt.tooWide?_of_stop_eq_none {lines : List String} {span : Span} (limits : Limits)
    (h : span.stop = none) : tooWide? limits.marker lines span = none := by
  unfold tooWide?
  cases startLine? lines span with
  | none => rfl
  | some line =>
    have hwidth : markerWidth line span = 1 := by rw [markerWidth, h]
    rw [Option.bind_some, hwidth, if_neg (Int.not_lt.mpr limits.one_le_marker)]

/-- A message is shown although its primary location is broken: its other locations are the only
ones that can keep it from being shown. -/
theorem Message.not_unshowable_of_broken {docs : Documents} {m : Message} {layout : Layout}
    (hprimary : m.primary.Broken docs)
    (hothers : ∀ l ∈ m.secondary.toList ++ m.origin.toList, ¬ l.Unplaceable docs) :
    ¬ m.Unshowable docs layout := by
  have hspan := Location.spanIn_of_broken hprimary
  intro h
  cases h with
  | primary h => exact Location.not_unplaceable_of_broken hprimary h
  | path hspan' h =>
    obtain rfl := Except.ok.inj (hspan.symm.trans hspan')
    exact Location.text_ne_nullCharacter_of_broken hprimary h
  | marker hspan' htext h =>
    obtain rfl := Except.ok.inj (hspan.symm.trans hspan')
    rw [Excerpt.tooWide?_of_stop_eq_none docs.limits rfl] at h
    cases h
  | origin hl h =>
    refine hothers _ (List.mem_append.mpr (.inr ?_)) h
    rw [hl]
    exact List.mem_singleton_self _
  | secondary hl h =>
    refine hothers _ (List.mem_append.mpr (.inl ?_)) h
    rw [hl]
    exact List.mem_singleton_self _

/-- **A location gets a span exactly if it is not faulty.**  The span lies in the document of the
location; it is the one that is found, or else, for a broken location, the first position of the
document, without an end and with the pointer.  So a broken location never keeps the messages of
a report from being rendered. -/
theorem Location.resolve_ok_iff (docs : Documents) (l : Location) :
    ((∃ s, (l.resolve docs).outcome = .ok s) ↔ ¬ l.Faulty docs) ∧
      (∀ s, (l.resolve docs).outcome = .ok s → s.source = l.source ∧ s.pointer = l.pointer?) ∧
      (∀ s, (l.resolve? docs).outcome = .ok (.ok s) → (l.resolve docs).outcome = .ok s) ∧
      (l.Broken docs →
        (l.resolve docs).outcome = .ok ⟨l.source, ⟨1, 1⟩, none, l.pointer?⟩ ∧
        ∀ (env : Environment) (here : String) (o : RenderOptions) (palette : Option Palette)
          (msgs : List Message),
          0 ≤ o.maxMessages → Text.Numeral.isWritable msgs.length = true →
          (∀ m ∈ msgs, m.primary = l →
            ∀ other ∈ m.secondary.toList ++ m.origin.toList, ¬ other.Unplaceable docs) →
          (∀ m ∈ msgs, m.primary ≠ l → ¬ m.Unshowable docs o.layout) →
          ∃ chunks, (renderMessages docs env here o palette msgs).outcome = .ok chunks) := by
  refine ⟨?_, fun s hs => of_spanIn hs, fun s hs => spanIn_of_resolve? hs, fun hbroken => ⟨?_, ?_⟩⟩
  · rw [outcome_resolve, ← fails_spanIn]
    exact not_fails_iff.symm
  · rw [← fallback_eq]
    exact spanIn_of_broken hbroken
  · intro env here o palette msgs hcap hcount hbrokenHere helsewhere
    refine exists_chunks_of_showable hcap hcount fun m hm => ?_
    have hmem := (Selection.mem_visible hm).1
    by_cases hl : m.primary = l
    · exact Message.not_unshowable_of_broken (hl ▸ hbroken) (hbrokenHere m hmem hl)
    · exact helsewhere m hmem hl

/-- A location in a document that is missing gets the first position of the document, and its
message is rendered together with another one. -/
theorem Location.resolve_ok_missing :
    let docs : Documents := ⟨fun ref => .error (.refused .notFound ref), .usual⟩
    let l : Location := .pointer ⟨"/api.yaml", none⟩ "#/paths" true
    let broken : Message := ⟨.error, "m", "r", l, none, [], false, none⟩
    let other : Message :=
      { broken with primary := .span ⟨⟨"/b", some ""⟩, ⟨2, 1⟩, none, none⟩ }
    l.Broken docs ∧
      (l.resolve docs).outcome = .ok ⟨⟨"/api.yaml", none⟩, ⟨1, 1⟩, none, some "#/paths"⟩ ∧
      ∃ chunks, (renderMessages docs ⟨[], none⟩ "/" ⟨1, "/", .stylish, none⟩ none
        [broken, other]).outcome = .ok chunks := by
  intro docs l broken other
  have hbroken : l.Broken docs := ⟨.unreadable "/api.yaml" (.refused .notFound "/api.yaml"), rfl⟩
  obtain ⟨hspan, hrenders⟩ := (resolve_ok_iff docs l).2.2.2 hbroken
  have hcount : Text.Numeral.isWritable ([broken, other].length : Nat) = true := by decide +kernel
  have helsewhere : ∀ m ∈ [broken, other], m.primary ≠ l → ¬ m.Unshowable docs .stylish := by
    intro m hm hl h
    have hother : m = other := by
      rcases List.mem_cons.mp hm with rfl | hm
      · exact absurd rfl hl
      · exact List.mem_singleton.mp hm
    subst hother
    have hwritable : other.primary.spanIn docs
        = .ok ⟨⟨"/b", some ""⟩, ⟨2, 1⟩, none, none⟩ := rfl
    cases h with
    | primary h => exact not_unplaceable_iff.mpr ⟨_, hwritable, by decide +kernel⟩ h
    | secondary hl h => cases hl
  refine ⟨hbroken, hspan,
    hrenders _ _ ⟨1, "/", .stylish, none⟩ _ _ (by decide) hcount ?_ helsewhere⟩
  intro m hm hl l' hl'
  rcases List.mem_cons.mp hm with rfl | hm
  · cases hl'
  · obtain rfl := List.mem_singleton.mp hm
    cases hl'

/-- A text with an escape past the last code point is no document, but a location in it is not
broken: it gets no span at all, and keeps the other message of its report from being rendered. -/
theorem Location.resolve_of_escape :
    let docs : Documents := ⟨fun ref => .error (.refused .notFound ref), .usual⟩
    let l : Location := .pointer ⟨"/proj/doc.yaml", some "\"\\U00110000\""⟩ "#/a" false
    let faulty : Message := ⟨.error, "m", "r", l, none, [], false, none⟩
    let other : Message :=
      { faulty with primary := .span ⟨⟨"/b", some ""⟩, ⟨2, 1⟩, none, none⟩ }
    (l.resolve docs).outcome = .error (.codePoint 0x110000) ∧
      ¬ (∃ s, (l.resolve docs).outcome = .ok s) ∧
      ¬ ∃ chunks, (renderMessages docs ⟨[], none⟩ "/" ⟨100, "/", .codeframe, none⟩ none
        [faulty, other]).outcome = .ok chunks := by
  intro docs l faulty other
  have hescape : (l.resolve docs).outcome = .error (.codePoint 0x110000) := by decide +kernel
  have hfaulty : l.Faulty docs := (fails_spanIn l).mp ⟨_, hescape⟩
  refine ⟨hescape, ?_, ?_⟩
  · rintro ⟨s, hs⟩
    rw [hescape] at hs
    cases hs
  · rw [← not_fails_iff, not_not, fails_renderMessages]
    have hvisible : faulty ∈ (Selection.ofMessages [faulty, other] 100).visible := by
      rw [Selection.ofMessages_eq]
      exact List.mem_cons_self
    exact .message hvisible (.primary (.faulty hfaulty))

end LintReport
