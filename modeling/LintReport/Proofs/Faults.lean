/-
What keeps messages from being shown.

* `Location.Faulty` — a location that can be neither resolved nor passed over;
* `Location.Unplaceable` — such a location, or one with a position that cannot be written;
* `Message.Unshowable` — a message that a layout fails on;
* `Trouble` — the causes on which a rendering fails;
* `fails_renderMessages` — a rendering fails for one of these causes, and for no other;
* `exists_chunks_of_showable` — a rendering whose visible messages can be shown does not fail.

Design notes: a document that cannot be read, or that is no document, is not among the causes:
an excerpt is left out then, and a location is taken for the first position of its document.
-/
import LintReport.Proofs.Layouts
import LintReport.Proofs.Numerals

namespace LintReport

open Outcome

/-! ### Locations -/

/-- Locations that can be neither resolved nor passed over. -/
inductive Location.Faulty (docs : Documents) : Location → Prop
  /-- The path of the document has a null character. -/
  | path {source : Source} {pointer : String} {onKey : Bool}
      (h : (source.text docs).outcome = .error .nullCharacter) :
      Faulty docs (.pointer source pointer onKey)
  /-- The document has an escape that names no character. -/
  | codePoint {source : Source} {pointer : String} {onKey : Bool} {text : String} {code : Nat}
      (htext : (source.text docs).outcome = .ok text)
      (h : Yaml.compose docs.limits.document text.toList = .error (.codePoint code)) :
      Faulty docs (.pointer source pointer onKey)
  /-- The document has a version number that is too long. -/
  | numeral {source : Source} {pointer : String} {onKey : Bool} {text : String}
      {e : Text.Numeral.Error} (htext : (source.text docs).outcome = .ok text)
      (h : Yaml.compose docs.limits.document text.toList = .error (.numeral e)) :
      Faulty docs (.pointer source pointer onKey)
  /-- A segment looks like the number of an item and is none. -/
  | segment {source : Source} {pointer : String} {onKey : Bool} {text : String}
      {d : Yaml.Document} {e : Text.Numeral.Error} (htext : (source.text docs).outcome = .ok text)
      (hd : Yaml.compose docs.limits.document text.toList = .ok (some d))
      (h : d.walk d.root none (Pointer.parse pointer) = .error e) :
      Faulty docs (.pointer source pointer onKey)

namespace Location

variable {docs : Documents} {source : Source} {ref pointer : String} {onKey : Bool}

theorem fails_target {d : Yaml.Document} :
    Fails (target d ref pointer onKey).outcome
      ↔ Fails (d.walk d.root none (Pointer.parse pointer)) := by
  unfold target
  cases d.walk d.root none (Pointer.parse pointer) with
  | error e => simp
  | ok reached =>
    have hnode : ¬ Fails (Except.ok reached : Except Text.Numeral.Error _) := not_fails_ok _
    refine ⟨fun h => ?_, fun h => absurd h hnode⟩
    cases hmissing : reached.missing with
    | none =>
      simp only [hmissing] at h
      exact absurd h (not_fails_ok _)
    | some segment =>
      simp only [hmissing] at h
      exact absurd h (not_fails_ok _)

theorem fails_readSource :
    Fails (readSource docs source).outcome
      ↔ (source.text docs).outcome = .error .nullCharacter := by
  unfold readSource
  rw [Attempt.outcome_bind, Attempt.outcome_ofLogged_run, ok_bind]
  cases (source.text docs).outcome with
  | ok text => simp
  | error e =>
    cases e with
    | nullCharacter => simp
    | refused e path => simp
    | undecodable e => simp

theorem readSource_eq_ok_ok {text : String} :
    (readSource docs source).outcome = .ok (.ok text)
      ↔ (source.text docs).outcome = .ok text := by
  unfold readSource
  rw [Attempt.outcome_bind, Attempt.outcome_ofLogged_run, ok_bind]
  cases (source.text docs).outcome with
  | ok text => simp
  | error e =>
    cases e with
    | nullCharacter => simp
    | refused e path => simp
    | undecodable e => simp

theorem fails_composeSource {deepest : Nat} {cs : List Char} :
    Fails (composeSource deepest ref cs).outcome
      ↔ (∃ code, Yaml.compose deepest cs = .error (.codePoint code))
        ∨ ∃ e, Yaml.compose deepest cs = .error (.numeral e) := by
  unfold composeSource
  cases Yaml.compose deepest cs with
  | ok d => simp
  | error e => cases e <;> simp

theorem composeSource_eq_ok_ok {deepest : Nat} {cs : List Char} {d : Option Yaml.Document} :
    (composeSource deepest ref cs).outcome = .ok (.ok d) ↔ Yaml.compose deepest cs = .ok d := by
  unfold composeSource
  cases Yaml.compose deepest cs with
  | ok d' => simp
  | error e => cases e <;> simp

theorem fails_resolvePointer :
    Fails (resolvePointer docs source pointer onKey).outcome
      ↔ Faulty docs (.pointer source pointer onKey) := by
  unfold resolvePointer
  rw [Attempt.outcome_bind, fails_bind, fails_readSource]
  constructor
  · -- the steps in their order: the text, the document, and the walk to the node
    rintro (h | ⟨text, htext, h⟩)
    · exact .path h
    · cases text with
      | error e => exact absurd h (not_fails_ok _)
      | ok text =>
        have htext := readSource_eq_ok_ok.mp htext
        rw [Attempt.outcome_bind, fails_bind, fails_composeSource] at h
        rcases h with (⟨code, h⟩ | ⟨e, h⟩) | ⟨composed, hcomposed, h⟩
        · exact .codePoint htext h
        · exact .numeral htext h
        · rcases composed with e | _ | d
          · exact absurd h (not_fails_ok _)
          · exact absurd h (not_fails_ok _)
          · rw [Attempt.outcome_bind, fails_bind, fails_target] at h
            rcases h with ⟨e, h⟩ | ⟨node, -, h⟩
            · exact .segment htext (composeSource_eq_ok_ok.mp hcomposed) h
            · exact absurd h (not_fails_ok _)
  · -- each kind of fault comes in at its own step, and the steps before it succeed
    intro h
    cases h with
    | path h => exact .inl h
    | codePoint htext h =>
      refine .inr ⟨.ok _, readSource_eq_ok_ok.mpr htext, ?_⟩
      rw [Attempt.outcome_bind, fails_bind, fails_composeSource]
      exact .inl (.inl ⟨_, h⟩)
    | numeral htext h =>
      refine .inr ⟨.ok _, readSource_eq_ok_ok.mpr htext, ?_⟩
      rw [Attempt.outcome_bind, fails_bind, fails_composeSource]
      exact .inl (.inr ⟨_, h⟩)
    | segment htext hd h =>
      refine .inr ⟨.ok _, readSource_eq_ok_ok.mpr htext, ?_⟩
      rw [Attempt.outcome_bind, fails_bind]
      refine .inr ⟨.ok (some _), composeSource_eq_ok_ok.mpr hd, ?_⟩
      rw [Attempt.outcome_bind, fails_bind, fails_target]
      exact .inl ⟨_, h⟩

/-- A location has no span exactly if it is faulty. -/
theorem fails_spanIn (l : Location) : Fails (l.spanIn docs) ↔ l.Faulty docs := by
  rw [spanIn_eq, fails_map]
  cases l with
  | span s =>
    refine iff_of_false (not_fails_ok _) fun h => ?_
    cases h
  | pointer source pointer onKey => exact fails_resolvePointer

/-- Locations whose position cannot be told: there is no span, or its position cannot be
written. -/
inductive Unplaceable (docs : Documents) (l : Location) : Prop
  | faulty (h : l.Faulty docs) : Unplaceable docs l
  | position {s : Span} (hs : l.spanIn docs = .ok s) (h : s.start.isWritable = false) :
      Unplaceable docs l

theorem fails_placedIn (l : Location) : Fails (l.placedIn docs) ↔ l.Unplaceable docs := by
  rw [placedIn, fails_bind, fails_spanIn]
  have hplaced : ∀ s : Span, Fails s.placed ↔ s.start.isWritable = false := by
    intro s
    unfold Span.placed
    cases s.start.isWritable with
    | true => simp
    | false => simp
  constructor
  · rintro (h | ⟨s, hs, h⟩)
    · exact .faulty h
    · exact .position hs ((hplaced s).mp h)
  · intro h
    cases h with
    | faulty h => exact .inl h
    | position hs h => exact .inr ⟨_, hs, (hplaced _).mpr h⟩

theorem not_unplaceable_iff {l : Location} :
    ¬ l.Unplaceable docs ↔ ∃ s, l.spanIn docs = .ok s ∧ s.start.isWritable = true := by
  rw [← fails_placedIn, not_fails_iff]
  exact exists_congr fun s => placedIn_eq_ok_iff

end Location

/-! ### Messages -/

/-- Messages that a layout fails on. -/
inductive Message.Unshowable (docs : Documents) (m : Message) : Layout → Prop
  | primary {layout : Layout} (h : m.primary.Unplaceable docs) : Unshowable docs m layout
  /-- The path of the document to cut an excerpt from has a null character. -/
  | path {span : Span} (hspan : m.primary.spanIn docs = .ok span)
      (h : (span.source.text docs).outcome = .error .nullCharacter) : Unshowable docs m .codeframe
  /-- There is no room for the marker under the excerpt. -/
  | marker {span : Span} {text : String} {width : Int} (hspan : m.primary.spanIn docs = .ok span)
      (htext : (span.source.text docs).outcome = .ok text)
      (h : Excerpt.tooWide? docs.limits.marker (Text.lines text) span = some width) :
      Unshowable docs m .codeframe
  | origin {l : Location} (hl : m.origin = some l) (h : l.Unplaceable docs) :
      Unshowable docs m .codeframe
  | secondary {l : Location} (hl : m.secondary = some l) (h : l.Unplaceable docs) :
      Unshowable docs m .stylish

theorem Excerpt.fails_linesFor {docs : Documents} {span : Span} :
    Fails (linesFor docs span)
      ↔ (span.source.text docs).outcome = .error .nullCharacter
        ∨ ∃ text width, (span.source.text docs).outcome = .ok text
          ∧ tooWide? docs.limits.marker (Text.lines text) span = some width := by
  have hlines : (span.source.lines docs).outcome
      = Text.lines <$> (span.source.text docs).outcome := by
    unfold Source.lines
    rw [Attempt.outcome_bind]
    cases (span.source.text docs).outcome with
    | ok text => rfl
    | error e => rfl
  unfold linesFor
  rw [hlines]
  cases (span.source.text docs).outcome with
  | error e =>
    cases e with
    | nullCharacter => simp
    | refused e path => simp
    | undecodable e => simp
  | ok text =>
    cases hwide : tooWide? docs.limits.marker (Text.lines text) span with
    | some width => simp [hwide]
    | none => simp [hwide]

/-- A block cannot be read exactly if its message cannot be shown, or its number be written. -/
theorem Codeframe.Block.fails_ofMessage {docs : Documents} {index : Int} {m : Message} :
    Fails (ofMessage docs index m)
      ↔ m.Unshowable docs .codeframe ∨ Text.Numeral.isWritable (index + 1) = false := by
  unfold ofMessage
  rw [fails_bind, Location.fails_placedIn]
  cases hwritable : Text.Numeral.isWritable (index + 1) with
  | false =>
    -- the number is looked at after the primary location, and before all else
    by_cases hprimary : m.primary.Unplaceable docs
    · exact iff_of_true (.inl hprimary) (.inr rfl)
    · obtain ⟨span, hspan⟩ := not_fails_iff.mp (mt (Location.fails_placedIn _).mp hprimary)
      exact iff_of_true (.inr ⟨span, hspan, fails_error _⟩) (.inr rfl)
  | true =>
    have hrest : ∀ span, Fails (do
          let lines ← Excerpt.linesFor docs span
          let origin ← m.origin.mapM (Location.placedIn docs)
          return ⟨m, index, span, lines, origin⟩ : Except Fault Block)
        ↔ Fails (Excerpt.linesFor docs span) ∨ ∃ l, m.origin = some l ∧ l.Unplaceable docs := by
      intro span
      have horigin : (∃ l, m.origin = some l ∧ Fails (l.placedIn docs))
          ↔ ∃ l, m.origin = some l ∧ l.Unplaceable docs :=
        exists_congr fun l => and_congr_right fun _ => Location.fails_placedIn l
      rw [fails_bind]
      cases hlines : Excerpt.linesFor docs span with
      | error e => simp
      | ok lines =>
        rw [← horigin, ← fails_optionMapM]
        cases m.origin.mapM (Location.placedIn docs) with
        | error e => simp
        | ok origin => simp
    have hunwritable : (m.Unshowable docs .codeframe ∨ true = false)
        ↔ m.Unshowable docs .codeframe := by simp
    rw [hunwritable]
    constructor
    · rintro (h | ⟨span, hspan, h⟩)
      · exact .primary h
      · rcases (hrest span).mp h with h | ⟨l, hl, h⟩
        · rcases Excerpt.fails_linesFor.mp h with h | ⟨text, width, htext, h⟩
          · exact .path (Location.placedIn_eq_ok_iff.mp hspan).1 h
          · exact .marker (Location.placedIn_eq_ok_iff.mp hspan).1 htext h
        · exact .origin hl h
    · intro h
      by_cases hprimary : m.primary.Unplaceable docs
      · exact .inl hprimary
      · obtain ⟨span, hspan⟩ := not_fails_iff.mp (mt (Location.fails_placedIn _).mp hprimary)
        have hfound := (Location.placedIn_eq_ok_iff.mp hspan).1
        refine .inr ⟨span, hspan, (hrest span).mpr ?_⟩
        cases h with
        | primary h => exact absurd h hprimary
        | path hspan' h =>
          obtain rfl := Except.ok.inj (hfound.symm.trans hspan')
          exact .inl (Excerpt.fails_linesFor.mpr (.inl h))
        | marker hspan' htext h =>
          obtain rfl := Except.ok.inj (hfound.symm.trans hspan')
          exact .inl (Excerpt.fails_linesFor.mpr (.inr ⟨_, _, htext, h⟩))
        | origin hl h => exact .inr ⟨_, hl, h⟩

/-- A message cannot be resolved exactly if it cannot be shown as a line. -/
theorem Message.fails_resolvedIn {docs : Documents} {m : Message} :
    Fails (m.resolvedIn docs) ↔ m.Unshowable docs .stylish := by
  constructor
  · -- a message whose locations can all be placed is resolved
    intro hfails
    by_contra hshowable
    have hplaced : ∀ l, m.primary = l ∨ m.secondary = some l →
        ∃ s, l.spanIn docs = .ok s ∧ s.start.isWritable = true := by
      rintro l (rfl | hl)
      · exact Location.not_unplaceable_iff.mp fun h => hshowable (.primary h)
      · exact Location.not_unplaceable_iff.mp fun h => hshowable (.secondary hl h)
    obtain ⟨primary, hprimary, hwritable⟩ := hplaced m.primary (.inl rfl)
    refine not_fails_iff.mpr ?_ hfails
    cases hsecondary : m.secondary with
    | none =>
      refine ⟨⟨m, primary, none⟩,
        Message.resolvedIn_eq_ok_iff.mpr ⟨rfl, hprimary, by rw [hsecondary]; rfl, ?_⟩⟩
      simp [Resolved.isWritable, Resolved.spans, hwritable]
    | some l =>
      obtain ⟨secondary, hfound, hwritable'⟩ := hplaced l (.inr hsecondary)
      have hmap : m.secondary.mapM (Location.spanIn docs) = .ok (some secondary) := by
        rw [hsecondary]
        show some <$> l.spanIn docs = _
        rw [hfound, map_ok]
      refine ⟨⟨m, primary, some secondary⟩,
        Message.resolvedIn_eq_ok_iff.mpr ⟨rfl, hprimary, hmap, ?_⟩⟩
      simp [Resolved.isWritable, Resolved.spans, hwritable, hwritable']
  · -- a resolved message has spans for its locations, with positions that can be written
    intro hunshowable
    by_contra hresolved
    obtain ⟨r, hr⟩ := not_fails_iff.mp hresolved
    obtain ⟨-, hprimary, hsecondary, hwritable⟩ := Message.resolvedIn_eq_ok_iff.mp hr
    rw [Resolved.isWritable, List.all_eq_true] at hwritable
    cases hunshowable with
    | primary h =>
      exact Location.not_unplaceable_iff.mpr
        ⟨_, hprimary, hwritable _ List.mem_cons_self⟩ h
    | secondary hl h =>
      rw [hl] at hsecondary
      obtain ⟨s, hs, hsome⟩ := map_eq_ok.mp hsecondary
      refine Location.not_unplaceable_iff.mpr ⟨s, hs, hwritable s ?_⟩ h
      rw [Resolved.spans, ← hsome]
      exact List.mem_cons_of_mem _ (List.mem_singleton_self s)

/-! ### Renderings -/

/-- The causes on which a rendering fails. -/
inductive Trouble (docs : Documents) (o : RenderOptions) (msgs : List Message) : Prop
  /-- A visible message cannot be shown. -/
  | message {m : Message} (hm : m ∈ (Selection.ofMessages msgs o.maxMessages).visible)
      (h : m.Unshowable docs o.layout) : Trouble docs o msgs
  /-- There are more blocks than there are numbers. -/
  | number (hlayout : o.layout = .codeframe)
      (h : Text.Numeral.isWritable (Selection.ofMessages msgs o.maxMessages).visible.length
        = false) : Trouble docs o msgs
  /-- There are more hidden messages than a notice can tell. -/
  | hidden (hne : msgs ≠ [])
      (htruncated : (Selection.ofMessages msgs o.maxMessages).isTruncated o.maxMessages = true)
      (h : Text.Numeral.isWritable ((Selection.ofMessages msgs o.maxMessages).hidden o.maxMessages)
        = false) : Trouble docs o msgs

theorem Codeframe.fails_blocksOf {docs : Documents} {msgs : List Message} :
    Fails (blocksOf docs 0 msgs)
      ↔ (∃ m ∈ msgs, m.Unshowable docs .codeframe)
        ∨ Text.Numeral.isWritable msgs.length = false := by
  unfold blocksOf
  rw [fails_mapM]
  constructor
  · rintro ⟨⟨m, i⟩, hmem, h⟩
    rcases Block.fails_ofMessage.mp h with h | h
    · exact .inl ⟨m, List.fst_mem_of_mem_zipIdx hmem, h⟩
    · -- if a number cannot be written, neither can the greatest one, that of the last block
      refine .inr (Bool.eq_false_iff.mpr fun hall => ?_)
      have hi : i + 1 ≤ msgs.length := by
        have hlt := List.snd_lt_of_mem_zipIdx hmem
        omega
      have hwritable := Text.Numeral.isWritable_of_le hi hall
      rw [Int.natCast_add, Int.natCast_one, h] at hwritable
      cases hwritable
  · rintro (⟨m, hm, h⟩ | h)
    · obtain ⟨i, hi, rfl⟩ := List.mem_iff_getElem.mp hm
      refine ⟨(msgs[i], i), ?_, Block.fails_ofMessage.mpr (.inl h)⟩
      rw [List.mem_zipIdx_iff_getElem?]
      exact List.getElem?_eq_getElem hi
    · have hpos : msgs.length ≠ 0 := by
        intro hzero
        rw [hzero] at h
        cases h.symm.trans Text.Numeral.isWritable_zero
      refine ⟨(msgs[msgs.length - 1], msgs.length - 1), ?_, Block.fails_ofMessage.mpr (.inr ?_)⟩
      · rw [List.mem_zipIdx_iff_getElem?]
        exact List.getElem?_eq_getElem (by omega)
      · have hlast : ((msgs.length - 1 : Nat) : Int) + 1 = msgs.length := by omega
        rw [hlast, h]

theorem Shown.fails_ofMessages {docs : Documents} {layout : Layout} {msgs : List Message} :
    Fails (ofMessages docs layout msgs)
      ↔ (∃ m ∈ msgs, m.Unshowable docs layout)
        ∨ layout = .codeframe ∧ Text.Numeral.isWritable msgs.length = false := by
  cases layout with
  | codeframe =>
    rw [ofMessages, fails_map, Codeframe.fails_blocksOf]
    simp
  | stylish =>
    rw [ofMessages, fails_map, fails_mapM]
    simp [Message.fails_resolvedIn]

theorem fails_hiddenBy {s : Selection} {cap : Int} :
    Fails (hiddenBy s cap)
      ↔ s.isTruncated cap = true ∧ Text.Numeral.isWritable (s.hidden cap) = false := by
  unfold hiddenBy
  cases s.isTruncated cap with
  | false => simp
  | true =>
    cases Text.Numeral.isWritable (s.hidden cap) with
    | false => simp
    | true => simp

/-- **A rendering fails exactly if there is trouble**, whatever its palette. -/
theorem fails_renderMessages {docs : Documents} {env : Environment} {here : String}
    {o : RenderOptions} {palette : Option Palette} {msgs : List Message} :
    Fails (renderMessages docs env here o palette msgs).outcome ↔ Trouble docs o msgs := by
  rw [outcome_renderMessages]
  by_cases hempty : msgs = []
  · -- without messages nothing is shown, and nothing is hidden
    rw [if_pos hempty]
    refine iff_of_false (not_fails_ok _) fun h => ?_
    have hvisible : ∀ m, m ∉ (Selection.ofMessages msgs o.maxMessages).visible := by
      intro m hm
      have hmem := (Selection.mem_visible hm).1
      rw [hempty] at hmem
      cases hmem
    cases h with
    | message hm h => exact hvisible _ hm
    | number hlayout h =>
      rw [List.eq_nil_iff_forall_not_mem.mpr hvisible] at h
      cases h.symm.trans Text.Numeral.isWritable_zero
    | hidden hne htruncated h => exact hne hempty
  · rw [if_neg hempty, fails_map, shownUnder, fails_bind, Shown.fails_ofMessages]
    constructor
    · rintro ((⟨m, hm, h⟩ | ⟨hlayout, h⟩) | ⟨shown, -, h⟩)
      · exact .message hm h
      · exact .number hlayout h
      · rcases fails_bind.mp h with h | ⟨hidden, -, h⟩
        · obtain ⟨htruncated, h⟩ := fails_hiddenBy.mp h
          exact .hidden hempty htruncated h
        · exact absurd h (not_fails_ok _)
    · intro h
      cases h with
      | message hm h => exact .inl (.inl ⟨_, hm, h⟩)
      | number hlayout h => exact .inl (.inr ⟨hlayout, h⟩)
      | hidden hne htruncated h =>
        by_cases hshown : Fails (Shown.ofMessages docs o.layout
            (Selection.ofMessages msgs o.maxMessages).visible)
        · exact .inl (Shown.fails_ofMessages.mp hshown)
        · obtain ⟨shown, hshown⟩ := not_fails_iff.mp hshown
          refine .inr ⟨shown, hshown, fails_bind.mpr (.inl ?_)⟩
          exact fails_hiddenBy.mpr ⟨htruncated, h⟩

/-! ### Renderings without trouble -/

/-- Under a cap that is not negative, no more messages are hidden than there are. -/
theorem Selection.exists_hidden_eq {ms : List Message} {cap : Int} (hcap : 0 ≤ cap)
    (h : (ofMessages ms cap).isTruncated cap = true) :
    ∃ n : Nat, n ≤ ms.length ∧ (ofMessages ms cap).hidden cap = n := by
  have hshown : cap < (ms.length : Int) - (ofMessages ms cap).ignored := of_decide_eq_true h
  have hignored : (ofMessages ms cap).ignored = (ms.filter (·.ignored)).length := by
    rw [ofMessages_eq]
  refine ⟨ms.length - cap.toNat, Nat.sub_le _ _, ?_⟩
  show (ms.length : Int) - cap = _
  omega

theorem Selection.length_visible_le {ms : List Message} {cap : Int} :
    (ofMessages ms cap).visible.length ≤ ms.length := by
  have hranked := length_ranked ms
  have hslice := (takeUpTo_sublist cap (ranked ms)).length_le
  show (takeUpTo cap (ranked ms)).length ≤ _
  omega

/-- A list of messages that is not too long to be counted is only kept from being rendered by a
visible message that cannot be shown. -/
theorem exists_chunks_of_showable {docs : Documents} {env : Environment} {here : String}
    {o : RenderOptions} {palette : Option Palette} {msgs : List Message}
    (hcap : 0 ≤ o.maxMessages) (hcount : Text.Numeral.isWritable msgs.length = true)
    (h : ∀ m ∈ (Selection.ofMessages msgs o.maxMessages).visible, ¬ m.Unshowable docs o.layout) :
    ∃ chunks, (renderMessages docs env here o palette msgs).outcome = .ok chunks := by
  rw [← not_fails_iff, fails_renderMessages]
  intro htrouble
  cases htrouble with
  | message hm hunshowable => exact h _ hm hunshowable
  | number hlayout hnumber =>
    rw [Text.Numeral.isWritable_of_le Selection.length_visible_le hcount] at hnumber
    cases hnumber
  | hidden hne htruncated hhidden =>
    obtain ⟨n, hn, heq⟩ := Selection.exists_hidden_eq hcap htruncated
    rw [heq, Text.Numeral.isWritable_of_le hn hcount] at hhidden
    cases hhidden

end LintReport
