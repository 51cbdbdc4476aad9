/-
Texts without escape characters.

* `EscapeFree` — texts in which no control sequence can begin;
* `Message.EscapeFree` — messages that bring no escape character with them, neither in their
  own texts nor in the documents they point to;
* `escapeFree_chunks` — what is shown of such messages without colors has no escape character.

Design notes: everything a layout adds of its own (numbers, blanks, line breaks, labels) is free
of escape characters, and everything else is a part of a text that the message brings with it.
-/
import LintReport.Proofs.Coordinates
import LintReport.Proofs.Groups
import LintReport.Proofs.Numerals

namespace LintReport

open Outcome

/-- Texts in which no control sequence can begin. -/
def EscapeFree (s : String) : Prop := '\x1b' ∉ s.toList

instance (s : String) : Decidable (EscapeFree s) :=
  inferInstanceAs (Decidable ('\x1b' ∉ s.toList))

theorem escapeFree_append {s t : String} : EscapeFree (s ++ t) ↔ EscapeFree s ∧ EscapeFree t := by
  rw [EscapeFree, String.toList_append, List.mem_append, not_or]
  rfl

theorem EscapeFree.append {s t : String} (hs : EscapeFree s) (ht : EscapeFree t) :
    EscapeFree (s ++ t) :=
  escapeFree_append.mpr ⟨hs, ht⟩

theorem escapeFree_ofList {cs : List Char} (h : '\x1b' ∉ cs) : EscapeFree (String.ofList cs) := by
  rwa [EscapeFree, String.toList_ofList]

theorem escapeFree_replicate (n : Nat) {c : Char} (h : c ≠ '\x1b') :
    EscapeFree (String.ofList (List.replicate n c)) :=
  escapeFree_ofList fun hmem => h (List.eq_of_mem_replicate hmem).symm

theorem escapeFree_intercalate {s : String} {ts : List String} (hs : EscapeFree s)
    (hts : ∀ t ∈ ts, EscapeFree t) : EscapeFree (s.intercalate ts) := by
  induction ts with
  | nil =>
    rw [String.intercalate_nil]
    decide
  | cons t ts ih =>
    rw [List.forall_mem_cons] at hts
    cases ts with
    | nil =>
      rw [String.intercalate_singleton]
      exact hts.1
    | cons u us =>
      rw [String.intercalate_cons_cons]
      exact (hts.1.append hs).append (ih hts.2)

theorem escapeFree_toString_int (n : Int) : EscapeFree (toString n) := by
  intro hmem
  rcases Text.Numeral.isDigit_or_minus_of_mem_toString hmem with hdigit | hminus
  · revert hdigit
    decide
  · revert hminus
    decide

/-! ### Paths -/

namespace Path

/-- A character that is no separator stands in one of the pieces. -/
theorem mem_intercalate_iff {c d : Char} (h : c ≠ d) (pieces : List (List Char)) :
    c ∈ [d].intercalate pieces ↔ ∃ piece ∈ pieces, c ∈ piece := by
  induction pieces with
  | nil => simp
  | cons first rest ih =>
    cases rest with
    | nil => simp
    | cons second rest =>
      rw [List.intercalate_cons_cons, List.mem_append, List.mem_append, ih, List.mem_singleton,
        List.exists_mem_cons_iff (p := fun piece => c ∈ piece)]
      simp [h]

theorem mem_segments {c : Char} (h : c ≠ '/') (s : String) :
    (∃ n ∈ segments s, c ∈ n.toList) ↔ c ∈ s.toList := by
  have hpieces := mem_intercalate_iff h (s.toList.splitOn '/')
  rw [List.intercalate_splitOn] at hpieces
  rw [hpieces, segments]
  simp

theorem escapeFree_of_mem_segments {s : String} (h : EscapeFree s) :
    ∀ n ∈ segments s, EscapeFree n := by
  intro n hn hmem
  exact h ((mem_segments (by decide) s).mp ⟨n, hn, hmem⟩)

theorem mem_collapseAfter {n : String} {kept names : List String}
    (h : n ∈ collapseAfter kept names) : n ∈ kept ∨ n ∈ names := by
  induction names generalizing kept with
  | nil => exact .inl (List.mem_reverse.mp h)
  | cons m names ih =>
    unfold collapseAfter at h
    by_cases hup : m = ".."
    · rw [if_pos hup] at h
      exact (ih h).imp List.mem_of_mem_tail (List.mem_cons_of_mem m)
    · rw [if_neg hup] at h
      rcases ih h with hkept | hnames
      · rcases List.mem_cons.mp hkept with rfl | hkept
        · exact .inr List.mem_cons_self
        · exact .inl hkept
      · exact .inr (List.mem_cons_of_mem m hnames)

theorem escapeFree_of_mem_normalNames {s : String} (h : EscapeFree s) :
    ∀ n ∈ normalNames s, EscapeFree n := by
  intro n hn
  rcases mem_collapseAfter hn with hnil | hnamed
  · cases hnil
  · exact escapeFree_of_mem_segments h n (List.mem_of_mem_filter hnamed)

theorem escapeFree_absolute {here s : String} (hhere : EscapeFree here) (hs : EscapeFree s) :
    EscapeFree (absolute here s) := by
  unfold absolute
  have hslash : EscapeFree "/" := by decide
  by_cases habs : isAbsolute s = true
  · rw [if_pos habs]
    exact hs
  · rw [if_neg habs]
    by_cases hlast : here.toList.getLast? = some '/'
    · rw [if_pos hlast]
      exact hhere.append hs
    · rw [if_neg hlast]
      exact (hhere.append hslash).append hs

theorem escapeFree_of_mem_stepsBetween {origin goal : List String}
    (h : ∀ n ∈ goal, EscapeFree n) : ∀ n ∈ stepsBetween origin goal, EscapeFree n := by
  intro n hn
  rcases List.mem_append.mp hn with hup | hdown
  · rw [List.eq_of_mem_replicate hup]
    decide
  · exact h n (List.mem_of_mem_drop hdown)

theorem escapeFree_relative? {here origin file path : String} (hhere : EscapeFree here)
    (hfile : EscapeFree file) (h : relative? here origin file = some path) : EscapeFree path := by
  unfold relative? at h
  by_cases hempty : file = ""
  · rw [if_pos hempty] at h
    cases h
  · rw [if_neg hempty] at h
    have hsteps : ∀ n ∈ stepsBetween (normalNames (absolute here origin))
        (normalNames (absolute here file)), EscapeFree n :=
      escapeFree_of_mem_stepsBetween
        (escapeFree_of_mem_normalNames (escapeFree_absolute hhere hfile))
    generalize stepsBetween (normalNames (absolute here origin))
      (normalNames (absolute here file)) = steps at h hsteps
    cases steps with
    | nil =>
      rw [← Option.some.inj h]
      exact (by decide : EscapeFree ".")
    | cons step steps =>
      rw [← Option.some.inj h]
      exact escapeFree_intercalate (by decide) hsteps

end Path

theorem Viewpoint.escapeFree_path {view : Viewpoint} {file : String} (hhere : EscapeFree view.here)
    (hfile : EscapeFree file) : EscapeFree (view.path file) := by
  unfold path shownPath
  cases hrel : Path.relative? view.here view.directory file with
  | some path => exact Path.escapeFree_relative? hhere hfile hrel
  | none => exact hfile

theorem Span.escapeFree_position (s : Span) : EscapeFree s.position :=
  ((escapeFree_toString_int _).append (by decide : EscapeFree ":")).append
    (escapeFree_toString_int _)

theorem Span.escapeFree_place {view : Viewpoint} {s : Span} (hhere : EscapeFree view.here)
    (href : EscapeFree s.source.ref) : EscapeFree (s.place view) :=
  ((Viewpoint.escapeFree_path hhere href).append (by decide : EscapeFree ":")).append
    s.escapeFree_position

/-! ### Lines -/

namespace Text

/-- Lines are made of characters of the text. -/
theorem mem_of_mem_lineChars {cs : List Char} :
    ∀ line ∈ lineChars cs, ∀ c ∈ line, c ∈ cs := by
  induction cs using lineChars.induct with
  | case1 => simp [lineChars]
  | case2 rest ih =>
    intro line hline c hc
    rw [lineChars, List.mem_cons] at hline
    rcases hline with rfl | hline
    · cases hc
    · exact List.mem_cons_of_mem _ (List.mem_cons_of_mem _ (ih line hline c hc))
  | case3 d rest hcrlf hbreak ih =>
    intro line hline c hc
    rw [lineChars.eq_3 _ _ hcrlf, if_pos hbreak, List.mem_cons] at hline
    rcases hline with rfl | hline
    · cases hc
    · exact List.mem_cons_of_mem _ (ih line hline c hc)
  | case4 d rest hcrlf hbreak ih =>
    intro line hline c hc
    rw [lineChars.eq_3 _ _ hcrlf, if_neg hbreak] at hline
    rcases mem_consToLines hline c hc with rfl | ⟨line', hline', hc⟩
    · exact List.mem_cons_self
    · exact List.mem_cons_of_mem _ (ih line' hline' c hc)

theorem escapeFree_of_mem_lines {s : String} (h : EscapeFree s) :
    ∀ line ∈ lines s, EscapeFree line := by
  intro line hline
  obtain ⟨cs, hcs, rfl⟩ := List.mem_map.mp hline
  exact escapeFree_ofList fun hmem => h (mem_of_mem_lineChars cs hcs _ hmem)

end Text

/-! ### What messages bring -/

/-- Documents whose path and text have no escape character. -/
structure Source.Plain (docs : Documents) (s : Source) : Prop where
  ref : EscapeFree s.ref
  text : ∀ t, (s.text docs).outcome = .ok t → EscapeFree t

/-- Locations whose document and pointer have no escape character. -/
structure Location.Plain (docs : Documents) (l : Location) : Prop where
  source : l.source.Plain docs
  pointer : ∀ p ∈ l.pointer?, EscapeFree p

/-- Messages that bring no escape character with them. -/
structure Message.Plain (docs : Documents) (m : Message) : Prop where
  text : EscapeFree m.text
  rule : EscapeFree m.rule
  suggestions : ∀ s ∈ m.suggestions, EscapeFree s
  primary : m.primary.Plain docs
  origin : ∀ l ∈ m.origin, l.Plain docs

/-! ### Excerpts -/

namespace Excerpt

theorem escapeFree_gutter {width : Nat} {number : String} (h : EscapeFree number) :
    EscapeFree (gutter width number) :=
  have hpad : EscapeFree (Text.padStart width number) :=
    (escapeFree_replicate _ (by decide)).append h
  ((by decide : EscapeFree " ").append hpad).append (by decide : EscapeFree " |")

theorem escapeFree_marker (line : String) (span : Span) : EscapeFree (marker line span) := by
  refine escapeFree_ofList fun hmem => ?_
  rcases List.mem_append.mp hmem with hblank | hcaret
  · exact absurd (List.eq_of_mem_replicate hblank) (by decide)
  · exact absurd (List.eq_of_mem_replicate hcaret) (by decide)

theorem escapeFree_rowsOf {width : Nat} {span : Span} {number : Int} {line : String}
    (h : EscapeFree line) : ∀ row ∈ rowsOf ⟨false⟩ width span number line, EscapeFree row := by
  have hleft : EscapeFree (gutter width (toString number)) :=
    escapeFree_gutter (escapeFree_toString_int number)
  have hblank : EscapeFree " " := by decide
  have hrow : EscapeFree (if line = "" then gutter width (toString number)
      else gutter width (toString number) ++ " " ++ line) := by
    by_cases hline : line = ""
    · rw [if_pos hline]
      exact hleft
    · rw [if_neg hline]
      exact (hleft.append hblank).append h
  have hmarker : EscapeFree (gutter width "" ++ " " ++ marker line span) :=
    ((escapeFree_gutter (by decide)).append hblank).append (escapeFree_marker line span)
  intro row hmem
  unfold rowsOf at hmem
  by_cases hstart : number = span.start.line
  · rw [if_pos hstart] at hmem
    rcases List.mem_pair.mp hmem with rfl | rfl
    · exact hrow
    · exact hmarker
  · rw [if_neg hstart] at hmem
    rw [List.mem_singleton.mp hmem]
    exact hrow

theorem escapeFree_rows {lines : List String} {span : Span} (h : ∀ line ∈ lines, EscapeFree line) :
    ∀ row ∈ rows ⟨false⟩ lines span, EscapeFree row := by
  intro row hmem
  unfold rows at hmem
  by_cases hout : (span.start.line < 1 || (lines.length : Int) < span.start.line) = true
  · rw [if_pos hout] at hmem
    cases hmem
  · rw [if_neg hout] at hmem
    obtain ⟨⟨line, number⟩, hline, hrow⟩ := List.mem_flatMap.mp hmem
    refine escapeFree_rowsOf (h line ?_) row hrow
    have htaken := List.fst_mem_of_mem_zipIdx (List.mem_of_mem_drop hline)
    exact List.mem_of_mem_take htaken

/-- The lines of an excerpt are lines of the document. -/
theorem escapeFree_of_mem_linesFor {docs : Documents} {span : Span} {lines : List String}
    (hsource : span.source.Plain docs) (h : linesFor docs span = .ok lines) :
    ∀ line ∈ lines, EscapeFree line := by
  unfold linesFor at h
  cases hread : (span.source.lines docs).outcome with
  | error e =>
    rw [hread] at h
    cases e with
    | nullCharacter => cases h
    | refused e path =>
      cases h
      simp
    | undecodable e =>
      cases h
      simp
  | ok all =>
    have hall : all = lines := by
      cases hwide : tooWide? docs.limits.marker all span with
      | some width =>
        simp only [hread, hwide] at h
        cases h
      | none =>
        simp only [hread, hwide] at h
        exact Except.ok.inj h
    unfold Source.lines at hread
    rw [Attempt.outcome_bind] at hread
    obtain ⟨text, htext, hread⟩ := bind_eq_ok.mp hread
    rw [← hall, ← Except.ok.inj hread]
    exact Text.escapeFree_of_mem_lines (hsource.text text htext)

end Excerpt

/-! ### Blocks -/

theorem escapeFree_didYouMean {suggestions : List String}
    (h : ∀ s ∈ suggestions, EscapeFree s) : EscapeFree (didYouMean suggestions) := by
  unfold didYouMean
  split
  · decide
  · next s =>
    have hs : EscapeFree s := h s List.mem_cons_self
    exact ((by decide : EscapeFree "Did you mean: ").append hs).append
      (by decide : EscapeFree " ?\n\n")
  · have hlist : EscapeFree ("\n  - ".intercalate (suggestions.take maxSuggestions)) :=
      escapeFree_intercalate (by decide) fun s hs => h s (List.mem_of_mem_take hs)
    exact ((by decide : EscapeFree "Did you mean:\n  - ").append hlist).append
      (by decide : EscapeFree "\n\n")

namespace Codeframe

theorem escapeFree_pointerNote {span : Span} (h : ∀ p ∈ span.pointer, EscapeFree p) :
    EscapeFree (pointerNote ⟨false⟩ span) := by
  unfold pointerNote
  cases hp : span.pointer with
  | none => decide
  | some p =>
    by_cases hempty : p = ""
    · rw [hempty]
      decide
    · simp only [hempty, if_false]
      exact (by decide : EscapeFree "at ").append (h p hp)

theorem escapeFree_header {m : Message} {index : Int} {place : String} {span : Span}
    (hplace : EscapeFree place) (hpointer : ∀ p ∈ span.pointer, EscapeFree p) :
    EscapeFree (header ⟨false⟩ m index place span) := by
  have hnumber := ((by decide : EscapeFree "[").append (escapeFree_toString_int (index + 1))).append
    (by decide : EscapeFree "] ")
  exact (((hnumber.append hplace).append (by decide : EscapeFree " ")).append
    (escapeFree_pointerNote hpointer)).append (by decide : EscapeFree "\n\n")

theorem escapeFree_footer {m : Message} (h : EscapeFree m.rule) :
    EscapeFree (footer ⟨false⟩ m) := by
  have hlabel : EscapeFree m.severity.label := by
    cases m.severity with
    | error => decide
    | warning => decide
  exact ((hlabel.append (by decide : EscapeFree " was generated by the ")).append h).append
    (by decide : EscapeFree " rule.\n\n")

/-- Without colors, a block of a message that brings no escape character has none. -/
theorem escapeFree_text {docs : Documents} {view : Viewpoint} {index : Int} {m : Message}
    {b : Block} (hhere : EscapeFree view.here) (hm : m.Plain docs)
    (h : Block.ofMessage docs index m = .ok b) : EscapeFree (b.text ⟨false⟩ view) := by
  obtain ⟨rfl, -, hspan, hlines, horigin⟩ := Block.of_ofMessage h
  obtain ⟨hsource, hpointer⟩ := Location.of_placedIn hspan
  have hbreaks : EscapeFree "\n\n" := by decide
  have hheader : EscapeFree (header ⟨false⟩ b.message b.index (b.span.place view) b.span) := by
    refine escapeFree_header (Span.escapeFree_place hhere ?_) ?_
    · rw [hsource]
      exact hm.primary.source.ref
    · rw [hpointer]
      exact hm.primary.pointer
  have hexcerpt : EscapeFree ("\n".intercalate (Excerpt.rows ⟨false⟩ b.lines b.span)) := by
    refine escapeFree_intercalate (by decide) (Excerpt.escapeFree_rows ?_)
    refine Excerpt.escapeFree_of_mem_linesFor ?_ hlines
    rw [hsource]
    exact hm.primary.source
  have hnote : EscapeFree (Block.originNote ⟨false⟩ view b.origin) := by
    cases hfrom : b.message.origin with
    | none =>
      rw [hfrom] at horigin
      rw [← Except.ok.inj horigin]
      exact (by decide : EscapeFree "")
    | some l =>
      rw [hfrom] at horigin
      obtain ⟨s, hs, horigin⟩ := map_eq_ok.mp horigin
      rw [← horigin]
      have href : EscapeFree s.source.ref := by
        rw [(Location.of_placedIn hs).1]
        exact (hm.origin l hfrom).source.ref
      exact ((by decide : EscapeFree "referenced from ").append
        (Span.escapeFree_place hhere href)).append hbreaks
  exact (((((hheader.append (hm.text.append hbreaks)).append
    (escapeFree_didYouMean hm.suggestions)).append hexcerpt).append hbreaks).append hnote).append
    (escapeFree_footer hm.rule)

end Codeframe

/-! ### Groups -/

namespace Stylish

theorem escapeFree_line {positionWidth ruleWidth : Nat} {r : Resolved}
    (hrule : EscapeFree r.message.rule) (htext : EscapeFree r.message.text) :
    EscapeFree (line ⟨false⟩ positionWidth ruleWidth r) := by
  have hblank : EscapeFree " " := by decide
  have hposition : EscapeFree (Text.padEnd (positionWidth + 2) r.primary.position) :=
    r.primary.escapeFree_position.append (escapeFree_replicate _ (by decide))
  have hpadded : EscapeFree (Text.padEnd ruleWidth r.message.rule) :=
    hrule.append (escapeFree_replicate _ (by decide))
  exact (((((by decide : EscapeFree "  ").append hposition).append hblank).append hpadded).append
    hblank).append htext

/-- Without colors, the lines of messages that bring no escape character have none. -/
theorem escapeFree_groupLines {docs : Documents} {view : Viewpoint} {rs : List Resolved}
    (hhere : EscapeFree view.here) (hrs : ∀ r ∈ rs, r.message.Plain docs) :
    ∀ g ∈ groupsOf rs, ∀ l ∈ groupLines ⟨false⟩ view g, EscapeFree l := by
  intro g hg l hl
  rw [groupsOf_eq] at hg
  obtain ⟨file, hfile, rfl⟩ := List.mem_map.mp hg
  rw [groupLines, path_groupOf, messages_groupOf, List.cons_append, List.mem_cons, List.mem_append,
    List.mem_map, List.mem_singleton] at hl
  rcases hl with rfl | ⟨r, hr, rfl⟩ | rfl
  · obtain ⟨m, hm, rfl⟩ := mem_filesOf.mp hfile
    obtain ⟨r, hr, rfl⟩ := List.mem_map.mp hm
    exact (Viewpoint.escapeFree_path hhere (hrs r hr).primary.source.ref).append
      (by decide : EscapeFree ":")
  · have hr := hrs r (List.mem_of_mem_filter hr)
    exact escapeFree_line hr.rule hr.text
  · decide

end Stylish

/-! ### Renderings -/

/-- Without colors, the chunks of messages that bring no escape character have none. -/
theorem escapeFree_chunks {docs : Documents} {view : Viewpoint} {layout : Layout}
    {msgs : List Message} {shown : Shown} (hhere : EscapeFree view.here)
    (hmsgs : ∀ m ∈ msgs, m.Plain docs) (h : Shown.ofMessages docs layout msgs = .ok shown) :
    ∀ c ∈ shown.chunks ⟨false⟩ view, EscapeFree c := by
  cases layout with
  | codeframe =>
    obtain ⟨bs, hbs, rfl⟩ := map_eq_ok.mp h
    intro c hc
    obtain ⟨b, hb, rfl⟩ := List.mem_map.mp hc
    obtain ⟨⟨m, index⟩, hm, hblock⟩ := exists_of_mem_mapM hbs hb
    exact Codeframe.escapeFree_text hhere (hmsgs m (List.fst_mem_of_mem_zipIdx hm)) hblock
  | stylish =>
    obtain ⟨rs, hrs, rfl⟩ := map_eq_ok.mp h
    have hplain : ∀ r ∈ rs, r.message.Plain docs := by
      intro r hr
      obtain ⟨m, hm, hresolved⟩ := exists_of_mem_mapM hrs hr
      rw [(Message.resolvedIn_eq_ok_iff.mp hresolved).1]
      exact hmsgs m hm
    intro c hc
    obtain ⟨g, hg, hc⟩ := List.mem_flatMap.mp hc
    exact Stylish.escapeFree_groupLines hhere hplain g hg c hc

theorem escapeFree_noticeText (hidden : Int) : EscapeFree (noticeText ⟨false⟩ hidden) :=
  (((by decide : EscapeFree "< ... ").append (escapeFree_toString_int hidden)).append
    (by decide : EscapeFree " more messages hidden > ")).append
    (by decide : EscapeFree maxMessagesHint)

end LintReport
