/-
Colors are transparent.

* `Palette.eraseCodes_style` — a text in a style is the text itself once codes are erased;
* `Codeframe.eraseCodes_text`, `Stylish.map_eraseCodes_groupLines` — so are the blocks and the
  lines of the two layouts;
* `renderMessages_transparent` — a rendering in color and one without color fail alike, or come
  to chunks that are the same once codes are erased.

Design notes: a styled text can only be taken for itself where nothing around it makes a code
with what it begins or ends with.  In both layouts a separator stands on either side of each of
them, or an end of the chunk.
-/
import LintReport.Proofs.Codes
import LintReport.Proofs.EscapeFree
import LintReport.Proofs.Ranking

namespace LintReport

open Outcome Terminal

namespace Palette

variable (p : Palette)

@[simp] theorem eraseCodes_style (s : Style) (t : String) :
    eraseCodes (p.style s t) = eraseCodes t := by
  unfold style
  by_cases henabled : p.enabled = true
  · rw [if_pos henabled, eraseCodes_apply]
  · rw [if_neg henabled]

@[simp] theorem eraseCodes_severityGround (s : Severity) (t : String) :
    eraseCodes (p.severityGround s t) = eraseCodes t :=
  p.eraseCodes_style _ t

@[simp] theorem eraseCodes_severityLetters (s : Severity) (t : String) :
    eraseCodes (p.severityLetters s t) = eraseCodes t :=
  p.eraseCodes_style _ t

@[simp] theorem eraseCodes_muted (t : String) : eraseCodes (p.muted t) = eraseCodes t :=
  p.eraseCodes_style _ t

@[simp] theorem eraseCodes_accent (t : String) : eraseCodes (p.accent t) = eraseCodes t :=
  p.eraseCodes_style _ t

@[simp] theorem eraseCodes_marker (t : String) : eraseCodes (p.marker t) = eraseCodes t :=
  p.eraseCodes_style _ t

end Palette

/-! ### Excerpts -/

namespace Excerpt

theorem map_eraseCodes_rowsOf (p q : Palette) (width : Nat) (span : Span) (number : Int)
    (line : String) :
    (rowsOf p width span number line).map eraseCodes
      = (rowsOf q width span number line).map eraseCodes := by
  have hrow : ∀ left : String, eraseCodes (p.muted left ++ " " ++ line)
      = eraseCodes (q.muted left ++ " " ++ line) := by
    intro left
    rw [eraseCodes_append_separator (by decide), eraseCodes_append_separator (by decide),
      p.eraseCodes_muted, q.eraseCodes_muted]
  have hmarker : ∀ left marks : String, eraseCodes (p.muted left ++ " " ++ p.marker marks)
      = eraseCodes (q.muted left ++ " " ++ q.marker marks) := by
    intro left marks
    rw [eraseCodes_append_separator (by decide), eraseCodes_append_separator (by decide),
      p.eraseCodes_muted, q.eraseCodes_muted, p.eraseCodes_marker, q.eraseCodes_marker]
  have hfirst : eraseCodes (if line = "" then p.muted (gutter width (toString number))
        else p.muted (gutter width (toString number)) ++ " " ++ line)
      = eraseCodes (if line = "" then q.muted (gutter width (toString number))
        else q.muted (gutter width (toString number)) ++ " " ++ line) := by
    by_cases hempty : line = ""
    · rw [if_pos hempty, if_pos hempty, p.eraseCodes_muted, q.eraseCodes_muted]
    · rw [if_neg hempty, if_neg hempty]
      exact hrow _
  unfold rowsOf
  by_cases hstart : number = span.start.line
  · rw [if_pos hstart, if_pos hstart]
    exact congrArg₂ (fun a b => [a, b]) hfirst (hmarker _ _)
  · rw [if_neg hstart, if_neg hstart]
    exact congrArg (fun a => [a]) hfirst

theorem map_eraseCodes_rows (p q : Palette) (lines : List String) (span : Span) :
    (rows p lines span).map eraseCodes = (rows q lines span).map eraseCodes := by
  unfold rows
  by_cases hout : (span.start.line < 1 || (lines.length : Int) < span.start.line) = true
  · rw [if_pos hout, if_pos hout]
  · rw [if_neg hout, if_neg hout, List.map_flatMap, List.map_flatMap]
    congr 1
    funext ⟨line, number⟩
    exact map_eraseCodes_rowsOf p q _ span number line

end Excerpt

/-! ### Blocks -/

namespace Codeframe

theorem eraseCodes_pointerNote (p q : Palette) (span : Span) :
    eraseCodes (pointerNote p span) = eraseCodes (pointerNote q span) := by
  unfold pointerNote
  cases span.pointer with
  | none => rfl
  | some t =>
    by_cases hempty : t = ""
    · simp only [hempty, if_true]
    · simp only [hempty, if_false, p.eraseCodes_muted, q.eraseCodes_muted]

theorem eraseCodes_header (p q : Palette) (m : Message) (index : Int) (place : String)
    (span : Span) :
    eraseCodes (header p m index place span) = eraseCodes (header q m index place span) := by
  have hform : ∀ r : Palette, eraseCodes (header r m index place span)
      = eraseCodes ("[" ++ toString (index + 1)) ++ "] " ++ eraseCodes place ++ " "
        ++ eraseCodes (pointerNote r span) ++ "\n\n" := by
    intro r
    rw [header_eq, eraseCodes_append_end (by decide), eraseCodes_append_separator (by decide),
      eraseCodes_append_separator (by decide), r.eraseCodes_severityGround]
  rw [hform p, hform q, eraseCodes_pointerNote p q]

theorem eraseCodes_originNote (p q : Palette) (view : Viewpoint) (origin : Option Span) :
    eraseCodes (Block.originNote p view origin) = eraseCodes (Block.originNote q view origin) := by
  have hbreaks : separates "\n\n" = true := by decide
  have hfrom : Closed "referenced from " := closed_of_getLast? (c := ' ') (by decide) (by decide)
  cases origin with
  | none => rfl
  | some s =>
    show eraseCodes ("referenced from " ++ p.accent (s.place view) ++ "\n\n")
      = eraseCodes ("referenced from " ++ q.accent (s.place view) ++ "\n\n")
    rw [eraseCodes_append_end hbreaks, eraseCodes_append_end hbreaks, hfrom, hfrom,
      p.eraseCodes_accent, q.eraseCodes_accent]

theorem closed_originNote (p : Palette) (view : Viewpoint) (origin : Option Span) :
    Closed (Block.originNote p view origin) := by
  cases origin with
  | none => exact closed_empty
  | some s => exact closed_append_separator (s := "\n\n") (by decide) _

theorem closed_didYouMean (suggestions : List String) : Closed (didYouMean suggestions) := by
  have hbreaks : separates "\n\n" = true := by decide
  have hmark : separates " ?\n\n" = true := by decide
  unfold didYouMean
  split
  · exact closed_empty
  · exact closed_append_separator hmark _
  · exact closed_append_separator hbreaks _

theorem eraseCodes_footer (p q : Palette) (m : Message) :
    eraseCodes (footer p m) = eraseCodes (footer q m) := by
  have hby : separates " was generated by the " = true := by decide
  have hrule : separates " rule.\n\n" = true := by decide
  show eraseCodes (m.severity.label ++ " was generated by the " ++ p.accent m.rule ++ " rule.\n\n")
    = eraseCodes (m.severity.label ++ " was generated by the " ++ q.accent m.rule ++ " rule.\n\n")
  rw [eraseCodes_append_end hrule, eraseCodes_append_end hrule, eraseCodes_append_separator hby,
    eraseCodes_append_separator hby, p.eraseCodes_accent, q.eraseCodes_accent]

/-- Once codes are erased, the text of a block does not depend on the palette. -/
theorem eraseCodes_text (p q : Palette) (view : Viewpoint) (b : Block) :
    eraseCodes (b.text p view) = eraseCodes (b.text q view) := by
  have hbreaks : separates "\n\n" = true := by decide
  have hlines : separates "\n" = true := by decide
  have hform : ∀ r : Palette, eraseCodes (b.text r view)
      = eraseCodes (header r b.message b.index (b.span.place view) b.span)
        ++ eraseCodes (b.message.text ++ "\n\n") ++ eraseCodes (didYouMean b.message.suggestions)
        ++ eraseCodes ("\n".intercalate (Excerpt.rows r b.lines b.span)) ++ "\n\n"
        ++ eraseCodes (Block.originNote r view b.origin) ++ eraseCodes (footer r b.message) := by
    intro r
    -- each part ends in a way that no code of the next one can begin in, so that codes are
    -- erased part by part
    have hheader : Closed (header r b.message b.index (b.span.place view) b.span) :=
      closed_append_separator hbreaks _
    have htext : Closed (b.message.text ++ "\n\n") := closed_append_separator hbreaks _
    have hfront := hheader.append htext
    have hsuggested := hfront.append (closed_didYouMean b.message.suggestions)
    have hexcerpt := closed_append_separator hbreaks
      (header r b.message b.index (b.span.place view) b.span ++ (b.message.text ++ "\n\n")
        ++ didYouMean b.message.suggestions
        ++ "\n".intercalate (Excerpt.rows r b.lines b.span))
    have horigin := hexcerpt.append (closed_originNote r view b.origin)
    rw [Block.text]
    exact (horigin _).trans (by
      rw [hexcerpt, eraseCodes_append_end hbreaks, hsuggested, hfront, hheader])
  have hexcerpts : eraseCodes ("\n".intercalate (Excerpt.rows p b.lines b.span))
      = eraseCodes ("\n".intercalate (Excerpt.rows q b.lines b.span)) := by
    rw [eraseCodes_intercalate hlines, eraseCodes_intercalate hlines,
      Excerpt.map_eraseCodes_rows p q]
  rw [hform p, hform q, eraseCodes_header p q, hexcerpts, eraseCodes_originNote p q,
    eraseCodes_footer p q]

end Codeframe

/-! ### Groups -/

namespace Stylish

theorem eraseCodes_line (p q : Palette) (positionWidth ruleWidth : Nat) (r : Resolved) :
    eraseCodes (line p positionWidth ruleWidth r)
      = eraseCodes (line q positionWidth ruleWidth r) := by
  have hblank : separates " " = true := by decide
  have hform : ∀ t : Palette, eraseCodes (line t positionWidth ruleWidth r)
      = eraseCodes ("  " ++ Text.padEnd (positionWidth + 2) r.primary.position) ++ " "
        ++ eraseCodes (Text.padEnd ruleWidth r.message.rule) ++ " "
        ++ eraseCodes r.message.text := by
    intro t
    rw [← t.eraseCodes_severityLetters r.message.severity (Text.padEnd ruleWidth r.message.rule),
      ← eraseCodes_append_separator hblank, ← eraseCodes_append_separator hblank]
    rfl
  rw [hform p, hform q]

theorem map_eraseCodes_groupLines (p q : Palette) (view : Viewpoint) (g : FileGroup) :
    (groupLines p view g).map eraseCodes = (groupLines q view g).map eraseCodes := by
  have hcolon : separates ":" = true := by decide
  have hpath : eraseCodes (p.accent (view.path g.path) ++ ":")
      = eraseCodes (q.accent (view.path g.path) ++ ":") := by
    rw [eraseCodes_append_end hcolon, eraseCodes_append_end hcolon, p.eraseCodes_accent,
      q.eraseCodes_accent]
  have hform : ∀ t : Palette, (groupLines t view g).map eraseCodes
      = eraseCodes (t.accent (view.path g.path) ++ ":")
        :: g.messages.map (fun r => eraseCodes (line t g.positionWidth g.ruleWidth r)) ++ [""] := by
    intro t
    rw [groupLines, List.map_append, List.map_cons, List.map_map]
    rfl
  have hlines : g.messages.map (fun r => eraseCodes (line p g.positionWidth g.ruleWidth r))
      = g.messages.map (fun r => eraseCodes (line q g.positionWidth g.ruleWidth r)) :=
    List.map_congr_left fun r _ => eraseCodes_line p q _ _ r
  rw [hform p, hform q, hpath, hlines]

end Stylish

/-! ### Renderings -/

theorem eraseCodes_noticeText (p q : Palette) (hidden : Int) :
    eraseCodes (noticeText p hidden) = eraseCodes (noticeText q hidden) := by
  have hcount : separates " more messages hidden > " = true := by decide
  have hform : ∀ r : Palette, eraseCodes (noticeText r hidden)
      = eraseCodes ("< ... " ++ toString hidden) ++ " more messages hidden > "
        ++ eraseCodes maxMessagesHint := by
    intro r
    rw [← r.eraseCodes_muted maxMessagesHint, ← eraseCodes_append_separator hcount]
    rfl
  rw [hform p, hform q]

/-- Once codes are erased, the chunks of a rendering do not depend on the palette. -/
theorem map_eraseCodes_chunksOf (p q : Palette) (view : Viewpoint) (shown : Shown × Option Int) :
    (chunksOf p view shown).map eraseCodes = (chunksOf q view shown).map eraseCodes := by
  obtain ⟨shown, hidden⟩ := shown
  have hchunks : (shown.chunks p view).map eraseCodes = (shown.chunks q view).map eraseCodes := by
    cases shown with
    | blocks bs =>
      show (bs.map _).map eraseCodes = (bs.map _).map eraseCodes
      rw [List.map_map, List.map_map]
      exact List.map_congr_left fun b _ => Codeframe.eraseCodes_text p q view b
    | groups gs =>
      show (gs.flatMap _).map eraseCodes = (gs.flatMap _).map eraseCodes
      rw [List.map_flatMap, List.map_flatMap]
      congr 1
      funext g
      exact Stylish.map_eraseCodes_groupLines p q view g
  rw [chunksOf, chunksOf, List.map_append, List.map_append, hchunks]
  cases hidden with
  | none => rfl
  | some n => exact congrArg (fun c => _ ++ [c]) (eraseCodes_noticeText p q n)

theorem escapeFree_chunksOf {docs : Documents} {view : Viewpoint} {o : RenderOptions}
    {msgs : List Message} {shown : Shown × Option Int} (hhere : EscapeFree view.here)
    (hmsgs : ∀ m ∈ msgs, m.Plain docs) (h : shownUnder docs o msgs = .ok shown) :
    ∀ c ∈ chunksOf ⟨false⟩ view shown, EscapeFree c := by
  obtain ⟨hchunks, -⟩ := of_shownUnder h
  have hvisible : ∀ m ∈ (Selection.ofMessages msgs o.maxMessages).visible, m.Plain docs :=
    fun m hm => hmsgs m (Selection.mem_visible hm).1
  intro c hc
  rcases List.mem_append.mp hc with hc | hc
  · exact escapeFree_chunks hhere hvisible hchunks c hc
  · obtain ⟨n, -, rfl⟩ := Option.map_eq_some_iff.mp (Option.mem_toList.mp hc)
    exact escapeFree_noticeText n

/-- **Colors are transparent.**  With the same documents and options, a rendering in color and one
without color fail with the same fault, or come to the same number of chunks.  Then each chunk
in color is the one without color once codes are erased from both; and where nothing that is
shown brings an escape character with it, erasing the codes of the one in color is enough. -/
theorem renderMessages_transparent (docs : Documents) (env : Environment) (here : String)
    (o : RenderOptions) (msgs : List Message) :
    (∃ e, (renderMessages docs env here o (some ⟨true⟩) msgs).outcome = .error e ∧
      (renderMessages docs env here o (some ⟨false⟩) msgs).outcome = .error e) ∨
    ∃ colored plain : List String,
      (renderMessages docs env here o (some ⟨true⟩) msgs).outcome = .ok colored ∧
      (renderMessages docs env here o (some ⟨false⟩) msgs).outcome = .ok plain ∧
      colored.length = plain.length ∧
      (∀ (k : Nat) (c p : String), colored[k]? = some c → plain[k]? = some p →
        eraseCodes c = eraseCodes p) ∧
      (EscapeFree here → (∀ m ∈ msgs, m.Plain docs) →
        ∀ (k : Nat) (c p : String), colored[k]? = some c → plain[k]? = some p →
          eraseCodes c = p) := by
  rw [outcome_renderMessages, outcome_renderMessages]
  by_cases hempty : msgs = []
  · rw [if_pos hempty, if_pos hempty]
    exact .inr ⟨[], [], rfl, rfl, rfl, by simp, by simp⟩
  · rw [if_neg hempty, if_neg hempty]
    cases hshown : shownUnder docs o msgs with
    | error e => exact .inl ⟨e, rfl, rfl⟩
    | ok shown =>
      -- what is shown is found before a palette is used, so both runs share it
      have hsame := map_eraseCodes_chunksOf ⟨true⟩ ⟨false⟩ ⟨here, o.directory⟩ shown
      have hchunk : ∀ (k : Nat) (c p : String),
          (chunksOf ⟨true⟩ ⟨here, o.directory⟩ shown)[k]? = some c →
          (chunksOf ⟨false⟩ ⟨here, o.directory⟩ shown)[k]? = some p →
          eraseCodes c = eraseCodes p := by
        intro k c p hc hp
        have hk := congrArg (fun cs => cs[k]?) hsame
        rw [List.getElem?_map, List.getElem?_map, hc, hp] at hk
        exact Option.some.inj hk
      refine .inr ⟨_, _, rfl, rfl, ?_, hchunk, ?_⟩
      · have hlength := congrArg List.length hsame
        rwa [List.length_map, List.length_map] at hlength
      · intro hhere hmsgs k c p hc hp
        have hplain := escapeFree_chunksOf hhere hmsgs hshown p (List.mem_of_getElem? hp)
        rw [hchunk k c p hc hp, eraseCodes_of_not_mem hplain]

/-- One line in color, and what is left of it. -/
theorem renderMessages_transparent_line :
    let docs : Documents := ⟨fun _ => .error .nullCharacter, .usual⟩
    let span : Span := ⟨⟨"/a", some ""⟩, ⟨1, 1⟩, none, none⟩
    let m : Message := ⟨.error, "m", "r", .span span, none, [], false, none⟩
    let run := fun p =>
      (renderMessages docs ⟨[], none⟩ "/" ⟨1, "/", .stylish, none⟩ (some p) [m]).outcome
    EscapeFree "/" ∧ m.Plain docs ∧ run ⟨false⟩ = .ok ["a:", "  1:1   r m", ""] ∧
      run ⟨true⟩ = .ok ["\x1b[34ma\x1b[0m:", "  1:1   \x1b[31mr\x1b[0m m", ""] ∧
      eraseCodes "  1:1   \x1b[31mr\x1b[0m m" = "  1:1   r m" := by
  intro docs span m run
  have hplain : run ⟨false⟩ = .ok ["a:", "  1:1   r m", ""] := by decide +kernel
  have hcolored : run ⟨true⟩ = .ok ["\x1b[34ma\x1b[0m:", "  1:1   \x1b[31mr\x1b[0m m", ""] := by
    decide +kernel
  have hm : m.Plain docs := by
    refine ⟨by decide, by decide, by decide, ⟨⟨by decide, ?_⟩, by decide⟩, by simp [m]⟩
    intro t ht
    cases ht
    decide
  refine ⟨by decide, hm, hplain, hcolored, ?_⟩
  rcases renderMessages_transparent docs ⟨[], none⟩ "/" ⟨1, "/", .stylish, none⟩ [m] with
    ⟨e, -, he⟩ | ⟨colored, plain, hc, hp, -, -, herased⟩
  · cases hplain.symm.trans he
  · have hplain' := Except.ok.inj (hplain.symm.trans hp)
    have hcolored' := Except.ok.inj (hcolored.symm.trans hc)
    refine herased (by decide) (fun m' hm' => ?_) 1 _ _ (by rw [← hcolored']; rfl)
      (by rw [← hplain']; rfl)
    rw [List.mem_singleton.mp hm']
    exact hm

end LintReport
