/-
Whether the start of a resolved location lies in its document.

* `Yaml.Cursor.linesThrough_next` — one more character leaves the number of lines, unless it is the
  last one and breaks none;
* `Position.line_ofMark_le`, `Position.line_ofMark_of_length_le` — before the end of a text a place
  is in one of its lines, and at the end it is right after them if the last one is broken;
* `Location.AtEnd` — a node starts past the last line break of its text;
* `Location.start_inside_iff` — a resolved location starts in its document, and has an excerpt,
  unless its node starts there.

Design notes: a document counts a line after its last line break, and a text shown line by line
has none there.  An absent value is a node of its own, which stands where the next token does.
-/
import LintReport.Proofs.EscapeFree
import LintReport.Proofs.Faults
import LintReport.Proofs.Marking
import LintReport.Proofs.Windows

namespace LintReport

open Outcome

/-! ### Lines -/

namespace Text

variable {c : Char} {cs line : List Char}

theorem length_consToLines (c : Char) (L : List (List Char)) :
    (consToLines c L).length = max 1 L.length := by
  cases L with
  | nil => rfl
  | cons line rest =>
    simp only [consToLines, List.length_cons]
    omega

theorem lineChars_ne_nil (h : cs ≠ []) : lineChars cs ≠ [] := by
  induction cs using lineChars.induct with
  | case1 => exact absurd rfl h
  | case2 rest ih => simp [lineChars]
  | case3 c rest hcrlf hbreak ih => simp [lineChars.eq_3 _ _ hcrlf, hbreak]
  | case4 c rest hcrlf hbreak ih =>
    rw [lineChars_cons_of_unbroken (by simpa using hbreak), ← List.length_pos_iff,
      length_consToLines]
    omega

/-- No line is longer than the text. -/
theorem length_le_of_mem_lineChars (h : line ∈ lineChars cs) : line.length ≤ cs.length := by
  induction cs using lineChars.induct generalizing line with
  | case1 => cases h
  | case2 rest ih =>
    rw [lineChars, List.mem_cons] at h
    rcases h with rfl | h
    · simp
    · have := ih h
      simp only [List.length_cons]
      omega
  | case3 c rest hcrlf hbreak ih =>
    rw [lineChars.eq_3 _ _ hcrlf, if_pos hbreak, List.mem_cons] at h
    rcases h with rfl | h
    · simp
    · have := ih h
      simp only [List.length_cons]
      omega
  | case4 c rest hcrlf hbreak ih =>
    rw [lineChars_cons_of_unbroken (by simpa using hbreak)] at h
    cases hL : lineChars rest with
    | nil =>
      rw [hL, consToLines, List.mem_singleton] at h
      simp [h]
    | cons first others =>
      rw [hL, consToLines, List.mem_cons] at h
      rcases h with rfl | h
      · have := ih (hL ▸ List.mem_cons_self)
        simpa using this
      · have := ih (hL ▸ List.mem_cons_of_mem first h)
        simp only [List.length_cons]
        omega

end Text

namespace Yaml

variable {c : Char} {cs rest : List Char} {i : Nat}

/-- Of the characters that a document may hold, it breaks lines at those that end one. -/
theorem isLineBreak_eq_isBreak (h : isAllowed c = true) : Text.isLineBreak c = isBreak c := by
  have hall : ∀ n ∈ [10, 11, 12, 13, 28, 29, 30, 133, 8232, 8233],
      isAllowed (Char.ofNat n) = true → isBreak (Char.ofNat n) = true := by decide +kernel
  rw [Bool.eq_iff_iff]
  refine ⟨fun hline => ?_, isLineBreak_of_isBreak⟩
  have hmem : c.toNat ∈ [10, 11, 12, 13, 28, 29, 30, 133, 8232, 8233] := by
    simp only [Text.isLineBreak, Text.inRanges, Text.lineBreakRanges, List.size_toArray,
      List.length_cons, List.length_nil, zero_add, Nat.reduceAdd, List.any_toArray', List.any_cons,
      List.any_nil, Bool.or_false, Bool.or_eq_true, Bool.and_eq_true, decide_eq_true_eq] at hline
    simp only [List.mem_cons, List.not_mem_nil, or_false]
    omega
  have hbreak := hall _ hmem
  rw [Char.ofNat_toNat] at hbreak
  exact hbreak h

/-! ### Cursors -/

namespace Cursor

variable {p : Cursor}

/-- The number of lines, if those before the cursor are counted as the document counts them. -/
def linesThrough (p : Cursor) : Nat := p.line + (Text.lineChars p.rest).length

/-- A break ends the line, unless it is a carriage return that leaves this to a line feed. -/
theorem line_next_of_break (hrest : p.rest = c :: rest) (hc : isBreak c = true)
    (hsingle : ∀ rest', c = '\r' → rest = '\n' :: rest' → False) : p.next.line = p.line + 1 := by
  have hmove := next_of_rest hrest
  have hends : (c != '\r' || rest.headD endChar != '\n') = true := by
    rw [Bool.or_eq_true, bne_iff_ne, bne_iff_ne, ← not_and_or]
    rintro ⟨hreturn, hfeed⟩
    cases rest with
    | nil => exact absurd hfeed (by decide)
    | cons x rest' => exact hsingle rest' hreturn (by rw [← hfeed]; rfl)
  rw [hc, hends, Bool.and_self, if_pos rfl, Prod.mk.injEq] at hmove
  exact hmove.1

theorem line_next_of_unbroken (hrest : p.rest = c :: rest) (hc : isBreak c = false) :
    p.next.line = p.line := by
  have hmove := next_of_rest hrest
  rw [hc, Bool.false_and, if_neg Bool.false_ne_true, Prod.mk.injEq] at hmove
  exact hmove.1

/-- One more character leaves the number of lines, unless it is the last one and breaks none. -/
theorem linesThrough_next (hrest : p.rest = c :: rest) (h : isAllowed c = true) :
    p.next.linesThrough + (if isBreak c = false ∧ rest = [] then 1 else 0) = p.linesThrough := by
  have hbreaks := isLineBreak_eq_isBreak h
  rw [linesThrough, linesThrough, rest_next, hrest, List.tail_cons]
  cases hbreak : isBreak c with
  | false =>
    rw [hbreak] at hbreaks
    rw [line_next_of_unbroken hrest hbreak, Text.lineChars_cons_of_unbroken hbreaks,
      Text.length_consToLines]
    by_cases hlast : rest = []
    · rw [if_pos ⟨rfl, hlast⟩, hlast]
      rfl
    · have hpos := List.length_pos_iff.mpr (Text.lineChars_ne_nil hlast)
      rw [if_neg fun h => hlast h.2]
      omega
  | true =>
    rw [hbreak] at hbreaks
    rw [if_neg fun h => Bool.false_ne_true h.1.symm]
    by_cases hcrlf : ∃ rest', c = '\r' ∧ rest = '\n' :: rest'
    · -- the line feed ends the line, and the carriage return before it only seems to
      obtain ⟨rest', rfl, rfl⟩ := hcrlf
      have hline : p.next.line = p.line := by simpa using congrArg Prod.fst (next_of_rest hrest)
      rw [hline, Text.lineChars, Text.lineChars_feed_cons]
      rfl
    · have hsingle : ∀ rest', c = '\r' → rest = '\n' :: rest' → False :=
        fun rest' hreturn hfeed => hcrlf ⟨rest', hreturn, hfeed⟩
      rw [line_next_of_break hrest hbreak hsingle, Text.lineChars.eq_3 _ _ hsingle,
        if_pos hbreaks, List.length_cons]
      omega

/-- Up to the last character the number of lines stays the same. -/
theorem linesThrough_advance (hallowed : ∀ c ∈ p.rest, isAllowed c = true)
    (hi : i < p.rest.length) : (p.advance i).linesThrough = p.linesThrough := by
  induction i with
  | zero => rfl
  | succ i ih =>
    obtain ⟨hlt, hrest⟩ : ∃ h : i < p.rest.length,
        p.rest.drop i = p.rest[i] :: p.rest.drop (i + 1) :=
      ⟨by omega, List.drop_eq_getElem_cons (by omega)⟩
    -- no character on the way is the last one
    have hmore : p.rest.drop (i + 1) ≠ [] := by
      rw [Ne, List.drop_eq_nil_iff]
      omega
    have hnext := linesThrough_next ((rest_advance i p).trans hrest)
      (hallowed _ (List.getElem_mem hlt))
    rw [if_neg fun h => hmore h.2] at hnext
    rw [advance_succ, ← ih hlt, ← hnext]
    rfl

/-- After the last character the number of the line is that of all lines, if it breaks the last
one. -/
theorem line_advance_concat {xs : List Char} (hallowed : ∀ x ∈ xs ++ [c], isAllowed x = true) :
    ((start (xs ++ [c])).advance (xs.length + 1)).line + (if isBreak c then 0 else 1)
      = (Text.lineChars (xs ++ [c])).length := by
  have hrest : ((start (xs ++ [c])).advance xs.length).rest = [c] := by
    rw [rest_advance]
    exact List.drop_left
  have hend : ((start (xs ++ [c])).advance (xs.length + 1)).rest = [] := by
    rw [advance_succ, rest_next, hrest]
    rfl
  have hbefore : ((start (xs ++ [c])).advance xs.length).linesThrough
      = (start (xs ++ [c])).linesThrough := by
    refine linesThrough_advance hallowed ?_
    show xs.length < (xs ++ [c]).length
    simp
  have hlast := linesThrough_next hrest (hallowed c (by simp))
  rw [← advance_succ, hbefore, linesThrough, hend, linesThrough] at hlast
  have hstart : (start (xs ++ [c])).line + (Text.lineChars (start (xs ++ [c])).rest).length
      = (Text.lineChars (xs ++ [c])).length := Nat.zero_add _
  rw [← hstart, ← hlast]
  cases isBreak c with
  | true => rfl
  | false => rfl

end Cursor

/-- A document holds allowed characters only. -/
theorem isAllowed_of_compose {deepest : Nat} {d : Option Document}
    (h : compose deepest cs = .ok d) :
    ∀ c ∈ cs, isAllowed c = true := by
  rw [← List.all_eq_true]
  by_contra hforbidden
  have hfault : compose deepest cs = .error .malformed := by
    rw [compose, events, tokens, if_neg hforbidden]
    rfl
  cases h.symm.trans hfault

end Yaml

namespace Position

variable {cs : List Char} {i : Nat}

open Yaml (isAllowed isBreak)

theorem line_ofMark_eq (cs : List Char) (i : Nat) :
    (ofMark cs i).line = ((Yaml.Cursor.start cs).advance i).line + 1 := rfl

/-- **Before the end of a text** a position is in one of its lines. -/
theorem line_ofMark_le (hallowed : ∀ c ∈ cs, isAllowed c = true) (hi : i < cs.length) :
    (ofMark cs i).line ≤ (Text.lineChars cs).length := by
  have hlines := Yaml.Cursor.linesThrough_advance (p := Yaml.Cursor.start cs) hallowed hi
  have hpos : 0 < (Text.lineChars (cs.drop i)).length := by
    refine List.length_pos_iff.mpr (Text.lineChars_ne_nil ?_)
    rw [Ne, List.drop_eq_nil_iff]
    omega
  rw [Yaml.Cursor.linesThrough, Yaml.Cursor.linesThrough, Yaml.Cursor.rest_advance] at hlines
  rw [line_ofMark_eq]
  simp only [Yaml.Cursor.start] at hlines ⊢
  omega

/-- **At the end of a text** a position is in its last line, or in the one after it if the last
line is broken. -/
theorem line_ofMark_of_length_le (hallowed : ∀ c ∈ cs, isAllowed c = true) (hne : cs ≠ [])
    (hi : cs.length ≤ i) :
    (ofMark cs i).line
      = (Text.lineChars cs).length + if cs.getLast?.any isBreak then 1 else 0 := by
  induction i, hi using Nat.le_induction with
  | base =>
    obtain ⟨xs, c, rfl⟩ := (List.eq_nil_or_concat' cs).resolve_left hne
    have hline := Yaml.Cursor.line_advance_concat hallowed
    rw [line_ofMark_eq, List.getLast?_concat, Option.any_some, ← hline, List.length_append,
      List.length_singleton]
    cases isBreak c with
    | true => rfl
    | false => rfl
  | succ i hi ih =>
    rw [ofMark_of_length_le hi]
    exact ih

theorem column_ofIndex_le (cs : List Char) (i : Nat) : (ofIndex cs i).column ≤ cs.length + 1 := by
  have hline : (Text.openLine (cs.take i)).length ≤ (cs.take i).length := by
    have hlength := (List.takeWhile_prefix (· != '\n') (l := (cs.take i).reverse)).length_le
    rw [List.length_reverse] at hlength
    rwa [Text.openLine, List.length_reverse]
  have htake := List.length_take_le' i cs
  rw [ofIndex_eq]
  simp only
  omega

end Position

/-! ### Excerpts -/

namespace Excerpt

variable {docs : Documents} {span : Span} {text line : String}

/-- The marker of a span that stops at an index is no wider than the text. -/
theorem markerWidth_le (hline : line ∈ Text.lines text)
    (hstop : ∀ stop ∈ span.stop, ∃ i, stop = Position.ofIndex text.toList i) :
    markerWidth line span ≤ max (text.length : Int) 1 := by
  have hlength : line.length ≤ text.length := by
    obtain ⟨chars, hchars, rfl⟩ := List.mem_map.mp hline
    rw [String.length_ofList, ← String.length_toList]
    exact Text.length_le_of_mem_lineChars hchars
  have hcolumn : 1 ≤ markerColumn line span := by
    rw [markerColumn]
    omega
  cases hspan : span.stop with
  | none =>
    rw [markerWidth, hspan]
    show (1 : Int) ≤ _
    omega
  | some stop =>
    obtain ⟨i, rfl⟩ := hstop stop hspan
    have hend := Position.column_ofIndex_le text.toList i
    rw [String.length_toList] at hend
    rw [markerWidth, hspan]
    simp only
    split <;> omega

/-- An excerpt with a marker is not empty, since the row of the marker has a blank. -/
theorem intercalate_rows_ne_empty {lines : List String} {n : Nat} (palette : Palette)
    (hline : lines[n]? = some line) (hstart : span.start.line = n + 1) :
    "\n".intercalate (rows palette lines span) ≠ "" := by
  obtain ⟨row, hrow, hblank⟩ : ∃ row ∈ rows palette lines span, ' ' ∈ row.toList := by
    refine ⟨markerRow palette (toString (lastLine lines.length span)).length span line, ?_, ?_⟩
    · rw [rows_of_startLine palette hline hstart]
      simp
    · show ' ' ∈ (palette.muted _ ++ " " ++ _).toList
      simp [String.toList_append]
  intro hempty
  have hchars := congrArg String.toList hempty
  rw [String.toList_intercalate] at hchars
  have hmem : ' ' ∈ ['\n'].intercalate ((rows palette lines span).map String.toList) :=
    (Path.mem_intercalate_iff (by decide) _).mpr ⟨row.toList, List.mem_map_of_mem hrow, hblank⟩
  rw [show ['\n'] = "\n".toList from rfl, hchars] at hmem
  cases hmem

/-- A span that starts in a line of its text and has room for its marker has an excerpt. -/
theorem exists_excerpt (palette : Palette) (htext : (span.source.text docs).outcome = .ok text)
    (hlow : 1 ≤ span.start.line) (hhigh : span.start.line ≤ (Text.lines text).length)
    (hstop : ∀ stop ∈ span.stop, ∃ i, stop = Position.ofIndex text.toList i)
    (hroom : (text.length : Int) ≤ docs.limits.marker) :
    ∃ shown, (render docs palette span).outcome = .ok shown ∧ shown ≠ "" := by
  have hstart : span.start.line = (span.start.line - 1).toNat + 1 := by omega
  obtain ⟨line, hline⟩ : ∃ line, (Text.lines text)[(span.start.line - 1).toNat]? = some line :=
    ⟨_, List.getElem?_eq_getElem (by omega)⟩
  have hwidth := markerWidth_le (List.mem_of_getElem? hline) hstop
  have houtcome := outcome_render_of_startLine palette htext hline hstart
  have hone := docs.limits.one_le_marker
  rw [if_pos (by omega)] at houtcome
  exact ⟨_, houtcome, intercalate_rows_ne_empty palette hline hstart⟩

end Excerpt

/-! ### Locations -/

namespace Location

variable {docs : Documents} {source : Source} {pointer text : String} {onKey : Bool} {s : Span}

/-- A pointer into a text leads to a node that starts past the end, where the last line is
broken. -/
def AtEnd (deepest : Nat) (ref pointer : String) (onKey : Bool) (text : String) : Prop :=
  ∃ (d : Yaml.Document) (node : Yaml.Node), Yaml.compose deepest text.toList = .ok (some d) ∧
    (target d ref pointer onKey).outcome = .ok node ∧ text.length ≤ node.start ∧
    text.toList.getLast?.any Yaml.isBreak = true

/-- A pointer is resolved to the first position of a text without a document, or to the span of
the node that it leads to. -/
theorem cases_of_resolve? (htext : (source.text docs).outcome = .ok text)
    (h : (resolve? docs (.pointer source pointer onKey)).outcome = .ok (.ok s)) :
    (Yaml.compose docs.limits.document text.toList = .ok none ∧
        s = ⟨source, Position.origin, none, some pointer⟩) ∨
      ∃ d node, Yaml.compose docs.limits.document text.toList = .ok (some d) ∧
        (target d source.ref pointer onKey).outcome = .ok node ∧
        s = ⟨source, (node.span text.toList).1, some (node.span text.toList).2, some pointer⟩ := by
  rw [resolve?, resolvePointer, Attempt.outcome_bind, readSource_eq_ok_ok.mpr htext, ok_bind,
    Attempt.outcome_bind] at h
  obtain ⟨composed, hcomposed, h⟩ := bind_eq_ok.mp h
  rcases composed with e | _ | d
  · cases h
  · cases h
    exact .inl ⟨composeSource_eq_ok_ok.mp hcomposed, rfl⟩
  · rw [Attempt.outcome_bind] at h
    obtain ⟨node, hnode, h⟩ := bind_eq_ok.mp h
    cases h
    exact .inr ⟨d, node, composeSource_eq_ok_ok.mp hcomposed, hnode, rfl⟩

/-- The end of a resolved span is the position of an index. -/
theorem stop_of_resolve? (htext : (source.text docs).outcome = .ok text)
    (h : (resolve? docs (.pointer source pointer onKey)).outcome = .ok (.ok s)) :
    ∀ stop ∈ s.stop, ∃ i, stop = Position.ofIndex text.toList i := by
  intro stop hstop
  rcases cases_of_resolve? htext h with ⟨-, rfl⟩ | ⟨d, node, -, -, rfl⟩
  · cases hstop
  · exact ⟨_, (Option.some.inj hstop).symm⟩

/-- A resolved span starts in the line after the last one exactly if its node is at the end. -/
theorem line_of_resolve? (htext : (source.text docs).outcome = .ok text)
    (hlines : Text.lines text ≠ [])
    (h : (resolve? docs (.pointer source pointer onKey)).outcome = .ok (.ok s)) :
    1 ≤ s.start.line ∧
    (AtEnd docs.limits.document source.ref pointer onKey text ∧
        s.start.line = (Text.lines text).length + 1 ∨
      ¬ AtEnd docs.limits.document source.ref pointer onKey text ∧
        s.start.line ≤ (Text.lines text).length) := by
  have hcount : (Text.lines text).length = (Text.lineChars text.toList).length := List.length_map _
  rcases cases_of_resolve? htext h with ⟨hdoc, rfl⟩ | ⟨d, node, hdoc, hnode, rfl⟩
  · -- without a document it is the first line
    refine ⟨Int.le_refl 1, .inr ⟨?_, ?_⟩⟩
    · rintro ⟨d, node, hdoc', -⟩
      cases hdoc.symm.trans hdoc'
    · have hpos := List.length_pos_iff.mpr hlines
      show (1 : Int) ≤ _
      omega
  · have hallowed := Yaml.isAllowed_of_compose hdoc
    have hatEnd : AtEnd docs.limits.document source.ref pointer onKey text
        ↔ text.length ≤ node.start ∧ text.toList.getLast?.any Yaml.isBreak = true := by
      constructor
      · rintro ⟨d', node', hdoc', hnode', hend⟩
        obtain rfl := Option.some.inj (Except.ok.inj (hdoc.symm.trans hdoc'))
        obtain rfl := Except.ok.inj (hnode.symm.trans hnode')
        exact hend
      · intro hend
        exact ⟨d, node, hdoc, hnode, hend⟩
    rw [hatEnd, hcount, ← String.length_toList]
    show 1 ≤ (Position.ofMark text.toList node.start).line ∧ (_ ∧
      (Position.ofMark text.toList node.start).line = _ ∨ _ ∧
      (Position.ofMark text.toList node.start).line ≤ _)
    have hfirst : 1 ≤ (Position.ofMark text.toList node.start).line := by
      rw [Position.line_ofMark_eq]
      omega
    refine ⟨hfirst, ?_⟩
    by_cases hstart : node.start < text.toList.length
    · exact .inr ⟨fun hend => by omega, Position.line_ofMark_le hallowed hstart⟩
    · have hne : text.toList ≠ [] := by
        intro hempty
        rw [Text.lines, hempty] at hlines
        exact hlines rfl
      have hline := Position.line_ofMark_of_length_le hallowed hne (by omega : _ ≤ node.start)
      cases hbreak : text.toList.getLast?.any Yaml.isBreak with
      | true =>
        rw [hbreak, if_pos rfl] at hline
        exact .inl ⟨⟨by omega, rfl⟩, hline⟩
      | false =>
        rw [hbreak, if_neg Bool.false_ne_true] at hline
        exact .inr ⟨fun hend => Bool.false_ne_true hend.2, by omega⟩

/-- **Whether a resolved location lies in its document.**  It starts in one of the lines of the
text and has an excerpt, or else it starts in the one after them and has none, and that is so
exactly if its node starts past the last line break. -/
theorem start_inside_iff (hbody : source.body = some text) (hlines : Text.lines text ≠ [])
    (hspan : (resolve? docs (.pointer source pointer onKey)).outcome = .ok (.ok s)) :
    1 ≤ s.start.line ∧ s.start.line ≤ (Text.lines text).length + 1 ∧
    (s.start.line ≤ (Text.lines text).length
        ↔ ¬ AtEnd docs.limits.document source.ref pointer onKey text) ∧
    ∀ palette : Palette,
      (AtEnd docs.limits.document source.ref pointer onKey text →
        (Excerpt.render docs palette s).outcome = .ok "") ∧
      (¬ AtEnd docs.limits.document source.ref pointer onKey text →
        (text.length : Int) ≤ docs.limits.marker →
        ∃ shown, (Excerpt.render docs palette s).outcome = .ok shown ∧ shown ≠ "") := by
  have htext : (source.text docs).outcome = .ok text := by
    rw [Source.text, hbody]
    rfl
  have hsource : s.source = source := (of_resolvePointer hspan).1
  have hstop := stop_of_resolve? htext hspan
  obtain ⟨hlow, hcases⟩ := line_of_resolve? htext hlines hspan
  rw [← hsource] at htext
  rcases hcases with ⟨hend, hline⟩ | ⟨hend, hline⟩
  · refine ⟨hlow, by omega, iff_of_false (by omega) (not_not_intro hend), fun palette =>
      ⟨fun _ => Excerpt.outcome_render_of_outside htext (.inr (by omega)), fun h => absurd hend h⟩⟩
  · refine ⟨hlow, by omega, iff_of_true hline hend, fun palette => ⟨fun h => absurd h hend, ?_⟩⟩
    intro _ hroom
    exact Excerpt.exists_excerpt palette htext hlow hline hstop hroom

/-- A value that is absent at the end of a line stands there, and has an excerpt. -/
theorem start_inside_of_absent :
    let text := "a: 1\nb:\n"
    let docs : Documents := ⟨fun _ => .error .nullCharacter, .usual⟩
    let source : Source := ⟨"/d.yaml", some text⟩
    let s : Span := ⟨source, ⟨2, 3⟩, some ⟨2, 3⟩, some "#/b"⟩
    (resolve? docs (.pointer source "#/b" false)).outcome = .ok (.ok s) ∧
      ¬ AtEnd docs.limits.document "/d.yaml" "#/b" false text ∧
      ∃ shown, (Excerpt.render docs ⟨true⟩ s).outcome = .ok shown ∧ shown ≠ "" := by
  intro text docs source s
  have hspan : (resolve? docs (.pointer source "#/b" false)).outcome = .ok (.ok s) := by
    decide +kernel
  have hlines : Text.lines text = ["a: 1", "b:"] := by decide +kernel
  obtain ⟨-, -, hinside, hshown⟩ := start_inside_iff rfl (by simp [hlines]) hspan
  have hend : ¬ AtEnd docs.limits.document "/d.yaml" "#/b" false text := by
    refine hinside.mp ?_
    rw [hlines]
    decide
  exact ⟨hspan, hend, (hshown ⟨true⟩).2 hend (by decide +kernel)⟩

/-- The absent content of a document that begins after a marker stands at the next token, which is
the end of the text.  So the root of this document of one line starts in its second line, and
there is no excerpt. -/
theorem start_after_marker :
    let text := "---\n"
    let docs : Documents := ⟨fun _ => .error .nullCharacter, .usual⟩
    let source : Source := ⟨"/d.yaml", some text⟩
    let s : Span := ⟨source, ⟨2, 1⟩, some ⟨2, 1⟩, some "#/"⟩
    Text.lines text = ["---"] ∧
      (resolve? docs (.pointer source "#/" false)).outcome = .ok (.ok s) ∧
      ¬ s.start.line ≤ (Text.lines text).length ∧
      (Excerpt.render docs ⟨false⟩ s).outcome = .ok "" := by
  intro text docs source s
  have hlines : Text.lines text = ["---"] := by decide +kernel
  refine ⟨hlines, by decide +kernel, ?_, by decide +kernel⟩
  rw [hlines]
  decide

end Location

end LintReport
