/-
The window of lines that an excerpt shows.

* `Excerpt.IsLineRow`, `Excerpt.IsMarkerRow` — the row of a line under its number, and the row of a
  marker;
* `Excerpt.rows_eq_numbers` — an excerpt has a row for each number of its window, and the marker
  after the row of the line that its span starts in;
* `Excerpt.render_window` — the excerpt of a span, divided at its line feeds, is the window of this
  span.

Design notes: the rows are told apart by their gutters, which have a digit before the bar or a
blank.  They are told apart in the text of the excerpt as well, since neither a gutter nor a line
nor a marker has a line feed.
-/
import LintReport.Proofs.Coordinates
import LintReport.Proofs.Excerpts
import LintReport.Proofs.Numerals

namespace LintReport

open Outcome

namespace Excerpt

variable {span : Span} {lines : List String} {line row : String}
  {width number n column carets : Nat} {first last : Int}

/-! ### Numbers of lines -/

/-- The numbers of the lines from one to another. -/
def numbers (first last : Int) : List Nat :=
  List.range' first.toNat (last + 1 - first).toNat

theorem mem_numbers (h : 0 ≤ first) : n ∈ numbers first last ↔ first ≤ n ∧ (n : Int) ≤ last := by
  rw [numbers, List.mem_range'_1]
  omega

/-- The numbers up to a line end with the number of this line. -/
theorem numbers_succ (h : 1 ≤ first) (hn : first ≤ n + 1) :
    numbers first (n + 1) = numbers first n ++ [n + 1] := by
  have hcount : ((n : Int) + 1 + 1 - first).toNat = ((n : Int) + 1 - first).toNat + 1 := by omega
  have hlast : first.toNat + ((n : Int) + 1 - first).toNat = n + 1 := by omega
  rw [numbers, numbers, hcount, List.range'_1_concat, hlast]

theorem one_le_firstLine (span : Span) : 1 ≤ firstLine span := by
  simp only [firstLine]
  omega

theorem map_snd_linesAbove (hn : n ≤ lines.length) :
    (linesAbove lines span n).map Prod.snd = numbers (firstLine span) n := by
  have hfirst := one_le_firstLine span
  have hlength : (lines.take n).length = n := by
    rw [List.length_take, Nat.min_eq_left hn]
  have hbegin : 1 + ((firstLine span).toNat - 1) * 1 = (firstLine span).toNat := by omega
  have hcount : n - ((firstLine span).toNat - 1) = ((n : Int) + 1 - firstLine span).toNat := by
    omega
  rw [linesAbove, List.map_drop, List.zipIdx_map_snd, List.drop_range', hlength, numbers, hbegin,
    hcount]

theorem lastLine_le (count : Nat) (span : Span) : lastLine count span ≤ count := by
  simp only [lastLine]
  omega

theorem map_snd_linesBelow :
    (linesBelow lines span n).map Prod.snd
      = numbers ((n : Int) + 2) (lastLine lines.length span) := by
  have hlast := lastLine_le lines.length span
  have hbegin : ((n : Int) + 2).toNat = n + 2 := by omega
  have hcount : ((lines.take (lastLine lines.length span).toNat).drop (n + 1)).length
      = (lastLine lines.length span + 1 - ((n : Int) + 2)).toNat := by
    rw [List.length_drop, List.length_take]
    omega
  rw [linesBelow, List.zipIdx_map_snd, hcount, numbers, hbegin]

theorem getElem?_of_take {m : Nat} (h : (lines.take m)[n]? = some line) :
    lines[n]? = some line := by
  rw [List.getElem?_take] at h
  split at h
  · exact h
  · cases h

theorem getElem?_of_mem_linesAbove {e : String × Nat} (h : e ∈ linesAbove lines span n) :
    lines[e.2 - 1]? = some e.1 := by
  obtain ⟨shown, k⟩ := e
  obtain ⟨-, hget⟩ := List.mk_mem_zipIdx_iff_le_and_getElem?_sub.mp (List.mem_of_mem_drop h)
  exact getElem?_of_take hget

theorem getElem?_of_mem_linesBelow {e : String × Nat} (h : e ∈ linesBelow lines span n) :
    lines[e.2 - 1]? = some e.1 := by
  obtain ⟨shown, k⟩ := e
  obtain ⟨hle, hget⟩ := List.mk_mem_zipIdx_iff_le_and_getElem?_sub.mp h
  have hindex : n + 1 + (k - (n + 2)) = k - 1 := by omega
  rw [List.getElem?_drop, hindex] at hget
  exact getElem?_of_take hget

/-- The row of the line with a number. -/
def numberedRow (lines : List String) (width number : Nat) : String :=
  lineRow ⟨false⟩ width number (lines.getD (number - 1) "")

theorem numberedRow_eq (h : lines[number - 1]? = some line) :
    numberedRow lines width number = lineRow ⟨false⟩ width number line := by
  rw [numberedRow, List.getD_eq_getElem?_getD, h, Option.getD_some]

theorem map_lineRow_eq {es : List (String × Nat)} (h : ∀ e ∈ es, lines[e.2 - 1]? = some e.1) :
    (es.map fun e => lineRow ⟨false⟩ width e.2 e.1)
      = (es.map Prod.snd).map (numberedRow lines width) := by
  rw [List.map_map]
  exact List.map_congr_left fun e he => (numberedRow_eq (h e he)).symm

/-- **An excerpt has a row for each number of its window**, and the marker after that of the line
that its span starts in. -/
theorem rows_eq_numbers (hline : lines[n]? = some line) (hstart : span.start.line = n + 1)
    (hwidth : (toString (lastLine lines.length span)).length = width) :
    rows ⟨false⟩ lines span
      = (numbers (firstLine span) (n + 1)).map (numberedRow lines width)
        ++ markerRow ⟨false⟩ width span line
          :: (numbers ((n : Int) + 2) (lastLine lines.length span)).map
            (numberedRow lines width) := by
  subst hwidth
  obtain ⟨hn, -⟩ := List.getElem?_eq_some_iff.mp hline
  have hfirst : firstLine span ≤ n + 1 := hstart ▸ firstLine_le_start (by omega)
  rw [rows_of_startLine ⟨false⟩ hline hstart,
    map_lineRow_eq fun e he => getElem?_of_mem_linesAbove he,
    map_lineRow_eq fun e he => getElem?_of_mem_linesBelow he, map_snd_linesAbove (Nat.le_of_lt hn),
    map_snd_linesBelow, numbers_succ (one_le_firstLine span) hfirst, List.map_append,
    List.append_assoc, List.map_singleton, numberedRow_eq hline]
  rfl

/-! ### The characters of the rows -/

theorem toList_gutter (width : Nat) (number : String) :
    (gutter width number).toList
      = ' ' :: (List.replicate (width - number.length) ' ' ++ number.toList ++ [' ', '|']) := by
  show (" " ++ (String.ofList (List.replicate (width - number.length) ' ') ++ number)
    ++ " |").toList = _
  simp only [String.toList_append, String.toList_ofList]
  rfl

theorem toList_lineRow (width number : Nat) (line : String) :
    (lineRow ⟨false⟩ width number line).toList = (gutter width number.repr).toList
      ++ if line = "" then [] else ' ' :: line.toList := by
  by_cases hempty : line = ""
  · rw [lineRow, if_pos hempty, if_pos hempty, List.append_nil]
    rfl
  · rw [lineRow, if_neg hempty, if_neg hempty]
    show (gutter width number.repr ++ " " ++ line).toList = _
    rw [String.toList_append, String.toList_append, List.append_assoc]
    rfl

theorem toList_markerRow (width : Nat) (span : Span) (line : String) :
    (markerRow ⟨false⟩ width span line).toList = (gutter width "").toList
      ++ ' ' :: (List.replicate (markerColumn line span - 1).toNat ' '
        ++ List.replicate (markerWidth line span).toNat '^') := by
  show (gutter width "" ++ " " ++ marker line span).toList = _
  simp only [String.toList_append, marker, String.toList_ofList, List.append_assoc]
  rfl

/-- The row of a line: a gutter with the number at its right end, and the line after it. -/
structure IsLineRow (width number : Nat) (line row : String) : Prop where
  fits : number.repr.length ≤ width
  gutter : row.toList.take (width + 3)
    = ' ' :: (List.replicate (width - number.repr.length) ' ' ++ number.repr.toList ++ [' ', '|'])
  line : row.toList.drop (width + 4) = line.toList

/-- The row of a marker: a gutter without a number, and carets from a column on. -/
def IsMarkerRow (width column carets : Nat) (row : String) : Prop :=
  row.toList = ' ' :: (List.replicate width ' ' ++ [' ', '|'])
    ++ ' ' :: (List.replicate (column - 1) ' ' ++ List.replicate carets '^')

theorem isLineRow_lineRow (h : number.repr.length ≤ width) (line : String) :
    IsLineRow width number line (lineRow ⟨false⟩ width number line) := by
  have hlength : (gutter width number.repr).toList.length = width + 3 := by
    rw [String.length_toList, length_gutter, Nat.max_eq_left h]
  refine ⟨h, ?_, ?_⟩
  · rw [toList_lineRow, List.take_left' hlength, toList_gutter]
  · have hdrop : ∀ cs : List Char, cs.drop (width + 4) = (cs.drop (width + 3)).drop 1 :=
      fun cs => by rw [List.drop_drop]
    rw [toList_lineRow, hdrop, List.drop_left' hlength]
    by_cases hempty : line = ""
    · rw [if_pos hempty, hempty]
      rfl
    · rw [if_neg hempty]
      rfl

theorem isMarkerRow_markerRow (hcolumn : markerColumn line span = column)
    (hcarets : markerWidth line span = carets) :
    IsMarkerRow width column carets (markerRow ⟨false⟩ width span line) := by
  have hblanks : (markerColumn line span - 1).toNat = column - 1 := by omega
  have hwidth : (markerWidth line span).toNat = carets := by omega
  rw [IsMarkerRow, toList_markerRow, toList_gutter, hblanks, hwidth]
  simp

/-- A row with a number is not the row of a marker. -/
theorem IsLineRow.ne_marker {marker : String} (h : IsLineRow width number line row)
    (hmarker : IsMarkerRow width column carets marker) : row ≠ marker := by
  rintro rfl
  have hlength : (' ' :: (List.replicate width ' ' ++ [' ', '|'])).length = width + 3 := by simp
  have hsame := h.gutter
  rw [hmarker, List.take_left' hlength] at hsame
  have hnumber : List.replicate width ' '
      = List.replicate (width - number.repr.length) ' ' ++ number.repr.toList :=
    List.append_cancel_right (List.cons.inj hsame).2
  -- the last digit of the number would be a blank
  obtain ⟨c, hc⟩ : ∃ c, c ∈ number.repr.toList := by
    rw [Nat.toList_repr]
    exact List.exists_mem_of_length_pos Nat.length_toDigits_pos
  have hblank : c = ' ' :=
    List.eq_of_mem_replicate (hnumber ▸ List.mem_append_right _ hc)
  have hdigit := Text.Numeral.isDigit_of_mem_repr hc
  rw [hblank] at hdigit
  cases hdigit

theorem feed_not_mem_gutter {number : String} (h : '\n' ∉ number.toList) :
    '\n' ∉ (gutter width number).toList := by
  rw [toList_gutter]
  simp [h]

/-- The row of a line has no line feed, as the line has none. -/
theorem feed_not_mem_lineRow (h : '\n' ∉ line.toList) :
    '\n' ∉ (lineRow ⟨false⟩ width number line).toList := by
  have hnumber : '\n' ∉ number.repr.toList := fun hmem => by
    cases Text.Numeral.isDigit_of_mem_repr hmem
  rw [toList_lineRow, List.mem_append, not_or]
  refine ⟨feed_not_mem_gutter hnumber, ?_⟩
  split
  · exact List.not_mem_nil
  · simp [h]

theorem feed_not_mem_markerRow : '\n' ∉ (markerRow ⟨false⟩ width span line).toList := by
  rw [toList_markerRow, List.mem_append, not_or]
  exact ⟨feed_not_mem_gutter List.not_mem_nil, by simp⟩

/-! ### The window -/

/-- The marker of a span under a line: it begins in the line or right after it, and goes on to the
end of the span, or if that is on another line, to the end of the line. -/
structure IsMarker (span : Span) (line : String) (column carets : Nat) : Prop where
  column_eq : (column : Int) = min (max span.start.column 1) (line.length + 1)
  of_none : span.stop = none → carets = 1
  of_same : ∀ stop ∈ span.stop, stop.line = span.start.line →
    (carets : Int) = max (stop.column - column) 1
  of_other : ∀ stop ∈ span.stop, stop.line ≠ span.start.line →
    (carets : Int) = max (line.length + 1 - column) 1

theorem exists_isMarker (span : Span) (line : String) :
    ∃ column carets : Nat, markerColumn line span = column ∧ markerWidth line span = carets ∧
      IsMarker span line column carets := by
  obtain ⟨column, hcolumn⟩ : ∃ column : Nat, markerColumn line span = column := by
    refine Int.eq_ofNat_of_zero_le ?_
    rw [markerColumn]
    omega
  have hcolumnEq : (column : Int) = min (max span.start.column 1) (line.length + 1) := hcolumn.symm
  cases hstop : span.stop with
  | none =>
    have hwidth : markerWidth line span = (1 : Nat) := by
      rw [markerWidth, hstop]
      rfl
    refine ⟨column, 1, hcolumn, hwidth, hcolumnEq, fun _ => rfl, ?_, ?_⟩
    · intro stop hmem
      cases hstop.symm.trans hmem
    · intro stop hmem
      cases hstop.symm.trans hmem
  | some stop =>
    have hwidth : markerWidth line span = if stop.line = span.start.line
        then max (stop.column - column) 1 else max (line.length - column + 1) 1 := by
      rw [markerWidth, hstop, hcolumn]
    obtain ⟨carets, hcarets⟩ : ∃ carets : Nat, markerWidth line span = carets := by
      refine Int.eq_ofNat_of_zero_le ?_
      rw [hwidth]
      split <;> omega
    refine ⟨column, carets, hcolumn, hcarets, hcolumnEq, ?_, ?_, ?_⟩
    · intro hnone
      cases hstop.symm.trans hnone
    · intro stop' hmem hsame
      obtain rfl := Option.some.inj (hstop.symm.trans hmem)
      rw [← hcarets, hwidth, if_pos hsame]
    · intro stop' hmem hother
      obtain rfl := Option.some.inj (hstop.symm.trans hmem)
      rw [← hcarets, hwidth, if_neg hother]
      omega

/-- The rows of a window: each line from the first to the last has a row with its number, in order,
and right after the row of one of them, and nowhere else, there is a marker. -/
def IsWindow (lines : List String) (first start last : Int) (column carets : Nat)
    (shown : List String) : Prop :=
  ∃ (width : Nat) (row : Nat → String) (marker : String),
    shown = (numbers first start).map row ++ marker :: (numbers (start + 1) last).map row ∧
    (∀ k ∈ numbers first last, row k ≠ marker ∧
      ∃ line, lines[k - 1]? = some line ∧ IsLineRow width k line (row k)) ∧
    IsMarkerRow width column carets marker

theorem isWindow_rows (hline : lines[n]? = some line) (hstart : span.start.line = n + 1)
    (hcolumn : markerColumn line span = column) (hcarets : markerWidth line span = carets) :
    IsWindow lines (firstLine span) span.start.line (lastLine lines.length span) column carets
      (rows ⟨false⟩ lines span) := by
  obtain ⟨width, hwidth⟩ : ∃ width, (toString (lastLine lines.length span)).length = width :=
    ⟨_, rfl⟩
  have hmarker : IsMarkerRow width column carets (markerRow ⟨false⟩ width span line) :=
    isMarkerRow_markerRow hcolumn hcarets
  refine ⟨width, numberedRow lines width, markerRow ⟨false⟩ width span line, ?_, fun k hk => ?_,
    hmarker⟩
  · rw [rows_eq_numbers hline hstart hwidth, hstart]
    rfl
  · -- the numbers of the window are those of lines, and none is wider than the last one
    have hfirst := one_le_firstLine span
    have hcount := lastLine_le lines.length span
    obtain ⟨hle, hge⟩ := (mem_numbers (by omega)).mp hk
    obtain ⟨shown, hshown⟩ : ∃ shown, lines[k - 1]? = some shown :=
      ⟨_, List.getElem?_eq_getElem (by omega)⟩
    have hshow := isLineRow_lineRow (hwidth ▸ length_repr_le_toString hge) shown
    rw [numberedRow_eq hshown]
    exact ⟨hshow.ne_marker hmarker, shown, hshown, hshow⟩

/-- Neither a row of a line nor the marker has a line feed. -/
theorem feed_not_mem_of_mem_rows {text : String} (hlines : Text.lines text = lines)
    (hline : lines[n]? = some line) (hstart : span.start.line = n + 1)
    (hrow : row ∈ rows ⟨false⟩ lines span) : '\n' ∉ row.toList := by
  have hnumbered : ∀ width number, '\n' ∉ (numberedRow lines width number).toList := by
    intro width number
    refine feed_not_mem_lineRow fun hmem => ?_
    rw [List.getD_eq_getElem?_getD] at hmem
    cases hget : lines[number - 1]? with
    | none =>
      rw [hget] at hmem
      exact absurd hmem List.not_mem_nil
    | some shown =>
      rw [hget, Option.getD_some] at hmem
      have hshown : shown ∈ Text.lines text := hlines ▸ List.mem_of_getElem? hget
      cases Text.isLineBreak_feed.symm.trans (Text.isLineBreak_of_mem_lines hshown _ hmem)
  rw [rows_eq_numbers hline hstart rfl, List.mem_append, List.mem_cons] at hrow
  rcases hrow with hrow | rfl | hrow
  · obtain ⟨k, -, rfl⟩ := List.mem_map.mp hrow
    exact hnumbered _ k
  · exact feed_not_mem_markerRow
  · obtain ⟨k, -, rfl⟩ := List.mem_map.mp hrow
    exact hnumbered _ k

/-- Rows without line feeds come back from the text that they are joined to. -/
theorem map_ofList_splitOn {shown : List String} (hne : shown ≠ [])
    (hfeed : ∀ row ∈ shown, '\n' ∉ row.toList) :
    (("\n".intercalate shown).toList.splitOn '\n').map String.ofList = shown := by
  have hpieces : ∀ cs ∈ shown.map String.toList, '\n' ∉ cs := by
    intro cs hcs
    obtain ⟨row, hrow, rfl⟩ := List.mem_map.mp hcs
    exact hfeed row hrow
  rw [String.toList_intercalate]
  show ((['\n'].intercalate (shown.map String.toList)).splitOn '\n').map String.ofList = shown
  rw [List.splitOn_intercalate _ hpieces (by simpa using hne), List.map_map]
  simp

/-- An excerpt has no rows if its span does not start inside of the document. -/
theorem rows_of_outside (palette : Palette)
    (h : span.start.line < 1 ∨ (lines.length : Int) < span.start.line) :
    rows palette lines span = [] := by
  rw [rows, if_pos (by simpa using h)]

theorem tooWide?_of_outside (room : Int)
    (h : span.start.line < 1 ∨ (lines.length : Int) < span.start.line) :
    tooWide? room lines span = none := by
  have hnone : startLine? lines span = none := by
    rw [startLine?]
    split
    · rfl
    · exact List.getElem?_eq_none (by omega)
  rw [tooWide?, hnone, Option.bind_none]

/-! ### The text of an excerpt -/

section

variable {docs : Documents} {text : String} {palette : Palette}

theorem outcome_render_of_outside (htext : (span.source.text docs).outcome = .ok text)
    (h : span.start.line < 1 ∨ ((Text.lines text).length : Int) < span.start.line) :
    (render docs palette span).outcome = .ok "" := by
  rw [outcome_render_of_text htext, tooWide?_of_outside _ h, rows_of_outside palette h]
  rfl

/-- The excerpt of a span that starts in a line of a text: the window of the span, if there is room
for its marker. -/
theorem exists_window (htext : (span.source.text docs).outcome = .ok text)
    (hlow : 1 ≤ span.start.line) (hhigh : span.start.line ≤ (Text.lines text).length) :
    ∃ (line : String) (column carets : Nat),
      (Text.lines text)[(span.start.line - 1).toNat]? = some line ∧
      IsMarker span line column carets ∧
      (docs.limits.marker < carets →
        (render docs ⟨false⟩ span).outcome = .error (.tooWide carets)) ∧
      (carets ≤ docs.limits.marker → ∃ s : String, (render docs ⟨false⟩ span).outcome = .ok s ∧
        IsWindow (Text.lines text) (firstLine span) span.start.line
          (lastLine (Text.lines text).length span) column carets
          ((s.toList.splitOn '\n').map String.ofList)) := by
  have hstart : span.start.line = (span.start.line - 1).toNat + 1 := by omega
  obtain ⟨line, hline⟩ : ∃ line, (Text.lines text)[(span.start.line - 1).toNat]? = some line :=
    ⟨_, List.getElem?_eq_getElem (by omega)⟩
  obtain ⟨column, carets, hcolumn, hcarets, hmarker⟩ := exists_isMarker span line
  have houtcome := outcome_render_of_startLine ⟨false⟩ htext hline hstart
  rw [hcarets] at houtcome
  refine ⟨line, column, carets, hline, hmarker, fun hwide => ?_, fun hroom => ?_⟩
  · rw [houtcome, if_neg (by omega)]
  · rw [if_pos hroom] at houtcome
    have hwindow := isWindow_rows hline hstart hcolumn hcarets
    have hne : rows ⟨false⟩ (Text.lines text) span ≠ [] := by
      obtain ⟨width, row, marker, hrows, -⟩ := hwindow
      rw [hrows]
      exact List.append_ne_nil_of_right_ne_nil _ (List.cons_ne_nil _ _)
    refine ⟨_, houtcome, ?_⟩
    rw [map_ofList_splitOn hne fun row hrow => feed_not_mem_of_mem_rows rfl hline hstart hrow]
    exact hwindow

/-- A window is not empty, as it has a marker. -/
theorem IsWindow.ne_empty {start : Int}
    (h : IsWindow lines first start last column carets
      (("".toList.splitOn '\n').map String.ofList)) : False := by
  obtain ⟨width, row, marker, hrows, -, hmarker⟩ := h
  have hmem : marker ∈ ("".toList.splitOn '\n').map String.ofList := by
    rw [hrows]
    exact List.mem_append_right _ List.mem_cons_self
  have hempty : marker = "" := List.mem_singleton.mp hmem
  rw [hempty] at hmarker
  cases hmarker

/-- **The excerpt of a span is the window around it.**  It is empty exactly if the text has no lines
or the span starts in none of them.  Otherwise, if there is room for the marker, its lines are one
row for each line from two before the start to the end of the span, at most five from the start on,
with the marker right after the row of the start; and if there is none, there is no excerpt. -/
theorem render_window (htext : (span.source.text docs).outcome = .ok text) :
    let lines := Text.lines text
    let start := span.start.line
    let stop := (span.stop.getD span.start).line
    let first := max 1 (start - 2)
    let last := min (min (max stop start) lines.length) (start + 4)
    let outcome := (render docs ⟨false⟩ span).outcome
    (outcome = .ok "" ↔ lines = [] ∨ start < 1 ∨ lines.length < start) ∧
    (1 ≤ start → start ≤ lines.length → ∃ (line : String) (column carets : Nat),
      lines[(start - 1).toNat]? = some line ∧ IsMarker span line column carets ∧
      (docs.limits.marker < carets → outcome = .error (.tooWide carets)) ∧
      (carets ≤ docs.limits.marker → ∃ s : String, outcome = .ok s ∧
        IsWindow lines first start last column carets
          ((s.toList.splitOn '\n').map String.ofList))) := by
  intro lines start stop first last outcome
  have hlast : lastLine lines.length span = last := by
    show min (min (max stop start) lines.length) (start + 5 - 1) = last
    omega
  refine ⟨⟨fun hempty => ?_, fun h => ?_⟩, fun hlow hhigh => hlast ▸ exists_window htext hlow hhigh⟩
  · -- a span that starts in a line has a marker or no excerpt at all
    by_contra hcontra
    rw [not_or, not_or] at hcontra
    obtain ⟨line, column, carets, -, -, hwide, hroom⟩ :=
      exists_window htext (show 1 ≤ start by omega) (show start ≤ lines.length by omega)
    by_cases hfits : (carets : Int) ≤ docs.limits.marker
    · obtain ⟨s, hs, hwindow⟩ := hroom hfits
      obtain rfl : s = "" := Except.ok.inj (hs.symm.trans hempty)
      exact hwindow.ne_empty
    · cases hempty.symm.trans (hwide (by omega))
  · refine outcome_render_of_outside htext ?_
    rcases h with hnone | hout
    · show start < 1 ∨ (lines.length : Int) < start
      rw [hnone, List.length_nil]
      omega
    · exact hout

/-- A span that starts before its line and stops after the text: the marker begins with the line and
goes on to its end. -/
theorem render_window_of_far_stop :
    let text := "ab\r\ncd\n\nef"
    let docs : Documents := ⟨fun _ => .error .nullCharacter, .usual⟩
    let span : Span := ⟨⟨"/d.yaml", some text⟩, ⟨2, 0⟩, some ⟨99, -5⟩, none⟩
    let shown := " 1 | ab\n 2 | cd\n   | ^^\n 3 |\n 4 | ef"
    (span.source.text docs).outcome = .ok text ∧
      (render docs ⟨false⟩ span).outcome = .ok shown ∧
      IsWindow ["ab", "cd", "", "ef"] 1 2 4 1 2
        ((shown.toList.splitOn '\n').map String.ofList) := by
  intro text docs span shown
  have htext : (span.source.text docs).outcome = .ok text := rfl
  have hlines : Text.lines text = ["ab", "cd", "", "ef"] := by decide +kernel
  have hshown : (render docs ⟨false⟩ span).outcome = .ok shown := by decide +kernel
  have hwindow := (render_window htext).2 (show (1 : Int) ≤ 2 by decide)
  rw [hlines] at hwindow
  obtain ⟨line, column, carets, hline, hmarker, -, hroom⟩ := hwindow (by decide)
  obtain rfl : "cd" = line := Option.some.inj hline
  obtain rfl : column = 1 := Int.ofNat_inj.mp hmarker.column_eq
  obtain rfl : carets = 2 := Int.ofNat_inj.mp (hmarker.of_other _ rfl (by decide))
  obtain ⟨s, hs, hs'⟩ := hroom (by decide)
  obtain rfl : s = shown := Except.ok.inj (hs.symm.trans hshown)
  exact ⟨htext, hshown, hs'⟩

/-- The start of a marker is moved to the line, and its end is not: a span that stops far to the
right of a short line has no excerpt. -/
theorem render_of_vast_column :
    let docs : Documents := ⟨fun _ => .error .nullCharacter, .usual⟩
    let span : Span := ⟨⟨"/d.yaml", some "a"⟩, ⟨1, 1⟩, some ⟨1, 9223372036854775809⟩, none⟩
    Text.lines "a" = ["a"] ∧
      (render docs ⟨false⟩ span).outcome = .error (.tooWide 9223372036854775808) := by
  decide +kernel

end

end Excerpt

end LintReport
