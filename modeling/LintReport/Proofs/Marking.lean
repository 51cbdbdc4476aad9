/-
The marker under a node.

* `Text.trimEndChars_isPrefix`, `Text.getLast?_trimEndChars` — a text without the white space at
  its end;
* `Yaml.Node.slice` — the characters of a node;
* `Excerpt.Marks` — rows in which carets stand under a part of one line;
* `Location.excerpt_marks` — the excerpt of a location that leads to a node marks the node.

Design notes: the marker is computed from two positions of the span and from the line that is
shown, and never sees the text itself.  So the proof first says which part of the line the two
positions enclose, and then that the marker has the place and the width of that part.
-/
import LintReport.Proofs.Excerpts
import LintReport.Proofs.Fallback
import LintReport.Proofs.Marks

namespace LintReport

open Outcome

namespace Text

variable {c : Char} {cs : List Char}

/-! ### White space at the end -/

theorem trimEndChars_isPrefix (cs : List Char) : trimEndChars cs <+: cs := by
  induction cs with
  | nil => exact List.prefix_refl _
  | cons c cs ih =>
    rw [trimEndChars]
    split
    · split
      · exact List.nil_prefix
      · exact List.cons_prefix_cons.mpr ⟨rfl, List.nil_prefix⟩
    · exact List.cons_prefix_cons.mpr ⟨rfl, ih⟩

theorem getLast?_trimEndChars (h : c ∈ (trimEndChars cs).getLast?) : isBlank c = false := by
  induction cs with
  | nil => cases h
  | cons x cs ih =>
    rw [trimEndChars] at h
    split at h
    · split at h
      · cases h
      · rename_i hblank
        obtain rfl : x = c := Option.some.inj h
        simpa using hblank
    · rename_i hkept
      obtain ⟨y, ys, hcons⟩ := List.exists_cons_of_ne_nil hkept
      rw [hcons, List.getLast?_cons_cons, ← hcons] at h
      exact ih h

theorem take_length_trimEndChars (cs : List Char) (n : Nat) :
    cs.take (trimEndChars (cs.take n)).length = trimEndChars (cs.take n) :=
  (List.prefix_iff_eq_take.mp ((trimEndChars_isPrefix _).trans (List.take_prefix _ _))).symm

end Text

/-! ### The characters of a node -/

namespace Yaml.Node

variable {cs : List Char} {n : Node} {c : Char}

/-- The index after the last character of a node; white space at its end is left out. -/
def trimmedStop (cs : List Char) (n : Node) : Nat := (Text.trimEndChars (cs.take n.stop)).length

/-- The characters of a node, without the white space at its end. -/
def slice (cs : List Char) (n : Node) : List Char := (cs.take (n.trimmedStop cs)).drop n.start

theorem start_lt_trimmedStop (h : n.slice cs ≠ []) : n.start < n.trimmedStop cs := by
  have hlength := List.length_pos_of_ne_nil h
  rw [slice, List.length_drop, List.length_take] at hlength
  omega

theorem take_trimmedStop (h : n.slice cs ≠ []) :
    cs.take (n.trimmedStop cs) = cs.take n.start ++ n.slice cs := by
  have hle := Nat.le_of_lt (start_lt_trimmedStop h)
  have htake : cs.take n.start = (cs.take (n.trimmedStop cs)).take n.start := by
    rw [List.take_take, Nat.min_eq_left hle]
  rw [htake, slice, List.take_append_drop]

theorem slice_isPrefix (cs : List Char) (n : Node) : n.slice cs <+: cs.drop n.start := by
  rw [slice, List.drop_take]
  exact List.take_prefix _ _

/-- The characters of a node do not end with white space. -/
theorem isBlank_of_mem_getLast?_slice (h : c ∈ (n.slice cs).getLast?) :
    Text.isBlank c = false := by
  rw [slice, trimmedStop, Text.take_length_trimEndChars, List.getLast?_drop] at h
  split at h
  · cases h
  · exact Text.getLast?_trimEndChars h

theorem head?_slice (hstart : cs[n.start]? = some c) (h : n.slice cs ≠ []) :
    (n.slice cs).head? = some c := by
  obtain ⟨rest, hrest⟩ := slice_isPrefix cs n
  rw [← List.head?_append_of_ne_nil _ h, hrest, List.head?_drop, hstart]

/-- What a node marks of its first line begins with the first character of the node. -/
theorem head?_firstLine_slice (hstart : cs[n.start]? = some c) (hc : Text.isLineBreak c = false)
    (h : n.slice cs ≠ []) : (Text.firstLine (n.slice cs)).head? = some c := by
  obtain ⟨rest, hrest⟩ := List.head?_eq_some_iff.mp (head?_slice hstart h)
  rw [hrest, Text.firstLine_cons_of_unbroken hc, List.head?_cons]

/-- The positions of a node that has characters are those of its indices. -/
theorem span_eq (hplain : Text.PlainBreaks cs) (hmark : '\ufeff' ∉ cs) (h : n.slice cs ≠ []) :
    n.span cs = (Position.ofIndex cs n.start, Position.ofIndex cs (n.trimmedStop cs)) := by
  rw [span, ← trimmedStop, Nat.max_eq_left (start_lt_trimmedStop h).le,
    Position.ofMark_eq_ofIndex hplain hmark]

end Yaml.Node

/-! ### The marker -/

namespace Excerpt

/-- The rows show the line `left ++ (marked ++ right)` under its number, and below it carets that
stand under `marked`.  Every other row is that of a line with another number. -/
def Marks (rows : List String) (number : Nat) (left marked right : List Char) : Prop :=
  ∃ (width : Nat) (above below : List (String × Nat)),
    let row := fun e : String × Nat => lineRow ⟨false⟩ width e.2 e.1
    let carets := List.replicate left.length ' ' ++ List.replicate marked.length '^'
    rows = above.map row
      ++ ([gutter width (toString number) ++ " " ++ String.ofList (left ++ (marked ++ right)),
        gutter width "" ++ " " ++ String.ofList carets]
        ++ below.map row) ∧
      (gutter width (toString number)).length = (gutter width "").length ∧
      ∀ e ∈ above ++ below, e.2 ≠ number

variable {span : Span} {stop : Position} {left marked right : List Char} {line : String}

/-- The marker stands under a part of a line, if the span starts at this part, and ends with it or
else on another line, while the part reaches to the end of its own. -/
theorem marker_eq (hline : line = String.ofList (left ++ (marked ++ right)))
    (hstart : span.start.column = left.length + 1) (hstop : span.stop = some stop)
    (hmarked : marked ≠ [])
    (hend : stop.line = span.start.line ∧ stop.column = span.start.column + marked.length ∨
      stop.line ≠ span.start.line ∧ right = []) :
    markerColumn line span = left.length + 1 ∧ markerWidth line span = marked.length := by
  have hlength : line.length = left.length + (marked.length + right.length) := by
    rw [hline, String.length_ofList, List.length_append, List.length_append]
  have hpos := List.length_pos_of_ne_nil hmarked
  have hcolumn : markerColumn line span = left.length + 1 := by
    rw [markerColumn, hstart, hlength]
    omega
  refine ⟨hcolumn, ?_⟩
  rw [markerWidth, hstop, hcolumn]
  show (if stop.line = span.start.line then _ else _ : Int) = _
  rcases hend with ⟨hsame, hcol⟩ | ⟨hother, hright⟩
  · rw [if_pos hsame, hcol, hstart]
    omega
  · rw [if_neg hother, hlength, hright, List.length_nil]
    omega

theorem lineRow_plain {width number : Nat} (h : line ≠ "") :
    lineRow ⟨false⟩ width number line = gutter width (toString number) ++ " " ++ line := by
  rw [lineRow, if_neg h]
  rfl

theorem markerRow_plain {width : Nat} (hcolumn : markerColumn line span = left.length + 1)
    (hwidth : markerWidth line span = marked.length) :
    markerRow ⟨false⟩ width span line = gutter width "" ++ " " ++ String.ofList
      (List.replicate left.length ' ' ++ List.replicate marked.length '^') := by
  have hblanks : (markerColumn line span - 1).toNat = left.length := by omega
  have hcarets : (markerWidth line span).toNat = marked.length := by omega
  rw [markerRow, marker, hblanks, hcarets]
  rfl

/-- An excerpt whose marker stands under a part of the line that its span starts in. -/
theorem marks_rows {lines : List String} {n : Nat} (hget : lines[n]? = some line)
    (hnumber : span.start.line = n + 1) (hline : line = String.ofList (left ++ (marked ++ right)))
    (hmarked : marked ≠ []) (hcolumn : markerColumn line span = left.length + 1)
    (hwidth : markerWidth line span = marked.length) :
    Marks (rows ⟨false⟩ lines span) (n + 1) left marked right := by
  obtain ⟨hn, -⟩ := List.getElem?_eq_some_iff.mp hget
  have hle : span.start.line ≤ lastLine lines.length span := start_le_lastLine (by omega)
  have hnonempty : line ≠ "" := by
    rintro rfl
    have hchars := congrArg String.toList hline
    rw [String.toList_ofList] at hchars
    simp [hmarked] at hchars
  refine ⟨(toString (lastLine lines.length span)).length, linesAbove lines span n,
    linesBelow lines span n, ?_, length_gutter_of_le (by omega), fun e he => ?_⟩
  · rw [rows_of_startLine ⟨false⟩ hget hnumber, lineRow_plain hnonempty,
      markerRow_plain hcolumn hwidth, hline]
  · rcases List.mem_append.mp he with he | he
    · have habove := snd_le_of_mem_linesAbove he
      omega
    · have hbelow := lt_snd_of_mem_linesBelow he
      omega

end Excerpt

/-! ### Nodes -/

/-- A location in a document has the span of the node that its pointer means. -/
theorem Location.outcome_resolve?_of_compose {docs : Documents} {source : Source}
    {pointer text : String} {onKey : Bool} {d : Yaml.Document}
    (htext : (source.text docs).outcome = .ok text)
    (hdoc : Yaml.compose docs.limits.document text.toList = .ok (some d)) :
    (resolve? docs (.pointer source pointer onKey)).outcome
      = (fun node => .ok ⟨source, (node.span text.toList).1, some (node.span text.toList).2,
          some pointer⟩) <$> (target d source.ref pointer onKey).outcome := by
  have hread := readSource_eq_ok_ok.mpr htext
  have hcomposed : (composeSource docs.limits.document source.ref text.toList).outcome
      = .ok (.ok (some d)) :=
    composeSource_eq_ok_ok.mpr hdoc
  rw [resolve?, resolvePointer, Attempt.outcome_bind, hread, ok_bind, Attempt.outcome_bind,
    hcomposed, ok_bind, Attempt.outcome_bind]
  cases (target d source.ref pointer onKey).outcome with
  | ok node => rfl
  | error e => rfl

theorem Location.outcome_resolve_of_target {docs : Documents} {source : Source}
    {pointer text : String} {onKey : Bool} {d : Yaml.Document} {node : Yaml.Node}
    (htext : (source.text docs).outcome = .ok text)
    (hdoc : Yaml.compose docs.limits.document text.toList = .ok (some d))
    (hnode : (target d source.ref pointer onKey).outcome = .ok node) :
    (resolve docs (.pointer source pointer onKey)).outcome
      = .ok ⟨source, (node.span text.toList).1, some (node.span text.toList).2, some pointer⟩ := by
  refine spanIn_of_resolve? ?_
  rw [outcome_resolve?_of_compose htext hdoc, hnode, map_ok]

/-- What a node marks of the line that it starts in: all of its characters, or if a line breaks in
it, the line from its first character on. -/
theorem Yaml.Node.exists_right {cs : List Char} {n : Node} (hplain : Text.PlainBreaks cs)
    (hmark : '\ufeff' ∉ cs) (h : n.slice cs ≠ []) :
    let start := (n.span cs).1
    let stop := (n.span cs).2
    let marked := Text.firstLine (n.slice cs)
    ∃ right, Text.firstLine (cs.drop n.start) = marked ++ right ∧
      ((∀ x ∈ n.slice cs, Text.isLineBreak x = false) ∧ stop.line = start.line ∧
          stop.column = start.column + marked.length ∨
        (∃ x ∈ n.slice cs, Text.isLineBreak x = true) ∧ stop.line ≠ start.line ∧ right = []) := by
  rw [span_eq hplain hmark h]
  intro start stop marked
  obtain ⟨more, hmore⟩ := slice_isPrefix cs n
  have htake := take_trimmedStop h
  have hstop : stop.line = start.line + (n.slice cs).count '\n' :=
    Position.line_ofIndex_of_take htake
  rw [← hmore]
  by_cases hbreak : ∃ x ∈ n.slice cs, Text.isLineBreak x = true
  · refine ⟨[], ?_, .inr ⟨hbreak, ?_, rfl⟩⟩
    · rw [List.append_nil]
      exact Text.firstLine_append_of_break hbreak
    · -- the break may be a carriage return, but not at the end, so its line feed is in the node
      have hlater : Text.PlainBreaks (n.slice cs ++ more) := by
        rw [hmore]
        exact hplain.drop n.start
      have hlast : '\r' ∉ (n.slice cs).getLast? := fun hmem =>
        absurd (isBlank_of_mem_getLast?_slice hmem) (by decide +kernel)
      have hfeed := hlater.feed_mem hlast hbreak
      have hpos : 0 < (n.slice cs).count '\n' := List.count_pos_iff.mpr hfeed
      omega
  · have hunbroken : ∀ x ∈ n.slice cs, Text.isLineBreak x = false := by
      intro x hx
      by_contra hx'
      exact hbreak ⟨x, hx, by simpa using hx'⟩
    have hfeed : '\n' ∉ n.slice cs := fun hmem => by
      cases Text.isLineBreak_feed.symm.trans (hunbroken _ hmem)
    refine ⟨Text.firstLine more, Text.firstLine_append_of_unbroken hunbroken,
      .inl ⟨hunbroken, ?_, ?_⟩⟩
    · rw [hstop, List.count_eq_zero_of_not_mem hfeed]
      exact Int.add_zero _
    · have hwhole : marked = n.slice cs := Text.firstLine_of_unbroken hunbroken
      rw [hwhole]
      exact Position.column_ofIndex_of_take htake hfeed

/-- **The excerpt of a location marks the node that it leads to.**  In a text with plain line breaks
and no byte-order mark, let a node start with a character that is no line break, and have
characters that are not white space at its end.  Then the marker stands in the line of this first
character, and begins under it.  It is as wide as the node if no line breaks in the node, and else
it goes on to the end of the line. -/
theorem Location.excerpt_marks {docs : Documents} {source : Source} {pointer text : String}
    {onKey : Bool} {d : Yaml.Document} {node : Yaml.Node} {c : Char}
    (htext : (source.text docs).outcome = .ok text)
    (hdoc : Yaml.compose docs.limits.document text.toList = .ok (some d))
    (hnode : (target d source.ref pointer onKey).outcome = .ok node)
    (hplain : Text.PlainBreaks text.toList) (hmark : '\ufeff' ∉ text.toList)
    (hstart : text.toList[node.start]? = some c) (hc : Text.isLineBreak c = false)
    (hslice : node.slice text.toList ≠ []) :
    let before := text.toList.take node.start
    let slice := node.slice text.toList
    let left := Text.openLine before
    let marked := Text.firstLine slice
    ∃ (span : Span) (right : List Char),
      (resolve docs (.pointer source pointer onKey)).outcome = .ok span ∧
      (Text.lineChars text.toList)[before.count '\n']? = some (left ++ (marked ++ right)) ∧
      marked.head? = some c ∧
      ((∀ x ∈ slice, Text.isLineBreak x = false) → marked = slice) ∧
      ((∃ x ∈ slice, Text.isLineBreak x = true) → right = []) ∧
      Excerpt.Marks (Excerpt.rows ⟨false⟩ (Text.lines text) span) (before.count '\n' + 1)
        left marked right ∧
      (Excerpt.render docs ⟨false⟩ span).outcome
        = if (marked.length : Int) ≤ docs.limits.marker then
            .ok ("\n".intercalate (Excerpt.rows ⟨false⟩ (Text.lines text) span))
          else .error (.tooWide marked.length) := by
  intro before slice left marked
  obtain ⟨right, hright, hend⟩ := Yaml.Node.exists_right hplain hmark hslice
  have hspan := outcome_resolve_of_target htext hdoc hnode
  -- the line that the first character of the node lies in
  have hline : (Text.lineChars text.toList)[before.count '\n']?
      = some (left ++ (marked ++ right)) := by
    rw [← hright]
    exact Text.getElem?_lineChars hplain hstart hc
  have hshown : (Text.lines text)[before.count '\n']?
      = some (String.ofList (left ++ (marked ++ right))) := by
    rw [Text.lines, List.getElem?_map, hline, Option.map_some]
  have hhead : marked.head? = some c := Yaml.Node.head?_firstLine_slice hstart hc hslice
  have hmarked : marked ≠ [] := List.ne_nil_of_mem (List.mem_of_mem_head? hhead)
  -- the position at which the node starts has the number of this line
  have hposition : (node.span text.toList).1 = ⟨before.count '\n' + 1, left.length + 1⟩ := by
    rw [Yaml.Node.span_eq hplain hmark hslice]
    exact Position.ofIndex_eq _ _
  obtain ⟨span, hdef⟩ : ∃ span : Span, span = ⟨source, (node.span text.toList).1,
    some (node.span text.toList).2, some pointer⟩ := ⟨_, rfl⟩
  have hnumber : span.start.line = before.count '\n' + 1 := by rw [hdef, hposition]
  have hleft : span.start.column = left.length + 1 := by rw [hdef, hposition]
  have hstop : span.stop = some (node.span text.toList).2 := by rw [hdef]
  obtain ⟨hcolumn, hwidth⟩ := Excerpt.marker_eq rfl hleft hstop hmarked (by
    rw [hdef]
    exact hend.imp And.right And.right)
  refine ⟨span, right, by rw [hspan, hdef], hline, hhead, Text.firstLine_of_unbroken,
    fun hbreak => ?_, Excerpt.marks_rows hshown hnumber rfl hmarked hcolumn hwidth, ?_⟩
  · rcases hend with ⟨hunbroken, -⟩ | ⟨-, -, hnone⟩
    · obtain ⟨x, hx, hx'⟩ := hbreak
      cases (hunbroken x hx).symm.trans hx'
    · exact hnone
  · have hread : (span.source.text docs).outcome = .ok text := by rw [hdef, htext]
    rw [Excerpt.outcome_render_of_startLine ⟨false⟩ hread hshown hnumber, hwidth]

/-- A value on one line, and the mapping around it, whose second line is not marked. -/
theorem Location.excerpt_marks_two_nodes :
    let text := "a:\r\n  b: x y \r\n  c: 1\r\n"
    let docs : Documents := ⟨fun _ => .error .nullCharacter, .usual⟩
    let source : Source := ⟨"/d.yaml", some text⟩
    let value : Span := ⟨source, ⟨2, 6⟩, some ⟨2, 9⟩, some "#/a/b"⟩
    let mapping : Span := ⟨source, ⟨2, 3⟩, some ⟨3, 7⟩, some "#/a"⟩
    Text.PlainBreaks text.toList ∧ '\ufeff' ∉ text.toList ∧
      (resolve docs (.pointer source "#/a/b" false)).outcome = .ok value ∧
      (∃ right, Excerpt.Marks (Excerpt.rows ⟨false⟩ (Text.lines text) value) 2 "  b: ".toList
        "x y".toList right) ∧
      (Excerpt.render docs ⟨false⟩ value).outcome = .ok " 1 | a:\n 2 |   b: x y \n   |      ^^^" ∧
      (resolve docs (.pointer source "#/a" false)).outcome = .ok mapping ∧
      Excerpt.Marks (Excerpt.rows ⟨false⟩ (Text.lines text) mapping) 2 "  ".toList
        "b: x y ".toList [] ∧
      (Excerpt.render docs ⟨false⟩ mapping).outcome
        = .ok " 1 | a:\n 2 |   b: x y \n   |   ^^^^^^^\n 3 |   c: 1" := by
  intro text docs source value mapping
  let nodes : Array Yaml.Node := #[⟨.mapping [(1, 2)], 0, 23⟩, ⟨.scalar (some "a"), 0, 1⟩,
    ⟨.mapping [(3, 4), (5, 6)], 6, 23⟩, ⟨.scalar (some "b"), 6, 7⟩, ⟨.scalar (some "x y"), 9, 12⟩,
    ⟨.scalar (some "c"), 17, 18⟩, ⟨.scalar (some "1"), 20, 21⟩]
  have hdoc : Yaml.compose docs.limits.document text.toList = .ok (some ⟨nodes, 0⟩) := by
    decide +kernel
  have hplain : Text.PlainBreaks text.toList := by decide +kernel
  have hmark : '\ufeff' ∉ text.toList := by decide +kernel
  have hvalue : (target ⟨nodes, 0⟩ "/d.yaml" "#/a/b" false).outcome
      = .ok ⟨.scalar (some "x y"), 9, 12⟩ := by decide +kernel
  have hmapping : (target ⟨nodes, 0⟩ "/d.yaml" "#/a" false).outcome
      = .ok ⟨.mapping [(3, 4), (5, 6)], 6, 23⟩ := by decide +kernel
  have htext : (source.text docs).outcome = .ok text := rfl
  have hfirst : (resolve docs (.pointer source "#/a/b" false)).outcome = .ok value := by
    decide +kernel
  have hsecond : (resolve docs (.pointer source "#/a" false)).outcome = .ok mapping := by
    decide +kernel
  obtain ⟨span, right, hspan, -, -, -, -, hmarks, -⟩ := excerpt_marks (c := 'x') htext hdoc
    hvalue hplain hmark (by decide +kernel) (by decide +kernel) (by decide +kernel)
  obtain ⟨span', right', hspan', -, -, -, hnone, hmarks', -⟩ := excerpt_marks (c := 'b') htext
    hdoc hmapping hplain hmark (by decide +kernel) (by decide +kernel) (by decide +kernel)
  obtain rfl : span = value := Except.ok.inj (hspan.symm.trans hfirst)
  obtain rfl : span' = mapping := Except.ok.inj (hspan'.symm.trans hsecond)
  have hempty : right' = [] := hnone ⟨'\r', by decide +kernel, by decide +kernel⟩
  refine ⟨hplain, hmark, hfirst, ⟨right, ?_⟩, by decide +kernel, hsecond, ?_, by decide +kernel⟩
  · convert hmarks using 1
    all_goals decide +kernel
  · convert hmarks' using 1
    · decide +kernel
    · decide +kernel
    · decide +kernel
    · exact hempty.symm

end LintReport
