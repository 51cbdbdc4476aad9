/-
Where the span of a node starts and where it stops.

* `Yaml.Node.line_stop` — a node stops as many lines below its start as it has line feeds;
* `Location.start_eq_ofIndex_iff` — when the start of a span is counted as its end is, and when it
  is not after it;
* `Location.start_after_stop` — a lone carriage return makes a span stop before it starts.

Design notes: a span starts where the document says that its node starts, and it stops at the
position of an index.  Only the first count knows foreign line breaks and byte-order marks.
-/
import LintReport.Proofs.Marking

namespace LintReport

open Outcome

theorem Yaml.Node.trimmedStop_le_start {cs : List Char} {n : Node} (h : n.slice cs = []) :
    n.trimmedStop cs ≤ n.start := by
  have hle : n.trimmedStop cs ≤ cs.length := by
    rw [trimmedStop, ← Text.take_length_trimEndChars]
    exact List.length_take_le' _ _
  rw [slice, List.drop_eq_nil_iff, List.length_take] at h
  omega

/-- A node stops below the line of the index at which it starts by the line feeds in it. -/
theorem Yaml.Node.line_stop (cs : List Char) (n : Node) :
    (n.span cs).2.line = (Position.ofIndex cs n.start).line + (n.slice cs).count '\n' := by
  by_cases h : n.slice cs = []
  · rw [h, span, ← trimmedStop, Nat.max_eq_right (trimmedStop_le_start h)]
    exact (Int.add_zero _).symm
  · rw [span, ← trimmedStop, Nat.max_eq_left (start_lt_trimmedStop h).le]
    exact Position.line_ofIndex_of_take (take_trimmedStop h)

/-- A node does not start after its end, if no foreign break stands before it. -/
theorem Yaml.Node.start_le_stop {cs : List Char} {n : Node} (h : foreignBreaks cs n.start = 0) :
    (n.span cs).1 ≤ (n.span cs).2 := by
  have hline : (n.span cs).1.line = _ := Position.line_ofMark cs n.start
  have hcolumn : (n.span cs).1.column + _ = _ := Position.column_ofMark h
  have hindices : Position.ofIndex cs n.start ≤ (n.span cs).2 :=
    Position.ofIndex_mono cs (Nat.le_max_right _ _)
  rw [Position.le_iff] at hindices ⊢
  omega

/-- **When the two ends of a span are counted alike.**  The location of a pointer into a document
stops at the position of an index.  It starts at the position of the index at which its node starts,
exactly if no foreign line break stands before the node, and in the line before it no byte-order
mark.  It does not start after its end if there is no such break.  In general it does not, exactly
if the breaks are fewer than the line feeds in the node, or as many and the columns are in order. -/
theorem Location.start_eq_ofIndex_iff {docs : Documents} {source : Source} {pointer text : String}
    {onKey : Bool} {d : Yaml.Document} {s : Span} (hbody : source.body = some text)
    (hdoc : Yaml.compose docs.limits.document text.toList = .ok (some d))
    (hspan : (resolve? docs (.pointer source pointer onKey)).outcome = .ok (.ok s)) :
    ∃ (node : Yaml.Node) (stop : Position),
      (target d source.ref pointer onKey).outcome = .ok node ∧
      s.stop = some stop ∧
      stop = .ofIndex text.toList (max (node.trimmedStop text.toList) node.start) ∧
      let foreign := Yaml.foreignBreaks text.toList node.start
      let feeds := (node.slice text.toList).count '\n'
      (s.start = .ofIndex text.toList node.start
        ↔ foreign = 0 ∧ '\ufeff' ∉ Text.openLine (text.toList.take node.start)) ∧
      (foreign = 0 → s.start ≤ stop) ∧
      (s.start ≤ stop ↔ foreign < feeds ∨ foreign = feeds ∧ s.start.column ≤ stop.column) := by
  have htext : (source.text docs).outcome = .ok text := by
    rw [Source.text, hbody]
    rfl
  rw [outcome_resolve?_of_compose htext hdoc] at hspan
  obtain ⟨node, hnode, hs⟩ := map_eq_ok.mp hspan
  obtain rfl := Except.ok.inj hs
  refine ⟨node, (node.span text.toList).2, hnode, rfl, rfl, Position.ofMark_eq_ofIndex_iff,
    Yaml.Node.start_le_stop, ?_⟩
  -- the lines of both ends are told from the index at which the node starts
  have hstart : (node.span text.toList).1.line = _ := Position.line_ofMark text.toList node.start
  have hstop := node.line_stop text.toList
  show (node.span text.toList).1 ≤ (node.span text.toList).2
    ↔ _ ∨ _ ∧ (node.span text.toList).1.column ≤ _
  rw [Position.le_iff]
  omega

/-- A byte-order mark in an earlier line, and a carriage return before a line feed, change
nothing. -/
theorem Location.start_eq_ofIndex_of_crlf :
    let text := "\ufeffa: 1\r\nb: x\u2028"
    let docs : Documents := ⟨fun _ => .error .nullCharacter, .usual⟩
    let source : Source := ⟨"/d.yaml", some text⟩
    let s : Span := ⟨source, ⟨2, 4⟩, some ⟨2, 5⟩, some "#/b"⟩
    (resolve? docs (.pointer source "#/b" false)).outcome = .ok (.ok s) ∧
      Position.ofIndex text.toList 10 = ⟨2, 4⟩ ∧ s.start ≤ ⟨2, 5⟩ := by
  intro text docs source s
  let nodes : Array Yaml.Node := #[⟨.mapping [(1, 2), (3, 4)], 1, 12⟩, ⟨.scalar (some "a"), 1, 2⟩,
    ⟨.scalar (some "1"), 4, 5⟩, ⟨.scalar (some "b"), 7, 8⟩, ⟨.scalar (some "x"), 10, 11⟩]
  have hdoc : Yaml.compose docs.limits.document text.toList = .ok (some ⟨nodes, 0⟩) := by
    decide +kernel
  have hnode : (target ⟨nodes, 0⟩ "/d.yaml" "#/b" false).outcome
      = .ok ⟨.scalar (some "x"), 10, 11⟩ := by decide +kernel
  have hspan : (resolve? docs (.pointer source "#/b" false)).outcome = .ok (.ok s) := by
    decide +kernel
  obtain ⟨node, stop, hnode', hstop, -, hiff, hle, -⟩ := start_eq_ofIndex_iff rfl hdoc hspan
  obtain rfl := Except.ok.inj (hnode.symm.trans hnode')
  obtain rfl := Option.some.inj hstop
  have hforeign : Yaml.foreignBreaks text.toList 10 = 0 := by decide +kernel
  have hmark : '\ufeff' ∉ Text.openLine (text.toList.take 10) := by decide +kernel
  exact ⟨hspan, (hiff.mpr ⟨hforeign, hmark⟩).symm, hle hforeign⟩

/-- A lone carriage return ends a line of the document, but no line that the indices count.  So the
value after it starts in the second line, and stops in the first one. -/
theorem Location.start_after_stop :
    let text := "a: 1\rb: 2"
    let docs : Documents := ⟨fun _ => .error .nullCharacter, .usual⟩
    let source : Source := ⟨"/d.yaml", some text⟩
    let s : Span := ⟨source, ⟨2, 4⟩, some ⟨1, 10⟩, some "#/b"⟩
    ∃ d, Yaml.compose docs.limits.document text.toList = .ok (some d) ∧
      (target d source.ref "#/b" false).outcome = .ok ⟨.scalar (some "2"), 8, 9⟩ ∧
      (resolve? docs (.pointer source "#/b" false)).outcome = .ok (.ok s) ∧
      s.start ≠ Position.ofIndex text.toList 8 ∧
      Position.ofIndex text.toList 8 = ⟨1, 9⟩ ∧
      ¬ s.start ≤ ⟨1, 10⟩ := by
  intro text docs source s
  let nodes : Array Yaml.Node := #[⟨.mapping [(1, 2), (3, 4)], 0, 9⟩, ⟨.scalar (some "a"), 0, 1⟩,
    ⟨.scalar (some "1"), 3, 4⟩, ⟨.scalar (some "b"), 5, 6⟩, ⟨.scalar (some "2"), 8, 9⟩]
  have hindex : Position.ofIndex text.toList 8 = ⟨1, 9⟩ := by decide +kernel
  refine ⟨⟨nodes, 0⟩, by decide +kernel, by decide +kernel, by decide +kernel, ?_, hindex, ?_⟩
  · rw [hindex]
    decide
  · rw [Position.le_iff]
    show ¬ ((2 : Int) < 1 ∨ (2 : Int) = 1 ∧ (4 : Int) ≤ 10)
    omega

end LintReport
