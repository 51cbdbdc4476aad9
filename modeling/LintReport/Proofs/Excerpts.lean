/-
The rows of an excerpt.

* `Excerpt.lineRow`, `Excerpt.markerRow` — the row of a line, and the row with the marker;
* `Excerpt.rows_of_startLine` — an excerpt has the rows of some lines before the line that its
  span starts in, then of this line and the marker, and then of some lines after it;
* `Excerpt.length_gutter_of_le` — the gutters of an excerpt are all as wide as its last one;
* `Excerpt.outcome_render_of_text` — the excerpt of a span in a text is its rows, if there is room
  for the marker.
-/
import LintReport.Proofs.Parts
import Mathlib.Data.List.Basic

namespace LintReport

open Outcome

theorem Text.length_padStart (width : Nat) (s : String) :
    (padStart width s).length = max width s.length := by
  rw [padStart, String.length_append, String.length_ofList, List.length_replicate]
  omega

/-- A greater number has no fewer digits. -/
theorem length_repr_le {a b : Nat} (h : a ≤ b) : a.repr.length ≤ b.repr.length := by
  have hpos : 0 < b.repr.length := by
    rw [Nat.repr, String.length_ofList]
    exact Nat.length_toDigits_pos
  have hbound : b < 10 ^ b.repr.length := (Nat.length_repr_le_iff hpos).mp (Nat.le_refl _)
  exact (Nat.length_repr_le_iff hpos).mpr (Nat.lt_of_le_of_lt h hbound)

namespace Excerpt

/-- The row of a line. -/
def lineRow (palette : Palette) (width : Nat) (number : Nat) (line : String) : String :=
  let left := palette.muted (gutter width (toString number))
  if line = "" then left else s!"{left} {line}"

/-- The row with the marker under a line. -/
def markerRow (palette : Palette) (width : Nat) (span : Span) (line : String) : String :=
  let blank := palette.muted (gutter width "")
  s!"{blank} {palette.marker (marker line span)}"

variable {palette : Palette} {width : Nat} {span : Span} {lines : List String} {line : String}
  {n number : Nat}

theorem rowsOf_of_eq (h : (number : Int) = span.start.line) :
    rowsOf palette width span number line
      = [lineRow palette width number line, markerRow palette width span line] := if_pos h

theorem rowsOf_of_ne (h : (number : Int) ≠ span.start.line) :
    rowsOf palette width span number line = [lineRow palette width number line] := if_neg h

theorem length_gutter (width : Nat) (number : String) :
    (gutter width number).length = max width number.length + 3 := by
  show (" " ++ Text.padStart width number ++ " |").length = _
  rw [String.length_append, String.length_append, Text.length_padStart]
  show 1 + _ + 2 = _
  omega

/-- The number of a line has room in the gutter of a later one. -/
theorem length_repr_le_toString {last : Int} (h : (number : Int) ≤ last) :
    number.repr.length ≤ (toString last).length := by
  obtain ⟨m, rfl⟩ := Int.eq_ofNat_of_zero_le (Int.le_trans (Int.natCast_nonneg number) h)
  exact length_repr_le (Int.ofNat_le.mp h)

/-- All gutters of an excerpt are as wide as the last one. -/
theorem length_gutter_of_le {last : Int} (h : (number : Int) ≤ last) :
    (gutter (toString last).length (toString number)).length
      = (gutter (toString last).length "").length := by
  have hnumber : (toString number).length ≤ (toString last).length := length_repr_le_toString h
  have hempty : "".length ≤ (toString last).length := Nat.zero_le _
  rw [length_gutter, length_gutter, Nat.max_eq_left hnumber, Nat.max_eq_left hempty]

/-- Where the span does not start, an excerpt has rows of lines only. -/
theorem flatMap_rowsOf_of_ne {es : List (String × Nat)}
    (h : ∀ e ∈ es, (e.2 : Int) ≠ span.start.line) :
    (es.flatMap fun e => rowsOf palette width span e.2 e.1)
      = es.map fun e => lineRow palette width e.2 e.1 := by
  rw [List.map_eq_flatMap]
  exact List.flatMap_congr fun e he => rowsOf_of_ne (h e he)

/-- The last line of an excerpt is not before the one that its span starts in. -/
theorem start_le_lastLine {count : Nat} (h : span.start.line ≤ count) :
    span.start.line ≤ lastLine count span := by
  simp only [lastLine, maxLines]
  omega

theorem firstLine_le_start (h : 1 ≤ span.start.line) : firstLine span ≤ span.start.line := by
  simp only [firstLine, linesBefore]
  omega

/-- The lines that an excerpt shows before a line, with their numbers. -/
def linesAbove (lines : List String) (span : Span) (n : Nat) : List (String × Nat) :=
  ((lines.take n).zipIdx 1).drop ((firstLine span).toNat - 1)

/-- The lines that an excerpt shows after a line, with their numbers. -/
def linesBelow (lines : List String) (span : Span) (n : Nat) : List (String × Nat) :=
  ((lines.take (lastLine lines.length span).toNat).drop (n + 1)).zipIdx (n + 2)

theorem snd_le_of_mem_linesAbove {e : String × Nat} (h : e ∈ linesAbove lines span n) :
    e.2 ≤ n := by
  have hlt := List.snd_lt_of_mem_zipIdx (List.mem_of_mem_drop h)
  rw [List.length_take] at hlt
  omega

theorem lt_snd_of_mem_linesBelow {e : String × Nat} (h : e ∈ linesBelow lines span n) :
    n + 1 < e.2 := List.le_snd_of_mem_zipIdx h

/-- A line of a text, among the first lines of it. -/
theorem take_eq_append_cons {m : Nat} (hline : lines[n]? = some line) (hm : n < m) :
    lines.take m = lines.take n ++ line :: (lines.take m).drop (n + 1) := by
  have htaken : (lines.take m)[n]? = some line := by rw [List.getElem?_take_of_lt hm, hline]
  obtain ⟨hn, hget⟩ := List.getElem?_eq_some_iff.mp htaken
  have hdrop : (lines.take m).drop n = line :: (lines.take m).drop (n + 1) := by
    rw [List.drop_eq_getElem_cons hn, hget]
  have htake : lines.take n = (lines.take m).take n := by
    rw [List.take_take, Nat.min_eq_left (Nat.le_of_lt hm)]
  rw [← hdrop, htake, List.take_append_drop]

/-- The lines of an excerpt are those before a line that it shows, the line, and those after it. -/
theorem drop_zipIdx_eq (hline : lines[n]? = some line) (hfirst : firstLine span ≤ n + 1)
    (hlast : (n : Int) + 1 ≤ lastLine lines.length span) :
    ((lines.take (lastLine lines.length span).toNat).zipIdx 1).drop ((firstLine span).toNat - 1)
      = linesAbove lines span n ++ (line, n + 1) :: linesBelow lines span n := by
  obtain ⟨hn, -⟩ := List.getElem?_eq_some_iff.mp hline
  have hlength : (lines.take n).length = n := by
    rw [List.length_take]
    omega
  have hroom : (firstLine span).toNat - 1 ≤ ((lines.take n).zipIdx 1).length := by
    rw [List.length_zipIdx, hlength]
    omega
  have hnumber : 1 + n = n + 1 := Nat.add_comm 1 n
  rw [linesAbove, linesBelow, take_eq_append_cons hline (by omega), List.zipIdx_append,
    List.zipIdx_cons, hlength, hnumber, List.drop_append_of_le_length hroom,
    ← take_eq_append_cons hline (by omega)]

/-- **The rows of an excerpt**: those of some lines before the one that its span starts in, the row
of this line, the marker, and the rows of some lines after it. -/
theorem rows_of_startLine (palette : Palette) (hline : lines[n]? = some line)
    (hstart : span.start.line = n + 1) :
    let width := (toString (lastLine lines.length span)).length
    let row := fun e : String × Nat => lineRow palette width e.2 e.1
    rows palette lines span
      = (linesAbove lines span n).map row
        ++ ([lineRow palette width (n + 1) line, markerRow palette width span line]
          ++ (linesBelow lines span n).map row) := by
  intro width row
  obtain ⟨hn, -⟩ := List.getElem?_eq_some_iff.mp hline
  have hinside : (span.start.line < 1 || (lines.length : Int) < span.start.line) = false := by
    rw [hstart, Bool.or_eq_false_iff, decide_eq_false_iff_not, decide_eq_false_iff_not]
    omega
  have hlast : span.start.line ≤ lastLine lines.length span := start_le_lastLine (by omega)
  have hfirst : firstLine span ≤ span.start.line := firstLine_le_start (by omega)
  rw [rows, hinside, if_neg Bool.false_ne_true]
  show (((lines.take (lastLine lines.length span).toNat).zipIdx 1).drop
    ((firstLine span).toNat - 1)).flatMap (fun e => rowsOf palette width span e.2 e.1) = _
  rw [drop_zipIdx_eq hline (hstart ▸ hfirst) (hstart ▸ hlast), List.flatMap_append,
    List.flatMap_cons, flatMap_rowsOf_of_ne, flatMap_rowsOf_of_ne, rowsOf_of_eq hstart.symm]
  · intro e he
    have hlt := lt_snd_of_mem_linesBelow he
    omega
  · intro e he
    have hle := snd_le_of_mem_linesAbove he
    omega

/-! ### Rendering -/

theorem startLine?_eq (hline : lines[n]? = some line) (hstart : span.start.line = n + 1) :
    startLine? lines span = some line := by
  have hindex : (span.start.line - 1).toNat = n := by omega
  rw [startLine?, if_neg (by omega), hindex, hline]

theorem tooWide?_of_startLine (room : Int) (h : startLine? lines span = some line) :
    tooWide? room lines span
      = if room < markerWidth line span then some (markerWidth line span) else none := by
  rw [tooWide?, h, Option.bind_some]

/-- The excerpt of a span in a text is its rows, unless there is no room for the marker. -/
theorem outcome_render_of_text {docs : Documents} {text : String}
    (htext : (span.source.text docs).outcome = .ok text) :
    (render docs palette span).outcome
      = match tooWide? docs.limits.marker (Text.lines text) span with
        | some width => .error (.tooWide width)
        | none => .ok ("\n".intercalate (rows palette (Text.lines text) span)) := by
  have hread : (span.source.lines docs).outcome = .ok (Text.lines text) := by
    rw [Source.lines, Attempt.outcome_bind, htext, ok_bind]
    rfl
  rw [outcome_render, linesFor, hread]
  cases hwide : tooWide? docs.limits.marker (Text.lines text) span with
  | some width =>
    simp only [hwide]
    rfl
  | none =>
    simp only [hwide]
    rfl

/-- The excerpt of a span that starts in a line of a text. -/
theorem outcome_render_of_startLine (palette : Palette) {docs : Documents} {text : String}
    (htext : (span.source.text docs).outcome = .ok text)
    (hline : (Text.lines text)[n]? = some line) (hstart : span.start.line = n + 1) :
    (render docs palette span).outcome
      = if markerWidth line span ≤ docs.limits.marker then
          .ok ("\n".intercalate (rows palette (Text.lines text) span))
        else .error (.tooWide (markerWidth line span)) := by
  have hwide := tooWide?_of_startLine docs.limits.marker (startLine?_eq hline hstart)
  rw [outcome_render_of_text htext]
  by_cases hroom : markerWidth line span ≤ docs.limits.marker
  · rw [if_neg (by omega)] at hwide
    rw [if_pos hroom, hwide]
  · rw [if_pos (by omega)] at hwide
    rw [if_neg hroom, hwide]

end Excerpt

end LintReport
