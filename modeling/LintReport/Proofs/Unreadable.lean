/-
Excerpts of documents that cannot be read.

* `Path.mem_toString_ofString` — putting a path into its written form keeps its characters;
* `FileTree.readText_eq_nullCharacter_iff` — a path is refused as none at all exactly if it has a
  null character;
* `Source.HasNullPath` — the sources whose text is asked for under such a path;
* `Excerpt.render_ok_iff` — when there is an excerpt, and when it is empty.

Design notes: a document that is missing, locked or no text has an empty excerpt.  A path with a
null character is told apart from these, since it is refused before the files are looked at.
-/
import LintReport.Proofs.EscapeFree
import LintReport.Proofs.Faults
import LintReport.Proofs.Windows

namespace LintReport

open Outcome

/-! ### The characters of a path -/

namespace Path

variable {c : Char}

theorem mem_joined (h : c ≠ '/') (names : List String) :
    c ∈ (joined names).toList ↔ ∃ n ∈ names, c ∈ n.toList := by
  rw [joined, String.toList_intercalate]
  have hpieces := mem_intercalate_iff h (names.map String.toList)
  simpa using hpieces

/-- What is dropped from a path has dots at most. -/
theorem mem_named (h : c ≠ '.') (names : List String) :
    (∃ n ∈ named names, c ∈ n.toList) ↔ ∃ n ∈ names, c ∈ n.toList := by
  constructor
  · rintro ⟨n, hn, hc⟩
    exact ⟨n, List.mem_of_mem_filter hn, hc⟩
  · rintro ⟨n, hn, hc⟩
    refine ⟨n, List.mem_filter.mpr ⟨hn, ?_⟩, hc⟩
    have hempty : n ≠ "" := by
      rintro rfl
      cases hc
    have hdot : n ≠ "." := by
      rintro rfl
      exact h (List.mem_singleton.mp hc)
    simp [hempty, hdot]

theorem eq_slash_of_mem_rootMark {s : String} (h : c ∈ (rootMark s).toList) : c = '/' := by
  unfold rootMark at h
  split at h
  · simpa using h
  · simpa using h
  · simpa using h
  · cases h

/-- The written form of a path has the characters of the path. -/
theorem mem_toString_ofString (hslash : c ≠ '/') (hdot : c ≠ '.') (s : String) :
    c ∈ (ofString s).toString.toList ↔ c ∈ s.toList := by
  refine Iff.trans ?_ ((mem_named hdot (segments s)).trans (mem_segments hslash s))
  unfold toString ofString
  by_cases hempty : rootMark s = "" ∧ named (segments s) = []
  · rw [if_pos (by simpa using hempty), hempty.2]
    simpa using hdot
  · rw [if_neg (by simpa using hempty), String.toList_append, List.mem_append, mem_joined hslash]
    exact or_iff_right fun h => hslash (eq_slash_of_mem_rootMark h)

end Path

/-! ### Texts of sources -/

/-- A path with a null character is refused before the files are looked at, and no other one is
refused for it. -/
theorem FileTree.readText_eq_nullCharacter_iff {tree : FileTree} {path : String} :
    tree.readText path = .error .nullCharacter ↔ '\x00' ∈ path.toList := by
  rw [← Path.mem_toString_ofString (by decide) (by decide) path, readText, bind_eq_error, readBytes,
    hasNull]
  by_cases hnull : '\x00' ∈ (Path.ofString path).toString.toList
  · simp [hnull]
  · have hbytes : ∀ bytes, textOfBytes bytes ≠ .error .nullCharacter := by
      intro bytes
      unfold textOfBytes
      split
      · simp
      · simp
    simp only [List.contains_eq_mem, hnull, decide_false, Bool.false_eq_true, if_false, iff_false]
    rintro (h | ⟨bytes, -, h⟩)
    · split at h
      · cases h
      · cases h
      · cases h
      · cases h
    · exact hbytes bytes h

theorem SourceCache.documents_eq_nullCharacter_iff {tree : FileTree} {cache : SourceCache}
    {limits : Limits} {ref : String} :
    documents tree cache limits ref = .error .nullCharacter
      ↔ cache.find? ref = none ∧ '\x00' ∈ ref.toList := by
  show (cache.read tree ref).1 = _ ↔ _
  rw [read, ← @FileTree.readText_eq_nullCharacter_iff tree]
  cases cache.find? ref with
  | some text => simp
  | none =>
    cases tree.readText ref with
    | ok text => simp
    | error e => simp

/-- The text of a source is asked for under a path that is none. -/
def Source.HasNullPath (cache : SourceCache) (s : Source) : Prop :=
  s.body = none ∧ cache.find? s.ref = none ∧ '\x00' ∈ s.ref.toList

theorem Source.text_eq_nullCharacter_iff {tree : FileTree} {cache : SourceCache} {limits : Limits}
    {s : Source} :
    (s.text (cache.documents tree limits)).outcome = .error .nullCharacter
      ↔ s.HasNullPath cache := by
  rw [HasNullPath, ← @SourceCache.documents_eq_nullCharacter_iff tree cache limits, text]
  cases s.body with
  | some body => simp
  | none => simp

/-! ### Excerpts -/

namespace Excerpt

theorem IsMarker.markerWidth_eq {span : Span} {line : String} {column carets : Nat}
    (h : IsMarker span line column carets) : markerWidth line span = carets := by
  have hcolumn : markerColumn line span = column := h.column_eq.symm
  rw [markerWidth, hcolumn]
  cases hstop : span.stop with
  | none => rw [h.of_none hstop, Int.natCast_one]
  | some stop =>
    dsimp only
    by_cases hsame : stop.line = span.start.line
    · rw [if_pos hsame, h.of_same stop hstop hsame]
    · rw [if_neg hsame, h.of_other stop hstop hsame]
      omega

/-- There is no room for the marker exactly if the line that the span starts in has a marker with
more carets than there is room for. -/
theorem tooWide?_eq_some_iff {room : Int} {lines : List String} {span : Span} {width : Int} :
    tooWide? room lines span = some width
      ↔ ∃ (line : String) (column carets : Nat), 1 ≤ span.start.line ∧
        lines[(span.start.line - 1).toNat]? = some line ∧ IsMarker span line column carets ∧
        room < carets ∧ width = carets := by
  constructor
  · intro h
    obtain ⟨line, hline, h⟩ := Option.bind_eq_some_iff.mp h
    obtain ⟨column, carets, -, hcarets, hmarker⟩ := exists_isMarker span line
    rw [startLine?] at hline
    split at hline
    · cases hline
    · rename_i hlow
      split at h
      · rename_i hvast
        exact ⟨line, column, carets, by omega, hline, hmarker, by omega,
          (Option.some.inj h).symm.trans hcarets⟩
      · cases h
  · rintro ⟨line, column, carets, hlow, hline, hmarker, hvast, rfl⟩
    have hstart : startLine? lines span = some line := by
      rw [startLine?, if_neg (by omega), hline]
    rw [tooWide?_of_startLine room hstart, hmarker.markerWidth_eq, if_pos hvast]

/-- The spans whose marker has more carets than there is room for. -/
def HasVastMarker (docs : Documents) (span : Span) : Prop :=
  ∃ (text line : String) (column carets : Nat), (span.source.text docs).outcome = .ok text ∧
    1 ≤ span.start.line ∧ (Text.lines text)[(span.start.line - 1).toNat]? = some line ∧
    IsMarker span line column carets ∧ docs.limits.marker < carets

theorem fails_render {docs : Documents} {palette : Palette} {span : Span} :
    Fails (render docs palette span).outcome
      ↔ (span.source.text docs).outcome = .error .nullCharacter ∨ HasVastMarker docs span := by
  rw [outcome_render, fails_map, fails_linesFor]
  refine or_congr_right ?_
  simp only [tooWide?_eq_some_iff]
  constructor
  · rintro ⟨text, width, htext, line, column, carets, hlow, hline, hmarker, hvast, -⟩
    exact ⟨text, line, column, carets, htext, hlow, hline, hmarker, hvast⟩
  · rintro ⟨text, line, column, carets, htext, hlow, hline, hmarker, hvast⟩
    exact ⟨text, carets, htext, line, column, carets, hlow, hline, hmarker, hvast, rfl⟩

/-- A document that cannot be read has an excerpt, the empty one, unless its path is none. -/
theorem outcome_render_of_error {docs : Documents} {palette : Palette} {span : Span} {e : ReadError}
    (h : (span.source.text docs).outcome = .error e) :
    (render docs palette span).outcome
      = if e = .nullCharacter then .error .nullCharacter else .ok "" := by
  have hlines : (span.source.lines docs).outcome = .error e := by
    rw [Source.lines, Attempt.outcome_bind, h, error_bind]
  rw [outcome_render, linesFor, hlines]
  cases e with
  | nullCharacter => rfl
  | refused e path => simp
  | undecodable e => simp

/-- **There is an excerpt exactly if the path of the document is one, and the marker has room.**
A document without a text of its own, whose path has a null character, ends the excerpt with a
fault; any other one that cannot be read or decoded has the empty excerpt, in color or not. -/
theorem render_ok_iff (tree : FileTree) (cache : SourceCache) (limits : Limits) (palette : Palette)
    (span : Span) :
    let docs := cache.documents tree limits
    let excerpt := (render docs palette span).outcome
    ((∃ s, excerpt = .ok s) ↔ ¬ span.source.HasNullPath cache ∧ ¬ HasVastMarker docs span) ∧
      (span.source.HasNullPath cache → excerpt = .error .nullCharacter) ∧
      ((∃ e, (span.source.text docs).outcome = .error e) →
        ¬ span.source.HasNullPath cache → excerpt = .ok "") := by
  intro docs excerpt
  have hnull : (span.source.text docs).outcome = .error .nullCharacter
      ↔ span.source.HasNullPath cache := Source.text_eq_nullCharacter_iff
  refine ⟨?_, fun h => ?_, fun ⟨e, he⟩ h => ?_⟩
  · rw [← not_fails_iff, fails_render, hnull, not_or]
  · exact outcome_render_of_error (hnull.mpr h)
  · have hother : e ≠ .nullCharacter := by
      rintro rfl
      exact h (hnull.mp he)
    exact (outcome_render_of_error he).trans (if_neg hother)

/-- A file that is missing has the empty excerpt, wherever the span starts. -/
theorem render_ok_iff_of_missing :
    let tree : FileTree := ⟨"/", [(["b.yaml"], .locked)]⟩
    let docs := SourceCache.documents tree [] .usual
    let span : Span := ⟨⟨"/a.yaml", none⟩, ⟨-3, 7⟩, some ⟨9, 0⟩, none⟩
    (∃ e, (span.source.text docs).outcome = .error e) ∧ '\x00' ∉ span.source.ref.toList ∧
      (render docs ⟨true⟩ span).outcome = .ok "" := by
  intro tree docs span
  have hmissing : (span.source.text docs).outcome = .error (.refused .notFound "/a.yaml") := by
    decide +kernel
  have hnull : '\x00' ∉ span.source.ref.toList := by decide
  obtain ⟨-, -, hempty⟩ := render_ok_iff tree [] .usual ⟨true⟩ span
  exact ⟨⟨_, hmissing⟩, hnull, hempty ⟨_, hmissing⟩ fun h => hnull h.2.2⟩

/-- No file is looked for under a path with a null character, and yet there is no empty excerpt. -/
theorem render_of_null_path :
    let docs := SourceCache.documents ⟨"/", []⟩ [] .usual
    let span : Span := ⟨⟨"/a\x00b.yaml", none⟩, ⟨1, 1⟩, none, none⟩
    (render docs ⟨false⟩ span).outcome = .error .nullCharacter ∧
      ¬ ∃ s, (render docs ⟨false⟩ span).outcome = .ok s := by
  intro docs span
  have hfault : (render docs ⟨false⟩ span).outcome = .error .nullCharacter := by decide +kernel
  refine ⟨hfault, ?_⟩
  rintro ⟨s, hs⟩
  cases hfault.symm.trans hs

end Excerpt

end LintReport
