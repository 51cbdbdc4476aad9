/-
Documents in memory and on disk.

* `Text.lineChars_unifyBreaks` — replacing carriage returns by line feeds keeps the lines of a text;
* `FileTree.textOfBytes_encode` — what is read from the bytes of a text;
* `SourceCache.documents_of_fresh` — what is read of a document that is not kept;
* `Source.lines_stored` — a document has the same lines and the same excerpts in memory and on disk.

Design notes: a text that is read from a file has other characters than the one in memory, and
other positions.  What the two have in common are their lines, because a carriage return ends a line
as a line feed does, and the two together end only one.
-/
import LintReport.Proofs.Bytes
import LintReport.Proofs.Coordinates
import LintReport.Proofs.Excerpts

namespace LintReport

open Outcome

namespace Text

/-- A carriage return ends a line, unless the line feed after it does. -/
theorem lineChars_return_cons {cs : List Char} (h : ∀ rest, cs ≠ '\n' :: rest) :
    lineChars ('\r' :: cs) = [] :: lineChars cs := by
  rw [lineChars.eq_3 _ _ fun rest _ => h rest, if_pos isLineBreak_return]

/-- **Replacing carriage returns by line feeds keeps the lines of a text.** -/
theorem lineChars_unifyBreaks (cs : List Char) : lineChars (unifyBreaks cs) = lineChars cs := by
  induction cs using unifyBreaks.induct with
  | case1 => rfl
  | case2 rest ih => rw [unifyBreaks, lineChars_feed_cons, ih, lineChars]
  | case3 c rest hpair ih =>
    rw [unifyBreaks.eq_3 _ _ hpair]
    by_cases hreturn : c = '\r'
    · subst hreturn
      rw [if_pos rfl, lineChars_feed_cons, ih, lineChars_return_cons fun rest => hpair rest rfl]
    · rw [if_neg hreturn]
      by_cases hbreak : isLineBreak c = true
      · rw [lineChars.eq_3 _ _ fun _ h => absurd h hreturn,
          lineChars.eq_3 _ _ fun _ h => absurd h hreturn, if_pos hbreak, if_pos hbreak, ih]
      · have hunbroken : isLineBreak c = false := by simpa using hbreak
        rw [lineChars_cons_of_unbroken hunbroken, lineChars_cons_of_unbroken hunbroken, ih]

/-- The lines of a text are those of the text as it is read from a file. -/
theorem lines_unifyBreaks (text : String) :
    lines (String.ofList (unifyBreaks text.toList)) = lines text := by
  rw [lines, String.toList_ofList, lineChars_unifyBreaks, lines]

end Text

variable {tree : FileTree} {cache : SourceCache} {limits : Limits} {ref text : String}

/-- What is read from the bytes of a text. -/
theorem FileTree.textOfBytes_encode (text : String) :
    textOfBytes (Text.Utf8.encode text.toList)
      = .ok (String.ofList (Text.unifyBreaks text.toList)) := by
  rw [textOfBytes, Text.Utf8.decode_encode]

/-- A document that is not kept is read from its file. -/
theorem SourceCache.documents_of_fresh (h : cache.find? ref = none) :
    documents tree cache limits ref = tree.readText ref := by
  show (cache.read tree ref).1 = _
  rw [read, h]
  cases tree.readText ref with
  | ok text => rfl
  | error e => rfl

/-- **A document has the same lines and the same excerpts in memory and on disk.**  Where a file
holds the bytes of a text, and no text is kept for it yet, the source that carries the text and the
source that stands for the file both have the lines of the text.  So their excerpts are the same,
for every start, every end and every palette: the rows of these lines, if there is room for the
marker, and otherwise the same fault. -/
theorem Source.lines_stored
    (hfile : tree.readBytes (Path.ofString ref).toString = .ok (Text.Utf8.encode text.toList))
    (hfresh : cache.find? ref = none) (name : String) :
    let docs := cache.documents tree limits
    let inMemory : Source := ⟨name, some text⟩
    let onDisk : Source := ⟨ref, none⟩
    (inMemory.lines docs).outcome = .ok (Text.lines text) ∧
      (onDisk.lines docs).outcome = .ok (Text.lines text) ∧
      ∀ (palette : Palette) (start : Position) (stop : Option Position)
        (pointer pointer' : Option String),
        let kept : Span := ⟨inMemory, start, stop, pointer⟩
        let stored : Span := ⟨onDisk, start, stop, pointer'⟩
        (Excerpt.render docs palette stored).outcome = (Excerpt.render docs palette kept).outcome ∧
          (Excerpt.tooWide? limits.marker (Text.lines text) kept = none →
            (Excerpt.render docs palette stored).outcome
              = .ok ("\n".intercalate (Excerpt.rows palette (Text.lines text) kept))) := by
  intro docs inMemory onDisk
  have hmemory : (inMemory.text docs).outcome = .ok text := rfl
  have hdisk : (onDisk.text docs).outcome = .ok (String.ofList (Text.unifyBreaks text.toList)) := by
    show SourceCache.documents tree cache limits ref = _
    rw [SourceCache.documents_of_fresh hfresh, FileTree.readText, hfile, ok_bind,
      FileTree.textOfBytes_encode]
  refine ⟨?_, ?_, fun palette start stop pointer pointer' => ?_⟩
  · rw [lines, Attempt.outcome_bind, hmemory, ok_bind, Attempt.outcome_pure]
  · rw [lines, Attempt.outcome_bind, hdisk, ok_bind, Attempt.outcome_pure, Text.lines_unifyBreaks]
  · intro kept stored
    have hkept : (Excerpt.render docs palette kept).outcome = _ :=
      Excerpt.outcome_render_of_text hmemory
    have hstored : (Excerpt.render docs palette stored).outcome = _ :=
      Excerpt.outcome_render_of_text hdisk
    rw [Text.lines_unifyBreaks] at hstored
    -- lines, start and end decide over the excerpt, and the spans have these in common
    have hsame : (Excerpt.render docs palette stored).outcome
        = (Excerpt.render docs palette kept).outcome := hstored.trans hkept.symm
    refine ⟨hsame, fun hroom => ?_⟩
    have hlimits : docs.limits = limits := rfl
    rw [hsame, hkept, hlimits, hroom]

/-- A text with six ways to end a line, two of them changed when it is read from a file: the marker
stands under the same characters. -/
theorem Source.lines_stored_mixed :
    let text := "a\r\nbc\rd\u2028e\n\r"
    let bytes := Text.Utf8.encode text.toList
    let tree : FileTree := ⟨"/", [(["dir", "x.yaml"], .file bytes)]⟩
    let docs := SourceCache.documents tree [] .usual
    let span := fun source : Source => (⟨source, ⟨2, 2⟩, some ⟨4, 1⟩, none⟩ : Span)
    tree.readBytes (Path.ofString "/dir//x.yaml").toString = .ok bytes ∧
      docs "/dir//x.yaml" = .ok "a\nbc\nd\u2028e\n\n" ∧
      ((⟨"/dir//x.yaml", none⟩ : Source).lines docs).outcome = .ok ["a", "bc", "d", "e", ""] ∧
      (Excerpt.render docs ⟨false⟩ (span ⟨"/dir//x.yaml", none⟩)).outcome
        = .ok " 1 | a\n 2 | bc\n   |  ^\n 3 | d\n 4 | e" := by
  intro text bytes tree docs span
  have hfile : tree.readBytes (Path.ofString "/dir//x.yaml").toString = .ok bytes := by
    decide +kernel
  obtain ⟨-, hlines, hexcerpt⟩ :=
    @Source.lines_stored tree [] .usual "/dir//x.yaml" text hfile rfl "memory"
  obtain ⟨-, hrows⟩ := hexcerpt ⟨false⟩ ⟨2, 2⟩ (some ⟨4, 1⟩) none none
  have htext : Text.lines text = ["a", "bc", "d", "e", ""] := by decide +kernel
  rw [htext] at hlines hrows
  refine ⟨hfile, by decide +kernel, hlines, ?_⟩
  rw [hrows (by decide +kernel)]
  decide +kernel

end LintReport
