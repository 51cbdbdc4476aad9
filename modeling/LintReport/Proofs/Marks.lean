/-
Lines and columns as a document counts them.

* `Yaml.foreignBreaks` — how many lines a document ends without a line feed;
* `Position.line_ofMark`, `Position.column_ofMark` — what such breaks and byte-order marks change in
  the position of a place;
* `Position.ofMark_eq_ofIndex_iff` — where a document counts as its indices do;
* `Position.ofMark_eq_ofIndex` — a document with plain line breaks counts so everywhere.

Design notes: a document also ends lines at lone carriage returns, at the next-line character and
at the two Unicode separators, and gives a byte-order mark no column.  The position of an index
knows of neither.  So the two counts are compared character by character: a foreign break puts the
document one line ahead for good, and a byte-order mark puts it one column behind for the rest of
the line.
-/
import LintReport.Proofs.Coordinates

namespace LintReport

namespace Yaml

/-- A document ends a line at an index, and not with a line feed. -/
def foreignBreak (cs : List Char) (i : Nat) : Bool :=
  (cs[i]?.any fun c => isBreak c && c != '\n')
    && !(cs[i]? == some '\r' && cs[i + 1]? == some '\n')

/-- How many lines a document ends before an index without a line feed. -/
def foreignBreaks (cs : List Char) (i : Nat) : Nat := (List.range i).countP (foreignBreak cs)

variable {cs : List Char} {c : Char} {i : Nat}

theorem foreignBreaks_succ :
    foreignBreaks cs (i + 1) = foreignBreaks cs i + if foreignBreak cs i then 1 else 0 := by
  rw [foreignBreaks, List.range_succ, List.countP_append, List.countP_singleton, foreignBreaks]

theorem foreignBreak_of_feed (h : cs[i]? = some '\n') : foreignBreak cs i = false := by
  simp [foreignBreak, h]

theorem foreignBreak_of_none (h : cs[i]? = none) : foreignBreak cs i = false := by
  simp [foreignBreak, h]

theorem isLineBreak_of_isBreak (h : isBreak c = true) : Text.isLineBreak c = true := by
  simp only [isBreak, Bool.or_eq_true, decide_eq_true_eq] at h
  rcases h with (((rfl | rfl) | rfl) | rfl) | rfl
  all_goals decide +kernel

/-- A text with plain line breaks has no foreign ones. -/
theorem foreignBreaks_of_plain (h : Text.PlainBreaks cs) (i : Nat) : foreignBreaks cs i = 0 := by
  rw [foreignBreaks, List.countP_eq_zero]
  intro j _ hforeign
  simp only [foreignBreak, Bool.and_eq_true, Option.any_eq_true, bne_iff_ne, Bool.not_eq_true',
    Bool.and_eq_false_iff, beq_eq_false_iff_ne] at hforeign
  obtain ⟨⟨c, hget, hbreak, hfeed⟩, hreturn⟩ := hforeign
  obtain ⟨hj, rfl⟩ := List.getElem?_eq_some_iff.mp hget
  rcases h j hj (isLineBreak_of_isBreak hbreak) with heq | ⟨heq, hnext⟩
  · exact hfeed heq
  · rcases hreturn with hreturn | hreturn
    · exact hreturn (heq ▸ hget)
    · exact hreturn hnext

/-! ### Cursors -/

namespace Cursor

theorem advance_succ (n : Nat) (p : Cursor) : p.advance (n + 1) = (p.advance n).next := by
  induction n generalizing p with
  | zero => rfl
  | succ n ih =>
    rw [advance, ih p.next]
    rfl

theorem rest_next (p : Cursor) : p.next.rest = p.rest.tail := by
  cases hrest : p.rest with
  | nil => rw [next, hrest, hrest, List.tail_nil]
  | cons x rest =>
    simp only [next, hrest, List.tail_cons]
    split
    · rfl
    · rfl

theorem rest_advance (n : Nat) (p : Cursor) : (p.advance n).rest = p.rest.drop n := by
  induction n with
  | zero => rfl
  | succ n ih => rw [advance_succ, rest_next, ih, List.tail_drop]

theorem next_of_nil {p : Cursor} (h : p.rest = []) : p.next = p := by rw [next, h]

theorem next_of_rest {p : Cursor} {rest : List Char} (h : p.rest = c :: rest) :
    (p.next.line, p.next.column)
      = if isBreak c && (c != '\r' || rest.headD endChar != '\n') then (p.line + 1, 0)
        else (p.line, if c = '\ufeff' then p.column else p.column + 1) := by
  simp only [next, h]
  split
  · rfl
  · rfl

/-- A cursor goes to the next line after a line feed, and after a foreign break. -/
theorem endsLine_iff (h : cs[i]? = some c) :
    (isBreak c && (c != '\r' || (cs.drop (i + 1)).headD endChar != '\n')) = true
      ↔ c = '\n' ∨ foreignBreak cs i = true := by
  have hnext : cs[i + 1]?.getD endChar = '\n' ↔ cs[i + 1]? = some '\n' := by
    cases cs[i + 1]? with
    | none => decide
    | some x => simp
  by_cases hfeed : c = '\n'
  · subst hfeed
    simp [isBreak]
  · simp [foreignBreak, h, hfeed, hnext]

end Cursor

end Yaml

/-! ### Positions -/

namespace Position

variable {cs : List Char} {c : Char} {i : Nat}

/-- One more character moves a position in a document to the next column, unless it takes none, or
to the next line. -/
theorem ofMark_succ (h : cs[i]? = some c) :
    ofMark cs (i + 1) = if c = '\n' ∨ Yaml.foreignBreak cs i = true then ⟨(ofMark cs i).line + 1, 1⟩
      else ⟨(ofMark cs i).line,
        if c = '\ufeff' then (ofMark cs i).column else (ofMark cs i).column + 1⟩ := by
  obtain ⟨hi, hc⟩ := List.getElem?_eq_some_iff.mp h
  have hrest : ((Yaml.Cursor.start cs).advance i).rest = c :: cs.drop (i + 1) := by
    rw [Yaml.Cursor.rest_advance, ← hc]
    exact List.drop_eq_getElem_cons hi
  have hmove := Yaml.Cursor.next_of_rest hrest
  rw [ofMark, ofMark, Yaml.Cursor.advance_succ]
  by_cases hbreak : c = '\n' ∨ Yaml.foreignBreak cs i = true
  · rw [if_pos ((Yaml.Cursor.endsLine_iff h).mpr hbreak), Prod.mk.injEq] at hmove
    rw [if_pos hbreak, hmove.1, hmove.2]
    rfl
  · rw [if_neg (mt (Yaml.Cursor.endsLine_iff h).mp hbreak), Prod.mk.injEq] at hmove
    rw [if_neg hbreak, hmove.1, hmove.2]
    split
    · rfl
    · rfl

theorem ofMark_of_length_le (h : cs.length ≤ i) : ofMark cs (i + 1) = ofMark cs i := by
  have hrest : ((Yaml.Cursor.start cs).advance i).rest = [] := by
    rw [Yaml.Cursor.rest_advance]
    exact List.drop_eq_nil_of_le h
  rw [ofMark, Yaml.Cursor.advance_succ, Yaml.Cursor.next_of_nil hrest, ofMark]

/-- A document is a line ahead of the indices for each foreign break. -/
theorem line_ofMark (cs : List Char) (i : Nat) :
    (ofMark cs i).line = (ofIndex cs i).line + Yaml.foreignBreaks cs i := by
  induction i with
  | zero => rfl
  | succ i ih =>
    cases hget : cs[i]? with
    | none =>
      have hlength := List.getElem?_eq_none_iff.mp hget
      rw [ofMark_of_length_le hlength, ofIndex_of_length_le hlength, ih, Yaml.foreignBreaks_succ,
        Yaml.foreignBreak_of_none hget]
      rfl
    | some c =>
      rw [ofMark_succ hget, ofIndex_succ hget, Yaml.foreignBreaks_succ]
      by_cases hfeed : c = '\n'
      · subst hfeed
        rw [if_pos (.inl rfl), if_pos rfl, Yaml.foreignBreak_of_feed hget]
        show _ + 1 = _ + 1 + _
        rw [ih]
        push_cast
        omega
      · rw [if_neg hfeed]
        cases hbreak : Yaml.foreignBreak cs i with
        | true =>
          rw [if_pos (.inr rfl), if_pos rfl]
          show _ + 1 = _
          rw [ih]
          push_cast
          omega
        | false =>
          rw [if_neg (not_or.mpr ⟨hfeed, Bool.false_ne_true⟩), if_neg Bool.false_ne_true]
          exact ih

/-- Until a foreign break is met, a document is a column behind the indices for each byte-order mark
of the line. -/
theorem column_ofMark (h : Yaml.foreignBreaks cs i = 0) :
    (ofMark cs i).column + (Text.openLine (cs.take i)).count '\ufeff' = (ofIndex cs i).column := by
  induction i with
  | zero => rfl
  | succ i ih =>
    rw [Yaml.foreignBreaks_succ] at h
    specialize ih (by omega)
    cases hget : cs[i]? with
    | none =>
      have hlength := List.getElem?_eq_none_iff.mp hget
      rw [ofMark_of_length_le hlength, ofIndex_of_length_le hlength, ← ih,
        List.take_of_length_le hlength, List.take_of_length_le (by omega)]
    | some c =>
      have hbreak : ¬ Yaml.foreignBreak cs i = true := by
        intro hbreak
        rw [if_pos hbreak] at h
        omega
      rw [ofMark_succ hget, ofIndex_succ hget, List.take_add_one, hget, Option.toList_some]
      by_cases hfeed : c = '\n'
      · subst hfeed
        rw [if_pos (.inl rfl), if_pos rfl, Text.openLine_append_of_mem _ List.mem_cons_self]
        rfl
      · have hnot : '\n' ∉ [c] := by simpa using fun heq : '\n' = c => hfeed heq.symm
        rw [if_neg (not_or.mpr ⟨hfeed, hbreak⟩), if_neg hfeed,
          Text.openLine_append_of_not_mem _ hnot, List.count_append]
        by_cases hmark : c = '\ufeff'
        · subst hmark
          rw [if_pos rfl, List.count_singleton_self, ← ih]
          push_cast
          omega
        · have hcount : [c].count '\ufeff' = 0 :=
            List.count_eq_zero_of_not_mem (by simpa using fun heq : '\ufeff' = c => hmark heq.symm)
          rw [if_neg hmark, hcount, ← ih]
          push_cast
          omega

/-- **A document counts as its indices do** at an index, exactly if no foreign break stands before
it, and in its line no byte-order mark. -/
theorem ofMark_eq_ofIndex_iff : ofMark cs i = ofIndex cs i
    ↔ Yaml.foreignBreaks cs i = 0 ∧ '\ufeff' ∉ Text.openLine (cs.take i) := by
  have hline := line_ofMark cs i
  have heq : ofMark cs i = ofIndex cs i
      ↔ (ofMark cs i).line = (ofIndex cs i).line ∧ (ofMark cs i).column = (ofIndex cs i).column :=
    Position.mk.injEq .. ▸ Iff.rfl
  rw [heq]
  constructor
  · rintro ⟨hlines, hcolumns⟩
    have hnone : Yaml.foreignBreaks cs i = 0 := by omega
    have hcolumn := column_ofMark hnone
    refine ⟨hnone, List.count_eq_zero.mp ?_⟩
    omega
  · rintro ⟨hnone, hmark⟩
    have hcolumn := column_ofMark hnone
    rw [List.count_eq_zero_of_not_mem hmark] at hcolumn
    constructor
    · omega
    · omega

/-- A document counts as its indices do, if its line breaks are plain and it has no byte-order
mark. -/
theorem ofMark_eq_ofIndex (hplain : Text.PlainBreaks cs) (hmark : '\ufeff' ∉ cs) :
    ofMark cs i = ofIndex cs i := by
  refine ofMark_eq_ofIndex_iff.mpr ⟨Yaml.foreignBreaks_of_plain hplain i, fun hmem => hmark ?_⟩
  have hreverse := List.mem_reverse.mp hmem
  exact List.mem_of_mem_take (List.mem_reverse.mp ((List.takeWhile_prefix _).subset hreverse))

end Position

end LintReport
