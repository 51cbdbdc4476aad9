/-
Lines and columns of the places in a text.

* `Text.PlainBreaks` — a text whose only line breaks are line feeds, alone or after a carriage
  return;
* `Text.isLineBreak_of_mem_lines` — no line of a text has a line break in it;
* `Text.getElem?_lineChars` — the number of line feeds before a place is that of its line;
* `Position.line_ofIndex_of_take`, `Position.column_ofIndex_of_take` — how far a further part of
  the text moves a position down, or to the right;
* `Position.ofIndex_mono` — a further index has no earlier position.

Design notes: a position of an index counts line feeds only, and a text shown line by line breaks
at every character that ends a line.  With plain breaks they agree at each place that is not
itself a line break.
-/
import LintReport.Diagnostic.Resolution
import Mathlib.Data.List.TakeWhile

namespace LintReport

namespace Text

/-- The only line breaks of a text are line feeds, alone or right after a carriage return. -/
def PlainBreaks (cs : List Char) : Prop :=
  ∀ (i : Nat) (h : i < cs.length), isLineBreak cs[i] = true →
    cs[i] = '\n' ∨ cs[i] = '\r' ∧ cs[i + 1]? = some '\n'

instance (cs : List Char) : Decidable (PlainBreaks cs) :=
  inferInstanceAs (Decidable (∀ (i : Nat) (h : i < cs.length), isLineBreak cs[i] = true →
    cs[i] = '\n' ∨ cs[i] = '\r' ∧ cs[i + 1]? = some '\n'))

/-- What stands after the last line feed. -/
def openLine (cs : List Char) : List Char := (cs.reverse.takeWhile (· != '\n')).reverse

/-- What stands before the first line break. -/
def firstLine (cs : List Char) : List Char := cs.takeWhile (!isLineBreak ·)

section

variable {c : Char} {cs xs ys : List Char}

theorem plainBreaks_cons : PlainBreaks (c :: cs) ↔
    (isLineBreak c = true → c = '\n' ∨ c = '\r' ∧ cs.head? = some '\n') ∧ PlainBreaks cs := by
  constructor
  · intro h
    refine ⟨fun hbreak => ?_, fun i hi hbreak => ?_⟩
    · have hfirst := h 0 (Nat.zero_lt_succ _) hbreak
      rwa [List.getElem_cons_zero, List.getElem?_cons_succ, ← List.head?_eq_getElem?] at hfirst
    · have hlater := h (i + 1) (Nat.succ_lt_succ hi)
      rw [List.getElem_cons_succ, List.getElem?_cons_succ] at hlater
      exact hlater hbreak
  · rintro ⟨hfirst, hlater⟩ i hi hbreak
    cases i with
    | zero =>
      rw [List.getElem_cons_zero, List.getElem?_cons_succ, ← List.head?_eq_getElem?]
      exact hfirst hbreak
    | succ i =>
      rw [List.getElem_cons_succ] at hbreak ⊢
      rw [List.getElem?_cons_succ]
      exact hlater i (Nat.lt_of_succ_lt_succ hi) hbreak

theorem PlainBreaks.drop (h : PlainBreaks cs) (n : Nat) : PlainBreaks (cs.drop n) := by
  induction n generalizing cs with
  | zero => exact h
  | succ n ih =>
    cases cs with
    | nil => exact h
    | cons c cs => exact ih (plainBreaks_cons.mp h).2

/-! ### The line that a place lies in -/

theorem openLine_append_of_not_mem (xs : List Char) (h : '\n' ∉ ys) :
    openLine (xs ++ ys) = openLine xs ++ ys := by
  have hall : ∀ x ∈ ys.reverse, (x != '\n') = true := by
    intro x hx
    have hne : x ≠ '\n' := fun heq => h (heq ▸ List.mem_reverse.mp hx)
    simpa using hne
  rw [openLine, List.reverse_append, List.takeWhile_append_of_pos hall, List.reverse_append,
    List.reverse_reverse, openLine]

theorem openLine_of_not_mem (h : '\n' ∉ cs) : openLine cs = cs :=
  openLine_append_of_not_mem [] h

/-- If the second of two parts has a line feed, the last line feed is there. -/
theorem openLine_append_of_mem (xs : List Char) (h : '\n' ∈ ys) :
    openLine (xs ++ ys) = openLine ys := by
  have hshort : (ys.reverse.takeWhile (· != '\n')).length ≠ ys.reverse.length := by
    intro heq
    have hall := (List.takeWhile_prefix (p := (· != '\n')) (l := ys.reverse)).eq_of_length heq
    rw [List.takeWhile_eq_self_iff] at hall
    have hne := hall '\n' (List.mem_reverse.mpr h)
    simp at hne
  rw [openLine, List.reverse_append, List.takeWhile_append, if_neg hshort, openLine]

theorem openLine_cons_of_mem (h : '\n' ∈ cs) : openLine (c :: cs) = openLine cs :=
  openLine_append_of_mem [c] h

theorem openLine_cons_of_not_mem (hc : c ≠ '\n') (h : '\n' ∉ cs) :
    openLine (c :: cs) = c :: openLine cs := by
  rw [openLine_of_not_mem h, openLine_of_not_mem]
  rw [List.mem_cons]
  rintro (heq | hmem)
  · exact hc heq.symm
  · exact h hmem

theorem openLine_feed_cons : openLine ('\n' :: cs) = openLine cs := by
  by_cases h : '\n' ∈ cs
  · exact openLine_cons_of_mem h
  · rw [openLine_of_not_mem h]
    exact openLine_append_of_not_mem ['\n'] h

/-! ### The lines of a text -/

theorem isLineBreak_feed : isLineBreak '\n' = true := by decide +kernel

theorem isLineBreak_return : isLineBreak '\r' = true := by decide +kernel

theorem lineChars_feed_cons : lineChars ('\n' :: cs) = [] :: lineChars cs := by
  rw [lineChars.eq_3 _ _ (by simp), if_pos isLineBreak_feed]

theorem lineChars_cons_of_unbroken (h : isLineBreak c = false) :
    lineChars (c :: cs) = consToLines c (lineChars cs) := by
  have hreturn : c ≠ '\r' := by
    rintro rfl
    cases isLineBreak_return.symm.trans h
  rw [lineChars.eq_3 _ _ fun _ heq => absurd heq hreturn, h, if_neg Bool.false_ne_true]

theorem firstLine_cons_of_break (h : isLineBreak c = true) : firstLine (c :: cs) = [] :=
  List.takeWhile_cons_of_neg (p := (!isLineBreak ·)) (by rw [h]; decide)

theorem firstLine_cons_of_unbroken (h : isLineBreak c = false) :
    firstLine (c :: cs) = c :: firstLine cs :=
  List.takeWhile_cons_of_pos (p := (!isLineBreak ·)) (by rw [h]; rfl)

theorem mem_consToLines {L : List (List Char)} {line : List Char} (h : line ∈ consToLines c L) :
    ∀ x ∈ line, x = c ∨ ∃ l ∈ L, x ∈ l := by
  intro x hx
  cases L with
  | nil =>
    rw [consToLines, List.mem_singleton] at h
    rw [h, List.mem_singleton] at hx
    exact .inl hx
  | cons first rest =>
    rw [consToLines, List.mem_cons] at h
    rcases h with rfl | h
    · rcases List.mem_cons.mp hx with rfl | hx
      · exact .inl rfl
      · exact .inr ⟨first, List.mem_cons_self, hx⟩
    · exact .inr ⟨line, List.mem_cons_of_mem first h, hx⟩

theorem isLineBreak_of_mem_lineChars :
    ∀ line ∈ lineChars cs, ∀ x ∈ line, isLineBreak x = false := by
  induction cs using lineChars.induct with
  | case1 => exact fun line hline => absurd hline List.not_mem_nil
  | case2 rest ih =>
    rw [lineChars, List.forall_mem_cons]
    exact ⟨fun x hx => absurd hx List.not_mem_nil, ih⟩
  | case3 c rest hcrlf hbreak ih =>
    rw [lineChars.eq_3 _ _ hcrlf, if_pos hbreak, List.forall_mem_cons]
    exact ⟨fun x hx => absurd hx List.not_mem_nil, ih⟩
  | case4 c rest hcrlf hbreak ih =>
    have hunbroken : isLineBreak c = false := by simpa using hbreak
    rw [lineChars_cons_of_unbroken hunbroken]
    intro line hline x hx
    rcases mem_consToLines hline x hx with rfl | ⟨line', hline', hx⟩
    · exact hunbroken
    · exact ih line' hline' x hx

/-- No line of a text has a line break in it. -/
theorem isLineBreak_of_mem_lines {text line : String} (h : line ∈ lines text) :
    ∀ x ∈ line.toList, isLineBreak x = false := by
  obtain ⟨chars, hchars, rfl⟩ := List.mem_map.mp h
  rw [String.toList_ofList]
  exact isLineBreak_of_mem_lineChars chars hchars

theorem getElem?_consToLines_zero {L : List (List Char)} :
    (consToLines c L)[0]? = some (c :: L[0]?.getD []) := by
  cases L with
  | nil => rfl
  | cons line L => rfl

theorem getElem?_consToLines_succ {L : List (List Char)} {n : Nat} :
    (consToLines c L)[n + 1]? = L[n + 1]? := by
  cases L with
  | nil => rfl
  | cons line L => rfl

/-- The first line of a text; a text without characters has none. -/
theorem getElem?_lineChars_zero : (lineChars cs)[0]?.getD [] = firstLine cs := by
  induction cs using lineChars.induct with
  | case1 => rfl
  | case2 rest ih =>
    rw [lineChars, firstLine_cons_of_break isLineBreak_return]
    rfl
  | case3 c rest hcrlf hbreak ih =>
    rw [lineChars.eq_3 _ _ hcrlf, if_pos hbreak, firstLine_cons_of_break hbreak]
    rfl
  | case4 c rest hcrlf hbreak ih =>
    have hunbroken : isLineBreak c = false := by simpa using hbreak
    rw [lineChars_cons_of_unbroken hunbroken, getElem?_consToLines_zero,
      firstLine_cons_of_unbroken hunbroken, ih]
    rfl

/-- The line of a character that is no line break, after a part of the text. -/
theorem getElem?_lineChars_append (hplain : PlainBreaks (xs ++ c :: ys))
    (hc : isLineBreak c = false) :
    (lineChars (xs ++ c :: ys))[xs.count '\n']?
      = some (openLine xs ++ firstLine (c :: ys)) := by
  -- a character in front belongs to the line in question only if no line feed comes after it
  induction xs with
  | nil =>
    rw [List.nil_append, firstLine_cons_of_unbroken hc, lineChars_cons_of_unbroken hc,
      ← getElem?_lineChars_zero]
    exact getElem?_consToLines_zero
  | cons x xs ih =>
    rw [List.cons_append] at hplain ⊢
    obtain ⟨hfirst, hplain⟩ := plainBreaks_cons.mp hplain
    specialize ih hplain
    by_cases hfeed : x = '\n'
    · subst hfeed
      rw [lineChars_feed_cons, List.count_cons_self, List.getElem?_cons_succ, ih,
        openLine_feed_cons]
    rw [List.count_cons_of_ne hfeed]
    cases hbreak : isLineBreak x with
    | true =>
      -- a carriage return belongs to the line feed after it
      obtain ⟨rfl, hnext⟩ := (hfirst hbreak).resolve_left hfeed
      cases xs with
      | nil =>
        rw [List.nil_append, List.head?_cons, Option.some.injEq] at hnext
        rw [hnext] at hc
        cases isLineBreak_feed.symm.trans hc
      | cons y xs =>
        rw [List.cons_append, List.head?_cons, Option.some.injEq] at hnext
        subst hnext
        rw [openLine_cons_of_mem List.mem_cons_self, ← ih, List.cons_append, lineChars,
          lineChars_feed_cons]
    | false =>
      rw [lineChars_cons_of_unbroken hbreak]
      by_cases hmem : '\n' ∈ xs
      · obtain ⟨n, hn⟩ : ∃ n, xs.count '\n' = n + 1 :=
          Nat.exists_eq_succ_of_ne_zero (List.count_pos_iff.mpr hmem).ne'
        rw [openLine_cons_of_mem hmem, ← ih, hn]
        exact getElem?_consToLines_succ
      · rw [List.count_eq_zero_of_not_mem hmem] at ih ⊢
        rw [getElem?_consToLines_zero, ih, openLine_cons_of_not_mem hfeed hmem]
        rfl

/-- **The line that a place lies in.**  If the line breaks of a text are plain, the number of line
feeds before a character that is no line break is the number of its line. -/
theorem getElem?_lineChars {i : Nat} (hplain : PlainBreaks cs) (hget : cs[i]? = some c)
    (hc : isLineBreak c = false) :
    (lineChars cs)[(cs.take i).count '\n']?
      = some (openLine (cs.take i) ++ firstLine (cs.drop i)) := by
  obtain ⟨hi, hget⟩ := List.getElem?_eq_some_iff.mp hget
  have hdrop : cs.drop i = c :: cs.drop (i + 1) := by rw [List.drop_eq_getElem_cons hi, hget]
  have hsplit : cs.take i ++ c :: cs.drop (i + 1) = cs := by
    rw [← hdrop, List.take_append_drop]
  have hline := getElem?_lineChars_append (hsplit.symm ▸ hplain) hc
  rwa [hsplit, ← hdrop] at hline

/-! ### Parts of a line -/

theorem exists_break_of_cons (hc : isLineBreak c = false)
    (h : ∃ x ∈ c :: cs, isLineBreak x = true) : ∃ x ∈ cs, isLineBreak x = true := by
  obtain ⟨x, hx, hbreak⟩ := h
  rcases List.mem_cons.mp hx with rfl | hx
  · cases hc.symm.trans hbreak
  · exact ⟨x, hx, hbreak⟩

/-- A text in which a line breaks has a line feed, if its breaks are plain and it does not end with
a carriage return. -/
theorem PlainBreaks.feed_mem (hplain : PlainBreaks (xs ++ ys)) (hlast : '\r' ∉ xs.getLast?)
    (hbreak : ∃ c ∈ xs, isLineBreak c = true) : '\n' ∈ xs := by
  induction xs with
  | nil =>
    obtain ⟨c, hc, -⟩ := hbreak
    cases hc
  | cons x xs ih =>
    obtain ⟨hfirst, hplain⟩ := plainBreaks_cons.mp hplain
    cases xs with
    | nil =>
      obtain ⟨c, hc, hbreak⟩ := hbreak
      obtain rfl := List.mem_singleton.mp hc
      rcases hfirst hbreak with rfl | ⟨rfl, -⟩
      · exact List.mem_cons_self
      · exact absurd rfl hlast
    | cons y xs =>
      cases hx : isLineBreak x with
      | true =>
        rcases hfirst hx with rfl | ⟨-, hnext⟩
        · exact List.mem_cons_self
        · obtain rfl : y = '\n' := Option.some.inj hnext
          exact List.mem_cons_of_mem _ List.mem_cons_self
      | false =>
        rw [List.getLast?_cons_cons] at hlast
        exact List.mem_cons_of_mem _ (ih hplain hlast (exists_break_of_cons hx hbreak))

theorem firstLine_of_unbroken (h : ∀ c ∈ cs, isLineBreak c = false) : firstLine cs = cs := by
  rw [firstLine, List.takeWhile_eq_self_iff]
  intro c hc
  rw [h c hc]
  rfl

theorem firstLine_append_of_unbroken (h : ∀ c ∈ xs, isLineBreak c = false) :
    firstLine (xs ++ ys) = firstLine xs ++ firstLine ys := by
  rw [firstLine_of_unbroken h]
  exact List.takeWhile_append_of_pos (p := (!isLineBreak ·)) fun c hc => by rw [h c hc]; rfl

theorem firstLine_append_of_break (h : ∃ c ∈ xs, isLineBreak c = true) :
    firstLine (xs ++ ys) = firstLine xs := by
  induction xs with
  | nil =>
    obtain ⟨c, hc, -⟩ := h
    cases hc
  | cons x xs ih =>
    rw [List.cons_append]
    cases hx : isLineBreak x with
    | true => rw [firstLine_cons_of_break hx, firstLine_cons_of_break hx]
    | false =>
      rw [firstLine_cons_of_unbroken hx, firstLine_cons_of_unbroken hx,
        ih (exists_break_of_cons hx h)]

end

end Text

/-! ### Positions -/

namespace Position

variable {cs xs ys : List Char} {c : Char} {i : Nat}

theorem ofIndex_eq (cs : List Char) (i : Nat) :
    ofIndex cs i = ⟨(cs.take i).count '\n' + 1, (Text.openLine (cs.take i)).length + 1⟩ := by
  rw [ofIndex, Text.openLine, List.length_reverse]

/-- A further part of the text moves a position down by its line feeds. -/
theorem line_ofIndex_of_take {j : Nat} (h : cs.take j = cs.take i ++ xs) :
    (ofIndex cs j).line = (ofIndex cs i).line + xs.count '\n' := by
  rw [ofIndex_eq, ofIndex_eq, h, List.count_append]
  show ((_ + _ : Nat) : Int) + 1 = _ + 1 + _
  omega

/-- A further part of the line moves a position to the right by its length. -/
theorem column_ofIndex_of_take {j : Nat} (h : cs.take j = cs.take i ++ xs) (hxs : '\n' ∉ xs) :
    (ofIndex cs j).column = (ofIndex cs i).column + xs.length := by
  rw [ofIndex_eq, ofIndex_eq, h, Text.openLine_append_of_not_mem _ hxs, List.length_append]
  show ((_ + _ : Nat) : Int) + 1 = _ + 1 + _
  omega

/-- One more character moves a position to the next column, or to the next line. -/
theorem ofIndex_succ (h : cs[i]? = some c) :
    ofIndex cs (i + 1) = if c = '\n' then ⟨(ofIndex cs i).line + 1, 1⟩
      else ⟨(ofIndex cs i).line, (ofIndex cs i).column + 1⟩ := by
  rw [ofIndex_eq, ofIndex_eq, List.take_add_one, h, Option.toList_some, List.count_append]
  by_cases hfeed : c = '\n'
  · subst hfeed
    rw [if_pos rfl, Text.openLine_append_of_mem _ List.mem_cons_self]
    rfl
  · have hnot : '\n' ∉ [c] := by simpa using fun heq : '\n' = c => hfeed heq.symm
    rw [if_neg hfeed, Text.openLine_append_of_not_mem _ hnot, List.length_append,
      List.count_eq_zero_of_not_mem hnot]
    rfl

/-! ### The order of positions -/

instance : LE Position where
  le p q := p.line < q.line ∨ p.line = q.line ∧ p.column ≤ q.column

theorem le_iff {p q : Position} :
    p ≤ q ↔ p.line < q.line ∨ p.line = q.line ∧ p.column ≤ q.column := Iff.rfl

theorem ofIndex_of_length_le (h : cs.length ≤ i) : ofIndex cs (i + 1) = ofIndex cs i := by
  rw [ofIndex, ofIndex, List.take_of_length_le h, List.take_of_length_le (by omega)]

/-- **A further index has no earlier position.** -/
theorem ofIndex_mono {j : Nat} (cs : List Char) (h : i ≤ j) : ofIndex cs i ≤ ofIndex cs j := by
  induction j, h using Nat.le_induction with
  | base => exact .inr ⟨rfl, Int.le_refl _⟩
  | succ j hij ih =>
    rw [le_iff] at ih ⊢
    cases hget : cs[j]? with
    | none =>
      rw [ofIndex_of_length_le (List.getElem?_eq_none_iff.mp hget)]
      exact ih
    | some c =>
      rw [ofIndex_succ hget]
      split
      · left
        show (ofIndex cs i).line < (ofIndex cs j).line + 1
        omega
      · show (ofIndex cs i).line < (ofIndex cs j).line
          ∨ (ofIndex cs i).line = (ofIndex cs j).line
            ∧ (ofIndex cs i).column ≤ (ofIndex cs j).column + 1
        omega

end Position

end LintReport
