/-
Positions as coordinates: each index of a text has one position, and each position one index.

* `Text.startOf` — the index at which a piece of a text begins, where line feeds end pieces;
* `Text.splitOn_append` — a text that is cut in two is cut inside of one of its pieces;
* `Position.IsIn`, `Position.index` — the positions that the pieces of a text have, and the index
  that each of them means;
* `Position.index_lt_index` — an earlier position means an earlier index;
* `Position.ofIndex_coordinates` — the positions of a text number its indices, in their order.

Design notes: `Position.ofIndex` looks back from an index, at the line feeds before it, and
`Position.index` counts forward over the pieces of the whole text.  A text has one piece more than
line feeds, and a piece one column more than characters: the last column is the place of the line
feed, or of the end of the text.
-/
import LintReport.Proofs.Coordinates
import Mathlib.Algebra.GroupWithZero.Nat

namespace LintReport

namespace Text

variable {pieces : List (List Char)} {piece rest xs ys : List Char} {k n : Nat}

/-! ### The pieces of a text -/

/-- The index at which a piece begins: the length of the pieces before it, each of them with the
line feed that ends it. -/
def startOf (pieces : List (List Char)) (n : Nat) : Nat :=
  ((pieces.take n).map List.length).sum + n

theorem startOf_succ (h : pieces[n]? = some piece) :
    startOf pieces (n + 1) = startOf pieces n + piece.length + 1 := by
  rw [startOf, startOf, List.take_add_one, h, Option.toList_some, List.map_append,
    List.sum_append, List.map_singleton, List.sum_singleton]
  omega

theorem startOf_mono (pieces : List (List Char)) (h : k ≤ n) :
    startOf pieces k ≤ startOf pieces n := by
  induction n, h using Nat.le_induction with
  | base => exact le_refl _
  | succ n _ ih =>
    rw [startOf, startOf] at ih ⊢
    rw [List.take_add_one, List.map_append, List.sum_append]
    omega

theorem startOf_append (before after : List (List Char)) :
    startOf (before ++ after) before.length = (before.map List.length).sum + before.length := by
  rw [startOf, List.take_left]

/-- **The piece that a cut lies in.**  A text that is cut in two is cut inside of the piece that is
open where its first part ends; the pieces before it make up that part. -/
theorem splitOn_append {after : List (List Char)} (xs : List Char)
    (h : ys.splitOn '\n' = rest :: after) :
    ∃ before, (xs ++ ys).splitOn '\n' = before ++ (openLine xs ++ rest) :: after ∧
      before.length = xs.count '\n' ∧
      (before.map List.length).sum + before.length + (openLine xs).length = xs.length := by
  induction xs with
  | nil => exact ⟨[], h, rfl, rfl⟩
  | cons x xs ih =>
    obtain ⟨before, hsplit, hcount, hlength⟩ := ih
    rw [List.cons_append, List.splitOn_cons_eq_if_modifyHead, hsplit]
    by_cases hfeed : x = '\n'
    · -- a line feed in front ends an empty piece
      subst hfeed
      rw [if_pos BEq.rfl]
      refine ⟨[] :: before, ?_, ?_, ?_⟩
      · rw [openLine_feed_cons]
        rfl
      · rw [List.count_cons_self, List.length_cons, hcount]
      · rw [openLine_feed_cons, List.map_cons, List.sum_cons, List.length_cons, List.length_nil,
          List.length_cons]
        omega
    · rw [if_neg (by simpa using hfeed), List.count_cons_of_ne hfeed]
      -- any other character goes to the first piece, which is the open one if none is before it
      cases before with
      | nil =>
        have hnot : '\n' ∉ xs := List.count_eq_zero.mp hcount.symm
        refine ⟨[], ?_, hcount, ?_⟩
        · rw [openLine_cons_of_not_mem hfeed hnot]
          rfl
        · rw [openLine_cons_of_not_mem hfeed hnot, List.length_cons, List.length_cons]
          rw [List.map_nil, List.sum_nil, List.length_nil] at hlength ⊢
          omega
      | cons first before =>
        have hmem : '\n' ∈ xs := List.count_pos_iff.mp (hcount ▸ Nat.succ_pos _)
        refine ⟨(x :: first) :: before, ?_, hcount, ?_⟩
        · rw [openLine_cons_of_mem hmem]
          rfl
        · rw [openLine_cons_of_mem hmem, List.length_cons]
          rw [List.map_cons, List.sum_cons, List.length_cons] at hlength ⊢
          rw [List.length_cons]
          omega

/-- The piece that a place of a text lies in, and the part of it before the place. -/
theorem exists_openPiece (cs : List Char) (i : Nat) :
    ∃ before rest after, cs.splitOn '\n' = before ++ (openLine (cs.take i) ++ rest) :: after ∧
      before.length = (cs.take i).count '\n' ∧
      (before.map List.length).sum + before.length + (openLine (cs.take i)).length
        = (cs.take i).length := by
  obtain ⟨rest, after, hrest⟩ := List.exists_cons_of_ne_nil (List.splitOn_ne_nil '\n' (cs.drop i))
  obtain ⟨before, hsplit⟩ := splitOn_append (cs.take i) hrest
  rw [List.take_append_drop] at hsplit
  exact ⟨before, rest, after, hsplit⟩

/-- The pieces of a text, each with a line feed after it, are longer than the text by one. -/
theorem startOf_length_splitOn (cs : List Char) :
    startOf (cs.splitOn '\n') (cs.splitOn '\n').length = cs.length + 1 := by
  obtain ⟨before, hsplit, -, hlength⟩ := splitOn_append cs (List.splitOn_nil '\n')
  rw [List.append_nil, List.append_nil] at hsplit
  rw [hsplit, List.length_append, List.length_singleton, startOf_succ List.getElem?_concat_length,
    startOf_append, hlength]

end Text

namespace Position

variable {cs piece : List Char} {pieces before after : List (List Char)} {p q : Position}
  {i j k : Nat}

/-! ### Positions in the pieces of a text -/

/-- A position that the pieces of a text have: its line is that of a piece, and its column that of
one of the characters of the piece, or the next one. -/
structure IsIn (pieces : List (List Char)) (p : Position) : Prop where
  one_le_line : 1 ≤ p.line
  line_le : p.line ≤ pieces.length
  one_le_column : 1 ≤ p.column
  column_le : p.column ≤ pieces[(p.line - 1).toNat].length + 1

/-- The index that a position means: that at which its piece begins, and its column. -/
def index (pieces : List (List Char)) (p : Position) : Int :=
  Text.startOf pieces (p.line - 1).toNat + (p.column - 1)

/-- A column of a piece that stands after others. -/
theorem isIn_append (h : k ≤ piece.length) :
    IsIn (before ++ piece :: after) ⟨before.length + 1, k + 1⟩ where
  one_le_line := by
    show (1 : Int) ≤ before.length + 1
    omega
  line_le := by
    rw [List.length_append, List.length_cons]
    show (before.length : Int) + 1 ≤ ((before.length + (after.length + 1) : Nat) : Int)
    omega
  one_le_column := by
    show (1 : Int) ≤ k + 1
    omega
  column_le := by
    have hline : ((before.length : Int) + 1 - 1).toNat = before.length := by omega
    simp only [hline, List.getElem_append_right (Nat.le_refl _), Nat.sub_self,
      List.getElem_cons_zero]
    omega

theorem index_append (before after : List (List Char)) (piece : List Char) (k : Nat) :
    index (before ++ piece :: after) ⟨before.length + 1, k + 1⟩
      = ((before.map List.length).sum + before.length + k : Nat) := by
  have hline : ((before.length : Int) + 1 - 1).toNat = before.length := by omega
  rw [index, hline, Text.startOf_append]
  push_cast
  omega

instance : LT Position where
  lt p q := p.line < q.line ∨ p.line = q.line ∧ p.column < q.column

theorem lt_iff : p < q ↔ p.line < q.line ∨ p.line = q.line ∧ p.column < q.column := Iff.rfl

theorem lt_or_eq_or_gt (p q : Position) : p < q ∨ p = q ∨ q < p := by
  obtain ⟨line, column⟩ := p
  obtain ⟨line', column'⟩ := q
  rw [Position.mk.injEq]
  show (line < line' ∨ line = line' ∧ column < column') ∨ (line = line' ∧ column = column') ∨
    (line' < line ∨ line' = line ∧ column' < column)
  omega

theorem IsIn.startOf_le (h : p.IsIn pieces) :
    (Text.startOf pieces (p.line - 1).toNat : Int) ≤ p.index pieces := by
  have hcolumn := h.one_le_column
  rw [index]
  omega

/-- A position comes before the next piece begins. -/
theorem IsIn.lt_startOf (h : p.IsIn pieces) :
    p.index pieces < Text.startOf pieces p.line.toNat := by
  have hline := h.one_le_line
  have hbound := h.line_le
  have hcolumn := h.column_le
  have hnext : p.line.toNat = (p.line - 1).toNat + 1 := by omega
  rw [index, hnext, Text.startOf_succ (List.getElem?_eq_getElem (by omega))]
  push_cast
  omega

/-- **An earlier position means an earlier index.** -/
theorem index_lt_index (hp : p.IsIn pieces) (hq : q.IsIn pieces) (h : p < q) :
    p.index pieces < q.index pieces := by
  rcases lt_iff.mp h with hline | ⟨hline, hcolumn⟩
  · have hstart : Text.startOf pieces p.line.toNat ≤ Text.startOf pieces (q.line - 1).toNat :=
      Text.startOf_mono pieces (by omega)
    have hlt := hp.lt_startOf
    have hle := hq.startOf_le
    omega
  · rw [index, index, hline]
    omega

theorem lt_of_index_lt (hp : p.IsIn pieces) (hq : q.IsIn pieces)
    (h : p.index pieces < q.index pieces) : p < q := by
  rcases lt_or_eq_or_gt p q with hlt | rfl | hgt
  · exact hlt
  · omega
  · have hback := index_lt_index hq hp hgt
    omega

theorem eq_of_index_eq (hp : p.IsIn pieces) (hq : q.IsIn pieces)
    (h : p.index pieces = q.index pieces) : p = q := by
  rcases lt_or_eq_or_gt p q with hlt | heq | hgt
  · have hindex := index_lt_index hp hq hlt
    omega
  · exact heq
  · have hindex := index_lt_index hq hp hgt
    omega

/-! ### The position of an index -/

theorem isIn_ofIndex (cs : List Char) (i : Nat) : (ofIndex cs i).IsIn (cs.splitOn '\n') := by
  obtain ⟨before, rest, after, hsplit, hcount, -⟩ := Text.exists_openPiece cs i
  rw [ofIndex_eq, ← hcount, hsplit]
  exact isIn_append (List.length_append ▸ Nat.le_add_right _ _)

theorem index_ofIndex (h : i ≤ cs.length) : (ofIndex cs i).index (cs.splitOn '\n') = i := by
  obtain ⟨before, rest, after, hsplit, hcount, hlength⟩ := Text.exists_openPiece cs i
  rw [List.length_take_of_le h] at hlength
  rw [ofIndex_eq, ← hcount, hsplit, index_append, hlength]

/-- Each position that a text has is that of an index. -/
theorem exists_ofIndex (h : p.IsIn (cs.splitOn '\n')) : ∃ i ≤ cs.length, ofIndex cs i = p := by
  have hstart := h.startOf_le
  have hstop := h.lt_startOf
  have hline := h.line_le
  -- the last piece ends where the text does, so the position is before that
  have hlast : Text.startOf (cs.splitOn '\n') p.line.toNat ≤ cs.length + 1 := by
    rw [← Text.startOf_length_splitOn]
    exact Text.startOf_mono _ (by omega)
  obtain ⟨i, hi⟩ := Int.eq_ofNat_of_zero_le (show 0 ≤ p.index (cs.splitOn '\n') by omega)
  have hle : i ≤ cs.length := by omega
  refine ⟨i, hle, eq_of_index_eq (isIn_ofIndex cs i) h ?_⟩
  rw [index_ofIndex hle, hi]

/-- **The positions of a text number its indices.**  The position of an index lies in the pieces of
the text between its line feeds, and the index is what the pieces count up to there; so no two
indices have one position, a later index has a later position, and there are no other positions in
the pieces. -/
theorem ofIndex_coordinates (cs : List Char) :
    (∀ i ≤ cs.length, (ofIndex cs i).IsIn (cs.splitOn '\n') ∧
      (ofIndex cs i).index (cs.splitOn '\n') = i) ∧
    (∀ i ≤ cs.length, ∀ j ≤ cs.length, ofIndex cs i = ofIndex cs j → i = j) ∧
    (∀ i j, i < j → j ≤ cs.length → ofIndex cs i < ofIndex cs j) ∧
    ∀ p : Position, p.IsIn (cs.splitOn '\n') → ∃ i ≤ cs.length, ofIndex cs i = p := by
  refine ⟨?_, ?_, ?_, ?_⟩
  · intro i hi
    exact ⟨isIn_ofIndex cs i, index_ofIndex hi⟩
  · intro i hi j hj heq
    have hindex : (i : Int) = j := by rw [← index_ofIndex hi, heq, index_ofIndex hj]
    exact Int.ofNat_inj.mp hindex
  · intro i j hij hj
    refine lt_of_index_lt (isIn_ofIndex cs i) (isIn_ofIndex cs j) ?_
    rw [index_ofIndex (hij.le.trans hj), index_ofIndex hj]
    omega
  · intro p hp
    exact exists_ofIndex hp

/-- A text of four pieces, with an empty one inside and another at its end. -/
theorem ofIndex_coordinates_four_pieces :
    let cs := "ab\n\nc\n".toList
    cs.splitOn '\n' = [['a', 'b'], [], ['c'], []] ∧
      (6 ≤ cs.length ∧ (ofIndex cs 6).IsIn (cs.splitOn '\n') ∧ ofIndex cs 6 = ⟨4, 1⟩ ∧
        (ofIndex cs 6).index (cs.splitOn '\n') = 6) ∧
      (2 < 3 ∧ 3 ≤ cs.length ∧ ofIndex cs 2 < ofIndex cs 3) ∧
      (∀ i ≤ cs.length, ofIndex cs i = ofIndex cs 5 → i = 5) ∧
      IsIn (cs.splitOn '\n') ⟨3, 2⟩ ∧ ∃ i ≤ cs.length, ofIndex cs i = ⟨3, 2⟩ := by
  intro cs
  obtain ⟨hplaces, hinjective, hlater, hexists⟩ := ofIndex_coordinates cs
  have hlength : cs.length = 6 := by decide
  have hposition : IsIn (cs.splitOn '\n') ⟨3, 2⟩ :=
    ⟨by decide, by decide, by decide, by decide⟩
  have hlast := hplaces 6 (by omega)
  exact ⟨by decide, ⟨by omega, hlast.1, by decide, hlast.2⟩,
    ⟨by omega, by omega, hlater 2 3 (by omega) (by omega)⟩,
    fun i hi heq => hinjective i hi 5 (by omega) heq, hposition, hexists _ hposition⟩

end Position

end LintReport
