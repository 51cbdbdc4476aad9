/-
The lines of a group are in columns.

* `Stylish.toList_line` — the characters of a line without colors, part by part;
* `Stylish.IsRow` — a line with a margin, a column for the position, a column for the rule, and
  the text, all of them at fixed places;
* `Stylish.IsRow.position_read`, `Stylish.IsRow.rule_read` — what stands before the first blank of
  a column is what was put there;
* `Stylish.group_columns` — the lines of a group have the same columns, whatever is in them.

Design notes: the widths of a group are those of its widest entries, so a padded entry is exactly
as long as its column.  That is all the places depend on.
-/
import LintReport.Proofs.Numerals
import LintReport.Proofs.Partition

namespace LintReport

/-! ### Stretches of a list -/

theorem extract_append_append {α : Type} {as bs cs : List α} {i j : Nat} (hi : as.length = i)
    (hj : i + bs.length = j) : (as ++ (bs ++ cs)).extract i j = bs := by
  have hlength : bs.length = j - i := by omega
  rw [List.extract_eq_take_drop, List.drop_left' hi, List.take_left' hlength]

theorem getElem?_append_cons {α : Type} {as cs : List α} {c : α} {i : Nat} (hi : as.length = i) :
    (as ++ c :: cs)[i]? = some c := by
  subst hi
  simp

/-- Before the first blank of a padded text stands the text, if it has no blank itself. -/
theorem takeWhile_append_blanks {cs : List Char} (h : ' ' ∉ cs) (n : Nat) :
    (cs ++ List.replicate n ' ').takeWhile (fun c => c != ' ') = cs := by
  have hall : ∀ c ∈ cs, (c != ' ') = true := by
    intro c hc
    rw [bne_iff_ne]
    rintro rfl
    exact h hc
  rw [List.takeWhile_append_of_pos hall]
  cases n with
  | zero => simp
  | succ n => simp [List.replicate_succ]

namespace Text

theorem length_padEnd (width : Nat) (s : String) :
    (padEnd width s).length = max width s.length := by
  rw [padEnd, String.length_append, String.length_ofList, List.length_replicate]
  omega

theorem toList_padEnd (width : Nat) (s : String) :
    (padEnd width s).toList = s.toList ++ List.replicate (width - s.length) ' ' := by
  rw [padEnd, String.toList_append, String.toList_ofList]

end Text

theorem Span.blank_not_mem_position (s : Span) : ' ' ∉ s.position.toList := by
  -- a number has digits and perhaps a minus sign, and a colon stands between the two
  have hnumber : ∀ n : Int, ' ' ∉ (toString n).toList := by
    intro n hmem
    rcases Text.Numeral.isDigit_or_minus_of_mem_toString hmem with hdigit | hminus
    · revert hdigit
      decide
    · revert hminus
      decide
  have hform : s.position = toString s.start.line ++ ":" ++ toString s.start.column := rfl
  rw [hform, String.toList_append, String.toList_append, List.mem_append, List.mem_append]
  rintro ((hline | hcolon) | hcolumn)
  · exact hnumber _ hline
  · revert hcolon
    decide
  · exact hnumber _ hcolumn

namespace Stylish

variable {positionWidth ruleWidth : Nat} {r : Resolved} {row : List Char}

/-! ### One line -/

/-- The characters of a line without colors, part by part. -/
theorem toList_line (positionWidth ruleWidth : Nat) (r : Resolved) :
    (line ⟨false⟩ positionWidth ruleWidth r).toList
      = [' ', ' '] ++ ((Text.padEnd (positionWidth + 2) r.primary.position).toList
        ++ ' ' :: ((Text.padEnd ruleWidth r.message.rule).toList
          ++ ' ' :: r.message.text.toList)) := by
  show ("  " ++ Text.padEnd (positionWidth + 2) r.primary.position ++ " "
    ++ Text.padEnd ruleWidth r.message.rule ++ " " ++ r.message.text).toList = _
  simp only [String.toList_append, List.append_assoc]
  rfl

/-- A line in columns: two blanks, the position with at least two blanks behind it, a blank, the
rule with as many blanks as its column needs, a blank, and the text as it is. -/
structure IsRow (positionWidth ruleWidth : Nat) (r : Resolved) (row : List Char) : Prop where
  margin : row.extract 0 2 = [' ', ' ']
  position_fits : r.primary.position.length ≤ positionWidth
  position : row.extract 2 (positionWidth + 4) = r.primary.position.toList
    ++ List.replicate (positionWidth - r.primary.position.length + 2) ' '
  position_end : row[positionWidth + 4]? = some ' '
  rule_fits : r.message.rule.length ≤ ruleWidth
  rule : row.extract (positionWidth + 5) (positionWidth + 5 + ruleWidth)
    = r.message.rule.toList ++ List.replicate (ruleWidth - r.message.rule.length) ' '
  rule_end : row[positionWidth + 5 + ruleWidth]? = some ' '
  text : row.drop (positionWidth + ruleWidth + 6) = r.message.text.toList

/-- What stands where in a line with two columns, which are full. -/
theorem columns_of_full {p q t : List Char} (hp : p.length = positionWidth + 2)
    (hq : q.length = ruleWidth) (hrow : row = [' ', ' '] ++ (p ++ ' ' :: (q ++ ' ' :: t))) :
    row.extract 2 (positionWidth + 4) = p ∧
      row[positionWidth + 4]? = some ' ' ∧
      row.extract (positionWidth + 5) (positionWidth + 5 + ruleWidth) = q ∧
      row[positionWidth + 5 + ruleWidth]? = some ' ' ∧
      row.drop (positionWidth + ruleWidth + 6) = t := by
  subst hrow
  have hmargin : ([' ', ' '] : List Char).length = 2 := rfl
  -- the line again, cut behind the first column and behind the second one
  have hfirst : [' ', ' '] ++ (p ++ ' ' :: (q ++ ' ' :: t))
      = ([' ', ' '] ++ p) ++ ' ' :: (q ++ ' ' :: t) := (List.append_assoc _ _ _).symm
  have hsecond : [' ', ' '] ++ (p ++ ' ' :: (q ++ ' ' :: t))
      = ([' ', ' '] ++ p ++ [' '] ++ q) ++ ' ' :: t := by simp
  have hblank : [' ', ' '] ++ (p ++ ' ' :: (q ++ ' ' :: t))
      = ([' ', ' '] ++ p ++ [' ']) ++ (q ++ ' ' :: t) := by simp
  have hend : [' ', ' '] ++ (p ++ ' ' :: (q ++ ' ' :: t))
      = ([' ', ' '] ++ p ++ [' '] ++ q ++ [' ']) ++ t := by simp
  refine ⟨extract_append_append hmargin (by omega), ?_, ?_, ?_, ?_⟩
  · rw [hfirst]
    exact getElem?_append_cons (by simp [hp])
  · rw [hblank]
    exact extract_append_append (by simp [hp]) (by rw [hq])
  · rw [hsecond]
    exact getElem?_append_cons (by simp [hp, hq]; omega)
  · rw [hend]
    exact List.drop_left' (by simp [hp, hq]; omega)

/-- A line is in columns that its position and its rule fit into. -/
theorem isRow_line (hposition : r.primary.position.length ≤ positionWidth)
    (hrule : r.message.rule.length ≤ ruleWidth) :
    IsRow positionWidth ruleWidth r (line ⟨false⟩ positionWidth ruleWidth r).toList := by
  have hrow := toList_line positionWidth ruleWidth r
  have hp : (Text.padEnd (positionWidth + 2) r.primary.position).toList.length
      = positionWidth + 2 := by
    rw [String.length_toList, Text.length_padEnd]
    omega
  have hq : (Text.padEnd ruleWidth r.message.rule).toList.length = ruleWidth := by
    rw [String.length_toList, Text.length_padEnd]
    omega
  obtain ⟨hposition', hposition_end, hrule', hrule_end, htext⟩ := columns_of_full hp hq hrow
  -- the position fits, so both blanks of the margin behind it stay
  have hblanks : positionWidth + 2 - r.primary.position.length
      = positionWidth - r.primary.position.length + 2 := by omega
  rw [Text.toList_padEnd, hblanks] at hposition'
  rw [Text.toList_padEnd] at hrule'
  refine ⟨?_, hposition, hposition', hposition_end, hrule, hrule', hrule_end, htext⟩
  rw [hrow]
  rfl

/-- The position is what stands before the first blank of its column. -/
theorem IsRow.position_read (h : IsRow positionWidth ruleWidth r row) :
    (row.extract 2 (positionWidth + 4)).takeWhile (fun c => c != ' ')
      = r.primary.position.toList := by
  rw [h.position]
  exact takeWhile_append_blanks r.primary.blank_not_mem_position _

/-- So is the rule, if its name has no blank. -/
theorem IsRow.rule_read (h : IsRow positionWidth ruleWidth r row)
    (hblank : ' ' ∉ r.message.rule.toList) :
    (row.extract (positionWidth + 5) (positionWidth + 5 + ruleWidth)).takeWhile (fun c => c != ' ')
      = r.message.rule.toList := by
  rw [h.rule]
  exact takeWhile_append_blanks hblank _

/-! ### The lines of a group -/

/-- Behind the path of a group come the lines of its messages. -/
theorem getElem?_groupLines {palette : Palette} {view : Viewpoint} {g : FileGroup} {i : Nat}
    (h : g.messages[i]? = some r) :
    (groupLines palette view g)[i + 1]? = some (line palette g.positionWidth g.ruleWidth r) := by
  have hline : (g.messages.map (line palette g.positionWidth g.ruleWidth))[i]?
      = some (line palette g.positionWidth g.ruleWidth r) := by
    rw [List.getElem?_map, h]
    rfl
  obtain ⟨hi, -⟩ := List.getElem?_eq_some_iff.mp hline
  rw [groupLines, List.cons_append, List.getElem?_cons_succ, List.getElem?_append_left hi, hline]

/-- **The lines of a group are in columns**, which are at the same places in all of them, whatever
the positions, the rules and the texts: two blanks, the position with at least two blanks behind
it, a blank, the rule, a blank, and the text as it is.  So a position can be read off a line, and
a rule without blanks in its name as well. -/
theorem group_columns {ε : Type} {refuse : Text.Numeral.Error → ε}
    {resolve : Location → Attempt ε Span} {msgs : List Message} {gs : List FileGroup}
    {g : FileGroup} (view : Viewpoint)
    (hgs : (groupByFile refuse resolve msgs).outcome = .ok gs) (hg : g ∈ gs) :
    ∃ chunks : List String, (group ⟨false⟩ view g).outcome = .ok chunks ∧
      chunks.length = g.messages.length + 2 ∧
      ∀ (i : Nat) (r : Resolved), g.messages[i]? = some r →
        ∃ chunk : String, chunks[i + 1]? = some chunk ∧
          IsRow g.positionWidth g.ruleWidth r chunk.toList ∧
          (chunk.toList.extract 2 (g.positionWidth + 4)).takeWhile (fun c => c != ' ')
            = r.primary.position.toList ∧
          (' ' ∉ r.message.rule.toList →
            (chunk.toList.extract (g.positionWidth + 5)
                (g.positionWidth + 5 + g.ruleWidth)).takeWhile (fun c => c != ' ')
              = r.message.rule.toList) := by
  have hpartition := isPartition_of_groupByFile hgs
  have hchunks : (group ⟨false⟩ view g).outcome = .ok (groupLines ⟨false⟩ view g) :=
    outcome_group fun r hr => hpartition.isWritable hg hr
  refine ⟨groupLines ⟨false⟩ view g, hchunks, ?_, fun i r hr => ?_⟩
  · rw [groupLines]
    simp
  · have hmem : r ∈ g.messages := List.mem_of_getElem? hr
    -- the widths bound all that is in the group, whatever was added behind it
    have hposition := hpartition.position_le hg hmem (s := r.primary) List.mem_cons_self
    have hrow := isRow_line hposition (hpartition.rule_le hg hmem)
    exact ⟨_, getElem?_groupLines hr, hrow, hrow.position_read, hrow.rule_read⟩

/-- Two messages of a file: the second position makes the first column wide, the first rule the
second one, and the last text begins with a blank. -/
theorem group_columns_two_lines :
    let place := fun (line column : Int) => (⟨⟨"/b", none⟩, ⟨line, column⟩, none, none⟩ : Span)
    let message := fun (rule text : String) (primary : Span) =>
      (⟨.warning, text, rule, .span primary, none, [], false, none⟩ : Message)
    let msgs := [message "long-rule" "m" (place 7 1), message "r" " m  m" (place (-12) 30)]
    let resolve : Location → Attempt Unit Span := fun
      | .span s => pure s
      | .pointer _ _ _ => throw ()
    ∃ gs g r,
      (groupByFile (fun _ => ()) resolve msgs).outcome = .ok gs ∧ g ∈ gs ∧
        g.messages[1]? = some r ∧
        (group ⟨false⟩ ⟨"/", "/"⟩ g).outcome
          = .ok ["b:", "  7:1      long-rule m", "  -12:30   r          m  m", ""] ∧
        IsRow 6 9 r "  -12:30   r          m  m".toList := by
  intro place message msgs resolve
  let far : Resolved := ⟨message "r" " m  m" (place (-12) 30), place (-12) 30, none⟩
  let g : FileGroup := ⟨"/b", [⟨message "long-rule" "m" (place 7 1), place 7 1, none⟩, far], 9, 6⟩
  have hgs : (groupByFile (fun _ => ()) resolve msgs).outcome = .ok [g] := by decide +kernel
  have hlines : (group ⟨false⟩ ⟨"/", "/"⟩ g).outcome
      = .ok ["b:", "  7:1      long-rule m", "  -12:30   r          m  m", ""] := by
    decide +kernel
  obtain ⟨chunks, hchunks, -, hrows⟩ :=
    group_columns ⟨"/", "/"⟩ hgs (List.mem_singleton_self g)
  obtain rfl := Except.ok.inj (hlines.symm.trans hchunks)
  obtain ⟨chunk, hchunk, hrow, -⟩ := hrows 1 far rfl
  obtain rfl := Option.some.inj hchunk
  exact ⟨[g], g, far, hgs, List.mem_singleton_self g, rfl, hlines, hrow⟩

end Stylish

end LintReport
