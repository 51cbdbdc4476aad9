/-
The summary and the listing count the same messages.

* `Tally.ofMessages_eq` — the counts of the summary are the lengths of what the listing is made of;
* `Selection.visible_eq_append` — a cap keeps errors, and then warnings while there is room;
* `Selection.length_filter_not_mem_shownAt` — what a cap does not show, place by place;
* `Selection.tally_agrees` — counts, visible messages and notice fit together under every cap.

Design notes: the summary counts in a single fold, and the listing by filtering, sorting and
cutting.  Both are compared with the messages of one severity that are not ignored.
-/
import LintReport.Proofs.Independence
import LintReport.Proofs.Precedence

namespace LintReport

open Selection (ofSeverity)

/-! ### The counts of the summary -/

theorem Tally.add_eq (t : Tally) (m : Message) :
    t.add m = ⟨t.errors + (ofSeverity .error [m]).length,
      t.warnings + (ofSeverity .warning [m]).length,
      t.ignored + ([m].filter (·.ignored)).length⟩ := by
  cases hignored : m.ignored with
  | true => simp [add, ofSeverity, hignored]
  | false =>
    cases hseverity : m.severity with
    | error => simp [add, ofSeverity, hignored, hseverity]
    | warning => simp [add, ofSeverity, hignored, hseverity]

/-- The counts are the lengths of the errors, of the warnings, and of the ignored messages. -/
theorem Tally.ofMessages_eq (ms : List Message) :
    ofMessages ms = ⟨(ofSeverity .error ms).length, (ofSeverity .warning ms).length,
      (ms.filter (·.ignored)).length⟩ := by
  -- the fold starts from the counts of the messages before, so these are general
  have hfold : ∀ t : Tally, ms.foldl add t
      = ⟨t.errors + (ofSeverity .error ms).length, t.warnings + (ofSeverity .warning ms).length,
          t.ignored + (ms.filter (·.ignored)).length⟩ := by
    induction ms with
    | nil => intro t; simp [ofSeverity]
    | cons m ms ih =>
      intro t
      have hcons : ∀ s, (ofSeverity s (m :: ms)).length
          = (ofSeverity s [m]).length + (ofSeverity s ms).length := by
        intro s
        rw [← List.singleton_append, Selection.ofSeverity_append, List.length_append]
      have hignored : ((m :: ms).filter (·.ignored)).length
          = ([m].filter (·.ignored)).length + (ms.filter (·.ignored)).length := by
        rw [← List.singleton_append, List.filter_append, List.length_append]
      rw [List.foldl_cons, ih, add_eq, hcons, hcons, hignored]
      simp only [Int.natCast_add, Int.add_assoc]
  rw [ofMessages, hfold]
  simp

theorem Tally.total_ofMessages (ms : List Message) : (ofMessages ms).total = ms.length := by
  have hlength := Selection.length_ranked ms
  rw [Selection.ranked_eq, List.length_append] at hlength
  rw [total, ofMessages_eq]
  dsimp only
  omega

namespace Selection

variable {ms : List Message} {cap : Int}

theorem length_ranked_eq (ms : List Message) :
    ((ranked ms).length : Int) = (Tally.ofMessages ms).errors + (Tally.ofMessages ms).warnings := by
  rw [ranked_eq, Tally.ofMessages_eq, List.length_append, Int.natCast_add]

/-! ### What is visible -/

/-- Errors come first, and warnings have the room that they leave. -/
theorem visible_eq_append (hcap : 0 ≤ cap) :
    ∃ errors warnings, (ofMessages ms cap).visible = errors ++ warnings ∧
      (∀ m ∈ errors, m.severity = .error) ∧
      (errors.length : Int) = min (Tally.ofMessages ms).errors cap ∧
      (∀ m ∈ warnings, m.severity = .warning) ∧
      (warnings.length : Int)
        = min (Tally.ofMessages ms).warnings (cap - min (Tally.ofMessages ms).errors cap) := by
  have hvisible : (ofMessages ms cap).visible = (ofSeverity .error ms).take cap.toNat
      ++ (ofSeverity .warning ms).take (cap.toNat - (ofSeverity .error ms).length) := by
    show takeUpTo cap (ranked ms) = _
    rw [takeUpTo_of_nonneg hcap, ranked_eq, List.take_append]
  rw [Tally.ofMessages_eq]
  dsimp only
  refine ⟨_, _, hvisible, fun m hm => ?_, ?_, fun m hm => ?_, ?_⟩
  · exact (mem_ofSeverity.mp (List.mem_of_mem_take hm)).2.2
  · rw [List.length_take]
    omega
  · exact (mem_ofSeverity.mp (List.mem_of_mem_take hm)).2.2
  · rw [List.length_take]
    omega

/-- The visible messages have places of their own in the report, and the rest of it is hidden. -/
theorem exists_places (ms : List Message) (cap : Int) :
    ∃ places : List (Message × Nat),
      places.Nodup ∧ places ⊆ ms.zipIdx ∧ places.map Prod.fst = (ofMessages ms cap).visible ∧
      ((ms.zipIdx.filter fun e => e ∉ places).length : Int)
        = ms.length - (ofMessages ms cap).visible.length := by
  have hnodup : (shownAt ms cap).Nodup :=
    (nodup_occurrences ms).sublist (takeUpTo_sublist cap _)
  have hsub : shownAt ms cap ⊆ ms.zipIdx :=
    List.Subset.trans (takeUpTo_sublist cap _).subset (occurrences_subset ms)
  have hvisible : (shownAt ms cap).map Prod.fst = (ofMessages ms cap).visible :=
    map_fst_shownAt ms cap
  refine ⟨shownAt ms cap, hnodup, hsub, hvisible, ?_⟩
  -- the places that are shown are counted in the order of the report
  have hshown : (ms.zipIdx.filter fun e => e ∈ shownAt ms cap).Perm (shownAt ms cap) := by
    rw [List.perm_ext_iff_of_nodup ((nodup_zipIdx ms).filter _) hnodup]
    intro e
    rw [List.mem_filter, decide_eq_true_eq]
    exact ⟨And.right, fun he => ⟨hsub he, he⟩⟩
  have hsplit := List.length_eq_length_filter_add (l := ms.zipIdx) fun e => e ∈ shownAt ms cap
  rw [hshown.length_eq, List.length_zipIdx] at hsplit
  rw [← hvisible, List.length_map]
  simp only [decide_not]
  omega

/-! ### The notice -/

/-- There is no notice exactly if the cap leaves nothing out. -/
theorem truncationNotice_eq_none_iff {palette : Palette} {s : Selection} :
    truncationNotice palette s cap = .ok none ↔ s.shownBeforeCap ≤ cap := by
  rw [truncationNotice, isTruncated]
  by_cases htruncated : cap < s.shownBeforeCap
  · -- a number that cannot be written is a fault, which is no missing notice either
    rw [decide_eq_true htruncated]
    refine iff_of_false ?_ (Int.not_le.mpr htruncated)
    cases Text.Numeral.isWritable (s.hidden cap) with
    | false => simp
    | true => simp
  · rw [decide_eq_false htruncated]
    exact iff_of_true rfl (Int.not_lt.mp htruncated)

/-- **The summary and the listing agree.**  They tell of the same messages: as many in all, as many
ignored, and as many that are not.  Visible are the errors that the cap allows, and then the
warnings that it still allows.  There is a notice exactly if the summary tells of more errors and
warnings than the cap, and then the number in it is that of the reported messages that are not
visible, of which there is one at least.  The number is written out wherever the number of messages
is, which is so for any list of less than ten to the power of 4300. -/
theorem tally_agrees (ms : List Message) (hcap : 1 ≤ cap) :
    let t := Tally.ofMessages ms
    let s := ofMessages ms cap
    (t.total = s.total ∧ t.ignored = s.ignored ∧ t.errors + t.warnings = s.shownBeforeCap) ∧
    (∃ errors warnings, s.visible = errors ++ warnings ∧
      (∀ m ∈ errors, m.severity = .error) ∧ (errors.length : Int) = min t.errors cap ∧
      (∀ m ∈ warnings, m.severity = .warning) ∧
      (warnings.length : Int) = min t.warnings (cap - min t.errors cap)) ∧
    (∀ palette, truncationNotice palette s cap = .ok none ↔ t.errors + t.warnings ≤ cap) ∧
    (Text.Numeral.isWritable ms.length = true → ∀ palette, truncationNotice palette s cap
      = .ok (if cap < t.errors + t.warnings then some (noticeText palette (t.total - cap))
        else none)) ∧
    (cap < t.errors + t.warnings →
      1 ≤ t.total - cap ∧
      ∃ places : List (Message × Nat),
        places.Nodup ∧ places ⊆ ms.zipIdx ∧ places.map Prod.fst = s.visible ∧
        ((ms.zipIdx.filter fun e => e ∉ places).length : Int) = t.total - cap) := by
  intro t s
  have hcap' : 0 ≤ cap := Int.le_trans (by decide) hcap
  have htotal : t.total = ms.length := Tally.total_ofMessages ms
  have hranked : ((ranked ms).length : Int) = t.errors + t.warnings := length_ranked_eq ms
  have hshown : s.shownBeforeCap = (ranked ms).length := total_sub_ignored ms cap
  have hignored : t.ignored = s.ignored := by
    show (Tally.ofMessages ms).ignored = (ofMessages ms cap).ignored
    rw [Tally.ofMessages_eq, ofMessages_eq]
  refine ⟨⟨htotal, hignored, by omega⟩, visible_eq_append hcap', fun palette => ?_,
    fun hcount palette => ?_, fun hmore => ⟨?_, ?_⟩⟩
  · rw [truncationNotice_eq_none_iff, hshown, hranked]
  · rw [truncationNotice_eq, hiddenBy_ofMessages hcap' hcount, hranked, htotal]
    split
    · rfl
    · rfl
  · have hlength := length_ranked ms
    omega
  · -- a cap that leaves messages out is used up, so all but so many are hidden
    have hvisible : ((ofMessages ms cap).visible.length : Int) = cap := by
      rw [length_visible hcap', total_sub_ignored]
      omega
    obtain ⟨places, hnodup, hsub, hmap, hhidden⟩ := exists_places ms cap
    exact ⟨places, hnodup, hsub, hmap, by omega⟩

/-- Three messages that are not ignored under a cap of two: the notice counts the ignored one as
well. -/
theorem tally_agrees_of_three :
    let warning : Message := ⟨.warning, "w", "r", default, none, [], false, none⟩
    let error : Message := ⟨.error, "e", "r", default, none, [], false, none⟩
    let ms := [warning, { error with ignored := true }, error, warning]
    (1 : Int) ≤ 2 ∧ Tally.ofMessages ms = ⟨1, 2, 1⟩ ∧
      truncationNotice ⟨false⟩ (ofMessages ms 2) 2
        = .ok (some "< ... 2 more messages hidden > increase with `--max-messages N`") ∧
      ∃ places : List (Message × Nat), places.map Prod.fst = (ofMessages ms 2).visible ∧
        (ms.zipIdx.filter fun e => e ∉ places).length = 2 := by
  intro warning error ms
  have htally : Tally.ofMessages ms = ⟨1, 2, 1⟩ := rfl
  have hcount : Text.Numeral.isWritable ms.length = true := by decide +kernel
  obtain ⟨-, -, -, hnotice, hhidden⟩ := tally_agrees ms (show (1 : Int) ≤ 2 by decide)
  rw [htally] at hnotice hhidden
  obtain ⟨-, places, -, -, hvisible, hlength⟩ := hhidden (by decide)
  exact ⟨by decide, htally, hnotice hcount ⟨false⟩, places, hvisible, Int.ofNat_inj.mp hlength⟩

end Selection

end LintReport
