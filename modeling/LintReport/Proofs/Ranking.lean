/-
The selection is a stable ranking under a cap.

* `Selection.ranked_eq` — the ranking of messages is the errors that are not ignored in their
  order, and then the warnings that are not ignored in their order;
* `Selection.getElem?_takeUpTo` — which elements a cap keeps, for caps of either sign;
* `Selection.occurrences` — the ranked messages with the places at which they were reported;
* `Selection.ofMessages_ranked_slice` — what a selection holds, for every list and every cap.

Design notes: stability and permutation of the sort come from the library.  They suffice
because there are two ranks only: a sorted list is its part of rank one before its part of
rank two, and each part is a sublist of the sorted list that has the right length.
-/
import Mathlib.Data.List.Nodup
import LintReport.Rendering.Selection

namespace LintReport

namespace Selection

/-- The messages of a severity that are not ignored, in their order. -/
def ofSeverity (s : Severity) (ms : List Message) : List Message :=
  ms.filter fun m => !m.ignored && m.severity = s

/-- The order of the ranking. -/
def before (a b : Message) : Bool := a.severity.rank ≤ b.severity.rank

theorem before_trans (a b c : Message) (hab : before a b) (hbc : before b c) : before a c := by
  simp only [before, decide_eq_true_eq] at hab hbc ⊢
  exact Int.le_trans hab hbc

theorem before_total (a b : Message) : before a b || before b a := by
  simp only [before, Bool.or_eq_true, decide_eq_true_eq]
  exact Int.le_total _ _

theorem before_of_severity_eq {a b : Message} (h : a.severity = b.severity) : before a b := by
  simp only [before, decide_eq_true_eq, h]
  exact Int.le_refl _

theorem severity_of_before {a b : Message} (ha : a.severity = .warning) (h : before a b) :
    b.severity = .warning := by
  simp only [before, decide_eq_true_eq, ha] at h
  cases hb : b.severity with
  | error =>
    rw [hb] at h
    exact absurd h (by decide)
  | warning => rfl

/-! ### The ranking -/

/-- A sorted list is its errors before its warnings. -/
theorem eq_append_of_pairwise {ms : List Message} (h : ms.Pairwise fun a b => before a b) :
    ms = ms.filter (·.severity = .error) ++ ms.filter (·.severity = .warning) := by
  induction ms with
  | nil => rfl
  | cons m rest ih =>
    obtain ⟨hm, hrest⟩ := List.pairwise_cons.mp h
    cases hs : m.severity with
    | error =>
      have hw : (m :: rest).filter (·.severity = .warning)
          = rest.filter (·.severity = .warning) := by simp [hs]
      have he : (m :: rest).filter (·.severity = .error)
          = m :: rest.filter (·.severity = .error) := by simp [hs]
      rw [hw, he, List.cons_append, ← ih hrest]
    | warning =>
      -- behind a warning there are warnings only
      have hall : ∀ x ∈ rest, x.severity = .warning := fun x hx => severity_of_before hs (hm x hx)
      have he : (m :: rest).filter (·.severity = .error) = [] := by
        rw [List.filter_eq_nil_iff]
        intro x hx
        rcases List.mem_cons.mp hx with rfl | hx
        · simp [hs]
        · simp [hall x hx]
      have hw : (m :: rest).filter (·.severity = .warning) = m :: rest := by
        rw [List.filter_eq_self]
        intro x hx
        rcases List.mem_cons.mp hx with rfl | hx
        · simp [hs]
        · simp [hall x hx]
      rw [he, hw, List.nil_append]

/-- Sorting keeps the messages of one severity in their order. -/
theorem filter_mergeSort (s : Severity) (ms : List Message) :
    (ms.mergeSort before).filter (·.severity = s) = ms.filter (·.severity = s) := by
  have hpair : (ms.filter (·.severity = s)).Pairwise fun a b => before a b := by
    refine List.pairwise_of_forall_mem_list fun a ha b hb => ?_
    simp only [List.mem_filter, decide_eq_true_eq] at ha hb
    exact before_of_severity_eq (ha.2.trans hb.2.symm)
  have hsub : (ms.filter (·.severity = s)).Sublist (ms.mergeSort before) :=
    List.sublist_mergeSort before_trans before_total hpair List.filter_sublist
  have hsub' := hsub.filter (·.severity = s)
  rw [List.filter_filter] at hsub'
  simp only [Bool.and_self] at hsub'
  have hlen : (ms.filter (·.severity = s)).length
      = ((ms.mergeSort before).filter (·.severity = s)).length :=
    ((List.mergeSort_perm ms before).filter _).length_eq.symm
  exact (hsub'.eq_of_length hlen).symm

/-- The ranking of messages: those that are not ignored, errors first, each severity in its
order. -/
theorem ranked_eq (ms : List Message) :
    ranked ms = ofSeverity .error ms ++ ofSeverity .warning ms := by
  have hdef : ranked ms = (ms.filter fun m => !m.ignored).mergeSort before := rfl
  have hsorted : (ranked ms).Pairwise fun a b => before a b := by
    rw [hdef]
    exact List.pairwise_mergeSort before_trans before_total _
  have hpart : ∀ s : Severity, (ranked ms).filter (·.severity = s) = ofSeverity s ms := by
    intro s
    rw [hdef, filter_mergeSort, List.filter_filter]
    simp only [ofSeverity, Bool.and_comm]
  have h := eq_append_of_pairwise hsorted
  rwa [hpart .error, hpart .warning] at h

theorem mem_ofSeverity {s : Severity} {ms : List Message} {m : Message} :
    m ∈ ofSeverity s ms ↔ m ∈ ms ∧ m.ignored = false ∧ m.severity = s := by
  simp [ofSeverity]

/-- Every message is ignored or ranked. -/
theorem length_ranked (ms : List Message) :
    (ranked ms).length + (ms.filter (·.ignored)).length = ms.length := by
  have hdef : ranked ms = (ms.filter fun m => !m.ignored).mergeSort before := rfl
  rw [hdef, (List.mergeSort_perm _ _).length_eq, Nat.add_comm]
  exact (List.length_eq_length_filter_add _).symm

theorem mem_ranked {ms : List Message} {m : Message} :
    m ∈ ranked ms ↔ m ∈ ms ∧ m.ignored = false := by
  have hdef : ranked ms = (ms.filter fun m => !m.ignored).mergeSort before := rfl
  rw [hdef, (List.mergeSort_perm _ _).mem_iff, List.mem_filter]
  simp

/-! ### The cap -/

/-- The index before which a cap keeps the elements of a list; a negative cap counts from the
end. -/
def sliceEnd (cap : Int) (length : Nat) : Int := if cap < 0 then length + cap else cap

/-- A cap keeps the elements before the end of its slice, each at its place. -/
theorem getElem?_takeUpTo {α : Type} (cap : Int) (xs : List α) (i : Nat) :
    (takeUpTo cap xs)[i]? = if (i : Int) < sliceEnd cap xs.length then xs[i]? else none := by
  unfold takeUpTo
  by_cases hcap : 0 ≤ cap
  · have hend : sliceEnd cap xs.length = cap := if_neg (by omega)
    rw [if_pos hcap, hend, List.getElem?_take]
    by_cases hi : (i : Int) < cap
    · rw [if_pos hi, if_pos (by omega)]
    · rw [if_neg hi, if_neg (by omega)]
  · have hend : sliceEnd cap xs.length = xs.length + cap := if_pos (by omega)
    rw [if_neg hcap, hend, List.getElem?_take]
    by_cases hi : (i : Int) < xs.length + cap
    · rw [if_pos hi, if_pos (by omega)]
    · rw [if_neg hi, if_neg (by omega)]

theorem takeUpTo_of_nonneg {α : Type} {cap : Int} (h : 0 ≤ cap) (xs : List α) :
    takeUpTo cap xs = xs.take cap.toNat := if_pos h

theorem takeUpTo_sublist {α : Type} (cap : Int) (xs : List α) : (takeUpTo cap xs).Sublist xs := by
  unfold takeUpTo
  split
  · exact List.take_sublist _ _
  · exact List.take_sublist _ _

theorem map_takeUpTo {α β : Type} (f : α → β) (cap : Int) (xs : List α) :
    (takeUpTo cap xs).map f = takeUpTo cap (xs.map f) := by
  unfold takeUpTo
  rw [List.length_map]
  split
  · exact List.map_take
  · exact List.map_take

theorem mem_visible {ms : List Message} {cap : Int} {m : Message}
    (h : m ∈ (ofMessages ms cap).visible) : m ∈ ms ∧ m.ignored = false :=
  mem_ranked.mp ((takeUpTo_sublist cap (ranked ms)).mem h)

/-- A selection without sorting. -/
theorem ofMessages_eq (ms : List Message) (cap : Int) :
    ofMessages ms cap = ⟨takeUpTo cap (ofSeverity .error ms ++ ofSeverity .warning ms), ms.length,
      (ms.filter (·.ignored)).length⟩ := by
  have hlen := length_ranked ms
  rw [ranked_eq] at hlen
  simp only [ofMessages, ranked_eq, Selection.mk.injEq, true_and]
  omega

theorem total_sub_ignored (ms : List Message) (cap : Int) :
    (ofMessages ms cap).total - (ofMessages ms cap).ignored = (ranked ms).length := by
  simp only [ofMessages]
  omega

theorem length_visible {ms : List Message} {cap : Int} (h : 0 ≤ cap) :
    ((ofMessages ms cap).visible.length : Int)
      = min cap ((ofMessages ms cap).total - (ofMessages ms cap).ignored) := by
  rw [total_sub_ignored]
  simp only [ofMessages, takeUpTo_of_nonneg h, List.length_take]
  omega

/-! ### Occurrences -/

/-- The ranked messages, each with the place at which it was reported. -/
def occurrences (ms : List Message) : List (Message × Nat) :=
  (ms.zipIdx.filter fun e => !e.1.ignored && e.1.severity = .error)
    ++ ms.zipIdx.filter fun e => !e.1.ignored && e.1.severity = .warning

theorem map_fst_occurrences (ms : List Message) : (occurrences ms).map (·.1) = ranked ms := by
  have hpart : ∀ s : Severity,
      (ms.zipIdx.filter fun e => !e.1.ignored && e.1.severity = s).map (·.1)
        = ofSeverity s ms := by
    intro s
    have hmap : ms = ms.zipIdx.map (·.1) := (List.zipIdx_map_fst 0 ms).symm
    conv_rhs => rw [ofSeverity, hmap, List.filter_map]
    rfl
  rw [occurrences, List.map_append, hpart .error, hpart .warning, ranked_eq]

theorem nodup_zipIdx (ms : List Message) : ms.zipIdx.Nodup := by
  refine .of_map (·.2) ?_
  rw [List.zipIdx_map_snd]
  exact List.nodup_range'

/-- No place is ranked twice, even where equal messages were reported. -/
theorem nodup_occurrences (ms : List Message) : (occurrences ms).Nodup := by
  rw [occurrences, List.nodup_append]
  refine ⟨(nodup_zipIdx ms).filter _, (nodup_zipIdx ms).filter _, ?_⟩
  rintro a ha b hb rfl
  simp only [List.mem_filter, Bool.and_eq_true, decide_eq_true_eq] at ha hb
  have hsev : Severity.error = .warning := ha.2.2.symm.trans hb.2.2
  exact absurd hsev (by decide)

theorem occurrences_subset (ms : List Message) : occurrences ms ⊆ ms.zipIdx := by
  rw [occurrences, List.append_subset]
  exact ⟨List.filter_sublist.subset, List.filter_sublist.subset⟩

/-- Under a cap that is not negative, no warning is visible while an error is cut off. -/
theorem errors_prefix_of_warning_visible {ms : List Message} {cap : Int} (hcap : 0 ≤ cap)
    (h : ∃ m ∈ (ofMessages ms cap).visible, m.severity = .warning) :
    (ofSeverity .error ms).IsPrefix (ofMessages ms cap).visible := by
  obtain ⟨m, hm, hsev⟩ := h
  have hvis : (ofMessages ms cap).visible
      = (ofSeverity .error ms ++ ofSeverity .warning ms).take cap.toNat := by
    rw [← ranked_eq]
    exact takeUpTo_of_nonneg hcap _
  rw [hvis] at hm ⊢
  by_cases hlen : (ofSeverity .error ms).length ≤ cap.toNat
  · rw [List.take_append, List.take_of_length_le hlen]
    exact List.prefix_append _ _
  · -- a shorter cap keeps errors only
    rw [List.take_append_of_le_length (by omega)] at hm
    have herr := (mem_ofSeverity.mp (List.mem_of_mem_take hm)).2.2
    rw [hsev] at herr
    exact absurd herr (by decide)

/-- **A selection is a slice of the stable ranking.**  The visible messages are, for a cap of
either sign, the slice up to the cap of the errors that are not ignored followed by the
warnings that are not ignored, each in the order of the report, and the counts are those of the
report.  A cap that is not negative shows as many messages as it allows, none of them ignored,
none that was reported at one place twice, and no warning in the place of an error. -/
theorem ofMessages_ranked_slice (ms : List Message) (cap : Int) :
    let s := ofMessages ms cap
    let ranking := ofSeverity .error ms ++ ofSeverity .warning ms
    (∀ i : Nat, s.visible[i]?
        = if (i : Int) < sliceEnd cap ranking.length then ranking[i]? else none) ∧
      s.total = ms.length ∧
      s.ignored = (ms.filter (·.ignored)).length ∧
      (0 ≤ cap →
        (s.visible.length : Int) = min cap (s.total - s.ignored) ∧
        (∀ m ∈ s.visible, m.ignored = false) ∧
        (∃ places : List (Message × Nat),
          places.Nodup ∧ places ⊆ ms.zipIdx ∧ places.map (·.1) = s.visible) ∧
        ((∃ m ∈ s.visible, m.severity = .warning) →
          (ofSeverity .error ms).IsPrefix s.visible)) := by
  intro s ranking
  have hranking : ranking = ranked ms := (ranked_eq ms).symm
  refine ⟨fun i => ?_, rfl, ?_, fun hcap => ⟨length_visible hcap, ?_, ?_, ?_⟩⟩
  · rw [hranking]
    exact getElem?_takeUpTo cap (ranked ms) i
  · have hlen := length_ranked ms
    show (ms.length : Int) - (ranked ms).length = _
    omega
  · exact fun m hm => (mem_visible hm).2
  · refine ⟨takeUpTo cap (occurrences ms), ?_, ?_, ?_⟩
    · exact (nodup_occurrences ms).sublist (takeUpTo_sublist _ _)
    · exact List.Subset.trans (takeUpTo_sublist _ _).subset (occurrences_subset ms)
    · rw [map_takeUpTo, map_fst_occurrences]
      rfl
  · exact errors_prefix_of_warning_visible hcap

/-- Two warnings around an ignored error and an error, under a cap of two. -/
theorem ofMessages_ranked_slice_two :
    let warning : Message := ⟨.warning, "w", "r", default, none, [], false, none⟩
    let error : Message := ⟨.error, "e", "r", default, none, [], false, none⟩
    let s := ofMessages [warning, { error with ignored := true }, error, warning] 2
    (0 : Int) ≤ 2 ∧ s.visible = [error, warning] ∧
      (∃ m ∈ s.visible, m.severity = .warning) ∧ [error].IsPrefix s.visible := by
  intro warning error s
  have hvis : s.visible = [error, warning] := by
    show takeUpTo 2 (ranked _) = _
    rw [ranked_eq]
    rfl
  have hwarn : ∃ m ∈ s.visible, m.severity = .warning := by
    rw [hvis]
    exact ⟨warning, by simp, rfl⟩
  have h := ofMessages_ranked_slice [warning, { error with ignored := true }, error, warning] 2
  exact ⟨by decide, hvis, hwarn, (h.2.2.2 (by decide)).2.2.2 hwarn⟩

end Selection

end LintReport
