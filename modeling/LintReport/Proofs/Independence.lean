/-
A rendering depends on the ranking of its messages only.

* `noticeOf` — the notice at the end of a rendering, if a cap leaves messages out;
* `outcome_renderMessages_eq` — a rendering is what its ranked messages show, and the notice;
* `RendersAlike` — two lists of messages are rendered alike but for the number in the notice;
* `renderMessages_only_ranking` — lists whose errors that are not ignored are the same, and whose
  warnings that are not ignored are the same, are rendered alike.

Design notes: the number that a notice tells counts ignored messages as well, so it may differ
between two such lists.  It is written in decimal digits, of which there is a greatest number; the
lists are taken to be short enough for their lengths to be written.
-/
import LintReport.Proofs.Faults

namespace LintReport

open Outcome

/-- The notice at the end of a rendering, if the cap leaves out messages that are not ignored. -/
def noticeOf (palette : Palette) (cap : Int) (ms : List Message) : List String :=
  if cap < (Selection.ranked ms).length then [noticeText palette (ms.length - cap)] else []

/-- Whether a cap leaves messages out depends on the ranked ones. -/
theorem Selection.isTruncated_ofMessages (ms : List Message) (cap : Int) :
    (ofMessages ms cap).isTruncated cap = decide (cap < ((ranked ms).length : Int)) := by
  rw [isTruncated, shownBeforeCap, total_sub_ignored]

/-- The notice of a list that is not too long to be counted. -/
theorem hiddenBy_ofMessages {ms : List Message} {cap : Int} (hcap : 0 ≤ cap)
    (hcount : Text.Numeral.isWritable ms.length = true) :
    hiddenBy (Selection.ofMessages ms cap) cap
      = .ok (if cap < (Selection.ranked ms).length then some ((ms.length : Int) - cap)
        else none) := by
  rw [hiddenBy]
  by_cases htruncated : cap < ((Selection.ranked ms).length : Int)
  · have hflag : (Selection.ofMessages ms cap).isTruncated cap = true := by
      rw [Selection.isTruncated_ofMessages, decide_eq_true htruncated]
    obtain ⟨n, hn, hhidden⟩ := Selection.exists_hidden_eq hcap hflag
    have hwritable := Text.Numeral.isWritable_of_le hn hcount
    have hnumber : (n : Int) = (ms.length : Int) - cap := hhidden.symm
    rw [hflag, hhidden, hwritable, if_pos htruncated, ← hnumber]
    rfl
  · have hflag : (Selection.ofMessages ms cap).isTruncated cap = false := by
      rw [Selection.isTruncated_ofMessages, decide_eq_false htruncated]
    rw [hflag, if_neg htruncated]
    rfl

section

variable (docs : Documents) (env : Environment) (here : String) (o : RenderOptions)
  (palette : Option Palette)

/-- A rendering is what the ranked messages show under the cap, and then the notice. -/
theorem outcome_renderMessages_eq {ms : List Message} (hcap : 0 ≤ o.maxMessages)
    (hcount : Text.Numeral.isWritable ms.length = true) :
    (renderMessages docs env here o palette ms).outcome
      = (fun shown => shown.chunks (o.paletteOr env palette) ⟨here, o.directory⟩
          ++ noticeOf (o.paletteOr env palette) o.maxMessages ms)
        <$> Shown.ofMessages docs o.layout (takeUpTo o.maxMessages (Selection.ranked ms)) := by
  have hvisible : (Selection.ofMessages ms o.maxMessages).visible
      = takeUpTo o.maxMessages (Selection.ranked ms) := rfl
  rw [outcome_renderMessages_of_nonneg hcap, shownUnder, hiddenBy_ofMessages hcap hcount, hvisible]
  cases Shown.ofMessages docs o.layout (takeUpTo o.maxMessages (Selection.ranked ms)) with
  | error e => rfl
  | ok shown =>
    rw [noticeOf]
    by_cases htruncated : o.maxMessages < ((Selection.ranked ms).length : Int)
    · rw [if_pos htruncated, if_pos htruncated]
      rfl
    · rw [if_neg htruncated, if_neg htruncated]
      rfl

/-- Two lists of messages are rendered alike: both renderings fail for one reason, or both give
the same chunks but for the number that a notice tells, which both have or neither has.  If the
lists have the same length, the renderings are equal. -/
structure RendersAlike (ms₁ ms₂ : List Message) : Prop where
  eq_of_length : ms₁.length = ms₂.length →
    (renderMessages docs env here o palette ms₁).outcome
      = (renderMessages docs env here o palette ms₂).outcome
  notice_iff : noticeOf (o.paletteOr env palette) o.maxMessages ms₁ = []
    ↔ noticeOf (o.paletteOr env palette) o.maxMessages ms₂ = []
  alike : Text.Numeral.isWritable ms₁.length = true → Text.Numeral.isWritable ms₂.length = true →
    (∃ e, (renderMessages docs env here o palette ms₁).outcome = .error e ∧
      (renderMessages docs env here o palette ms₂).outcome = .error e) ∨
    ∃ chunks,
      (renderMessages docs env here o palette ms₁).outcome
        = .ok (chunks ++ noticeOf (o.paletteOr env palette) o.maxMessages ms₁) ∧
      (renderMessages docs env here o palette ms₂).outcome
        = .ok (chunks ++ noticeOf (o.paletteOr env palette) o.maxMessages ms₂)

variable {docs env here o palette}

/-- Lists with one ranking are rendered alike. -/
theorem RendersAlike.of_ranked_eq {ms₁ ms₂ : List Message} (hcap : 0 ≤ o.maxMessages)
    (h : Selection.ranked ms₁ = Selection.ranked ms₂) :
    RendersAlike docs env here o palette ms₁ ms₂ where
  eq_of_length hlength := by
    have hselection : Selection.ofMessages ms₁ o.maxMessages
        = Selection.ofMessages ms₂ o.maxMessages := by
      simp only [Selection.ofMessages, h, hlength]
    rw [outcome_renderMessages_of_nonneg hcap, outcome_renderMessages_of_nonneg hcap, shownUnder,
      shownUnder, hselection]
  notice_iff := by
    rw [noticeOf, noticeOf, h]
    by_cases htruncated : o.maxMessages < ((Selection.ranked ms₂).length : Int)
    · rw [if_pos htruncated, if_pos htruncated]
      exact iff_of_false (List.cons_ne_nil _ _) (List.cons_ne_nil _ _)
    · rw [if_neg htruncated, if_neg htruncated]
  alike hcount₁ hcount₂ := by
    rw [outcome_renderMessages_eq docs env here o palette hcap hcount₁,
      outcome_renderMessages_eq docs env here o palette hcap hcount₂, h]
    cases Shown.ofMessages docs o.layout (takeUpTo o.maxMessages (Selection.ranked ms₂)) with
    | error e => exact .inl ⟨e, rfl, rfl⟩
    | ok shown => exact .inr ⟨_, rfl, rfl⟩

end

/-! ### Lists with one ranking -/

namespace Selection

theorem ranked_eq_of_ofSeverity {ms₁ ms₂ : List Message}
    (herrors : ofSeverity .error ms₁ = ofSeverity .error ms₂)
    (hwarnings : ofSeverity .warning ms₁ = ofSeverity .warning ms₂) : ranked ms₁ = ranked ms₂ := by
  rw [ranked_eq, ranked_eq, herrors, hwarnings]

theorem ofSeverity_append (s : Severity) (ms₁ ms₂ : List Message) :
    ofSeverity s (ms₁ ++ ms₂) = ofSeverity s ms₁ ++ ofSeverity s ms₂ := List.filter_append _ _

/-- An ignored message has no place in the ranking. -/
theorem ranked_insert_ignored (before after : List Message) {m : Message}
    (h : m.ignored = true) : ranked (before ++ after) = ranked (before ++ m :: after) := by
  have hskip : ∀ s, ofSeverity s (m :: after) = ofSeverity s after := fun s =>
    List.filter_cons_of_neg (by simp [h])
  refine ranked_eq_of_ofSeverity ?_ ?_
  · rw [ofSeverity_append, ofSeverity_append, hskip]
  · rw [ofSeverity_append, ofSeverity_append, hskip]

/-- An error and a warning next to each other may change places. -/
theorem ranked_swap (before after : List Message) {e w : Message} (he : e.severity = .error)
    (hw : w.severity = .warning) :
    ranked (before ++ e :: w :: after) = ranked (before ++ w :: e :: after) := by
  have hsplit : ∀ (s : Severity) (a b : Message), ofSeverity s (a :: b :: after)
      = ofSeverity s [a] ++ (ofSeverity s [b] ++ ofSeverity s after) := by
    intro s a b
    rw [← ofSeverity_append, ← ofSeverity_append]
    rfl
  have hnone : ∀ {s : Severity} {m : Message}, m.severity ≠ s → ofSeverity s [m] = [] := fun hm =>
    List.filter_cons_of_neg (by simp [hm])
  -- of either severity, one of the two messages is not
  have hpair : ∀ s, ofSeverity s (e :: w :: after) = ofSeverity s (w :: e :: after) := by
    intro s
    rw [hsplit, hsplit]
    cases s with
    | error => rw [hnone (m := w) (by simp [hw]), List.nil_append, List.nil_append]
    | warning => rw [hnone (m := e) (by simp [he]), List.nil_append, List.nil_append]
  refine ranked_eq_of_ofSeverity ?_ ?_
  · rw [ofSeverity_append, ofSeverity_append, hpair]
  · rw [ofSeverity_append, ofSeverity_append, hpair]

end Selection

/-- **A rendering depends on the ranking of its messages only.**  Under a cap of at least one, two
lists are rendered alike if their errors that are not ignored are the same, in the same order, and
so are their warnings.  So an ignored message may be put in anywhere, and errors and warnings may
change places. -/
theorem renderMessages_only_ranking {docs : Documents} {env : Environment} {here : String}
    {o : RenderOptions} {palette : Option Palette} (hcap : 1 ≤ o.maxMessages) :
    (∀ ms₁ ms₂ : List Message,
        Selection.ofSeverity .error ms₁ = Selection.ofSeverity .error ms₂ →
        Selection.ofSeverity .warning ms₁ = Selection.ofSeverity .warning ms₂ →
        RendersAlike docs env here o palette ms₁ ms₂) ∧
      (∀ (before after : List Message) (m : Message), m.ignored = true →
        RendersAlike docs env here o palette (before ++ after) (before ++ m :: after)) ∧
      (∀ (before after : List Message) (e w : Message),
        e.severity = .error → w.severity = .warning →
        (renderMessages docs env here o palette (before ++ e :: w :: after)).outcome
          = (renderMessages docs env here o palette (before ++ w :: e :: after)).outcome) := by
  have hroom : 0 ≤ o.maxMessages := Int.le_trans (by decide) hcap
  refine ⟨fun ms₁ ms₂ herrors hwarnings => ?_, fun before after m hm => ?_,
    fun before after e w he hw => ?_⟩
  · exact .of_ranked_eq hroom (Selection.ranked_eq_of_ofSeverity herrors hwarnings)
  · exact .of_ranked_eq hroom (Selection.ranked_insert_ignored before after hm)
  · have hranked := Selection.ranked_swap before after he hw
    refine (RendersAlike.of_ranked_eq hroom hranked).eq_of_length ?_
    rw [List.length_append, List.length_append]
    rfl

/-- A warning and an error, and the same two the other way round behind an ignored message whose
document cannot even be looked at: the listings differ in the number that the notice tells. -/
theorem renderMessages_only_ranking_ignored :
    let docs : Documents := ⟨fun _ => .error .nullCharacter, .usual⟩
    let message := fun (s : Severity) (line : Int) =>
      (⟨s, "m", "r", .span ⟨⟨"/b", some ""⟩, ⟨line, 1⟩, none, none⟩, none, [], false,
        none⟩ : Message)
    let ignored : Message :=
      ⟨.error, "m", "long-rule", .pointer ⟨"\x00", none⟩ "#/" false, none, [], true, none⟩
    let ms₁ := [message .warning 1, message .error 2]
    let ms₂ := [ignored, message .error 2, message .warning 1]
    let o : RenderOptions := ⟨1, "/", .stylish, none⟩
    let run := fun ms => (renderMessages docs ⟨[], none⟩ "/" o (some ⟨false⟩) ms).outcome
    (1 : Int) ≤ o.maxMessages ∧
      Selection.ofSeverity .error ms₁ = Selection.ofSeverity .error ms₂ ∧
      Selection.ofSeverity .warning ms₁ = Selection.ofSeverity .warning ms₂ ∧
      ignored.primary.Faulty docs ∧
      RendersAlike docs ⟨[], none⟩ "/" o (some ⟨false⟩) ms₁ ms₂ ∧
      run ms₁ = .ok ["b:", "  2:1   r m", "",
        "< ... 1 more messages hidden > increase with `--max-messages N`"] ∧
      run ms₂ = .ok ["b:", "  2:1   r m", "",
        "< ... 2 more messages hidden > increase with `--max-messages N`"] := by
  intro docs message ignored ms₁ ms₂ o run
  refine ⟨by decide, rfl, rfl, .path rfl,
    (renderMessages_only_ranking (o := o) (by decide)).1 ms₁ ms₂ rfl rfl, ?_, ?_⟩
  · show (renderMessages _ _ _ _ _ _).outcome = _
    rw [outcome_renderMessages_of_nonneg (by decide), shownUnder, Selection.ofMessages_eq]
    decide +kernel
  · show (renderMessages _ _ _ _ _ _).outcome = _
    rw [outcome_renderMessages_of_nonneg (by decide), shownUnder, Selection.ofMessages_eq]
    decide +kernel

end LintReport
