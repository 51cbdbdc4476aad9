/-
The order of files and of messages in the layout by file.

* `Selection.shownAt` — the messages that a cap shows, each with the place at which it was
  reported;
* `InOrder` — one of these comes before another: errors before warnings, and each severity in the
  order of the report;
* `Precedes` — one file comes before another: a file with an error before one without, and
  otherwise by the places at which their first errors, or else their first warnings, were reported;
* `pairwise_precedes` — messages that are in order have their files in this order;
* `stylish_in_order` — so has a rendering in the layout by file, and the messages of each file are
  in order.

Design notes: nothing in the layout sorts the files.  They come in the order of their first
messages, so the order of the files is that of the messages that lead them.
-/
import Mathlib.Order.Bounds.Basic
import LintReport.Proofs.Layouts
import LintReport.Proofs.Partition

namespace LintReport

/-! ### Messages with their places -/

/-- Errors come before warnings, and messages of one severity in the order of the report. -/
def InOrder (a b : Message × Nat) : Prop :=
  (a.1.severity = .error ∧ b.1.severity = .warning) ∨
    (a.1.severity = b.1.severity ∧ a.2 < b.2)

namespace Selection

/-- The messages that a cap shows, each with the place at which it was reported. -/
def shownAt (ms : List Message) (cap : Int) : List (Message × Nat) := takeUpTo cap (occurrences ms)

theorem map_fst_shownAt (ms : List Message) (cap : Int) :
    (shownAt ms cap).map Prod.fst = (ofMessages ms cap).visible := by
  rw [shownAt, map_takeUpTo, map_fst_occurrences]
  rfl

theorem pairwise_zipIdx (ms : List Message) : ms.zipIdx.Pairwise fun a b => a.2 < b.2 := by
  refine List.pairwise_map.mp ?_
  rw [List.zipIdx_map_snd]
  exact List.pairwise_lt_range'

theorem pairwise_occurrences (ms : List Message) : (occurrences ms).Pairwise InOrder := by
  have hseverity : ∀ (s : Severity) (e : Message × Nat),
      e ∈ ms.zipIdx.filter (fun e => !e.1.ignored && e.1.severity = s) → e.1.severity = s := by
    intro s e he
    simpa using (Bool.and_eq_true_iff.mp (List.mem_filter.mp he).2).2
  have hpart : ∀ s : Severity,
      (ms.zipIdx.filter fun e => !e.1.ignored && e.1.severity = s).Pairwise InOrder := by
    intro s
    -- the places of a part of the report increase as those of the whole do
    refine ((pairwise_zipIdx ms).sublist List.filter_sublist).imp_of_mem fun {a b} ha hb hlt => ?_
    exact .inr ⟨(hseverity s a ha).trans (hseverity s b hb).symm, hlt⟩
  rw [occurrences, List.pairwise_append]
  exact ⟨hpart .error, hpart .warning, fun a ha b hb => .inl ⟨hseverity _ a ha, hseverity _ b hb⟩⟩

theorem pairwise_shownAt (ms : List Message) (cap : Int) : (shownAt ms cap).Pairwise InOrder :=
  (pairwise_occurrences ms).sublist (takeUpTo_sublist _ _)

end Selection

/-! ### The messages that lead their files -/

variable {es : List (Message × Nat)} {e : Message × Nat} {file : String}

/-- A message leads its file: no other message of the file comes before it. -/
structure Leads (es : List (Message × Nat)) (file : String) (e : Message × Nat) : Prop where
  mem : e ∈ es
  file_eq : e.1.file = file
  first : ∀ e' ∈ es, e'.1.file = file → e' = e ∨ InOrder e e'

theorem exists_leads (hes : es.Pairwise InOrder) (hfile : file ∈ filesOf (es.map Prod.fst)) :
    ∃ e, Leads es file e := by
  obtain ⟨m, hm, hmfile⟩ := mem_filesOf.mp hfile
  obtain ⟨e₀, he₀, rfl⟩ := List.mem_map.mp hm
  have hsome : (es.find? fun e => e.1.file = file).isSome := by
    rw [List.find?_isSome]
    exact ⟨e₀, he₀, decide_eq_true hmfile⟩
  obtain ⟨e, he⟩ := Option.isSome_iff_exists.mp hsome
  obtain ⟨hefile, before, after, hsplit, hbefore⟩ := List.find?_eq_some_iff_append.mp he
  refine ⟨e, ?_, of_decide_eq_true hefile, ?_⟩
  · simp [hsplit]
  · intro e' he' hfile'
    rw [hsplit, List.mem_append, List.mem_cons] at he'
    rcases he' with hmem | rfl | hmem
    · -- before the message that was found, there is none of the file
      have hother := hbefore e' hmem
      simp [hfile'] at hother
    · exact .inl rfl
    · rw [hsplit, List.pairwise_append] at hes
      exact .inr (List.rel_of_pairwise_cons hes.2.1 hmem)

/-- A later message does not take the lead of a file. -/
theorem Leads.concat (h : Leads es file e) {last : Message × Nat}
    (hlast : ∀ a ∈ es, InOrder a last) : Leads (es ++ [last]) file e := by
  refine ⟨List.mem_append_left _ h.mem, h.file_eq, fun e' he' hfile' => ?_⟩
  rcases List.mem_append.mp he' with hmem | hmem
  · exact h.first e' hmem hfile'
  · rw [List.mem_singleton.mp hmem]
    exact .inr (hlast e h.mem)

/-- The files of messages that are in order come in the order of the messages that lead them. -/
theorem pairwise_leads (hes : es.Pairwise InOrder) :
    (filesOf (es.map Prod.fst)).Pairwise fun f g =>
      ∃ a b, Leads es f a ∧ Leads es g b ∧ InOrder a b := by
  -- from the end, since that is where a new file comes in
  induction es using List.reverseRecOn with
  | nil => exact List.Pairwise.nil
  | append_singleton es last ih =>
    obtain ⟨hes, -, hlast⟩ := List.pairwise_append.mp hes
    have hlast : ∀ a ∈ es, InOrder a last := fun a ha => hlast a ha last List.mem_cons_self
    have hold := (ih hes).imp fun {f g} ⟨a, b, ha, hb, hab⟩ =>
      (⟨a, b, ha.concat hlast, hb.concat hlast, hab⟩ :
        ∃ a b, Leads (es ++ [last]) f a ∧ Leads (es ++ [last]) g b ∧ InOrder a b)
    rw [List.map_append, List.map_singleton, filesOf_concat]
    by_cases hnew : last.1.file ∈ filesOf (es.map Prod.fst)
    · rw [if_pos hnew]
      exact hold
    · -- the file is new, so its only message is the last one
      have hleads : Leads (es ++ [last]) last.1.file last := by
        refine ⟨List.mem_append_right _ List.mem_cons_self, rfl, fun e' he' hfile' => .inl ?_⟩
        rcases List.mem_append.mp he' with hmem | hmem
        · exact absurd (mem_filesOf.mpr ⟨e'.1, List.mem_map_of_mem hmem, hfile'⟩) hnew
        · exact List.mem_singleton.mp hmem
      rw [if_neg hnew, List.pairwise_append]
      refine ⟨hold, List.pairwise_singleton _ _, fun f hf g hg => ?_⟩
      obtain rfl := List.mem_singleton.mp hg
      obtain ⟨a, ha⟩ := exists_leads hes hf
      exact ⟨a, last, ha.concat hlast, hleads, hlast a ha.mem⟩

/-! ### The order of the files -/

/-- There is an error in a file. -/
def HasError (es : List (Message × Nat)) (file : String) : Prop :=
  ∃ e ∈ es, e.1.severity = .error ∧ e.1.file = file

/-- The first message of a severity in a file was reported at a place. -/
def FirstAt (es : List (Message × Nat)) (s : Severity) (file : String) (place : Nat) : Prop :=
  IsLeast {i | ∃ m, (m, i) ∈ es ∧ m.severity = s ∧ m.file = file} place

/-- One file comes before another: if it has an error and the other has none, if both have errors
and its first one was reported earlier, or if neither has an error and its first warning was
reported earlier. -/
inductive Precedes (es : List (Message × Nat)) (f g : String) : Prop
  | error_warning (hf : HasError es f) (hg : ¬ HasError es g)
  | error_error {i j : Nat} (hf : FirstAt es .error f i) (hg : FirstAt es .error g j) (h : i < j)
  | warning_warning {i j : Nat} (hnf : ¬ HasError es f) (hng : ¬ HasError es g)
      (hf : FirstAt es .warning f i) (hg : FirstAt es .warning g j) (h : i < j)

/-- A message that leads its file is the first one of its severity there. -/
theorem Leads.firstAt (h : Leads es file e) : FirstAt es e.1.severity file e.2 := by
  refine ⟨⟨e.1, h.mem, rfl, h.file_eq⟩, ?_⟩
  rintro i ⟨m, hm, hseverity, hfile⟩
  rcases h.first _ hm hfile with heq | ⟨herror, hwarning⟩ | ⟨-, hlt⟩
  · rw [← heq]
  · cases herror.symm.trans (hseverity.symm.trans hwarning)
  · exact Nat.le_of_lt hlt

theorem Leads.hasError (h : Leads es file e) (he : e.1.severity = .error) : HasError es file :=
  ⟨e, h.mem, he, h.file_eq⟩

/-- A file that a warning leads has no error. -/
theorem Leads.not_hasError (h : Leads es file e) (he : e.1.severity = .warning) :
    ¬ HasError es file := by
  rintro ⟨e', he', herror, hfile⟩
  rcases h.first e' he' hfile with rfl | ⟨hfirst, -⟩ | ⟨hsame, -⟩
  · cases he.symm.trans herror
  · cases he.symm.trans hfirst
  · cases he.symm.trans (hsame.trans herror)

theorem Leads.precedes {f g : String} {a b : Message × Nat} (ha : Leads es f a)
    (hb : Leads es g b) (hab : InOrder a b) : Precedes es f g := by
  rcases hab with ⟨haerror, hbwarning⟩ | ⟨hsame, hlt⟩
  · exact .error_warning (ha.hasError haerror) (hb.not_hasError hbwarning)
  · -- leaders of one severity, so the first messages of it in their files
    have hafirst := ha.firstAt
    have hbfirst := hb.firstAt
    cases hseverity : a.1.severity with
    | error =>
      rw [hseverity] at hafirst hsame
      rw [← hsame] at hbfirst
      exact .error_error hafirst hbfirst hlt
    | warning =>
      rw [hseverity] at hafirst hsame
      rw [← hsame] at hbfirst
      exact .warning_warning (ha.not_hasError hseverity) (hb.not_hasError hsame.symm) hafirst
        hbfirst hlt

theorem pairwise_precedes (hes : es.Pairwise InOrder) :
    (filesOf (es.map Prod.fst)).Pairwise (Precedes es) :=
  (pairwise_leads hes).imp fun ⟨_, _, ha, hb, hab⟩ => ha.precedes hb hab

/-! ### Renderings -/

/-- What the layout by file shows under a cap that is not negative are the groups of the visible
messages. -/
theorem groups_of_renderMessages {docs : Documents} {env : Environment} {here : String}
    {o : RenderOptions} {palette : Option Palette} {msgs : List Message} {lines : List String}
    (hcap : 0 ≤ o.maxMessages)
    (h : (renderMessages docs env here { o with layout := .stylish } palette msgs).outcome
      = .ok lines) :
    let visible := (Selection.ofMessages msgs o.maxMessages).visible
    ∃ (gs : List FileGroup) (hidden : Option Int),
      (groupByFile Fault.numeral (Location.resolve docs) visible).outcome = .ok gs ∧
      lines = gs.flatMap (Stylish.groupLines (o.paletteOr env palette) ⟨here, o.directory⟩)
        ++ (hidden.map (noticeText (o.paletteOr env palette))).toList := by
  intro visible
  obtain ⟨rs, hidden, hrs, -, hlines⟩ := lines_of_renderMessages hcap h
  refine ⟨Stylish.groupsOf rs, hidden, ?_, hlines⟩
  rw [Stylish.outcome_groupByFile, hrs]
  rfl

/-- **The layout by file is in order.**  A rendering in this layout under a cap of at least one
has a block for each file of the visible messages.  A file with a visible error comes before one
that has visible warnings only, files with visible errors come in the order in which the first of
these were reported, and the others in the order of their first visible warnings.  In each block
errors come before warnings, and each severity is in the order of the report. -/
theorem stylish_in_order {docs : Documents} {env : Environment} {here : String}
    {o : RenderOptions} {palette : Option Palette} {msgs : List Message} {lines : List String}
    (hcap : 1 ≤ o.maxMessages)
    (h : (renderMessages docs env here { o with layout := .stylish } palette msgs).outcome
      = .ok lines) :
    let visible := (Selection.ofMessages msgs o.maxMessages).visible
    let shown := Selection.shownAt msgs o.maxMessages
    let p := o.paletteOr env palette
    (shown.map Prod.fst = visible ∧ shown ⊆ msgs.zipIdx ∧ shown.Nodup) ∧
      ∃ (gs : List FileGroup) (hidden : Option Int),
        lines = gs.flatMap (Stylish.groupLines p ⟨here, o.directory⟩)
          ++ (hidden.map (noticeText p)).toList ∧
        gs.map FileGroup.path = filesOf visible ∧
        (gs.map FileGroup.path).Pairwise (Precedes shown) ∧
        ∀ g ∈ gs,
          g.messages.map Resolved.message
            = (shown.filter fun e => e.1.file = g.path).map Prod.fst ∧
          (shown.filter fun e => e.1.file = g.path).Pairwise InOrder := by
  intro visible shown p
  have hvisible : shown.map Prod.fst = visible := Selection.map_fst_shownAt msgs o.maxMessages
  have hshown : shown.Pairwise InOrder := Selection.pairwise_shownAt msgs o.maxMessages
  have hsub : shown.Sublist (Selection.occurrences msgs) := Selection.takeUpTo_sublist _ _
  have hplaces : shown ⊆ msgs.zipIdx :=
    List.Subset.trans hsub.subset (Selection.occurrences_subset msgs)
  have hnodup : shown.Nodup := (Selection.nodup_occurrences msgs).sublist hsub
  obtain ⟨gs, hidden, hgs, hlines⟩ :=
    groups_of_renderMessages (Int.le_trans (by decide) hcap) h
  have hpartition := isPartition_of_groupByFile hgs
  have hpaths : gs.map FileGroup.path = filesOf visible := hpartition.paths
  refine ⟨⟨hvisible, hplaces, hnodup⟩, gs, hidden, hlines, hpaths, ?_, fun g hg => ⟨?_, ?_⟩⟩
  · rw [hpaths, ← hvisible]
    exact pairwise_precedes hshown
  · have hmessages : g.messages.map Resolved.message
        = visible.filter fun m => m.file = g.path := hpartition.messages g hg
    rw [hmessages, ← hvisible, List.filter_map]
    rfl
  · exact hshown.sublist List.filter_sublist

/-- Three files that are shown in an order which is not that of the report: the file with the first
message comes last, the one with the first error comes first, and the cap leaves out a warning. -/
theorem stylish_in_order_three_files :
    let docs : Documents := ⟨fun _ => .error .nullCharacter, .usual⟩
    let message := fun (s : Severity) (file : String) (line : Int) =>
      (⟨s, "m", "r", .span ⟨⟨file, some ""⟩, ⟨line, 1⟩, none, none⟩, none, [], false,
        none⟩ : Message)
    let msgs := [message .warning "/a" 1, message .warning "/b" 2, message .error "/c" 3,
      message .error "/b" 4, message .warning "/c" 5]
    let o : RenderOptions := ⟨4, "/", .stylish, none⟩
    let lines := ["c:", "  3:1   r m", "", "b:", "  4:1   r m", "  2:1   r m", "",
      "a:", "  1:1   r m", "", "< ... 1 more messages hidden > increase with `--max-messages N`"]
    (1 : Int) ≤ o.maxMessages ∧
      (renderMessages docs ⟨[], none⟩ "/" o (some ⟨false⟩) msgs).outcome = .ok lines ∧
      ["/c", "/b", "/a"].Pairwise (Precedes (Selection.shownAt msgs 4)) := by
  intro docs message msgs o lines
  have hlines : (renderMessages docs ⟨[], none⟩ "/" o (some ⟨false⟩) msgs).outcome = .ok lines := by
    rw [outcome_renderMessages_of_nonneg (by decide), shownUnder, Selection.ofMessages_eq]
    decide +kernel
  obtain ⟨-, gs, hidden, -, hpaths, hpairwise, -⟩ :=
    stylish_in_order (o := o) (by decide) hlines
  have hvisible : (Selection.ofMessages msgs o.maxMessages).visible
      = [message .error "/c" 3, message .error "/b" 4, message .warning "/a" 1,
        message .warning "/b" 2] := by
    rw [Selection.ofMessages_eq]
    rfl
  rw [hpaths, hvisible] at hpairwise
  exact ⟨by decide, hlines, hpairwise⟩

end LintReport
