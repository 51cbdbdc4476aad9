/-
A greater cap only adds to a rendering.

* `takeUpTo_isPrefix` — a cap keeps a beginning of what a greater one keeps;
* `FileGroup.Within`, `GroupsWithin` — a group, and a list of groups, that others go on from;
* `groupsWithin_extendGroups` — one more message goes on from the groups so far, and so
  `groupsWithin_groupsOf` — the groups of more messages go on from those of fewer;
* `renderMessages_grows` — a rendering under a cap is there if there is one under a greater cap,
  which begins with the same blocks, or goes on from the same groups.

Design notes: the number in the notice gets smaller with the cap, so the notice is kept apart.  It
is written in decimal digits, of which there is a greatest number; the list of messages is taken to
be short enough for its length to be written.
-/
import LintReport.Proofs.Independence
import LintReport.Proofs.Partition

namespace LintReport

open Outcome

theorem takeUpTo_isPrefix {α : Type} {n m : Int} (hn : 0 ≤ n) (hnm : n ≤ m) (xs : List α) :
    takeUpTo n xs <+: takeUpTo m xs := by
  have hm : 0 ≤ m := Int.le_trans hn hnm
  rw [Selection.takeUpTo_of_nonneg hn, Selection.takeUpTo_of_nonneg hm]
  exact List.take_prefix_take_left (by omega)

theorem Selection.visible_isPrefix {n m : Int} (hn : 0 ≤ n) (hnm : n ≤ m) (msgs : List Message) :
    (ofMessages msgs n).visible <+: (ofMessages msgs m).visible :=
  takeUpTo_isPrefix hn hnm (ranked msgs)

/-- The blocks of fewer messages are the first blocks of more messages. -/
theorem Codeframe.blocksOf_of_isPrefix {docs : Documents} {msgs msgs' : List Message}
    {bs' : List Block} (hmsgs : msgs <+: msgs') (h : blocksOf docs 0 msgs' = .ok bs') :
    ∃ bs, blocksOf docs 0 msgs = .ok bs ∧ bs <+: bs' := by
  refine mapM_of_isPrefix ?_ h
  obtain ⟨rest, rfl⟩ := hmsgs
  rw [List.zipIdx_append]
  exact List.prefix_append _ _

/-! ### Groups that others go on from -/

/-- A group goes on from another one: it is of the same file, begins with the same messages, and
has columns at least as wide. -/
structure FileGroup.Within (g g' : FileGroup) : Prop where
  path : g.path = g'.path
  messages : g.messages <+: g'.messages
  ruleWidth : g.ruleWidth ≤ g'.ruleWidth
  positionWidth : g.positionWidth ≤ g'.positionWidth

/-- Groups go on from others: their files begin with the same files, and each of the others is
gone on from. -/
structure GroupsWithin (gs gs' : List FileGroup) : Prop where
  paths : gs.map FileGroup.path <+: gs'.map FileGroup.path
  within : ∀ g ∈ gs, ∃ g' ∈ gs', g.Within g'

namespace FileGroup

theorem Within.refl (g : FileGroup) : g.Within g :=
  ⟨rfl, List.prefix_refl _, Nat.le_refl _, Nat.le_refl _⟩

theorem Within.trans {g g' g'' : FileGroup} (h : g.Within g') (h' : g'.Within g'') :
    g.Within g'' :=
  ⟨h.path.trans h'.path, h.messages.trans h'.messages, Nat.le_trans h.ruleWidth h'.ruleWidth,
    Nat.le_trans h.positionWidth h'.positionWidth⟩

theorem within_extend (g : FileGroup) (r : Resolved) : g.Within (g.extend r) := by
  -- the width so far is one of the numbers of which the new width is the greatest
  have hstart : IsGreatest {n | n ∈ [g.positionWidth]} g.positionWidth :=
    ⟨List.mem_singleton_self _, fun n hn => Nat.le_of_eq (List.mem_singleton.mp hn)⟩
  have hwidth := isGreatest_foldl_max hstart (r.spans.map fun s => s.position.length)
  exact ⟨rfl, List.prefix_append _ _, Nat.le_max_left _ _, hwidth.2 List.mem_cons_self⟩

end FileGroup

theorem GroupsWithin.refl (gs : List FileGroup) : GroupsWithin gs gs :=
  ⟨List.prefix_refl _, fun g hg => ⟨g, hg, .refl g⟩⟩

theorem GroupsWithin.trans {gs gs' gs'' : List FileGroup} (h : GroupsWithin gs gs')
    (h' : GroupsWithin gs' gs'') : GroupsWithin gs gs'' := by
  refine ⟨h.paths.trans h'.paths, fun g hg => ?_⟩
  obtain ⟨g', hg', hwithin⟩ := h.within g hg
  obtain ⟨g'', hg'', hwithin'⟩ := h'.within g' hg'
  exact ⟨g'', hg'', hwithin.trans hwithin'⟩

/-- One more message goes on from the groups so far. -/
theorem groupsWithin_extendGroups (r : Resolved) (gs : List FileGroup) :
    GroupsWithin gs (Stylish.extendGroups r gs) := by
  induction gs with
  | nil => exact ⟨List.nil_prefix, fun g hg => absurd hg List.not_mem_nil⟩
  | cons g gs ih =>
    rw [Stylish.extendGroups]
    by_cases hfile : g.path = r.message.file
    · -- the first group takes the message in, and the others stay as they are
      rw [if_pos hfile]
      refine ⟨List.prefix_refl _, List.forall_mem_cons.mpr ⟨?_, fun g' hg' => ?_⟩⟩
      · exact ⟨g.extend r, List.mem_cons_self, g.within_extend r⟩
      · exact ⟨g', List.mem_cons_of_mem _ hg', .refl g'⟩
    · rw [if_neg hfile]
      refine ⟨?_, List.forall_mem_cons.mpr ⟨⟨g, List.mem_cons_self, .refl g⟩, fun g' hg' => ?_⟩⟩
      · exact List.cons_prefix_cons.mpr ⟨rfl, ih.paths⟩
      · obtain ⟨g'', hg'', hwithin⟩ := ih.within g' hg'
        exact ⟨g'', List.mem_cons_of_mem _ hg'', hwithin⟩

theorem groupsWithin_groupsOf {rs rs' : List Resolved} (h : rs <+: rs') :
    GroupsWithin (Stylish.groupsOf rs) (Stylish.groupsOf rs') := by
  obtain ⟨more, rfl⟩ := h
  -- message by message, each of which is one step
  induction more using List.reverseRecOn with
  | nil =>
    rw [List.append_nil]
    exact .refl _
  | append_singleton more r ih =>
    rw [← List.append_assoc, Stylish.groupsOf_concat]
    exact ih.trans (groupsWithin_extendGroups r _)

/-- So the lines of groups go on from those of the others, header by header. -/
theorem GroupsWithin.headers {gs gs' : List FileGroup} (h : GroupsWithin gs gs')
    (palette : Palette) (view : Viewpoint) :
    (gs.map fun g => (Stylish.groupLines palette view g).head?)
      <+: gs'.map fun g => (Stylish.groupLines palette view g).head? := by
  have hheader : (fun g : FileGroup => (Stylish.groupLines palette view g).head?)
      = (fun path => some s!"{palette.accent (view.path path)}:") ∘ FileGroup.path := rfl
  rw [hheader, ← List.map_map, ← List.map_map]
  exact h.paths.map _

/-! ### Renderings -/

section

variable {docs : Documents} {env : Environment} {here : String} {o : RenderOptions}
  {palette : Option Palette} {msgs : List Message}

/-- A rendering with a block for each message is the blocks of the visible ones and the notice. -/
theorem outcome_renderMessages_codeframe {cap : Int} (hcap : 0 ≤ cap)
    (hcount : Text.Numeral.isWritable msgs.length = true) :
    (renderMessages docs env here { o with maxMessages := cap, layout := .codeframe } palette
        msgs).outcome
      = (fun bs => bs.map (Codeframe.Block.text (o.paletteOr env palette) ⟨here, o.directory⟩)
          ++ noticeOf (o.paletteOr env palette) cap msgs)
        <$> Codeframe.blocksOf docs 0 (Selection.ofMessages msgs cap).visible := by
  have hvisible : (Selection.ofMessages msgs cap).visible
      = takeUpTo cap (Selection.ranked msgs) := rfl
  rw [outcome_renderMessages_eq docs env here _ palette hcap hcount, hvisible, Shown.ofMessages]
  cases Codeframe.blocksOf docs 0 (takeUpTo cap (Selection.ranked msgs)) with
  | error e => rfl
  | ok bs => rfl

/-- A rendering by file is the lines of the groups of the visible messages and the notice. -/
theorem outcome_renderMessages_stylish {cap : Int} (hcap : 0 ≤ cap)
    (hcount : Text.Numeral.isWritable msgs.length = true) :
    (renderMessages docs env here { o with maxMessages := cap, layout := .stylish } palette
        msgs).outcome
      = (fun rs => (Stylish.groupsOf rs).flatMap
            (Stylish.groupLines (o.paletteOr env palette) ⟨here, o.directory⟩)
          ++ noticeOf (o.paletteOr env palette) cap msgs)
        <$> (Selection.ofMessages msgs cap).visible.mapM (Message.resolvedIn docs) := by
  have hvisible : (Selection.ofMessages msgs cap).visible
      = takeUpTo cap (Selection.ranked msgs) := rfl
  rw [outcome_renderMessages_eq docs env here _ palette hcap hcount, hvisible, Shown.ofMessages]
  cases (takeUpTo cap (Selection.ranked msgs)).mapM (Message.resolvedIn docs) with
  | error e => rfl
  | ok rs => rfl

/-- **A greater cap only adds to a rendering.**  Under two caps of at least one, where the rendering
under the greater one is there, the rendering under the smaller one is there as well.  In the
layout with a block for each message the blocks under the smaller cap are the first blocks under
the greater one.  In the layout by file the headers are the first headers, and the group of each
file begins with the same messages, with the same positions, in columns at most as wide. -/
theorem renderMessages_grows {n m : Int} (hn : 1 ≤ n) (hnm : n ≤ m)
    (hcount : Text.Numeral.isWritable msgs.length = true) :
    let run := fun (cap : Int) (layout : Layout) =>
      (renderMessages docs env here { o with maxMessages := cap, layout := layout } palette
        msgs).outcome
    let visible := fun cap => (Selection.ofMessages msgs cap).visible
    let p := o.paletteOr env palette
    let lines := Stylish.groupLines p ⟨here, o.directory⟩
    (∀ chunks, run m .codeframe = .ok chunks →
      ∃ bs bs' : List String,
        run n .codeframe = .ok (bs ++ noticeOf p n msgs) ∧
        chunks = bs' ++ noticeOf p m msgs ∧
        bs.length = (visible n).length ∧
        bs'.length = (visible m).length ∧
        bs <+: bs') ∧
      ∀ chunks, run m .stylish = .ok chunks →
        ∃ gs gs' : List FileGroup,
          run n .stylish = .ok (gs.flatMap lines ++ noticeOf p n msgs) ∧
          chunks = gs'.flatMap lines ++ noticeOf p m msgs ∧
          (groupByFile Fault.numeral (Location.resolve docs) (visible n)).outcome = .ok gs ∧
          (groupByFile Fault.numeral (Location.resolve docs) (visible m)).outcome = .ok gs' ∧
          ((gs.map fun g => (lines g).head?) <+: gs'.map fun g => (lines g).head?) ∧
          GroupsWithin gs gs' := by
  intro run visible p lines
  have hn' : 0 ≤ n := Int.le_trans (by decide) hn
  have hm' : 0 ≤ m := Int.le_trans hn' hnm
  -- what is resolved and shown under `m` begins with what is under `n`
  have hvisible : visible n <+: visible m := Selection.visible_isPrefix hn' hnm msgs
  constructor
  · intro chunks hchunks
    have hrun := (outcome_renderMessages_codeframe hm' hcount).symm.trans hchunks
    obtain ⟨bs', hbs', rfl⟩ := map_eq_ok.mp hrun
    obtain ⟨bs, hbs, hprefix⟩ := Codeframe.blocksOf_of_isPrefix hvisible hbs'
    refine ⟨bs.map _, bs'.map _, ?_, rfl, ?_, ?_, hprefix.map _⟩
    · show (renderMessages _ _ _ _ _ _).outcome = _
      rw [outcome_renderMessages_codeframe hn' hcount, hbs]
      rfl
    · rw [List.length_map, (of_mapM_eq_ok hbs).1, List.length_zipIdx]
    · rw [List.length_map, (of_mapM_eq_ok hbs').1, List.length_zipIdx]
  · intro chunks hchunks
    have hrun := (outcome_renderMessages_stylish hm' hcount).symm.trans hchunks
    obtain ⟨rs', hrs', rfl⟩ := map_eq_ok.mp hrun
    obtain ⟨rs, hrs, hprefix⟩ := mapM_of_isPrefix hvisible hrs'
    have hwithin : GroupsWithin (Stylish.groupsOf rs) (Stylish.groupsOf rs') :=
      groupsWithin_groupsOf hprefix
    have hheaders := hwithin.headers p ⟨here, o.directory⟩
    refine ⟨Stylish.groupsOf rs, Stylish.groupsOf rs', ?_, rfl, ?_, ?_, hheaders, hwithin⟩
    · show (renderMessages _ _ _ _ _ _).outcome = _
      rw [outcome_renderMessages_stylish hn' hcount, hrs]
      rfl
    · rw [Stylish.outcome_groupByFile, hrs, map_ok]
    · rw [Stylish.outcome_groupByFile, hrs', map_ok]

end

/-- Three messages under caps of two and of three: the third one makes the group of its file longer
and both columns of it wider. -/
theorem renderMessages_grows_by_one :
    let docs : Documents := ⟨fun _ => .error .nullCharacter, .usual⟩
    let message := fun (s : Severity) (file rule : String) (line : Int) =>
      (⟨s, "m", rule, .span ⟨⟨file, some ""⟩, ⟨line, 1⟩, none, none⟩, none, [], false,
        none⟩ : Message)
    let msgs := [message .warning "/b" "rule" 10, message .error "/b" "r" 2,
      message .error "/a" "r" 3]
    let o : RenderOptions := ⟨100, "/", .stylish, none⟩
    let run := fun cap =>
      (renderMessages docs ⟨[], none⟩ "/" { o with maxMessages := cap } (some ⟨false⟩) msgs).outcome
    (1 : Int) ≤ 2 ∧ (2 : Int) ≤ 3 ∧ Text.Numeral.isWritable msgs.length = true ∧
      run 3 = .ok ["b:", "  2:1    r    m", "  10:1   rule m", "", "a:", "  3:1   r m", ""] ∧
      run 2 = .ok ["b:", "  2:1   r m", "", "a:", "  3:1   r m", "",
        "< ... 1 more messages hidden > increase with `--max-messages N`"] ∧
      ∃ gs gs' : List FileGroup,
        run 2 = .ok (gs.flatMap (Stylish.groupLines ⟨false⟩ ⟨"/", "/"⟩)
          ++ noticeOf ⟨false⟩ 2 msgs) ∧ GroupsWithin gs gs' := by
  intro docs message msgs o run
  have hcount : Text.Numeral.isWritable msgs.length = true := by decide +kernel
  have hthree : run 3 = .ok ["b:", "  2:1    r    m", "  10:1   rule m", "", "a:",
      "  3:1   r m", ""] := by
    show (renderMessages _ _ _ _ _ _).outcome = _
    rw [outcome_renderMessages_of_nonneg (by decide), shownUnder, Selection.ofMessages_eq]
    decide +kernel
  have htwo : run 2 = .ok ["b:", "  2:1   r m", "", "a:", "  3:1   r m", "",
      "< ... 1 more messages hidden > increase with `--max-messages N`"] := by
    show (renderMessages _ _ _ _ _ _).outcome = _
    rw [outcome_renderMessages_of_nonneg (by decide), shownUnder, Selection.ofMessages_eq]
    decide +kernel
  obtain ⟨gs, gs', hgs, -, -, -, -, hwithin⟩ :=
    (renderMessages_grows (o := o) (n := 2) (m := 3) (by decide) (by decide) hcount).2 _ hthree
  exact ⟨by decide, by decide, hcount, hthree, htwo, gs, gs', hgs, hwithin⟩

end LintReport
