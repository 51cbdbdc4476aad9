/-
The two layouts show the same.

* `Codeframe.opening` — how the block of a message begins: its number, its path and position;
* `Stylish.fileLines` — the lines of a file: its path, a line for each message, an empty line;
* `layouts_agree` — under a cap that leaves room for a message, the blocks and the lines are
  those of the same messages, with the same paths and positions, and the same notice.

Design notes: the blocks are made one by one from the visible messages, and the lines from
groups that are filled message by message.  Both are traced back to one list, the visible
messages with their spans.
-/
import LintReport.Proofs.Groups
import LintReport.Proofs.Ranking

namespace LintReport

open Outcome

/-- The path of a resolved message from a directory, with its position. -/
def Resolved.place (view : Viewpoint) (r : Resolved) : String :=
  s!"{view.path r.message.file}:{r.primary.position}"

/-- How the block of a message begins. -/
def Codeframe.opening (palette : Palette) (view : Viewpoint) (index : Int) (r : Resolved) :
    String :=
  s!"[{index + 1}] {palette.severityGround r.message.severity (r.place view)} "

/-- The lines of a file among resolved messages. -/
def Stylish.fileLines (palette : Palette) (view : Viewpoint) (rs : List Resolved) (file : String) :
    List String :=
  s!"{palette.accent (view.path file)}:" ::
    (ofFile rs file).map
      (line palette (groupOf rs file).positionWidth (groupOf rs file).ruleWidth) ++ [""]

/-! ### Blocks -/

namespace Codeframe

theorem opening_exists {docs : Documents} {palette : Palette} {view : Viewpoint} {index : Int}
    {b : Block} {r : Resolved} (hb : Block.ofMessage docs index r.message = .ok b)
    (hr : r.message.primary.spanIn docs = .ok r.primary) :
    ∃ rest, b.text palette view = opening palette view index r ++ rest := by
  obtain ⟨hmessage, hindex, hspan, -, -⟩ := Block.of_ofMessage hb
  have hsame : b.span = r.primary :=
    Except.ok.inj ((Location.placedIn_eq_ok_iff.mp hspan).1.symm.trans hr)
  have hsource : r.primary.source = r.message.primary.source := (Location.of_spanIn hr).1
  have hplace : b.span.place view = r.place view := by
    rw [Span.place, Resolved.place, hsame, hsource]
    rfl
  refine ⟨pointerNote palette b.span ++ "\n\n"
    ++ (b.message.text ++ "\n\n" ++ didYouMean b.message.suggestions
      ++ "\n".intercalate (Excerpt.rows palette b.lines b.span) ++ "\n\n"
      ++ Block.originNote palette view b.origin ++ footer palette b.message), ?_⟩
  rw [Block.text, opening, hplace, hmessage, hindex]
  simp only [header_eq, String.append_assoc]
  rfl

end Codeframe

/-! ### Lines -/

namespace Stylish

/-- A text that is padded and followed by a blank is followed by a blank. -/
theorem padEnd_blank (width : Nat) (s : String) :
    ∃ blanks, Text.padEnd width s ++ " " = s ++ " " ++ blanks := by
  have hcomm : ∀ n, String.ofList (List.replicate n ' ') ++ " "
      = " " ++ String.ofList (List.replicate n ' ') := by
    intro n
    apply String.toList_inj.mp
    rw [String.toList_append, String.toList_append, String.toList_ofList]
    exact List.replicate_succ'.symm
  refine ⟨String.ofList (List.replicate (width - s.length) ' '), ?_⟩
  rw [Text.padEnd, String.append_assoc, hcomm, String.append_assoc]

theorem line_exists (palette : Palette) (positionWidth ruleWidth : Nat) (r : Resolved) :
    ∃ rest,
      line palette positionWidth ruleWidth r = "  " ++ r.primary.position ++ " " ++ rest := by
  have hform : line palette positionWidth ruleWidth r
      = "  " ++ Text.padEnd (positionWidth + 2) r.primary.position ++ " "
        ++ palette.severityLetters r.message.severity (Text.padEnd ruleWidth r.message.rule)
        ++ " " ++ r.message.text := rfl
  obtain ⟨blanks, hblanks⟩ := padEnd_blank (positionWidth + 2) r.primary.position
  generalize palette.severityLetters _ _ = rule at hform
  refine ⟨blanks ++ (rule ++ " " ++ r.message.text), ?_⟩
  calc line palette positionWidth ruleWidth r
      = "  " ++ (Text.padEnd (positionWidth + 2) r.primary.position ++ " ")
          ++ (rule ++ " " ++ r.message.text) := by simp only [hform, String.append_assoc]
    _ = "  " ++ r.primary.position ++ " " ++ (blanks ++ (rule ++ " " ++ r.message.text)) := by
      simp only [hblanks, String.append_assoc]

theorem groupLines_groupOf (palette : Palette) (view : Viewpoint) (rs : List Resolved)
    (file : String) :
    groupLines palette view (groupOf rs file) = fileLines palette view rs file := by
  rw [groupLines, path_groupOf, messages_groupOf, fileLines]

theorem flatMap_groupLines (palette : Palette) (view : Viewpoint) (rs : List Resolved) :
    (groupsOf rs).flatMap (groupLines palette view)
      = (filesOf (rs.map Resolved.message)).flatMap (fileLines palette view rs) := by
  rw [groupsOf_eq, List.flatMap_map]
  exact List.flatMap_congr fun file _ => groupLines_groupOf palette view rs file

/-- Each message belongs to exactly one of the files. -/
theorem perm_flatMap_ofFile (rs : List Resolved) :
    ((filesOf (rs.map Resolved.message)).flatMap (ofFile rs)).Perm rs := by
  have hperm := perm_messages_groupsOf rs
  rw [groupsOf_eq, List.flatMap_map] at hperm
  have hmessages : (fun file => (groupOf rs file).messages) = ofFile rs :=
    funext (messages_groupOf rs)
  rwa [hmessages] at hperm

theorem length_flatMap_fileLines (palette : Palette) (view : Viewpoint) (rs : List Resolved)
    (files : List String) :
    (files.flatMap (fileLines palette view rs)).length
      = (files.flatMap (ofFile rs)).length + 2 * files.length := by
  induction files with
  | nil => rfl
  | cons file files ih =>
    have hfile : (fileLines palette view rs file).length = (ofFile rs file).length + 2 := by
      rw [fileLines, List.length_append, List.length_cons, List.length_map]
      rfl
    rw [List.flatMap_cons, List.flatMap_cons, List.length_append, List.length_append, ih, hfile,
      List.length_cons]
    omega

end Stylish

/-! ### Renderings -/

theorem Selection.shownBeforeCap_ofMessages (msgs : List Message) (cap : Int) :
    (ofMessages msgs cap).shownBeforeCap = (msgs.filter fun m => !m.ignored).length := by
  rw [shownBeforeCap, total_sub_ignored]
  exact congrArg Int.ofNat (List.mergeSort_perm _ _).length_eq

/-- A cap that leaves room for a message shows one, unless every message is ignored. -/
theorem Selection.visible_eq_nil {msgs : List Message} {cap : Int} (hcap : 1 ≤ cap) :
    (ofMessages msgs cap).visible = [] ↔ ∀ m ∈ msgs, m.ignored = true := by
  have hlength : ((ofMessages msgs cap).visible.length : Int)
      = min cap (ofMessages msgs cap).shownBeforeCap := length_visible (by omega)
  rw [shownBeforeCap_ofMessages] at hlength
  rw [← List.length_eq_zero_iff]
  have hignored : (msgs.filter fun m => !m.ignored).length = 0 ↔ ∀ m ∈ msgs, m.ignored = true := by
    rw [List.length_eq_zero_iff, List.filter_eq_nil_iff]
    simp
  rw [← hignored]
  omega

/-- A cap that leaves room for a message hides none where it shows none. -/
theorem Selection.nothing_shown_iff {msgs : List Message} {cap : Int} (hcap : 1 ≤ cap) :
    ((ofMessages msgs cap).visible.length = 0 ∧
        (if cap < (msgs.filter fun m => !m.ignored).length then 1 else 0) = 0)
      ↔ ∀ m ∈ msgs, m.ignored = true := by
  rw [List.length_eq_zero_iff, visible_eq_nil hcap]
  refine ⟨And.left, fun hall => ⟨hall, if_neg ?_⟩⟩
  have hkept : msgs.filter (fun m => !m.ignored) = [] := by
    rw [List.filter_eq_nil_iff]
    intro m hm
    rw [hall m hm]
    decide
  rw [hkept, List.length_nil]
  omega

/-- Under a cap that is not negative there is no need to look whether there is any message. -/
theorem outcome_renderMessages_of_nonneg {docs : Documents} {env : Environment} {here : String}
    {o : RenderOptions} {palette : Option Palette} {msgs : List Message}
    (hcap : 0 ≤ o.maxMessages) :
    (renderMessages docs env here o palette msgs).outcome
      = chunksOf (o.paletteOr env palette) ⟨here, o.directory⟩ <$> shownUnder docs o msgs := by
  rw [outcome_renderMessages]
  by_cases hempty : msgs = []
  · have hvisible : (Selection.ofMessages [] o.maxMessages).visible = [] := by
      show takeUpTo o.maxMessages (Selection.ranked []) = []
      rw [Selection.takeUpTo_of_nonneg hcap, Selection.ranked_eq]
      exact List.take_nil
    have hhidden : hiddenBy (Selection.ofMessages [] o.maxMessages) o.maxMessages = .ok none := by
      have hflag : (Selection.ofMessages [] o.maxMessages).isTruncated o.maxMessages = false :=
        decide_eq_false (by rw [Selection.shownBeforeCap_ofMessages]; simpa using hcap)
      rw [hiddenBy, hflag]
      rfl
    rw [if_pos hempty, hempty, shownUnder, hvisible, hhidden]
    cases o.layout with
    | codeframe => rfl
    | stylish => rfl
  · rw [if_neg hempty]

/-- What the first layout shows under a cap that is not negative. -/
theorem blocks_of_renderMessages {docs : Documents} {env : Environment} {here : String}
    {o : RenderOptions} {palette : Option Palette} {msgs : List Message} {blocks : List String}
    (hcap : 0 ≤ o.maxMessages)
    (h : (renderMessages docs env here { o with layout := .codeframe } palette msgs).outcome
      = .ok blocks) :
    ∃ bs hidden,
      Codeframe.blocksOf docs 0 (Selection.ofMessages msgs o.maxMessages).visible = .ok bs ∧
      hiddenBy (Selection.ofMessages msgs o.maxMessages) o.maxMessages = .ok hidden ∧
      blocks = bs.map (Codeframe.Block.text (o.paletteOr env palette) ⟨here, o.directory⟩)
        ++ (hidden.map (noticeText (o.paletteOr env palette))).toList := by
  rw [outcome_renderMessages_of_nonneg (o := { o with layout := .codeframe }) hcap] at h
  obtain ⟨⟨shown, hidden⟩, hshown, rfl⟩ := map_eq_ok.mp h
  obtain ⟨hblocks, hhidden⟩ := of_shownUnder hshown
  obtain ⟨bs, hbs, rfl⟩ := map_eq_ok.mp hblocks
  exact ⟨bs, hidden, hbs, hhidden, rfl⟩

/-- What the second layout shows under a cap that is not negative. -/
theorem lines_of_renderMessages {docs : Documents} {env : Environment} {here : String}
    {o : RenderOptions} {palette : Option Palette} {msgs : List Message} {lines : List String}
    (hcap : 0 ≤ o.maxMessages)
    (h : (renderMessages docs env here { o with layout := .stylish } palette msgs).outcome
      = .ok lines) :
    ∃ rs hidden,
      (Selection.ofMessages msgs o.maxMessages).visible.mapM (Message.resolvedIn docs) = .ok rs ∧
      hiddenBy (Selection.ofMessages msgs o.maxMessages) o.maxMessages = .ok hidden ∧
      lines = (Stylish.groupsOf rs).flatMap
          (Stylish.groupLines (o.paletteOr env palette) ⟨here, o.directory⟩)
        ++ (hidden.map (noticeText (o.paletteOr env palette))).toList := by
  rw [outcome_renderMessages_of_nonneg (o := { o with layout := .stylish }) hcap] at h
  obtain ⟨⟨shown, hidden⟩, hshown, rfl⟩ := map_eq_ok.mp h
  obtain ⟨hgroups, hhidden⟩ := of_shownUnder hshown
  obtain ⟨rs, hrs, rfl⟩ := map_eq_ok.mp hgroups
  exact ⟨rs, hidden, hrs, hhidden, rfl⟩

/-- Resolving messages keeps them as they are. -/
theorem map_message_of_mapM {docs : Documents} {msgs : List Message} {rs : List Resolved}
    (h : msgs.mapM (Message.resolvedIn docs) = .ok rs) : rs.map Resolved.message = msgs :=
  map_of_mapM_eq_ok (fun _ _ hr => (Message.resolvedIn_eq_ok_iff.mp hr).1) h

/-- Resolving messages finds the spans of their primary locations. -/
theorem spanIn_of_mapM {docs : Documents} {msgs : List Message} {rs : List Resolved}
    (h : msgs.mapM (Message.resolvedIn docs) = .ok rs) {r : Resolved} (hr : r ∈ rs) :
    r.message.primary.spanIn docs = .ok r.primary := by
  obtain ⟨m, -, hm⟩ := exists_of_mem_mapM h hr
  obtain ⟨rfl, hprimary, -⟩ := Message.resolvedIn_eq_ok_iff.mp hm
  exact hprimary

/-- The block at a place of the listing is that of the message there. -/
theorem Codeframe.block_of_blocksOf {docs : Documents} {msgs : List Message} {bs : List Block}
    (h : blocksOf docs 0 msgs = .ok bs) {i : Nat} {m : Message} {b : Block}
    (hm : msgs[i]? = some m) (hb : bs[i]? = some b) : Block.ofMessage docs i m = .ok b := by
  refine (of_mapM_eq_ok h).2 i (m, i) b ?_ hb
  rw [List.getElem?_zipIdx, hm, Nat.zero_add]
  rfl

/-- The texts of the blocks are those of the resolved messages in their order, each of which
begins with the number, the path and the position of its message. -/
theorem Codeframe.text_of_blocksOf {docs : Documents} {palette : Palette} {view : Viewpoint}
    {rs : List Resolved} {bs : List Block}
    (hbs : blocksOf docs 0 (rs.map Resolved.message) = .ok bs)
    (hspans : ∀ r ∈ rs, r.message.primary.spanIn docs = .ok r.primary) {i : Nat} {r : Resolved}
    {b : String} (hr : rs[i]? = some r) (hb : (bs.map (Block.text palette view))[i]? = some b) :
    (block docs palette view i r.message).outcome = .ok b ∧
      ∃ rest, b = opening palette view i r ++ rest := by
  rw [List.getElem?_map] at hb
  obtain ⟨b, hb', rfl⟩ := Option.map_eq_some_iff.mp hb
  have hm : (rs.map Resolved.message)[i]? = some r.message := by
    rw [List.getElem?_map, hr]
    rfl
  have hblock := block_of_blocksOf hbs hm hb'
  rw [outcome_block, hblock]
  exact ⟨rfl, opening_exists hblock (hspans r (List.mem_of_getElem? hr))⟩

/-- **The two layouts show the same.**  Under a cap of at least one, where neither layout fails,
there is one list of resolved messages, those of the visible messages in their order, and one
notice, such that the first layout has a block for each of them, with its number, and the second
one has the lines of each of their files, in the order in which the files come first. -/
theorem layouts_agree {docs : Documents} {env : Environment} {here : String} {o : RenderOptions}
    {palette : Option Palette} {msgs : List Message} {blocks lines : List String}
    (hcap : 1 ≤ o.maxMessages)
    (hblocks : (renderMessages docs env here { o with layout := .codeframe } palette msgs).outcome
      = .ok blocks)
    (hlines : (renderMessages docs env here { o with layout := .stylish } palette msgs).outcome
      = .ok lines) :
    let visible := (Selection.ofMessages msgs o.maxMessages).visible
    let files := filesOf visible
    let p := o.paletteOr env palette
    let view : Viewpoint := ⟨here, o.directory⟩
    let t := if o.maxMessages < (msgs.filter fun m => !m.ignored).length then 1 else 0
    ∃ (rs : List Resolved) (bs notice : List String),
      rs.map Resolved.message = visible ∧
      (∀ r ∈ rs, r.message.primary.spanIn docs = .ok r.primary) ∧
      blocks = bs ++ notice ∧
      bs.length = rs.length ∧
      (∀ (i : Nat) (r : Resolved) (b : String), rs[i]? = some r → bs[i]? = some b →
        (Codeframe.block docs p view i r.message).outcome = .ok b ∧
          ∃ rest, b = Codeframe.opening p view i r ++ rest) ∧
      lines = files.flatMap (Stylish.fileLines p view rs) ++ notice ∧
      (∀ (positionWidth ruleWidth : Nat) (r : Resolved),
        ∃ rest, Stylish.line p positionWidth ruleWidth r
          = "  " ++ r.primary.position ++ " " ++ rest) ∧
      (files.flatMap (ofFile rs)).Perm rs ∧
      notice.length = t ∧
      blocks.length = visible.length + t ∧
      lines.length = visible.length + 2 * files.length + t ∧
      (blocks = [] ↔ ∀ m ∈ msgs, m.ignored = true) ∧
      (lines = [] ↔ ∀ m ∈ msgs, m.ignored = true) := by
  intro visible files p view t
  have hroom : 0 ≤ o.maxMessages := Int.le_trans (by decide) hcap
  obtain ⟨bs, hidden, hbs, hhidden, rfl⟩ := blocks_of_renderMessages hroom hblocks
  obtain ⟨rs, hidden', hrs, hhidden', rfl⟩ := lines_of_renderMessages hroom hlines
  obtain rfl : hidden = hidden' := Except.ok.inj (hhidden.symm.trans hhidden')
  clear hblocks hlines hhidden'
  -- Both layouts come from the same resolved messages, and from the same notice.
  have hmessages : rs.map Resolved.message = visible := map_message_of_mapM hrs
  have hspans : ∀ r ∈ rs, r.message.primary.spanIn docs = .ok r.primary := fun r hr =>
    spanIn_of_mapM hrs hr
  have hcount : rs.length = visible.length := by rw [← hmessages, List.length_map]
  have hbcount : bs.length = rs.length := by
    rw [(of_mapM_eq_ok hbs).1, List.length_zipIdx, hcount]
  have hnotice : (hidden.map (noticeText p)).toList.length = t := by
    have hlength := length_of_hiddenBy hhidden
    rw [Selection.shownBeforeCap_ofMessages] at hlength
    rw [Option.toList_map, List.length_map, hlength]
  have hperm : (files.flatMap (ofFile rs)).Perm rs := by
    have hfiles := Stylish.perm_flatMap_ofFile rs
    rwa [hmessages] at hfiles
  have hflat : (Stylish.groupsOf rs).flatMap (Stylish.groupLines p view)
      = files.flatMap (Stylish.fileLines p view rs) := by
    rw [Stylish.flatMap_groupLines, hmessages]
  have hblockCount : (bs.map (Codeframe.Block.text p view)
      ++ (hidden.map (noticeText p)).toList).length = visible.length + t := by
    rw [List.length_append, List.length_map, hnotice, hbcount, hcount]
  have hlineCount : ((Stylish.groupsOf rs).flatMap (Stylish.groupLines p view)
      ++ (hidden.map (noticeText p)).toList).length = visible.length + 2 * files.length + t := by
    rw [hflat, List.length_append, Stylish.length_flatMap_fileLines, hperm.length_eq, hnotice,
      hcount]
  have hnone : (visible.length = 0 ∧ t = 0) ↔ ∀ m ∈ msgs, m.ignored = true :=
    Selection.nothing_shown_iff hcap
  have hfiles : files.length = 0 ↔ visible.length = 0 := by
    rw [List.length_eq_zero_iff, List.length_eq_zero_iff]
    exact filesOf_eq_nil
  refine ⟨rs, bs.map (Codeframe.Block.text p view), (hidden.map (noticeText p)).toList, hmessages,
    hspans, rfl, ?_, ?_, ?_, Stylish.line_exists p, hperm, hnotice, hblockCount, hlineCount, ?_, ?_⟩
  · rw [List.length_map, hbcount]
  · intro i r b hr hb
    exact Codeframe.text_of_blocksOf (hmessages.symm ▸ hbs) hspans hr hb
  · rw [← hflat]
  · rw [← hnone, ← List.length_eq_zero_iff, hblockCount]
    omega
  · rw [← hnone, ← List.length_eq_zero_iff, hlineCount]
    omega

/-- Three messages in two files, of which a cap of two leaves one out. -/
theorem layouts_agree_two_files :
    let docs : Documents := ⟨fun _ => .error .nullCharacter, .usual⟩
    let message := fun (s : Severity) (file : String) (line : Int) =>
      (⟨s, "m", "r", .span ⟨⟨file, some ""⟩, ⟨line, 1⟩, none, none⟩, none, [], false,
        none⟩ : Message)
    let msgs := [message .warning "/b" 1, message .error "/b" 2, message .error "/a" 3]
    let o : RenderOptions := ⟨2, "/", .codeframe, none⟩
    let run := fun layout =>
      (renderMessages docs ⟨[], none⟩ "/" { o with layout := layout } (some ⟨false⟩) msgs).outcome
    (1 : Int) ≤ o.maxMessages ∧
      run .codeframe = .ok [
        "[1] b:2:1 \n\nm\n\n\n\nError was generated by the r rule.\n\n",
        "[2] a:3:1 \n\nm\n\n\n\nError was generated by the r rule.\n\n",
        "< ... 1 more messages hidden > increase with `--max-messages N`"] ∧
      run .stylish = .ok ["b:", "  2:1   r m", "", "a:", "  3:1   r m", "",
        "< ... 1 more messages hidden > increase with `--max-messages N`"] ∧
      ∃ rs : List Resolved, rs.map Resolved.message
          = [message .error "/b" 2, message .error "/a" 3] ∧
        (["/b", "/a"].flatMap (ofFile rs)).Perm rs := by
  intro docs message msgs o run
  have hblocks : run .codeframe = .ok [
      "[1] b:2:1 \n\nm\n\n\n\nError was generated by the r rule.\n\n",
      "[2] a:3:1 \n\nm\n\n\n\nError was generated by the r rule.\n\n",
      "< ... 1 more messages hidden > increase with `--max-messages N`"] := by
    show (renderMessages _ _ _ _ _ _).outcome = _
    rw [outcome_renderMessages_of_nonneg (by decide), shownUnder, Selection.ofMessages_eq]
    decide +kernel
  have hlines : run .stylish = .ok ["b:", "  2:1   r m", "", "a:", "  3:1   r m", "",
      "< ... 1 more messages hidden > increase with `--max-messages N`"] := by
    show (renderMessages _ _ _ _ _ _).outcome = _
    rw [outcome_renderMessages_of_nonneg (by decide), shownUnder, Selection.ofMessages_eq]
    decide +kernel
  have hvisible : (Selection.ofMessages msgs o.maxMessages).visible
      = [message .error "/b" 2, message .error "/a" 3] := by
    rw [Selection.ofMessages_eq]
    rfl
  obtain ⟨rs, -, -, hmessages, -, -, -, -, -, -, hperm, -⟩ :=
    layouts_agree (o := o) (by decide) hblocks hlines
  rw [hvisible] at hmessages hperm
  exact ⟨by decide, hblocks, hlines, rs, hmessages, hperm⟩

end LintReport
