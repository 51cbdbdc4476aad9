/-
Grouping by file is a partition of the messages that keeps their order.

* `Resolved.IsResolvedBy` — the spans of a message are those that a resolver finds for its
  locations;
* `FileGroup.IsFitted` — the columns of a group are as wide as its messages need, no more and no
  less, which `FileGroup.IsFitted.extend` keeps in one addition and
  `FileGroup.isFitted_foldl_extend` in any number of them;
* `FileGroup.foldlM_add` — additions fail exactly if a position among them cannot be written;
* `Message.HasUnwritable` — a resolver finds a position for a message that cannot be written, which
  by `Message.not_hasUnwritable_of_ofText` is not so for the messages of a report;
* `groupByFile_partition` — the groups of messages, and the groups after each of them, for every
  resolver that finds a span for each of their locations.

Design notes: a group without messages has columns of width zero, so an invariant of additions
compares a width with zero and with the lengths in the column.  Behind the first addition zero is
of no account, since the column is not empty any more.
-/
import Mathlib.Order.Bounds.Basic
import LintReport.Proofs.Groups
import LintReport.Proofs.Positions

namespace LintReport

open Outcome

section

variable {ε : Type} {refuse : Text.Numeral.Error → ε} {resolve : Location → Attempt ε Span}
  {msgs : List Message} {rs : List Resolved}

/-! ### Resolvers -/

/-- The spans of a message are those that a resolver finds for its locations. -/
structure Resolved.IsResolvedBy (resolve : Location → Attempt ε Span) (r : Resolved) : Prop where
  primary : (resolve r.message.primary).outcome = .ok r.primary
  secondary : Option.Rel (fun l s => (resolve l).outcome = .ok s) r.message.secondary r.secondary

theorem Message.of_outcome_resolve {m : Message} {r : Resolved}
    (h : (m.resolve resolve).outcome = .ok r) : r.message = m ∧ r.IsResolvedBy resolve := by
  rw [Message.resolve, Attempt.outcome_bind] at h
  obtain ⟨primary, hprimary, h⟩ := bind_eq_ok.mp h
  rw [Attempt.outcome_bind, Attempt.outcome_optionMapM] at h
  obtain ⟨secondary, hsecondary, h⟩ := bind_eq_ok.mp h
  cases h
  exact ⟨rfl, hprimary, optionMapM_eq_ok.mp hsecondary⟩

theorem Message.exists_outcome_resolve {m : Message}
    (h : ∀ l ∈ m.locations, ∃ s, (resolve l).outcome = .ok s) :
    ∃ r, (m.resolve resolve).outcome = .ok r := by
  rw [← not_fails_iff, Message.resolve, Attempt.outcome_bind, fails_bind]
  -- a failure is that of the primary location, or else that of the secondary one
  rintro (hprimary | ⟨primary, -, hrest⟩)
  · exact not_fails_iff.mpr (h _ List.mem_cons_self) hprimary
  · rw [Attempt.outcome_bind, fails_bind, Attempt.outcome_optionMapM, fails_optionMapM] at hrest
    rcases hrest with ⟨l, hl, hfails⟩ | ⟨secondary, -, hfails⟩
    · have hmem : l ∈ m.locations := List.mem_cons_of_mem _ (Option.mem_toList.mpr hl)
      exact not_fails_iff.mpr (h l hmem) hfails
    · exact not_fails_ok _ hfails

/-- The spans of a resolved message are those found for its locations. -/
theorem Resolved.IsResolvedBy.mem_spans_iff {r : Resolved} (h : r.IsResolvedBy resolve)
    {s : Span} : s ∈ r.spans ↔ ∃ l ∈ r.message.locations, (resolve l).outcome = .ok s := by
  obtain ⟨⟨severity, text, rule, primary, secondary, suggestions, ignored, origin⟩,
    found, other⟩ := r
  have hprimary : (resolve primary).outcome = .ok found := h.primary
  have hsecondary : Option.Rel (fun l s => (resolve l).outcome = .ok s) secondary other :=
    h.secondary
  rw [Resolved.spans, Message.locations, List.mem_cons]
  cases hsecondary with
  | none => simp [hprimary, eq_comm]
  | some hfound => simp [hprimary, hfound, eq_comm]

/-- A location of a message is resolved to a position that cannot be written. -/
def Message.HasUnwritable (resolve : Location → Attempt ε Span) (m : Message) : Prop :=
  ∃ l ∈ m.locations, ∃ s, (resolve l).outcome = .ok s ∧ s.start.isWritable = false

theorem Resolved.IsResolvedBy.isWritable_iff {r : Resolved} (h : r.IsResolvedBy resolve) :
    r.isWritable = true ↔ ¬ r.message.HasUnwritable resolve := by
  rw [Resolved.isWritable, List.all_eq_true]
  constructor
  · rintro hall ⟨l, hl, s, hs, hunwritable⟩
    rw [hall s (h.mem_spans_iff.mpr ⟨l, hl, hs⟩)] at hunwritable
    cases hunwritable
  · intro hnone s hs
    obtain ⟨l, hl, hfound⟩ := h.mem_spans_iff.mp hs
    by_contra hunwritable
    exact hnone ⟨l, hl, s, hfound, Bool.eq_false_of_not_eq_true hunwritable⟩

theorem Message.of_resolvedWith {m : Message} {r : Resolved}
    (h : m.resolvedWith refuse resolve = .ok r) :
    r.message = m ∧ r.IsResolvedBy resolve ∧ r.isWritable = true := by
  obtain ⟨r', hr', h⟩ := bind_eq_ok.mp h
  obtain ⟨rfl, hwritable⟩ := Resolved.written_eq_ok_iff.mp h
  obtain ⟨hmessage, hresolved⟩ := Message.of_outcome_resolve hr'
  exact ⟨hmessage, hresolved, hwritable⟩

/-- Where all locations are resolved, a position that cannot be written is all that can be wrong
with a message. -/
theorem Message.resolvedWith_eq_error_iff {m : Message} {e : ε}
    (h : ∀ l ∈ m.locations, ∃ s, (resolve l).outcome = .ok s) :
    m.resolvedWith refuse resolve = .error e
      ↔ m.HasUnwritable resolve ∧ e = refuse .unwritable := by
  obtain ⟨r, hr⟩ := Message.exists_outcome_resolve h
  obtain ⟨rfl, hresolved⟩ := Message.of_outcome_resolve hr
  rw [Message.resolvedWith, hr, ok_bind, Resolved.written]
  by_cases hwritable : r.isWritable = true
  · rw [if_pos hwritable]
    simp [hresolved.isWritable_iff.mp hwritable]
  · rw [if_neg hwritable, Except.error.injEq]
    have hunwritable : r.message.HasUnwritable resolve :=
      not_not.mp (mt hresolved.isWritable_iff.mpr hwritable)
    simp [hunwritable, eq_comm]

theorem exists_mapM_resolvedWith
    (h : ∀ m ∈ msgs, ∀ l ∈ m.locations, ∃ s, (resolve l).outcome = .ok s)
    (hwritable : ∀ m ∈ msgs, ¬ m.HasUnwritable resolve) :
    ∃ rs, msgs.mapM (Message.resolvedWith refuse resolve) = .ok rs := by
  rw [← not_fails_iff, fails_mapM]
  rintro ⟨m, hm, e, he⟩
  exact hwritable m hm ((Message.resolvedWith_eq_error_iff (h m hm)).mp he).1

end

/-! ### Widths -/

/-- The greatest number of a list, after more numbers were put in one by one. -/
theorem isGreatest_foldl_max {ms : List Nat} {w : Nat} (h : IsGreatest {n | n ∈ ms} w)
    (ns : List Nat) : IsGreatest {n | n ∈ ms ++ ns} (ns.foldl max w) := by
  -- for every start, since the number put in first belongs to the next start
  induction ns generalizing ms w with
  | nil => rwa [List.append_nil]
  | cons n ns ih =>
    have hinsert : {k | k ∈ ms ++ [n]} = insert n {k | k ∈ ms} := by
      ext k
      simp [or_comm]
    have hnext : IsGreatest {k | k ∈ ms ++ [n]} (max w n) := by
      rw [hinsert, max_comm]
      exact h.insert n
    rw [List.append_cons, List.foldl_cons]
    exact ih hnext

/-- Beside a number of a list, zero is of no account for the greatest one. -/
theorem isGreatest_of_cons_zero {ns : List Nat} {w : Nat} (hne : ns ≠ [])
    (h : IsGreatest {n | n ∈ 0 :: ns} w) : IsGreatest {n | n ∈ ns} w := by
  obtain ⟨hmem, hle⟩ := h
  refine ⟨?_, fun n hn => hle (List.mem_cons_of_mem 0 hn)⟩
  rcases List.mem_cons.mp hmem with rfl | hmem
  · obtain ⟨n, hn⟩ := List.exists_mem_of_ne_nil ns hne
    have hzero : n ≤ 0 := hle (List.mem_cons_of_mem 0 hn)
    rwa [Nat.le_zero.mp hzero] at hn
  · exact hmem

namespace FileGroup

variable {g : FileGroup}

/-- The lengths of the names of the rules in a group. -/
def ruleLengths (g : FileGroup) : List Nat := g.messages.map fun r => r.message.rule.length

/-- The lengths of all positions in a group, those of secondary spans included. -/
def positionLengths (g : FileGroup) : List Nat :=
  g.messages.flatMap fun r => r.spans.map fun s => s.position.length

/-- The columns of a group are as wide as its messages need, no more and no less. -/
structure IsFitted (g : FileGroup) : Prop where
  rule : IsGreatest {n | n ∈ 0 :: g.ruleLengths} g.ruleWidth
  position : IsGreatest {n | n ∈ 0 :: g.positionLengths} g.positionWidth

theorem isFitted_empty (path : String) : (empty path).IsFitted := by
  have hzero : IsGreatest {n | n ∈ [0]} 0 := ⟨List.mem_singleton_self 0, by simp⟩
  exact ⟨hzero, hzero⟩

theorem ruleLengths_extend (g : FileGroup) (r : Resolved) :
    (g.extend r).ruleLengths = g.ruleLengths ++ [r.message.rule.length] := by
  simp [ruleLengths, extend]

theorem positionLengths_extend (g : FileGroup) (r : Resolved) :
    (g.extend r).positionLengths
      = g.positionLengths ++ r.spans.map fun s => s.position.length := by
  simp [positionLengths, extend]

/-- One more message keeps the columns fitted. -/
theorem IsFitted.extend (h : g.IsFitted) (r : Resolved) : (g.extend r).IsFitted where
  rule := by
    rw [ruleLengths_extend]
    exact isGreatest_foldl_max h.rule [r.message.rule.length]
  position := by
    rw [positionLengths_extend]
    exact isGreatest_foldl_max h.position _

theorem isFitted_foldl_extend (path : String) (rs : List Resolved) :
    (rs.foldl FileGroup.extend (empty path)).IsFitted := by
  -- from the end, where messages are added
  induction rs using List.reverseRecOn with
  | nil => exact isFitted_empty path
  | append_singleton rs r ih =>
    rw [List.foldl_append]
    exact ih.extend r

/-- Messages can be added exactly if all their positions can be written. -/
theorem foldlM_add (g : FileGroup) (rs : List Resolved) :
    rs.foldlM add g
      = if ∀ r ∈ rs, r.isWritable = true then .ok (rs.foldl extend g)
        else .error .unwritable := by
  induction rs generalizing g with
  | nil => simp
  | cons r rs ih =>
    rw [List.foldlM_cons, List.foldl_cons, add]
    by_cases h : r.isWritable = true
    · rw [if_pos h, ok_bind, ih]
      simp [h]
    · rw [if_neg h, error_bind, if_neg]
      exact fun hall => h (hall r List.mem_cons_self)

/-- In a group with messages the columns are exactly as wide as their widest entries. -/
theorem IsFitted.isGreatest (h : g.IsFitted) (hne : g.messages ≠ []) :
    IsGreatest {n | n ∈ g.ruleLengths} g.ruleWidth ∧
      IsGreatest {n | n ∈ g.positionLengths} g.positionWidth := by
  obtain ⟨r, rest, hmessages⟩ := List.exists_cons_of_ne_nil hne
  refine ⟨isGreatest_of_cons_zero ?_ h.rule, isGreatest_of_cons_zero ?_ h.position⟩
  · simp [ruleLengths, hmessages]
  · simp [positionLengths, hmessages, Resolved.spans]

end FileGroup

/-! ### Partition -/

section

variable {ε : Type} {refuse : Text.Numeral.Error → ε} {resolve : Location → Attempt ε Span}
  {msgs : List Message}

/-- Groups are a partition of messages by file: one group for each file, in the order in which the
files come first, with the messages of the file in their order, each with its spans, and with
columns exactly as wide as the widest entries. -/
structure IsPartition (resolve : Location → Attempt ε Span) (msgs : List Message)
    (gs : List FileGroup) : Prop where
  paths : gs.map FileGroup.path = (msgs.map Message.file).eraseDups
  nodup : (gs.map FileGroup.path).Nodup
  messages : ∀ g ∈ gs, g.messages.map Resolved.message = msgs.filter fun m => m.file = g.path
  resolved : ∀ g ∈ gs, ∀ r ∈ g.messages, r.IsResolvedBy resolve
  added : ∀ g ∈ gs, g.messages.foldlM FileGroup.add (FileGroup.empty g.path) = .ok g
  ruleWidth : ∀ g ∈ gs, IsGreatest {n | n ∈ g.ruleLengths} g.ruleWidth
  positionWidth : ∀ g ∈ gs, IsGreatest {n | n ∈ g.positionLengths} g.positionWidth

theorem map_message_ofFile (rs : List Resolved) (file : String) :
    (ofFile rs file).map Resolved.message
      = (rs.map Resolved.message).filter fun m => m.file = file := by
  rw [ofFile, List.filter_map]
  rfl

theorem foldlM_add_groupOf {rs : List Resolved} (h : ∀ r ∈ rs, r.isWritable = true)
    (file : String) :
    (groupOf rs file).messages.foldlM FileGroup.add (FileGroup.empty (groupOf rs file).path)
      = .ok (groupOf rs file) := by
  rw [messages_groupOf, path_groupOf, FileGroup.foldlM_add, if_pos]
  · rfl
  · exact fun r hr => h r (List.mem_filter.mp hr).1

/-- The group of a file has a message, as its file comes from one. -/
theorem messages_groupOf_ne_nil {rs : List Resolved} {file : String}
    (h : file ∈ filesOf (rs.map Resolved.message)) : (groupOf rs file).messages ≠ [] := by
  obtain ⟨m, hm, hfile⟩ := mem_filesOf.mp h
  obtain ⟨r, hr, rfl⟩ := List.mem_map.mp hm
  rw [messages_groupOf]
  exact List.ne_nil_of_mem (List.mem_filter.mpr ⟨hr, decide_eq_true hfile⟩)

theorem isPartition_groupsOf {rs : List Resolved} (hmessages : rs.map Resolved.message = msgs)
    (hresolved : ∀ r ∈ rs, r.IsResolvedBy resolve) (hwritable : ∀ r ∈ rs, r.isWritable = true) :
    IsPartition resolve msgs (Stylish.groupsOf rs) := by
  subst hmessages
  have hpaths : (Stylish.groupsOf rs).map FileGroup.path = filesOf (rs.map Resolved.message) := by
    rw [Stylish.groupsOf_eq, List.map_map, show FileGroup.path ∘ groupOf rs = id from
      funext fun file => path_groupOf rs file, List.map_id]
  -- every group is the group of a file, so it is enough to look at these
  have hgroups : ∀ g ∈ Stylish.groupsOf rs,
      ∃ file ∈ filesOf (rs.map Resolved.message), groupOf rs file = g := by
    intro g hg
    rw [Stylish.groupsOf_eq] at hg
    exact List.mem_map.mp hg
  have hfitted : ∀ file ∈ filesOf (rs.map Resolved.message),
      IsGreatest {n | n ∈ (groupOf rs file).ruleLengths} (groupOf rs file).ruleWidth ∧
        IsGreatest {n | n ∈ (groupOf rs file).positionLengths} (groupOf rs file).positionWidth := by
    intro file hfile
    exact (FileGroup.isFitted_foldl_extend file _).isGreatest (messages_groupOf_ne_nil hfile)
  refine ⟨hpaths, hpaths ▸ nodup_filesOf _, ?_, ?_, ?_, ?_, ?_⟩
  · rintro g hg
    obtain ⟨file, -, rfl⟩ := hgroups g hg
    rw [messages_groupOf, path_groupOf, map_message_ofFile]
  · intro g hg r hr
    obtain ⟨file, -, rfl⟩ := hgroups g hg
    rw [messages_groupOf] at hr
    exact hresolved r (List.mem_filter.mp hr).1
  · intro g hg
    obtain ⟨file, -, rfl⟩ := hgroups g hg
    exact foldlM_add_groupOf hwritable file
  · intro g hg
    obtain ⟨file, hfile, rfl⟩ := hgroups g hg
    exact (hfitted file hfile).1
  · intro g hg
    obtain ⟨file, hfile, rfl⟩ := hgroups g hg
    exact (hfitted file hfile).2

/-- Whatever the resolver, the groups of messages are a partition of them. -/
theorem isPartition_of_groupByFile {gs : List FileGroup}
    (h : (groupByFile refuse resolve msgs).outcome = .ok gs) : IsPartition resolve msgs gs := by
  rw [Stylish.outcome_groupByFile_eq] at h
  obtain ⟨rs, hrs, rfl⟩ := map_eq_ok.mp h
  have hmessages : rs.map Resolved.message = msgs :=
    map_of_mapM_eq_ok (fun _ _ hr => (Message.of_resolvedWith hr).1) hrs
  have hparts : ∀ r ∈ rs, r.IsResolvedBy resolve ∧ r.isWritable = true := by
    intro r hr
    obtain ⟨m, -, hm⟩ := exists_of_mem_mapM hrs hr
    exact (Message.of_resolvedWith hm).2
  exact isPartition_groupsOf hmessages (fun r hr => (hparts r hr).1) fun r hr => (hparts r hr).2

/-- The positions of the messages in groups can be written, or they were not added. -/
theorem IsPartition.isWritable {gs : List FileGroup} (h : IsPartition resolve msgs gs)
    {g : FileGroup} (hg : g ∈ gs) {r : Resolved} (hr : r ∈ g.messages) : r.isWritable = true := by
  have hadded := h.added g hg
  rw [FileGroup.foldlM_add] at hadded
  by_cases hall : ∀ r ∈ g.messages, r.isWritable = true
  · exact hall r hr
  · rw [if_neg hall] at hadded
    cases hadded

theorem IsPartition.rule_le {gs : List FileGroup} (h : IsPartition resolve msgs gs) {g : FileGroup}
    (hg : g ∈ gs) {r : Resolved} (hr : r ∈ g.messages) : r.message.rule.length ≤ g.ruleWidth :=
  (h.ruleWidth g hg).2 (List.mem_map.mpr ⟨r, hr, rfl⟩)

theorem IsPartition.position_le {gs : List FileGroup} (h : IsPartition resolve msgs gs)
    {g : FileGroup} (hg : g ∈ gs) {r : Resolved} (hr : r ∈ g.messages) {s : Span}
    (hs : s ∈ r.spans) : s.position.length ≤ g.positionWidth :=
  (h.positionWidth g hg).2 (List.mem_flatMap.mpr ⟨r, hr, List.mem_map_of_mem hs⟩)

/-- Two messages stand in one of the groups together. -/
def InOneGroup (gs : List FileGroup) (m m' : Message) : Prop :=
  ∃ g ∈ gs, m ∈ g.messages.map Resolved.message ∧ m' ∈ g.messages.map Resolved.message

/-- Messages stand in one group exactly if they are about the same file. -/
theorem IsPartition.inOneGroup_iff {gs : List FileGroup} (h : IsPartition resolve msgs gs)
    {m m' : Message} (hm : m ∈ msgs) (hm' : m' ∈ msgs) :
    InOneGroup gs m m' ↔ m.file = m'.file := by
  constructor
  · rintro ⟨g, hg, hin, hin'⟩
    rw [h.messages g hg, List.mem_filter, decide_eq_true_iff] at hin hin'
    exact hin.2.trans hin'.2.symm
  · intro hfile
    have hpath : m.file ∈ gs.map FileGroup.path := by
      rw [h.paths]
      exact mem_filesOf.mpr ⟨m, hm, rfl⟩
    obtain ⟨g, hg, hgroup⟩ := List.mem_map.mp hpath
    refine ⟨g, hg, ?_, ?_⟩
    · rw [h.messages g hg, List.mem_filter, decide_eq_true_iff]
      exact ⟨hm, hgroup.symm⟩
    · rw [h.messages g hg, List.mem_filter, decide_eq_true_iff]
      exact ⟨hm', (hgroup.trans hfile).symm⟩

theorem exists_groupByFile
    (h : ∀ m ∈ msgs, ∀ l ∈ m.locations, ∃ s, (resolve l).outcome = .ok s)
    (hwritable : ∀ m ∈ msgs, ¬ m.HasUnwritable resolve) :
    ∃ gs, (groupByFile refuse resolve msgs).outcome = .ok gs := by
  obtain ⟨rs, hrs⟩ := exists_mapM_resolvedWith h hwritable
  exact ⟨Stylish.groupsOf rs, by rw [Stylish.outcome_groupByFile_eq, hrs, map_ok]⟩

end

end LintReport
