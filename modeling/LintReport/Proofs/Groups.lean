/-
What the groups of messages hold.

* `filesOf` — the files of messages, each where it comes first;
* `groupOf` — the group of a file: all its messages, in their order;
* `Stylish.groupsOf_eq` — grouping message by message comes to the groups of the files;
* `Stylish.perm_messages_groupsOf` — each message is in exactly one group.

Design notes: groups are made from the left, so the inductions here take messages away at the
right end.
-/
import Mathlib.Data.List.Induction
import LintReport.Proofs.Parts

namespace LintReport

/-- The files of messages, each where it comes first. -/
def filesOf (msgs : List Message) : List String := (msgs.map Message.file).eraseDups

/-- The resolved messages of a file. -/
def ofFile (rs : List Resolved) (file : String) : List Resolved :=
  rs.filter fun r => r.message.file = file

/-- The group of a file: all its messages, in their order. -/
def groupOf (rs : List Resolved) (file : String) : FileGroup :=
  (ofFile rs file).foldl FileGroup.extend (FileGroup.empty file)

/-! ### Files -/

theorem filesOf_concat (msgs : List Message) (m : Message) :
    filesOf (msgs ++ [m])
      = if m.file ∈ filesOf msgs then filesOf msgs else filesOf msgs ++ [m.file] := by
  rw [filesOf, List.map_append, List.eraseDups_append, List.map_singleton, filesOf]
  generalize msgs.map Message.file = files
  rw [List.removeAll, List.filter_singleton, List.elem_eq_contains]
  by_cases h : m.file ∈ files
  · rw [if_pos (List.mem_eraseDups.mpr h), List.contains_iff_mem.mpr h]
    exact List.append_nil _
  · have hnew : files.contains m.file = false := by simpa using h
    rw [if_neg fun hmem => h (List.mem_eraseDups.mp hmem), hnew]
    rfl

theorem mem_filesOf {msgs : List Message} {file : String} :
    file ∈ filesOf msgs ↔ ∃ m ∈ msgs, m.file = file := by
  rw [filesOf, List.mem_eraseDups, List.mem_map]

theorem nodup_filesOf (msgs : List Message) : (filesOf msgs).Nodup := by
  induction msgs using List.reverseRecOn with
  | nil => exact List.nodup_nil
  | append_singleton msgs m ih =>
    rw [filesOf_concat]
    by_cases h : m.file ∈ filesOf msgs
    · rw [if_pos h]
      exact ih
    · rw [if_neg h, List.nodup_append]
      refine ⟨ih, List.nodup_cons.mpr ⟨List.not_mem_nil, List.nodup_nil⟩, ?_⟩
      rintro file hfile other hother rfl
      rw [List.mem_singleton] at hother
      exact h (hother ▸ hfile)

theorem filesOf_eq_nil {msgs : List Message} : filesOf msgs = [] ↔ msgs = [] := by
  cases msgs with
  | nil => exact ⟨fun _ => rfl, fun _ => rfl⟩
  | cons m msgs =>
    have hmem : m.file ∈ filesOf (m :: msgs) := mem_filesOf.mpr ⟨m, List.mem_cons_self, rfl⟩
    refine ⟨fun h => ?_, fun h => by cases h⟩
    rw [h] at hmem
    cases hmem

/-! ### Groups -/

namespace FileGroup

theorem path_foldl_extend (g : FileGroup) (rs : List Resolved) :
    (rs.foldl extend g).path = g.path := by
  induction rs generalizing g with
  | nil => rfl
  | cons r rs ih => rw [List.foldl_cons, ih, extend]

theorem messages_foldl_extend (g : FileGroup) (rs : List Resolved) :
    (rs.foldl extend g).messages = g.messages ++ rs := by
  induction rs generalizing g with
  | nil => exact (List.append_nil _).symm
  | cons r rs ih => rw [List.foldl_cons, ih, extend, List.append_assoc, List.singleton_append]

end FileGroup

@[simp] theorem path_groupOf (rs : List Resolved) (file : String) :
    (groupOf rs file).path = file :=
  FileGroup.path_foldl_extend _ _

@[simp] theorem messages_groupOf (rs : List Resolved) (file : String) :
    (groupOf rs file).messages = ofFile rs file :=
  (FileGroup.messages_foldl_extend _ _).trans (List.nil_append _)

theorem ofFile_concat (rs : List Resolved) (r : Resolved) (file : String) :
    ofFile (rs ++ [r]) file
      = if r.message.file = file then ofFile rs file ++ [r] else ofFile rs file := by
  rw [ofFile, List.filter_append, ← ofFile]
  by_cases h : r.message.file = file
  · rw [if_pos h, List.filter_singleton]
    simp [h]
  · rw [if_neg h, List.filter_singleton]
    simp [h]

theorem groupOf_concat (rs : List Resolved) (r : Resolved) (file : String) :
    groupOf (rs ++ [r]) file
      = if r.message.file = file then (groupOf rs file).extend r else groupOf rs file := by
  rw [groupOf, ofFile_concat]
  by_cases h : r.message.file = file
  · rw [if_pos h, if_pos h, List.foldl_append]
    rfl
  · rw [if_neg h, if_neg h]
    rfl

theorem ofFile_eq_nil {rs : List Resolved} {file : String}
    (h : file ∉ filesOf (rs.map Resolved.message)) : ofFile rs file = [] := by
  rw [ofFile, List.filter_eq_nil_iff]
  intro r hr hfile
  exact h (mem_filesOf.mpr ⟨r.message, List.mem_map_of_mem hr, by simpa using hfile⟩)

namespace Stylish

/-- A message of a file that has no group yet opens one at the end. -/
theorem extendGroups_of_not_mem {r : Resolved} {gs : List FileGroup}
    (h : r.message.file ∉ gs.map FileGroup.path) :
    extendGroups r gs = gs ++ [(FileGroup.empty r.message.file).extend r] := by
  induction gs with
  | nil => rfl
  | cons g gs ih =>
    rw [List.map_cons, List.mem_cons, not_or] at h
    rw [extendGroups, if_neg (Ne.symm h.1), ih h.2, List.cons_append]

/-- A message of a file that has a group goes there, and leaves the other groups alone. -/
theorem extendGroups_map {r : Resolved} {files : List String} {group : String → FileGroup}
    (hpath : ∀ file, (group file).path = file) (hnodup : files.Nodup)
    (h : r.message.file ∈ files) :
    extendGroups r (files.map group)
      = files.map fun file =>
        if r.message.file = file then (group file).extend r else group file := by
  induction files with
  | nil => cases h
  | cons file files ih =>
    rw [List.nodup_cons] at hnodup
    rw [List.map_cons, List.map_cons, extendGroups, hpath]
    by_cases hfile : file = r.message.file
    · -- no other group is of this file, since no file comes twice
      have hrest : ∀ other ∈ files, group other
          = if r.message.file = other then (group other).extend r else group other := by
        intro other hother
        rw [if_neg]
        rintro rfl
        exact hnodup.1 (hfile ▸ hother)
      rw [if_pos hfile, if_pos hfile.symm, List.map_congr_left hrest]
    · rw [if_neg hfile, if_neg (Ne.symm hfile),
        ih hnodup.2 ((List.mem_cons.mp h).resolve_left (Ne.symm hfile))]

theorem groupsOf_concat (rs : List Resolved) (r : Resolved) :
    groupsOf (rs ++ [r]) = extendGroups r (groupsOf rs) := by
  rw [groupsOf, List.foldl_append]
  rfl

/-- **Grouping message by message comes to the groups of the files.** -/
theorem groupsOf_eq (rs : List Resolved) :
    groupsOf rs = (filesOf (rs.map Resolved.message)).map (groupOf rs) := by
  -- from the end, since that is where a message is added to the groups
  induction rs using List.reverseRecOn with
  | nil => rfl
  | append_singleton rs r ih =>
    have hgroup : groupOf (rs ++ [r])
        = fun file => if r.message.file = file then (groupOf rs file).extend r
            else groupOf rs file := by
      funext file
      exact groupOf_concat rs r file
    rw [groupsOf_concat, ih, List.map_append, List.map_singleton, filesOf_concat, hgroup]
    by_cases h : r.message.file ∈ filesOf (rs.map Resolved.message)
    · -- an old file: its group is the only one that changes
      rw [if_pos h, extendGroups_map (path_groupOf rs) (nodup_filesOf _) h]
    · -- a new file: its group comes last, and none of the others changes
      have hempty : groupOf rs r.message.file = FileGroup.empty r.message.file := by
        rw [groupOf, ofFile_eq_nil h]
        rfl
      have hold : ∀ file ∈ filesOf (rs.map Resolved.message), groupOf rs file
          = if r.message.file = file then (groupOf rs file).extend r else groupOf rs file := by
        intro file hfile
        rw [if_neg]
        rintro rfl
        exact h hfile
      rw [if_neg h, extendGroups_of_not_mem (by simpa using h), List.map_append,
        ← List.map_congr_left hold, List.map_singleton, if_pos rfl, hempty]

theorem perm_messages_extendGroups (r : Resolved) (gs : List FileGroup) :
    ((extendGroups r gs).flatMap FileGroup.messages).Perm
      (gs.flatMap FileGroup.messages ++ [r]) := by
  induction gs with
  | nil => exact List.Perm.refl _
  | cons g gs ih =>
    unfold extendGroups
    by_cases h : g.path = r.message.file
    · rw [if_pos h, List.flatMap_cons, List.flatMap_cons]
      show (g.messages ++ [r] ++ gs.flatMap FileGroup.messages).Perm _
      rw [List.append_assoc, List.append_assoc]
      exact List.Perm.append_left _ List.perm_append_comm
    · rw [if_neg h, List.flatMap_cons, List.flatMap_cons, List.append_assoc]
      exact List.Perm.append_left _ ih

/-- Each message is in exactly one group. -/
theorem perm_messages_groupsOf (rs : List Resolved) :
    ((groupsOf rs).flatMap FileGroup.messages).Perm rs := by
  induction rs using List.reverseRecOn with
  | nil => exact List.Perm.refl _
  | append_singleton rs r ih =>
    rw [groupsOf_concat]
    exact (perm_messages_extendGroups r _).trans (ih.append_right [r])

end Stylish

end LintReport
