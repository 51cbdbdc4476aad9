/-
Files as they are named from a directory.

* `Path.SharedBeginning` — the longest beginning that two lists of names share;
* `Path.Alike` — paths that differ at most in a second slash at their beginning;
* `Path.normal_alike_iff` — normal forms are alike exactly if their names are the same;
* `Path.collapse_stepsBetween` — the steps from one list of names to another lead there;
* `Viewpoint.path_faithful` — the path that a file is shown under leads back to the file, goes up
  no further than it must, and tells the file from all others.

Design notes: paths are compared by their names and never by their characters, so everything is
said of lists of names first.  A written path is turned into its names by cutting it at the
slashes, and that cutting undoes the writing is what carries the statements over to texts.
-/
import LintReport.Proofs.EscapeFree

namespace LintReport

namespace Path

variable {s t d n : String} {names kept origin goal shared : List String}

/-! ### Cutting at slashes -/

/-- A name that a path is written with: it is not empty, not a dot, and has no slash. -/
def IsName (n : String) : Prop := n ≠ "" ∧ n ≠ "." ∧ '/' ∉ n.toList

theorem slash_not_mem_of_mem_splitOn {cs piece : List Char} (h : piece ∈ cs.splitOn '/') :
    '/' ∉ piece := by
  induction cs generalizing piece with
  | nil => simp_all
  | cons c cs ih =>
    rw [List.splitOn_cons_eq_if_modifyHead] at h
    by_cases hc : c = '/'
    · simp only [hc, beq_self_eq_true, if_true, List.mem_cons] at h
      rcases h with rfl | h
      · simp
      · exact ih h
    · simp only [beq_iff_eq, hc, if_false] at h
      -- the character goes to the first piece, and leaves the others as they are
      obtain ⟨first, rest, hsplit⟩ := List.exists_cons_of_ne_nil (List.splitOn_ne_nil '/' cs)
      rw [hsplit, List.modifyHead_cons, List.mem_cons] at h
      rcases h with rfl | h
      · have hfirst : '/' ∉ first := ih (by simp [hsplit])
        simpa [hfirst] using fun heq : '/' = c => hc heq.symm
      · exact ih (by simp [hsplit, h])

theorem slash_not_mem_of_mem_segments (h : n ∈ segments s) : '/' ∉ n.toList := by
  obtain ⟨piece, hpiece, rfl⟩ := List.mem_map.mp h
  simpa using slash_not_mem_of_mem_splitOn hpiece

theorem segments_append_slash (s t : String) :
    segments (s ++ "/" ++ t) = segments s ++ segments t := by
  have hchars : (s ++ "/" ++ t).toList = s.toList ++ '/' :: t.toList := by simp
  rw [segments, hchars, List.splitOn_append_cons_self, List.map_append, segments, segments]

theorem segments_joined (hne : names ≠ []) (hslash : ∀ n ∈ names, '/' ∉ n.toList) :
    segments (joined names) = names := by
  have hchars : (joined names).toList = ['/'].intercalate (names.map String.toList) := by
    rw [joined, String.toList_intercalate]
    rfl
  have hpieces : ∀ piece ∈ names.map String.toList, '/' ∉ piece := by
    intro piece hpiece
    obtain ⟨n, hn, rfl⟩ := List.mem_map.mp hpiece
    exact hslash n hn
  rw [segments, hchars, List.splitOn_intercalate _ hpieces (by simpa using hne), List.map_map]
  exact (List.map_congr_left fun n _ => String.ofList_toList).trans (List.map_id _)

theorem isName_of_mem_named_segments (h : n ∈ named (segments s)) : IsName n := by
  obtain ⟨hn, hname⟩ := List.mem_filter.mp h
  simp only [Bool.and_eq_true, bne_iff_ne] at hname
  exact ⟨hname.1, hname.2, slash_not_mem_of_mem_segments hn⟩

theorem named_of_isName (h : ∀ n ∈ names, IsName n) : named names = names := by
  rw [named, List.filter_eq_self]
  intro n hn
  simp [(h n hn).1, (h n hn).2.1]

theorem named_append (xs ys : List String) : named (xs ++ ys) = named xs ++ named ys :=
  List.filter_append ..

/-- Names come back from the text that is written with them, none from the empty one. -/
theorem named_segments_joined (h : ∀ n ∈ names, IsName n) :
    named (segments (joined names)) = names := by
  by_cases hne : names = []
  · subst hne
    decide
  · rw [segments_joined hne fun n hn => (h n hn).2.2, named_of_isName h]

/-! ### Names without steps up -/

theorem collapseAfter_append (kept xs ys : List String) :
    collapseAfter kept (xs ++ ys) = collapseAfter (collapseAfter kept xs).reverse ys := by
  induction xs generalizing kept with
  | nil => simp [collapseAfter]
  | cons n xs ih =>
    simp only [List.cons_append, collapseAfter]
    split
    · exact ih _
    · exact ih _

theorem collapseAfter_of_not_mem (h : ".." ∉ names) :
    collapseAfter kept names = kept.reverse ++ names := by
  induction names generalizing kept with
  | nil => simp [collapseAfter]
  | cons n names ih =>
    simp only [List.mem_cons, not_or] at h
    rw [collapseAfter, if_neg fun heq => h.1 heq.symm, ih h.2]
    simp

/-- Steps up remove as many names as there are. -/
theorem collapseAfter_replicate (kept : List String) (count : Nat) :
    collapseAfter kept (List.replicate count "..") = (kept.drop count).reverse := by
  induction count generalizing kept with
  | zero => simp [collapseAfter]
  | succ count ih =>
    rw [List.replicate_succ, collapseAfter, if_pos rfl, ih, List.drop_tail]

theorem up_not_mem_collapseAfter (h : ".." ∉ kept) : ".." ∉ collapseAfter kept names := by
  induction names generalizing kept with
  | nil => simpa [collapseAfter] using h
  | cons n names ih =>
    unfold collapseAfter
    split
    · exact ih fun hmem => h (List.mem_of_mem_tail hmem)
    · rename_i hn
      exact ih (by simpa [h] using fun heq : ".." = n => hn heq.symm)

theorem up_not_mem_normalNames (s : String) : ".." ∉ normalNames s :=
  up_not_mem_collapseAfter List.not_mem_nil

theorem isName_of_mem_normalNames (h : n ∈ normalNames s) : IsName n := by
  rcases mem_collapseAfter h with hnil | hmem
  · cases hnil
  · exact isName_of_mem_named_segments hmem

/-! ### Normal forms -/

/-- Paths that differ at most in a second slash at their beginning. -/
def Alike (s t : String) : Prop := s = t ∨ s = "/" ++ t ∨ t = "/" ++ s

theorem rootMark_of_isAbsolute (h : isAbsolute s = true) :
    rootMark s = "/" ∨ rootMark s = "//" := by
  unfold isAbsolute at h
  unfold rootMark
  cases hchars : s.toList with
  | nil => simp [hchars] at h
  | cons c cs =>
    obtain rfl : c = '/' := by simpa [hchars] using h
    split
    · exact .inl rfl
    · exact .inr rfl
    · exact .inl rfl
    · simp_all

theorem named_segments_slash_append (t : String) :
    named (segments ("/" ++ t)) = named (segments t) := by
  have hsegments := segments_append_slash "" t
  rw [String.empty_append] at hsegments
  rw [hsegments, named_append]
  rfl

/-- The names of a normal form are those that it is written with. -/
theorem named_segments_normal (h : isAbsolute s = true) :
    named (segments (normal s)) = normalNames s := by
  have hnames : named (segments (joined (normalNames s))) = normalNames s :=
    named_segments_joined fun n hn => isName_of_mem_normalNames hn
  rcases rootMark_of_isAbsolute h with hroot | hroot
  · rw [normal, hroot, named_segments_slash_append, hnames]
  · have htwo : "//" ++ joined (normalNames s) = "/" ++ ("/" ++ joined (normalNames s)) := by
      rw [← String.append_assoc]
      rfl
    rw [normal, hroot, htwo, named_segments_slash_append, named_segments_slash_append, hnames]

/-- **Normal forms are alike exactly if their names are the same.** -/
theorem normal_alike_iff (hs : isAbsolute s = true) (ht : isAbsolute t = true) :
    Alike (normal s) (normal t) ↔ normalNames s = normalNames t := by
  constructor
  · intro h
    rw [← named_segments_normal hs, ← named_segments_normal ht]
    rcases h with h | h | h
    · rw [h]
    · rw [h, named_segments_slash_append]
    · rw [h, named_segments_slash_append]
  · intro h
    have htwo : "/" ++ ("/" ++ joined (normalNames t)) = "//" ++ joined (normalNames t) := by
      rw [← String.append_assoc]
      rfl
    simp only [Alike, normal, h]
    rcases rootMark_of_isAbsolute hs with hroot | hroot
    all_goals rcases rootMark_of_isAbsolute ht with hroot' | hroot'
    all_goals simp [hroot, hroot', htwo]

/-! ### The way from one list of names to another -/

/-- The longest beginning that two lists of names share. -/
structure SharedBeginning (shared xs ys : List String) : Prop where
  left : shared <+: xs
  right : shared <+: ys
  longest : ∀ l, l <+: xs → l <+: ys → l <+: shared

theorem sharedBeginning_commonNames (xs ys : List String) :
    SharedBeginning (commonNames xs ys) xs ys := by
  induction xs generalizing ys with
  | nil => exact ⟨List.nil_prefix, List.nil_prefix, fun l hl _ => hl⟩
  | cons x xs ih =>
    cases ys with
    | nil => exact ⟨List.nil_prefix, List.nil_prefix, fun l _ hl => hl⟩
    | cons y ys =>
      by_cases hxy : x = y
      · subst hxy
        obtain ⟨hleft, hright, hlongest⟩ := ih ys
        simp only [commonNames, if_true]
        refine ⟨by simpa using hleft, by simpa using hright, fun l hl hl' => ?_⟩
        cases l with
        | nil => exact List.nil_prefix
        | cons z l =>
          obtain ⟨hz, hrest⟩ := List.cons_prefix_cons.mp hl
          obtain ⟨-, hrest'⟩ := List.cons_prefix_cons.mp hl'
          exact List.cons_prefix_cons.mpr ⟨hz, hlongest l hrest hrest'⟩
      · rw [commonNames, if_neg hxy]
        refine ⟨List.nil_prefix, List.nil_prefix, fun l hl hl' => ?_⟩
        cases l with
        | nil => exact List.nil_prefix
        | cons z l =>
          -- a first name would be that of both lists
          have hx := (List.cons_prefix_cons.mp hl).1
          have hy := (List.cons_prefix_cons.mp hl').1
          exact absurd (hx.symm.trans hy) hxy

/-- The steps go up to the names that are shared, and then down to the goal. -/
theorem stepsBetween_eq (origin goal : List String) :
    ∃ shared down, SharedBeginning shared origin goal ∧ goal = shared ++ down ∧
      stepsBetween origin goal = List.replicate (origin.length - shared.length) ".." ++ down := by
  have hshared := sharedBeginning_commonNames origin goal
  obtain ⟨down, hdown⟩ := hshared.right
  refine ⟨commonNames origin goal, down, hshared, hdown.symm, ?_⟩
  have hdrop := @List.drop_left _ (commonNames origin goal) down
  rw [hdown] at hdrop
  rw [stepsBetween, hdrop]

/-- **The steps from one list of names to another lead there.** -/
theorem collapse_stepsBetween (hgoal : ".." ∉ goal) :
    collapseAfter origin.reverse (stepsBetween origin goal) = goal := by
  obtain ⟨shared, down, hshared, rfl, hsteps⟩ := stepsBetween_eq origin goal
  obtain ⟨beyond, rfl⟩ := hshared.left
  have hdown : ".." ∉ down := fun hmem => hgoal (List.mem_append_right _ hmem)
  -- going up drops what the origin has beyond the shared names
  have hup : collapseAfter (shared ++ beyond).reverse (List.replicate beyond.length "..")
      = shared := by
    rw [collapseAfter_replicate]
    simp
  have hcount : (shared ++ beyond).length - shared.length = beyond.length := by simp
  rw [hsteps, hcount, collapseAfter_append, hup, collapseAfter_of_not_mem hdown,
    List.reverse_reverse]

theorem isName_of_mem_stepsBetween (h : ∀ n ∈ goal, IsName n) :
    ∀ n ∈ stepsBetween origin goal, IsName n := by
  intro n hn
  rcases List.mem_append.mp hn with hup | hdown
  · rw [List.eq_of_mem_replicate hup]
    simp [IsName]
  · exact h n (List.mem_of_mem_drop hdown)

/-! ### Written paths -/

theorem isAbsolute_append (h : isAbsolute s = true) : isAbsolute (s ++ t) = true := by
  unfold isAbsolute at h ⊢
  cases hchars : s.toList with
  | nil => simp [hchars] at h
  | cons c cs => simpa [hchars] using h

theorem isAbsolute_absolute (h : isAbsolute d = true) : isAbsolute (absolute d s) = true := by
  unfold absolute
  split
  · assumption
  · split
    · exact isAbsolute_append h
    · rw [String.append_assoc]
      exact isAbsolute_append h

/-- The slash at the beginning of a path has an empty segment before it. -/
theorem empty_mem_segments (h : isAbsolute s = true) : "" ∈ segments s := by
  unfold isAbsolute at h
  cases hchars : s.toList with
  | nil => simp [hchars] at h
  | cons c cs =>
    obtain rfl : c = '/' := by simpa [hchars] using h
    have hs : s = "" ++ "/" ++ String.ofList cs := by
      rw [← String.toList_inj]
      simp [hchars]
    have hfirst : "" ∈ segments "" := by decide
    rw [hs, segments_append_slash]
    exact List.mem_append_left _ hfirst

/-- A path below a directory has the names of both, whether a slash ends the directory or not. -/
theorem named_segments_absolute (h : isAbsolute s = false) :
    named (segments (absolute d s)) = named (segments d) ++ named (segments s) := by
  rw [absolute, h, if_neg Bool.false_ne_true]
  split
  · rename_i hlast
    obtain ⟨cs, hcs⟩ := List.getLast?_eq_some_iff.mp hlast
    have hd : d = String.ofList cs ++ "/" := by
      rw [← String.toList_inj]
      simp [hcs]
    -- the last slash of the directory opens an empty segment, which names nothing
    have hnames : named (segments d) = named (segments (String.ofList cs)) := by
      have hsegments := segments_append_slash (String.ofList cs) ""
      rw [String.append_empty] at hsegments
      rw [hd, hsegments, named_append]
      exact List.append_nil _
    rw [hnames, hd, segments_append_slash, named_append]
  · rw [segments_append_slash, named_append]

theorem absolute_of_isAbsolute (h : isAbsolute s = true) : absolute d s = s := by
  rw [absolute, if_pos h]

/-- From an absolute directory an absolute path is written with the steps to it. -/
theorem relative?_eq {here : String} (hd : isAbsolute d = true) (hs : isAbsolute s = true) :
    relative? here d s = some (if stepsBetween (normalNames d) (normalNames s) = [] then "."
      else joined (stepsBetween (normalNames d) (normalNames s))) := by
  have hne : s ≠ "" := by
    rintro rfl
    exact absurd hs (by decide)
  rw [relative?, if_neg hne, absolute_of_isAbsolute hd, absolute_of_isAbsolute hs]
  split
  · rename_i hnil
    rw [if_pos hnil]
  · rename_i hsome
    rw [if_neg hsome]

end Path

namespace Viewpoint

variable {view : Viewpoint} {file : String}

theorem path_eq (hd : Path.isAbsolute view.directory = true) (hf : Path.isAbsolute file = true) :
    let steps := Path.stepsBetween (Path.normalNames view.directory) (Path.normalNames file)
    view.path file = if steps = [] then "." else Path.joined steps := by
  intro steps
  rw [path, shownPath, Path.relative?_eq hd hf]
  rfl

/-- The names of the shown path are the steps to the file. -/
theorem named_segments_path (hd : Path.isAbsolute view.directory = true)
    (hf : Path.isAbsolute file = true) :
    Path.named (Path.segments (view.path file))
      = Path.stepsBetween (Path.normalNames view.directory) (Path.normalNames file) := by
  rw [path_eq hd hf]
  split
  · rename_i hnil
    rw [hnil]
    decide
  · refine Path.named_segments_joined (Path.isName_of_mem_stepsBetween fun n hn => ?_)
    exact Path.isName_of_mem_normalNames hn

theorem isAbsolute_path (hd : Path.isAbsolute view.directory = true)
    (hf : Path.isAbsolute file = true) : Path.isAbsolute (view.path file) = false := by
  have hnames : ∀ n ∈ Path.stepsBetween (Path.normalNames view.directory) (Path.normalNames file),
      Path.IsName n :=
    Path.isName_of_mem_stepsBetween fun n hn => Path.isName_of_mem_normalNames hn
  rw [path_eq hd hf]
  split
  · rfl
  · rename_i hne
    by_contra habsolute
    have hempty := Path.empty_mem_segments (eq_true_of_ne_false habsolute)
    rw [Path.segments_joined hne fun n hn => (hnames n hn).2.2] at hempty
    exact (hnames _ hempty).1 rfl

/-- **A path that is shown from a directory is a faithful name of its file.**  For an absolute
directory and an absolute file there is such a path.  Joined to the directory it has the normal form
of the file.  It is a dot, or its names are as many steps up as the normal form of the directory has
names beyond those that it shares with the normal form of the file, and then the names of the file
beyond these.  Another file is shown under the same path exactly if it has the same normal form. -/
theorem path_faithful (hd : Path.isAbsolute view.directory = true)
    (hf : Path.isAbsolute file = true) :
    let path := view.path file
    let origin := Path.normalNames view.directory
    let goal := Path.normalNames file
    Path.relative? view.here view.directory file = some path ∧
      Path.Alike (Path.normal (Path.absolute view.directory path)) (Path.normal file) ∧
      (∃ shared down, Path.SharedBeginning shared origin goal ∧ goal = shared ++ down ∧
        "" ∉ down ∧ "." ∉ down ∧ ".." ∉ down ∧
        let steps := List.replicate (origin.length - shared.length) ".." ++ down
        (steps = [] → path = ".") ∧ (steps ≠ [] → Path.segments path = steps)) ∧
      ∀ other, Path.isAbsolute other = true →
        (view.path other = path ↔ Path.Alike (Path.normal other) (Path.normal file)) := by
  intro path origin goal
  have hgoal : ∀ n ∈ goal, Path.IsName n := fun n hn => Path.isName_of_mem_normalNames hn
  have hup : ".." ∉ goal := Path.up_not_mem_normalNames file
  have hpath : path = if Path.stepsBetween origin goal = [] then "."
      else Path.joined (Path.stepsBetween origin goal) := path_eq hd hf
  have hsteps : Path.named (Path.segments path) = Path.stepsBetween origin goal :=
    named_segments_path hd hf
  refine ⟨?_, ?_, ?_, fun other ho => ⟨fun hsame => ?_, fun halike => ?_⟩⟩
  · rw [hpath]
    exact Path.relative?_eq hd hf
  · -- the joined path has the names of the directory and then the steps from there to the file
    rw [Path.normal_alike_iff (Path.isAbsolute_absolute hd) hf, Path.normalNames,
      Path.named_segments_absolute (isAbsolute_path hd hf), hsteps, Path.collapse,
      Path.collapseAfter_append]
    exact Path.collapse_stepsBetween hup
  · obtain ⟨shared, down, hshared, hdown, heq⟩ := Path.stepsBetween_eq origin goal
    have hnames : ∀ n ∈ down, Path.IsName n ∧ n ≠ ".." := by
      intro n hn
      have hmem : n ∈ goal := hdown ▸ List.mem_append_right _ hn
      exact ⟨hgoal n hmem, fun heq => hup (heq ▸ hmem)⟩
    refine ⟨shared, down, hshared, hdown, fun h => (hnames _ h).1.1 rfl,
      fun h => (hnames _ h).1.2.1 rfl, fun h => (hnames _ h).2 rfl, fun hnil => ?_, fun hne => ?_⟩
    · rw [hpath, heq, if_pos hnil]
    · rw [hpath, heq, if_neg hne]
      refine Path.segments_joined hne fun n hn => ?_
      exact (Path.isName_of_mem_stepsBetween hgoal n (heq ▸ hn)).2.2
  · -- the path tells the steps, and the steps tell the names of the file
    have hother := named_segments_path hd ho
    rw [hsame] at hother
    have hlead : Path.stepsBetween origin (Path.normalNames other)
        = Path.stepsBetween origin goal := hother.symm.trans hsteps
    have hfile := @Path.collapse_stepsBetween origin _ (Path.up_not_mem_normalNames other)
    rw [hlead, Path.collapse_stepsBetween hup] at hfile
    exact (Path.normal_alike_iff ho hf).mpr hfile.symm
  · rw [Path.normal_alike_iff ho hf] at halike
    rw [hpath, path_eq hd ho, halike]

/-- A file that is written with a doubled slash and a detour: one step up leads from the directory
to the names that it shares with the file, and the file written plainly is shown alike. -/
theorem path_faithful_of_detour :
    let view : Viewpoint := ⟨"/home", "/proj//a/./b"⟩
    let file := "//project/../proj/a/c.yaml"
    Path.isAbsolute view.directory = true ∧ Path.isAbsolute file = true ∧
      Path.isAbsolute "/proj/a/c.yaml" = true ∧ view.path file = "../c.yaml" ∧
      Path.Alike (Path.normal (Path.absolute view.directory "../c.yaml")) (Path.normal file) ∧
      view.path "/proj/a/c.yaml" = "../c.yaml" := by
  intro view file
  have hpath : view.path file = "../c.yaml" := by decide +kernel
  have hnormal : Path.normal file = "/" ++ Path.normal "/proj/a/c.yaml" := by decide +kernel
  obtain ⟨-, hback, -, hsame⟩ := @path_faithful view file (by decide) (by decide)
  rw [hpath] at hback hsame
  exact ⟨by decide, by decide, by decide, hpath, hback,
    (hsame "/proj/a/c.yaml" (by decide)).mpr (.inr (.inr hnormal))⟩

end Viewpoint

end LintReport
