/-
Which settings file applies to a directory.

* `Path.IsAbove`, `Path.Nearest` — the directories above another one, itself included, and the
  nearest of them that has a property;
* `SettingsFile.outcome_discover_iff` — the nearest directory that is not passed by decides;
* `SettingsFile.Offers` — the file that a directory has for itself and all below it;
* `SettingsFile.discover_documented_iff` — the nearest offer is found unless a directory before
  it goes astray, and what lies farther away has no say.

Design notes: it is documented that a table about the formatter counts whatever it holds.  The
search asks for one that holds something, so the two rules are one definition with a parameter.
-/
import LintReport.Proofs.Refusals

namespace LintReport

open Outcome

/-! ### The nearest directory -/

namespace Path

variable {root : String} {d p start : Path} {P Q : Path → Prop}

/-- A directory is the path itself or stands above it. -/
def IsAbove (d p : Path) : Prop := d.root = p.root ∧ d.names <+: p.names

/-- The nearest of the directories above a path, itself included, that have a property. -/
structure Nearest (P : Path → Prop) (start d : Path) : Prop where
  isAbove : d.IsAbove start
  holds : P d
  nearer : ∀ a, a.IsAbove start → d.names.length < a.names.length → ¬ P a

theorem mem_withAncestors {names : List String} :
    d ∈ withAncestors root names ↔ d.root = root ∧ d.names.reverse <:+ names := by
  obtain ⟨mark, own⟩ := d
  induction names with
  | nil => simp [withAncestors]
  | cons n rest ih =>
    rw [withAncestors, List.mem_cons, ih, List.suffix_cons_iff, Path.mk.injEq, List.reverse_eq_iff]
    tauto

theorem mem_selfAndAncestors : d ∈ p.selfAndAncestors ↔ d.IsAbove p := by
  rw [selfAndAncestors, mem_withAncestors, List.reverse_suffix]
  rfl

/-- On the way up the directories lose their names one by one. -/
theorem pairwise_withAncestors (root : String) (names : List String) :
    (withAncestors root names).Pairwise fun a b => b.names.length < a.names.length := by
  induction names with
  | nil => exact List.pairwise_singleton _ _
  | cons n rest ih =>
    refine List.pairwise_cons.mpr ⟨fun b hb => ?_, ih⟩
    have hlength := (mem_withAncestors.mp hb).2.length_le
    simp only [List.length_reverse, List.length_cons] at hlength ⊢
    omega

/-- Before a directory on the way up come those that are nearer. -/
theorem mem_before_iff {as bs : List Path} (hway : start.selfAndAncestors = as ++ d :: bs)
    {a : Path} : a ∈ as ↔ a.IsAbove start ∧ d.names.length < a.names.length := by
  have hpairwise := pairwise_withAncestors start.root start.names.reverse
  rw [show withAncestors start.root start.names.reverse = as ++ d :: bs from hway,
    List.pairwise_append, List.pairwise_cons] at hpairwise
  obtain ⟨-, ⟨hafter, -⟩, hbefore⟩ := hpairwise
  rw [← mem_selfAndAncestors, hway, List.mem_append]
  constructor
  · intro ha
    exact ⟨.inl ha, hbefore a ha d List.mem_cons_self⟩
  · rintro ⟨ha | ha, hlonger⟩
    · exact ha
    · -- what comes after the directory is shorter
      rcases List.mem_cons.mp ha with rfl | ha
      · omega
      · have := hafter a ha
        omega

/-- On the way up the first directory with a property is the nearest one. -/
theorem exists_first_iff_nearest :
    (∃ as d bs, start.selfAndAncestors = as ++ d :: bs ∧ (∀ a ∈ as, ¬ P a) ∧ P d ∧ Q d)
      ↔ ∃ d, Nearest P start d ∧ Q d := by
  constructor
  · rintro ⟨as, d, bs, hway, has, hd, hq⟩
    have habove : d.IsAbove start := mem_selfAndAncestors.mp (by simp [hway])
    exact ⟨d, ⟨habove, hd, fun a ha hlonger => has a ((mem_before_iff hway).mpr ⟨ha, hlonger⟩)⟩, hq⟩
  · rintro ⟨d, hd, hq⟩
    obtain ⟨as, bs, hway⟩ := List.append_of_mem (mem_selfAndAncestors.mpr hd.isAbove)
    refine ⟨as, d, bs, hway, fun a ha => ?_, hd.holds, hq⟩
    obtain ⟨habove, hlonger⟩ := (mem_before_iff hway).mp ha
    exact hd.nearer a habove hlonger

/-- There is one nearest directory at most. -/
theorem Nearest.unique {d' : Path} (h : Nearest P start d) (h' : Nearest P start d') : d = d' := by
  have hlength : d.names.length = d'.names.length := by
    rcases Nat.lt_trichotomy d.names.length d'.names.length with hlt | heq | hgt
    · exact absurd h'.holds (h.nearer d' h'.isAbove hlt)
    · exact heq
    · exact absurd h.holds (h'.nearer d h.isAbove hgt)
  have hnames : d.names = d'.names :=
    (List.prefix_of_prefix_length_le h.isAbove.2 h'.isAbove.2 hlength.le).eq_of_length hlength
  have hroot : d.root = d'.root := h.isAbove.1.trans h'.isAbove.1.symm
  cases d
  cases d'
  simp_all

/-- If a directory above has a property, there is a nearest one. -/
theorem exists_nearest (habove : d.IsAbove start) (hd : P d) : ∃ d', Nearest P start d' := by
  have hfirst : ∀ ds : List Path, d ∈ ds →
      ∃ as x bs, ds = as ++ x :: bs ∧ (∀ a ∈ as, ¬ P a) ∧ P x := by
    intro ds hmem
    induction ds with
    | nil => cases hmem
    | cons x ds ih =>
      rw [exists_first_cons]
      by_cases hx : P x
      · exact .inl hx
      · refine .inr ⟨hx, ih ((List.mem_cons.mp hmem).resolve_left ?_)⟩
        rintro rfl
        exact hx hd
  obtain ⟨as, x, bs, hway, has, hx⟩ := hfirst _ (mem_selfAndAncestors.mpr habove)
  obtain ⟨d', hd', -⟩ := (exists_first_iff_nearest (Q := fun _ => True)).mp
    ⟨as, x, bs, hway, has, hx, trivial⟩
  exact ⟨d', hd'⟩

end Path

/-! ### One directory -/

namespace SettingsFile

variable {limits : Limits} {tree tree' : FileTree} {d start : Path} {counts : Fields → Prop}

/-- The file that a directory has for itself and all below it: the file of its own, or else its
project file, if that has a table about the formatter that counts. -/
@[mk_iff]
inductive Offers (counts : Fields → Prop) (limits : Limits) (tree : FileTree) (d : Path) :
    Path → Prop
  | own (h : tree.isFile (d.below ownName).toString = .ok true) :
      Offers counts limits tree d (d.below ownName)
  | project {fields table : Fields} (hown : tree.isFile (d.below ownName).toString ≠ .ok true)
      (hproject : tree.isFile (d.below projectName).toString = .ok true)
      (hread : (read limits tree (d.below projectName)).outcome = .ok fields)
      (htable : table? (d.below projectName) fields = some table) (hcounts : counts table) :
      Offers counts limits tree d (d.below projectName)

/-- Directories that stop a search: a path cannot be looked at, or the project file is in trouble
that is not passed over. -/
@[mk_iff]
inductive Blocks (limits : Limits) (tree : FileTree) (d : Path) : Prop
  | own {e : FileError} (h : tree.isFile (d.below ownName).toString = .error e)
  | project {e : FileError} (hown : tree.isFile (d.below ownName).toString = .ok false)
      (h : tree.isFile (d.below projectName).toString = .error e)
  | unreadable (hown : tree.isFile (d.below ownName).toString = .ok false)
      (hproject : tree.isFile (d.below projectName).toString = .ok true)
      (h : Unreadable limits tree (d.below projectName))

/-- What a search makes of one directory. -/
def lookIn (limits : Limits) (tree : FileTree) (d : Path) : Except Fault (Option Path) := do
  let own ← (isFile tree (d.below ownName)).outcome
  if own then .ok (some (d.below ownName))
  else
    let project ← (isInProject limits tree (d.below projectName)).outcome
    .ok (if project then some (d.below projectName) else none)

/-- A directory that does not stop a search decides it exactly with what it offers. -/
theorem lookIn_eq_some_iff {p : Path} :
    lookIn limits tree d = .ok (some p)
      ↔ ¬ Blocks limits tree d ∧ Offers (· ≠ []) limits tree d p := by
  rw [offers_iff, blocks_iff, lookIn, outcome_isInProject, outcome_isFile, outcome_isFile]
  cases tree.isFile (d.below ownName).toString with
  | error e => simp [Except.mapError]
  | ok own =>
    cases own with
    | true => simp [Except.mapError, eq_comm]
    | false =>
      cases tree.isFile (d.below projectName).toString with
      | error e => simp [Except.mapError]
      | ok found =>
        cases found with
        | false => simp [Except.mapError]
        | true =>
          rw [← fails_read]
          cases (read limits tree (d.below projectName)).outcome with
          | error f => simp [Except.mapError]
          | ok fields =>
            cases htable : table? (d.below projectName) fields with
            | none => simp [Except.mapError, htable]
            | some table =>
              cases table with
              | nil => simp [Except.mapError, htable]
              | cons field rest => simp [Except.mapError, htable, eq_comm]

theorem fails_lookIn : Fails (lookIn limits tree d) ↔ Blocks limits tree d := by
  rw [blocks_iff, lookIn, outcome_isInProject, outcome_isFile, outcome_isFile]
  cases tree.isFile (d.below ownName).toString with
  | error e => simp [Except.mapError]
  | ok own =>
    cases own with
    | true => simp [Except.mapError]
    | false =>
      cases tree.isFile (d.below projectName).toString with
      | error e => simp [Except.mapError]
      | ok found =>
        cases found with
        | false => simp [Except.mapError]
        | true =>
          rw [← fails_read]
          simp [Except.mapError, fails_bind]

/-- Directories that a search passes by. -/
theorem lookIn_eq_none_iff :
    lookIn limits tree d = .ok none
      ↔ ¬ Blocks limits tree d ∧ ∀ p, ¬ Offers (· ≠ []) limits tree d p := by
  constructor
  · intro h
    have hfree : ¬ Blocks limits tree d := by
      rw [← fails_lookIn, h]
      exact not_fails_ok _
    refine ⟨hfree, fun p hp => ?_⟩
    cases h.symm.trans (lookIn_eq_some_iff.mpr ⟨hfree, hp⟩)
  · rintro ⟨hfree, hnone⟩
    obtain ⟨found, hfound⟩ := not_fails_iff.mp (mt fails_lookIn.mp hfree)
    cases found with
    | none => exact hfound
    | some p => exact absurd (lookIn_eq_some_iff.mp hfound).2 (hnone p)

/-- Directories that a search does not pass by. -/
theorem lookIn_ne_none_iff :
    lookIn limits tree d ≠ .ok none
      ↔ Blocks limits tree d ∨ ∃ p, Offers (· ≠ []) limits tree d p := by
  rw [Ne, lookIn_eq_none_iff, ← not_exists, ← not_or, not_not]

/-! ### The way up -/

/-- The search in a directory decides, or it goes on above. -/
theorem outcome_discoverIn (limits : Limits) (tree : FileTree) (d : Path) (ds : List Path) :
    (discoverIn limits tree (d :: ds)).outcome
      = lookIn limits tree d >>= fun found =>
        found.elim (discoverIn limits tree ds).outcome (.ok ∘ some) := by
  rw [outcome_discoverIn_cons, lookIn]
  cases (isFile tree (d.below ownName)).outcome with
  | error e => rfl
  | ok own =>
    cases own with
    | true => rfl
    | false =>
      cases (isInProject limits tree (d.below projectName)).outcome with
      | error e => rfl
      | ok project =>
        cases project with
        | true => rfl
        | false => rfl

/-- A search through directories ends with the first one that is not passed by. -/
theorem outcome_discoverIn_iff {ds : List Path} {r : Except Fault (Option Path)} :
    (discoverIn limits tree ds).outcome = r
      ↔ (∃ as d bs, ds = as ++ d :: bs ∧ (∀ a ∈ as, ¬ lookIn limits tree a ≠ .ok none)
            ∧ lookIn limits tree d ≠ .ok none ∧ lookIn limits tree d = r)
          ∨ (∀ d ∈ ds, lookIn limits tree d = .ok none) ∧ r = .ok none := by
  induction ds with
  | nil =>
    show .ok none = r ↔ _
    simp [eq_comm]
  | cons d ds ih =>
    rw [outcome_discoverIn, exists_first_cons, List.forall_mem_cons]
    cases hlook : lookIn limits tree d with
    | error f => simp
    | ok found =>
      cases found with
      | none => simp [ih]
      | some p => simp

/-- **The nearest directory that is not passed by decides**, and without one there is no file. -/
theorem outcome_discover_iff {r : Except Fault (Option Path)} :
    (discover limits tree start).outcome = r
      ↔ (∃ d, Path.Nearest (fun a => lookIn limits tree a ≠ .ok none) start d
          ∧ lookIn limits tree d = r)
          ∨ (∀ d, d.IsAbove start → lookIn limits tree d = .ok none) ∧ r = .ok none := by
  have hsame : (discover limits tree start).outcome
      = (discoverIn limits tree start.selfAndAncestors).outcome := by
    rw [discover, Attempt.outcome_bind]
    cases (discoverIn limits tree start.selfAndAncestors).outcome with
    | error f => rfl
    | ok found =>
      cases found with
      | none => rfl
      | some p => rfl
  rw [hsame, outcome_discoverIn_iff, Path.exists_first_iff_nearest]
  simp only [Path.mem_selfAndAncestors]

/-! ### What is documented -/

/-- The answer that offers give to a search: the one of the nearest directory that has an offer,
and no file if there is none. -/
def Answers (offers : Path → Path → Prop) (start : Path) : Option Path → Prop
  | some p => ∃ d, Path.Nearest (fun a => ∃ q, offers a q) start d ∧ offers d p
  | none => ∀ d, d.IsAbove start → ∀ p, ¬ offers d p

/-- The offers as they are documented, where a table about the formatter may be empty. -/
abbrev Documented : Limits → FileTree → Path → Path → Prop := Offers fun _ => True

/-- Directories in which a search departs from what is documented: it stops, or it passes by a
project file whose table about the formatter is empty. -/
inductive Strays (limits : Limits) (tree : FileTree) (d : Path) : Prop
  | blocked (h : Blocks limits tree d)
  | emptyTable {fields : Fields} (hown : tree.isFile (d.below ownName).toString ≠ .ok true)
      (hproject : tree.isFile (d.below projectName).toString = .ok true)
      (hread : (read limits tree (d.below projectName)).outcome = .ok fields)
      (htable : table? (d.below projectName) fields = some [])

/-- Two trees agree on the settings files of a directory. -/
structure AgreeIn (tree tree' : FileTree) (d : Path) : Prop where
  own : tree.isFile (d.below ownName).toString = tree'.isFile (d.below ownName).toString
  project : tree.isFile (d.below projectName).toString
    = tree'.isFile (d.below projectName).toString
  text : tree.readText (d.below projectName).toString
    = tree'.readText (d.below projectName).toString

theorem Offers.mono {counts' : Fields → Prop} {p : Path}
    (himp : ∀ table, counts table → counts' table) (h : Offers counts limits tree d p) :
    Offers counts' limits tree d p := by
  cases h with
  | own h => exact .own h
  | project hown hproject hread htable hcounts =>
    exact .project hown hproject hread htable (himp _ hcounts)

/-- A directory has one offer at most, whichever tables count. -/
theorem Offers.unique {counts' : Fields → Prop} {p q : Path} (h : Offers counts limits tree d p)
    (h' : Offers counts' limits tree d q) : p = q := by
  cases h with
  | own h =>
    cases h' with
    | own h' => rfl
    | project hown => exact absurd h hown
  | project hown =>
    cases h' with
    | own h' => exact absurd h' hown
    | project => rfl

/-- The offer of a directory lies in it. -/
theorem Offers.parent {p : Path} (h : Offers counts limits tree d p) : p.parent = d := by
  have hown : Path.named (Path.segments ownName) = [ownName] := by decide +kernel
  have hproject : Path.named (Path.segments projectName) = [projectName] := by decide +kernel
  have hbelow : ∀ n : String, Path.isAbsolute n = false → Path.named (Path.segments n) = [n] →
      (d.below n).parent = d := by
    intro n hrelative hnamed
    rw [Path.below, hrelative, if_neg Bool.false_ne_true, hnamed, Path.parent, List.dropLast_concat]
  cases h with
  | own => exact hbelow _ (by decide +kernel) hown
  | project => exact hbelow _ (by decide +kernel) hproject

/-- Where a search does not stray it finds what is documented. -/
theorem lookIn_of_not_strays {p : Path} (h : ¬ Strays limits tree d) :
    lookIn limits tree d = .ok (some p) ↔ Documented limits tree d p := by
  rw [lookIn_eq_some_iff]
  constructor
  · rintro ⟨-, hp⟩
    exact hp.mono fun _ _ => trivial
  · intro hp
    refine ⟨fun hblocked => h (.blocked hblocked), ?_⟩
    cases hp with
    | own hown => exact .own hown
    | project hown hproject hread htable hcounts =>
      refine .project hown hproject hread htable fun hempty => ?_
      exact h (.emptyTable hown hproject hread (hempty ▸ htable))

/-- Where a search strays it stops, or it passes by an offer. -/
theorem Strays.cases_lookIn (h : Strays limits tree d) :
    Fails (lookIn limits tree d) ∨ lookIn limits tree d = .ok none ∧
      ∃ p, Documented limits tree d p := by
  cases h with
  | blocked h => exact .inl (fails_lookIn.mpr h)
  | emptyTable hown hproject hread htable =>
    by_cases hblocked : Blocks limits tree d
    · exact .inl (fails_lookIn.mpr hblocked)
    · have hdocumented : Documented limits tree d (d.below projectName) :=
        .project hown hproject hread htable trivial
      refine .inr ⟨lookIn_eq_none_iff.mpr ⟨hblocked, fun p hp => ?_⟩, _, hdocumented⟩
      cases hp with
      | own h => exact hown h
      | project _ _ hread' htable' hcounts =>
        obtain rfl := Except.ok.inj (hread.symm.trans hread')
        rw [htable] at htable'
        cases htable'
        exact hcounts rfl

theorem read_congr {path : Path}
    (h : tree.readText path.toString = tree'.readText path.toString) :
    read limits tree path = read limits tree' path := by
  unfold read
  rw [h]

theorem lookIn_congr (h : AgreeIn tree tree' d) : lookIn limits tree d = lookIn limits tree' d := by
  have hread : read limits tree (d.below projectName) = read limits tree' (d.below projectName) :=
    read_congr h.text
  rw [lookIn, lookIn, outcome_isInProject, outcome_isInProject, outcome_isFile, outcome_isFile,
    outcome_isFile, outcome_isFile, h.own, h.project, hread]

/-! ### Departures -/

/-- Directories that a search may not pass by. -/
def Matters (limits : Limits) (tree : FileTree) (d : Path) : Prop :=
  Strays limits tree d ∨ ∃ p, Documented limits tree d p

theorem lookIn_eq_none_of_not_matters (h : ¬ Matters limits tree d) :
    lookIn limits tree d = .ok none :=
  lookIn_eq_none_iff.mpr ⟨fun hblocked => h (.inl (.blocked hblocked)), fun p hp =>
    h (.inr ⟨p, hp.mono fun _ _ => trivial⟩)⟩

/-- The nearest directory that matters decides, unless it is passed by. -/
theorem outcome_discover_of_nearest (hd : Path.Nearest (Matters limits tree) start d)
    (hlook : lookIn limits tree d ≠ .ok none) :
    (discover limits tree start).outcome = lookIn limits tree d := by
  refine outcome_discover_iff.mpr (.inl ⟨d, ⟨hd.isAbove, hlook, fun a ha hlonger => ?_⟩, rfl⟩)
  exact not_not_intro (lookIn_eq_none_of_not_matters (hd.nearer a ha hlonger))

/-- If the nearest directory that matters has an offer, that is the documented answer. -/
theorem answers_of_nearest {p : Path} (hd : Path.Nearest (Matters limits tree) start d)
    (hp : Documented limits tree d p) : Answers (Documented limits tree) start (some p) :=
  ⟨d, ⟨hd.isAbove, ⟨p, hp⟩, fun a ha hlonger h => hd.nearer a ha hlonger (.inr h)⟩, hp⟩

/-- Where the nearest directory that matters makes a search stray, it misses the answer. -/
theorem not_answers_of_strays {r : Option Path} (hd : Path.Nearest (Matters limits tree) start d)
    (hstrays : Strays limits tree d) (hr : (discover limits tree start).outcome = .ok r) :
    ¬ Answers (Documented limits tree) start r := by
  intro hanswer
  rcases hstrays.cases_lookIn with ⟨f, hf⟩ | ⟨hnone, p, hp⟩
  · have hlook := outcome_discover_of_nearest hd (by simp [hf])
    cases hr.symm.trans (hlook.trans hf)
  · -- the documented answer lies in this directory, which the search has passed by
    have hnearest : Path.Nearest (fun a => ∃ q, Documented limits tree a q) start d :=
      ⟨hd.isAbove, ⟨p, hp⟩, fun a ha hlonger h => hd.nearer a ha hlonger (.inr h)⟩
    cases r with
    | none => exact hanswer d hd.isAbove p hp
    | some q =>
      obtain ⟨d', hd', hq⟩ := hanswer
      obtain rfl := hnearest.unique hd'
      rcases outcome_discover_iff.mp hr with ⟨a, ha, hlook⟩ | ⟨-, hr⟩
      · obtain rfl : a = d := (lookIn_eq_some_iff.mp hlook).2.parent.symm.trans hq.parent
        exact ha.holds hnone
      · cases hr

/-- Where no directory that matters makes a search stray, it finds the answer. -/
theorem exists_answers
    (h : ¬ ∃ d, Path.Nearest (Matters limits tree) start d ∧ Strays limits tree d) :
    ∃ r, (discover limits tree start).outcome = .ok r ∧
      Answers (Documented limits tree) start r := by
  by_cases hany : ∃ d, d.IsAbove start ∧ Matters limits tree d
  · obtain ⟨d₀, habove, hmatters⟩ := hany
    obtain ⟨d, hd⟩ := Path.exists_nearest habove hmatters
    have hstraight : ¬ Strays limits tree d := fun hstrays => h ⟨d, hd, hstrays⟩
    obtain ⟨p, hp⟩ := hd.holds.resolve_left hstraight
    have hlook := (lookIn_of_not_strays hstraight).mpr hp
    have houtcome := outcome_discover_of_nearest hd (by simp [hlook])
    exact ⟨some p, houtcome.trans hlook, answers_of_nearest hd hp⟩
  · have hnothing : ∀ d, d.IsAbove start → ¬ Matters limits tree d :=
      fun d hd hm => hany ⟨d, hd, hm⟩
    refine ⟨none, outcome_discover_iff.mpr (.inr ⟨fun d hd => ?_, rfl⟩), fun d hd p hp =>
      hnothing d hd (.inr ⟨p, hp⟩)⟩
    exact lookIn_eq_none_of_not_matters (hnothing d hd)

/-- What is documented is one answer. -/
theorem existsUnique_answers (limits : Limits) (tree : FileTree) (start : Path) :
    ∃! r, Answers (Documented limits tree) start r := by
  by_cases hany : ∃ d, d.IsAbove start ∧ ∃ p, Documented limits tree d p
  · obtain ⟨d₀, habove, hoffer⟩ := hany
    obtain ⟨d, hd⟩ := Path.exists_nearest (P := fun a => ∃ p, Documented limits tree a p)
      habove hoffer
    obtain ⟨p, hp⟩ := hd.holds
    refine ⟨some p, ⟨d, hd, hp⟩, fun r hr => ?_⟩
    cases r with
    | none => exact absurd hp (hr d hd.isAbove p)
    | some q =>
      obtain ⟨d', hd', hq⟩ := hr
      obtain rfl := hd.unique hd'
      rw [hp.unique hq]
  · refine ⟨none, fun d hd p hp => hany ⟨d, hd, p, hp⟩, fun r hr => ?_⟩
    cases r with
    | none => rfl
    | some q =>
      obtain ⟨d, hd, hq⟩ := hr
      exact absurd ⟨d, hd.isAbove, q, hq⟩ hany

/-- What lies farther away than the file that is found has no say. -/
theorem discover_congr {p : Path} (h : (discover limits tree start).outcome = .ok (some p))
    (hagree : ∀ a, a.IsAbove start → p.parent.names.length ≤ a.names.length →
      AgreeIn tree tree' a) : (discover limits tree' start).outcome = .ok (some p) := by
  rcases outcome_discover_iff.mp h with ⟨d, hd, hlook⟩ | ⟨-, h⟩
  · obtain rfl : p.parent = d := (lookIn_eq_some_iff.mp hlook).2.parent
    have hlook' := (lookIn_congr (hagree _ hd.isAbove le_rfl)).symm.trans hlook
    refine outcome_discover_iff.mpr (.inl ⟨p.parent, ⟨hd.isAbove, by simp [hlook'], ?_⟩, hlook'⟩)
    intro a ha hlonger
    rw [← lookIn_congr (hagree a ha hlonger.le)]
    exact hd.nearer a ha hlonger
  · cases h

/-- **Which settings file applies to a directory**: one answer is documented, the search gives it
exactly if the nearest directory that strays or has an offer does not stray, and what lies
farther away than the file that is found has no say. -/
theorem discover_documented_iff (limits : Limits) (tree : FileTree) (start : Path) :
    (∃! r, Answers (Documented limits tree) start r) ∧
    ((∃ r, (discover limits tree start).outcome = .ok r ∧ Answers (Documented limits tree) start r)
      ↔ ¬ ∃ d, Path.Nearest (Matters limits tree) start d ∧ Strays limits tree d) ∧
    ∀ (tree' : FileTree) (p : Path), (discover limits tree start).outcome = .ok (some p) →
      (∀ a, a.IsAbove start → p.parent.names.length ≤ a.names.length → AgreeIn tree tree' a) →
      (discover limits tree' start).outcome = .ok (some p) := by
  refine ⟨existsUnique_answers limits tree start, ⟨?_, exists_answers⟩,
    fun tree' p => discover_congr⟩
  rintro ⟨r, hr, hanswer⟩ ⟨d, hd, hstrays⟩
  exact not_answers_of_strays hd hstrays hr hanswer

/-! ### A project below a settings file -/

/-- A settings file at the root, and a directory below it with the text of a project file. -/
def projectBelow (text : String) : FileTree :=
  ⟨"/", [([ownName], .file []), (["a", projectName], .file text.toUTF8.data.toList)]⟩

/-- The project file below is found from a directory in it, with or without the file at the root. -/
theorem discover_projectBelow :
    let tree := projectBelow "[tool.lintframe.format]\n"
    let tree' : FileTree := { tree with entries := tree.entries.tail }
    let start : Path := ⟨"/", ["a", "b"]⟩
    let limits := Limits.usual
    let found : Path := ⟨"/", ["a", projectName]⟩
    (discover limits tree start).outcome = .ok (some found) ∧
      (∀ a, a.IsAbove start → found.parent.names.length ≤ a.names.length → AgreeIn tree tree' a) ∧
      (discover limits tree' start).outcome = .ok (some found) := by
  intro tree tree' start limits found
  have hfound : (discover limits tree start).outcome = .ok (some found) := by decide +kernel
  have hagree : ∀ a, a.IsAbove start → found.parent.names.length ≤ a.names.length →
      AgreeIn tree tree' a := by
    intro a ha hnear
    have hmem : a ∈ [start, found.parent, ⟨"/", []⟩] := Path.mem_selfAndAncestors.mpr ha
    simp only [List.mem_cons, List.not_mem_nil, or_false] at hmem
    rcases hmem with rfl | rfl | rfl
    · exact ⟨by decide +kernel, by decide +kernel, by decide +kernel⟩
    · exact ⟨by decide +kernel, by decide +kernel, by decide +kernel⟩
    · exact absurd hnear (by decide)
  exact ⟨hfound, hagree, (discover_documented_iff limits tree start).2.2 tree' found hfound hagree⟩

/-- A project file with an empty table about the formatter is passed by, although it is the
documented answer. -/
theorem discover_of_emptyTable :
    let tree := projectBelow "[tool.lintframe]\n"
    let start : Path := ⟨"/", ["a"]⟩
    let limits := Limits.usual
    tree.readText (start.below projectName).toString = .ok "[tool.lintframe]\n" ∧
      Answers (Documented limits tree) start (some ⟨"/", ["a", projectName]⟩) ∧
      (discover limits tree start).outcome = .ok (some ⟨"/", [ownName]⟩) := by
  intro tree start limits
  have hoffer : Documented limits tree start (start.below projectName) := by
    have hheld : ((read limits tree (start.below projectName)).outcome.toOption.bind
        (table? (start.below projectName))).isSome = true := by decide +kernel
    obtain ⟨table, hheld⟩ := Option.isSome_iff_exists.mp hheld
    obtain ⟨fields, hfields, htable⟩ := Option.bind_eq_some_iff.mp hheld
    cases hread : (read limits tree (start.below projectName)).outcome with
    | error f =>
      rw [hread] at hfields
      cases hfields
    | ok fields' =>
      rw [hread] at hfields
      cases hfields
      exact .project (by decide +kernel) (by decide +kernel) hread htable trivial
  have hbelow : start.below projectName = ⟨"/", ["a", projectName]⟩ := by decide +kernel
  rw [hbelow] at hoffer
  refine ⟨by decide +kernel, ⟨start, ⟨⟨rfl, List.prefix_rfl⟩, ⟨_, hoffer⟩, ?_⟩, hoffer⟩,
    by decide +kernel⟩
  intro a ha hlonger
  have := ha.2.length_le
  omega

end SettingsFile
end LintReport
