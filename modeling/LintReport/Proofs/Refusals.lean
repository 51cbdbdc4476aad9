/-
Which settings a run has, and why it has none.

* `SettingsFile.Unreadable` — a settings file whose trouble is not passed over;
* `SettingsFile.SearchFails` — a search for a settings file that comes to no end;
* `Settings.Error.IsTellable` — a refusal whose value can be printed;
* `Settings.Unusable` — the causes on which no value can be told to be wrong;
* `Settings.Refuses` — the values of the file and of the environment that are refused;
* `Settings.load_cases` — what comes of the layers: trouble, a refusal, or settings.

Design notes: a refused value is told with its text, so a value that cannot be printed is trouble.
The table of a file is not nested deeper than its reader allows, and the variables give texts only;
so where printing goes as deep as reading, only an integer with too many digits cannot be told.
-/
import LintReport.Proofs.Numerals
import LintReport.Proofs.Printing
import LintReport.Proofs.Readings
import LintReport.Settings.File

namespace LintReport

open Outcome

namespace SettingsFile

variable {limits : Limits}

/-- Settings files whose trouble is not passed over. -/
inductive Unreadable (limits : Limits) (tree : FileTree) (path : Path) : Prop
  | undecodable {e : Text.Utf8.Error} (h : tree.readText path.toString = .error (.undecodable e))
  | nullCharacter (h : tree.readText path.toString = .error .nullCharacter)
  | repeatedKey {text key : String} (htext : tree.readText path.toString = .ok text)
      (h : Toml.read limits text = .error (.repeatedKey key))
  | redefined {text : String} (htext : tree.readText path.toString = .ok text)
      (h : Toml.read limits text = .error .redefined)
  | tooDeep {text : String} (htext : tree.readText path.toString = .ok text)
      (h : Toml.read limits text = .error .tooDeep)

theorem fails_parse {path : Path} {text : String} :
    Fails (parse limits path text).outcome
      ↔ (∃ key, Toml.read limits text = .error (.repeatedKey key))
        ∨ Toml.read limits text = .error .redefined ∨ Toml.read limits text = .error .tooDeep := by
  unfold parse
  cases Toml.read limits text with
  | ok fields => simp
  | error e => cases e <;> simp

/-- Reading a settings file fails exactly if its trouble is not passed over. -/
theorem fails_read {tree : FileTree} {path : Path} :
    Fails (read limits tree path).outcome ↔ Unreadable limits tree path := by
  unfold read
  cases htext : tree.readText path.toString with
  | ok text =>
    show Fails (parse limits path text).outcome ↔ _
    rw [fails_parse]
    constructor
    · rintro (⟨key, h⟩ | h | h)
      · exact .repeatedKey htext h
      · exact .redefined htext h
      · exact .tooDeep htext h
    · intro h
      cases h with
      | undecodable h => cases htext.symm.trans h
      | nullCharacter h => cases htext.symm.trans h
      | repeatedKey htext' h =>
        obtain rfl := Except.ok.inj (htext.symm.trans htext')
        exact .inl ⟨_, h⟩
      | redefined htext' h =>
        obtain rfl := Except.ok.inj (htext.symm.trans htext')
        exact .inr (.inl h)
      | tooDeep htext' h =>
        obtain rfl := Except.ok.inj (htext.symm.trans htext')
        exact .inr (.inr h)
  | error e =>
    cases e with
    | undecodable e => exact iff_of_true (fails_error _) (.undecodable htext)
    | nullCharacter => exact iff_of_true (fails_error _) (.nullCharacter htext)
    | refused e p =>
      refine iff_of_false (not_fails_ok _) fun h => ?_
      cases h with
      | undecodable h => cases htext.symm.trans h
      | nullCharacter h => cases htext.symm.trans h
      | repeatedKey htext' h => cases htext.symm.trans htext'
      | redefined htext' h => cases htext.symm.trans htext'
      | tooDeep htext' h => cases htext.symm.trans htext'

/-- Whether a project file holds settings of the formatter, as far as it can be read. -/
def holdsSettings (limits : Limits) (tree : FileTree) (path : Path) : Bool :=
  match (read limits tree path).outcome with
  | .ok fields => !((table? path fields).getD []).isEmpty
  | .error _ => false

/-- Searches through directories that fail before they find a settings file. -/
inductive SearchFails (limits : Limits) (tree : FileTree) : List Path → Prop
  /-- The path of a file of its own cannot be looked at. -/
  | own {d : Path} {ds : List Path} {e : FileError}
      (h : tree.isFile (d.below ownName).toString = .error e) : SearchFails limits tree (d :: ds)
  /-- The path of a project file cannot be looked at. -/
  | project {d : Path} {ds : List Path} {e : FileError}
      (hown : tree.isFile (d.below ownName).toString = .ok false)
      (h : tree.isFile (d.below projectName).toString = .error e) :
      SearchFails limits tree (d :: ds)
  /-- A project file cannot be read. -/
  | read {d : Path} {ds : List Path}
      (hown : tree.isFile (d.below ownName).toString = .ok false)
      (hproject : tree.isFile (d.below projectName).toString = .ok true)
      (h : Unreadable limits tree (d.below projectName)) : SearchFails limits tree (d :: ds)
  /-- There is nothing in a directory, and a search above it fails. -/
  | above {d : Path} {ds : List Path} {found : Bool}
      (hown : tree.isFile (d.below ownName).toString = .ok false)
      (hproject : tree.isFile (d.below projectName).toString = .ok found)
      (hread : found = true → ¬ Unreadable limits tree (d.below projectName) ∧
        holdsSettings limits tree (d.below projectName) = false)
      (h : SearchFails limits tree ds) : SearchFails limits tree (d :: ds)

theorem outcome_isFile (tree : FileTree) (path : Path) :
    (isFile tree path).outcome
      = (tree.isFile path.toString).mapError fun e => .refused e path.toString := by
  unfold isFile
  cases tree.isFile path.toString with
  | ok found => rfl
  | error e => rfl

theorem outcome_isInProject (limits : Limits) (tree : FileTree) (path : Path) :
    (isInProject limits tree path).outcome = (do
      let found ← (isFile tree path).outcome
      if found then
        (fun fields => !((table? path fields).getD []).isEmpty) <$> (read limits tree path).outcome
      else .ok false) := by
  unfold isInProject
  rw [Attempt.outcome_bind]
  congr 1
  funext found
  cases found with
  | false => rfl
  | true =>
    show (read limits tree path >>= fun fields => _).outcome = _ <$> (read limits tree path).outcome
    rw [Attempt.outcome_bind]
    cases (read limits tree path).outcome with
    | ok fields => rfl
    | error e => rfl

/-- The search in a directory, and in those above it if there is nothing. -/
theorem outcome_discoverIn_cons (limits : Limits) (tree : FileTree) (d : Path)
    (ds : List Path) :
    (discoverIn limits tree (d :: ds)).outcome = (do
      let own ← (isFile tree (d.below ownName)).outcome
      if own then .ok (some (d.below ownName))
      else
        let project ← (isInProject limits tree (d.below projectName)).outcome
        if project then .ok (some (d.below projectName))
        else (discoverIn limits tree ds).outcome) := by
  rw [discoverIn, Attempt.outcome_bind]
  congr 1
  funext own
  cases own with
  | true => rfl
  | false =>
    show (isInProject limits tree (d.below projectName) >>= fun project => _).outcome = _
    rw [Attempt.outcome_bind]
    show _ = (isInProject limits tree (d.below projectName)).outcome >>= _
    congr 1
    funext project
    cases project with
    | true => rfl
    | false => rfl

/-- In a directory without a file of its own the project file decides, or a search above it. -/
theorem searchFails_cons {tree : FileTree} {d : Path} {ds : List Path}
    (hown : tree.isFile (d.below ownName).toString = .ok false) :
    SearchFails limits tree (d :: ds)
      ↔ (∃ e, tree.isFile (d.below projectName).toString = .error e)
        ∨ (tree.isFile (d.below projectName).toString = .ok true
          ∧ Unreadable limits tree (d.below projectName))
        ∨ ∃ found, tree.isFile (d.below projectName).toString = .ok found
          ∧ (found = true → ¬ Unreadable limits tree (d.below projectName) ∧
            holdsSettings limits tree (d.below projectName) = false)
          ∧ SearchFails limits tree ds := by
  constructor
  · intro h
    cases h with
    | own h => cases hown.symm.trans h
    | project hown' h => exact .inl ⟨_, h⟩
    | read hown' hproject h => exact .inr (.inl ⟨hproject, h⟩)
    | above hown' hproject hread h => exact .inr (.inr ⟨_, hproject, hread, h⟩)
  · rintro (⟨e, h⟩ | ⟨hproject, h⟩ | ⟨found, hproject, hread, h⟩)
    · exact .project hown h
    · exact .read hown hproject h
    · exact .above hown hproject hread h

/-- A step that is only taken if what is found does not hold. -/
theorem fails_unless {r : Except Fault Fields} {holds : Fields → Bool} {path : Path}
    {next : Except Fault (Option Path)} :
    Fails (do
        let found ← holds <$> r
        if found then .ok (some path) else next)
      ↔ Fails r ∨ (¬ Fails r ∧ (match r with
          | .ok fields => holds fields
          | .error _ => false) = false) ∧ Fails next := by
  cases r with
  | error e => simp
  | ok fields =>
    rw [map_ok, ok_bind]
    cases hholds : holds fields with
    | true => simp [hholds]
    | false => simp [hholds]

/-- A search fails exactly if one of the directories on its way makes it fail. -/
theorem fails_discoverIn {tree : FileTree} {ds : List Path} :
    Fails (discoverIn limits tree ds).outcome ↔ SearchFails limits tree ds := by
  induction ds with
  | nil =>
    refine iff_of_false (not_fails_ok _) fun h => ?_
    cases h
  | cons d ds ih =>
    rw [outcome_discoverIn_cons, outcome_isInProject, outcome_isFile, outcome_isFile]
    cases hown : tree.isFile (d.below ownName).toString with
    | error e => exact iff_of_true (fails_error _) (.own hown)
    | ok own =>
      cases own with
      | true =>
        -- a file of its own ends the search before the project file is looked at
        refine iff_of_false (not_fails_ok _) fun h => ?_
        cases h with
        | own h => cases hown.symm.trans h
        | project hown' h => cases hown.symm.trans hown'
        | read hown' hproject h => cases hown.symm.trans hown'
        | above hown' hproject hread h => cases hown.symm.trans hown'
      | false =>
        rw [searchFails_cons hown, ← ih]
        cases hproject : tree.isFile (d.below projectName).toString with
        | error e => exact iff_of_true (fails_error _) (.inl ⟨e, rfl⟩)
        | ok found =>
          cases found with
          | false =>
            show Fails (discoverIn limits tree ds).outcome ↔ _
            simp
          | true =>
            simp only [Except.mapError, ok_bind, Bool.false_eq_true, if_false, if_true]
            rw [fails_unless, ← fails_read]
            have hholds : holdsSettings limits tree (d.below projectName)
                = match (read limits tree (d.below projectName)).outcome with
                  | .ok fields => !((table? (d.below projectName) fields).getD []).isEmpty
                  | .error _ => false := rfl
            rw [← hholds]
            simp

end SettingsFile

namespace Settings

/-! ### What can be told -/

/-- A refusal that can be told: the value in it can be written, and is nested no deeper than values
are printed. -/
def Error.IsTellable (deepest : Nat) (e : Error) : Prop :=
  ∀ v, e.told? = some v → v.isWritable = true ∧ v.depth ≤ deepest

theorem Error.check_eq_ok_iff {deepest : Nat} {e : Error} :
    e.check deepest = .ok () ↔ e.IsTellable deepest := by
  unfold check IsTellable
  cases e.told? with
  | none => simp
  | some v => simp [Value.check_eq_ok_iff]

/-- A refused layer fails with its refusal exactly if that can be told. -/
theorem Failure.ofError_eq_refused {deepest : Nat} {e e' : Error} :
    ofError deepest e = .refused e' ↔ e = e' ∧ e'.IsTellable deepest := by
  rw [← Error.check_eq_ok_iff]
  unfold ofError
  cases hcheck : e.check deepest with
  | ok printed =>
    constructor
    · rintro ⟨⟩
      exact ⟨rfl, hcheck⟩
    · rintro ⟨rfl, -⟩
      rfl
  | error unprintable =>
    refine iff_of_false (fun h => ?_) ?_
    · cases h
    · rintro ⟨rfl, h⟩
      cases hcheck.symm.trans h

variable {limits : Limits} {tree : FileTree} {directory : Path} {file : Option Path} {noFile : Bool}
  {vars : List (String × String)}

/-- The settings file that is used, if there is one. -/
def fileFor (limits : Limits) (tree : FileTree) (directory : Path) (file : Option Path)
    (noFile : Bool) : Except SettingsFile.Fault (Option Path) :=
  if noFile then .ok none else (chooseFile limits tree directory file).outcome

/-- The table of a settings file, if there is one. -/
def tableOf (limits : Limits) (tree : FileTree) :
    Option Path → Except SettingsFile.Fault (Option (Path × Fields))
  | none => .ok none
  | some path =>
    (fun fields => some (path, (SettingsFile.table? path fields).getD []))
      <$> (SettingsFile.read limits tree path).outcome

/-- The table of the settings file that is used. -/
def tableFor (limits : Limits) (tree : FileTree) (directory : Path) (file : Option Path)
    (noFile : Bool) : Except SettingsFile.Fault (Option (Path × Fields)) := do
  tableOf limits tree (← fileFor limits tree directory file noFile)

/-- The settings of a table, the standard ones without it. -/
def ofTableFor : Option (Path × Fields) → Except Error Settings
  | none => .ok standard
  | some (path, fields) => (ofTable (some path) fields).outcome

/-- The settings of a table and of the variables. -/
def withTable (limits : Limits) (vars : List (String × String)) (table : Option (Path × Fields)) :
    Except Failure Settings := do
  let settings ← (ofTableFor table).mapError (.ofError limits.printed)
  (settings.withVariables vars).mapError (.ofError limits.printed)

/-- A settings file gives the settings of its table. -/
theorem outcome_ofFile (path : Path) :
    (ofFile limits tree path).outcome = (do
      let table ← (tableOf limits tree (some path)).mapError .fault
      (ofTableFor table).mapError (.ofError limits.printed)) := by
  rw [ofFile, Attempt.outcome_bind, Attempt.outcome_adapt, tableOf]
  cases (SettingsFile.read limits tree path).outcome with
  | error f => rfl
  | ok fields => rfl

theorem outcome_load :
    (load limits tree directory file noFile vars).outcome
      = (tableFor limits tree directory file noFile).mapError .fault >>= withTable limits vars := by
  unfold load tableFor fileFor
  cases noFile with
  | true => rfl
  | false =>
    simp only [Bool.false_eq_true, if_false]
    rw [Attempt.outcome_bind, Attempt.outcome_adapt]
    cases (chooseFile limits tree directory file).outcome with
    | error f => rfl
    | ok path =>
      cases path with
      | none => rfl
      | some path =>
        simp only [Except.mapError, ok_bind, Attempt.outcome_bind, outcome_ofFile]
        cases tableOf limits tree (some path) with
        | error f => rfl
        | ok table => rfl

/-! ### Trouble -/

/-- The causes on which no value can be told to be wrong. -/
inductive Unusable (limits : Limits) (tree : FileTree) (directory : Path) (file : Option Path)
    (noFile : Bool) : Prop
  /-- A settings file is looked for, and the search fails. -/
  | search (hno : noFile = false) (hfile : file = none)
      (h : SettingsFile.SearchFails limits tree directory.selfAndAncestors) :
      Unusable limits tree directory file noFile
  /-- The settings file has trouble that is not passed over. -/
  | unreadable {path : Path} (hpath : fileFor limits tree directory file noFile = .ok (some path))
      (h : SettingsFile.Unreadable limits tree path) : Unusable limits tree directory file noFile
  /-- A value of the settings file is wrong, but cannot be told. -/
  | wording {table : Option (Path × Fields)} {e : Error}
      (htable : tableFor limits tree directory file noFile = .ok table)
      (he : ofTableFor table = .error e)
      (h : Fails (e.check limits.printed)) : Unusable limits tree directory file noFile

/-- The values of the settings file and of the variables that are refused. -/
inductive Refuses (limits : Limits) (tree : FileTree) (directory : Path) (file : Option Path)
    (noFile : Bool) (vars : List (String × String)) : Error → Prop
  | file {table : Option (Path × Fields)} {e : Error}
      (htable : tableFor limits tree directory file noFile = .ok table)
      (h : ofTableFor table = .error e) : Refuses limits tree directory file noFile vars e
  | environment {e : Error} (h : standard.withVariables vars = .error e) :
      Refuses limits tree directory file noFile vars e

theorem fails_discover {start : Path} :
    Fails (SettingsFile.discover limits tree start).outcome
      ↔ SettingsFile.SearchFails limits tree start.selfAndAncestors := by
  rw [← SettingsFile.fails_discoverIn]
  unfold SettingsFile.discover
  rw [Attempt.outcome_bind, fails_bind]
  refine ⟨?_, .inl⟩
  rintro (h | ⟨found, -, h⟩)
  · exact h
  · cases found with
    | none => exact absurd h (not_fails_ok _)
    | some path => exact absurd h (not_fails_ok _)

theorem fails_fileFor :
    Fails (fileFor limits tree directory file noFile)
      ↔ noFile = false ∧ file = none
        ∧ SettingsFile.SearchFails limits tree directory.selfAndAncestors := by
  unfold fileFor
  cases noFile with
  | true => simp
  | false =>
    cases file with
    | some path =>
      show Fails (.ok (some path)) ↔ _
      simp
    | none =>
      rw [← fails_discover]
      simp [chooseFile]

theorem fails_tableFor :
    Fails (tableFor limits tree directory file noFile)
      ↔ (noFile = false ∧ file = none
          ∧ SettingsFile.SearchFails limits tree directory.selfAndAncestors)
        ∨ ∃ path, fileFor limits tree directory file noFile = .ok (some path)
          ∧ SettingsFile.Unreadable limits tree path := by
  have htable : ∀ path, Fails (tableOf limits tree path)
      ↔ ∃ p, path = some p ∧ SettingsFile.Unreadable limits tree p := by
    intro path
    cases path with
    | none => simp [tableOf]
    | some p =>
      rw [tableOf, fails_map, SettingsFile.fails_read]
      simp
  rw [tableFor, fails_bind, fails_fileFor]
  refine or_congr_right ⟨?_, ?_⟩
  · rintro ⟨path, hpath, hfails⟩
    obtain ⟨p, rfl, h⟩ := (htable path).mp hfails
    exact ⟨p, hpath, h⟩
  · rintro ⟨p, hpath, h⟩
    exact ⟨some p, hpath, (htable _).mpr ⟨p, rfl, h⟩⟩

/-- Variables are refused for their cap. -/
theorem withVariables_eq_error_iff {s : Settings} {e : Error} :
    s.withVariables vars = .error e ↔ capInVariables vars = some (.error e) := by
  rw [withVariables_eq]
  cases capInVariables vars with
  | none => simp [Reading.refusal, firstOf]
  | some r =>
    cases r with
    | ok n => simp [Reading.refusal, firstOf]
    | error e' => simp [Reading.refusal, firstOf]

/-- Variables are refused whatever the settings below them. -/
theorem withVariables_eq_error {s t : Settings} {e : Error}
    (h : s.withVariables vars = .error e) : t.withVariables vars = .error e :=
  withVariables_eq_error_iff.mpr (withVariables_eq_error_iff.mp h)

theorem check_of_readMaxMessages (deepest : Nat) {origin text : String} {e : Error}
    (h : readMaxMessages origin (.text text) = .error e) : e.check deepest = .ok () := by
  have hinteger : integer? (.text text) = (Value.text text).toInt.toOption := rfl
  unfold readMaxMessages at h
  rw [hinteger, Value.toInt] at h
  cases hread : Text.Numeral.read text with
  | error e =>
    simp only [hread] at h
    cases h
    rfl
  | ok n =>
    simp only [hread, Except.toOption] at h
    by_cases hsmall : n < 1
    · rw [if_pos hsmall] at h
      cases h
      show (Value.int n).check deepest = .ok ()
      rw [Value.check, if_pos (Text.Numeral.isWritable_of_read hread)]
    · rw [if_neg hsmall] at h
      cases h

/-- A refused variable can be told, however deep values are printed. -/
theorem check_of_withVariables (deepest : Nat) {s : Settings} {e : Error}
    (h : s.withVariables vars = .error e) : e.check deepest = .ok () := by
  obtain ⟨raw, -, hraw⟩ := Option.map_eq_some_iff.mp (withVariables_eq_error_iff.mp h)
  exact check_of_readMaxMessages deepest hraw

/-- With the table of a settings file there is only trouble if a value of it cannot be told. -/
theorem unusable_iff {table : Option (Path × Fields)}
    (htable : tableFor limits tree directory file noFile = .ok table) :
    Unusable limits tree directory file noFile
      ↔ ∃ e, ofTableFor table = .error e ∧ Fails (e.check limits.printed) := by
  have hreadable : ¬ Fails (tableFor limits tree directory file noFile) := by
    rw [htable]
    exact not_fails_ok _
  constructor
  · intro h
    cases h with
    | search hno hfile h => exact absurd (fails_tableFor.mpr (.inl ⟨hno, hfile, h⟩)) hreadable
    | unreadable hpath h => exact absurd (fails_tableFor.mpr (.inr ⟨_, hpath, h⟩)) hreadable
    | wording htable' he h =>
      obtain rfl := Except.ok.inj (htable.symm.trans htable')
      exact ⟨_, he, h⟩
  · rintro ⟨e, he, h⟩
    exact .wording htable he h

/-- With the table of a settings file a value is refused if the table gives no settings, or
else if a variable is refused. -/
theorem refuses_iff {table : Option (Path × Fields)}
    (htable : tableFor limits tree directory file noFile = .ok table) :
    (∃ e, Refuses limits tree directory file noFile vars e)
      ↔ Fails (ofTableFor table) ∨ Fails (standard.withVariables vars) := by
  constructor
  · rintro ⟨e, h⟩
    cases h with
    | file htable' h =>
      obtain rfl := Except.ok.inj (htable.symm.trans htable')
      exact .inl ⟨e, h⟩
    | environment h => exact .inr ⟨e, h⟩
  · rintro (⟨e, h⟩ | ⟨e, h⟩)
    · exact ⟨e, .file htable h⟩
    · exact ⟨e, .environment h⟩

/-- Without the table of a settings file there is trouble. -/
theorem unusable_of_fails (h : Fails (tableFor limits tree directory file noFile)) :
    Unusable limits tree directory file noFile := by
  rcases fails_tableFor.mp h with ⟨hno, hfile, h⟩ | ⟨path, hpath, h⟩
  · exact .search hno hfile h
  · exact .unreadable hpath h

theorem withTable_of_error {table : Option (Path × Fields)} {e : Error}
    (h : ofTableFor table = .error e) :
    withTable limits vars table = .error (.ofError limits.printed e) := by
  rw [withTable, h]
  rfl

theorem withTable_of_ok {table : Option (Path × Fields)} {s : Settings}
    (h : ofTableFor table = .ok s) :
    withTable limits vars table = (s.withVariables vars).mapError (.ofError limits.printed) := by
  rw [withTable, h]
  rfl

/-- **What comes of the layers**: trouble if the settings are unusable, or else a refusal if a
value is refused, or else settings. -/
theorem load_cases :
    (Unusable limits tree directory file noFile →
        ∃ f, (load limits tree directory file noFile vars).outcome = .error (.fault f)) ∧
      (¬ Unusable limits tree directory file noFile →
        (∃ e, Refuses limits tree directory file noFile vars e) →
        ∃ e, (load limits tree directory file noFile vars).outcome = .error (.refused e)) ∧
      (¬ Unusable limits tree directory file noFile →
        (∀ e, ¬ Refuses limits tree directory file noFile vars e) →
        ∃ s, (load limits tree directory file noFile vars).outcome = .ok s) := by
  rw [outcome_load, ← not_exists]
  cases htable : tableFor limits tree directory file noFile with
  | error f =>
    have hunusable := unusable_of_fails ⟨f, htable⟩
    exact ⟨fun _ => ⟨f, rfl⟩, fun h => absurd hunusable h, fun h => absurd hunusable h⟩
  | ok table =>
    have hload : (Except.ok table : Except SettingsFile.Fault _).mapError Failure.fault
        >>= withTable limits vars = withTable limits vars table := rfl
    rw [hload, unusable_iff htable, refuses_iff htable]
    cases hsettings : ofTableFor table with
    | error e =>
      -- the file decides, and its refusal is trouble if it cannot be told
      rw [withTable_of_error hsettings, Failure.ofError]
      cases hcheck : e.check limits.printed with
      | error unprintable => exact ⟨fun _ => ⟨_, rfl⟩, by simp [hcheck], by simp [hcheck]⟩
      | ok printed => exact ⟨by simp [hcheck], fun _ _ => ⟨e, rfl⟩, by simp⟩
    | ok s =>
      -- the variables decide, and their refusal can always be told
      rw [withTable_of_ok hsettings]
      cases hvars : s.withVariables vars with
      | error e =>
        have hfails : Fails (standard.withVariables vars) := ⟨e, withVariables_eq_error hvars⟩
        refine ⟨by simp, fun _ _ => ⟨e, ?_⟩, fun _ h => absurd (.inr hfails) h⟩
        simp [Except.mapError, Failure.ofError, check_of_withVariables limits.printed hvars]
      | ok s' =>
        have hgiven : ¬ Fails (standard.withVariables vars) := by
          rintro ⟨e, h⟩
          cases hvars.symm.trans (withVariables_eq_error h)
        refine ⟨by simp, fun _ h => ?_, fun _ _ => ⟨s', rfl⟩⟩
        simp [hgiven] at h

end Settings

end LintReport
