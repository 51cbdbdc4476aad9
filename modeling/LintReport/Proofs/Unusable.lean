/-
What becomes of a settings file that cannot be used.

* `SettingsFile.PassedOver` — files that cannot be opened, or whose text is no settings file;
* `SettingsFile.read_eq_ok_iff` — such a file gives the empty table, and any other one its own;
* `Session.readReport_ne_settings` — a report is never to blame for the settings;
* `World.settings_stop_iff` — what a settings file stops: its reading, a search that comes
  upon it, and a run that needs it.

Design notes: it is documented that trouble with a file is noted and the file gives nothing.
Bytes that are no UTF-8, keys that are given twice below a header and tables that get nested too
deeply as they are put together are not looked out for. What stops a reader is otherwise found
in the file alone: that it gives up for want of room is not considered.
-/
import LintReport.Proofs.ExitStatus
import LintReport.Proofs.Search

namespace LintReport

open Outcome

/-! ### Files -/

namespace SettingsFile

variable {limits : Limits} {tree : FileTree} {path d start : Path}

/-- Files that are passed over: they cannot be opened, or their text is no settings file. -/
@[mk_iff]
inductive PassedOver (limits : Limits) (tree : FileTree) (path : Path) : Prop
  | refused {e : FileError} {p : String}
      (h : tree.readText path.toString = .error (.refused e p))
  | malformed {text : String} (htext : tree.readText path.toString = .ok text)
      (h : Toml.read limits text = .error .malformed)

/-- The text of a file gives a table. -/
def Gives (limits : Limits) (tree : FileTree) (path : Path) (fields : Fields) : Prop :=
  ∃ text, tree.readText path.toString = .ok text ∧ Toml.read limits text = .ok fields

/-- A file gives the table of its text, and the empty one if it is passed over. -/
theorem read_eq_ok_iff {fields : Fields} :
    (read limits tree path).outcome = .ok fields
      ↔ Gives limits tree path fields ∨ PassedOver limits tree path ∧ fields = [] := by
  rw [passedOver_iff]
  unfold Gives read
  cases htext : tree.readText path.toString with
  | ok text =>
    show (parse limits path text).outcome = _ ↔ _
    unfold parse
    cases htoml : Toml.read limits text with
    | ok table => simp [htoml]
    | error e =>
      cases e with
      | malformed => simp [htoml, eq_comm]
      | repeatedKey key => simp [htoml]
      | redefined => simp [htoml]
      | tooDeep => simp [htoml]
  | error e =>
    cases e with
    | refused e p => simp [eq_comm]
    | undecodable e => simp
    | nullCharacter => simp

/-- A search fails exactly if the nearest directory that it does not pass by stops it. -/
theorem fails_discover_iff :
    Fails (discover limits tree start).outcome
      ↔ ∃ d, Path.Nearest
            (fun a => Blocks limits tree a ∨ ∃ p, Offers (· ≠ []) limits tree a p) start d
          ∧ Blocks limits tree d := by
  simp only [← lookIn_ne_none_iff]
  constructor
  · rintro ⟨f, hf⟩
    rcases outcome_discover_iff.mp hf with ⟨d, hd, hlook⟩ | ⟨-, h⟩
    · exact ⟨d, hd, fails_lookIn.mp ⟨f, hlook⟩⟩
    · cases h
  · rintro ⟨d, hd, hblocks⟩
    obtain ⟨f, hf⟩ := fails_lookIn.mpr hblocks
    exact ⟨f, outcome_discover_iff.mpr (.inl ⟨d, hd, hf⟩)⟩

end SettingsFile

/-! ### Runs -/

namespace Session

variable {w : World} {s : Session} {report : String}

/-- Nothing that is wrong with a report is about the settings. -/
theorem readReport_ne_settings (f : SettingsFile.Fault) :
    (s.readReport w report).outcome ≠ .error (.crashed (.settings f)) := by
  cases hbytes : w.reportBytes report with
  | error exit =>
    obtain ⟨r, hr, -⟩ := readReport_of_noBytes (s := s) hbytes
    rw [hr]
    simp [refuse]
  | ok bytes =>
    rw [readReport_of_bytes hbytes]
    refine bind_ne_error (fun h => ?_) fun text h => ?_
    · obtain ⟨e, -, h⟩ := mapError_eq_error.mp h
      cases e with
      | refused e p => cases h
      | undecodable e => cases h
      | nullCharacter => cases h
    · obtain ⟨e, -, h⟩ := mapError_eq_error.mp h
      rw [stopOfReport] at h
      split at h
      · cases h
      · cases h

/-- A run that has its settings does not crash over them. -/
theorem renderWith_ne_settings (q : Request) (settings : Settings) (f : SettingsFile.Fault) :
    (s.renderWith w q.arguments q.report settings).outcome
      ≠ .error (.crashed (.settings f)) := by
  rw [World.outcome_renderWith]
  refine bind_ne_error (readReport_ne_settings f) fun msgs => ?_
  refine bind_ne_error (fun h => ?_) fun _ h => ?_
  · obtain ⟨e, -, h⟩ := mapError_eq_error.mp h
    cases h
  · cases h

end Session

theorem endingOf_eq_crashed_iff {x : Except Stop Exit} {c : Crash} :
    endingOf x = .crashed c ↔ x = .error (.crashed c) := by
  cases x with
  | ok e => simp [endingOf]
  | error stop =>
    cases stop with
    | crashed c' => simp [endingOf, Stop.ending]
    | help c' => simp [endingOf, Stop.ending]
    | misuse c' e color => simp [endingOf, Stop.ending]
    | refused r color => simp [endingOf, Stop.ending]

/-- A run whose log has a level crashes over its settings exactly if they are unusable. -/
theorem World.settings_crash {w : World} {args : List String} {q : Request} {level : Option Level}
    (h : w.Accepts args q) (hlevel : w.env.logLevel? = .ok level) :
    (∃ f, (w.run args).ending = .crashed (.settings f)) ↔ w.HasUnusable q := by
  have hcap : q.arguments.HasCap := by
    cases h with
    | render hglobal hrest hverbosity hown => exact Session.hasCap_readArguments hown
  rw [ending_run, outcome_start h, hlevel]
  simp only [endingOf_eq_crashed_iff]
  rcases settings_cases hcap with ⟨hunusable, f, hf⟩ | ⟨husable, -, -, e, he⟩ |
    ⟨husable, -, settings, -, hs⟩
  · refine iff_of_true ⟨f, ?_⟩ hunusable
    simp only [hf, error_bind]
  · refine iff_of_false ?_ husable
    rintro ⟨f, h⟩
    simp only [he, error_bind] at h
    cases h
  · refine iff_of_false ?_ husable
    rintro ⟨f, h⟩
    simp only [hs, ok_bind] at h
    exact Session.renderWith_ne_settings q settings f h

/-- **What a settings file stops that cannot be used**: reading it gives a table unless its
trouble is not passed over, and that is the empty one if it cannot be opened or is none; a search
fails exactly if the nearest directory that it does not pass by stops it; and a run crashes over
its settings exactly if they are unusable. -/
theorem World.settings_stop_iff (w : World) :
    (∀ path, (∃ fields, (SettingsFile.read w.limits w.tree path).outcome = .ok fields)
      ↔ ¬ SettingsFile.Unreadable w.limits w.tree path) ∧
    (∀ path fields, (SettingsFile.read w.limits w.tree path).outcome = .ok fields
      ↔ SettingsFile.Gives w.limits w.tree path fields
        ∨ SettingsFile.PassedOver w.limits w.tree path ∧ fields = []) ∧
    (∀ start, Fails (SettingsFile.discover w.limits w.tree start).outcome
      ↔ ∃ d, Path.Nearest (fun a => SettingsFile.Blocks w.limits w.tree a
            ∨ ∃ p, SettingsFile.Offers (· ≠ []) w.limits w.tree a p) start d
          ∧ SettingsFile.Blocks w.limits w.tree d) ∧
    ∀ (args : List String) (q : Request) (level : Option Level), w.Accepts args q →
      w.env.logLevel? = .ok level →
      ((∃ f, (w.run args).ending = .crashed (.settings f)) ↔ w.HasUnusable q) := by
  refine ⟨fun path => ?_, fun path fields => SettingsFile.read_eq_ok_iff,
    fun start => SettingsFile.fails_discover_iff, fun args q level => settings_crash⟩
  rw [← SettingsFile.fails_read, not_fails_iff]

/-! ### A project file that is no text -/

/-- A world with an empty report beside a project file of these bytes. -/
def World.withProject (bytes : List UInt8) : World :=
  let files := [([SettingsFile.projectName], .file bytes),
    (["r.json"], .file "[]".toUTF8.data.toList)]
  ⟨"lintframe", 78, ⟨"/", files⟩, ⟨[], some false⟩, [], .usual⟩

/-- What the command line asks for that names the report and nothing else. -/
def bareRequest : Request := ⟨.warning, none, RenderArguments.none, "r.json"⟩

theorem World.accepts_bare (bytes : List UInt8) :
    (World.withProject bytes).Accepts ["render", "r.json"] bareRequest := by
  refine .render (show GlobalArguments.read _ _ = .ok ⟨0, 0, none, ["render", "r.json"]⟩ from ?_)
    rfl rfl ?_
  · have hparsed : Switch.parse GlobalOption.switches false ["render", "r.json"]
        = .ok ⟨[], ["render", "r.json"]⟩ := by
      rw [Switch.parse, if_neg (by decide), if_neg (by decide), if_neg (by decide)]
    rw [GlobalArguments.read, hparsed]
    rfl
  · have hparsed : Switch.parse RenderOption.switches true ["r.json"] = .ok ⟨[], ["r.json"]⟩ := by
      rw [Switch.parse, if_neg (by decide), if_neg (by decide), if_pos (by decide), Switch.parse]
      rfl
    rw [Session.readArguments, hparsed]
    rfl

theorem World.unreadable_withProject :
    SettingsFile.Unreadable .usual (World.withProject [0xff]).tree
      ⟨"/", [SettingsFile.projectName]⟩ :=
  .undecodable (e := ⟨0xff, 0, 1, .invalidStart⟩) (by decide +kernel)

/-- A byte that is no text in a project file of the directory crashes the run, although the
report is fine and no settings were asked for. -/
theorem World.settings_stop_of_undecodable :
    let w := World.withProject [0xff]
    w.Accepts ["render", "r.json"] bareRequest ∧ w.HasUnusable bareRequest ∧
      ∃ f, (w.run ["render", "r.json"]).ending = .crashed (.settings f) := by
  intro w
  have hbelow : Path.below ⟨"/", []⟩ SettingsFile.projectName
      = ⟨"/", [SettingsFile.projectName]⟩ := by decide +kernel
  have hway : (Path.ofString (Session.directory w bareRequest.arguments)).selfAndAncestors
      = [⟨"/", []⟩] := by decide +kernel
  have hown : w.tree.isFile (Path.below ⟨"/", []⟩ SettingsFile.ownName).toString = .ok false := by
    decide +kernel
  have hproject : w.tree.isFile (Path.below ⟨"/", []⟩ SettingsFile.projectName).toString
      = .ok true := by decide +kernel
  have hunusable : w.HasUnusable bareRequest := by
    refine .search rfl rfl ?_
    rw [hway]
    exact .read hown hproject (hbelow ▸ World.unreadable_withProject)
  have haccepts := World.accepts_bare [0xff]
  exact ⟨haccepts, hunusable,
    ((World.settings_stop_iff w).2.2.2 _ _ none haccepts rfl).mpr hunusable⟩

/-- The file itself is not read either, and every search that comes upon it fails. -/
theorem SettingsFile.read_of_undecodable :
    let tree := (World.withProject [0xff]).tree
    (¬ ∃ fields, (read .usual tree ⟨"/", [projectName]⟩).outcome = .ok fields) ∧
      ¬ ∃ found, (discover .usual tree ⟨"/", ["a"]⟩).outcome = .ok found := by
  intro tree
  rw [← not_fails_iff, ← not_fails_iff, not_not, not_not]
  exact ⟨fails_read.mpr World.unreadable_withProject,
    .undecodable ⟨0xff, 0, 1, .invalidStart⟩, by decide +kernel⟩

end LintReport
