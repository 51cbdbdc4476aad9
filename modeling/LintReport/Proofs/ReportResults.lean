/-
What comes of the report of a run.

* `World.reportBytes`, `World.messages?` — the bytes of a report, and the messages in them;
* `World.reportExit` — what a report makes a run end with that has settings;
* `World.HasOverrun`, `World.HasUnpaired` — the numbers or the nesting of a report go too far, or
  half of a surrogate pair stands alone in it;
* `World.reportResult` — what the command makes of a report: a crash, a refusal, or messages.

Design notes: what a report says with half of a surrogate pair is no text of characters, so nothing
is said here about a run on one; it is kept apart from the reports that go too far.
-/
import LintReport.CommandLine.Program
import LintReport.Proofs.Reports

namespace LintReport

open Outcome

/-! ### Bytes and messages -/

/-- The bytes of a report, or what a run ends with if there are none: those of the input for a
dash alone, and otherwise those of a file. -/
def World.reportBytes (w : World) (report : String) : Except Exit (List UInt8) :=
  if report = "-" then .ok w.input
  else
    let path := (Path.ofString report).toString
    match w.tree.isFile path with
    | .error _ => .error .io
    | .ok false => .error .noInput
    | .ok true => (w.tree.readBytes path).mapError fun _ => .io

/-- The directory that the paths of a report start from. -/
def World.reportBase (w : World) (report : String) : Path :=
  if report = "-" then .ofString w.tree.here else Report.baseOf w.tree report

/-- The messages of a report with these bytes, if it is one. -/
def World.messages? (w : World) (report : String) (bytes : List UInt8) : Option (List Message) :=
  match FileTree.textOfBytes bytes with
  | .ok text => (Report.ofText w.limits (w.reportBase report) text).outcome.toOption
  | .error _ => none

/-- The text of a report. -/
def World.HasText (w : World) (report text : String) : Prop :=
  ∃ bytes, w.reportBytes report = .ok bytes ∧ FileTree.textOfBytes bytes = .ok text

/-- A file that is found is kept from being read by the file system alone. -/
theorem FileTree.refused_of_isFile {tree : FileTree} {path : String} {e : ReadError}
    (hfile : tree.isFile path = .ok true) (h : tree.readBytes path = .error e) :
    ∃ reason p, e = .refused reason p := by
  unfold isFile at hfile
  unfold readBytes at h
  cases hnull : hasNull path with
  | true =>
    rw [if_pos hnull] at hfile
    cases hfile
  | false =>
    rw [if_neg (by simp [hnull])] at h
    cases hentry : tree.entry path with
    | error reason =>
      simp only [hentry] at h
      cases h
      exact ⟨_, _, rfl⟩
    | ok entry =>
      cases entry with
      | file bytes =>
        simp only [hentry] at h
        cases h
      | locked =>
        simp only [hentry] at h
        cases h
        exact ⟨_, _, rfl⟩
      | directory =>
        simp only [hentry] at h
        cases h
        exact ⟨_, _, rfl⟩

namespace Session

variable {w : World} {s : Session} {report : String}

/-- A report without bytes is refused. -/
theorem readReport_of_noBytes {exit : Exit} (h : w.reportBytes report = .error exit) :
    ∃ r, (s.readReport w report).outcome = .error (s.refuse r) ∧ r.exit = exit := by
  unfold World.reportBytes at h
  by_cases hinput : report = "-"
  · rw [if_pos hinput] at h
    cases h
  · rw [if_neg hinput] at h
    unfold readReport
    rw [if_neg hinput]
    cases hfile : w.tree.isFile (Path.ofString report).toString with
    | error e =>
      simp only [hfile] at h ⊢
      cases h
      exact ⟨_, rfl, rfl⟩
    | ok found =>
      cases found with
      | false =>
        simp only [hfile] at h ⊢
        cases h
        exact ⟨_, rfl, rfl⟩
      | true =>
        simp only [hfile] at h ⊢
        obtain ⟨e, hbytes, rfl⟩ := mapError_eq_error.mp h
        obtain ⟨reason, p, rfl⟩ := FileTree.refused_of_isFile hfile hbytes
        refine ⟨.unreadable report (.refused reason p), ?_, rfl⟩
        simp only [Report.load, FileTree.readText, hbytes, Attempt.outcome_adapt,
          Attempt.outcome_bind, Attempt.outcome_ofExcept, error_bind]
        rfl

/-- The bytes of a report are decoded, and its items are read. -/
theorem readReport_of_bytes {bytes : List UInt8} (h : w.reportBytes report = .ok bytes) :
    (s.readReport w report).outcome = (do
      let text ← (FileTree.textOfBytes bytes).mapError (s.stopOfRead report)
      (Report.ofText w.limits (w.reportBase report) text).outcome.mapError
        (s.stopOfReport report)) := by
  unfold World.reportBytes at h
  unfold readReport World.reportBase
  by_cases hinput : report = "-"
  · rw [if_pos hinput] at h ⊢
    cases h
    rw [if_pos hinput, hinput, readInput]
    simp only [Attempt.outcome_bind, Attempt.outcome_adapt, Attempt.outcome_ofExcept]
  · rw [if_neg hinput] at h ⊢
    rw [if_neg hinput]
    cases hfile : w.tree.isFile (Path.ofString report).toString with
    | error e =>
      simp only [hfile] at h
      cases h
    | ok found =>
      cases found with
      | false =>
        simp only [hfile] at h
        cases h
      | true =>
        simp only [hfile] at h ⊢
        have hbytes := mapError_eq_ok.mp h
        simp only [Report.load, FileTree.readText, hbytes, Attempt.outcome_adapt,
          Attempt.outcome_bind, Attempt.outcome_ofExcept, ok_bind]
        cases FileTree.textOfBytes bytes with
        | error e => rfl
        | ok text =>
          show ((Report.ofText w.limits _ text).outcome.mapError _).mapError _
            = (Report.ofText w.limits (Report.baseOf w.tree report) text).outcome.mapError _
          cases (Report.ofText w.limits (Report.baseOf w.tree report) text).outcome with
          | ok msgs => rfl
          | error e => rfl

end Session

/-- Whether a message is an error that is not ignored. -/
def Message.isOpenError (m : Message) : Bool := m.severity = .error && !m.ignored

/-- What a report makes a run end with that has settings: it is not there, cannot be read, is
none, or else has an error that is not ignored or has none. -/
def World.reportExit (w : World) (report : String) : Exit :=
  match w.reportBytes report with
  | .error exit => exit
  | .ok bytes =>
    match w.messages? report bytes with
    | none => .data
    | some msgs => if msgs.any Message.isOpenError then .failure else .success

/-! ### What comes of a report -/

theorem World.HasText.unique {w : World} {report text text' : String}
    (h : w.HasText report text) (h' : w.HasText report text') : text = text' := by
  obtain ⟨bytes, hbytes, htext⟩ := h
  obtain ⟨bytes', hbytes', htext'⟩ := h'
  obtain rfl := Except.ok.inj (hbytes.symm.trans hbytes')
  exact Except.ok.inj (htext.symm.trans htext')

end LintReport
