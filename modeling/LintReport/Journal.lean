/-
The journal: what a computation notes on its way to a result.

* `Level` — how important a note is; a larger level is more important;
* `Event` — a note, the fact that a document was asked for, or a text that was written;
* `Logged` — a value with the events on the way to it, in order;
* `Attempt` — a computation that may fail; its events are kept when it fails.

`Logged.value_bind` and `Attempt.outcome_bind` say that the result never depends on the events,
so that a theorem about results may forget them.
-/

namespace LintReport

/-- How important a note is. -/
abbrev Level := Int

namespace Level

/-- The steps of a computation. -/
def trace : Level := 5
/-- Decisions of interest to a developer. -/
def debug : Level := 10
/-- Ordinary information. -/
def info : Level := 20
/-- Something was passed over. -/
def warning : Level := 30
/-- Something could not be used. -/
def error : Level := 40
/-- Nothing can go on. -/
def critical : Level := 50

/-- The levels that have a name. -/
def names : List (Level × String) := [
  (critical, "CRITICAL"), (error, "ERROR"), (warning, "WARNING"), (info, "INFO"),
  (debug, "DEBUG"), (trace, "TRACE"), (0, "NOTSET")]

/-- The name of a level; a level without one is called by its number. -/
def name (l : Level) : String := (names.lookup l).getD s!"Level {l}"

end Level

/-- The two streams that a program writes to. -/
inductive Channel
  | output
  | diagnostics
  deriving DecidableEq, Repr

/-- An event of the journal. -/
inductive Event
  | note (level : Level) (text : String)
  /-- The text of a document was asked for, by the path it is known under. -/
  | consulted (ref : String)
  | written (channel : Channel) (text : String)
  deriving DecidableEq, Repr

/-- What the events write to a channel. -/
def writtenTo (channel : Channel) (events : List Event) : String :=
  String.join (events.filterMap fun
    | .written c text => if c = channel then some text else none
    | _ => none)

/-- A value with the events on the way to it. -/
structure Logged (α : Type) where
  value : α
  events : List Event
  deriving Repr

namespace Logged

instance : Monad Logged where
  pure a := ⟨a, []⟩
  bind x f := ⟨(f x.value).value, x.events ++ (f x.value).events⟩

instance : LawfulMonad Logged := LawfulMonad.mk' Logged
  (fun x => by cases x; simp [Functor.map])
  (fun x f => by simp [bind, pure])
  (fun x f g => by simp [bind, List.append_assoc])

/-- A note and nothing else. -/
def note (level : Level) (text : String) : Logged Unit := ⟨(), [.note level text]⟩

/-- The fact that a document was asked for. -/
def consult (ref : String) : Logged Unit := ⟨(), [.consulted ref]⟩

/-- A text written to a channel. -/
def write (channel : Channel) (text : String) : Logged Unit := ⟨(), [.written channel text]⟩

@[simp] theorem value_pure {α : Type} (a : α) : (pure a : Logged α).value = a := rfl

@[simp] theorem value_bind {α β : Type} (x : Logged α) (f : α → Logged β) :
    (x >>= f).value = (f x.value).value := rfl

end Logged

/-- A computation that may fail and keeps its events. -/
abbrev Attempt (ε α : Type) := ExceptT ε Logged α

namespace Attempt

/-- The result of a computation without its events. -/
def outcome {ε α : Type} (x : Attempt ε α) : Except ε α := x.run.value

/-- A computation that cannot fail. -/
def ofLogged {ε α : Type} (x : Logged α) : Attempt ε α := ExceptT.lift x

/-- A result without events. -/
def ofExcept {ε α : Type} (x : Except ε α) : Attempt ε α := ExceptT.mk (pure x)

@[simp] theorem outcome_pure {ε α : Type} (a : α) : (pure a : Attempt ε α).outcome = .ok a := rfl

@[simp] theorem outcome_bind {ε α β : Type} (x : Attempt ε α) (f : α → Attempt ε β) :
    (x >>= f).outcome = x.outcome >>= fun a => (f a).outcome := by
  show (ExceptT.bindCont f (x.run).value).value = _
  cases h : x.run.value with
  | ok a =>
    simp [outcome, h, ExceptT.bindCont, bind, Except.bind]
    rfl
  | error e => simp [outcome, h, ExceptT.bindCont, bind, Except.bind]

@[simp] theorem outcome_ofLogged {ε α : Type} (x : Logged α) :
    (ofLogged x : Attempt ε α).outcome = .ok x.value := rfl

@[simp] theorem outcome_ofExcept {ε α : Type} (x : Except ε α) :
    (ofExcept x : Attempt ε α).outcome = x := rfl

end Attempt

end LintReport
