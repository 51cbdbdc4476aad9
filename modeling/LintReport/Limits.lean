/-
How far readers and printers go.

* `Limits` — the deepest nesting of what is read and of the values that are printed, the longest
  path of keys, and the widest marker;
* `Limits.usual` — the limits of a run with a stack of the usual size.

Design notes: no format has such limits. They come from the machine that a program runs on and
from the readers that it uses, so whatever reads or prints is given its limits, and what is said
about it is said for all of them.
-/

namespace LintReport

/-- How far readers and printers go. -/
structure Limits where
  /-- The deepest nesting of a report that is read. -/
  report : Nat
  /-- The deepest nesting of a document that is followed. -/
  document : Nat
  /-- The deepest nesting of a value in a settings file. -/
  settings : Nat
  /-- The greatest number of parts of a key in a settings file. -/
  keyParts : Nat
  /-- The deepest nesting of the tables of a settings file once they are put together. -/
  tables : Nat
  /-- The deepest nesting of a value that is printed. -/
  printed : Nat
  /-- The widest marker that there is room for; there always is for one column. -/
  marker : Int
  one_le_marker : 1 ≤ marker
  deriving DecidableEq, Repr

/-- The limits of a run with a stack of the usual size. -/
def Limits.usual : Limits where
  report := 980
  document := 480
  settings := 100
  keyParts := 100
  tables := 960
  printed := 980
  marker := 0x10000000000
  one_le_marker := by decide

instance : Inhabited Limits := ⟨.usual⟩

end LintReport
