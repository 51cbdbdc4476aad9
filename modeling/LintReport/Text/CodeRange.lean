/-
Sets of code points given by inclusive ranges, the form in which the character
tables of this library are written.
-/

namespace LintReport.Text

/-- Whether a code point lies in one of the inclusive ranges. -/
def inRanges (ranges : Array (Nat × Nat)) (n : Nat) : Bool :=
  ranges.any fun r => r.1 ≤ n && n ≤ r.2

end LintReport.Text
