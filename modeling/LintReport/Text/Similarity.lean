/-
Similarity of words, for suggestions.

* `matched` — how many characters two words share in their longest common blocks;
* `closest` — the choices that are most like a word, the best first.

Design notes: the longest block that two words share is set apart first, the leftmost of
several, and then what stands to the left of it in both words and what stands to the right. A
choice is like a word if at least six tenths of the characters of both are matched.
-/

namespace LintReport.Text

/-- The length of the longest common beginning. -/
def sharedLength : List Char → List Char → Nat
  | a :: as, b :: bs => if a = b then sharedLength as bs + 1 else 0
  | _, _ => 0

/-- A block that two words share: where it starts in both, and its length. -/
structure SharedBlock where
  left : Nat
  right : Nat
  length : Nat
  deriving DecidableEq, Repr, Inhabited

/-- The longest block that two words share, the leftmost of several. -/
def longestBlock (a b : List Char) : SharedBlock :=
  let places := (List.range a.length).flatMap fun i => (List.range b.length).map fun j => (i, j)
  places.foldl (fun best (i, j) =>
    let length := sharedLength (a.drop i) (b.drop j)
    if best.length < length then ⟨i, j, length⟩ else best) ⟨0, 0, 0⟩

/-- The number of characters in shared blocks, at most `fuel` blocks deep. -/
def matchedWithin : Nat → List Char → List Char → Nat
  | 0, _, _ => 0
  | fuel + 1, a, b =>
    let m := longestBlock a b
    if m.length = 0 then 0
    else matchedWithin fuel (a.take m.left) (b.take m.right) + m.length
      + matchedWithin fuel (a.drop (m.left + m.length)) (b.drop (m.right + m.length))

/-- The number of characters of two words in shared blocks. -/
def matched (a b : List Char) : Nat := matchedWithin a.length a b

/-- How like a choice is to a word: the characters matched, and those of both words. -/
structure Likeness where
  choice : String
  matched : Nat
  total : Nat
  deriving DecidableEq, Repr, Inhabited

namespace Likeness

/-- The likeness of a choice to a word. -/
def ofWords (choice word : String) : Likeness :=
  ⟨choice, Text.matched choice.toList word.toList, choice.length + word.length⟩

/-- Whether enough is matched. -/
def isEnough (l : Likeness) : Bool := 3 * l.total ≤ 10 * l.matched

/-- Whether one is at least as good as another; of two equal ones the later word is better. -/
def atLeast (l m : Likeness) : Bool :=
  let a := l.matched * m.total
  let b := m.matched * l.total
  b < a || (a == b && m.choice ≤ l.choice)

end Likeness

/-- How many choices are suggested. -/
def maxClosest : Nat := 3

/-- The choices that are most like a word. -/
def closest (word : String) (choices : List String) : List String :=
  let like := (choices.map fun c => Likeness.ofWords c word).filter Likeness.isEnough
  ((like.mergeSort Likeness.atLeast).take maxClosest).map Likeness.choice

end LintReport.Text
