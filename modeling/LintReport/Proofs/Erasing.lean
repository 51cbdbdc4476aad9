/-
What one pass leaves of a text when it takes words out of it.

* `Finds` — a reader of words, each of which begins with an escape character and has no other one;
* `Erased` — what is left of a text after one pass from the left that takes every word out;
* `Erased.append` — the pass goes through an append where no word goes on with the second text;
* `Splits` — a text that is a word except for the words that stand inside of it;
* `infix_erase_iff` — a word is left exactly if the text has one that is split.

Design notes: the pass does not look back, so what it joins is not looked at again.  All that is
said here rests on the escape character: a word begins at each one or at none, and a word that has
another one inside of it is no word where it begins, so that only the one inside is taken out.
-/
import Mathlib.Data.List.Infix
import Mathlib.Tactic.MkIffOfInductiveProp

namespace LintReport.Terminal

/-- A reader that finds the words at the beginning of texts. -/
structure Finds (IsWord : List Char → Prop) (length? : List Char → Option Nat) : Prop where
  escape : ∀ {w}, IsWord w → ∃ rest, w = '\x1b' :: rest ∧ '\x1b' ∉ rest
  complete : ∀ {w}, IsWord w → ∀ rest, length? (w ++ rest) = some w.length
  sound : ∀ {cs n}, length? cs = some n → ∃ w rest, cs = w ++ rest ∧ IsWord w ∧ w.length = n

/-- What one pass leaves of a text: where a word begins it is taken out, and where none begins a
character stays. -/
@[mk_iff]
inductive Erased (IsWord : List Char → Prop) : List Char → List Char → Prop
  | nil : Erased IsWord [] []
  | word {w rest kept : List Char} (hw : IsWord w) (h : Erased IsWord rest kept) :
      Erased IsWord (w ++ rest) kept
  | char {c : Char} {rest kept : List Char} (hc : ∀ w, IsWord w → ¬ w <+: c :: rest)
      (h : Erased IsWord rest kept) : Erased IsWord (c :: rest) (c :: kept)

/-- A text with words put into it, at any places. -/
inductive Interleaves (IsWord : List Char → Prop) : List Char → List Char → Prop
  | nil : Interleaves IsWord [] []
  | word {w rest kept : List Char} (hw : IsWord w) (h : Interleaves IsWord rest kept) :
      Interleaves IsWord (w ++ rest) kept
  | char (c : Char) {rest kept : List Char} (h : Interleaves IsWord rest kept) :
      Interleaves IsWord (c :: rest) (c :: kept)

/-- A word with other words between its first character and its last one. -/
def Splits (IsWord : List Char → Prop) (part word : List Char) : Prop :=
  ∃ inner middle last, part = '\x1b' :: (inner ++ [last]) ∧ word = '\x1b' :: (middle ++ [last]) ∧
    Interleaves IsWord inner middle ∧ inner ≠ middle

variable {IsWord : List Char → Prop} {length? : List Char → Option Nat}
  {cs kept xs ys a b : List Char}

/-! ### Words -/

namespace Finds

variable (find : Finds IsWord length?)
include find

theorem ne_nil {w : List Char} (hw : IsWord w) : w ≠ [] := by
  obtain ⟨rest, rfl, -⟩ := find.escape hw
  exact List.cons_ne_nil _ _

/-- No word goes on with another one. -/
theorem eq_of_isPrefix {w w' : List Char} (hw : IsWord w) (hw' : IsWord w') (h : w <+: w') :
    w = w' := by
  obtain ⟨rest, rfl⟩ := h
  have hlength := find.complete hw rest
  rw [← List.append_nil (w ++ rest), find.complete hw' []] at hlength
  exact List.IsPrefix.eq_of_length (List.prefix_append w rest) (Option.some.inj hlength).symm

/-- Two words at the beginning of one text are the same. -/
theorem append_inj {w w' rest rest' : List Char} (hw : IsWord w) (hw' : IsWord w')
    (h : w ++ rest = w' ++ rest') : w = w' ∧ rest = rest' := by
  have hsame : w = w' := by
    rcases List.prefix_or_prefix_of_prefix ⟨rest, h⟩ (List.prefix_append w' rest') with hp | hp
    · exact find.eq_of_isPrefix hw hw' hp
    · exact (find.eq_of_isPrefix hw' hw hp).symm
  subst hsame
  exact ⟨rfl, List.append_cancel_left h⟩

theorem not_isPrefix_of_none (h : length? cs = none) : ∀ w, IsWord w → ¬ w <+: cs := by
  rintro w hw ⟨rest, rfl⟩
  cases h.symm.trans (find.complete hw rest)

/-- No word begins with another character than the escape character. -/
theorem not_isPrefix_of_ne {c : Char} (h : c ≠ '\x1b') (rest : List Char) :
    ∀ w, IsWord w → ¬ w <+: c :: rest := by
  intro w hw hstart
  obtain ⟨tail, rfl, -⟩ := find.escape hw
  exact h (List.cons_prefix_cons.mp hstart).1.symm

/-- A pass that skips the words that a reader finds takes every word out. -/
theorem erased_of_skip {after : Nat → List Char → List Char} (hnil : ∀ k, after k [] = [])
    (hskip : ∀ k c rest, after (k + 1) (c :: rest) = after k rest)
    (hword : ∀ c rest n, length? (c :: rest) = some n → after 0 (c :: rest) = after (n - 1) rest)
    (hchar : ∀ c rest, length? (c :: rest) = none → after 0 (c :: rest) = c :: after 0 rest)
    (cs : List Char) : Erased IsWord cs (after 0 cs) := by
  have hlength : ∀ xs ys : List Char, after xs.length (xs ++ ys) = after 0 ys := by
    intro xs ys
    induction xs with
    | nil => rfl
    | cons x xs ih => rw [List.length_cons, List.cons_append, hskip, ih]
  -- a word may be long, so the induction is on the length of what is still to be read
  induction hn : cs.length using Nat.strong_induction_on generalizing cs with
  | _ n ih =>
    cases cs with
    | nil =>
      rw [hnil]
      exact .nil
    | cons c rest =>
      cases hfound : length? (c :: rest) with
      | none =>
        rw [hchar c rest hfound]
        exact .char (find.not_isPrefix_of_none hfound) (ih _ (by simp [← hn]) rest rfl)
      | some k =>
        obtain ⟨w, more, hsplit, hw, rfl⟩ := find.sound hfound
        cases w with
        | nil => exact absurd rfl (find.ne_nil hw)
        | cons x w =>
          have hrest : rest = w ++ more := (List.cons.inj hsplit).2
          have hmore : more.length < n := by
            rw [← hn, hrest, List.length_cons, List.length_append]
            omega
          rw [hword c rest _ hfound, hsplit, hrest, List.length_cons, Nat.add_sub_cancel, hlength]
          exact .word hw (ih _ hmore more rfl)

end Finds

/-! ### One pass -/

namespace Erased

/-- There is one result of a pass. -/
theorem unique (find : Finds IsWord length?) (ha : Erased IsWord cs a) (hb : Erased IsWord cs b) :
    a = b := by
  induction ha generalizing b with
  | nil =>
    rcases (erased_iff ..).mp hb with ⟨-, rfl⟩ | ⟨w, rest, hw, -, hcs⟩ | ⟨_, _, _, -, -, hcs, -⟩
    · rfl
    · exact absurd (List.append_eq_nil_iff.mp hcs.symm).1 (find.ne_nil hw)
    · cases hcs
  | @word w rest a hw _ ih =>
    rcases (erased_iff ..).mp hb with
      ⟨hcs, -⟩ | ⟨w', rest', hw', hb, hcs⟩ | ⟨c, cs, _, hc, -, hcs, -⟩
    · exact absurd (List.append_eq_nil_iff.mp hcs).1 (find.ne_nil hw)
    · obtain ⟨-, rfl⟩ := find.append_inj hw hw' hcs
      exact ih hb
    · exact absurd ⟨rest, hcs⟩ (hc w hw)
  | @char c rest a hc _ ih =>
    rcases (erased_iff ..).mp hb with
      ⟨hcs, -⟩ | ⟨w, rest', hw, -, hcs⟩ | ⟨d, cs, b, -, hb, hcs, rfl⟩
    · cases hcs
    · exact absurd ⟨rest', hcs.symm⟩ (hc w hw)
    · obtain ⟨rfl, rfl⟩ := List.cons.inj hcs
      rw [ih hb]

/-- The pass goes through an append where no word goes on with the second text. -/
theorem append (hx : Erased IsWord xs a) (hy : Erased IsWord ys b)
    (hstop : ∀ w, IsWord w → ∀ c ∈ ys.head?, c ∉ w.tail) : Erased IsWord (xs ++ ys) (a ++ b) := by
  induction hx with
  | nil => exact hy
  | word hw _ ih =>
    rw [List.append_assoc]
    exact .word hw ih
  | @char c rest a hc _ ih =>
    refine .char ?_ ih
    rintro w hw ⟨after, hafter⟩
    -- the word ends in the first text, or goes on with the second one
    rcases List.append_eq_append_iff.mp (hafter.trans (List.cons_append ..).symm) with
      ⟨more, hmore, -⟩ | ⟨more, rfl, hys⟩
    · exact hc w hw ⟨more, hmore.symm⟩
    · cases more with
      | nil => exact hc _ hw (by simp)
      | cons y more => exact hstop _ hw y (by simp [hys]) (by simp)

/-- No word goes on with an escape character. -/
theorem append_escape (find : Finds IsWord length?) (hx : Erased IsWord xs a)
    (hy : Erased IsWord ('\x1b' :: ys) b) : Erased IsWord (xs ++ '\x1b' :: ys) (a ++ b) := by
  refine hx.append hy fun w hw c hc => ?_
  obtain ⟨tail, rfl, hesc⟩ := find.escape hw
  rw [List.head?_cons, Option.mem_some_iff] at hc
  exact hc ▸ hesc

/-- A text without escape characters stays as it is. -/
theorem of_not_mem (find : Finds IsWord length?) (h : '\x1b' ∉ cs) : Erased IsWord cs cs := by
  induction cs with
  | nil => exact .nil
  | cons c cs ih =>
    rw [List.mem_cons, not_or] at h
    exact .char (find.not_isPrefix_of_ne (Ne.symm h.1) cs) (ih h.2)

/-- What stands before a character that is kept goes into what is kept before it. -/
theorem of_append_cons {c : Char} (h : Erased IsWord cs (a ++ c :: b)) :
    ∃ front rest, cs = front ++ c :: rest ∧ Interleaves IsWord front a ∧
      (∀ w, IsWord w → ¬ w <+: c :: rest) ∧ Erased IsWord rest b := by
  generalize hkept : a ++ c :: b = kept at h
  induction h generalizing a with
  | nil => exact absurd hkept (by simp)
  | @word w _ _ hw _ ih =>
    obtain ⟨front, rest, rfl, hfront, hrest⟩ := ih hkept
    exact ⟨w ++ front, rest, (List.append_assoc ..).symm, .word hw hfront, hrest⟩
  | char hc h ih =>
    cases a with
    | nil =>
      obtain ⟨rfl, rfl⟩ := List.cons.inj hkept
      exact ⟨[], _, rfl, .nil, hc, h⟩
    | cons d a =>
      obtain ⟨rfl, rfl⟩ := List.cons.inj hkept
      obtain ⟨front, rest, rfl, hfront, hrest⟩ := ih rfl
      exact ⟨d :: front, rest, rfl, .char d hfront, hrest⟩

/-- The pass takes out words that were put between characters at which none begins. -/
theorem of_interleaves (find : Finds IsWord length?) {inner middle : List Char}
    (h : Interleaves IsWord inner middle) (hesc : '\x1b' ∉ middle) (hb : Erased IsWord ys b) :
    Erased IsWord (inner ++ ys) (middle ++ b) := by
  induction h with
  | nil => exact hb
  | word hw _ ih =>
    rw [List.append_assoc]
    exact .word hw (ih hesc)
  | char c _ ih =>
    rw [List.mem_cons, not_or] at hesc
    exact .char (find.not_isPrefix_of_ne (Ne.symm hesc.1) _) (ih hesc.2)

end Erased

/-! ### Words that are left -/

/-- Where the first word was put in, what stands before it is as it was. -/
theorem Interleaves.exists_plain (find : Finds IsWord length?) {inner middle : List Char}
    (h : Interleaves IsWord inner middle) (hne : inner ≠ middle) :
    ∃ plain behind, inner = plain ++ '\x1b' :: behind ∧ plain <+: middle := by
  induction h with
  | nil => exact absurd rfl hne
  | word hw _ _ =>
    obtain ⟨rest, rfl, -⟩ := find.escape hw
    exact ⟨[], _, rfl, List.nil_prefix⟩
  | char c _ ih =>
    obtain ⟨plain, behind, rfl, hplain⟩ := ih fun h => hne (congrArg (c :: ·) h)
    exact ⟨c :: plain, behind, rfl, List.cons_prefix_cons.mpr ⟨rfl, hplain⟩⟩

/-- No word begins where a split one does. -/
theorem Splits.not_isPrefix (find : Finds IsWord length?) {part word : List Char}
    (h : Splits IsWord part word) (hword : IsWord word) (rest : List Char) :
    ∀ w, IsWord w → ¬ w <+: part ++ rest := by
  obtain ⟨inner, middle, last, rfl, rfl, hinner, hne⟩ := h
  intro w hw hstart
  obtain ⟨plain, behind, rfl, hplain⟩ := hinner.exists_plain find hne
  obtain ⟨tail, rfl, htail⟩ := find.escape hw
  -- the word stops before the first of those inside, so it would begin the one around them
  have hshort : tail <+: plain := by
    have htext : tail <+: plain ++ '\x1b' :: (behind ++ [last] ++ rest) := by
      simpa using (List.cons_prefix_cons.mp hstart).2
    rcases List.prefix_or_prefix_of_prefix htext (List.prefix_append ..) with hin | ⟨more, rfl⟩
    · exact hin
    · cases more with
      | nil => simp
      | cons c more =>
        obtain ⟨rfl, -⟩ := List.cons_prefix_cons.mp ((List.prefix_append_right_inj plain).mp htext)
        exact absurd (by simp) htail
  have hbegins : tail <+: middle ++ [last] := (hshort.trans hplain).trans (List.prefix_append ..)
  have hsame := find.eq_of_isPrefix hw hword (List.cons_prefix_cons.mpr ⟨rfl, hbegins⟩)
  have hlength := (hshort.trans hplain).length_le
  rw [(List.cons.inj hsame).2, List.length_append, List.length_singleton] at hlength
  omega

/-- **A word is left exactly if the text has one that is split by others.** -/
theorem infix_erase_iff (find : Finds IsWord length?) {erase : List Char → List Char}
    (herase : ∀ cs, Erased IsWord cs (erase cs)) {word : List Char} (hword : IsWord word) :
    word <:+: erase cs ↔ ∃ part, Splits IsWord part word ∧ part <:+: cs := by
  obtain ⟨tail, rfl, htail⟩ := find.escape hword
  constructor
  · rintro ⟨a, b, hkept⟩
    have hpass := herase cs
    rw [← hkept, List.append_assoc, List.cons_append] at hpass
    -- the escape character is kept, so the word did not stand there as a whole
    obtain ⟨front, rest, rfl, -, hnone, hpass⟩ := hpass.of_append_cons
    rcases List.eq_nil_or_concat tail with rfl | ⟨middle, last, rfl⟩
    · exact absurd ⟨rest, rfl⟩ (hnone _ hword)
    · rw [List.concat_eq_append, List.append_assoc] at hpass
      obtain ⟨inner, rest, rfl, hinner, -, -⟩ := hpass.of_append_cons
      refine ⟨'\x1b' :: (inner ++ [last]), ⟨inner, middle, last, rfl, by simp, hinner, ?_⟩,
        front, rest, by simp⟩
      rintro rfl
      exact hnone _ hword ⟨rest, by simp⟩
  · rintro ⟨part, hsplit, front, rest, rfl⟩
    have hnone := hsplit.not_isPrefix find hword rest
    obtain ⟨inner, middle, last, rfl, hmiddle, hinner, -⟩ := hsplit
    obtain rfl : tail = middle ++ [last] := (List.cons.inj hmiddle).2
    rw [List.mem_append, List.mem_singleton, not_or] at htail
    have hlast : Erased IsWord (last :: rest) (last :: erase rest) :=
      .char (find.not_isPrefix_of_ne (Ne.symm htail.2) rest) (herase rest)
    have hpass : Erased IsWord ('\x1b' :: (inner ++ last :: rest))
        ('\x1b' :: (middle ++ last :: erase rest)) :=
      .char (by simpa using hnone) (.of_interleaves find hinner htail.1 hlast)
    have hall : Erased IsWord (front ++ '\x1b' :: (inner ++ [last]) ++ rest)
        (erase front ++ '\x1b' :: (middle ++ [last]) ++ erase rest) := by
      simpa using (herase front).append_escape find hpass
    exact ⟨erase front, erase rest, hall.unique find (herase _)⟩

end LintReport.Terminal
