/-
Digits that are no numerals.

* `Text.Numeral.Deceptive` — a text that looks like a numeral and cannot be read as one;
* `Text.upper_of_digits`, `Text.digits_upper_iff` — capitals neither change digits nor bring any;
* `Text.Numeral.fails_read_iff` — what is made of digits is read unless it is deceptive;
* `Yaml.Document.IsSequence`, `Environment.Asks` — where the test for digits stands: in a walk over
  an item of a sequence, and at the variable that asks for a level;
* `Text.Numeral.digit_guard_iff` — where a numeral is read behind a test for digits, in a pointer
  and in the variable that asks for a level, it is read exactly if it is not deceptive.

Design notes: the test for digits lets more characters through than a numeral may have, superscripts
and circled digits for example, and any number of them.  In the variable the test comes after the
letters were made capitals; the tables of capitals are looked at once, for single characters.
-/
import LintReport.Log
import LintReport.Proofs.Paths

namespace LintReport

open Outcome

/-! ### Capitals -/

namespace Text

variable {c : Char} {s : String}

/-- The blocks of code points that hold all digits. -/
def digitBlocks : List (Nat × Nat) :=
  (48, 57) :: zeroDigits.toList.map (fun z => (z, z + 9)) ++ ornamentalDigitRanges.toList

/-- Whether all blocks of digits lie outside of a stretch of code points. -/
def isDigitFree (first last : Nat) : Bool :=
  digitBlocks.all fun r => Nat.blt last r.1 || Nat.blt r.2 first

theorem exists_digitBlock (h : isDigit c = true) :
    ∃ r ∈ digitBlocks, r.1 ≤ c.toNat ∧ c.toNat ≤ r.2 := by
  rw [isDigit, Bool.or_eq_true] at h
  rcases h with h | h
  · unfold decimalValue? at h
    by_cases hascii : c.toNat < 128
    · rw [if_pos hascii] at h
      refine ⟨(48, 57), List.mem_cons_self, ?_⟩
      by_cases hdigit : c.isDigit = true
      · simpa [Char.isDigit, UInt32.le_iff_toNat_le] using hdigit
      · rw [if_neg hdigit] at h
        cases h
    · rw [if_neg hascii, Option.isSome_map] at h
      obtain ⟨z, hz⟩ := Option.isSome_iff_exists.mp h
      have hrange := Array.find?_some hz
      rw [Bool.and_eq_true, decide_eq_true_eq, decide_eq_true_eq] at hrange
      have hmem : (z, z + 9) ∈ zeroDigits.toList.map fun z => (z, z + 9) :=
        List.mem_map_of_mem (Array.mem_toList_iff.mpr (Array.mem_of_find?_eq_some hz))
      exact ⟨(z, z + 9), List.mem_cons_of_mem _ (List.mem_append_left _ hmem), hrange⟩
  · rw [inRanges, ← Array.any_toList, List.any_eq_true] at h
    obtain ⟨r, hr, hrange⟩ := h
    rw [Bool.and_eq_true, decide_eq_true_eq, decide_eq_true_eq] at hrange
    exact ⟨r, List.mem_append_right _ hr, hrange⟩

/-- A character in a stretch without digits is none. -/
theorem isDigit_of_isDigitFree {first last n : Nat} (h : isDigitFree first last = true)
    (hfirst : first ≤ n) (hlast : n ≤ last) : isDigit (Char.ofNat n) = false := by
  rw [← Bool.not_eq_true]
  intro hdigit
  obtain ⟨r, hr, hrange⟩ := exists_digitBlock hdigit
  have hout := List.all_eq_true.mp h r hr
  rw [Bool.or_eq_true, Nat.blt_eq, Nat.blt_eq] at hout
  -- the number of no character stands for the character zero, which is before all blocks
  have hcode : (Char.ofNat n).toNat = n ∨ (Char.ofNat n).toNat = 0 := by
    by_cases hvalid : n.isValidChar
    · rw [Char.ofNat, dif_pos hvalid]
      exact .inl rfl
    · rw [Char.ofNat, dif_neg hvalid]
      exact .inr rfl
  have hpos : ∀ r ∈ digitBlocks, 0 < r.1 := by decide +kernel
  have hzero := hpos r hr
  omega

/-- Characters below 128 are few enough to be looked at one by one. -/
theorem isDigit_toUpper_of_ascii (h : c.toNat < 128) :
    isDigit c.toUpper = isDigit c ∧ (isDigit c = true → c.toUpper = c) := by
  have htable : ∀ n < 128, isDigit (Char.ofNat n).toUpper = isDigit (Char.ofNat n) ∧
      (isDigit (Char.ofNat n) = true → (Char.ofNat n).toUpper = Char.ofNat n) := by
    decide +kernel
  have hc := htable c.toNat h
  rwa [Char.ofNat_toNat] at hc

/-- A character with more than one capital is no digit, and one of its capitals is none. -/
theorem isDigit_of_mem_upperExpansions {e : Nat × List Nat} (h : e ∈ upperExpansions) :
    isDigit (Char.ofNat e.1) = false ∧ ∃ n ∈ e.2, isDigit (Char.ofNat n) = false := by
  have htable : ∀ e ∈ upperExpansions.toList,
      isDigitFree e.1 e.1 = true ∧ ∃ n ∈ e.2, isDigitFree n n = true := by
    decide +kernel
  obtain ⟨hcode, n, hn, hcapital⟩ := htable e (Array.mem_toList_iff.mpr h)
  exact ⟨isDigit_of_isDigitFree hcode (Nat.le_refl _) (Nat.le_refl _), n, hn,
    isDigit_of_isDigitFree hcapital (Nat.le_refl _) (Nat.le_refl _)⟩

/-- A character with another capital is no digit, and neither is the capital. -/
theorem isDigit_of_mem_upperRanges {e : Nat × Nat × Nat × Int} (h : e ∈ upperRanges) {n : Nat}
    (hfirst : e.1 ≤ n) (hlast : n ≤ e.2.1) :
    isDigit (Char.ofNat n) = false ∧ isDigit (Char.ofNat ((n : Int) + e.2.2.2).toNat) = false := by
  have htable : (upperRanges.toList.all fun e => isDigitFree e.1 e.2.1 &&
      isDigitFree ((e.1 : Int) + e.2.2.2).toNat ((e.2.1 : Int) + e.2.2.2).toNat) = true := by
    decide +kernel
  have hfree := List.all_eq_true.mp htable e (Array.mem_toList_iff.mpr h)
  rw [Bool.and_eq_true] at hfree
  exact ⟨isDigit_of_isDigitFree hfree.1 hfirst hlast,
    isDigit_of_isDigitFree hfree.2 (by omega) (by omega)⟩

/-- A digit is its own capital, and the capitals of another character are not all digits. -/
theorem upperChar_cases (c : Char) : (isDigit c = true ∧ upperChar c = [c])
    ∨ (isDigit c = false ∧ ∃ d ∈ upperChar c, isDigit d = false) := by
  unfold upperChar
  by_cases hascii : c.toNat < 128
  · obtain ⟨hsame, hdigit⟩ := isDigit_toUpper_of_ascii hascii
    rw [if_pos hascii]
    cases hc : isDigit c with
    | true => exact .inl ⟨rfl, by rw [hdigit hc]⟩
    | false => exact .inr ⟨rfl, _, List.mem_singleton_self _, by rw [hsame, hc]⟩
  rw [if_neg hascii]
  split
  · rename_i code cs hfind
    obtain ⟨hcode, n, hn, hdigit⟩ :=
      isDigit_of_mem_upperExpansions (Array.mem_of_find?_eq_some hfind)
    have hfound := Array.find?_some hfind
    rw [beq_iff_eq.mp hfound, Char.ofNat_toNat] at hcode
    exact .inr ⟨hcode, Char.ofNat n, List.mem_map_of_mem hn, hdigit⟩
  · unfold mapCodePoint
    split
    · rename_i first last stride shift hfind
      have hrange := Array.find?_some hfind
      simp only [Bool.and_eq_true, decide_eq_true_eq, beq_iff_eq] at hrange
      obtain ⟨hc, hcapital⟩ := isDigit_of_mem_upperRanges (Array.mem_of_find?_eq_some hfind)
        hrange.1.1 hrange.1.2
      rw [Char.ofNat_toNat] at hc
      exact .inr ⟨hc, _, List.mem_singleton_self _, hcapital⟩
    · rw [Char.ofNat_toNat]
      cases hc : isDigit c with
      | true => exact .inl ⟨rfl, rfl⟩
      | false => exact .inr ⟨rfl, c, List.mem_singleton_self c, hc⟩

/-- Capitals do not change digits. -/
theorem upper_of_digits (h : ∀ c ∈ s.toList, isDigit c = true) : upper s = s := by
  have hchars : s.toList.flatMap upperChar = s.toList := by
    refine (List.flatMap_congr fun c hc => ?_).trans (List.flatMap_singleton' s.toList)
    rcases upperChar_cases c with ⟨-, hsame⟩ | ⟨hnone, -⟩
    · exact hsame
    · cases (h c hc).symm.trans hnone
  rw [upper, hchars, String.ofList_toList]

/-- Capitals are digits exactly if the text is made of digits. -/
theorem digits_upper_iff :
    (∀ c ∈ (upper s).toList, isDigit c = true) ↔ ∀ c ∈ s.toList, isDigit c = true := by
  constructor
  · intro h c hc
    rcases upperChar_cases c with ⟨hdigit, -⟩ | ⟨-, d, hd, hnone⟩
    · exact hdigit
    · have hmem : d ∈ (upper s).toList := by
        rw [upper, String.toList_ofList]
        exact List.mem_flatMap.mpr ⟨c, hc, hd⟩
      cases (h d hmem).symm.trans hnone
  · intro h
    rwa [upper_of_digits h]

end Text

/-! ### Numerals -/

namespace Text.Numeral

variable {text : String}

/-- A text that looks like a numeral and cannot be read as one: digits in the wide sense, one of
them without a decimal value, or too many of them. -/
structure Deceptive (text : String) : Prop where
  ne_empty : text ≠ ""
  digits : ∀ c ∈ text.toList, isDigit c = true
  unreadable : (∃ c ∈ text.toList, decimalValue? c = none) ∨ maxDigits < text.length

theorem exists_denotes_iff :
    (∃ k, Denotes text k) ↔ text ≠ "" ∧ ∀ c ∈ text.toList, decimalValue? c ≠ none := by
  constructor
  · rintro ⟨k, ds, hne, hds, -⟩
    refine ⟨?_, fun c hc hnone => ?_⟩
    · rintro rfl
      exact hne (List.map_eq_nil_iff.mp hds.symm)
    · have hvalue : decimalValue? c ∈ ds.map some := hds ▸ List.mem_map_of_mem hc
      obtain ⟨d, -, hd⟩ := List.mem_map.mp hvalue
      cases hd.trans hnone
  · rintro ⟨hne, hvalues⟩
    refine ⟨_, text.toList.filterMap decimalValue?, ?_, ?_, rfl⟩
    · intro hnil
      obtain ⟨c, cs, hcs⟩ := List.exists_cons_of_ne_nil fun h => hne (String.toList_eq_nil_iff.mp h)
      have hc : c ∈ text.toList := hcs ▸ List.mem_cons_self
      exact hvalues c hc (List.filterMap_eq_nil_iff.mp hnil c hc)
    · rw [List.map_filterMap_some_eq_filter_map_isSome, eq_comm, List.filter_eq_self]
      intro value hvalue
      obtain ⟨c, hc, rfl⟩ := List.mem_map.mp hvalue
      exact Option.isSome_iff_ne_none.mpr (hvalues c hc)

/-- **What is made of digits is read as a numeral unless it is deceptive.** -/
theorem fails_read_iff (hne : text ≠ "") (hdigits : ∀ c ∈ text.toList, isDigit c = true) :
    Fails (read text) ↔ Deceptive text := by
  rw [← not_iff_not, not_fails_iff]
  simp only [read_eq_ok_iff_denotes hdigits]
  constructor
  · rintro ⟨n, k, -, hdenotes, hlength⟩ h
    rcases h.unreadable with ⟨c, hc, hnone⟩ | hlong
    · exact (exists_denotes_iff.mp ⟨k, hdenotes⟩).2 c hc hnone
    · omega
  · intro h
    have hvalues : ∀ c ∈ text.toList, decimalValue? c ≠ none := fun c hc hnone =>
      h ⟨hne, hdigits, .inl ⟨c, hc, hnone⟩⟩
    obtain ⟨k, hk⟩ := exists_denotes_iff.mpr ⟨hne, hvalues⟩
    exact ⟨k, k, rfl, hk, Nat.not_lt.mp fun hlong => h ⟨hne, hdigits, .inr hlong⟩⟩

/-- Capitals deceive exactly if the text does. -/
theorem deceptive_upper_iff : Deceptive (upper text) ↔ Deceptive text := by
  constructor
  · intro h
    have hdigits := digits_upper_iff.mp h.digits
    rwa [upper_of_digits hdigits] at h
  · intro h
    rwa [upper_of_digits h.digits]

end Text.Numeral

open Text.Numeral (Deceptive)

/-- A node of a document is a sequence. -/
def Yaml.Document.IsSequence (d : Document) (id : Nat) : Prop :=
  ∃ items start stop, d.node? id = some ⟨.sequence items, start, stop⟩

/-- An environment asks for a level with a word. -/
def Environment.Asks (env : Environment) (word : String) : Prop :=
  env.get? logLevelVariable = some word

/-- The step of a walk fails exactly where it leads from a sequence over a deceptive segment. -/
theorem Yaml.Document.fails_child? {d : Document} {id : Nat} {segment : String} :
    Fails (d.child? id segment) ↔ d.IsSequence id ∧ Deceptive segment := by
  unfold child?
  split
  · rename_i hnode
    refine iff_of_false (not_fails_ok _) ?_
    rintro ⟨⟨items, start, stop, h⟩, -⟩
    cases hnode.symm.trans h
  · rename_i items start stop hnode
    by_cases hdigits : (segment.toList.all Text.isDigit && !segment.isEmpty) = true
    · rw [if_pos hdigits]
      obtain ⟨hne, hall⟩ := Text.Numeral.all_isDigit_iff.mp hdigits
      have hsequence : d.IsSequence id := ⟨items, start, stop, hnode⟩
      rw [and_iff_right hsequence, ← Text.Numeral.fails_read_iff hne hall]
      cases Text.Numeral.read segment with
      | ok n => simp
      | error e => simp
    · rw [if_neg hdigits]
      refine iff_of_false (not_fails_ok _) fun h => hdigits ?_
      exact Text.Numeral.all_isDigit_iff.mpr ⟨h.2.ne_empty, h.2.digits⟩
  · rename_i hsequence
    refine iff_of_false (not_fails_ok _) ?_
    rintro ⟨⟨items, start, stop, h⟩, -⟩
    exact hsequence _ _ _ h

theorem Level.fails_ofRequest? {word : String} :
    Fails (Level.ofRequest? word) ↔ Deceptive word := by
  unfold ofRequest?
  by_cases hdigits : (word != "" && word.toList.all Text.isDigit) = true
  · rw [if_pos hdigits, fails_map]
    obtain ⟨hne, hall⟩ := Text.Numeral.ne_empty_and_all_isDigit_iff.mp hdigits
    exact Text.Numeral.fails_read_iff hne hall
  · rw [if_neg hdigits]
    refine iff_of_false (not_fails_ok _) fun h => hdigits ?_
    exact Text.Numeral.ne_empty_and_all_isDigit_iff.mpr ⟨h.ne_empty, h.digits⟩

/-- The variable that asks for a level cannot be read exactly if it is deceptive, white space around
it aside. -/
theorem Environment.fails_logLevel? {env : Environment} :
    Fails env.logLevel? ↔ ∃ word, env.Asks word ∧ Deceptive (Text.trim word) := by
  unfold logLevel? Asks
  cases hraw : env.get? logLevelVariable with
  | none => simp
  | some raw =>
    simp only [Option.some.injEq, exists_eq_left']
    by_cases hempty : raw = ""
    · subst hempty
      refine iff_of_false (by simp) fun h => h.ne_empty (by decide +kernel)
    · rw [if_neg hempty, Level.fails_ofRequest?, Text.Numeral.deceptive_upper_iff]

/-- **Behind a test for digits a numeral is read exactly if it is not deceptive.**  A segment leads
from a node to another one, or nowhere, unless the node is a sequence and the segment is deceptive;
then it fails.  And the variable that asks for a level asks for one, or for none, unless its value
is deceptive, white space around it aside; then it fails. -/
theorem Text.Numeral.digit_guard_iff (d : Yaml.Document) (id : Nat) (segment : String)
    (env : Environment) :
    ((∃ found, d.child? id segment = .ok found) ↔ ¬ (d.IsSequence id ∧ Deceptive segment)) ∧
      ((∃ level, env.logLevel? = .ok level) ↔
        ∀ word, env.Asks word → ¬ Deceptive (Text.trim word)) := by
  constructor
  · rw [← not_fails_iff, Yaml.Document.fails_child?]
  · rw [← not_fails_iff, Environment.fails_logLevel?, not_exists]
    exact forall_congr' fun word => not_and

/-- A superscript two is a digit and no numeral: it neither leads to an item of a sequence nor
nowhere, and it asks neither for a level nor for none. -/
theorem Text.Numeral.digit_guard_misses_superscript :
    let d : Yaml.Document := ⟨#[⟨.sequence [1], 0, 3⟩, ⟨.scalar (some "a"), 1, 2⟩], 0⟩
    let env : Environment := ⟨[(logLevelVariable, "²")], none⟩
    Yaml.compose Limits.usual.document "[a]".toList = .ok (some d) ∧
      d.child? d.root "²" = .error (.malformed "²") ∧
      env.logLevel? = .error (.malformed "²") ∧
      ¬ (∃ found, d.child? d.root "²" = .ok found) ∧ ¬ ∃ level, env.logLevel? = .ok level := by
  intro d env
  have hchild : d.child? d.root "²" = .error (.malformed "²") := by decide +kernel
  have hlevel : env.logLevel? = .error (.malformed "²") := by decide +kernel
  refine ⟨by decide +kernel, hchild, hlevel, ?_, ?_⟩
  · rintro ⟨found, hfound⟩
    cases hchild.symm.trans hfound
  · rintro ⟨level, hfound⟩
    cases hlevel.symm.trans hfound

end LintReport
