/-
What a numeral is read from, and that it can be written.

* `Text.decimalValue?_le` — a decimal digit of any script is at most nine;
* `Text.Numeral.readUnsigned_eq_ok` — a numeral is a run of digits, and white space after it;
* `Text.Numeral.Denotes` — decimal digits that stand for a number;
* `Text.Numeral.read_eq_ok_iff_denotes` — digits in the wide sense are read if they are such
  digits, and few enough;
* `Text.Numeral.ofDigits_lt` — so many digits stand for a number below that power of ten;
* `Text.Numeral.isWritable_of_read` — a number that a text stands for has few enough digits;
* `Text.Numeral.isWritable_of_le` — a number is written if a greater one is;
* `Text.Numeral.isDigit_or_minus_of_mem_toString` — the characters of a written integer.
-/
import Mathlib.Algebra.Group.Nat.Defs
import Mathlib.Data.List.TakeWhile
import Mathlib.Data.Option.Basic
import LintReport.Proofs.Outcome
import LintReport.Text.Numeral

namespace LintReport.Text

/-- A decimal digit of any script is at most nine. -/
theorem decimalValue?_le {c : Char} {d : Nat} (h : decimalValue? c = some d) : d ≤ 9 := by
  unfold decimalValue? at h
  by_cases hascii : c.toNat < 128
  · rw [if_pos hascii] at h
    by_cases hdigit : c.isDigit = true
    · rw [if_pos hdigit, Option.some.injEq] at h
      simp only [Char.isDigit, ge_iff_le, Bool.and_eq_true, decide_eq_true_eq,
        UInt32.le_iff_toNat_le] at hdigit
      have hle : c.toNat ≤ 57 := hdigit.2
      omega
    · rw [if_neg hdigit] at h
      cases h
  · rw [if_neg hascii] at h
    obtain ⟨z, hz, rfl⟩ := Option.map_eq_some_iff.mp h
    have hrange := Array.find?_some hz
    rw [Bool.and_eq_true, decide_eq_true_eq, decide_eq_true_eq] at hrange
    omega

/-- White space is no digit, not even in the wide sense. -/
theorem isDigit_of_isBlank {c : Char} (h : isBlank c = true) : isDigit c = false := by
  -- the white-space characters are few enough to be looked at one by one
  have htable : ∀ r ∈ blankRanges.toList, ∀ n ∈ List.range' r.1 (r.2 + 1 - r.1),
      isDigit (Char.ofNat n) = false := by decide +kernel
  rw [isBlank, inRanges, ← Array.any_toList, List.any_eq_true] at h
  obtain ⟨r, hr, hrange⟩ := h
  rw [Bool.and_eq_true, decide_eq_true_eq, decide_eq_true_eq] at hrange
  have hcode := htable r hr c.toNat (List.mem_range'_1.mpr ⟨hrange.1, by omega⟩)
  rwa [Char.ofNat_toNat] at hcode

namespace Numeral

/-- The digits of a run are at most nine. -/
theorem le_of_mem_digits? {cs : List Char} {ds : List Nat} (h : digits? cs = some ds) :
    ∀ d ∈ ds, d ≤ 9 := by
  have hcons : ∀ {c : Char} {n : Nat} {rest ds' : List Nat}, decimalValue? c = some n →
      (∀ d ∈ rest, d ≤ 9) → n :: rest = ds' → ∀ d ∈ ds', d ≤ 9 := by
    rintro c n rest _ hc hrest rfl d hd
    rcases List.mem_cons.mp hd with rfl | hd
    · exact decimalValue?_le hc
    · exact hrest d hd
  induction cs using digits?.induct generalizing ds with
  | case1 =>
    cases h
    simp
  | case2 c =>
    obtain ⟨n, hn, h⟩ := Option.map_eq_some_iff.mp h
    exact hcons hn (by simp) h
  | case3 c d rest n hn ih =>
    rw [digits?, hn] at h
    obtain ⟨more, hmore, h⟩ := Option.map_eq_some_iff.mp h
    exact hcons hn (ih hmore) h
  | case4 c d rest hn =>
    rw [digits?, hn] at h
    cases h
  | case5 c rest hone hunderscore n hn ih =>
    rw [digits?.eq_4 c rest hone hunderscore, hn] at h
    obtain ⟨more, hmore, h⟩ := Option.map_eq_some_iff.mp h
    exact hcons hn (ih hmore) h
  | case6 c rest hone hunderscore hn =>
    rw [digits?.eq_4 c rest hone hunderscore, hn] at h
    cases h

/-- So many digits stand for a number below that power of ten. -/
theorem ofDigits_lt {ds : List Nat} (h : ∀ d ∈ ds, d ≤ 9) : ofDigits ds < 10 ^ ds.length := by
  -- the fold starts from the number read so far, so its bound is general as well
  have hfold : ∀ (ds : List Nat) (n k : Nat), (∀ d ∈ ds, d ≤ 9) → n < 10 ^ k →
      ds.foldl (fun n d => n * 10 + d) n < 10 ^ (k + ds.length) := by
    intro ds
    induction ds with
    | nil => exact fun n k _ hn => hn
    | cons d ds ih =>
      intro n k hds hn
      rw [List.forall_mem_cons] at hds
      have hnext : n * 10 + d < 10 ^ (k + 1) := by
        rw [Nat.pow_succ]
        have hd := hds.1
        omega
      have hrest := ih (n * 10 + d) (k + 1) hds.2 hnext
      rwa [Nat.add_assoc, Nat.add_comm 1, ← List.length_cons (a := d)] at hrest
  have hall := hfold ds 0 0 h (by decide)
  rwa [Nat.zero_add] at hall

/-- What an unsigned numeral is read from: a run of digits, and white space after it. -/
theorem readUnsigned_eq_ok {whole : String} {cs : List Char} {n : Nat}
    (h : readUnsigned whole cs = .ok n) :
    let run := cs.takeWhile fun c => (runValue? c).isSome
    ∃ ds, digits? run = some ds ∧ ds ≠ [] ∧ ds.length ≤ maxDigits ∧ ofDigits ds = n ∧
      ∀ c ∈ cs.drop run.length, isSpace c = true := by
  intro run
  unfold readUnsigned at h
  cases hds : digits? run with
  | none =>
    simp only [run, hds] at h
    cases h
  | some ds =>
    simp only [run, hds] at h
    by_cases hlong : maxDigits < ds.length
    · rw [if_pos hlong] at h
      cases h
    · rw [if_neg hlong] at h
      split at h
      · cases h
      · rename_i hrest
        rw [Bool.or_eq_true, not_or, List.any_eq_true, List.isEmpty_iff] at hrest
        refine ⟨ds, rfl, hrest.1, by omega, Except.ok.inj h, fun c hc => ?_⟩
        by_contra hspace
        exact hrest.2 ⟨c, hc, by simpa using hspace⟩

theorem lt_of_readUnsigned {whole : String} {cs : List Char} {n : Nat}
    (h : readUnsigned whole cs = .ok n) : n < 10 ^ maxDigits := by
  obtain ⟨ds, hds, -, hlength, rfl, -⟩ := readUnsigned_eq_ok h
  exact Nat.lt_of_lt_of_le (ofDigits_lt (le_of_mem_digits? hds))
    (Nat.pow_le_pow_right (by decide) hlength)

theorem isWritable_iff {n : Int} : isWritable n = true ↔ n.natAbs < 10 ^ maxDigits := by
  have hpow : ∀ digits, Nat.pow 10 digits = 10 ^ digits := fun _ => rfl
  rw [isWritable, decide_eq_true_eq, hpow]

/-- **A number that a text stands for can be written.** -/
theorem isWritable_of_read {s : String} {n : Int} (h : read s = .ok n) : isWritable n = true := by
  have hsigned : ∀ (sign : Int → Int) (cs : List Char), (∀ k, (sign k).natAbs = k.natAbs) →
      (sign <$> do let k ← readUnsigned s cs; pure (k : Int)) = .ok n → isWritable n = true := by
    intro sign cs hsign h
    obtain ⟨k, hk, rfl⟩ := Outcome.map_eq_ok.mp h
    obtain ⟨k, hread, hk⟩ := Outcome.bind_eq_ok.mp hk
    cases hk
    rw [isWritable_iff, hsign, Int.natAbs_natCast]
    exact lt_of_readUnsigned hread
  unfold read at h
  split at h
  · exact hsigned (fun k => -k) _ Int.natAbs_neg h
  · exact hsigned (fun k => k) _ (fun _ => rfl) h
  · exact hsigned (fun k => k) _ (fun _ => rfl) h

theorem isWritable_zero : isWritable 0 = true := by
  rw [isWritable_iff, Int.natAbs_zero]
  exact Nat.pow_pos (by decide)

/-- A number is written if a greater one is. -/
theorem isWritable_of_le {m n : Nat} (hle : m ≤ n) (h : isWritable n = true) :
    isWritable m = true := by
  rw [isWritable_iff, Int.natAbs_natCast] at h ⊢
  exact Nat.lt_of_le_of_lt hle h

/-! ### Numerals of digits alone -/

/-- Decimal digits of any script, at least one, that stand for a number. -/
def Denotes (text : String) (n : Nat) : Prop :=
  ∃ ds : List Nat, ds ≠ [] ∧ text.toList.map decimalValue? = ds.map some ∧ ofDigits ds = n

theorem Denotes.unique {text : String} {m n : Nat} (hm : Denotes text m) (hn : Denotes text n) :
    m = n := by
  obtain ⟨ds, -, hds, rfl⟩ := hm
  obtain ⟨ds', -, hds', rfl⟩ := hn
  have hsame : ds = ds' :=
    List.map_injective_iff.mpr (Option.some_injective _) (hds.symm.trans hds')
  rw [hsame]

theorem Denotes.isDigit {text : String} {n : Nat} (h : Denotes text n) :
    text ≠ "" ∧ ∀ c ∈ text.toList, Text.isDigit c = true := by
  obtain ⟨ds, hne, hds, -⟩ := h
  constructor
  · rintro rfl
    exact hne (List.map_eq_nil_iff.mp hds.symm)
  · intro c hc
    have hvalue : decimalValue? c ∈ ds.map some := hds ▸ List.mem_map_of_mem hc
    obtain ⟨d, -, hd⟩ := List.mem_map.mp hvalue
    exact isDigit_of_decimalValue? hd.symm

/-- A segment of a pointer is tested for digits. -/
theorem all_isDigit_iff {text : String} : (text.toList.all Text.isDigit && !text.isEmpty) = true ↔
    text ≠ "" ∧ ∀ c ∈ text.toList, Text.isDigit c = true := by
  rw [Bool.and_eq_true, List.all_eq_true, Bool.not_eq_true', String.isEmpty_eq_false_iff, and_comm]

/-- A word that asks for a level is tested for digits. -/
theorem ne_empty_and_all_isDigit_iff {text : String} :
    (text != "" && text.toList.all Text.isDigit) = true ↔
      text ≠ "" ∧ ∀ c ∈ text.toList, Text.isDigit c = true := by
  rw [Bool.and_eq_true, bne_iff_ne, List.all_eq_true]

/-- A run of digits without underscores. -/
theorem digits?_eq_some_iff {cs : List Char} {ds : List Nat} (hplain : '_' ∉ cs) :
    digits? cs = some ds ↔ cs.map decimalValue? = ds.map some := by
  induction cs using digits?.induct generalizing ds with
  | case1 =>
    rw [digits?, Option.some.injEq, List.map_nil, eq_comm, @eq_comm _ [], List.map_eq_nil_iff]
  | case2 c =>
    rw [digits?, Option.map_eq_some_iff, List.map_singleton]
    constructor
    · rintro ⟨n, hn, rfl⟩
      rw [hn, List.map_singleton]
    · intro h
      obtain ⟨n, rfl, hn⟩ := List.map_eq_singleton_iff.mp h.symm
      exact ⟨n, hn.symm, rfl⟩
  | case3 c d rest n hn ih => exact absurd (List.mem_cons_of_mem c List.mem_cons_self) hplain
  | case4 c d rest hn => exact absurd (List.mem_cons_of_mem c List.mem_cons_self) hplain
  | case5 c rest hone hunderscore n hn ih =>
    have hrest : '_' ∉ rest := fun hmem => hplain (List.mem_cons_of_mem c hmem)
    rw [digits?.eq_4 c rest hone hunderscore, hn]
    constructor
    · intro h
      obtain ⟨ds, hds, rfl⟩ := Option.map_eq_some_iff.mp h
      rw [List.map_cons, hn, (ih hrest).mp hds, List.map_cons]
    · intro h
      obtain ⟨m, ds, rfl, hm, hds⟩ := List.map_eq_cons_iff.mp h.symm
      obtain rfl := Option.some.inj (hm.trans hn)
      exact Option.map_eq_some_iff.mpr ⟨ds, (ih hrest).mpr hds.symm, rfl⟩
  | case6 c rest hone hunderscore hn =>
    rw [digits?.eq_4 c rest hone hunderscore, hn]
    refine iff_of_false (by simp) fun h => ?_
    obtain ⟨m, ds, rfl, hm, -⟩ := List.map_eq_cons_iff.mp h.symm
    cases hm.trans hn

theorem isDigit_of_isSpace {c : Char} (h : isSpace c = true) : isDigit c = false := by
  rw [isSpace, Bool.and_eq_true] at h
  exact isDigit_of_isBlank h.1

/-- A text of digits has neither white space nor a sign in front. -/
theorem read_eq_readUnsigned {text : String} (hdigits : ∀ c ∈ text.toList, isDigit c = true) :
    read text = (fun n : Nat => (n : Int)) <$> readUnsigned text text.toList := by
  have hspace : text.toList.dropWhile isSpace = text.toList := by
    cases hcs : text.toList with
    | nil => rfl
    | cons c cs =>
      refine List.dropWhile_cons_of_neg fun hc => ?_
      have hdigit := hdigits c (hcs ▸ List.mem_cons_self)
      cases (isDigit_of_isSpace hc).symm.trans hdigit
  have hsign : ∀ c rest, text.toList = c :: rest → isDigit c = true := by
    intro c rest hcs
    exact hdigits c (hcs ▸ List.mem_cons_self)
  unfold read
  rw [hspace]
  split
  · rename_i hcs
    exact absurd (hsign _ _ hcs) (by decide +kernel)
  · rename_i hcs
    exact absurd (hsign _ _ hcs) (by decide +kernel)
  · cases readUnsigned text text.toList with
    | ok n => rfl
    | error e => rfl

/-- An unsigned numeral of digits alone is a run of decimal digits that is short enough. -/
theorem readUnsigned_eq_ok_iff {whole : String} {cs : List Char} {n : Nat}
    (hdigits : ∀ c ∈ cs, isDigit c = true) :
    readUnsigned whole cs = .ok n ↔ ∃ ds : List Nat, ds ≠ [] ∧
      cs.map decimalValue? = ds.map some ∧ ds.length ≤ maxDigits ∧ ofDigits ds = n := by
  have hplain : '_' ∉ cs := fun hmem => absurd (hdigits _ hmem) (by decide +kernel)
  constructor
  · intro h
    obtain ⟨ds, hds, hne, hlength, hvalue, hrest⟩ := readUnsigned_eq_ok h
    -- nothing follows the run, since only white space could
    have hrun : (cs.takeWhile fun c => (runValue? c).isSome) = cs := by
      refine (List.takeWhile_prefix _).eq_of_length_le ?_
      rw [← List.drop_eq_nil_iff, List.eq_nil_iff_forall_not_mem]
      intro c hc
      cases (isDigit_of_isSpace (hrest c hc)).symm.trans (hdigits c (List.mem_of_mem_drop hc))
    rw [hrun] at hds
    exact ⟨ds, hne, (digits?_eq_some_iff hplain).mp hds, hlength, hvalue⟩
  · rintro ⟨ds, hne, hds, hlength, rfl⟩
    have hrun : (cs.takeWhile fun c => (runValue? c).isSome) = cs := by
      rw [List.takeWhile_eq_self_iff]
      intro c hc
      have hvalue : decimalValue? c ∈ ds.map some := hds ▸ List.mem_map_of_mem hc
      obtain ⟨d, -, hd⟩ := List.mem_map.mp hvalue
      have hunderscore : c ≠ '_' := fun heq => hplain (heq ▸ hc)
      rw [runValue?, if_neg hunderscore, ← hd]
      rfl
    rw [readUnsigned, hrun, (digits?_eq_some_iff hplain).mpr hds, List.drop_length]
    simp [hne, Nat.not_lt.mpr hlength]

/-- **Digits in the wide sense are read as a numeral** exactly if they are decimal digits, and not
too many of them. -/
theorem read_eq_ok_iff_denotes {text : String} {n : Int}
    (hdigits : ∀ c ∈ text.toList, isDigit c = true) :
    read text = .ok n ↔ ∃ k : Nat, n = k ∧ Denotes text k ∧ text.length ≤ maxDigits := by
  have hcount : ∀ {ds : List Nat}, text.toList.map decimalValue? = ds.map some →
      ds.length = text.length := by
    intro ds hds
    have hlength := congrArg List.length hds
    rw [List.length_map, List.length_map, String.length_toList] at hlength
    exact hlength.symm
  rw [read_eq_readUnsigned hdigits, Outcome.map_eq_ok]
  constructor
  · rintro ⟨k, hk, rfl⟩
    obtain ⟨ds, hne, hds, hlength, hvalue⟩ := (readUnsigned_eq_ok_iff hdigits).mp hk
    exact ⟨k, rfl, ⟨ds, hne, hds, hvalue⟩, hcount hds ▸ hlength⟩
  · rintro ⟨k, rfl, ⟨ds, hne, hds, hvalue⟩, hlength⟩
    exact ⟨k, (readUnsigned_eq_ok_iff hdigits).mpr ⟨ds, hne, hds,
      hcount hds ▸ hlength, hvalue⟩, rfl⟩

/-- Digits in the wide sense that are read as a numeral are decimal digits that stand for it. -/
theorem denotes_of_read {text : String} {n : Int} (hdigits : ∀ c ∈ text.toList, isDigit c = true)
    (h : read text = .ok n) : ∃ k : Nat, n = k ∧ Denotes text k := by
  obtain ⟨k, hk, hdenotes, -⟩ := (read_eq_ok_iff_denotes hdigits).mp h
  exact ⟨k, hk, hdenotes⟩

/-! ### The characters of a written number -/

theorem isDigit_of_mem_repr {n : Nat} {c : Char} (h : c ∈ n.repr.toList) : c.isDigit = true := by
  rw [Nat.toList_repr] at h
  exact Nat.isDigit_of_mem_toDigits (by omega) (by omega) h

/-- An integer is written with digits, and perhaps a minus sign. -/
theorem isDigit_or_minus_of_mem_toString {n : Int} {c : Char} (h : c ∈ (toString n).toList) :
    c.isDigit = true ∨ c = '-' := by
  cases n with
  | ofNat n => exact .inl (isDigit_of_mem_repr h)
  | negSucc n =>
    have hsign : (toString (Int.negSucc n)).toList = '-' :: (n + 1).repr.toList := by
      show ("-" ++ (n + 1).repr).toList = _
      rw [String.toList_append]
      rfl
    rw [hsign, List.mem_cons] at h
    exact h.symm.imp_left isDigit_of_mem_repr

end Numeral

end LintReport.Text
