/-
Characters and their bytes.

* `Utf8.Ends` — the bytes that a character which has begun goes on with;
* `Utf8.encodeChar_eq_cons` — the bytes of a character begin and end it;
* `Utf8.decodeLossy_encode`, `Utf8.decode_encode` — the bytes of a text are decoded to the text,
  with replacements or without.

Design notes: a decoder reads the bytes one at a time and knows about the character only what
`Utf8.Partial` keeps.  So the four lengths of a character are told apart once, in
`encodeChar_eq_cons`, with the bounds of each byte; what a decoder does with the bytes is an
induction on `Ends`.
-/
import LintReport.Text.Utf8
import Mathlib.Data.List.Basic

namespace LintReport.Text.Utf8

variable {c : Char} {p : Partial} {n position : Nat} {b : UInt8} {bytes rest : List UInt8}

/-- A step leads to a character, over further bytes. -/
inductive Ends (c : Char) : Step → List UInt8 → Prop
  | done : Ends c (.done c) []
  | more {p : Partial} {b : UInt8} {bytes : List UInt8} (h : Ends c (p.next b) bytes) :
      Ends c (.more p) (b :: bytes)

/-! ### The bytes of a character -/

/-- The only byte of a character. -/
theorem first_one (hn : n < 128) : first position (UInt8.ofNat n) = .done (Char.ofNat n) := by
  have hbyte := UInt8.toNat_ofNat_of_lt' (show n < 256 by omega)
  simp only [first, hbyte]
  rw [if_pos hn]

/-- The first of two bytes.  The two least leads are not used: one byte is enough there. -/
theorem first_two (hlow : 2 ≤ n) (hn : n < 32) :
    first position (UInt8.ofNat (n + 192))
      = .more ⟨UInt8.ofNat (n + 192), position, 1, 1, 0x80, 0xBF, n⟩ := by
  have hbyte := UInt8.toNat_ofNat_of_lt' (show n + 192 < 256 by omega)
  simp only [first, hbyte]
  rw [if_neg (by omega), if_neg (by omega), if_pos (by omega), Nat.add_sub_cancel]

/-- The first of three bytes. -/
theorem first_three (hn : n < 16) :
    first position (UInt8.ofNat (n + 224))
      = .more ⟨UInt8.ofNat (n + 224), position, 1, 2, if n = 0 then 0xA0 else 0x80,
          if n = 13 then 0x9F else 0xBF, n⟩ := by
  have hbyte := UInt8.toNat_ofNat_of_lt' (show n + 224 < 256 by omega)
  have hzero : n + 224 = 0xE0 ↔ n = 0 := by omega
  have hhalf : n + 224 = 0xED ↔ n = 13 := by omega
  simp only [first, hbyte, hzero, hhalf]
  rw [if_neg (by omega), if_neg (by omega), if_neg (by omega), if_pos (by omega),
    Nat.add_sub_cancel]

/-- The first of four bytes. -/
theorem first_four (hn : n < 5) :
    first position (UInt8.ofNat (n + 240))
      = .more ⟨UInt8.ofNat (n + 240), position, 1, 3, if n = 0 then 0x90 else 0x80,
          if n = 4 then 0x8F else 0xBF, n⟩ := by
  have hbyte := UInt8.toNat_ofNat_of_lt' (show n + 240 < 256 by omega)
  have hzero : n + 240 = 0xF0 ↔ n = 0 := by omega
  have hlast : n + 240 = 0xF4 ↔ n = 4 := by omega
  simp only [first, hbyte, hzero, hlast]
  rw [if_neg (by omega), if_neg (by omega), if_neg (by omega), if_neg (by omega),
    if_pos (by omega), Nat.add_sub_cancel]

/-- A byte of a character after the first one. -/
theorem next_ofNat (hn : n < 64) (hlow : p.low ≤ n + 128) (hhigh : n + 128 ≤ p.high) :
    p.next (UInt8.ofNat (n + 128))
      = if p.owed = 1 then .done (Char.ofNat (p.code * 64 + n))
        else .more { p with count := p.count + 1, owed := p.owed - 1, low := 0x80, high := 0xBF,
                            code := p.code * 64 + n } := by
  have hbyte := UInt8.toNat_ofNat_of_lt' (show n + 128 < 256 by omega)
  have hbounds : (decide (p.low ≤ n + 128) && decide (n + 128 ≤ p.high)) = true := by
    rw [decide_eq_true hlow, decide_eq_true hhigh, Bool.and_self]
  rw [Partial.next, hbyte, if_pos hbounds, Nat.add_sub_cancel]

/-- The last byte of a character ends it. -/
theorem ends_last (howed : p.owed = 1) (hn : n < 64) (hlow : p.low ≤ n + 128)
    (hhigh : n + 128 ≤ p.high) (hcode : p.code * 64 + n = c.toNat) :
    Ends c (.more p) [UInt8.ofNat (n + 128)] := by
  refine .more ?_
  rw [next_ofNat hn hlow hhigh, if_pos howed, hcode, Char.ofNat_toNat]
  exact .done

/-- A byte of a character that is not the last one goes on with it. -/
theorem ends_inner (howed : p.owed ≠ 1) (hn : n < 64) (hlow : p.low ≤ n + 128)
    (hhigh : n + 128 ≤ p.high)
    (h : Ends c (.more { p with count := p.count + 1, owed := p.owed - 1, low := 0x80,
                                high := 0xBF, code := p.code * 64 + n }) bytes) :
    Ends c (.more p) (UInt8.ofNat (n + 128) :: bytes) := by
  refine .more ?_
  rw [next_ofNat hn hlow hhigh, if_neg howed]
  exact h

/-- A character of one byte. -/
theorem encodeChar_of_ascii (h : c.toNat < 128) : String.utf8EncodeChar c = [c.toUInt8] :=
  if_pos (Nat.le_of_lt_succ h)

/-- **The bytes of a character begin it and end it.** -/
theorem encodeChar_eq_cons (c : Char) (position : Nat) :
    ∃ b bytes, String.utf8EncodeChar c = b :: bytes ∧ Ends c (first position b) bytes := by
  have hval : c.val.toNat = c.toNat := rfl
  have hvalid : c.toNat < 0xD800 ∨ 0xDFFF < c.toNat ∧ c.toNat < 0x110000 := c.valid
  rw [String.utf8EncodeChar, hval]
  split_ifs with hone htwo hthree
  · refine ⟨_, _, rfl, ?_⟩
    rw [first_one (by omega), Char.ofNat_toNat]
    exact .done
  · refine ⟨_, _, rfl, ?_⟩
    rw [first_two (by omega) (by omega)]
    refine ends_last rfl (by omega) ?_ ?_ ?_ <;> dsimp only <;> omega
  · -- after the leads of overlong forms and of surrogates the next byte is in a smaller range
    have hlow : (if c.toNat / 4096 % 16 = 0 then 0xA0 else 0x80) ≤ c.toNat / 64 % 64 + 128 := by
      split_ifs <;> omega
    have hhigh : c.toNat / 64 % 64 + 128 ≤ if c.toNat / 4096 % 16 = 13 then 0x9F else 0xBF := by
      split_ifs <;> omega
    refine ⟨_, _, rfl, ?_⟩
    rw [first_three (by omega)]
    refine ends_inner (show 2 ≠ 1 by decide) (by omega) hlow hhigh
      (ends_last rfl (by omega) ?_ ?_ ?_) <;> dsimp only <;> omega
  · have hlow : (if c.toNat / 262144 % 8 = 0 then 0x90 else 0x80) ≤ c.toNat / 4096 % 64 + 128 := by
      split_ifs <;> omega
    have hhigh : c.toNat / 4096 % 64 + 128 ≤ if c.toNat / 262144 % 8 = 4 then 0x8F else 0xBF := by
      split_ifs <;> omega
    refine ⟨_, _, rfl, ?_⟩
    rw [first_four (by omega)]
    refine ends_inner (show 3 ≠ 1 by decide) (by omega) hlow hhigh
      (ends_inner (show 2 ≠ 1 by decide) (by omega) ?_ ?_
        (ends_last rfl (by omega) ?_ ?_ ?_)) <;> dsimp only <;> omega

/-! ### Decoding -/

/-- A character that has begun is read to its end. -/
theorem decodeLossyFrom_of_ends (h : Ends c (.more p) bytes) :
    decodeLossyFrom (some p) (bytes ++ rest) = c :: decodeLossyFrom none rest := by
  -- what is left to read shrinks by a byte, which leads to the character or to another partial one
  generalize hstep : Step.more p = step at h
  induction h generalizing p with
  | done => cases hstep
  | @more _ b bytes h ih =>
    obtain rfl := Step.more.inj hstep
    rw [List.cons_append, decodeLossyFrom]
    cases hnext : p.next b with
    | done c' =>
      rw [hnext] at h
      cases h
      rfl
    | more p' => exact ih hnext.symm
    | refused reason =>
      rw [hnext] at h
      cases h

/-- The bytes of a character are decoded to it. -/
theorem decodeLossyFrom_encodeChar (c : Char) (rest : List UInt8) :
    decodeLossyFrom none (String.utf8EncodeChar c ++ rest) = c :: decodeLossyFrom none rest := by
  obtain ⟨b, bytes, hbytes, hends⟩ := encodeChar_eq_cons c 0
  rw [hbytes, List.cons_append, decodeLossyFrom]
  cases hfirst : first 0 b with
  | done c' =>
    rw [hfirst] at hends
    cases hends
    rfl
  | more p =>
    rw [hfirst] at hends
    exact decodeLossyFrom_of_ends hends
  | refused reason =>
    rw [hfirst] at hends
    cases hends

/-- **The bytes of a text are decoded to the text.** -/
theorem decodeLossy_encode (cs : List Char) : decodeLossy (encode cs) = cs := by
  induction cs with
  | nil => rfl
  | cons c cs ih =>
    rw [decodeLossy, encode, List.flatMap_cons, decodeLossyFrom_encodeChar]
    exact congrArg (c :: ·) ih

/-! ### Decoding without replacements -/

/-- A character that has begun is read to its end, wherever it stands. -/
theorem decodeFrom_of_ends (h : Ends c (.more p) bytes) :
    decodeFrom position (some p) (bytes ++ rest)
      = (c :: ·) <$> decodeFrom (position + bytes.length) none rest := by
  generalize hstep : Step.more p = step at h
  induction h generalizing p position with
  | done => cases hstep
  | @more _ b bytes h ih =>
    obtain rfl := Step.more.inj hstep
    rw [List.cons_append, decodeFrom, List.length_cons, Nat.add_comm bytes.length, ← Nat.add_assoc]
    cases hnext : p.next b with
    | done c' =>
      rw [hnext] at h
      cases h
      rfl
    | more p' => exact ih hnext.symm
    | refused reason =>
      rw [hnext] at h
      cases h

/-- The bytes of a character are decoded to it, wherever they stand. -/
theorem decodeFrom_encodeChar (c : Char) (position : Nat) (rest : List UInt8) :
    decodeFrom position none (String.utf8EncodeChar c ++ rest)
      = (c :: ·) <$> decodeFrom (position + (String.utf8EncodeChar c).length) none rest := by
  obtain ⟨b, bytes, hbytes, hends⟩ := encodeChar_eq_cons c position
  rw [hbytes, List.cons_append, decodeFrom, List.length_cons, Nat.add_comm bytes.length,
    ← Nat.add_assoc]
  cases hfirst : first position b with
  | done c' =>
    rw [hfirst] at hends
    cases hends
    rfl
  | more p =>
    rw [hfirst] at hends
    exact decodeFrom_of_ends hends
  | refused reason =>
    rw [hfirst] at hends
    cases hends

/-- **The bytes of a text are a text, and they are decoded to it.** -/
theorem decode_encode (cs : List Char) : decode (encode cs) = .ok cs := by
  -- from any position on, since each character moves the bytes after it
  have hfrom : ∀ position, decodeFrom position none (encode cs) = .ok cs := by
    induction cs with
    | nil => exact fun _ => rfl
    | cons c cs ih =>
      intro position
      rw [encode, List.flatMap_cons, decodeFrom_encodeChar]
      exact congrArg (Functor.map (c :: ·)) (ih _)
  exact hfrom 0

end LintReport.Text.Utf8
