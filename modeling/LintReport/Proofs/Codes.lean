/-
Texts without color codes.

* `Terminal.IsCode` — a color code: an escape character, a bracket, parameters and a letter;
* `Terminal.eraseCodes` — a text without its color codes, in one pass from the left;
* `Terminal.eraseCodes_append_separator` — a separator between two texts keeps what one of them
  ends with from making a code with what the other one begins with;
* `Terminal.eraseCodes_apply` — a styled text is the text itself once codes are erased.

Design notes: erasing is a pass that takes words out (`Erased`), and what holds of any such pass is
taken from there.  Text that stands next to a styled one may end inside of a code, or begin with the
rest of one.  So erasing goes through an append only where the second text begins with a
character that no code goes on with (`withoutCodes_append`), and every other lemma on texts side
by side rests on this one.
-/
import Mathlib.Data.List.Basic
import LintReport.Proofs.Erasing
import LintReport.Terminal.Style

namespace LintReport.Terminal

/-- Characters that may stand between the bracket and the letter of a color code. -/
def isCodeParameter (c : Char) : Bool := c = ';' || c = '?' || c.isDigit

/-- A color code. -/
def IsCode (cs : List Char) : Prop :=
  ∃ ps c, cs = '\x1b' :: '[' :: (ps ++ [c]) ∧ (∀ p ∈ ps, isCodeParameter p = true)
    ∧ c.isAlpha = true

/-- The length of the color code at the beginning of a text. -/
def codeLength? : List Char → Option Nat
  | '\x1b' :: '[' :: rest =>
    match rest.dropWhile isCodeParameter with
    | c :: _ => if c.isAlpha then some ((rest.takeWhile isCodeParameter).length + 3) else none
    | [] => none
  | _ => none

/-- The characters outside of color codes, after `skip` more of the present one. -/
def withoutCodesAfter (skip : Nat) : List Char → List Char
  | [] => []
  | c :: rest =>
    match skip with
    | k + 1 => withoutCodesAfter k rest
    | 0 =>
      match codeLength? (c :: rest) with
      | some n => withoutCodesAfter (n - 1) rest
      | none => c :: withoutCodesAfter 0 rest

/-- The characters outside of color codes. -/
def withoutCodes (cs : List Char) : List Char := withoutCodesAfter 0 cs

/-- The text without its color codes. -/
def eraseCodes (s : String) : String := String.ofList (withoutCodes s.toList)

/-! ### Codes -/

theorem isAlpha_iff {c : Char} :
    c.isAlpha = true ↔ 65 ≤ c.toNat ∧ c.toNat ≤ 90 ∨ 97 ≤ c.toNat ∧ c.toNat ≤ 122 := by
  have hletters : c.isAlpha
      = (decide (65 ≤ c.val ∧ c.val ≤ 90) || decide (97 ≤ c.val) && decide (c.val ≤ 122)) := rfl
  rw [hletters, Bool.or_eq_true, Bool.and_eq_true, decide_eq_true_eq, decide_eq_true_eq,
    decide_eq_true_eq]
  exact Iff.rfl

theorem toNat_of_isCodeParameter {c : Char} (h : isCodeParameter c = true) :
    48 ≤ c.toNat ∧ c.toNat ≤ 63 := by
  rw [isCodeParameter, Bool.or_eq_true, Bool.or_eq_true, decide_eq_true_eq, decide_eq_true_eq] at h
  rcases h with (rfl | rfl) | h
  · decide
  · decide
  · obtain ⟨hlow, hhigh⟩ := Char.isDigit_iff_toNat.mp h
    exact ⟨hlow, hhigh.trans (by decide)⟩

theorem isAlpha_of_isCodeParameter {c : Char} (h : isCodeParameter c = true) :
    c.isAlpha = false := by
  rw [Bool.eq_false_iff]
  intro halpha
  have hparameter := toNat_of_isCodeParameter h
  have hletter := isAlpha_iff.mp halpha
  omega
/-- The length is that of a code at the beginning. -/
theorem codeLength?_append {code : List Char} (h : IsCode code) (rest : List Char) :
    codeLength? (code ++ rest) = some code.length := by
  obtain ⟨ps, c, rfl, hps, hc⟩ := h
  have hstop : ¬ isCodeParameter c = true := by
    intro hp
    rw [isAlpha_of_isCodeParameter hp] at hc
    cases hc
  have hcs : '\x1b' :: '[' :: (ps ++ [c]) ++ rest = '\x1b' :: '[' :: (ps ++ c :: rest) := by simp
  rw [hcs, codeLength?, List.dropWhile_append_of_pos hps, List.takeWhile_append_of_pos hps,
    List.dropWhile_cons_of_neg hstop, List.takeWhile_cons_of_neg hstop]
  simp [hc]

/-- A length is only given for a code. -/
theorem exists_code_of_codeLength? {cs : List Char} {n : Nat} (h : codeLength? cs = some n) :
    ∃ code rest, cs = code ++ rest ∧ IsCode code ∧ code.length = n := by
  unfold codeLength? at h
  split at h
  case h_1 rest =>
    have hparts := List.takeWhile_append_dropWhile (p := isCodeParameter) (l := rest)
    have hps : ∀ p ∈ rest.takeWhile isCodeParameter, isCodeParameter p = true :=
      List.all_eq_true.mp List.all_takeWhile
    split at h
    case h_1 c after hdrop =>
      by_cases hc : c.isAlpha = true
      · rw [if_pos hc, Option.some.injEq] at h
        refine ⟨'\x1b' :: '[' :: (rest.takeWhile isCodeParameter ++ [c]), after, ?_,
          ⟨_, c, rfl, hps, hc⟩, ?_⟩
        · rw [hdrop] at hparts
          simp [hparts]
        · simpa using h
      · rw [if_neg hc] at h
        cases h
    case h_2 => cases h
  case h_2 => cases h

/-- Characters that a code may go on with. -/
def continues (c : Char) : Bool := c = '[' || isCodeParameter c || c.isAlpha

theorem IsCode.continues_of_mem_tail {code : List Char} (h : IsCode code) :
    ∀ c ∈ code.tail, continues c = true := by
  obtain ⟨ps, last, rfl, hps, hlast⟩ := h
  intro c hc
  rw [List.tail_cons, List.mem_cons, List.mem_append, List.mem_singleton] at hc
  rcases hc with rfl | hc | rfl
  · rfl
  · simp [continues, hps c hc]
  · simp [continues, hlast]

/-- The length of a code finds the codes. -/
theorem finds_codes : Finds IsCode codeLength? where
  escape h := by
    have hgo := h.continues_of_mem_tail
    obtain ⟨ps, c, rfl, -⟩ := h
    exact ⟨_, rfl, fun hesc => absurd (hgo _ hesc) (by decide)⟩
  complete := codeLength?_append
  sound := exists_code_of_codeLength?

/-! ### Erasing -/

@[simp] theorem withoutCodes_nil : withoutCodes [] = [] := rfl

theorem erased_withoutCodes (cs : List Char) : Erased IsCode cs (withoutCodes cs) := by
  refine finds_codes.erased_of_skip (fun _ => rfl) (fun _ _ _ => rfl) ?_ ?_ cs
  · intro c rest n h
    rw [withoutCodesAfter, h]
  · intro c rest h
    rw [withoutCodesAfter, h]

theorem withoutCodes_eq {cs kept : List Char} (h : Erased IsCode cs kept) :
    withoutCodes cs = kept :=
  (erased_withoutCodes cs).unique finds_codes h

/-- Where no code begins, a character stays. -/
theorem withoutCodes_cons_of_ne {c : Char} (h : c ≠ '\x1b') (cs : List Char) :
    withoutCodes (c :: cs) = c :: withoutCodes cs :=
  withoutCodes_eq (.char (finds_codes.not_isPrefix_of_ne h cs) (erased_withoutCodes cs))

/-- Erasing goes through an append where no code can go on with the second text. -/
theorem withoutCodes_append {ys : List Char} (h : ∀ c ∈ ys.head?, continues c = false)
    (xs : List Char) : withoutCodes (xs ++ ys) = withoutCodes xs ++ withoutCodes ys := by
  refine withoutCodes_eq ((erased_withoutCodes xs).append (erased_withoutCodes ys) ?_)
  intro code hcode c hc htail
  have hgo := hcode.continues_of_mem_tail c htail
  rw [h c hc] at hgo
  cases hgo

/-! ### Texts side by side -/

@[simp] theorem eraseCodes_empty : eraseCodes "" = "" := rfl

theorem toList_eraseCodes (s : String) : (eraseCodes s).toList = withoutCodes s.toList :=
  String.toList_ofList

theorem eraseCodes_of_not_mem {s : String} (h : '\x1b' ∉ s.toList) : eraseCodes s = s := by
  rw [eraseCodes, withoutCodes_eq (.of_not_mem finds_codes h), String.ofList_toList]

/-- Characters that stand in no code. -/
def isNeutral (c : Char) : Bool := !continues c && c != '\x1b'

theorem withoutCodes_append_neutral {c : Char} (h : isNeutral c = true) (xs ys : List Char) :
    withoutCodes (xs ++ c :: ys) = withoutCodes xs ++ c :: withoutCodes ys := by
  rw [isNeutral, Bool.and_eq_true, Bool.not_eq_true', bne_iff_ne] at h
  rw [withoutCodes_append (by simpa using h.1), withoutCodes_cons_of_ne h.2 ys]

/-- Texts that do not end inside of a code, whatever follows. -/
def Closed (s : String) : Prop := ∀ t, eraseCodes (s ++ t) = eraseCodes s ++ eraseCodes t

theorem closed_empty : Closed "" := by
  intro t
  rw [String.empty_append, eraseCodes_empty, String.empty_append]

theorem Closed.append {x y : String} (hx : Closed x) (hy : Closed y) : Closed (x ++ y) := by
  intro t
  rw [String.append_assoc, hx, hy, hx, String.append_assoc]

/-- No code goes on after a neutral character. -/
theorem closed_of_getLast? {s : String} {c : Char} (hlast : s.toList.getLast? = some c)
    (hc : isNeutral c = true) : Closed s := by
  obtain ⟨front, hfront⟩ := List.getLast?_eq_some_iff.mp hlast
  intro t
  apply String.toList_injective
  rw [toList_eraseCodes, String.toList_append, String.toList_append, toList_eraseCodes,
    toList_eraseCodes, hfront, List.append_assoc, List.singleton_append,
    withoutCodes_append_neutral hc, withoutCodes_append_neutral hc, withoutCodes_nil,
    List.append_assoc, List.singleton_append]

/-- Texts that begin and end with neutral characters, and in which no code begins. -/
def separates (s : String) : Bool :=
  s.toList.head?.any isNeutral && s.toList.getLast?.any isNeutral && !s.toList.contains '\x1b'

/-- Erasing goes through an append with a separator in between. -/
theorem eraseCodes_append_separator {s : String} (h : separates s = true) (x y : String) :
    eraseCodes (x ++ s ++ y) = eraseCodes x ++ s ++ eraseCodes y := by
  rw [separates, Bool.and_eq_true, Bool.and_eq_true, Option.any_eq_true, Option.any_eq_true] at h
  obtain ⟨⟨⟨c, hhead, hc⟩, ⟨d, hlast, hd⟩⟩, hesc⟩ := h
  have hplain : eraseCodes s = s := eraseCodes_of_not_mem (by simpa using hesc)
  have hfront : eraseCodes (x ++ (s ++ y)) = eraseCodes x ++ eraseCodes (s ++ y) := by
    obtain ⟨rest, hrest⟩ := List.head?_eq_some_iff.mp hhead
    apply String.toList_injective
    rw [toList_eraseCodes, String.toList_append, String.toList_append, String.toList_append,
      toList_eraseCodes, toList_eraseCodes, String.toList_append, hrest, List.cons_append,
      withoutCodes_append_neutral hc]
    have hstart := withoutCodes_append_neutral hc [] (rest ++ y.toList)
    rw [List.nil_append, withoutCodes_nil, List.nil_append] at hstart
    rw [hstart]
  rw [String.append_assoc, hfront, closed_of_getLast? hlast hd, hplain, String.append_assoc]

theorem eraseCodes_append_end {s : String} (h : separates s = true) (x : String) :
    eraseCodes (x ++ s) = eraseCodes x ++ s := by
  have happ := eraseCodes_append_separator h x ""
  rwa [eraseCodes_empty, String.append_empty, String.append_empty] at happ

theorem closed_append_separator {s : String} (h : separates s = true) (x : String) :
    Closed (x ++ s) := by
  intro t
  rw [eraseCodes_append_separator h, eraseCodes_append_end h]

/-- Erasing goes through texts with a separator between them. -/
theorem eraseCodes_intercalate {s : String} (h : separates s = true) (ts : List String) :
    eraseCodes (s.intercalate ts) = s.intercalate (ts.map eraseCodes) := by
  induction ts with
  | nil => rfl
  | cons t ts ih =>
    cases ts with
    | nil => rw [String.intercalate_singleton]; exact String.intercalate_singleton.symm
    | cons u us =>
      rw [String.intercalate_cons_cons, eraseCodes_append_separator h, ih, List.map_cons,
        List.map_cons, List.map_cons, String.intercalate_cons_cons]

/-! ### Styles -/

/-- Whether a text consists of characters that stand inside of a code. -/
def isParameters (code : String) : Bool := code.toList.all isCodeParameter

theorem isParameters_append {s t : String} (hs : isParameters s = true)
    (ht : isParameters t = true) : isParameters (s ++ t) = true := by
  rw [isParameters, String.toList_append, List.all_append, Bool.and_eq_true]
  exact ⟨hs, ht⟩

theorem isParameters_toString (n : Nat) : isParameters (toString n) = true := by
  refine List.all_eq_true.mpr fun c hc => ?_
  have hdigit : c.isDigit = true := by
    rw [Nat.toString_eq_repr, Nat.toList_repr] at hc
    exact Nat.isDigit_of_mem_toDigits (by omega) (by omega) hc
  simp [isCodeParameter, hdigit]

theorem isCode_sequence {code : String} (h : isParameters code = true) :
    IsCode (sequence code).toList :=
  have hlist : ("\x1b[" ++ code ++ "m").toList = '\x1b' :: '[' :: (code.toList ++ ['m']) := by
    simp
  ⟨code.toList, 'm', hlist, List.all_eq_true.mp h, rfl⟩

theorem isParameters_code (offset : Nat) (color : Color) :
    isParameters (color.code offset) = true := by
  have hbyte : ∀ b : UInt8, isParameters (toString b) = true := fun b =>
    isParameters_toString b.toNat
  have hseparated : ∀ {s t : String}, isParameters s = true → isParameters t = true →
      isParameters (s ++ ";" ++ t) = true := fun hs ht =>
    isParameters_append (isParameters_append hs (by decide)) ht
  cases color with
  | plain h => exact isParameters_toString _
  | bright h => exact isParameters_toString _
  | standard => exact isParameters_toString _
  | indexed n => exact isParameters_append (isParameters_append (isParameters_toString _)
      (by decide)) (hbyte n)
  | mixed r g b =>
    have hred := isParameters_append (isParameters_append (isParameters_toString (38 + offset))
      (by decide : isParameters ";2;" = true)) (hbyte r)
    exact hseparated (hseparated hred (hbyte g)) (hbyte b)

theorem isParameters_switch {state : Option Bool} {on off : String} (hon : isParameters on = true)
    (hoff : isParameters off = true) : ∀ code ∈ switch state on off, isParameters code = true := by
  intro code hcode
  rcases state with _ | _ | _
  · cases hcode
  · rw [switch, List.mem_singleton] at hcode
    exact hcode ▸ hoff
  · rw [switch, List.mem_singleton] at hcode
    exact hcode ▸ hon

/-- The codes of a style consist of parameters. -/
theorem Style.isParameters_codes (s : Style) : ∀ code ∈ s.codes, isParameters code = true := by
  have hcolor : ∀ (offset : Nat) (color : Option Color),
      ∀ code ∈ (color.map (Color.code offset)).toList, isParameters code = true := by
    intro offset color code hcode
    obtain ⟨color, -, rfl⟩ := Option.map_eq_some_iff.mp (Option.mem_toList.mp hcode)
    exact isParameters_code offset color
  simp only [codes, List.forall_mem_append]
  refine ⟨⟨⟨⟨⟨⟨⟨⟨⟨hcolor 0 _, hcolor 10 _⟩, ?_⟩, ?_⟩, ?_⟩, ?_⟩, ?_⟩, ?_⟩, ?_⟩, ?_⟩
  all_goals exact isParameters_switch (by decide) (by decide)

/-- The codes around a styled text are taken out, by any pass that takes out such codes. -/
theorem Erased.apply {IsWord : List Char → Prop} {length? : List Char → Option Nat}
    (find : Finds IsWord length?)
    (hword : ∀ code, isParameters code = true → IsWord (sequence code).toList) (s : Style)
    {t : String} {kept : List Char} (h : Erased IsWord t.toList kept) :
    Erased IsWord (s.apply t).toList kept := by
  have hback : Erased IsWord (t ++ if s.reset then sequence "0" else "").toList kept := by
    by_cases hreset : s.reset = true
    · have hnone : Erased IsWord (sequence "0").toList [] := by
        rw [← List.append_nil (sequence "0").toList]
        exact .word (hword "0" (by decide)) .nil
      rw [if_pos hreset, String.toList_append, ← List.append_nil kept]
      exact h.append_escape find hnone
    · rwa [if_neg hreset, String.append_empty]
  -- the codes in front go one by one, whatever comes after them
  have hfront : ∀ codes : List String, (∀ code ∈ codes, isParameters code = true) →
      ∀ u : String, Erased IsWord u.toList kept →
        Erased IsWord (String.join (codes.map sequence) ++ u).toList kept := by
    intro codes hcodes u hu
    induction codes with
    | nil => rwa [List.map_nil, String.join_nil, String.empty_append]
    | cons code codes ih =>
      rw [List.forall_mem_cons] at hcodes
      rw [List.map_cons, String.join_cons, String.append_assoc, String.toList_append]
      exact .word (hword code hcodes.1) (ih hcodes.2)
  rw [Style.apply, String.append_assoc]
  exact hfront s.codes s.isParameters_codes _ hback

/-- **A styled text is the text itself once codes are erased.** -/
theorem eraseCodes_apply (s : Style) (t : String) : eraseCodes (s.apply t) = eraseCodes t := by
  have h : Erased IsCode (s.apply t).toList (withoutCodes t.toList) :=
    .apply finds_codes (fun _ => isCode_sequence) s (erased_withoutCodes t.toList)
  rw [eraseCodes, withoutCodes_eq h, eraseCodes]

end LintReport.Terminal
