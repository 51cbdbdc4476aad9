/-
Written pointers.

* `Text.Spells` — the written forms of a text, with any of its characters as percent escapes;
* `Text.percentDecode_of_spells` — percent decoding gives the text that is spelled;
* `Pointer.escape` — a segment with its tildes and slashes escaped;
* `Pointer.decodeSegment_of_spells` — a segment is decoded from each of its written forms;
* `Pointer.parse_written` — a pointer has the segments that it is written from.

Design notes: a relation and not a function says which characters are percent escapes, and with
which digits.  What is decoded at once is a run of ASCII characters, which can begin and end
anywhere, so the invariant of the decoder is that the pending run spells the text pending.
-/
import LintReport.Diagnostic.Pointer
import LintReport.Proofs.Bytes
import Mathlib.Data.List.Forall2

namespace LintReport

namespace Text

variable {c high low : Char} {cs begun written piece rest run : List Char} {byte : UInt8}
  {bytes : List UInt8}

/-- The percent escapes of bytes, with hexadecimal digits of either case. -/
inductive ByteEscapes : List UInt8 → List Char → Prop
  | nil : ByteEscapes [] []
  | cons {high low : Char} {byte : UInt8} {bytes : List UInt8} {piece : List Char}
      (hbyte : hexPair? high low = some byte) (h : ByteEscapes bytes piece) :
      ByteEscapes (byte :: bytes) ('%' :: high :: low :: piece)

/-- The written forms of a text: each character is itself, or the percent escapes of its bytes.
A percent sign is not itself. -/
inductive Spells : List Char → List Char → Prop
  | nil : Spells [] []
  | plain {c : Char} {cs written : List Char} (hc : c ≠ '%') (h : Spells cs written) :
      Spells (c :: cs) (c :: written)
  | escaped {c : Char} {cs piece written : List Char}
      (hc : ByteEscapes (String.utf8EncodeChar c) piece) (h : Spells cs written) :
      Spells (c :: cs) (piece ++ written)

theorem Spells.append (h : Spells begun piece) (h' : Spells cs written) :
    Spells (begun ++ cs) (piece ++ written) := by
  induction h with
  | nil => exact h'
  | plain hc _ ih => exact .plain hc ih
  | escaped hc _ ih =>
    rw [List.append_assoc]
    exact .escaped hc ih

/-! ### Hexadecimal digits -/

/-- A hexadecimal digit is an ASCII character and not a slash. -/
theorem hexDigit_bounds {n : Nat} (h : hexValue? c = some n) : c.toNat < 128 ∧ c ≠ '/' := by
  constructor
  · by_contra hlarge
    have hbeyond : ∀ bound : Char, bound.toNat < 128 → ¬ c ≤ bound := fun bound hbound hle =>
      hlarge (Nat.lt_of_le_of_lt (UInt32.le_iff_toNat_le.mp (Char.le_def.mp hle)) hbound)
    simp [hexValue?, hbeyond '9' (by decide), hbeyond 'f' (by decide),
      hbeyond 'F' (by decide)] at h
  · rintro rfl
    have hnone : hexValue? '/' = none := by decide
    cases hnone.symm.trans h

theorem hexPair_bounds (h : hexPair? high low = some byte) :
    (high.toNat < 128 ∧ high ≠ '/') ∧ (low.toNat < 128 ∧ low ≠ '/') := by
  unfold hexPair? at h
  split at h
  · rename_i hhigh hlow
    exact ⟨hexDigit_bounds hhigh, hexDigit_bounds hlow⟩
  · cases h

theorem ByteEscapes.bounds (h : ByteEscapes bytes piece) :
    ∀ c ∈ piece, c.toNat < 128 ∧ c ≠ '/' := by
  induction h with
  | nil => exact fun c hc => absurd hc List.not_mem_nil
  | cons hbyte _ ih =>
    obtain ⟨hhigh, hlow⟩ := hexPair_bounds hbyte
    rw [List.forall_mem_cons, List.forall_mem_cons, List.forall_mem_cons]
    exact ⟨by decide, hhigh, hlow, ih⟩

theorem Spells.slash_not_mem (h : Spells cs written) (hcs : '/' ∉ cs) : '/' ∉ written := by
  induction h with
  | nil => exact hcs
  | plain hc _ ih =>
    rw [List.mem_cons, not_or] at hcs ⊢
    exact ⟨hcs.1, ih hcs.2⟩
  | escaped hc _ ih =>
    rw [List.mem_cons, not_or] at hcs
    rw [List.mem_append, not_or]
    exact ⟨fun hmem => (hc.bounds _ hmem).2 rfl, ih hcs.2⟩

theorem Spells.ne_nil (h : Spells cs written) (hcs : cs ≠ []) : written ≠ [] := by
  cases h with
  | nil => exact absurd rfl hcs
  | plain => exact List.cons_ne_nil _ _
  | @escaped c _ _ _ hc =>
    obtain ⟨b, bytes, hbytes, -⟩ := Utf8.encodeChar_eq_cons c 0
    rw [hbytes] at hc
    cases hc
    exact List.cons_ne_nil _ _

/-! ### Decoding -/

theorem percentBytes_cons_of_ne (hc : c ≠ '%') :
    percentBytes (c :: rest) = c.toUInt8 :: percentBytes rest := by
  rw [percentBytes]
  intro a b rest' heq
  exact absurd heq hc

theorem percentBytes_of_byteEscapes (h : ByteEscapes bytes piece) :
    percentBytes (piece ++ rest) = bytes ++ percentBytes rest := by
  induction h with
  | nil => rfl
  | cons hbyte _ ih =>
    rw [List.cons_append, List.cons_append, List.cons_append, percentBytes, hbyte]
    exact congrArg (_ :: ·) ih

/-- A run of ASCII characters stands for the bytes of the text that it spells. -/
theorem percentBytes_of_spells (h : Spells cs written) (hascii : ∀ c ∈ written, c.toNat < 128) :
    percentBytes written = Utf8.encode cs := by
  induction h with
  | nil => rfl
  | plain hc _ ih =>
    rw [List.forall_mem_cons] at hascii
    rw [percentBytes_cons_of_ne hc, ih hascii.2, Utf8.encode, Utf8.encode, List.flatMap_cons,
      Utf8.encodeChar_of_ascii hascii.1, List.singleton_append]
  | escaped hc _ ih =>
    rw [List.forall_mem_append] at hascii
    rw [percentBytes_of_byteEscapes hc, ih hascii.2, Utf8.encode, Utf8.encode, List.flatMap_cons]

/-- ASCII characters join the pending run. -/
theorem percentDecodeFrom_append (hascii : ∀ c ∈ piece, c.toNat < 128) :
    percentDecodeFrom run (piece ++ rest) = percentDecodeFrom (piece.reverse ++ run) rest := by
  induction piece generalizing run with
  | nil => rfl
  | cons c piece ih =>
    rw [List.forall_mem_cons] at hascii
    rw [List.cons_append, percentDecodeFrom, if_pos hascii.1, ih hascii.2, List.reverse_cons,
      List.append_assoc, List.singleton_append]

/-- The end of a run gives the text that the run spells. -/
theorem decodeLossy_run (hrun : Spells begun run.reverse) (hascii : ∀ c ∈ run, c.toNat < 128) :
    Utf8.decodeLossy (percentBytes run.reverse) = begun := by
  rw [percentBytes_of_spells hrun fun c hc => hascii c (List.mem_reverse.mp hc),
    Utf8.decodeLossy_encode]

theorem percentDecodeFrom_of_spells (hrun : Spells begun run.reverse)
    (hascii : ∀ c ∈ run, c.toNat < 128) (h : Spells cs written) :
    percentDecodeFrom run written = begun ++ cs := by
  -- a run is decoded as a whole when it ends, so the induction keeps all that it has spelled so far
  induction h generalizing begun run with
  | nil => rw [percentDecodeFrom, decodeLossy_run hrun hascii, List.append_nil]
  | @plain c cs written hc h ih =>
    rw [percentDecodeFrom]
    by_cases hsmall : c.toNat < 128
    · have hnext : Spells (begun ++ [c]) (c :: run).reverse := by
        rw [List.reverse_cons]
        exact hrun.append (.plain hc .nil)
      rw [if_pos hsmall, ih hnext (List.forall_mem_cons.mpr ⟨hsmall, hascii⟩),
        List.append_assoc, List.singleton_append]
    · -- the run ends here, and the next one has spelled nothing yet
      rw [if_neg hsmall, decodeLossy_run hrun hascii,
        ih .nil fun c hc => absurd hc List.not_mem_nil, List.nil_append]
  | @escaped c cs piece written hc h ih =>
    have hpiece : ∀ c ∈ piece, c.toNat < 128 := fun c' hc' => (hc.bounds c' hc').1
    have hnext : Spells (begun ++ [c]) (piece.reverse ++ run).reverse := by
      rw [List.reverse_append, List.reverse_reverse, ← List.append_nil piece]
      exact hrun.append (.escaped hc .nil)
    have hnextAscii : ∀ c ∈ piece.reverse ++ run, c.toNat < 128 := by
      rw [List.forall_mem_append]
      exact ⟨fun c' hc' => hpiece c' (List.mem_reverse.mp hc'), hascii⟩
    rw [percentDecodeFrom_append hpiece, ih hnext hnextAscii, List.append_assoc,
      List.singleton_append]

/-- **Percent decoding gives the text that is spelled.** -/
theorem percentDecode_of_spells (h : Spells cs written) : percentDecode written = cs := by
  rw [percentDecode, percentDecodeFrom_of_spells .nil (fun c hc => absurd hc List.not_mem_nil) h,
    List.nil_append]

/-! ### Encoding -/

/-- The percent escape of a byte, with upper-case digits. -/
def percentEscape (byte : UInt8) : List Char :=
  ['%', (byte.toNat / 16).digitChar.toUpper, (byte.toNat % 16).digitChar.toUpper]

/-- A text with its percent signs and some further characters as percent escapes. -/
def percentEncode (chosen : Char → Bool) (cs : List Char) : List Char :=
  cs.flatMap fun c =>
    if c = '%' || chosen c then (String.utf8EncodeChar c).flatMap percentEscape else [c]

theorem hexValue?_digitChar : ∀ n < 16, hexValue? n.digitChar.toUpper = some n := by decide

theorem hexPair?_of_byte (byte : UInt8) :
    hexPair? (byte.toNat / 16).digitChar.toUpper (byte.toNat % 16).digitChar.toUpper
      = some byte := by
  have hbyte : byte.toNat < 256 := byte.toNat_lt
  rw [hexPair?, hexValue?_digitChar _ (by omega), hexValue?_digitChar _ (by omega)]
  show some (UInt8.ofNat (16 * (byte.toNat / 16) + byte.toNat % 16)) = some byte
  rw [Nat.div_add_mod, UInt8.ofNat_toNat]

theorem byteEscapes_flatMap (bytes : List UInt8) :
    ByteEscapes bytes (bytes.flatMap percentEscape) := by
  induction bytes with
  | nil => exact .nil
  | cons byte bytes ih => exact .cons (hexPair?_of_byte byte) ih

/-- A text is spelled, whichever characters are chosen. -/
theorem spells_percentEncode (chosen : Char → Bool) (cs : List Char) :
    Spells cs (percentEncode chosen cs) := by
  induction cs with
  | nil => exact .nil
  | cons c cs ih =>
    rw [percentEncode, List.flatMap_cons]
    by_cases hc : (c = '%' || chosen c) = true
    · rw [if_pos hc]
      exact .escaped (byteEscapes_flatMap _) ih
    · rw [if_neg hc]
      rw [Bool.or_eq_true, decide_eq_true_iff, not_or] at hc
      exact .plain hc.1 ih

end Text

namespace Pointer

open Text (Spells percentEncode)

variable {c digit : Char} {cs written : List Char}

/-! ### Tildes and slashes -/

/-- Every occurrence of a character replaced by a text. -/
def replaceChar (c : Char) (new cs : List Char) : List Char :=
  cs.flatMap fun d => if d = c then new else [d]

/-- A segment with its tildes and then its slashes escaped. -/
def escape (cs : List Char) : List Char :=
  replaceChar '/' ['~', '1'] (replaceChar '~' ['~', '0'] cs)

theorem escape_tilde (cs : List Char) : escape ('~' :: cs) = '~' :: '0' :: escape cs := rfl

theorem escape_slash (cs : List Char) : escape ('/' :: cs) = '~' :: '1' :: escape cs := rfl

theorem replaceChar_cons_of_ne {d : Char} {new : List Char} (h : d ≠ c) :
    replaceChar c new (d :: cs) = d :: replaceChar c new cs := by
  rw [replaceChar, List.flatMap_cons, if_neg h]
  rfl

theorem escape_cons_of_ne (htilde : c ≠ '~') (hslash : c ≠ '/') :
    escape (c :: cs) = c :: escape cs := by
  rw [escape, replaceChar_cons_of_ne htilde, replaceChar_cons_of_ne hslash]
  rfl

/-- A segment has no slash after its slashes are escaped. -/
theorem slash_not_mem_escape (cs : List Char) : '/' ∉ escape cs := by
  rw [escape, replaceChar, List.mem_flatMap]
  rintro ⟨c, -, hc⟩
  split at hc
  · revert hc
    decide
  · rename_i hne
    exact hne (List.mem_singleton.mp hc).symm

theorem replaceTilde_cons_of_ne {by_ : Char} (h : c ≠ '~') :
    replaceTilde digit by_ (c :: cs) = c :: replaceTilde digit by_ cs := by
  cases cs with
  | nil => rfl
  | cons d cs => rw [replaceTilde, if_neg (by simp [h])]

theorem replaceTilde_tilde {by_ : Char} :
    replaceTilde digit by_ ('~' :: digit :: cs) = by_ :: replaceTilde digit by_ cs := by
  rw [replaceTilde, if_pos (by simp)]

theorem replaceTilde_tilde_of_ne {by_ : Char} (h : c ≠ digit) :
    replaceTilde digit by_ ('~' :: c :: cs) = '~' :: replaceTilde digit by_ (c :: cs) := by
  rw [replaceTilde, if_neg (by simp [h])]

/-- The slashes of an escaped segment come back first.  No tilde of the segment itself has a one
after it then, as it has a zero. -/
theorem replaceTilde_escape (cs : List Char) :
    replaceTilde '1' '/' (escape cs) = replaceChar '~' ['~', '0'] cs := by
  induction cs with
  | nil => rfl
  | cons c cs ih =>
    by_cases htilde : c = '~'
    · subst htilde
      rw [escape_tilde, replaceTilde_tilde_of_ne (by decide), replaceTilde_cons_of_ne (by decide),
        ih]
      rfl
    · rw [replaceChar_cons_of_ne htilde]
      by_cases hslash : c = '/'
      · subst hslash
        rw [escape_slash, replaceTilde_tilde, ih]
      · rw [escape_cons_of_ne htilde hslash, replaceTilde_cons_of_ne htilde, ih]

theorem replaceTilde_replaceChar (cs : List Char) :
    replaceTilde '0' '~' (replaceChar '~' ['~', '0'] cs) = cs := by
  induction cs with
  | nil => rfl
  | cons c cs ih =>
    by_cases htilde : c = '~'
    · subst htilde
      exact replaceTilde_tilde.trans (congrArg ('~' :: ·) ih)
    · rw [replaceChar_cons_of_ne htilde, replaceTilde_cons_of_ne htilde, ih]

theorem escape_ne_nil (h : cs ≠ []) : escape cs ≠ [] := by
  intro hnil
  have hback := replaceTilde_replaceChar cs
  rw [← replaceTilde_escape, hnil] at hback
  exact h hback.symm

/-- **A segment is decoded from each of its written forms.** -/
theorem decodeSegment_of_spells (h : Spells (escape cs) written) : decodeSegment written = cs := by
  rw [decodeSegment, Text.percentDecode_of_spells h, replaceTilde_escape,
    replaceTilde_replaceChar]

/-! ### Whole pointers -/

/-- The segments that are written between slashes, after a slash. -/
theorem parseChars_intercalate {pieces : List (List Char)} (hslash : ∀ p ∈ pieces, '/' ∉ p)
    (hne : ∀ p ∈ pieces, p ≠ []) :
    parseChars ('/' :: ['/'].intercalate pieces) = pieces.map decodeSegment := by
  have hsplit : (('/' :: ['/'].intercalate pieces).splitOn '/').filter (!·.isEmpty) = pieces := by
    cases pieces with
    | nil => rfl
    | cons p ps =>
      -- the slash of the mark comes after an empty piece, which does not count
      have hjoined : '/' :: ['/'].intercalate (p :: ps) = ['/'].intercalate ([] :: p :: ps) := by
        rw [List.intercalate_cons_cons]
        rfl
      have hslash' : ∀ q ∈ [] :: p :: ps, '/' ∉ q := by
        rw [List.forall_mem_cons]
        exact ⟨List.not_mem_nil, hslash⟩
      rw [hjoined, List.splitOn_intercalate _ hslash' (List.cons_ne_nil _ _), List.filter_cons]
      have hall : (p :: ps).filter (!·.isEmpty) = p :: ps := by
        rw [List.filter_eq_self]
        intro q hq
        simp [hne q hq]
      simpa using hall
  exact congrArg (List.map decodeSegment) hsplit

/-- A written form of a segment. -/
def Writes (segment written : String) : Prop := Spells (escape segment.toList) written.toList

/-- The written form of a segment in which some characters are percent escapes. -/
def write (chosen : Char → Bool) (segment : String) : String :=
  String.ofList (percentEncode chosen (escape segment.toList))

theorem writes_write (chosen : Char → Bool) (segment : String) :
    Writes segment (write chosen segment) := by
  rw [Writes, write, String.toList_ofList]
  exact Text.spells_percentEncode chosen _

variable {segments written : List String}

theorem forall_mem_of_writes (hne : ∀ s ∈ segments, s ≠ "")
    (h : List.Forall₂ Writes segments written) :
    ∀ w ∈ written.map String.toList, '/' ∉ w ∧ w ≠ [] := by
  induction h with
  | nil => exact fun w hw => absurd hw List.not_mem_nil
  | @cons segment w _ _ hw _ ih =>
    rw [List.forall_mem_cons] at hne
    have hsegment : segment.toList ≠ [] := fun hnil => hne.1 (String.toList_eq_nil_iff.mp hnil)
    rw [List.map_cons, List.forall_mem_cons]
    exact ⟨⟨hw.slash_not_mem (slash_not_mem_escape _), hw.ne_nil (escape_ne_nil hsegment)⟩,
      ih hne.2⟩

theorem map_decodeSegment_of_writes (h : List.Forall₂ Writes segments written) :
    (written.map fun w => String.ofList (decodeSegment w.toList)) = segments := by
  induction h with
  | nil => rfl
  | cons hw _ ih =>
    rw [List.map_cons, ih, decodeSegment_of_spells hw, String.ofList_toList]

/-- Written forms of segments after a slash have these segments. -/
theorem parse_of_writes {mark : String} (hmark : mark = "#/" ∨ mark = "/")
    (hne : ∀ s ∈ segments, s ≠ "") (h : List.Forall₂ Writes segments written) :
    parse (mark ++ "/".intercalate written) = segments := by
  have hpieces := forall_mem_of_writes hne h
  have hchars : parseChars (mark ++ "/".intercalate written).toList
      = (written.map String.toList).map decodeSegment := by
    rw [← parseChars_intercalate (fun w hw => (hpieces w hw).1) fun w hw => (hpieces w hw).2,
      String.toList_append, String.toList_intercalate]
    obtain rfl | rfl := hmark
    · rfl
    · rfl
  rw [parse, hchars, List.map_map, List.map_map]
  exact map_decodeSegment_of_writes h

/-- **A pointer has the segments that it is written from**: their tildes and slashes are escaped,
then their percent signs and any further characters become percent escapes, chosen one by one or as
a set, and what is written is joined by slashes after a mark. -/
theorem parse_written {mark : String} (hmark : mark = "#/" ∨ mark = "/")
    (hne : ∀ s ∈ segments, s ≠ "") :
    (∀ written, List.Forall₂ Writes segments written →
      parse (mark ++ "/".intercalate written) = segments) ∧
    ∀ chosen, parse (mark ++ "/".intercalate (segments.map (write chosen))) = segments := by
  refine ⟨fun written h => parse_of_writes hmark hne h, fun chosen => parse_of_writes hmark hne ?_⟩
  rw [List.forall₂_map_right_iff, List.forall₂_same]
  exact fun s _ => writes_write chosen s

/-- Segments that look like escapes themselves: the tilde of the first one is a percent escape, and
the bytes of the last one have digits of both cases. -/
theorem parse_written_of_escapes :
    let segments := ["~1", "%7E1", "/é"]
    (∀ s ∈ segments, s ≠ "") ∧
    parse "#/%7e01/%257E1/~1%c3%A9" = segments ∧
    parse ("/" ++ "/".intercalate (segments.map (write (· = '1')))) = segments := by
  intro segments
  have hne : ∀ s ∈ segments, s ≠ "" := by decide
  have hfirst : Writes "~1" "%7e01" :=
    @Spells.escaped '~' _ ['%', '7', 'e'] _ (.cons rfl .nil)
      (.plain (by decide) (.plain (by decide) .nil))
  have hsecond : Writes "%7E1" "%257E1" := writes_write (fun _ => false) "%7E1"
  have hthird : Writes "/é" "~1%c3%A9" :=
    .plain (by decide) (.plain (by decide)
      (@Spells.escaped 'é' _ ['%', 'c', '3', '%', 'A', '9'] _ (.cons rfl (.cons rfl .nil)) .nil))
  have hwhole : "#/" ++ "/".intercalate ["%7e01", "%257E1", "~1%c3%A9"]
      = "#/%7e01/%257E1/~1%c3%A9" := by decide +kernel
  refine ⟨hne, ?_, (parse_written (.inr rfl) hne).2 _⟩
  rw [← hwhole]
  exact (parse_written (.inl rfl) hne).1 _ (.cons hfirst (.cons hsecond (.cons hthird .nil)))

end Pointer

end LintReport
