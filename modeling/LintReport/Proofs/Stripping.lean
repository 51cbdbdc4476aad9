/-
What a console without color lets through.

* `Terminal.IsSequence` — a control sequence: an escape character, a bracket, parameters,
  intermediate characters and a final one;
* `Terminal.HasSplitCode` — a text with a color code that has control sequences inside of it;
* `Console.hasCode_written_iff` — a console that strips control sequences writes a color code
  exactly if it is given a split one, as output, as a warning or as a chunk of a listing;
* `Console.hasCode_written_of_nested` — a text that has a color code only once it is stripped.

Design notes: a color code is a control sequence, so every one that stands in a text is taken out
or is split by others.  A line break stands in no control sequence, so that neither the one after
a text nor the texts that are written before and after it matter.
-/
import LintReport.Proofs.Codes
import LintReport.Rendering.Output

namespace LintReport

namespace Terminal

/-- A control sequence. -/
def IsSequence (cs : List Char) : Prop :=
  ∃ ps is c, cs = '\x1b' :: '[' :: (ps ++ (is ++ [c])) ∧ (∀ p ∈ ps, isParameter p = true) ∧
    (∀ i ∈ is, isIntermediate i = true) ∧ isFinal c = true

/-- A color code stands in the text. -/
def HasCode (s : String) : Prop := ∃ code, IsCode code ∧ code <:+: s.toList

/-- The text has a color code with words between its first character and its last one. -/
def HasSplitCode (IsWord : List Char → Prop) (s : String) : Prop :=
  ∃ code, IsCode code ∧ ∃ part, Splits IsWord part code ∧ part <:+: s.toList

/-! ### Control sequences -/

theorem isParameter_iff {c : Char} : isParameter c = true ↔ 48 ≤ c.toNat ∧ c.toNat ≤ 63 := by
  rw [isParameter, Bool.and_eq_true, decide_eq_true_eq, decide_eq_true_eq]
  exact Iff.rfl

theorem isIntermediate_iff {c : Char} : isIntermediate c = true ↔ 32 ≤ c.toNat ∧ c.toNat ≤ 47 := by
  rw [isIntermediate, Bool.and_eq_true, decide_eq_true_eq, decide_eq_true_eq]
  exact Iff.rfl

theorem isFinal_iff {c : Char} : isFinal c = true ↔ 64 ≤ c.toNat ∧ c.toNat ≤ 126 := by
  rw [isFinal, Bool.and_eq_true, decide_eq_true_eq, decide_eq_true_eq]
  exact Iff.rfl

/-- A color code is a control sequence. -/
theorem IsCode.isSequence {code : List Char} (h : IsCode code) : IsSequence code := by
  obtain ⟨ps, c, rfl, hps, hc⟩ := h
  refine ⟨ps, [], c, rfl, fun p hp => isParameter_iff.mpr (toNat_of_isCodeParameter (hps p hp)),
    by simp, isFinal_iff.mpr ?_⟩
  have hletter := isAlpha_iff.mp hc
  omega

/-- What stands in a control sequence after its first character is printable. -/
theorem IsSequence.le_of_mem_tail {cs : List Char} (h : IsSequence cs) :
    ∀ c ∈ cs.tail, 32 ≤ c.toNat := by
  obtain ⟨ps, is, last, rfl, hps, his, hlast⟩ := h
  simp only [List.tail_cons, List.mem_cons, List.mem_append, List.not_mem_nil, or_false]
  rintro c (rfl | hc | hc | rfl)
  · decide
  · have := isParameter_iff.mp (hps c hc)
    omega
  · have := isIntermediate_iff.mp (his c hc)
    omega
  · have := isFinal_iff.mp hlast
    omega

theorem takeWhile_append_stop {p : Char → Bool} {xs ys : List Char} (hxs : ∀ x ∈ xs, p x = true)
    (hys : ∀ y ∈ ys.head?, ¬ p y = true) : (xs ++ ys).takeWhile p = xs := by
  rw [List.takeWhile_append_of_pos hxs]
  cases ys with
  | nil => exact List.append_nil xs
  | cons y ys => rw [List.takeWhile_cons_of_neg (hys y rfl), List.append_nil]

/-- The length is that of a control sequence at the beginning. -/
theorem escapeLength?_append {cs : List Char} (h : IsSequence cs) (rest : List Char) :
    escapeLength? (cs ++ rest) = some cs.length := by
  obtain ⟨ps, is, c, rfl, hps, his, hc⟩ := h
  have hfinal := isFinal_iff.mp hc
  -- what stops the parameters is an intermediate character, or the final one if there is none
  have hparameters : (ps ++ (is ++ c :: rest)).takeWhile isParameter = ps := by
    refine takeWhile_append_stop hps fun y hy hp => ?_
    have hy' : y = c ∨ y ∈ is := by
      cases is with
      | nil => exact .inl (Option.some.inj hy).symm
      | cons i is => exact .inr (by simp [← Option.some.inj hy])
    have hparameter := isParameter_iff.mp hp
    rcases hy' with rfl | hy'
    · omega
    · have hintermediate := isIntermediate_iff.mp (his y hy')
      omega
  have hintermediates : (is ++ c :: rest).takeWhile isIntermediate = is := by
    refine takeWhile_append_stop his fun y hy hi => ?_
    obtain rfl : c = y := Option.some.inj hy
    have hintermediate := isIntermediate_iff.mp hi
    omega
  have hcs : '\x1b' :: '[' :: (ps ++ (is ++ [c])) ++ rest
      = '\x1b' :: '[' :: (ps ++ (is ++ c :: rest)) := by
    simp
  rw [hcs, escapeLength?, hparameters, List.drop_left, hintermediates, ← List.drop_drop,
    List.drop_left, List.drop_left]
  simp [hc]
  omega

/-- A length is only given for a control sequence. -/
theorem exists_sequence_of_escapeLength? {cs : List Char} {n : Nat}
    (h : escapeLength? cs = some n) :
    ∃ w rest, cs = w ++ rest ∧ IsSequence w ∧ w.length = n := by
  have hsplit : ∀ (p : Char → Bool) (xs : List Char),
      xs.takeWhile p ++ xs.drop (xs.takeWhile p).length = xs := fun p xs =>
    List.prefix_iff_eq_append.mp (List.takeWhile_prefix p)
  have hall : ∀ (p : Char → Bool) (xs : List Char), ∀ x ∈ xs.takeWhile p, p x = true := fun p xs =>
    List.all_eq_true.mp List.all_takeWhile
  unfold escapeLength? at h
  split at h
  case h_1 rest =>
    dsimp only at h
    generalize hps : rest.takeWhile isParameter = ps at h
    generalize hmore : rest.drop ps.length = more at h
    generalize his : more.takeWhile isIntermediate = is at h
    have hrest : ps ++ more = rest := by rw [← hmore, ← hps, hsplit]
    have hafter : is ++ more.drop is.length = more := by rw [← his, hsplit]
    rw [← List.drop_drop, hmore] at h
    split at h
    case h_1 c after hdrop =>
      rw [hdrop] at hafter
      by_cases hc : isFinal c = true
      · rw [if_pos hc, Option.some.injEq] at h
        refine ⟨'\x1b' :: '[' :: (ps ++ (is ++ [c])), after, ?_,
          ⟨ps, is, c, rfl, hps ▸ hall _ _, his ▸ hall _ _, hc⟩, ?_⟩
        · rw [← hrest, ← hafter]
          simp
        · simp only [List.length_cons, List.length_append, List.length_nil]
          omega
      · rw [if_neg hc] at h
        cases h
    case h_2 => cases h
  case h_2 => cases h

/-- The length of a control sequence finds the control sequences. -/
theorem finds_sequences : Finds IsSequence escapeLength? where
  escape h := by
    have hprintable := h.le_of_mem_tail
    obtain ⟨ps, is, c, rfl, -⟩ := h
    exact ⟨_, rfl, fun hesc => absurd (hprintable _ hesc) (by decide)⟩
  complete := escapeLength?_append
  sound := exists_sequence_of_escapeLength?

/-! ### Stripping -/

theorem erased_stripChars (cs : List Char) : Erased IsSequence cs (stripChars cs) := by
  refine finds_sequences.erased_of_skip (fun _ => rfl) (fun _ _ _ => rfl) ?_ ?_ cs
  · intro c rest n h
    rw [stripAfter, h]
  · intro c rest h
    rw [stripAfter, h]

theorem stripChars_eq {cs kept : List Char} (h : Erased IsSequence cs kept) :
    stripChars cs = kept :=
  (erased_stripChars cs).unique finds_sequences h

/-- A styled text is the text itself once it is stripped. -/
theorem stripEscapes_apply (s : Style) (t : String) :
    stripEscapes (s.apply t) = stripEscapes t := by
  have h : Erased IsSequence (s.apply t).toList (stripChars t.toList) :=
    .apply finds_sequences (fun _ hcode => (isCode_sequence hcode).isSequence) s
      (erased_stripChars t.toList)
  rw [stripEscapes, stripChars_eq h, stripEscapes]

/-- A line break after a text stays where it is. -/
theorem stripEscapes_append_newline (t : String) :
    stripEscapes (t ++ "\n") = stripEscapes t ++ "\n" := by
  have h : Erased IsSequence (t.toList ++ ['\n']) (stripChars t.toList ++ ['\n']) := by
    refine (erased_stripChars t.toList).append (.of_not_mem finds_sequences (by decide)) ?_
    intro w hw c hc htail
    rw [List.head?_cons, Option.mem_some_iff] at hc
    exact absurd (hw.le_of_mem_tail c htail) (hc ▸ by decide)
  apply String.toList_injective
  rw [stripEscapes, String.toList_ofList, String.toList_append, stripEscapes, String.toList_append,
    String.toList_ofList, String.toList_ofList]
  exact stripChars_eq h

/-- **A color code stands in a stripped text exactly if the text has one that is split.** -/
theorem hasCode_stripEscapes_iff {s : String} :
    HasCode (stripEscapes s) ↔ HasSplitCode IsSequence s := by
  simp only [HasCode, HasSplitCode, stripEscapes, String.toList_ofList]
  exact exists_congr fun code => and_congr_right fun hcode =>
    infix_erase_iff finds_sequences erased_stripChars hcode.isSequence

/-- The same is true where nothing but color codes is taken out. -/
theorem hasCode_eraseCodes_iff {s : String} : HasCode (eraseCodes s) ↔ HasSplitCode IsCode s := by
  simp only [HasCode, HasSplitCode, toList_eraseCodes]
  exact exists_congr fun code => and_congr_right fun hcode =>
    infix_erase_iff finds_codes erased_withoutCodes hcode

/-! ### Streams -/

theorem not_hasCode_empty : ¬ HasCode "" := by
  rintro ⟨code, hcode, hcontains⟩
  exact finds_codes.ne_nil hcode (List.eq_nil_of_infix_nil hcontains)

/-- No color code goes over a line break. -/
theorem hasCode_append_newline {x y : String} :
    HasCode (x ++ "\n" ++ y) ↔ HasCode x ∨ HasCode y := by
  have hcodes : ∀ code, IsCode code →
      (code <:+: (x ++ "\n" ++ y).toList ↔ code <:+: x.toList ∨ code <:+: y.toList) := by
    intro code hcode
    have hbreak : '\n' ∉ code := by
      obtain ⟨tail, rfl, -⟩ := finds_codes.escape hcode
      rw [List.mem_cons, not_or]
      exact ⟨by decide, fun h => absurd (hcode.isSequence.le_of_mem_tail _ h) (by decide)⟩
    have hlist : (x ++ "\n" ++ y).toList = x.toList ++ '\n' :: y.toList := by simp
    rw [hlist, List.infix_append_iff_ne_nil, List.infix_cons_iff]
    constructor
    · rintro (hx | (hstart | hy) | ⟨l₁, l₂, -, hne, rfl, -, hstart⟩)
      · exact .inl hx
      · obtain ⟨tail, rfl, -⟩ := finds_codes.escape hcode
        exact absurd (List.cons_prefix_cons.mp hstart).1 (by decide)
      · exact .inr hy
      · -- a code that went on after the first text would have the line break
        cases l₂ with
        | nil => exact absurd rfl hne
        | cons c l₂ =>
          obtain ⟨rfl, -⟩ := List.cons_prefix_cons.mp hstart
          exact absurd (by simp) hbreak
    · rintro (hx | hy)
      · exact .inl hx
      · exact .inr (.inl (.inr hy))
  simp only [HasCode]
  rw [← exists_or]
  exact exists_congr fun code => by rw [← and_or_left, and_congr_right (hcodes code)]

end Terminal

/-! ### Consoles -/

open Terminal

theorem writtenTo_append (channel : Channel) (xs ys : List Event) :
    writtenTo channel (xs ++ ys) = writtenTo channel xs ++ writtenTo channel ys := by
  rw [writtenTo, List.filterMap_append, String.join_append, writtenTo, writtenTo]

theorem writtenTo_write (channel target : Channel) (text : String) :
    writtenTo channel (Logged.write target text).events
      = if target = channel then text else "" := by
  by_cases h : target = channel
  · simp [writtenTo, Logged.write, h]
  · simp [writtenTo, Logged.write, h]

/-- A text that is written has a code on one of the channels if it has one. -/
theorem exists_hasCode_write_iff {target : Channel} {text : String} :
    (∃ channel, HasCode (writtenTo channel (Logged.write target text).events)) ↔ HasCode text := by
  simp only [writtenTo_write]
  constructor
  · rintro ⟨channel, h⟩
    split at h
    · exact h
    · exact absurd h not_hasCode_empty
  · intro h
    exact ⟨target, by rwa [if_pos rfl]⟩

namespace Console

theorem hasCode_terminated {newline : Bool} {text : String} :
    HasCode (terminated newline text) ↔ HasCode text := by
  cases newline with
  | false => exact Iff.rfl
  | true =>
    have h := hasCode_append_newline (x := text) (y := "")
    rwa [String.append_empty, or_iff_left not_hasCode_empty] at h

theorem stripEscapes_terminated (newline : Bool) (text : String) :
    stripEscapes (terminated newline text) = terminated newline (stripEscapes text) := by
  cases newline with
  | false => rfl
  | true => exact stripEscapes_append_newline text

/-- Without color a text is written without its control sequences, and without a style. -/
theorem eq_write_stripEscapes {write : Console → Bool → String → Logged Unit}
    (h : write ∈ [print, diagnose, warn, fail]) (newline : Bool) (text : String) :
    ∃ channel, write (.styling false) newline text
      = .write channel (terminated newline (stripEscapes text)) := by
  have hstyled : ∀ s : Style, shownIn (.styling false) s newline text
      = terminated newline (stripEscapes text) := by
    intro s
    rw [shownIn, shown, stripEscapes_terminated, stripEscapes_apply]
  have hplain : shown (.styling false) (terminated newline text)
      = terminated newline (stripEscapes text) := stripEscapes_terminated newline text
  simp only [List.mem_cons, List.not_mem_nil, or_false] at h
  rcases h with rfl | rfl | rfl | rfl
  · exact ⟨.output, by rw [print, hplain]⟩
  · exact ⟨.diagnostics, by rw [diagnose, hplain]⟩
  · exact ⟨.diagnostics, by rw [warn, hstyled]⟩
  · exact ⟨.diagnostics, by rw [fail, hstyled]⟩

/-- The chunks of a listing are stripped one by one, and stand on lines of their own. -/
theorem hasCode_writeChunks_iff {chunks : List String} :
    (∃ channel, HasCode (writtenTo channel (writeChunks (.styling false) chunks).events))
      ↔ ∃ chunk ∈ chunks, HasCode (stripEscapes chunk) := by
  -- one channel at a time, as the texts of a channel are joined chunk by chunk
  have hchunks : ∀ channel,
      HasCode (writtenTo channel (chunks.forM (diagnose (.styling false) true)).events)
        ↔ channel = .diagnostics ∧ ∃ chunk ∈ chunks, HasCode (stripEscapes chunk) := by
    intro channel
    induction chunks with
    | nil =>
      have hnone : writtenTo channel (List.forM [] (diagnose (.styling false) true)).events = "" :=
        rfl
      rw [hnone]
      simpa using not_hasCode_empty
    | cons chunk chunks ih =>
      have hevents : ((chunk :: chunks).forM (diagnose (.styling false) true)).events
          = (Logged.write .diagnostics (stripEscapes (chunk ++ "\n"))).events
            ++ (chunks.forM (diagnose (.styling false) true)).events := rfl
      rw [hevents, writtenTo_append, writtenTo_write, stripEscapes_append_newline]
      by_cases hchannel : channel = .diagnostics
      · rw [if_pos hchannel.symm, hasCode_append_newline, ih]
        simp [hchannel]
      · rw [if_neg (Ne.symm hchannel), String.empty_append, ih]
        simp [hchannel]
  have hevents : (writeChunks (.styling false) chunks).events
      = (chunks.forM (diagnose (.styling false) true)).events
        ++ (noteWritten chunks.length).events := rfl
  have hnote : ∀ channel, writtenTo channel (noteWritten chunks.length).events = "" := fun _ => rfl
  simp only [hevents, writtenTo_append, hnote, String.append_empty, hchunks, exists_and_right]
  exact and_iff_right ⟨_, rfl⟩

/-- **A console that strips control sequences writes a color code exactly if it is given a split
one**, in whatever way it writes the text, and of a listing exactly if a chunk of it has one.  This
does not depend on which control sequences there are: it is so too where nothing is taken out but
color codes. -/
theorem hasCode_written_iff (newline : Bool) (text : String) (chunks : List String) :
    (∀ write ∈ [print, diagnose, warn, fail],
        (∃ channel, HasCode (writtenTo channel (write (.styling false) newline text).events))
          ↔ HasSplitCode IsSequence text) ∧
      ((∃ channel, HasCode (writtenTo channel (writeChunks (.styling false) chunks).events))
        ↔ ∃ chunk ∈ chunks, HasSplitCode IsSequence chunk) ∧
      (HasCode (eraseCodes text) ↔ HasSplitCode IsCode text) := by
  refine ⟨fun write hwrite => ?_, ?_, hasCode_eraseCodes_iff⟩
  · obtain ⟨channel, hwritten⟩ := eq_write_stripEscapes hwrite newline text
    rw [hwritten, exists_hasCode_write_iff, hasCode_terminated, hasCode_stripEscapes_iff]
  · simp only [hasCode_writeChunks_iff, hasCode_stripEscapes_iff]

theorem hasCode_red : HasCode "\x1b[31mred" :=
  ⟨"\x1b[31m".toList, @isCode_sequence "31" (by decide), by decide⟩

/-- A text in red has codes, and an error in red has none of them. -/
theorem hasCode_written_iff_of_red :
    fail ∈ [print, diagnose, warn, fail] ∧ HasCode "\x1b[31mred" ∧
      ¬ HasSplitCode IsSequence "\x1b[31mred" := by
  have hfail : fail ∈ [print, diagnose, warn, fail] := by simp
  refine ⟨hfail, hasCode_red, ?_⟩
  rw [← (hasCode_written_iff true "\x1b[31mred" []).1 fail hfail]
  rintro ⟨channel, code, hcode, hcontains⟩
  have hplain : '\x1b' ∉ (writtenTo channel
      (fail (.styling false) true "\x1b[31mred").events).toList := by
    cases channel with
    | output => decide +kernel
    | diagnostics => decide +kernel
  obtain ⟨tail, rfl, -⟩ := finds_codes.escape hcode
  exact hplain (hcontains.subset (by simp))

/-- What is taken out of a code leaves one, on a console without color. -/
theorem hasCode_written_of_nested :
    let nested := "\x1b[\x1b[0m31mred"
    (diagnose (.styling false) true nested).events = [.written .diagnostics "\x1b[31mred\n"] ∧
      HasCode (writtenTo .diagnostics (diagnose (.styling false) true nested).events) ∧
      HasCode (eraseCodes nested) := by
  intro nested
  have hevents : (diagnose (.styling false) true nested).events
      = [.written .diagnostics "\x1b[31mred\n"] := by
    decide +kernel
  have herased : eraseCodes nested = "\x1b[31mred" := by decide +kernel
  refine ⟨hevents, ?_, ?_⟩
  · rw [hevents]
    exact (@hasCode_terminated true _).mpr hasCode_red
  · rw [herased]
    exact hasCode_red

end Console

end LintReport
