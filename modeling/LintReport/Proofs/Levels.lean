/-
Setting up the log.

* `Log.foldl_remove` — going through the handlers of a log and removing each one leaves none;
* `Log.withLevel_eq` — after a setup there is the level, and one handler, which is a new one;
* `Environment.logLevel?_eq_zero_iff` — the values of the variable that ask for the level zero;
* `Log.Setup`, `Log.setups` — calls that set up a log, one after the other;
* `Log.setups_level_iff` — every call leaves one handler, and the level that it is to leave, unless
  it leaves the level to a variable that asks for zero.

Design notes: a handler that is met twice among the handlers is removed twice, each time from the
front, since the walk goes along the list as it was before.
-/
import LintReport.Proofs.Digits
import LintReport.Proofs.Partition

namespace LintReport

open Outcome

/-! ### Handlers -/

/-- The serial number of a new handler is greater than those of the others. -/
theorem Handler.beside_not_mem (others : List Handler) (format : LineFormat) :
    beside others format ∉ others := by
  intro hmem
  have hzero : IsGreatest {n | n ∈ [0]} 0 := ⟨List.mem_singleton_self 0, by simp⟩
  have hgreatest := isGreatest_foldl_max hzero (others.map (·.serial))
  have hle := hgreatest.2 (List.mem_append_right _ (List.mem_map_of_mem hmem))
  simp only [beside] at hle
  omega

namespace Log

variable {log : Log} {level : Level}

/-- **Going through the handlers of a log and removing each one leaves none.** -/
theorem foldl_remove (log : Log) : log.handlers.foldl remove log = { log with handlers := [] } := by
  obtain ⟨level, handlers⟩ := log
  induction handlers with
  | nil => rfl
  | cons h hs ih =>
    have hfirst : remove ⟨level, h :: hs⟩ h = ⟨level, hs⟩ := by rw [remove, List.erase_cons_head]
    rw [List.foldl_cons, hfirst]
    exact ih

/-- After a setup there is the level, and a single handler, which is a new one. -/
theorem withLevel_eq (log : Log) (level : Level) :
    log.withLevel level = ⟨level, [.beside log.handlers (formatOf level)]⟩ := by
  have hbare := foldl_remove { log with level := level }
  simp only [withLevel, hbare, add, List.not_mem_nil, if_false, List.nil_append]

end Log

/-! ### The level zero -/

/-- The variable asks for the level zero, by its name or by digits that stand for zero. -/
inductive Environment.AsksForZero (env : Environment) : Prop
  | name {raw : String} (h : env.get? logLevelVariable = some raw)
      (hname : Text.upper (Text.trim raw) = "NOTSET")
  | digits {raw : String} (h : env.get? logLevelVariable = some raw)
      (hdigits : Text.Numeral.Denotes (Text.trim raw) 0)
      (hlength : (Text.trim raw).length ≤ Text.Numeral.maxDigits)

/-- A word asks for the level zero by its name, or by digits that stand for zero. -/
theorem Level.ofRequest?_eq_zero_iff {word : String} :
    Level.ofRequest? word = .ok (some 0) ↔
      word = "NOTSET" ∨
        Text.Numeral.Denotes word 0 ∧ word.length ≤ Text.Numeral.maxDigits := by
  unfold ofRequest?
  by_cases hdigits : (word != "" && word.toList.all Text.isDigit) = true
  · rw [if_pos hdigits, map_eq_ok]
    rw [Text.Numeral.ne_empty_and_all_isDigit_iff] at hdigits
    have hname : word ≠ "NOTSET" := by
      rintro rfl
      exact absurd (hdigits.2 'N' (by decide)) (by decide +kernel)
    simp only [Option.some.injEq, exists_eq_right, hname, false_or,
      Text.Numeral.read_eq_ok_iff_denotes hdigits.2]
    constructor
    · rintro ⟨k, hk, h⟩
      obtain rfl := Int.natCast_eq_zero.mp hk.symm
      exact h
    · exact fun h => ⟨0, rfl, h⟩
  · rw [if_neg hdigits]
    have hnot : ¬ Text.Numeral.Denotes word 0 := fun h =>
      hdigits (Text.Numeral.ne_empty_and_all_isDigit_iff.mpr h.isDigit)
    have htable : ∀ e ∈ Level.requests, e.2 = 0 → e.1 = "NOTSET" := by decide
    simp only [hnot, false_and, or_false, Except.ok.injEq]
    constructor
    · intro h
      obtain ⟨before, after, hrequests, -⟩ := List.lookup_eq_some_iff.mp h
      exact htable (word, 0) (hrequests ▸ List.mem_append_right _ List.mem_cons_self) rfl
    · rintro rfl
      decide

/-- **The variable asks for the level zero by its name, or by digits that stand for zero.** -/
theorem Environment.logLevel?_eq_zero_iff {env : Environment} :
    env.logLevel? = .ok (some 0) ↔ env.AsksForZero := by
  have hcases : env.AsksForZero ↔ ∃ raw, env.get? logLevelVariable = some raw ∧
      (Text.upper (Text.trim raw) = "NOTSET" ∨ Text.Numeral.Denotes (Text.trim raw) 0 ∧
        (Text.trim raw).length ≤ Text.Numeral.maxDigits) := by
    constructor
    · rintro (⟨h, hname⟩ | ⟨h, hdigits, hlength⟩)
      · exact ⟨_, h, .inl hname⟩
      · exact ⟨_, h, .inr ⟨hdigits, hlength⟩⟩
    · rintro ⟨raw, h, hname | ⟨hdigits, hlength⟩⟩
      · exact .name h hname
      · exact .digits h hdigits hlength
  -- digits are their own capitals
  have hupper : ∀ word : String, Text.Numeral.Denotes (Text.upper word) 0 ∧
      (Text.upper word).length ≤ Text.Numeral.maxDigits ↔
        Text.Numeral.Denotes word 0 ∧ word.length ≤ Text.Numeral.maxDigits := by
    intro word
    constructor
    · intro h
      rwa [Text.upper_of_digits (Text.digits_upper_iff.mp h.1.isDigit.2)] at h
    · intro h
      rwa [Text.upper_of_digits h.1.isDigit.2]
  rw [hcases]
  unfold logLevel?
  cases hraw : env.get? logLevelVariable with
  | none => simp
  | some raw =>
    simp only [Option.some.injEq, exists_eq_left']
    by_cases hempty : raw = ""
    · subst hempty
      refine iff_of_false (by simp) ?_
      rintro (hname | ⟨hdigits, -⟩)
      · exact absurd hname (by decide +kernel)
      · exact hdigits.isDigit.1 (by decide +kernel)
    · rw [if_neg hempty, Level.ofRequest?_eq_zero_iff, hupper]

/-! ### Calls -/

namespace Log

/-- A call that sets up a log: the variables at the time, and the level that it gives. -/
structure Setup where
  env : Environment
  level : Option Level

namespace Setup

/-- The variable can be read, or the call does not need it. -/
def IsAccepted (c : Setup) : Prop := c.level = none → ∃ asked, c.env.logLevel? = .ok asked

/-- The level that a call is to leave: the one that it gives, or else the one that the variable asks
for, or else the highest. -/
inductive Promises (c : Setup) : Level → Prop
  | given {l : Level} (h : c.level = some l) : Promises c l
  | asked {l : Level} (h : c.level = none) (hasked : c.env.logLevel? = .ok (some l)) : Promises c l
  | standard (h : c.level = none) (hasked : c.env.logLevel? = .ok none) : Promises c .critical

theorem Promises.unique {c : Setup} {l l' : Level} (h : c.Promises l) (h' : c.Promises l') :
    l = l' := by
  cases h with
  | given h =>
    cases h' with
    | given h' => exact Option.some.inj (h.symm.trans h')
    | asked h' => cases h.symm.trans h'
    | standard h' => cases h.symm.trans h'
  | asked h hasked =>
    cases h' with
    | given h' => cases h.symm.trans h'
    | asked h' hasked' => exact Option.some.inj (Except.ok.inj (hasked.symm.trans hasked'))
    | standard h' hasked' => cases hasked.symm.trans hasked'
  | standard h hasked =>
    cases h' with
    | given h' => cases h.symm.trans h'
    | asked h' hasked' => cases hasked.symm.trans hasked'
    | standard => rfl

end Setup

/-- The log after calls, one after the other. -/
def setups (log : Log) (calls : List Setup) : Except Text.Numeral.Error Log :=
  calls.foldlM (fun log c => log.setup c.env c.level) log

variable {log : Log} {c : Setup}

/-- **What one call does**: it sets up the level that it is to leave, or the highest one if that is
a zero that it does not give itself. -/
theorem setup_cases (log : Log) (h : c.IsAccepted) :
    ∃ level, log.setup c.env c.level = .ok (log.withLevel level) ∧
      (c.Promises level ∧ ¬ (c.level = none ∧ c.env.AsksForZero) ∨
        level = .critical ∧ c.Promises 0 ∧ c.level = none ∧ c.env.AsksForZero) := by
  obtain ⟨env, given⟩ := c
  cases given with
  | some l => exact ⟨l, rfl, .inl ⟨.given rfl, fun h => by cases h.1⟩⟩
  | none =>
    obtain ⟨asked, hasked⟩ := h rfl
    simp only at hasked
    have hsetup : log.setup env none = .ok (log.withLevel (standardLevel asked)) := by
      simp only [setup, hasked, ok_bind]
      rfl
    refine ⟨_, hsetup, ?_⟩
    simp only [← Environment.logLevel?_eq_zero_iff, hasked, true_and, Except.ok.injEq]
    cases asked with
    | none => exact .inl ⟨.standard rfl hasked, by simp⟩
    | some l =>
      by_cases hl : l = 0
      · subst hl
        exact .inr ⟨rfl, .asked rfl hasked, rfl⟩
      · refine .inl ⟨?_, by simpa using hl⟩
        rw [standardLevel, if_neg hl]
        exact .asked rfl hasked

/-- Accepted calls never fail. -/
theorem exists_setups {calls : List Setup} (h : ∀ c ∈ calls, c.IsAccepted) (log : Log) :
    ∃ after, log.setups calls = .ok after := by
  induction calls generalizing log with
  | nil => exact ⟨log, rfl⟩
  | cons c calls ih =>
    obtain ⟨hfirst, hrest⟩ := List.forall_mem_cons.mp h
    obtain ⟨level, hsetup, -⟩ := setup_cases log hfirst
    obtain ⟨after, hafter⟩ := ih hrest (log.withLevel level)
    refine ⟨after, ?_⟩
    rw [setups, List.foldlM_cons, hsetup, ok_bind]
    exact hafter

/-- **Every call leaves one handler and the level that it is to leave, unless this is a zero that
the variable asks for.**  Whatever handlers a log has, after each of some calls, whose variables can
be read where they are needed, it has one handler, which was not there before and writes as the
level demands.  The level is the one that the call is to leave exactly if the call does not leave it
to a variable that asks for zero; otherwise it is the highest one.  So a call that is given the
level that the variable asks for, and a call that is given none, leave the same level exactly if the
variable does not ask for zero. -/
theorem setups_level_iff {calls : List Setup} (h : ∀ c ∈ calls, c.IsAccepted) (log : Log) :
    (∀ past c, past ++ [c] <+: calls → ∃ before after,
      log.setups past = .ok before ∧ log.setups (past ++ [c]) = .ok after ∧
        (∃ handler, after.handlers = [handler] ∧ handler ∉ before.handlers ∧
          handler.format = formatOf after.level) ∧
        (c.Promises after.level ↔ ¬ (c.level = none ∧ c.env.AsksForZero)) ∧
        (c.level = none → c.env.AsksForZero → after.level = .critical)) ∧
      ∀ env asked, env.logLevel? = .ok asked →
        (Log.level <$> log.setup env asked = Log.level <$> log.setup env none
          ↔ ¬ env.AsksForZero) := by
  constructor
  · intro past c hpast
    have hmem : ∀ c' ∈ past ++ [c], c'.IsAccepted := fun c' hc' => h c' (hpast.subset hc')
    obtain ⟨before, hbefore⟩ :=
      exists_setups (fun c' hc' => hmem c' (List.mem_append_left _ hc')) log
    obtain ⟨level, hsetup, hlevel⟩ := setup_cases before (hmem c (by simp))
    have hafter : log.setups (past ++ [c]) = .ok (before.withLevel level) := by
      rw [setups, List.foldlM_append]
      refine bind_eq_ok.mpr ⟨before, hbefore, ?_⟩
      rw [List.foldlM_cons, hsetup]
      rfl
    refine ⟨before, _, hbefore, hafter, ?_⟩
    rw [withLevel_eq]
    refine ⟨⟨_, rfl, Handler.beside_not_mem _ _, rfl⟩, ?_, ?_⟩
    · rcases hlevel with ⟨hpromise, hzero⟩ | ⟨rfl, hpromise, hzero⟩
      · exact iff_of_true hpromise hzero
      · have hother : Level.critical ≠ 0 := by decide
        exact iff_of_false (fun h => hother (h.unique hpromise)) fun h => h hzero
    · intro hnone hzero
      rcases hlevel with ⟨-, hnot⟩ | ⟨hcritical, -⟩
      · exact absurd ⟨hnone, hzero⟩ hnot
      · exact hcritical
  · intro env asked hasked
    simp only [← Environment.logLevel?_eq_zero_iff, hasked, Except.ok.injEq]
    cases asked with
    | none => exact iff_of_true rfl (by simp)
    | some l =>
      simp only [setup, hasked, ok_bind, pure_eq, map_ok, withLevel_eq, Except.ok.injEq,
        Option.some.injEq, standardLevel]
      by_cases hl : l = 0
      · subst hl
        decide
      · simp [hl]

/-- A log with a handler that is there twice, a call that gives a level below zero and needs no
variable, and a call that leaves the level to a variable. -/
theorem setups_level_iff_of_warn :
    let handler : Handler := ⟨7, .placed⟩
    let log : Log := ⟨0, [handler, ⟨2, .short⟩, handler]⟩
    let unread : Environment := ⟨[(logLevelVariable, "²")], none⟩
    let warns : Environment := ⟨[(logLevelVariable, " warn\n")], none⟩
    let calls : List Setup := [⟨unread, some (-5)⟩, ⟨warns, none⟩]
    (∀ c ∈ calls, c.IsAccepted) ∧ ¬ warns.AsksForZero ∧
      ∃ before after, log.setups [⟨unread, some (-5)⟩] = .ok before ∧
        log.setups calls = .ok after ∧
        (∃ handler, after.handlers = [handler] ∧ handler ∉ before.handlers ∧
          handler.format = .short) ∧
        (⟨warns, none⟩ : Setup).Promises after.level ∧ after.level = .warning := by
  intro handler log unread warns calls
  have hasked : warns.logLevel? = .ok (some .warning) := by decide +kernel
  have hnonzero : ¬ warns.AsksForZero := by
    rw [← Environment.logLevel?_eq_zero_iff, hasked]
    decide
  have haccepted : ∀ c ∈ calls, c.IsAccepted := by
    intro c hc hnone
    rcases List.mem_cons.mp hc with rfl | hc
    · cases hnone
    · obtain rfl := List.mem_singleton.mp hc
      exact ⟨_, hasked⟩
  obtain ⟨before, after, hbefore, hafter, ⟨h, hhandlers, hnew, hformat⟩, hlevel, -⟩ :=
    (setups_level_iff haccepted log).1 [⟨unread, some (-5)⟩] ⟨warns, none⟩ (List.prefix_refl calls)
  have hpromise := hlevel.mpr fun hzero => hnonzero hzero.2
  have hwarning : after.level = .warning := hpromise.unique (.asked rfl hasked)
  rw [hwarning] at hformat
  exact ⟨haccepted, hnonzero, before, after, hbefore, hafter,
    ⟨h, hhandlers, hnew, hformat⟩, hpromise, hwarning⟩

/-- A variable that asks for the level zero by its name: a call without a level is to leave zero,
and leaves the highest level, unlike a call that gives the level that the variable asks for. -/
theorem setup_of_notSet :
    let env : Environment := ⟨[(logLevelVariable, "NOTSET")], none⟩
    let log : Log := ⟨Level.warning, []⟩
    let levelOf := fun level => Log.level <$> log.setup env level
    env.logLevel? = .ok (some 0) ∧ (⟨env, none⟩ : Setup).Promises 0 ∧
      levelOf none = .ok Level.critical ∧ levelOf (some 0) = .ok 0 ∧
      ¬ ∃ l, levelOf none = .ok l ∧ (⟨env, none⟩ : Setup).Promises l := by
  intro env log levelOf
  have hasked : env.logLevel? = .ok (some 0) := by decide +kernel
  have hpromise : (⟨env, none⟩ : Setup).Promises 0 := .asked rfl hasked
  have hlevel : levelOf none = .ok Level.critical := by
    simp only [levelOf, setup, hasked, ok_bind, pure_eq, map_ok, withLevel_eq]
    rfl
  refine ⟨hasked, hpromise, hlevel, rfl, ?_⟩
  rintro ⟨l, hl, hother⟩
  obtain rfl := Except.ok.inj (hlevel.symm.trans hl)
  exact absurd (hother.unique hpromise) (by decide)

end Log

end LintReport
