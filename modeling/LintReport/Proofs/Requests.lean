/-
What a run is asked for, and the settings that it gets.

* `World.Accepts` — a command line that is accepted, and what it asks for;
* `RenderArguments.HasCap` — the arguments of such a command line give a cap of at least one, if
  they give one;
* `World.outcome_start` — with an accepted command line a run reads the level of its log, gets its
  settings, and goes on to render the report;
* `World.settings_cases` — what comes of the settings: trouble, a refusal, or settings.

Design notes: what a command line asks for is a relation and not a function, since most command
lines ask for nothing.
-/
import LintReport.CommandLine.Program
import LintReport.Proofs.Refusals

namespace LintReport

open Outcome

/-! ### Requests -/

/-- What a command line asks for that renders a report. -/
structure Request where
  verbosity : Level
  colorMode : Option ColorMode
  arguments : RenderArguments
  report : String

/-- The session of a request. -/
def World.sessionFor (w : World) (verbosity : Level) (colorMode : Option ColorMode) : Session :=
  ⟨verbosity, colorMode, (ColorMode.resolve w.env colorMode).value⟩

/-- Command lines that are accepted: the options before the command do not contradict each
other, and what comes after it can be read. -/
inductive World.Accepts (w : World) (args : List String) : Request → Prop
  | render {g : GlobalArguments} {own : List String} {verbosity : Level} {a : RenderArguments}
      {report : String} (hglobal : GlobalArguments.read w args = .ok g)
      (hrest : g.rest = "render" :: own)
      (hverbosity : Verbosity.ofCounts? g.verbose g.quiet = some verbosity)
      (hown : (w.sessionFor verbosity g.colorMode).readArguments w own = .ok (a, report)) :
      Accepts w args ⟨verbosity, g.colorMode, a, report⟩

/-- Arguments whose cap is at least one, if it is given. -/
def RenderArguments.HasCap (a : RenderArguments) : Prop :=
  a.maxMessages = .null ∨ ∃ n : Int, 1 ≤ n ∧ a.maxMessages = .int n

namespace RenderArguments

variable {tree : FileTree} {a a' : RenderArguments}

theorem one_le_of_readMaxMessages {word : String} {n : Int}
    (h : readMaxMessages word = .ok n) : 1 ≤ n := by
  unfold readMaxMessages at h
  cases hread : Text.Numeral.read word with
  | error e =>
    simp only [hread] at h
    cases h
  | ok n' =>
    simp only [hread] at h
    by_cases hsmall : n' < 1
    · rw [if_pos hsmall] at h
      cases h
    · rw [if_neg hsmall] at h
      cases h
      omega

/-- An option gives a cap of at least one, or leaves the cap as it is. -/
theorem maxMessages_set {key : RenderOption} {value : String}
    (h : a.set tree key value = .ok a') :
    a'.maxMessages = a.maxMessages ∨ ∃ n : Int, 1 ≤ n ∧ a'.maxMessages = .int n := by
  cases key with
  | maxMessages =>
    simp only [set] at h
    cases hread : readMaxMessages value with
    | error e =>
      rw [hread] at h
      cases h
    | ok n =>
      rw [hread] at h
      cases h
      exact .inr ⟨n, one_le_of_readMaxMessages hread, rfl⟩
  | format =>
    simp only [set] at h
    cases hread : Layout.choice.read value with
    | error e =>
      rw [hread] at h
      cases h
    | ok l =>
      rw [hread] at h
      cases h
      exact .inl rfl
  | cwd =>
    obtain ⟨_, -, h⟩ := bind_eq_ok.mp h
    cases h
    exact .inl rfl
  | config =>
    obtain ⟨_, -, h⟩ := bind_eq_ok.mp h
    cases h
    exact .inl rfl
  | noConfig =>
    cases h
    exact .inl rfl
  | summary on =>
    cases h
    exact .inl rfl
  | help =>
    cases h
    exact .inl rfl

theorem hasCap_set {key : RenderOption} {value : String} (ha : a.HasCap)
    (h : a.set tree key value = .ok a') : a'.HasCap := by
  rcases maxMessages_set h with hsame | hcap
  · rwa [HasCap, hsame]
  · exact .inr hcap

/-- The cap that options give is at least one. -/
theorem hasCap_ofParsed {p : Parsed RenderOption} (h : ofParsed tree p = .ok a) : a.HasCap := by
  unfold ofParsed at h
  -- each option leaves the cap a cap, so the invariant carries over the whole list
  have hfold : ∀ (given : List (Given RenderOption)) (b : RenderArguments), b.HasCap →
      given.foldlM (fun a g => a.set tree g.key ((p.value? g.key).getD g.value)) b = .ok a →
      a.HasCap := by
    intro given
    induction given with
    | nil =>
      intro b hb h
      cases h
      exact hb
    | cons g given ih =>
      intro b hb h
      obtain ⟨b', hset, h⟩ := bind_eq_ok.mp h
      exact ih b' (hasCap_set hb hset) h
  exact hfold _ _ (.inl rfl) h

end RenderArguments

theorem Session.hasCap_readArguments {s : Session} {w : World} {own : List String}
    {a : RenderArguments} {report : String} (h : s.readArguments w own = .ok (a, report)) :
    a.HasCap := by
  unfold readArguments at h
  cases hparsed : Switch.parse RenderOption.switches true own with
  | error e =>
    simp only [hparsed] at h
    cases h
  | ok p =>
    simp only [hparsed] at h
    cases hhelp : p.has .help with
    | true =>
      rw [if_pos hhelp] at h
      cases h
    | false =>
      rw [if_neg (by simp [hhelp])] at h
      cases hread : RenderArguments.ofParsed w.tree p with
      | error e =>
        rw [hread] at h
        cases e with
        | refused option reason => cases h
        | nullCharacter => cases h
      | ok b =>
        rw [hread] at h
        cases hrest : p.rest with
        | nil =>
          simp only [hrest] at h
          cases h
        | cons first others =>
          cases others with
          | nil =>
            simp only [hrest] at h
            cases h
            exact RenderArguments.hasCap_ofParsed hread
          | cons second others =>
            simp only [hrest] at h
            cases h

/-- Arguments with a cap, if any, are not refused over any settings. -/
theorem Settings.override_of_hasCap (s : Settings) {a : RenderArguments} (ha : a.HasCap)
    (mode : Option ColorMode) :
    ∃ s', s.override ⟨a.maxMessages, a.layout, mode⟩ = .ok s' := by
  rcases ha with h | ⟨n, hn, h⟩
  · exact ⟨_, by rw [h]; rfl⟩
  · have hread : readMaxMessages "--max-messages" (.int n) = .ok n := by
      have hinteger : integer? (.int n) = some n := rfl
      unfold readMaxMessages
      rw [hinteger]
      exact if_neg (by omega)
    rw [h]
    simp only [override, hread]
    exact ⟨_, rfl⟩

/-! ### Endings -/

/-- What a run ends with that ends early. -/
def Stop.ending : Stop → Ending
  | .help _ => .exited Exit.success.code
  | .misuse .. => .exited UsageError.status
  | .refused r _ => .exited r.exit.code
  | .crashed c => .crashed c

/-- What a run ends with. -/
def endingOf : Except Stop Exit → Ending
  | .ok e => .exited e.code
  | .error stop => stop.ending

theorem World.value_tell (w : World) (stop : Stop) : (w.tell stop).value = stop.ending := by
  cases stop with
  | help c => rfl
  | misuse c e color =>
    simp only [tell]
    split
    · rfl
    · rfl
  | refused r color => rfl
  | crashed c => rfl

theorem World.ending_run (w : World) (args : List String) :
    (w.run args).ending = endingOf (w.start args).outcome := by
  show (w.finish args).value = _
  unfold finish
  rw [Logged.value_bind]
  show Logged.value (match (w.start args).outcome with
    | .ok e => _
    | .error stop => _) = _
  cases (w.start args).outcome with
  | ok e => rfl
  | error stop => exact w.value_tell stop

/-- A run goes on to render the report if the level that its log is asked for can be read. -/
theorem World.outcome_start {w : World} {args : List String} {q : Request}
    (h : w.Accepts args q) :
    (w.start args).outcome = (match w.env.logLevel? with
      | .error e => .error (.crashed (.logLevel e))
      | .ok _ => do
        let s := w.sessionFor q.verbosity q.colorMode
        let settings ← (s.settings w q.arguments).outcome
        (s.renderWith w q.arguments q.report settings).outcome) := by
  cases h with
  | @render g own verbosity a report hglobal hrest hverbosity hown =>
    have hcommand : commands.lookup "render" = some Session.render := rfl
    simp only [start, hglobal, hrest, hcommand, Attempt.outcome_bind, Attempt.outcome_ofExcept,
      ok_bind, GlobalArguments.session, hverbosity]
    cases w.env.logLevel? with
    | error e => rfl
    | ok level =>
      simp only [Attempt.outcome_bind, Attempt.outcome_ofLogged, ok_bind, Attempt.outcome_pure]
      show ((w.sessionFor verbosity g.colorMode).render w own).outcome = _
      simp only [Session.render, hown, Attempt.outcome_bind, Attempt.outcome_ofExcept, ok_bind]

/-! ### Settings -/

/-- The values of the configuration that are refused. -/
def World.Refuses (w : World) (q : Request) (e : Settings.Error) : Prop :=
  Settings.Refuses w.limits w.tree (Path.ofString (Session.directory w q.arguments))
    q.arguments.config q.arguments.noConfig w.env.vars e

/-- Whether the configuration is in trouble on which no value can be told to be wrong. -/
def World.HasUnusable (w : World) (q : Request) : Prop :=
  Settings.Unusable w.limits w.tree (Path.ofString (Session.directory w q.arguments))
    q.arguments.config q.arguments.noConfig

/-- The settings of a request. -/
def World.settingsOf (w : World) (q : Request) : Except Settings.Failure Settings := do
  let base ← (Settings.load w.limits w.tree (Path.ofString (Session.directory w q.arguments))
    q.arguments.config q.arguments.noConfig w.env.vars).outcome
  (base.override ⟨q.arguments.maxMessages, q.arguments.layout, q.colorMode⟩).mapError .refused

/-- What the command makes of the settings: trouble if they are unusable, or else a refusal if a
value is refused. -/
theorem World.settings_cases {w : World} {q : Request} (ha : q.arguments.HasCap) :
    let s := w.sessionFor q.verbosity q.colorMode
    (w.HasUnusable q ∧ ∃ f, (s.settings w q.arguments).outcome = .error (.crashed (.settings f))) ∨
      (¬ w.HasUnusable q ∧ (∃ e, w.Refuses q e) ∧ Fails (w.settingsOf q) ∧
        ∃ e, (s.settings w q.arguments).outcome = .error (s.refuse (.settings e))) ∨
      (¬ w.HasUnusable q ∧ (∀ e, ¬ w.Refuses q e) ∧ ∃ settings,
        w.settingsOf q = .ok settings ∧ (s.settings w q.arguments).outcome = .ok settings) := by
  intro s
  obtain ⟨hunusable, hrefuses, hok⟩ := @Settings.load_cases w.limits w.tree
    (Path.ofString (Session.directory w q.arguments)) q.arguments.config q.arguments.noConfig
    w.env.vars
  by_cases hu : w.HasUnusable q
  · obtain ⟨f, hf⟩ := hunusable hu
    refine .inl ⟨hu, f, ?_⟩
    simp only [Session.settings, Attempt.outcome_bind, Attempt.outcome_adapt, hf]
    rfl
  · by_cases hr : ∃ e, w.Refuses q e
    · obtain ⟨e, he⟩ := hrefuses hu hr
      refine .inr (.inl ⟨hu, hr, ⟨.refused e, ?_⟩, e, ?_⟩)
      · simp only [settingsOf, he, error_bind]
      · simp only [Session.settings, Attempt.outcome_bind, Attempt.outcome_adapt, he]
        rfl
    · have hr : ∀ e, ¬ w.Refuses q e := fun e he => hr ⟨e, he⟩
      obtain ⟨base, hbase⟩ := hok hu hr
      obtain ⟨settings, hsettings⟩ := base.override_of_hasCap ha q.colorMode
      refine .inr (.inr ⟨hu, hr, settings, ?_, ?_⟩)
      · simp only [settingsOf, hbase, ok_bind, hsettings]
        rfl
      · simp only [Session.settings, Attempt.outcome_bind, Attempt.outcome_adapt, hbase]
        show (base.override ⟨q.arguments.maxMessages, q.arguments.layout, q.colorMode⟩).mapError _
          = _
        rw [hsettings]
        rfl

end LintReport
