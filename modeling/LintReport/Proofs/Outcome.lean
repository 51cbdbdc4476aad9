/-
Results without their events.

* `Outcome.bind_eq_ok`, `Outcome.bind_eq_error` — when a sequence of two steps succeeds, and
  when it fails;
* `Outcome.mapM_eq_ok_iff`, `Outcome.mapM_eq_error_iff` — the same for a step per element;
* `Outcome.mapM_of_isPrefix` — a beginning of the steps gives a beginning of the results;
* `Outcome.Fails` — a result is a failure, and when a sequence of steps is one;
* `Outcome.foldlM_eq_mapM` — steps whose results are only collected;
* `Attempt.outcome_foldlM` and others — the result of an attempt is computed step by step from
  the results of its parts, and never depends on what was noted.
-/
import Mathlib.Data.List.Forall2
import LintReport.Journal

namespace LintReport

namespace Outcome

variable {ε δ α β γ : Type}

@[simp] theorem ok_bind (a : α) (f : α → Except ε β) : (Except.ok a >>= f) = f a := rfl

@[simp] theorem error_bind (e : ε) (f : α → Except ε β) :
    ((Except.error e : Except ε α) >>= f) = .error e := rfl

@[simp] theorem map_ok (f : α → β) (a : α) : f <$> (Except.ok a : Except ε α) = .ok (f a) := rfl

@[simp] theorem pure_eq (a : α) : (pure a : Except ε α) = .ok a := rfl

theorem bind_eq_ok {x : Except ε α} {f : α → Except ε β} {b : β} :
    (x >>= f) = .ok b ↔ ∃ a, x = .ok a ∧ f a = .ok b := by
  cases x with
  | ok a => simp
  | error e => simp

theorem bind_eq_error {x : Except ε α} {f : α → Except ε β} {e : ε} :
    (x >>= f) = .error e ↔ x = .error e ∨ ∃ a, x = .ok a ∧ f a = .error e := by
  cases x with
  | ok a => simp
  | error e' => simp

/-- What is let through under a condition comes out as it is. -/
theorem if_ok_eq_ok {p : Prop} [Decidable p] {a b : α} {e : ε} :
    (if p then Except.ok a else .error e) = .ok b ↔ p ∧ a = b := by
  by_cases h : p
  · simp [h]
  · simp [h]

/-- Two steps avoid a failure that both of them avoid. -/
theorem bind_ne_error {x : Except ε α} {f : α → Except ε β} {e : ε} (hx : x ≠ .error e)
    (hf : ∀ a, f a ≠ .error e) : (x >>= f) ≠ .error e := by
  intro h
  rcases bind_eq_error.mp h with h | ⟨a, -, h⟩
  · exact hx h
  · exact hf a h

theorem map_eq_ok {x : Except ε α} {f : α → β} {b : β} :
    f <$> x = .ok b ↔ ∃ a, x = .ok a ∧ f a = b := by
  cases x with
  | ok a => simp
  | error e => simp

theorem map_eq_error {x : Except ε α} {f : α → β} {e : ε} :
    f <$> x = .error e ↔ x = .error e := by
  cases x with
  | ok a => simp
  | error e' => simp

theorem mapError_eq_ok {x : Except ε α} {f : ε → δ} {a : α} :
    x.mapError f = .ok a ↔ x = .ok a := by
  cases x with
  | ok b => simp [Except.mapError]
  | error e => simp [Except.mapError]

theorem mapError_eq_error {x : Except ε α} {f : ε → δ} {d : δ} :
    x.mapError f = .error d ↔ ∃ e, x = .error e ∧ f e = d := by
  cases x with
  | ok b => simp [Except.mapError]
  | error e => simp [Except.mapError]

/-- Rewording the failure of two steps is rewording the failure of each. -/
theorem mapError_bind (x : Except ε α) (f : α → Except ε β) (g : ε → δ) :
    (x >>= f).mapError g = x.mapError g >>= fun a => (f a).mapError g := by
  cases x with
  | ok a => rfl
  | error e => rfl

/-! ### One step per element -/

/-- Steps over a list succeed with the results of the single steps. -/
theorem mapM_eq_ok_iff {f : α → Except ε β} {xs : List α} {ys : List β} :
    xs.mapM f = .ok ys ↔ List.Forall₂ (fun x y => f x = .ok y) xs ys := by
  induction xs generalizing ys with
  | nil =>
    rw [List.mapM_nil, pure_eq, List.forall₂_nil_left_iff, Except.ok.injEq]
    exact eq_comm
  | cons x xs ih =>
    rw [List.mapM_cons, bind_eq_ok, List.forall₂_cons_left_iff]
    constructor
    · rintro ⟨y, hy, h⟩
      obtain ⟨ys', hys, h⟩ := bind_eq_ok.mp h
      cases h
      exact ⟨y, ys', hy, ih.mp hys, rfl⟩
    · rintro ⟨y, ys', hy, hys, rfl⟩
      exact ⟨y, hy, bind_eq_ok.mpr ⟨ys', ih.mpr hys, rfl⟩⟩

/-- Steps over a list give a result at each place. -/
theorem of_mapM_eq_ok {f : α → Except ε β} {xs : List α} {ys : List β} (h : xs.mapM f = .ok ys) :
    ys.length = xs.length ∧
      ∀ (i : Nat) (x : α) (y : β), xs[i]? = some x → ys[i]? = some y → f x = .ok y := by
  obtain ⟨hlength, hpairs⟩ := List.forall₂_iff_get.mp (mapM_eq_ok_iff.mp h)
  refine ⟨hlength.symm, fun i x y hx hy => ?_⟩
  obtain ⟨hi, rfl⟩ := List.getElem?_eq_some_iff.mp hx
  obtain ⟨hi', rfl⟩ := List.getElem?_eq_some_iff.mp hy
  exact hpairs i hi hi'

/-- Each element of a list has one of the other list that is related to it. -/
theorem exists_of_mem_right {R : α → β → Prop} {xs : List α} {ys : List β}
    (h : List.Forall₂ R xs ys) {y : β} (hy : y ∈ ys) : ∃ x ∈ xs, R x y := by
  induction h with
  | nil => cases hy
  | @cons x y' xs ys hxy hrest ih =>
    rcases List.mem_cons.mp hy with rfl | hy
    · exact ⟨x, List.mem_cons_self, hxy⟩
    · obtain ⟨x', hx', hxy'⟩ := ih hy
      exact ⟨x', List.mem_cons_of_mem x hx', hxy'⟩

/-- Each result of steps over a list is the result of one of them. -/
theorem exists_of_mem_mapM {f : α → Except ε β} {xs : List α} {ys : List β}
    (h : xs.mapM f = .ok ys) {y : β} (hy : y ∈ ys) : ∃ x ∈ xs, f x = .ok y :=
  exists_of_mem_right (mapM_eq_ok_iff.mp h) hy

/-- What is read back off each result gives the list of the steps again. -/
theorem map_of_mapM_eq_ok {f : α → Except ε β} {g : β → α} {xs : List α} {ys : List β}
    (hback : ∀ x y, f x = .ok y → g y = x) (h : xs.mapM f = .ok ys) : ys.map g = xs := by
  have hpairs := mapM_eq_ok_iff.mp h
  clear h
  induction hpairs with
  | nil => rfl
  | cons hxy hrest ih => rw [List.map_cons, hback _ _ hxy, ih]

/-- Steps over the beginning of a list give the beginning of the results. -/
theorem mapM_of_isPrefix {f : α → Except ε β} {xs xs' : List α} {ys' : List β}
    (hxs : xs <+: xs') (h : xs'.mapM f = .ok ys') : ∃ ys, xs.mapM f = .ok ys ∧ ys <+: ys' := by
  obtain ⟨rest, rfl⟩ := hxs
  rw [List.mapM_append] at h
  obtain ⟨ys, hys, h⟩ := bind_eq_ok.mp h
  obtain ⟨others, -, h⟩ := bind_eq_ok.mp h
  cases h
  exact ⟨ys, hys, List.prefix_append ys others⟩

/-- The first element of a kind, where all before it are of another kind, is the head of a list,
or else it is in the tail. -/
theorem exists_first_cons {before : α → Prop} {found : α → Prop} {x : α} {xs : List α} :
    (∃ as y bs, x :: xs = as ++ y :: bs ∧ (∀ a ∈ as, before a) ∧ found y)
      ↔ found x ∨ before x ∧ ∃ as y bs, xs = as ++ y :: bs ∧ (∀ a ∈ as, before a) ∧ found y := by
  constructor
  · rintro ⟨as, y, bs, h, has, hy⟩
    cases as with
    | nil =>
      obtain ⟨rfl, rfl⟩ := List.cons.inj h
      exact .inl hy
    | cons a as =>
      obtain ⟨rfl, rfl⟩ := List.cons.inj h
      obtain ⟨ha, has⟩ := List.forall_mem_cons.mp has
      exact .inr ⟨ha, as, y, bs, rfl, has, hy⟩
  · rintro (hx | ⟨hx, as, y, bs, rfl, has, hy⟩)
    · exact ⟨[], x, xs, rfl, by simp, hx⟩
    · exact ⟨x :: as, y, bs, rfl, List.forall_mem_cons.mpr ⟨hx, has⟩, hy⟩

/-- A fold whose steps only collect results is the fold of all results. -/
theorem foldlM_eq_mapM (f : α → Except ε β) (add : β → γ → γ) (start : γ) (xs : List α) :
    xs.foldlM (fun c x => do return add (← f x) c) start
      = (fun ys => ys.foldl (fun c y => add y c) start) <$> xs.mapM f := by
  induction xs generalizing start with
  | nil => rfl
  | cons x xs ih =>
    rw [List.foldlM_cons, List.mapM_cons]
    cases hx : f x with
    | error e => rfl
    | ok y =>
      rw [ok_bind, ok_bind, pure_eq, ok_bind, ih]
      cases hrest : xs.mapM f with
      | error e => rfl
      | ok ys => rfl

/-! ### Failing -/

/-- A result is a failure, whatever its reason. -/
def Fails (x : Except ε α) : Prop := ∃ e, x = .error e

@[simp] theorem fails_error (e : ε) : Fails (.error e : Except ε α) := ⟨e, rfl⟩

@[simp] theorem not_fails_ok (a : α) : ¬ Fails (.ok a : Except ε α) := by
  rintro ⟨e, h⟩
  cases h

theorem not_fails_iff {x : Except ε α} : ¬ Fails x ↔ ∃ a, x = .ok a := by
  cases x with
  | ok a => simp
  | error e => simp

/-- Two steps fail if the first one does, or else the second one. -/
theorem fails_bind {x : Except ε α} {f : α → Except ε β} :
    Fails (x >>= f) ↔ Fails x ∨ ∃ a, x = .ok a ∧ Fails (f a) := by
  cases x with
  | ok a => simp
  | error e => simp

@[simp] theorem fails_map {x : Except ε α} {f : α → β} : Fails (f <$> x) ↔ Fails x := by
  cases x with
  | ok a => simp
  | error e => simp

/-- Steps over a list fail if one of them does. -/
theorem fails_mapM {f : α → Except ε β} {xs : List α} :
    Fails (xs.mapM f) ↔ ∃ x ∈ xs, Fails (f x) := by
  induction xs with
  | nil => simp
  | cons x xs ih =>
    rw [List.mapM_cons, List.exists_mem_cons_iff]
    cases hx : f x with
    | error e => simp
    | ok y =>
      rw [ok_bind, fails_bind, ih]
      simp

/-- Steps over a list fail for the reason of the first one that fails. -/
theorem mapM_eq_error_iff {f : α → Except ε β} {xs : List α} {e : ε} :
    xs.mapM f = .error e
      ↔ ∃ as x bs, xs = as ++ x :: bs ∧ (∀ a ∈ as, ¬ Fails (f a)) ∧ f x = .error e := by
  induction xs with
  | nil => simp
  | cons x xs ih =>
    rw [List.mapM_cons, exists_first_cons, ← ih]
    cases hx : f x with
    | error e' => simp
    | ok y =>
      rw [ok_bind, bind_eq_error]
      simp

/-- A step on an optional value fails if there is a value on which it does. -/
theorem fails_optionMapM {f : α → Except ε β} {x : Option α} :
    Fails (x.mapM f) ↔ ∃ a, x = some a ∧ Fails (f a) := by
  cases x with
  | none =>
    show Fails (.ok none) ↔ _
    simp
  | some a =>
    show Fails (some <$> f a) ↔ _
    simp

theorem optionMapM_eq_error {f : α → Except ε β} {x : Option α} {e : ε} :
    x.mapM f = .error e ↔ ∃ a, x = some a ∧ f a = .error e := by
  cases x with
  | none =>
    show (.ok none : Except ε (Option β)) = .error e ↔ _
    simp
  | some a =>
    show some <$> f a = .error e ↔ _
    simp [map_eq_error]

theorem optionMapM_eq_ok {f : α → Except ε β} {x : Option α} {y : Option β} :
    x.mapM f = .ok y ↔ Option.Rel (fun a b => f a = .ok b) x y := by
  cases x with
  | none =>
    show (.ok none : Except ε (Option β)) = .ok y ↔ _
    cases y with
    | none => exact iff_of_true rfl .none
    | some b => exact iff_of_false (by simp) (by rintro ⟨⟩)
  | some a =>
    show some <$> f a = .ok y ↔ _
    rw [map_eq_ok]
    constructor
    · rintro ⟨b, hb, rfl⟩
      exact .some hb
    · rintro ⟨hb⟩
      exact ⟨_, hb, rfl⟩

end Outcome

namespace Attempt

variable {ε δ α β : Type}

@[simp] theorem outcome_throw (e : ε) : (throw e : Attempt ε α).outcome = .error e := rfl

@[simp] theorem outcome_map (f : α → β) (x : Attempt ε α) :
    (f <$> x).outcome = f <$> x.outcome := by
  have h : f <$> x = x >>= fun a => pure (f a) := (bind_pure_comp f x).symm
  rw [h, outcome_bind]
  cases x.outcome with
  | ok a => rfl
  | error e => rfl

@[simp] theorem outcome_adapt (f : ε → δ) (x : Attempt ε α) :
    Attempt.outcome (ExceptT.adapt f x : Attempt δ α) = x.outcome.mapError f := by
  show (x.run.value).mapError f = _
  rfl

/-- An attempt inside of another one, whose failure is looked at. -/
@[simp] theorem outcome_ofLogged_run (x : Attempt ε α) :
    (ofLogged x.run : Attempt δ (Except ε α)).outcome = .ok x.outcome := rfl

@[simp] theorem outcome_foldlM (f : β → α → Attempt ε β) (start : β) (xs : List α) :
    (xs.foldlM f start).outcome = xs.foldlM (fun b x => (f b x).outcome) start := by
  induction xs generalizing start with
  | nil => rfl
  | cons x xs ih =>
    rw [List.foldlM_cons, List.foldlM_cons, outcome_bind]
    congr 1
    funext y
    exact ih y

@[simp] theorem outcome_mapM (f : α → Attempt ε β) (xs : List α) :
    (xs.mapM f).outcome = xs.mapM fun x => (f x).outcome := by
  induction xs with
  | nil => rfl
  | cons x xs ih =>
    rw [List.mapM_cons, List.mapM_cons, outcome_bind]
    congr 1
    funext y
    rw [outcome_bind, ih]
    rfl

@[simp] theorem outcome_optionMapM (f : α → Attempt ε β) (x : Option α) :
    (x.mapM f).outcome = x.mapM fun a => (f a).outcome := by
  cases x with
  | none => rfl
  | some a => exact outcome_map some (f a)

end Attempt

end LintReport
