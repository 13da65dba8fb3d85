import Mathlib.Data.Nat.Count

/-!
# Runs of a machine that may go wrong

A machine here is a function `step : σ → α → Option σ`: from a state and an action of the
environment it computes the next state, or `none` when the action makes it go wrong.  Everything
the environment decides is in the action, so an infinite sequence of actions determines the whole
run, and the finite runs are the prefixes of the infinite ones.

* `Run` packages a machine with a start state and a sequence of actions, and `Run.state k` is the
  state after the first `k` of them.
* `Run.At P k` says that the `k`-th action, taken in the state the run has reached by then, is one
  that `P` describes.  Statements about "every call", "every message", "every event" of a run are
  statements about the indices where some `P` occurs.
* `Run.trace` puts together what the steps put out.
* `Run.invariant` is the induction every safety property goes through: what holds at the start and
  is kept by each step holds in every state reached.  `Run.invariant_at` is the same for a property
  that also speaks about what has happened before, and `Run.invariant_between` for one that speaks
  about what has happened since an index `i`.
* `Run.exists_at_of_change` finds the step that has brought a property about.
* `Run.related` is the induction for two runs side by side.
-/

set_option autoImplicit false

namespace Transition

variable {σ α : Type*}

/-- A machine, the state it starts in and the actions the environment takes. -/
structure Run (σ α : Type*) where
  /-- The machine: `none` is the error branch. -/
  step : σ → α → Option σ
  /-- The state before the first action. -/
  start : σ
  /-- The environment's actions, in order. -/
  act : ℕ → α

namespace Run

variable (R : Run σ α)

/-- The state after `k` actions, or `none` if one of them went wrong. -/
def state : ℕ → Option σ
  | 0 => some R.start
  | k + 1 => (state k).bind fun s ↦ R.step s (R.act k)

@[simp] theorem state_zero : R.state 0 = some R.start := rfl

theorem state_succ (k : ℕ) :
    R.state (k + 1) = (R.state k).bind fun s ↦ R.step s (R.act k) := rfl

variable {R}

theorem state_succ_of {k : ℕ} {s : σ} (h : R.state k = some s) :
    R.state (k + 1) = R.step s (R.act k) := by
  rw [state_succ, h, Option.bind_some]

theorem state_succ_eq_some_iff {k : ℕ} {s' : σ} :
    R.state (k + 1) = some s' ↔ ∃ s, R.state k = some s ∧ R.step s (R.act k) = some s' := by
  rw [state_succ, Option.bind_eq_some_iff]

/-- A run that has reached index `k` has been through every earlier one. -/
theorem exists_state_of_le {j k : ℕ} (hjk : j ≤ k) {s : σ} (h : R.state k = some s) :
    ∃ t, R.state j = some t := by
  induction k generalizing s with
  | zero => exact ⟨s, by rwa [Nat.le_zero.mp hjk]⟩
  | succ k ih =>
    rcases Nat.eq_or_lt_of_le hjk with rfl | hlt
    · exact ⟨s, h⟩
    · obtain ⟨t, ht, -⟩ := state_succ_eq_some_iff.mp h
      exact ih (Nat.le_of_lt_succ hlt) ht

/-! ## Occurrences -/

variable (R)

/-- The `k`-th action, in the state it is taken in, is one that `P` describes. -/
def At (P : σ → α → Prop) (k : ℕ) : Prop := ∃ s, R.state k = some s ∧ P s (R.act k)

variable {R}

theorem at_iff {P : σ → α → Prop} {k : ℕ} {s : σ} (h : R.state k = some s) :
    R.At P k ↔ P s (R.act k) := by
  refine ⟨fun ⟨t, ht, hP⟩ ↦ ?_, fun hP ↦ ⟨s, h, hP⟩⟩
  rw [h, Option.some_inj] at ht
  exact ht ▸ hP

/-- Nothing occurs after a step that has gone wrong. -/
theorem not_at_of_none {P : σ → α → Prop} {k : ℕ} (h : R.state k = none) : ¬ R.At P k := by
  rintro ⟨s, hs, -⟩
  exact absurd (h.symm.trans hs) (by simp)

instance {P : σ → α → Prop} [∀ s a, Decidable (P s a)] (k : ℕ) : Decidable (R.At P k) :=
  match h : R.state k with
  | some _ => decidable_of_iff _ (at_iff h).symm
  | none => isFalse (not_at_of_none h)

/-! ## Traces -/

section Trace

variable {β : Type*} (R) (f : σ → α → List β)

/-- What the first `k` steps put out, in order, `f` being what one step does. -/
def trace : ℕ → List β
  | 0 => []
  | k + 1 => trace k ++ (R.state k).elim [] fun s ↦ f s (R.act k)

variable {R f}

theorem trace_succ_of {k : ℕ} {s : σ} (h : R.state k = some s) :
    R.trace f (k + 1) = R.trace f k ++ f s (R.act k) := by
  rw [trace, h, Option.elim_some]

theorem trace_succ_of_none {k : ℕ} (h : R.state k = none) :
    R.trace f (k + 1) = R.trace f k := by
  rw [trace, h, Option.elim_none, List.append_nil]

/-- What the steps `P` put out once, and no other step does, is in the trace as often as there are
such steps. -/
theorem count_trace [BEq β] [LawfulBEq β] {P : σ → α → Prop} [∀ s a, Decidable (P s a)] {x : β}
    {n : ℕ} (h : ∀ k s, k < n → R.state k = some s →
      (f s (R.act k)).count x = if P s (R.act k) then 1 else 0) :
    (R.trace f n).count x = Nat.count (R.At P) n := by
  induction n with
  | zero => rw [trace, List.count_nil, Nat.count_zero]
  | succ n ih =>
    rw [Nat.count_succ, ← ih fun k s hk ↦ h k s (by omega)]
    cases hs : R.state n with
    | none =>
      rw [trace_succ_of_none hs, if_neg (not_at_of_none hs), Nat.add_zero]
    | some s =>
      rw [trace_succ_of hs, List.count_append, h n s (Nat.lt_succ_self n) hs]
      simp only [at_iff hs]

end Trace

/-! ## Invariants -/

/-- **Induction over a stretch of a run.**  From `i` on, as far as `n`, each step may use that it
lies in the stretch; a property indexed by the position is what "since index `i`" needs. -/
theorem invariant_between {I : ℕ → σ → Prop} {i n : ℕ}
    (base : ∀ s, R.state i = some s → I i s)
    (step : ∀ k s s', i ≤ k → k < n → R.state k = some s → I k s →
      R.step s (R.act k) = some s' → I (k + 1) s')
    (hin : i ≤ n) {s : σ} (h : R.state n = some s) : I n s := by
  induction n, hin using Nat.le_induction generalizing s with
  | base => exact base s h
  | succ n hin ih =>
    obtain ⟨t, ht, hstep⟩ := state_succ_eq_some_iff.mp h
    have hI : I n t := ih (fun k s s' hik hkn ↦ step k s s' hik (by omega)) ht
    exact step n t s hin (Nat.lt_succ_self n) ht hI hstep

/-- **The invariant rule**, for a property of the state and its position in the run. -/
theorem invariant_at {I : ℕ → σ → Prop} (base : I 0 R.start)
    (step : ∀ k s s', R.state k = some s → I k s → R.step s (R.act k) = some s' → I (k + 1) s')
    {k : ℕ} {s : σ} (h : R.state k = some s) : I k s := by
  refine invariant_between (I := I) (i := 0) ?_ ?_ (Nat.zero_le k) h
  · intro s hs
    rw [state_zero, Option.some_inj] at hs
    exact hs ▸ base
  · exact fun k s s' _ _ ↦ step k s s'

/-- **The invariant rule**, for a property of the state alone. -/
theorem invariant {I : σ → Prop} (base : I R.start)
    (step : ∀ s a s', I s → R.step s a = some s' → I s') {k : ℕ} {s : σ}
    (h : R.state k = some s) : I s :=
  invariant_at (I := fun _ ↦ I) base (fun k s s' _ ↦ step s (R.act k) s') h

/-- What does not hold at one end of a stretch and holds at the other has been brought about by one
of its steps. -/
theorem exists_at_of_change {P : σ → α → Prop} (Q : σ → Prop) {i n : ℕ}
    (step : ∀ s a s', R.step s a = some s' → ¬ Q s → Q s' → P s a) (hin : i ≤ n) {s t : σ}
    (hs : R.state i = some s) (hno : ¬ Q s) (ht : R.state n = some t) (hQ : Q t) :
    ∃ j, i ≤ j ∧ j < n ∧ R.At P j := by
  revert hQ
  refine invariant_between (I := fun n t ↦ Q t → ∃ j, i ≤ j ∧ j < n ∧ R.At P j) ?_ ?_ hin ht
  · intro u hu hQ
    rw [hs, Option.some_inj] at hu
    exact absurd (hu ▸ hQ) hno
  · intro k u u' hik _ hu hI hstep hQ
    by_cases hprev : Q u
    · obtain ⟨j, hij, hjk, hP⟩ := hI hprev
      exact ⟨j, hij, hjk.trans (Nat.lt_succ_self k), hP⟩
    · exact ⟨k, hik, Nat.lt_succ_self k, u, hu, step u _ u' hstep hprev hQ⟩

/-- What no step of a stretch changes is the same at both ends of it. -/
theorem eq_of_unchanged {β : Type*} (f : σ → β) {i n : ℕ}
    (step : ∀ k s s', i ≤ k → k < n → R.state k = some s → R.step s (R.act k) = some s' →
      f s' = f s)
    (hin : i ≤ n) {s t : σ} (hs : R.state i = some s) (ht : R.state n = some t) : f t = f s := by
  refine invariant_between (I := fun _ u ↦ f u = f s) ?_ ?_ hin ht
  · intro u hu
    rw [hs, Option.some_inj] at hu
    rw [hu]
  · intro k u u' hik hkn hu hI hstep
    rw [step k u u' hik hkn hu hstep, hI]

/-! ## Two runs -/

section Related

variable {τ β : Type*} {Q : Run τ β} {I : σ → τ → Prop}

/-- **Two runs side by side**: what relates their start states, and is kept by two steps that both
succeed, relates the states that both reach. -/
theorem related (base : I R.start Q.start)
    (step : ∀ k s t s' t', I s t → R.step s (R.act k) = some s' → Q.step t (Q.act k) = some t' →
      I s' t') {k : ℕ} {s : σ} {t : τ} (hs : R.state k = some s) (ht : Q.state k = some t) :
    I s t := by
  induction k generalizing s t with
  | zero =>
    rw [state_zero, Option.some_inj] at hs ht
    exact hs ▸ ht ▸ base
  | succ k ih =>
    obtain ⟨s₀, hs₀, hstep⟩ := state_succ_eq_some_iff.mp hs
    obtain ⟨t₀, ht₀, hstep'⟩ := state_succ_eq_some_iff.mp ht
    exact step k s₀ t₀ s t (ih hs₀ ht₀) hstep hstep'

/-- Two runs whose related states go wrong together. -/
theorem state_eq_none_iff_of_related (base : I R.start Q.start)
    (step : ∀ k s t s' t', I s t → R.step s (R.act k) = some s' → Q.step t (Q.act k) = some t' →
      I s' t')
    (wrong : ∀ k s t, I s t → (R.step s (R.act k) = none ↔ Q.step t (Q.act k) = none)) (k : ℕ) :
    R.state k = none ↔ Q.state k = none := by
  induction k with
  | zero => exact iff_of_false (by simp) (by simp)
  | succ k ih =>
    cases hs : R.state k with
    | none =>
      rw [state_succ, state_succ, hs, ih.mp hs]
      exact iff_of_true rfl rfl
    | some s =>
      cases ht : Q.state k with
      | none => exact absurd (hs.symm.trans (ih.mpr ht)) (by simp)
      | some t =>
        rw [state_succ_of hs, state_succ_of ht]
        exact wrong k s t (related base step hs ht)

end Related

end Run
end Transition
