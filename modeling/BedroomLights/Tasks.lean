import BedroomLights.Firmware.Step

/-!
# The periodic tasks and the wrap of the tick counter

`dmx_loop`, `switch_loop` and `wifi_loop` set a deadline `now + PERIOD` and wait for
`now > *next_update`.  Both sides wrap at `2 ^ 32`, each at its own time, so the comparison is
wrong from the moment one of them has wrapped until the other one has.

`taskClock` makes each of the three tasks of a run a `Clock.Rearming`, and the library then says
when a call that is due activates, and when one that is early does not.  The worst deadline is the
last value before the wrap, which nothing is greater than: a task that has set it never runs again
(`starved`).  A deadline that has itself wrapped is the other way round: every call activates until
the counter wraps too (`activations_spaced_iff`).
-/

set_option autoImplicit false

open Transition Clock

namespace BedroomLights

variable {cfg : SdkConfig} {lt : Lifetime} {b : Boot} {act : ℕ → Action}

/-- From one activation of a task to its next call, nothing else sets its deadline. -/
theorem nextUpdate_of_noneIn (τ : Task) {i k : ℕ} (hik : i < k) {s t : Sys}
    (hs : (firmware cfg lt b act).state i = some s)
    (ht : (firmware cfg lt b act).state k = some t) (hi : Activates τ s (act i))
    (hnone : NoneIn ((firmware cfg lt b act).At (Activates τ)) (i + 1) k) :
    t.nextUpdate τ = xTaskGetTickCount (act i).time + τ.period cfg := by
  obtain ⟨s', hs'⟩ := Run.exists_state_of_le (Nat.succ_le_of_lt hik) ht
  have hstep : Sys.step cfg lt s (act i) = some s' := (Run.state_succ_of hs).symm.trans hs'
  have hset : s'.nextUpdate τ = xTaskGetTickCount (act i).time + τ.period cfg := by
    rw [step_nextUpdate τ hstep, if_pos hi]
  rw [← hset]
  refine Run.eq_of_unchanged (Sys.nextUpdate · τ) ?_ (Nat.succ_le_of_lt hik) hs' ht
  intro m u u' him hmk hu hstep'
  rw [step_nextUpdate τ hstep', if_neg fun h ↦ hnone m him hmk ⟨u, hu, h⟩]

/-- The deadline that a task has before step `k` of a run. -/
def deadline (R : Run Sys Action) (τ : Task) (k : ℕ) : TickType :=
  (R.state k).elim 0 fun s ↦ s.nextUpdate τ

theorem deadline_eq {R : Run Sys Action} {τ : Task} {k : ℕ} {s : Sys} (h : R.state k = some s) :
    deadline R τ k = s.nextUpdate τ := by
  rw [deadline, h, Option.elim_some]

theorem activates_iff {R : Run Sys Action} {τ : Task} {k : ℕ} :
    R.At (Activates τ) k ↔
      R.At (Calls τ.call) k ∧ deadline R τ k < BitVec.ofNat 32 (R.act k).time := by
  refine ⟨?_, ?_⟩
  · rintro ⟨s, hs, hcalls, hlt⟩
    exact ⟨⟨s, hs, hcalls⟩, by rwa [deadline_eq hs]⟩
  · rintro ⟨⟨s, hs, hcalls⟩, hlt⟩
    rw [deadline_eq hs] at hlt
    exact ⟨s, hs, hcalls, hlt⟩

/-- A periodic task of a run, as a task on a clock of 32 bits. -/
def taskClock (cfg : SdkConfig) (lt : Lifetime) (b : Boot) (act : ℕ → Action) (τ : Task) :
    Rearming 32 where
  period := (τ.period cfg).toNat
  time k := (act k).time
  Calls := (firmware cfg lt b act).At (Calls τ.call)
  next := deadline (firmware cfg lt b act) τ
  armed := by
    intro i k hnew hcalls
    obtain ⟨t, ht, -⟩ := hcalls
    obtain ⟨s, hs, hi⟩ := activates_iff.mpr hnew.holds
    rw [deadline_eq ht, nextUpdate_of_noneIn τ hnew.lt hs ht hi
      (fun m him hmk h ↦ hnew.none m him hmk (activates_iff.mp h)), xTaskGetTickCount,
      BitVec.ofNat_add, BitVec.ofNat_toNat, BitVec.setWidth_eq]

/-- **When no task is starved.**  In the first `n` steps of a run that calls a task at least one and
at most `G` ticks after its previous call, every call that is due activates if and only if the tick
counter never wraps between a deadline and the call that is due for it. -/
theorem due_calls_activate_iff (cfg : SdkConfig) (lt : Lifetime) (b : Boot) (act : ℕ → Action)
    (τ : Task) (G : ℕ) (hG : (taskClock cfg lt b act τ).Cadence G)
    (hlt : G + (τ.period cfg).toNat < 2 ^ 32) (n : ℕ) :
    (∀ i k, k < n → (taskClock cfg lt b act τ).Due i k →
        (firmware cfg lt b act).At (Activates τ) k) ↔
      ∀ i k, k < n → (taskClock cfg lt b act τ).Due i k →
        ((act i).time + (τ.period cfg).toNat) / 2 ^ 32 = (act k).time / 2 ^ 32 := by
  simp only [activates_iff]
  exact Rearming.all_due_activate_iff hG hlt n

/-- Three passes.  The second one sends a packet and sets the next deadline to the last value before
the wrap, and the third one comes ten ticks later, after the wrap. -/
def wrappingPasses : List Action :=
  pass .switchOff 1 ++ pass .switchOff (2 ^ 32 - 4) ++ pass .switchOff (2 ^ 32 + 6)

/-- `dmx_loop` in these passes. -/
abbrev wrappingClock : Rearming 32 :=
  taskClock defaultConfig .block (defaultBoot .switchOff) (schedule wrappingPasses) .dmx

theorem calls_wrappingPasses {k : ℕ} : wrappingClock.Calls k ↔ k % 5 = 2 ∧ k < 15 :=
  calls_schedule_iff (by decide) (by decide +kernel)

theorem cadence_wrappingPasses : wrappingClock.Cadence (2 ^ 32 - 5) := by
  intro p k hp hk
  have hnext : k = p + 5 := hp.eq_add_of_mod (fun _ ↦ calls_wrappingPasses) hk
  have htimes : ∀ m < 10, m % 5 = 2 →
      (schedule wrappingPasses m).time + 1 ≤ (schedule wrappingPasses (m + 5)).time ∧
        (schedule wrappingPasses (m + 5)).time ≤
          (schedule wrappingPasses m).time + (2 ^ 32 - 5) := by
    decide +kernel
  obtain ⟨-, hk15⟩ := calls_wrappingPasses.mp hk
  rw [hnext]
  exact htimes p (by omega) (calls_wrappingPasses.mp hp.holds).1

theorem due_calls_activate_iff_of_wrappingPasses :
    (∀ i k, k < 12 → wrappingClock.Due i k →
        (runOf .switchOff wrappingPasses).At (Activates .dmx) k) ↔
      ∀ i k, k < 12 → wrappingClock.Due i k →
        ((schedule wrappingPasses i).time + 3) / 2 ^ 32 =
          (schedule wrappingPasses k).time / 2 ^ 32 :=
  due_calls_activate_iff _ _ _ _ .dmx (2 ^ 32 - 5) cadence_wrappingPasses (by decide) 12

/-- The third call of `dmx_loop` in these passes is due and does nothing. -/
theorem not_due_calls_activate : ¬ ∀ (cfg : SdkConfig) (lt : Lifetime) (b : Boot)
    (act : ℕ → Action) (τ : Task) (G : ℕ), (taskClock cfg lt b act τ).Cadence G →
      G + (τ.period cfg).toNat < 2 ^ 32 → ∀ i k, (taskClock cfg lt b act τ).Due i k →
        (firmware cfg lt b act).At (Activates τ) k := by
  intro hall
  have h7 : (runOf .switchOff wrappingPasses).At (Activates .dmx) 7 := by decide +kernel
  have hno : ∀ k < 13, 7 < k → ¬ (runOf .switchOff wrappingPasses).At (Activates .dmx) k := by
    decide +kernel
  refine hno 12 (by decide) (by decide)
    (hall defaultConfig .block _ _ .dmx _ cadence_wrappingPasses (by decide) 7 12 ?_)
  refine ⟨⟨by decide, activates_iff.mp h7, ?_⟩, calls_wrappingPasses.mpr (by decide), ?_⟩
  · exact fun m hm hm' hact ↦ hno m (by omega) (by omega) (activates_iff.mpr hact)
  · decide +kernel

/-- **A task that sets its deadline to the last value of the counter never runs again.** -/
theorem starved (cfg : SdkConfig) (lt : Lifetime) (b : Boot) (act : ℕ → Action) (τ : Task) (i : ℕ)
    (h : (firmware cfg lt b act).At (fun s _ ↦ s.nextUpdate τ = BitVec.allOnes 32) i) (k : ℕ)
    (hik : i ≤ k) : ¬ (firmware cfg lt b act).At (Activates τ) k := by
  obtain ⟨s, hs, hmax⟩ := h
  have hno : ∀ {u : Sys} {a : Action}, u.nextUpdate τ = BitVec.allOnes 32 → ¬ Activates τ u a := by
    intro u a hu hact
    rw [Activates, hu, BitVec.lt_def, BitVec.toNat_allOnes] at hact
    have := (xTaskGetTickCount a.time).isLt
    omega
  rintro ⟨t, ht, hact⟩
  refine hno ?_ hact
  refine Run.invariant_between (I := fun _ u ↦ u.nextUpdate τ = BitVec.allOnes 32) ?_ ?_ hik ht
  · intro u hu
    rw [hs, Option.some_inj] at hu
    exact hu ▸ hmax
  · intro m u u' _ _ _ hu hstep
    rw [step_nextUpdate τ hstep, if_neg (hno hu), hu]

/-! ## The rate of the tasks -/

/-- **When no task runs too often.**  In the first `n` steps of a run in which real time goes on
from call to call, any two consecutive activations of a task are more than its period apart if and
only if the tick counter never wraps between a call that is early and its deadline. -/
theorem activations_spaced_iff (cfg : SdkConfig) (lt : Lifetime) (b : Boot) (act : ℕ → Action)
    (τ : Task) (G : ℕ) (hG : (taskClock cfg lt b act τ).Cadence G) (n : ℕ) :
    (∀ i k, k < n → Newest ((firmware cfg lt b act).At (Activates τ)) k i →
        (firmware cfg lt b act).At (Activates τ) k →
        (act i).time + (τ.period cfg).toNat < (act k).time) ↔
      ∀ i k, k < n → (taskClock cfg lt b act τ).Early i k →
        (act k).time / 2 ^ 32 = ((act i).time + (τ.period cfg).toNat) / 2 ^ 32 := by
  have hact : (firmware cfg lt b act).At (Activates τ) = (taskClock cfg lt b act τ).Activates :=
    funext fun _ ↦ propext activates_iff
  rw [hact]
  exact Rearming.all_spaced_iff hG (τ.period cfg).isLt n

/-- Four passes less than `2 ^ 31` ticks apart.  The third one sends a packet and sets a deadline
that has wrapped to zero, and the fourth one comes one tick later, before the counter wraps. -/
def hastyPasses : List Action :=
  pass .switchOff 1 ++ pass .switchOff (2 ^ 31) ++ pass .switchOff (2 ^ 32 - 3) ++
    pass .switchOff (2 ^ 32 - 2)

/-- `dmx_loop` in these passes. -/
abbrev hastyClock : Rearming 32 :=
  taskClock defaultConfig .block (defaultBoot .switchOff) (schedule hastyPasses) .dmx

theorem calls_hastyPasses {k : ℕ} : hastyClock.Calls k ↔ k % 5 = 2 ∧ k < 20 :=
  calls_schedule_iff (by decide) (by decide +kernel)

theorem cadence_hastyPasses : hastyClock.Cadence (2 ^ 31 - 1) := by
  intro p k hp hk
  have hnext : k = p + 5 := hp.eq_add_of_mod (fun _ ↦ calls_hastyPasses) hk
  have htimes : ∀ m < 15, m % 5 = 2 →
      (schedule hastyPasses m).time + 1 ≤ (schedule hastyPasses (m + 5)).time ∧
        (schedule hastyPasses (m + 5)).time ≤ (schedule hastyPasses m).time + (2 ^ 31 - 1) := by
    decide +kernel
  obtain ⟨-, hk20⟩ := calls_hastyPasses.mp hk
  rw [hnext]
  exact htimes p (by omega) (calls_hastyPasses.mp hp.holds).1

theorem activations_spaced_iff_of_hastyPasses :
    (∀ i k, k < 17 → Newest ((runOf .switchOff hastyPasses).At (Activates .dmx)) k i →
        (runOf .switchOff hastyPasses).At (Activates .dmx) k →
        (schedule hastyPasses i).time + 3 < (schedule hastyPasses k).time) ↔
      ∀ i k, k < 17 → hastyClock.Early i k →
        (schedule hastyPasses k).time / 2 ^ 32 =
          ((schedule hastyPasses i).time + 3) / 2 ^ 32 :=
  activations_spaced_iff _ _ _ _ .dmx (2 ^ 31 - 1) cadence_hastyPasses 17

/-- The fourth call of `dmx_loop` in these passes sends a packet one tick after the third. -/
theorem not_activations_spaced : ¬ ∀ (cfg : SdkConfig) (lt : Lifetime) (b : Boot)
    (act : ℕ → Action) (τ : Task), (taskClock cfg lt b act τ).Cadence (2 ^ 31 - 1) →
      ∀ i k, Newest ((firmware cfg lt b act).At (Activates τ)) k i →
        (firmware cfg lt b act).At (Activates τ) k →
        (act i).time + (τ.period cfg).toNat < (act k).time := by
  intro hall
  have h12 : (runOf .switchOff hastyPasses).At (Activates .dmx) 12 := by decide +kernel
  have h17 : (runOf .switchOff hastyPasses).At (Activates .dmx) 17 := by decide +kernel
  have hnone : ∀ m < 17, 12 < m → ¬ (runOf .switchOff hastyPasses).At (Activates .dmx) m := by
    decide +kernel
  have hspaced := hall _ _ _ _ .dmx cadence_hastyPasses 12 17
    ⟨by decide, h12, fun m hm hm17 ↦ hnone m hm17 hm⟩ h17
  exact absurd hspaced (by decide)

end BedroomLights
