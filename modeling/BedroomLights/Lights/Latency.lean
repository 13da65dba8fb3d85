import BedroomLights.Independence
import BedroomLights.Lights.Follow
import BedroomLights.Tasks

/-!
# How long a change takes to get to the buffer

A switch that is moved away from its boot position and held is sampled by the first call of
`switch_loop` that comes more than `SWITCH_READ_PERIOD` later, if not before, and the first call of
`app_loop` after that has the frame of the new position in the driver's buffer, where it stays
(`buffer_follows_of_held`).  This is as long as the tick counter does not wrap; and it is only this
one change that ever gets there, since `app_loop` does not act on the boot position.
-/

set_option autoImplicit false

open Transition

namespace BedroomLights

/-- The level that a call of the superloop reads, if it reads the pin. -/
def Action.level : Action → SwitchState
  | .loop io => io.level
  | _ => .switchOff

variable {cfg : SdkConfig} {lt : Lifetime} {b : Boot} {act : ℕ → Action} {i q k : ℕ}
  {x : SwitchState} {s s' : Sys} {a : Action}

/-! ## Samples -/

/-- `switch_state` is what the newest activation of `switch_loop` has read. -/
theorem step_switchState (h : Sys.step cfg lt s a = some s') (hinv : LightsInv s.lights) :
    s'.lights.switchState =
      if Activates .switch s a then a.level else s.lights.switchState := by
  rw [step_lightsAfter h]
  cases a with
  | loop io =>
    have hiff : Activates .switch s (.loop io) ↔
        s.pc = .switchLoop ∧ s.nextSwitchRead < io.now := Iff.rfl
    simp only [lightsAfter, hiff]
    cases hpc : s.pc with
    | switchLoop =>
      rw [switchLoop, periodic]
      split_ifs with h₁ h₂ h₂
      · rfl
      · exact absurd ⟨rfl, h₁⟩ h₂
      · exact absurd h₂.2 h₁
      · rfl
    | wifiLoop | lifxLoop => simp
    | dmxLoop =>
      obtain ⟨d, -, heq⟩ := dmxLoop_driverStep cfg io.now s.nextDmxSend s.lights
      simp [heq]
    | appLoop =>
      rw [if_neg fun h ↦ absurd h.1 (by decide)]
      show (appLoop s.lights).switchState = _
      rw [appLoop_eq hinv.frame hinv.driver.data]
      split_ifs
      · rfl
      · exact (committed_commit hinv.frame hinv.driver.data s.lights.switchState).switchState
  | _ => rw [if_neg fun h ↦ h.1.elim]; rfl

/-- From step `i` on, the switch is in one position whenever it is sampled. -/
def HeldFrom (R : Run Sys Action) (x : SwitchState) (i : ℕ) : Prop :=
  ∀ j, i ≤ j → R.At (Calls .switchLoop) j → (R.act j).level = x

/-- A sample of a switch that is held, and what it has become after further ones. -/
theorem switchState_of_held (hheld : HeldFrom (firmware cfg lt b act) x i) (hiq : i ≤ q)
    (hqk : q < k) (hq : (firmware cfg lt b act).At (Activates .switch) q)
    (hk : (firmware cfg lt b act).state k = some s) : s.lights.switchState = x := by
  have hsample : ∀ m u u', i ≤ m → (firmware cfg lt b act).state m = some u →
      Activates .switch u (act m) → Sys.step cfg lt u (act m) = some u' →
        u'.lights.switchState = x := by
    intro m u u' him hu hact hstep
    rw [step_switchState hstep (lightsInv_of_state hu), if_pos hact]
    exact hheld m him ⟨u, hu, hact.1⟩
  refine Run.invariant_between (I := fun _ (s : Sys) ↦ s.lights.switchState = x) ?_ ?_
    (Nat.succ_le_of_lt hqk) hk
  · intro u' hu'
    obtain ⟨u, hu, hact⟩ := hq
    exact hsample q u u' hiq hu hact ((Run.state_succ_of hu).symm.trans hu')
  · intro m u u' hqm _ hu hI hstep
    by_cases hact : Activates .switch u (act m)
    · exact hsample m u u' (by omega) hu hact hstep
    · exact ((step_switchState hstep (lightsInv_of_state hu)).trans (if_neg hact)).trans hI

/-! ## A sample is due -/

/-- Without a wrap, a call that comes more than a period after everything before step `i` activates,
if no call since has. -/
theorem activates_of_late {T : ℕ}
    (hbefore : ∀ j < i, (firmware cfg lt b act).At (Calls .switchLoop) j → (act j).time ≤ T)
    (hnowrap : ∀ j ≤ q, (firmware cfg lt b act).At (Calls .switchLoop) j →
      (act j).time + (switchReadPeriod cfg).toNat < 2 ^ 32)
    (hq : (firmware cfg lt b act).At (Calls .switchLoop) q)
    (hlate : T + (switchReadPeriod cfg).toNat < (act q).time)
    (hnone : NoneIn ((firmware cfg lt b act).At (Activates .switch)) i q) :
    (firmware cfg lt b act).At (Activates .switch) q := by
  obtain ⟨s, hs, hcall⟩ := hq
  refine ⟨s, hs, hcall, ?_⟩
  have hlt := hnowrap q le_rfl ⟨s, hs, hcall⟩
  have hnow : (xTaskGetTickCount (act q).time).toNat = (act q).time := by
    rw [xTaskGetTickCount, BitVec.toNat_ofNat, Nat.mod_eq_of_lt (by omega)]
  rw [firmware_act, BitVec.lt_def, hnow]
  by_cases hex : ∃ j < q, (firmware cfg lt b act).At (Activates .switch) j
  · obtain ⟨j, hjq, hj⟩ := hex
    obtain ⟨m, -, hm⟩ := exists_newest hjq hj
    obtain ⟨u, hu, hact⟩ := hm.holds
    have hmi : m < i := Nat.lt_of_not_le fun him ↦ hnone m him hm.lt hm.holds
    have hmT := hbefore m hmi ⟨u, hu, hact.1⟩
    have hmlt := hnowrap m hm.lt.le ⟨u, hu, hact.1⟩
    have hnext : s.nextUpdate .switch = xTaskGetTickCount (act m).time + switchReadPeriod cfg :=
      nextUpdate_of_noneIn .switch hm.lt hu hs hact hm.none
    rw [hnext, xTaskGetTickCount, BitVec.toNat_add, BitVec.toNat_ofNat]
    omega
  · have hnext : s.nextSwitchRead = 0 := by
      refine Run.eq_of_unchanged Sys.nextSwitchRead ?_ (Nat.zero_le q) (Run.state_zero _) hs
      intro m u u' _ hmq hu hstep
      have hno : ¬ Activates .switch u (act m) := fun hact ↦ hex ⟨m, hmq, u, hu, hact⟩
      exact (step_nextUpdate .switch hstep).trans (if_neg hno)
    show s.nextSwitchRead.toNat < (act q).time
    rw [hnext]
    exact Nat.zero_lt_of_lt hlate

/-- Booted with the switch off; it is turned on after ten ticks. -/
def turnedOn : List Action := pass .switchOff 1 ++ pass .switchOn 10

theorem calls_turnedOn {m : ℕ} :
    (runOf .switchOff turnedOn).At (Calls .switchLoop) m ↔ m % 5 = 3 ∧ m < 10 :=
  calls_schedule_iff (by decide) (by decide +kernel)

end BedroomLights
