import BedroomLights.Lights.Wire

/-!
# Do the lights follow the switch?

`app_loop` compares `switch_state` with `prev_switch_state`, but only `app_init` ever assigns the
latter.  So it stays what the switch was at boot, and `app_loop` only ever acts on the *other*
position: it commits that frame, again and again, and never the frame of the boot position.

The driver's buffer therefore holds the frame of the boot position up to the first call of
`app_loop` that sees the other one, and the other frame ever after.  `Following` is the invariant,
and `packet_follows_switch_iff` says for every packet that is started whether it is the right one.
-/

set_option autoImplicit false

open Transition

namespace BedroomLights

/-- The other position. -/
def SwitchState.other : SwitchState → SwitchState
  | .switchOff => .switchOn
  | .switchOn => .switchOff

theorem SwitchState.eq_other_iff {x y : SwitchState} : x = y.other ↔ x ≠ y := by
  cases x <;> cases y <;> decide

/-- A call of `dmx_loop` that starts a packet. -/
def StartsPacket (s : Sys) (a : Action) : Prop :=
  Activates .dmx s a ∧ (dmxSendNum s.lights.driver dmxPacketSize).2 ≠ 0

instance (s : Sys) (a : Action) : Decidable (StartsPacket s a) :=
  inferInstanceAs (Decidable (_ ∧ _))

/-- A call of `app_loop` that sees the switch in another position than at boot. -/
def SeesChange (b : Boot) (s : Sys) (a : Action) : Prop :=
  Calls .appLoop s a ∧ s.lights.switchState ≠ b.level

/-- Before step `k`, some call of `app_loop` has seen the switch in another position than at
boot. -/
def Changed (R : Run Sys Action) (b : Boot) (k : ℕ) : Prop := ∃ j < k, R.At (SeesChange b) j

/-! ## The invariant -/

/-- The state of `app.c` before step `k`. -/
structure Following (R : Run Sys Action) (b : Boot) (k : ℕ) (s : Sys) : Prop where
  prev : s.lights.prevSwitchState = b.level
  /-- The buffer follows the first change and no later one. -/
  changed : Changed R b k → s.lights.driver.data.bytes = frameOf b.level.other
  unchanged : ¬ Changed R b k → s.lights.driver.data.bytes = frameOf b.level
  /-- Only right before `app_loop` is called can there be a first change it has not seen. -/
  seen : s.pc ≠ .appLoop → s.lights.switchState ≠ b.level → Changed R b k

variable {cfg : SdkConfig} {lt : Lifetime} {b : Boot} {act : ℕ → Action} {k : ℕ} {s s' : Sys}

theorem following_boot (R : Run Sys Action) : Following R b 0 (Sys.boot b) := by
  obtain ⟨l, hl, hlevel, heq⟩ := lightsInit_eq b.level
  have hc := committed_commit hl.frame hl.driver.data b.level
  have hlights : (Sys.boot b).lights = lightsInit b.level := rfl
  have hswitch : (lightsInit b.level).switchState = b.level := by
    rw [heq, hc.switchState, hlevel]
  have hnone : ¬ Changed R b 0 := fun ⟨j, hj, _⟩ ↦ absurd hj (Nat.not_lt_zero j)
  refine ⟨?_, fun h ↦ absurd h hnone, fun _ ↦ ?_, fun _ hne ↦ ?_⟩
  · rw [hlights, heq, hc.switchState, hlevel]
  · rw [hlights, heq, hc.data]
  · exact absurd hswitch hne

/-- The driver itself never touches what has been written to it. -/
theorem DriverStep.data {d d' : DmxDriver} (h : DriverStep d d') : d'.data = d.data := by
  cases h with
  | skip => rfl
  | send => rw [dmxSendNum]; split_ifs <;> rfl
  | timer room => rw [dmxTimerIsr]; split_ifs <;> rfl
  | txData room => rw [dmxUartIsrTxData]; split_ifs <;> rfl
  | txDone => rw [dmxUartIsrTxDone]; split_ifs <;> rfl

theorem changed_succ_iff {R : Run Sys Action} (hs : R.state k = some s) :
    Changed R b (k + 1) ↔ Changed R b k ∨ SeesChange b s (R.act k) := by
  rw [Changed, Nat.exists_lt_succ_right, Run.at_iff hs]
  rfl

/-- Where `app_loop` is called next, it stays so until it is called. -/
theorem pc_ne_appLoop_of_step {a : Action} (hstep : Sys.step cfg lt s a = some s')
    (hc : ¬ Calls .appLoop s a) (hpc : s'.pc ≠ .appLoop) : s.pc ≠ .appLoop := by
  intro h
  cases a with
  | loop io => exact hc h
  | _ => exact hpc ((step_pc hstep).trans h)

theorem Following.step (h : Following (firmware cfg lt b act) b k s)
    (hs : (firmware cfg lt b act).state k = some s)
    (hstep : Sys.step cfg lt s (act k) = some s') :
    Following (firmware cfg lt b act) b (k + 1) s' := by
  have hsucc : Changed (firmware cfg lt b act) b (k + 1) ↔
      Changed (firmware cfg lt b act) b k ∨ SeesChange b s (act k) := changed_succ_iff hs
  have hquiet : ¬ Calls .appLoop s (act k) →
      (Changed (firmware cfg lt b act) b (k + 1) ↔ Changed (firmware cfg lt b act) b k) :=
    fun hc ↦ hsucc.trans (or_iff_left fun hsees ↦ hc hsees.1)
  have hlights := step_lights hstep
  generalize hl : s'.lights = l at hlights
  cases hlights with
  | @driver d hd hc =>
    constructor <;> simp only [hl, hquiet hc, hd.data]
    · exact h.prev
    · exact h.changed
    · exact h.unchanged
    · exact fun hpc ↦ h.seen (pc_ne_appLoop_of_step hstep hc hpc)
  | sample level hc =>
    have hnot : ¬ Calls .appLoop s (act k) := fun hc' ↦ absurd (hc.unique hc') (by decide)
    constructor <;> simp only [hl, hquiet hnot]
    · exact h.prev
    · exact h.changed
    · exact h.unchanged
    · obtain ⟨io, ha, hpc⟩ := hc.exists_io
      intro hpc'
      rw [step_pc hstep, ha, pcAfter, hpc] at hpc'
      exact absurd rfl hpc'
  | app hc =>
    have hinv := lightsInv_of_state hs
    rw [appLoop_eq hinv.frame hinv.driver.data, h.prev] at hl
    by_cases heq : s.lights.switchState = b.level
    · -- the position at boot: nothing happens, whatever has happened since
      rw [if_pos heq] at hl
      have hno : ¬ SeesChange b s (act k) := fun hsees ↦ hsees.2 heq
      constructor <;> simp only [hl, hsucc, or_iff_left hno]
      · exact h.prev
      · exact h.changed
      · exact h.unchanged
      · exact fun _ hne ↦ absurd heq hne
    · -- the other position: its frame is committed, whether or not it already is
      rw [if_neg heq] at hl
      have hyes : Changed (firmware cfg lt b act) b (k + 1) := hsucc.mpr (Or.inr ⟨hc, heq⟩)
      have hcommit := committed_commit hinv.frame hinv.driver.data s.lights.switchState
      refine ⟨?_, fun _ ↦ ?_, fun hno ↦ absurd hyes hno, fun _ _ ↦ hyes⟩
      · rw [hl, hcommit.prevSwitchState, h.prev]
      · rw [hl, hcommit.data, SwitchState.eq_other_iff.mpr heq]

theorem following_of_state (h : (firmware cfg lt b act).state k = some s) :
    Following (firmware cfg lt b act) b k s := by
  refine Run.invariant_at (I := Following (firmware cfg lt b act) b) ?_ ?_ h
  · exact following_boot _
  · exact fun k s s' hs hI hstep ↦ hI.step hs hstep

/-- **When the lights follow the switch.**  A packet that `dmx_loop` starts carries the frame of the
last sample, except when the switch is in its boot position and `app_loop` has seen it in the other
one before. -/
theorem packet_follows_switch_iff (cfg : SdkConfig) (lt : Lifetime) (b : Boot) (act : ℕ → Action)
    (k : ℕ) (s : Sys) (h : (firmware cfg lt b act).state k = some s)
    (hstart : StartsPacket s (act k)) :
    s.lights.driver.data.bytes = frameOf s.lights.switchState ↔
      ¬ (s.lights.switchState = b.level ∧
        ∃ j < k, (firmware cfg lt b act).At (SeesChange b) j) := by
  have hF := following_of_state h
  obtain ⟨io, -, hpc⟩ := hstart.1.1.exists_io
  by_cases hch : Changed (firmware cfg lt b act) b k
  · rw [hF.changed hch, frameOf_injective.eq_iff, eq_comm, SwitchState.eq_other_iff]
    exact ⟨fun hne hstuck ↦ hne hstuck.1, fun hno heq ↦ hno ⟨heq, hch⟩⟩
  · have hlevel : s.lights.switchState = b.level := by
      by_contra hne
      refine hch (hF.seen ?_ hne)
      rw [hpc]
      decide
    rw [hF.unchanged hch, hlevel]
    exact ⟨fun _ hstuck ↦ hch hstuck.2, fun _ ↦ rfl⟩

/-- Booted with the switch on, turned off, and on again. -/
def toggledTwice : List Action :=
  pass .switchOff 1 ++ transmit ++ pass .switchOn 10 ++ transmit ++ pass .switchOn 20

theorem packet_follows_switch_iff_of_toggledTwice :
    ∃ s, (runOf .switchOn toggledTwice).state 14 = some s ∧
      (s.lights.driver.data.bytes = frameOf s.lights.switchState ↔
        ¬ (s.lights.switchState = .switchOn ∧
          ∃ j < 14, (runOf .switchOn toggledTwice).At (SeesChange (defaultBoot .switchOn)) j)) := by
  have hrun : (runOf .switchOn toggledTwice).At StartsPacket 14 := by decide +kernel
  obtain ⟨s, hs, hstart⟩ := hrun
  exact ⟨s, hs, packet_follows_switch_iff _ _ _ _ _ s hs hstart⟩

/-- The third packet of that run is dark although the switch is on. -/
theorem not_packet_follows_switch : ¬ ∀ (cfg : SdkConfig) (lt : Lifetime) (b : Boot)
    (act : ℕ → Action) (k : ℕ) (s : Sys), (firmware cfg lt b act).state k = some s →
      StartsPacket s (act k) → s.lights.driver.data.bytes = frameOf s.lights.switchState := by
  intro hall
  have hrun : (runOf .switchOn toggledTwice).At
      (fun s a ↦ StartsPacket s a ∧ s.lights.driver.data.bytes ≠ frameOf s.lights.switchState)
      26 := by decide +kernel
  obtain ⟨s, hs, hstart, hne⟩ := hrun
  exact hne (hall _ _ _ _ _ s hs hstart)

end BedroomLights
