import BedroomLights.Lights.Follow

/-!
# Is `app_loop` edge-triggered?

`app_loop` commits a frame when `switch_state` differs from `prev_switch_state`, which is the switch
at the call before only as long as that is what it was at boot.  Whenever the switch is in the other
position, every call commits its frame again (`appLoopOps_eq`).  `SeesSame` and `SeesNew` compare a
call with the one before it, `frameOps` are the operations performed so far, and
`edge_triggered_iff` says in which runs `app_loop` acts on changes only.
-/

set_option autoImplicit false

open Transition

namespace BedroomLights

/-- `switch_state` at the newest call of `app_loop` before step `k`, or at `app_init`. -/
def lastSeen (R : Run Sys Action) (b : Boot) : ℕ → SwitchState
  | 0 => b.level
  | k + 1 => (R.state k).elim (lastSeen R b k) fun s ↦
      if Calls .appLoop s (R.act k) then s.lights.switchState else lastSeen R b k

/-- A call of `app_loop` that sees what the one before it has seen. -/
def SeesSame (R : Run Sys Action) (b : Boot) (k : ℕ) : Prop :=
  R.At (fun s a ↦ Calls .appLoop s a ∧ s.lights.switchState = lastSeen R b k) k

/-- A call of `app_loop` that sees something else than the one before it. -/
def SeesNew (R : Run Sys Action) (b : Boot) (k : ℕ) : Prop :=
  R.At (fun s a ↦ Calls .appLoop s a ∧ s.lights.switchState ≠ lastSeen R b k) k

instance (R : Run Sys Action) (b : Boot) (k : ℕ) : Decidable (SeesSame R b k) :=
  inferInstanceAs (Decidable (R.At _ k))

instance (R : Run Sys Action) (b : Boot) (k : ℕ) : Decidable (SeesNew R b k) :=
  inferInstanceAs (Decidable (R.At _ k))

instance (b : Boot) (s : Sys) (a : Action) : Decidable (SeesChange b s a) :=
  inferInstanceAs (Decidable (_ ∧ _))

/-- The operations of a step, as far as `main/app.c` performs any. -/
def stepOps (s : Sys) (a : Action) : List FrameOp :=
  if Calls .appLoop s a then appLoopOps s.lights else []

/-- The operations of `app_init` and of the first `k` steps. -/
def frameOps (R : Run Sys Action) (b : Boot) (k : ℕ) : List FrameOp :=
  appInitOps (lightsBeforeApp b.level) ++ R.trace stepOps k

variable {cfg : SdkConfig} {lt : Lifetime} {b : Boot} {act : ℕ → Action} {k n : ℕ} {s : Sys}

/-! ## One call -/

theorem count_appInitOps (l : Lights) : (appInitOps l).count .dmxSendFrame = 1 := by
  rw [appInitOps]
  split <;> rfl

/-- A call does nothing, or everything that committing a frame takes. -/
theorem appLoopOps_eq (l : Lights) : appLoopOps l =
    if l.switchState = l.prevSwitchState then [] else appInitOps l := by
  rw [appLoopOps, appInitOps]
  cases l.switchState <;> cases l.prevSwitchState <;> rfl

/-- In a run, it does nothing exactly when the switch is where it was at boot. -/
theorem appLoopOps_eq_nil_iff (hs : (firmware cfg lt b act).state k = some s) :
    appLoopOps s.lights = [] ↔ s.lights.switchState = b.level := by
  rw [appLoopOps_eq, (following_of_state hs).prev]
  split_ifs with heq
  · exact iff_of_true rfl heq
  · refine iff_of_false (fun hnil ↦ ?_) heq
    have hone := count_appInitOps s.lights
    rw [hnil] at hone
    exact absurd hone (by decide)

theorem count_stepOps (hs : (firmware cfg lt b act).state k = some s) :
    (stepOps s (act k)).count .dmxSendFrame = if SeesChange b s (act k) then 1 else 0 := by
  have hops := appLoopOps_eq s.lights
  rw [(following_of_state hs).prev] at hops
  rw [stepOps]
  by_cases hc : Calls .appLoop s (act k)
  · by_cases heq : s.lights.switchState = b.level
    · rw [if_pos hc, hops, if_pos heq, if_neg fun h ↦ h.2 heq, List.count_nil]
    · rw [if_pos hc, hops, if_neg heq, if_pos ⟨hc, heq⟩, count_appInitOps]
  · rw [if_neg hc, if_neg fun h ↦ hc h.1, List.count_nil]

/-! ## Runs -/

/-- `dmx_send_frame` is called once by `app_init`, and then whenever `app_loop` sees the switch in
another position than at boot. -/
theorem count_frameOps (cfg : SdkConfig) (lt : Lifetime) (b : Boot) (act : ℕ → Action) (n : ℕ) :
    (frameOps (firmware cfg lt b act) b n).count .dmxSendFrame =
      1 + Nat.count ((firmware cfg lt b act).At (SeesChange b)) n := by
  rw [frameOps, List.count_append, count_appInitOps,
    Run.count_trace fun k s _ hs ↦ count_stepOps hs]

/-- **When `app_loop` is edge-triggered.**  In the first `n` steps of a run, no call that sees what
the one before it has seen performs any operation, and `dmx_send_frame` is called at most once more
than `app_loop` has seen a change, if and only if every call that sees what the one before it has
seen sees the position of the switch at boot. -/
theorem edge_triggered_iff (cfg : SdkConfig) (lt : Lifetime) (b : Boot) (act : ℕ → Action) (n : ℕ) :
    ((∀ k < n, SeesSame (firmware cfg lt b act) b k →
        (firmware cfg lt b act).At (fun s _ ↦ appLoopOps s.lights = []) k) ∧
      (frameOps (firmware cfg lt b act) b n).count .dmxSendFrame ≤
        1 + Nat.count (SeesNew (firmware cfg lt b act) b) n) ↔
      ∀ k < n, SeesSame (firmware cfg lt b act) b k →
        (firmware cfg lt b act).At (fun s _ ↦ s.lights.switchState = b.level) k := by
  refine ⟨?_, ?_⟩
  · rintro ⟨hquiet, -⟩ k hk hsame
    obtain ⟨s, hs, hnil⟩ := hquiet k hk hsame
    exact ⟨s, hs, (appLoopOps_eq_nil_iff hs).mp hnil⟩
  · intro hboot
    refine ⟨?_, ?_⟩
    · intro k hk hsame
      obtain ⟨s, hs, hlevel⟩ := hboot k hk hsame
      exact ⟨s, hs, (appLoopOps_eq_nil_iff hs).mpr hlevel⟩
    · -- a call that sees another position than at boot sees a change
      rw [count_frameOps]
      refine Nat.add_le_add_left (Nat.count_mono_left fun k hk hchange ↦ ?_) 1
      obtain ⟨s, hs, hc, hne⟩ := hchange
      refine ⟨s, hs, hc, fun hlast ↦ ?_⟩
      obtain ⟨t, ht, hlevel⟩ := hboot k hk ⟨s, hs, hc, hlast⟩
      rw [hs, Option.some_inj] at ht
      exact hne (ht ▸ hlevel)

/-- Booted with the switch on, and turned off. -/
def turnedOff : List Action := pass .switchOff 1 ++ pass .switchOff 2

/-- The second `app_loop` of these passes sees nothing new and commits the frame again. -/
theorem not_edge_triggered :
    (¬ ∀ (cfg : SdkConfig) (lt : Lifetime) (b : Boot) (act : ℕ → Action) (k : ℕ),
      SeesSame (firmware cfg lt b act) b k →
        (firmware cfg lt b act).At (fun s _ ↦ appLoopOps s.lights = []) k) ∧
    ¬ ∀ (cfg : SdkConfig) (lt : Lifetime) (b : Boot) (act : ℕ → Action) (n : ℕ),
      (frameOps (firmware cfg lt b act) b n).count .dmxSendFrame ≤
        1 + Nat.count (SeesNew (firmware cfg lt b act) b) n := by
  refine ⟨?_, ?_⟩
  · intro hall
    have hsame : SeesSame (runOf .switchOn turnedOff) (defaultBoot .switchOn) 9 := by
      decide +kernel
    have hops : ¬ (runOf .switchOn turnedOff).At (fun s _ ↦ appLoopOps s.lights = []) 9 := by
      decide +kernel
    exact hops (hall _ _ _ _ 9 hsame)
  · intro hall
    exact absurd (hall defaultConfig .block (defaultBoot .switchOn) (schedule turnedOff) 10)
      (by decide +kernel)

end BedroomLights
