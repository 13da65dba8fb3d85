import BedroomLights.Firmware.Step

/-!
# What is pending in the event group

`event_handler` and `wifi_loop` communicate through two bits.  A check of the group takes both, so
what a bit says at any time is whether its event has been handled since the newest check
(`pending_of_state`), and not how often or in which order.
-/

set_option autoImplicit false

open Transition

namespace BedroomLights

/-! ## Occurrences -/

/-- `event_handler` handles an event of this kind. -/
def Handles (event : WifiEvent) (_ : Sys) : Action → Prop
  | .event e => e = event
  | _ => False

/-- `event_handler` handles a `WIFI_EVENT_STA_DISCONNECTED` by trying again. -/
def Retries (cfg : SdkConfig) (s : Sys) (a : Action) : Prop :=
  Handles .wifiEventStaDisconnected s a ∧
    (eventHandler cfg .wifiEventStaDisconnected s.wifi).2.espWifiConnect = true

/-- `event_handler` handles a `WIFI_EVENT_STA_DISCONNECTED` by setting `WIFI_FAIL_BIT`. -/
def Fails (cfg : SdkConfig) (s : Sys) (a : Action) : Prop :=
  Handles .wifiEventStaDisconnected s a ∧
    (eventHandler cfg .wifiEventStaDisconnected s.wifi).2.setBits = wifiFailBit

/-- A call of `wifi_loop` that assigns `v` to `wifi_connection`. -/
def Assigns (v : WifiState) (s : Sys) (a : Action) : Prop :=
  Activates .wifi s a ∧ wifiVerdict s.wifi.sWifiEventGroup = some v

instance (event : WifiEvent) (s : Sys) : (a : Action) → Decidable (Handles event s a)
  | .event e => inferInstanceAs (Decidable (e = event))
  | .loop _ | .dmxTimerIsr _ | .dmxUartIsrTxData _ | .dmxUartIsrTxDone =>
    inferInstanceAs (Decidable False)

instance (cfg : SdkConfig) (s : Sys) (a : Action) : Decidable (Retries cfg s a) :=
  inferInstanceAs (Decidable (_ ∧ _))

instance (cfg : SdkConfig) (s : Sys) (a : Action) : Decidable (Fails cfg s a) :=
  inferInstanceAs (Decidable (_ ∧ _))

instance (v : WifiState) (s : Sys) (a : Action) : Decidable (Assigns v s a) :=
  inferInstanceAs (Decidable (_ ∧ _))

variable {cfg : SdkConfig} {lt : Lifetime} {b : Boot} {act : ℕ → Action} {k : ℕ}
  {s s' : Sys} {a : Action}

theorem Handles.eq {event : WifiEvent} (h : Handles event s a) : a = .event event := by
  cases a with
  | event e => exact congrArg Action.event h
  | _ => exact h.elim

theorem Handles.iff_eq {event event' : WifiEvent} (h : Handles event s a) :
    Handles event' s a ↔ event = event' := by
  rw [h.eq]
  exact Iff.rfl

/-- A disconnect is retried or fails, by the retries that have been used. -/
theorem retries_iff : Retries cfg s a ↔ Handles .wifiEventStaDisconnected s a ∧
    s.wifi.sRetryNum < cfg.configEspMaximumRetry := by
  rw [Retries, eventHandler]
  split_ifs with h <;> simp [h]

theorem fails_iff : Fails cfg s a ↔ Handles .wifiEventStaDisconnected s a ∧
    ¬ s.wifi.sRetryNum < cfg.configEspMaximumRetry := by
  rw [Fails, eventHandler]
  split_ifs with h <;> simp [h, wifiFailBit]

theorem not_handles_of_activates {event : WifiEvent} {τ : Task} (h : Activates τ s a) :
    ¬ Handles event s a := by
  intro hev
  rw [hev.eq] at h
  exact h.1.elim

/-! ## What a step does to the globals of `main/wifi.c` -/

/-- The kinds of step that `main/wifi.c` tells apart. -/
inductive WifiStep (cfg : SdkConfig) (s : Sys) (a : Action) : Wifi → Prop where
  | skip (hev : ∀ event, ¬ Handles event s a) (hc : ¬ Activates .wifi s a) :
    WifiStep cfg s a s.wifi
  | check (hc : Activates .wifi s a) : WifiStep cfg s a (wifiCheck s.wifi)
  | handle (event : WifiEvent) (hev : Handles event s a) :
    WifiStep cfg s a (eventHandler cfg event s.wifi).1

theorem wifiStep_of_step (h : Sys.step cfg lt s a = some s') : WifiStep cfg s a s'.wifi := by
  rw [step_wifi h]
  cases a with
  | loop io =>
    have hev : ∀ event, ¬ Handles event s (.loop io) := fun _ ↦ id
    have hiff : Activates .wifi s (.loop io) ↔ s.pc = .wifiLoop ∧ s.nextWifiUpdate < io.now :=
      Iff.rfl
    simp only [wifiAfter, wifiLoop, periodic]
    by_cases hpc : s.pc = .wifiLoop
    · rw [if_pos hpc]
      split
      · rename_i hlt
        exact .check (hiff.mpr ⟨hpc, hlt⟩)
      · rename_i hlt
        exact .skip hev fun hact ↦ hlt (hiff.mp hact).2
    · rw [if_neg hpc]
      exact .skip hev fun hact ↦ hpc (hiff.mp hact).1
  | event e => exact .handle e rfl
  | _ => exact .skip (fun _ ↦ id) fun hact ↦ hact.1.elim

/-! ## The bits -/

/-- The two bits, for the events handled since the newest check. -/
structure Pending (cfg : SdkConfig) (R : Run Sys Action) (k : ℕ) (s : Sys) : Prop where
  connected : s.wifi.sWifiEventGroup &&& wifiConnectedBit ≠ 0#32 ↔
    Since (R.At (Handles .ipEventStaGotIp)) (R.At (Activates .wifi)) k
  fail : s.wifi.sWifiEventGroup &&& wifiFailBit ≠ 0#32 ↔
    Since (R.At (Fails cfg)) (R.At (Activates .wifi)) k

theorem eventHandler_group (cfg : SdkConfig) (event : WifiEvent) (w : Wifi) :
    (eventHandler cfg event w).1.sWifiEventGroup =
      xEventGroupSetBits w.sWifiEventGroup (eventHandler cfg event w).2.setBits := by
  cases event with
  | wifiEventStaDisconnected => rw [eventHandler]; split_ifs <;> simp [xEventGroupSetBits]
  | _ => simp [eventHandler, xEventGroupSetBits]

/-- A bit after a step: it has been set by the event just handled, or it was set before and no
check has taken it.  `P` is what handling an event that sets it looks like. -/
theorem WifiStep.bit {w : Wifi} (hw : WifiStep cfg s a w) {mask : EventBits}
    (hmask : (wifiConnectedBit ||| wifiFailBit) &&& mask = mask) {P : Prop}
    (hP : ∀ event, Handles event s a →
      (P ↔ (eventHandler cfg event s.wifi).2.setBits &&& mask ≠ 0#32))
    (hno : (∀ event, ¬ Handles event s a) → ¬ P) :
    w.sWifiEventGroup &&& mask ≠ 0#32 ↔
      P ∨ (s.wifi.sWifiEventGroup &&& mask ≠ 0#32 ∧ ¬ Activates .wifi s a) := by
  cases hw with
  | skip hev hc => simp [hno hev, hc]
  | check hc =>
    have hnot : ¬ P := hno fun _ ↦ not_handles_of_activates hc
    have hzero := xEventGroupWaitBits_and s.wifi.sWifiEventGroup hmask
    simp only [hnot, hc, not_true_eq_false, and_false, or_false, iff_false, not_not]
    exact hzero
  | handle event hev =>
    have hc : ¬ Activates .wifi s a := fun hact ↦ not_handles_of_activates hact hev
    rw [eventHandler_group, hP event hev]
    by_cases hset : (eventHandler cfg event s.wifi).2.setBits &&& mask = 0#32
    · rw [xEventGroupSetBits_and_of_disjoint _ hset]
      simp [hset, hc]
    · exact ⟨fun _ ↦ Or.inl hset, fun _ ↦ xEventGroupSetBits_and_ne_zero _ hset⟩

theorem setBits_connected_iff {event : WifiEvent} {w : Wifi} :
    (eventHandler cfg event w).2.setBits &&& wifiConnectedBit ≠ 0#32 ↔
      event = .ipEventStaGotIp := by
  cases event with
  | wifiEventStaDisconnected =>
    rw [eventHandler]
    split_ifs <;> simp [wifiConnectedBit, wifiFailBit]
  | _ => simp [eventHandler, wifiConnectedBit]

theorem setBits_fail_iff {event : WifiEvent} {w : Wifi} :
    (eventHandler cfg event w).2.setBits &&& wifiFailBit ≠ 0#32 ↔
      event = .wifiEventStaDisconnected ∧ ¬ w.sRetryNum < cfg.configEspMaximumRetry := by
  cases event with
  | wifiEventStaDisconnected =>
    rw [eventHandler]
    split_ifs with h <;> simp [h, wifiFailBit]
  | _ => simp [eventHandler, wifiConnectedBit, wifiFailBit]

theorem Pending.step (h : Pending cfg (firmware cfg lt b act) k s)
    (hs : (firmware cfg lt b act).state k = some s)
    (hstep : Sys.step cfg lt s (act k) = some s') :
    Pending cfg (firmware cfg lt b act) (k + 1) s' := by
  have hwifi := wifiStep_of_step hstep
  refine ⟨?_, ?_⟩
  · rw [since_succ_iff, ← h.connected, Run.at_iff hs, Run.at_iff hs]
    refine hwifi.bit (by decide) (fun event hev ↦ ?_) fun hno ↦ hno _
    rw [setBits_connected_iff]
    exact hev.iff_eq
  · rw [since_succ_iff, ← h.fail, Run.at_iff hs, Run.at_iff hs]
    refine hwifi.bit (by decide) (fun event hev ↦ ?_) fun hno hfails ↦ hno _ hfails.1
    rw [setBits_fail_iff, fails_iff]
    exact and_congr_left fun _ ↦ hev.iff_eq

/-- **What is pending**: each bit says whether its event has been handled since the newest check. -/
theorem pending_of_state (h : (firmware cfg lt b act).state k = some s) :
    Pending cfg (firmware cfg lt b act) k s := by
  refine Run.invariant_at (I := Pending cfg (firmware cfg lt b act)) ?_ ?_ h
  · have hwifi : (firmware cfg lt b act).start.wifi = wifiInit := rfl
    refine ⟨?_, ?_⟩ <;> rw [hwifi]
    · exact iff_of_false (by decide) (not_since_zero _ _)
    · exact iff_of_false (by decide) (not_since_zero _ _)
  · exact fun k s s' hs hI hstep ↦ hI.step hs hstep

end BedroomLights
