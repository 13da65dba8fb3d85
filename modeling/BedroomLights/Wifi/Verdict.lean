import BedroomLights.Wifi.Pending

/-!
# Is `wifi_connection` the newest verdict?

A check of the event group sees which of the two events have been handled since the check before,
and when both have been it takes the connection for the newer one.  That is right unless the newest
status event is a failure that was handled after a `GOT_IP` of the same interval between checks; and
then both bits are cleared, so that no later check corrects it until there is another status event.

`Settled` is the invariant: once nothing is pending, `wifi_connection` says of the newest status
event that it was a `GOT_IP`, or that one had been pending when it came.
-/

set_option autoImplicit false

open Transition

namespace BedroomLights

/-- A status event: `IP_EVENT_STA_GOT_IP`, or a disconnect that sets `WIFI_FAIL_BIT`. -/
def StatusEvent (cfg : SdkConfig) (s : Sys) (a : Action) : Prop :=
  Handles .ipEventStaGotIp s a ∨ Fails cfg s a

instance (cfg : SdkConfig) (s : Sys) (a : Action) : Decidable (StatusEvent cfg s a) :=
  inferInstanceAs (Decidable (_ ∨ _))

variable {cfg : SdkConfig} {lt : Lifetime} {b : Boot} {act : ℕ → Action} {R : Run Sys Action}
  {j k : ℕ} {s s' : Sys} {a : Action}

theorem StatusEvent.not_activates (h : StatusEvent cfg s a) (τ : Task) : ¬ Activates τ s a :=
  fun hact ↦ h.elim (not_handles_of_activates hact)
    fun hfails ↦ not_handles_of_activates hact hfails.1

theorem at_statusEvent_iff : R.At (StatusEvent cfg) k ↔
    R.At (Handles .ipEventStaGotIp) k ∨ R.At (Fails cfg) k := by
  refine ⟨?_, ?_⟩
  · rintro ⟨s, hs, hgot | hfails⟩
    · exact Or.inl ⟨s, hs, hgot⟩
    · exact Or.inr ⟨s, hs, hfails⟩
  · rintro (⟨s, hs, hgot⟩ | ⟨s, hs, hfails⟩)
    · exact ⟨s, hs, Or.inl hgot⟩
    · exact ⟨s, hs, Or.inr hfails⟩

/-- No event is both kinds of status event. -/
theorem not_gotIp_of_fails (h : R.At (Fails cfg) k) : ¬ R.At (Handles .ipEventStaGotIp) k := by
  obtain ⟨s, hs, hfails, -⟩ := h
  rw [Run.at_iff hs, hfails.iff_eq]
  decide

/-! ## What a check assigns -/

theorem wifiVerdict_of_connected {bits : EventBits} (h : bits &&& wifiConnectedBit ≠ 0#32) :
    wifiVerdict bits = some .wifiConnected := if_pos h

theorem wifiVerdict_eq_disconnected_iff {bits : EventBits} :
    wifiVerdict bits = some .wifiDisconnected ↔
      ¬ bits &&& wifiConnectedBit ≠ 0#32 ∧ bits &&& wifiFailBit ≠ 0#32 := by
  rw [wifiVerdict]
  split_ifs with hc hf
  · simp [hc]
  · simp [hc, hf]
  · simp [hc, hf]

theorem wifiVerdict_of_none {bits : EventBits} (hc : ¬ bits &&& wifiConnectedBit ≠ 0#32)
    (hf : ¬ bits &&& wifiFailBit ≠ 0#32) : wifiVerdict bits = none := by
  rw [wifiVerdict, if_neg hc, if_neg hf]

theorem WifiStep.connection_of_check {w : Wifi} (h : WifiStep cfg s a w)
    (hc : Activates .wifi s a) : w.wifiConnection =
      (wifiVerdict s.wifi.sWifiEventGroup).getD s.wifi.wifiConnection := by
  cases h with
  | skip hev hno => exact absurd hc hno
  | check => rfl
  | handle event hev => exact absurd hev (not_handles_of_activates hc)

theorem WifiStep.connection_of_not_check {w : Wifi} (h : WifiStep cfg s a w)
    (hc : ¬ Activates .wifi s a) : w.wifiConnection = s.wifi.wifiConnection := by
  cases h with
  | skip => rfl
  | check hcheck => exact absurd hcheck hc
  | handle event hev =>
    cases event with
    | wifiEventStaDisconnected => rw [eventHandler]; split_ifs <;> rfl
    | _ => rfl

/-! ## The invariant -/

/-- What `wifi_connection` says once a check has come after the newest status event. -/
def Settled (cfg : SdkConfig) (R : Run Sys Action) (k : ℕ) (s : Sys) : Prop :=
  ∀ j, Newest (R.At (StatusEvent cfg)) k j → ¬ NoneIn (R.At (Activates .wifi)) j k →
    (s.wifi.wifiConnection = .wifiConnected ↔ R.At (Handles .ipEventStaGotIp) j ∨
      Since (R.At (Handles .ipEventStaGotIp)) (R.At (Activates .wifi)) j)

theorem not_check_of_status (h : R.At (StatusEvent cfg) k) : ¬ R.At (Activates .wifi) k := by
  obtain ⟨s, hs, hstatus⟩ := h
  rw [Run.at_iff hs]
  exact hstatus.not_activates .wifi

/-- A check after the newest status event: what it assigns, if that event is of its interval. -/
theorem verdict_of_noneIn (hP : Pending cfg R k s) (hj : Newest (R.At (StatusEvent cfg)) k j)
    (hnone : NoneIn (R.At (Activates .wifi)) j k) :
    (wifiVerdict s.wifi.sWifiEventGroup).getD s.wifi.wifiConnection = .wifiConnected ↔
      R.At (Handles .ipEventStaGotIp) j ∨
        Since (R.At (Handles .ipEventStaGotIp)) (R.At (Activates .wifi)) j := by
  rw [← since_iff_of_newest (fun m hm ↦ at_statusEvent_iff.mpr (Or.inl hm)) hj hnone,
    ← hP.connected]
  by_cases hc : s.wifi.sWifiEventGroup &&& wifiConnectedBit ≠ 0#32
  · rw [wifiVerdict_of_connected hc, Option.getD_some]
    exact iff_of_true rfl hc
  · -- no `GOT_IP` is pending, so the newest status event is a failure that is
    have hfail : Since (R.At (Fails cfg)) (R.At (Activates .wifi)) k := by
      refine ⟨j, hj.lt, ?_, hnone.mono (Nat.le_succ j) le_rfl⟩
      refine (at_statusEvent_iff.mp hj.holds).resolve_left fun hgot ↦ hc (hP.connected.mpr ?_)
      exact ⟨j, hj.lt, hgot, hnone.mono (Nat.le_succ j) le_rfl⟩
    rw [wifiVerdict_eq_disconnected_iff.mpr ⟨hc, hP.fail.mpr hfail⟩, Option.getD_some]
    exact iff_of_false (by decide) hc

/-- A check with no status event in its interval assigns nothing. -/
theorem verdict_of_not_noneIn (hP : Pending cfg R k s) (hj : Newest (R.At (StatusEvent cfg)) k j)
    (hsome : ¬ NoneIn (R.At (Activates .wifi)) j k) :
    wifiVerdict s.wifi.sWifiEventGroup = none := by
  refine wifiVerdict_of_none (fun h ↦ ?_) fun h ↦ ?_
  · have hstatus : ∀ m, R.At (Handles .ipEventStaGotIp) m → R.At (StatusEvent cfg) m :=
      fun m hm ↦ at_statusEvent_iff.mpr (Or.inl hm)
    exact not_since_of_newest hstatus (fun m hm ↦ not_check_of_status (hstatus m hm)) hj hsome
      (hP.connected.mp h)
  · have hstatus : ∀ m, R.At (Fails cfg) m → R.At (StatusEvent cfg) m :=
      fun m hm ↦ at_statusEvent_iff.mpr (Or.inr hm)
    exact not_since_of_newest hstatus (fun m hm ↦ not_check_of_status (hstatus m hm)) hj hsome
      (hP.fail.mp h)

theorem Settled.step (h : Settled cfg (firmware cfg lt b act) k s)
    (hs : (firmware cfg lt b act).state k = some s)
    (hstep : Sys.step cfg lt s (act k) = some s') :
    Settled cfg (firmware cfg lt b act) (k + 1) s' := by
  intro j hj hsome
  have hwifi := wifiStep_of_step hstep
  have hcheck : (firmware cfg lt b act).At (Activates .wifi) k ↔ Activates .wifi s (act k) :=
    Run.at_iff hs
  rcases newest_succ_iff.mp hj with ⟨hstatus, rfl⟩ | ⟨-, hj⟩
  · -- the status event of this very step: no check has come after it
    refine absurd ?_ hsome
    exact (noneIn_succ_iff le_rfl).mpr ⟨noneIn_self _ j, not_check_of_status hstatus⟩
  · rw [noneIn_succ_iff hj.lt.le, hcheck] at hsome
    by_cases hc : Activates .wifi s (act k)
    · rw [hwifi.connection_of_check hc]
      by_cases hnone : NoneIn ((firmware cfg lt b act).At (Activates .wifi)) j k
      · exact verdict_of_noneIn (pending_of_state hs) hj hnone
      · rw [verdict_of_not_noneIn (pending_of_state hs) hj hnone, Option.getD_none]
        exact h j hj hnone
    · rw [hwifi.connection_of_not_check hc]
      exact h j hj fun hnone ↦ hsome ⟨hnone, hc⟩

theorem settled_of_state (h : (firmware cfg lt b act).state k = some s) :
    Settled cfg (firmware cfg lt b act) k s := by
  refine Run.invariant_at (I := Settled cfg (firmware cfg lt b act)) ?_ ?_ h
  · exact fun j hj ↦ absurd hj.lt (Nat.not_lt_zero j)
  · exact fun k s s' hs hI hstep ↦ hI.step hs hstep

/-- **When `wifi_connection` is the newest verdict.**  After a check of the event group it says what
the newest status event was, except when that is a failure that came while a `GOT_IP` was waiting
for a check. -/
theorem connection_newest_iff (cfg : SdkConfig) (lt : Lifetime) (b : Boot) (act : ℕ → Action)
    (j k : ℕ) (s' : Sys) (hcheck : (firmware cfg lt b act).At (Activates .wifi) k)
    (hs' : (firmware cfg lt b act).state (k + 1) = some s')
    (hj : Newest ((firmware cfg lt b act).At (StatusEvent cfg)) k j) :
    ((s'.wifi.wifiConnection = .wifiConnected ↔
        (firmware cfg lt b act).At (Handles .ipEventStaGotIp) j) ∧
      (s'.wifi.wifiConnection = .wifiDisconnected ↔ (firmware cfg lt b act).At (Fails cfg) j)) ↔
    ¬ ((firmware cfg lt b act).At (Fails cfg) j ∧
      Since ((firmware cfg lt b act).At (Handles .ipEventStaGotIp))
        ((firmware cfg lt b act).At (Activates .wifi)) j) := by
  have hj' : Newest ((firmware cfg lt b act).At (StatusEvent cfg)) (k + 1) j :=
    newest_succ_iff.mpr (Or.inr ⟨fun hstatus ↦ not_check_of_status hstatus hcheck, hj⟩)
  have hsome : ¬ NoneIn ((firmware cfg lt b act).At (Activates .wifi)) j (k + 1) :=
    fun hnone ↦ hnone k hj.lt.le (Nat.lt_succ_self k) hcheck
  have hconn := settled_of_state hs' j hj' hsome
  have hdis : s'.wifi.wifiConnection = .wifiDisconnected ↔
      ¬ s'.wifi.wifiConnection = .wifiConnected := by
    cases s'.wifi.wifiConnection <;> decide
  rcases at_statusEvent_iff.mp hj.holds with hgot | hfails
  · have hno : ¬ (firmware cfg lt b act).At (Fails cfg) j := fun h ↦ not_gotIp_of_fails h hgot
    rw [hdis, hconn]
    simp [hgot, hno]
  · have hno := not_gotIp_of_fails hfails
    rw [hdis, hconn]
    simp [hfails, hno]

/-- Connected, and disconnected for good before the connection has been noticed. -/
def gotIpThenFailure : List Action :=
  [.event .ipEventStaGotIp, .event .wifiEventStaDisconnected] ++ pass .switchOff 1

/-- The run of these actions in a build that does not retry. -/
abbrev gotIpThenFailureRun : Run Sys Action :=
  firmware ⟨100#32, 0⟩ .block (defaultBoot .switchOff) (schedule gotIpThenFailure)

theorem newest_gotIpThenFailure : Newest (gotIpThenFailureRun.At (StatusEvent ⟨100#32, 0⟩)) 2 1 :=
  ⟨by decide, by decide +kernel, noneIn_self _ 2⟩

theorem connection_newest_iff_of_gotIpThenFailure :
    ∃ s', gotIpThenFailureRun.state 3 = some s' ∧
      (((s'.wifi.wifiConnection = .wifiConnected ↔
          gotIpThenFailureRun.At (Handles .ipEventStaGotIp) 1) ∧
        (s'.wifi.wifiConnection = .wifiDisconnected ↔
          gotIpThenFailureRun.At (Fails ⟨100#32, 0⟩) 1)) ↔
      ¬ (gotIpThenFailureRun.At (Fails ⟨100#32, 0⟩) 1 ∧
        Since (gotIpThenFailureRun.At (Handles .ipEventStaGotIp))
          (gotIpThenFailureRun.At (Activates .wifi)) 1)) := by
  have hcheck : gotIpThenFailureRun.At (Activates .wifi) 2 := by decide +kernel
  have hrun : gotIpThenFailureRun.At (fun _ _ ↦ True) 3 := by decide +kernel
  obtain ⟨s', hs', -⟩ := hrun
  exact ⟨s', hs', connection_newest_iff _ _ _ _ 1 2 s' hcheck hs' newest_gotIpThenFailure⟩

/-- The check that follows reports the connection that is gone. -/
theorem not_connection_newest : ¬ ∀ (cfg : SdkConfig) (lt : Lifetime) (b : Boot)
    (act : ℕ → Action) (j k : ℕ) (s' : Sys), (firmware cfg lt b act).At (Activates .wifi) k →
      (firmware cfg lt b act).state (k + 1) = some s' →
      Newest ((firmware cfg lt b act).At (StatusEvent cfg)) k j →
        ((s'.wifi.wifiConnection = .wifiConnected ↔
            (firmware cfg lt b act).At (Handles .ipEventStaGotIp) j) ∧
          (s'.wifi.wifiConnection = .wifiDisconnected ↔
            (firmware cfg lt b act).At (Fails cfg) j)) := by
  intro hall
  have hcheck : gotIpThenFailureRun.At (Activates .wifi) 2 := by decide +kernel
  have hrun : gotIpThenFailureRun.At (fun s _ ↦ s.wifi.wifiConnection = .wifiConnected) 3 := by
    decide +kernel
  have hfails : gotIpThenFailureRun.At (Fails ⟨100#32, 0⟩) 1 := by decide +kernel
  obtain ⟨s', hs', hconn⟩ := hrun
  have h := hall _ _ _ _ 1 2 s' hcheck hs' newest_gotIpThenFailure
  exact not_gotIp_of_fails hfails (h.1.mp hconn)

end BedroomLights
