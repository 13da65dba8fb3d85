import BedroomLights.Lifx.Step
import BedroomLights.Wifi.Verdict

/-!
# Is the client gated by the connection?

`lifx_loop` looks at `wifi_connection` in `WAIT_WIFI` only, and no other state ever goes back to it.
So a request is never sent before `wifi_loop` has reported a connection (`exists_gate`), but nothing
stops one after `wifi_loop` has reported that it is lost.  `request_gated` is what the gate does
promise: a request that is sent without a connection is sent after a loss that has been reported
since the gate was passed.
-/

set_option autoImplicit false

open Transition

namespace BedroomLights

/-- A call of `lifx_loop` that sees the connection it has been waiting for. -/
def PassesGate (s : Sys) (a : Action) : Prop :=
  Calls .lifxLoop s a ∧ s.lifx.state = .waitWifi ∧ s.wifi.wifiConnection = .wifiConnected

instance (s : Sys) (a : Action) : Decidable (PassesGate s a) := inferInstanceAs (Decidable (_ ∧ _))

variable {cfg : SdkConfig} {lt : Lifetime} {b : Boot} {act : ℕ → Action} {k : ℕ} {s s' : Sys}
  {a : Action}

/-! ## The gate is passed once, before everything else -/

/-- A step leaves `WAIT_WIFI` only through the gate. -/
theorem passesGate_of_step (h : Sys.step cfg lt s a = some s') (hs : s.lifx.state = .waitWifi)
    (hs' : s'.lifx.state ≠ .waitWifi) : PassesGate s a := by
  by_cases hc : Calls .lifxLoop s a
  · obtain ⟨io, sent, rfl, hstep, -⟩ := lifxStep_of_step h hc
    generalize hl : s'.lifx = l at hstep
    cases hstep with
    | waitWifi => exact absurd (hl ▸ hs) hs'
    | gate _ hwifi => exact ⟨hc, hs, hwifi⟩
    | _ => simp_all
  · rw [(step_lifx_of_not_calls h hc).1] at hs'
    exact absurd hs hs'

theorem exists_gate (h : (firmware cfg lt b act).state k = some s)
    (hs : s.lifx.state ≠ .waitWifi) : ∃ g < k, (firmware cfg lt b act).At PassesGate g := by
  obtain ⟨g, -, hg, hgate⟩ := Run.exists_at_of_change (P := PassesGate)
    (fun s : Sys ↦ s.lifx.state ≠ .waitWifi)
    (fun _ _ _ hstep hwait ↦ passesGate_of_step hstep (Classical.not_not.mp hwait))
    (Nat.zero_le k) (Run.state_zero _) (fun hne ↦ hne rfl) h hs
  exact ⟨g, hg, hgate⟩

/-! ## What `wifi_connection` says -/

/-- `wifi_connection` says what `wifi_loop` has assigned last. -/
theorem connection_of_state (h : (firmware cfg lt b act).state k = some s) :
    s.wifi.wifiConnection = .wifiConnected ↔
      Since ((firmware cfg lt b act).At (Assigns .wifiConnected))
        ((firmware cfg lt b act).At (Assigns .wifiDisconnected)) k := by
  refine Run.invariant_at (I := fun k (s : Sys) ↦ s.wifi.wifiConnection = .wifiConnected ↔
    Since ((firmware cfg lt b act).At (Assigns .wifiConnected))
      ((firmware cfg lt b act).At (Assigns .wifiDisconnected)) k) ?_ ?_ h
  · have hwifi : (firmware cfg lt b act).start.wifi = wifiInit := rfl
    rw [hwifi]
    exact iff_of_false (by decide) (not_since_zero _ _)
  · intro k s s' hs hI hstep
    have hwifi := wifiStep_of_step hstep
    rw [since_succ_iff, Run.at_iff hs, Run.at_iff hs, ← hI]
    by_cases hc : Activates .wifi s (act k)
    · rw [hwifi.connection_of_check hc]
      cases hverdict : wifiVerdict s.wifi.sWifiEventGroup with
      | none => simp [Assigns, hverdict]
      | some v => cases v <;> simp [Assigns, hverdict, hc]
    · rw [hwifi.connection_of_not_check hc]
      simp [Assigns, hc]

/-- No call assigns both values. -/
theorem not_assigns_both {R : Run Sys Action} {m : ℕ} (h : R.At (Assigns .wifiConnected) m) :
    ¬ R.At (Assigns .wifiDisconnected) m := by
  obtain ⟨s, hs, -, hconn⟩ := h
  rw [Run.at_iff hs, Assigns, hconn]
  simp

/-- **The gate before a request**: it was passed with a connection, and if there is none any more
then `wifi_loop` has reported that since. -/
theorem request_gated (cfg : SdkConfig) (lt : Lifetime) (b : Boot) (act : ℕ → Action) (k : ℕ)
    (s : Sys) (hs : (firmware cfg lt b act).state k = some s) (hsend : Sends s (act k)) :
    ∃ g < k, (firmware cfg lt b act).At PassesGate g ∧
      (s.wifi.wifiConnection ≠ .wifiConnected ↔
        ∃ d, g < d ∧ d < k ∧ (firmware cfg lt b act).At (Assigns .wifiDisconnected) d ∧
          NoneIn ((firmware cfg lt b act).At (Assigns .wifiConnected)) (d + 1) k) := by
  have hstate : s.lifx.state ≠ .waitWifi := by rw [hsend.2]; decide
  obtain ⟨g, hg, hgate⟩ := exists_gate hs hstate
  refine ⟨g, hg, hgate, ?_⟩
  obtain ⟨t, ht, hcalls, -, hconn⟩ := hgate
  have hno : ¬ (firmware cfg lt b act).At (Assigns .wifiDisconnected) g := by
    rw [Run.at_iff ht]
    exact fun h ↦ absurd (h.1.1.unique hcalls) (by decide)
  rw [Ne, connection_of_state hs,
    not_since_iff ((connection_of_state ht).mp hconn) hg.le fun m ↦ not_assigns_both]
  refine ⟨?_, ?_⟩
  · rintro ⟨d, hgd, hdk, hdis, hnone⟩
    rcases Nat.eq_or_lt_of_le hgd with rfl | hlt
    · exact absurd hdis hno
    · exact ⟨d, hlt, hdk, hdis, hnone⟩
  · rintro ⟨d, hgd, hdk, hdis, hnone⟩
    exact ⟨d, hgd.le, hdk, hdis, hnone⟩

/-- A connection, six disconnects before the next check, and a request after it. -/
def requestAfterLoss : List Action :=
  [.event .ipEventStaGotIp] ++ pass .switchOff 1 ++
    List.replicate 6 (.event .wifiEventStaDisconnected) ++ pass .switchOff 10

theorem request_gated_of_requestAfterLoss :
    ∃ s, (runOf .switchOff requestAfterLoss).state 13 = some s ∧
      s.wifi.wifiConnection ≠ .wifiConnected ∧
      ∃ g < 13, (runOf .switchOff requestAfterLoss).At PassesGate g ∧
        (s.wifi.wifiConnection ≠ .wifiConnected ↔
          ∃ d, g < d ∧ d < 13 ∧
            (runOf .switchOff requestAfterLoss).At (Assigns .wifiDisconnected) d ∧
            NoneIn ((runOf .switchOff requestAfterLoss).At (Assigns .wifiConnected))
              (d + 1) 13) := by
  have hrun : (runOf .switchOff requestAfterLoss).At
      (fun s a ↦ Sends s a ∧ s.wifi.wifiConnection ≠ .wifiConnected) 13 := by decide +kernel
  obtain ⟨s, hs, hsend, hno⟩ := hrun
  exact ⟨s, hs, hno, request_gated _ _ _ _ 13 s hs hsend⟩

/-- That request is sent although `wifi_connection` is `WIFI_DISCONNECTED`. -/
theorem not_request_gated : ¬ ∀ (cfg : SdkConfig) (lt : Lifetime) (b : Boot) (act : ℕ → Action)
    (k : ℕ) (s : Sys), (firmware cfg lt b act).state k = some s → Sends s (act k) →
      s.wifi.wifiConnection = .wifiConnected := by
  intro hall
  have hrun : (runOf .switchOff requestAfterLoss).At
      (fun s a ↦ Sends s a ∧ s.wifi.wifiConnection ≠ .wifiConnected) 13 := by decide +kernel
  obtain ⟨s, hs, hsend, hne⟩ := hrun
  exact hne (hall _ _ _ _ 13 s hs hsend)

end BedroomLights
