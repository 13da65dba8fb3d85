import BedroomLights.Wifi.Verdict

/-!
# The retry budget

`event_handler` retries a disconnect until `s_retry_num` has reached the maximum, and reports a
failure from then on; a `GOT_IP` starts the count again.  In the window since the latest `GOT_IP`,
or since boot, `s_retry_num` is therefore the number of disconnects, capped at the maximum
(`Budget`), and the disconnects beyond it are the failures.

What `wifi_loop` reports is sound with respect to that: it takes a disconnection from the fail bit
only if no `GOT_IP` is pending, and then the newest failure is newer than every `GOT_IP`
(`disconnected_sound`).
-/

set_option autoImplicit false

open Transition

namespace BedroomLights

variable {cfg : SdkConfig} {lt : Lifetime} {b : Boot} {act : ℕ → Action} {R : Run Sys Action}
  {b₀ k : ℕ} {s s' : Sys} {a : Action}

/-- The retry counter and the outcomes of the disconnects since `b₀`. -/
structure Budget (cfg : SdkConfig) (R : Run Sys Action) (b₀ k : ℕ) (s : Sys) : Prop where
  retryNum : s.wifi.sRetryNum = (min (countIn (R.At (Handles .wifiEventStaDisconnected)) b₀ k)
    cfg.configEspMaximumRetry : ℕ)
  retries : countIn (R.At (Retries cfg)) b₀ k =
    min (countIn (R.At (Handles .wifiEventStaDisconnected)) b₀ k) cfg.configEspMaximumRetry
  fails : countIn (R.At (Fails cfg)) b₀ k =
    countIn (R.At (Handles .wifiEventStaDisconnected)) b₀ k -
      min (countIn (R.At (Handles .wifiEventStaDisconnected)) b₀ k) cfg.configEspMaximumRetry

/-- The retry counter after a step that is not a `GOT_IP`. -/
theorem WifiStep.retryNum {w : Wifi} (h : WifiStep cfg s a w)
    (hgot : ¬ Handles .ipEventStaGotIp s a) :
    w.sRetryNum = s.wifi.sRetryNum + if Retries cfg s a then 1 else 0 := by
  simp only [retries_iff]
  cases h with
  | skip hev => simp [hev]
  | check hc => simp [not_handles_of_activates hc, wifiCheck]
  | handle event hev =>
    simp only [hev.iff_eq]
    cases event with
    | ipEventStaGotIp => exact absurd hev hgot
    | wifiEventStaDisconnected => rw [eventHandler]; split_ifs <;> simp_all
    | _ => simp [eventHandler]

theorem WifiStep.retryNum_of_gotIp {w : Wifi} (h : WifiStep cfg s a w)
    (hgot : Handles .ipEventStaGotIp s a) : w.sRetryNum = 0 := by
  cases h with
  | skip hev => exact absurd hgot (hev _)
  | check hc => exact absurd hgot (not_handles_of_activates hc)
  | handle event hev =>
    obtain rfl := hev.iff_eq.mp hgot
    rfl

/-- A disconnect is counted as a retry or as a failure, by the retry counter before it. -/
theorem Budget.step (h : Budget cfg (firmware cfg lt b act) b₀ k s) (hb : b₀ ≤ k)
    (hs : (firmware cfg lt b act).state k = some s)
    (hstep : Sys.step cfg lt s (act k) = some s')
    (hgot : ¬ (firmware cfg lt b act).At (Handles .ipEventStaGotIp) k) :
    Budget cfg (firmware cfg lt b act) b₀ (k + 1) s' := by
  rw [Run.at_iff hs] at hgot
  obtain ⟨hnum, hretries, hfails⟩ := h
  have hretry := (wifiStep_of_step hstep).retryNum hgot
  have hn := countIn_succ (P := (firmware cfg lt b act).At (Handles .wifiEventStaDisconnected)) hb
  have hr := countIn_succ (P := (firmware cfg lt b act).At (Retries cfg)) hb
  have hf := countIn_succ (P := (firmware cfg lt b act).At (Fails cfg)) hb
  simp only [Run.at_iff hs, retries_iff, fails_iff, firmware_act] at hn hr hf hretry
  by_cases hdis : Handles .wifiEventStaDisconnected s (act k)
  · by_cases hlt : s.wifi.sRetryNum < cfg.configEspMaximumRetry
    · simp only [hdis, hlt, and_true, not_true_eq_false, and_false, if_true, if_false]
        at hn hr hf hretry
      constructor <;> omega
    · simp only [hdis, hlt, and_true, not_false_eq_true, and_false, if_true, if_false]
        at hn hr hf hretry
      constructor <;> omega
  · simp only [hdis, false_and, if_false] at hn hr hf hretry
    constructor <;> omega

/-- At the start of a window the counter is zero, and nothing has been counted. -/
theorem budget_of_opensAt
    (hopen : OpensAt ((firmware cfg lt b act).At (Handles .ipEventStaGotIp)) b₀)
    (hs : (firmware cfg lt b act).state b₀ = some s) :
    Budget cfg (firmware cfg lt b act) b₀ b₀ s := by
  have hzero : s.wifi.sRetryNum = 0 := by
    rcases hopen with rfl | ⟨g, rfl, hgot⟩
    · rw [Run.state_zero, Option.some_inj] at hs
      exact hs ▸ rfl
    · obtain ⟨t, ht, hstep⟩ := Run.state_succ_eq_some_iff.mp hs
      exact (wifiStep_of_step hstep).retryNum_of_gotIp ((Run.at_iff ht).mp hgot)
  constructor <;> simp [hzero]

theorem budget_of_state (hb : b₀ ≤ k)
    (hopen : OpensAt ((firmware cfg lt b act).At (Handles .ipEventStaGotIp)) b₀)
    (hnone : NoneIn ((firmware cfg lt b act).At (Handles .ipEventStaGotIp)) b₀ k)
    (hs : (firmware cfg lt b act).state k = some s) :
    Budget cfg (firmware cfg lt b act) b₀ k s := by
  refine Run.invariant_between (I := Budget cfg (firmware cfg lt b act) b₀) ?_ ?_ hb hs
  · exact fun s hs ↦ budget_of_opensAt hopen hs
  · exact fun m s s' hbm hmk hs hI hstep ↦ hI.step hbm hs hstep (hnone m hbm hmk)

/-! ## What `wifi_loop` reports -/

/-- A disconnection that a check takes from the bits is no older than any `GOT_IP`. -/
theorem newest_fails_of_assigns
    (h : (firmware cfg lt b act).At (Assigns .wifiDisconnected) k) :
    ∃ f, Newest ((firmware cfg lt b act).At (Fails cfg)) k f ∧
      NoneIn ((firmware cfg lt b act).At (Handles .ipEventStaGotIp)) f k := by
  obtain ⟨s, hs, -, hverdict⟩ := h
  have hP := pending_of_state hs
  rw [wifiVerdict_eq_disconnected_iff, hP.connected, hP.fail] at hverdict
  obtain ⟨hgot, f₀, hf₀, hfails, hnone⟩ := hverdict
  obtain ⟨f, hle, hf⟩ := exists_newest hf₀ hfails
  refine ⟨f, hf, fun g hfg hgk hg ↦ ?_⟩
  rcases Nat.eq_or_lt_of_le hfg with rfl | hlt
  · exact not_gotIp_of_fails hf.holds hg
  · exact hgot ⟨g, hgk, hg, hnone.mono (by omega) le_rfl⟩

/-- A window without `GOT_IP` that reaches back as far as it can has begun by `f`, if there is none
from `f` on either. -/
theorem opensAt_le {P : ℕ → Prop} {f : ℕ} (hopen : OpensAt P b₀) (hb : b₀ ≤ k)
    (hnone : NoneIn P f k) : b₀ ≤ f := by
  rcases hopen with rfl | ⟨g, rfl, hg⟩
  · exact Nat.zero_le f
  · by_contra hlt
    exact hnone g (by omega) hb hg

/-- **The retry budget, and sound failure reports.**  In every state the retry counter is within its
bounds, and of the disconnects since the latest `GOT_IP`, or since boot, the first ones up to the
maximum were retried and the others were failures.  And where `wifi_loop` reports a disconnection,
the newest failure is newer than every `GOT_IP`, and there have been more disconnects than the
maximum since the latest one. -/
theorem retry_budget (cfg : SdkConfig) (lt : Lifetime) (b : Boot) (act : ℕ → Action) (k : ℕ)
    (s : Sys) (hs : (firmware cfg lt b act).state k = some s) :
    (0 ≤ s.wifi.sRetryNum ∧ s.wifi.sRetryNum ≤ cfg.configEspMaximumRetry) ∧
    (∀ b₀ ≤ k, OpensAt ((firmware cfg lt b act).At (Handles .ipEventStaGotIp)) b₀ →
      NoneIn ((firmware cfg lt b act).At (Handles .ipEventStaGotIp)) b₀ k →
      ∀ n, n = countIn ((firmware cfg lt b act).At (Handles .wifiEventStaDisconnected)) b₀ k →
        countIn ((firmware cfg lt b act).At (Retries cfg)) b₀ k =
          min n cfg.configEspMaximumRetry ∧
        countIn ((firmware cfg lt b act).At (Fails cfg)) b₀ k =
          n - min n cfg.configEspMaximumRetry) ∧
    (Assigns .wifiDisconnected s (act k) →
      (∃ f, Newest ((firmware cfg lt b act).At (Fails cfg)) k f ∧
        NoneIn ((firmware cfg lt b act).At (Handles .ipEventStaGotIp)) f k) ∧
      ∀ b₀ ≤ k, OpensAt ((firmware cfg lt b act).At (Handles .ipEventStaGotIp)) b₀ →
        NoneIn ((firmware cfg lt b act).At (Handles .ipEventStaGotIp)) b₀ k →
        cfg.configEspMaximumRetry + 1 ≤
          countIn ((firmware cfg lt b act).At (Handles .wifiEventStaDisconnected)) b₀ k) := by
  refine ⟨?_, ?_, ?_⟩
  · obtain ⟨b₀, hb, hopen, hnone⟩ :=
      exists_opensAt ((firmware cfg lt b act).At (Handles .ipEventStaGotIp)) k
    have hnum := (budget_of_state hb hopen hnone hs).retryNum
    omega
  · rintro b₀ hb hopen hnone n rfl
    have hbudget := budget_of_state hb hopen hnone hs
    exact ⟨hbudget.retries, hbudget.fails⟩
  · intro hassigns
    obtain ⟨f, hf, hafter⟩ := newest_fails_of_assigns ⟨s, hs, hassigns⟩
    refine ⟨⟨f, hf, hafter⟩, fun b₀ hb hopen hnone ↦ ?_⟩
    have hfails := (budget_of_state hb hopen hnone hs).fails
    have hpos : 0 < countIn ((firmware cfg lt b act).At (Fails cfg)) b₀ k :=
      countIn_pos (opensAt_le hopen hb hafter) hf.lt hf.holds
    omega

/-- Two disconnects in a build that retries once, and the check that reports the failure. -/
def twoDisconnects : List Action :=
  List.replicate 2 (.event .wifiEventStaDisconnected) ++ pass .switchOff 1

theorem retry_budget_of_twoDisconnects :
    (firmware ⟨100#32, 1⟩ .block (defaultBoot .switchOff) (schedule twoDisconnects)).At
      (fun s a ↦ Assigns .wifiDisconnected s a ∧ s.wifi.sRetryNum ≤ 1 ∧
        2 ≤ countIn ((firmware ⟨100#32, 1⟩ .block (defaultBoot .switchOff)
          (schedule twoDisconnects)).At (Handles .wifiEventStaDisconnected)) 0 2) 2 := by
  have hrun : (firmware ⟨100#32, 1⟩ .block (defaultBoot .switchOff) (schedule twoDisconnects)).At
      (Assigns .wifiDisconnected) 2 := by decide +kernel
  obtain ⟨s, hs, hassigns⟩ := hrun
  obtain ⟨hbounds, -, hsound⟩ := retry_budget _ _ _ _ 2 s hs
  refine ⟨s, hs, hassigns, hbounds.2, (hsound hassigns).2 0 (by decide) (Or.inl rfl) ?_⟩
  have hnone : ∀ m < 2, ¬ (firmware ⟨100#32, 1⟩ .block (defaultBoot .switchOff)
      (schedule twoDisconnects)).At (Handles .ipEventStaGotIp) m := by decide +kernel
  exact fun m _ hm ↦ hnone m hm

end BedroomLights
