import BedroomLights.Lifx.Step

/-!
# The cadence of the requests

`lifx_loop` subtracts before it compares, so its two waits are right across a wrap of the tick
counter as long as each is shorter than a revolution (`Clock.lt_sub_ofNat_iff`).  Between two
requests it goes through one of two paths: no answer, and the next request after the resend period;
or an answer within the resend period, and the next request after the delay.  `Waiting` is the
invariant along both, in terms of the real times of the latest request and of the latest call; the
calls being at most `G` ticks apart, each of its bounds is at most `G` away from the wait it is
about.
-/

set_option autoImplicit false

open Transition Clock

namespace BedroomLights

/-- Consecutive calls of `lifx_loop` are at most `G` ticks of real time apart. -/
def CallsWithin (R : Run Sys Action) (G : ℕ) : Prop :=
  ∀ p k, Newest (R.At (Calls .lifxLoop)) k p → R.At (Calls .lifxLoop) k →
    (R.act p).time ≤ (R.act k).time ∧ (R.act k).time ≤ (R.act p).time + G

/-- The state machine after a request at `t₀`, when the latest call was at `tp`, and `answered` says
whether there has been an answer. -/
inductive Waiting (cfg : SdkConfig) (G t₀ tp : ℕ) (answered : Prop) (l : Lifx) : Prop where
  /-- Polling for an answer. -/
  | rx (state : l.state = .rx) (last : l.lastSend = xTaskGetTickCount t₀) (no : ¬ answered)
    (le : tp ≤ t₀ + (lifxResendPeriod cfg).toNat)
  /-- There was none. -/
  | tx (state : l.state = .tx) (no : ¬ answered) (late : t₀ + (lifxResendPeriod cfg).toNat < tp)
    (le : tp ≤ t₀ + (lifxResendPeriod cfg).toNat + G)
  /-- There was one. -/
  | delayStart (state : l.state = .delayStart) (le : tp ≤ t₀ + (lifxResendPeriod cfg).toNat)
  /-- Since `tw`, the delay after an answer. -/
  | delay (tw : ℕ) (state : l.state = .delay) (start : l.waitStart = xTaskGetTickCount tw)
    (after : t₀ ≤ tw) (before : tw ≤ t₀ + (lifxResendPeriod cfg).toNat + G) (ltp : tw ≤ tp)
    (le : tp ≤ tw + (waitTime cfg).toNat)
  /-- The delay is over. -/
  | txDelayed (state : l.state = .tx) (late : t₀ + (waitTime cfg).toNat < tp)
    (le : tp ≤ t₀ + (lifxResendPeriod cfg).toNat + (waitTime cfg).toNat + 2 * G)

variable {cfg : SdkConfig} {lt : Lifetime} {b : Boot} {act : ℕ → Action} {G t₀ tp tk : ℕ}
  {answered answered' : Prop} {l l' : Lifx}

/-- The bound that holds in every phase. -/
theorem Waiting.le (h : Waiting cfg G t₀ tp answered l) :
    tp ≤ t₀ + (lifxResendPeriod cfg).toNat + (waitTime cfg).toNat + 2 * G := by
  cases h <;> omega

/-- The next call, if it does not send the next request, is in the same phase or in the next. -/
theorem Waiting.step {wifiConnection : WifiState} {sendto : ℤ} {recv : RecvFrom}
    {sent : List (UdpTx × LxErr)} (h : Waiting cfg G t₀ tp answered l)
    (hstep : LifxStep cfg lt (xTaskGetTickCount tk) wifiConnection sendto recv l l' sent)
    (htx : l.state ≠ .tx) (h₀ : t₀ ≤ tp) (hpk : tp ≤ tk) (hG : tk ≤ tp + G)
    (hlt : (lifxResendPeriod cfg).toNat + (waitTime cfg).toNat + 3 * G < 2 ^ 32)
    (hans : answered' ↔ answered ∨ (l.state = .rx ∧
      ¬ xTaskGetTickCount tk - l.lastSend > lifxResendPeriod cfg ∧ recv.Accepted)) :
    Waiting cfg G t₀ tk answered' l' := by
  cases h with
  | tx state => exact absurd state htx
  | txDelayed state => exact absurd state htx
  | rx state last no le =>
    have helapsed : xTaskGetTickCount tk - l.lastSend > lifxResendPeriod cfg ↔
        t₀ + (lifxResendPeriod cfg).toNat < tk := by
      rw [last]
      exact lt_sub_ofNat_iff (by omega) (by omega)
    cases hstep with
    | timeout _ late =>
      have hno : ¬ answered' := fun h ↦ (hans.mp h).elim no fun h ↦ h.2.1 late
      exact .tx rfl hno (helapsed.mp late) (by omega)
    | poll client _ early _ hacc =>
      have hno : ¬ answered' := fun h ↦ (hans.mp h).elim no fun h ↦ hacc h.2.2
      rw [helapsed] at early
      exact .rx state last hno (by omega)
    | answer client _ early =>
      rw [helapsed] at early
      exact .delayStart rfl (by omega)
    | _ => simp_all
  | delayStart state le =>
    cases hstep with
    | delayStart => exact .delay tk rfl rfl (by omega) (by omega) le_rfl (by omega)
    | _ => simp_all
  | delay tw state start after before ltp le =>
    have helapsed : xTaskGetTickCount tk - l.waitStart > waitTime cfg ↔
        tw + (waitTime cfg).toNat < tk := by
      rw [start]
      exact lt_sub_ofNat_iff (by omega) (by omega)
    cases hstep with
    | delayEnd _ late =>
      rw [helapsed] at late
      exact .txDelayed rfl (by omega) (by omega)
    | delay _ early =>
      rw [helapsed] at early
      exact .delay tw state start after before (by omega) (by omega)
    | _ => simp_all

/-! ## From one request to the next -/

variable {i k : ℕ} {s s' : Sys}

/-- Before step `k`, there has been an answer to the request of step `i`. -/
def AnsweredIn (cfg : SdkConfig) (R : Run Sys Action) (i k : ℕ) : Prop :=
  ∃ j, i < j ∧ j < k ∧ R.At (Answered cfg) j

theorem answeredIn_succ_iff {R : Run Sys Action} (hik : i < k) (hs : R.state k = some s) :
    AnsweredIn cfg R i (k + 1) ↔ AnsweredIn cfg R i k ∨ Answered cfg s (R.act k) := by
  rw [← Run.at_iff (P := Answered cfg) hs]
  refine ⟨?_, ?_⟩
  · rintro ⟨j, hij, hjk, hans⟩
    rcases Nat.lt_succ_iff_lt_or_eq.mp hjk with hlt | rfl
    · exact Or.inl ⟨j, hij, hlt, hans⟩
    · exact Or.inr hans
  · rintro (⟨j, hij, hjk, hans⟩ | hans)
    · exact ⟨j, hij, hjk.trans (Nat.lt_succ_self k), hans⟩
    · exact ⟨k, hik, Nat.lt_succ_self k, hans⟩

/-- The run after the request of step `i`, as long as there is no further one. -/
def WaitingFrom (cfg : SdkConfig) (R : Run Sys Action) (G i k : ℕ) (s : Sys) : Prop :=
  ∃ p, Newest (R.At (Calls .lifxLoop)) k p ∧ (R.act i).time ≤ (R.act p).time ∧
    Waiting cfg G (R.act i).time (R.act p).time (AnsweredIn cfg R i k) s.lifx

theorem waitingFrom_send (hs : (firmware cfg lt b act).state i = some s)
    (hsend : Sends s (act i)) (hstep : Sys.step cfg lt s (act i) = some s') :
    WaitingFrom cfg (firmware cfg lt b act) G i (i + 1) s' := by
  refine ⟨i, newest_succ_of ⟨s, hs, hsend.1⟩, le_rfl, ?_⟩
  have hno : ¬ AnsweredIn cfg (firmware cfg lt b act) i (i + 1) := by
    rintro ⟨j, hij, hji, -⟩
    omega
  obtain ⟨io, sent, ha, hlifx, -⟩ := lifxStep_of_step hstep hsend.1
  have htx := hsend.2
  generalize hl : s'.lifx = l at hlifx
  cases hlifx with
  | send => exact .rx rfl (by rw [firmware_act, ha]; rfl) hno (by omega)
  | _ => simp_all

theorem WaitingFrom.step (h : WaitingFrom cfg (firmware cfg lt b act) G i k s)
    (hcad : CallsWithin (firmware cfg lt b act) G)
    (hlt : (lifxResendPeriod cfg).toNat + (waitTime cfg).toNat + 3 * G < 2 ^ 32)
    (hik : i < k) (hs : (firmware cfg lt b act).state k = some s)
    (hstep : Sys.step cfg lt s (act k) = some s') (hno : ¬ Sends s (act k)) :
    WaitingFrom cfg (firmware cfg lt b act) G i (k + 1) s' := by
  obtain ⟨p, hp, h₀, hwait⟩ := h
  have hans : AnsweredIn cfg (firmware cfg lt b act) i (k + 1) ↔
      AnsweredIn cfg (firmware cfg lt b act) i k ∨ Answered cfg s (act k) :=
    answeredIn_succ_iff hik hs
  by_cases hc : Calls .lifxLoop s (act k)
  · have hcalls : (firmware cfg lt b act).At (Calls .lifxLoop) k := ⟨s, hs, hc⟩
    obtain ⟨hpk, hG⟩ := hcad p k hp hcalls
    obtain ⟨io, sent, ha, hlifx, -⟩ := lifxStep_of_step hstep hc
    have htime : ((firmware cfg lt b act).act k).time = io.time := by rw [firmware_act, ha]; rfl
    refine ⟨k, newest_succ_of hcalls, h₀.trans hpk, ?_⟩
    rw [htime] at hpk hG ⊢
    refine hwait.step hlifx (fun htx ↦ hno ⟨hc, htx⟩) h₀ hpk hG hlt ?_
    rw [hans, ha]
    rw [ha] at hc
    exact or_congr_right ⟨fun h ↦ h.2, fun h ↦ ⟨hc, h⟩⟩
  · have hnot : ¬ (firmware cfg lt b act).At (Calls .lifxLoop) k := by rwa [Run.at_iff hs]
    refine ⟨p, newest_succ_iff.mpr (Or.inr ⟨hnot, hp⟩), h₀, ?_⟩
    rwa [hans, or_iff_left fun h ↦ hc h.calls, (step_lifx_of_not_calls hstep hc).1]

theorem waitingFrom_of_newest (hcad : CallsWithin (firmware cfg lt b act) G)
    (hlt : (lifxResendPeriod cfg).toNat + (waitTime cfg).toNat + 3 * G < 2 ^ 32)
    (hi : Newest ((firmware cfg lt b act).At Sends) k i)
    (hs : (firmware cfg lt b act).state k = some s) :
    WaitingFrom cfg (firmware cfg lt b act) G i k s := by
  obtain ⟨t, ht, hsend⟩ := hi.holds
  refine Run.invariant_between (I := WaitingFrom cfg (firmware cfg lt b act) G i) ?_ ?_
    (Nat.succ_le_of_lt hi.lt) hs
  · intro u hu
    exact waitingFrom_send ht hsend ((Run.state_succ_of ht).symm.trans hu)
  · intro m u u' him hmk hu hI hstep
    exact hI.step hcad hlt him hu hstep fun h ↦ hi.none m him hmk ⟨u, hu, h⟩

/-- **The cadence of the requests.**  In a run whose calls of `lifx_loop` are at most `G` ticks
apart, whatever the network does: from one request to the next it takes more than the resend period,
and more than the wait time if there has been an answer in between; and no call comes later after
the latest request than the two waits and three times `G`. -/
theorem request_cadence (cfg : SdkConfig) (lt : Lifetime) (b : Boot) (act : ℕ → Action) (G : ℕ)
    (hcad : CallsWithin (firmware cfg lt b act) G)
    (hperiods : (lifxResendPeriod cfg).toNat < (waitTime cfg).toNat)
    (hlt : (lifxResendPeriod cfg).toNat + (waitTime cfg).toNat + 3 * G < 2 ^ 32) (i k : ℕ)
    (hi : Newest ((firmware cfg lt b act).At Sends) k i)
    (hk : (firmware cfg lt b act).At (Calls .lifxLoop) k) :
    ((firmware cfg lt b act).At Sends k →
      (act i).time + (lifxResendPeriod cfg).toNat < (act k).time ∧
      ((∃ j, i < j ∧ j < k ∧ (firmware cfg lt b act).At (Answered cfg) j) →
        (act i).time + (waitTime cfg).toNat < (act k).time)) ∧
    (act k).time ≤
      (act i).time + (lifxResendPeriod cfg).toNat + (waitTime cfg).toNat + 3 * G := by
  obtain ⟨s, hs, hcalls⟩ := hk
  obtain ⟨p, hp, h₀, hwait⟩ := waitingFrom_of_newest hcad hlt hi hs
  obtain ⟨hpk, hG⟩ := hcad p k hp ⟨s, hs, hcalls⟩
  simp only [firmware_act] at h₀ hwait hpk hG
  refine ⟨?_, ?_⟩
  · intro hsend
    have htx : s.lifx.state = .tx := ((Run.at_iff hs).mp hsend).2
    cases hwait with
    | tx state no late => exact ⟨by omega, fun hans ↦ absurd hans no⟩
    | txDelayed state late => exact ⟨by omega, fun _ ↦ by omega⟩
    | _ => simp_all
  · have := hwait.le
    omega

/-- A request, an answer and the next request, with the tick counter wrapping during the delay. -/
def answeredRequest : List Action :=
  [.event .ipEventStaGotIp] ++ pass .switchOff (2 ^ 32 - 10) ++ pass .switchOff (2 ^ 32 - 9) ++
    passReceiving (stateServiceHeader ++ udpServicePayload) (2 ^ 32 - 8) ++
    pass .switchOff (2 ^ 32 - 7) ++ pass .switchOff (2 ^ 32 + 244) ++
    pass .switchOff (2 ^ 32 + 245)

/-- The run of these actions, where `message` outlives its block. -/
abbrev answeredRequestRun : Run Sys Action :=
  firmware defaultConfig .function (defaultBoot .switchOff) (schedule answeredRequest)

theorem calls_answeredRequest {k : ℕ} :
    answeredRequestRun.At (Calls .lifxLoop) k ↔ k % 5 = 2 ∧ k < 31 :=
  calls_schedule_iff (by decide) (by decide +kernel)

theorem callsWithin_answeredRequest : CallsWithin answeredRequestRun 251 := by
  intro p k hp hk
  have hnext : k = p + 5 := hp.eq_add_of_mod (fun _ ↦ calls_answeredRequest) hk
  have htimes : ∀ m < 26, m % 5 = 2 →
      (answeredRequestRun.act m).time ≤ (answeredRequestRun.act (m + 5)).time ∧
        (answeredRequestRun.act (m + 5)).time ≤ (answeredRequestRun.act m).time + 251 := by
    decide +kernel
  obtain ⟨-, hk31⟩ := calls_answeredRequest.mp hk
  rw [hnext]
  exact htimes p (by omega) (calls_answeredRequest.mp hp.holds).1

theorem request_cadence_of_answeredRequest :
    (schedule answeredRequest 7).time + 250 < (schedule answeredRequest 27).time := by
  have h7 : answeredRequestRun.At Sends 7 := by decide +kernel
  have h27 : answeredRequestRun.At Sends 27 := by decide +kernel
  have hno : ∀ m < 27, 7 < m → ¬ answeredRequestRun.At Sends m := by decide +kernel
  have h12 : answeredRequestRun.At (Answered defaultConfig) 12 := by decide +kernel
  have hnewest : Newest (answeredRequestRun.At Sends) 27 7 :=
    ⟨by decide, h7, fun m h7m hm ↦ hno m hm h7m⟩
  exact ((request_cadence defaultConfig .function (defaultBoot .switchOff)
    (schedule answeredRequest) 251 callsWithin_answeredRequest (by decide) (by decide) 7 27 hnewest
    (calls_answeredRequest.mpr (by decide))).1 h27).2 ⟨12, by decide, by decide, h12⟩

end BedroomLights
