import BedroomLights.Lifx.Gate

/-!
# Objects that are not there

By the C standard (`Lifetime.block`) there are two ways in which `lifx_loop` uses an object that is
not there.  `lifx_init` creates no client when there is no socket, and nothing keeps the state
machine from reaching `TX`, which uses it; and the callback of an answer reads `message` after the
block that declares it.  `no_error_iff` says that these are the only two.

`ClientInv` is the invariant behind the first part: whether there is a client is decided at
start-up, and without one the state machine gets as far as `TX` and no further.
-/

set_option autoImplicit false

open Transition

namespace BedroomLights

variable {cfg : SdkConfig} {lt : Lifetime} {b : Boot} {act : ℕ → Action} {k n : ℕ} {s s' : Sys}
  {a : Action}

/-- The client is there if there was a socket to create it on, and is needed in most states. -/
structure ClientInv (b : Boot) (l : Lifx) : Prop where
  eq_none_iff : l.lxClient = none ↔ b.sock < 0
  state : l.lxClient = none → l.state = .waitWifi ∨ l.state = .tx

theorem clientInv_lifxInit (b : Boot) : ClientInv b (lifxInit b.sock b.rxBuf) := by
  refine ⟨?_, ?_⟩
  · by_cases h : b.sock < 0 <;> simp [lifxInit, h]
  · exact fun _ ↦ Or.inl rfl

theorem ClientInv.step (h : ClientInv b s.lifx) (hstep : Sys.step cfg lt s a = some s') :
    ClientInv b s'.lifx := by
  by_cases hc : Calls .lifxLoop s a
  · obtain ⟨io, sent, rfl, hlifx, -⟩ := lifxStep_of_step hstep hc
    obtain ⟨hnone, hstate⟩ := h
    generalize s'.lifx = l at hlifx
    cases hlifx with
    | waitWifi => exact ⟨hnone, hstate⟩
    | gate => exact ⟨hnone, fun _ ↦ Or.inr rfl⟩
    | send client _ hclient =>
      exact ⟨hnone, fun hno ↦ absurd hclient (by rw [show s.lifx.lxClient = none from hno]; simp)⟩
    | timeout => exact ⟨hnone, fun _ ↦ Or.inr rfl⟩
    | poll client state _ hclient =>
      rw [hclient] at hnone
      exact ⟨by simpa using hnone, fun hno ↦ absurd hno (by simp)⟩
    | answer client state _ hclient =>
      rw [hclient] at hnone
      exact ⟨by simpa using hnone, fun hno ↦ absurd hno (by simp)⟩
    | delayStart state => exact ⟨hnone, fun hno ↦ by simpa [state] using hstate hno⟩
    | delayEnd => exact ⟨hnone, fun _ ↦ Or.inr rfl⟩
    | delay => exact ⟨hnone, hstate⟩
  · rwa [(step_lifx_of_not_calls hstep hc).1]

theorem clientInv_of_state (h : (firmware cfg lt b act).state k = some s) :
    ClientInv b s.lifx := by
  refine Run.invariant (I := fun s : Sys ↦ ClientInv b s.lifx) ?_ ?_ h
  · exact clientInv_lifxInit b
  · exact fun s a s' hs hstep ↦ hs.step hstep

/-- A step goes wrong where a request is sent without a client, or an answer is accepted. -/
theorem step_error_iff (hs : (firmware cfg .block b act).state k = some s) :
    Sys.step cfg .block s (act k) = none ↔
      (b.sock < 0 ∧ Sends s (act k)) ∨ Answered cfg s (act k) := by
  have hinv := clientInv_of_state hs
  rw [step_eq_none_iff, ← hinv.eq_none_iff]
  refine ⟨?_, ?_⟩
  · rintro ⟨io, ha, hpc, hnone⟩
    rw [ha]
    rcases lifxLoop_eq_none_iff.mp hnone with ⟨htx, hclient⟩ | ⟨hrx, early, hclient | ⟨hacc, -⟩⟩
    · exact Or.inl ⟨hclient, hpc, htx⟩
    · rcases hinv.state hclient with hstate | hstate <;> simp [hstate] at hrx
    · exact Or.inr ⟨hpc, hrx, early, hacc⟩
  · rintro (⟨hclient, hc, htx⟩ | hans)
    · obtain ⟨io, ha, hpc⟩ := hc.exists_io
      exact ⟨io, ha, hpc, lifxLoop_eq_none_iff.mpr (Or.inl ⟨htx, hclient⟩)⟩
    · obtain ⟨io, ha, hpc⟩ := hans.calls.exists_io
      rw [ha] at hans
      obtain ⟨-, hrx, early, hacc⟩ := hans
      exact ⟨io, ha, hpc, lifxLoop_eq_none_iff.mpr (Or.inr ⟨hrx, early, Or.inr ⟨hacc, rfl⟩⟩)⟩

/-- The first call after the gate sends a request. -/
theorem exists_sends_iff : (∃ k, (firmware cfg lt b act).At Sends k) ↔
    ∃ g k, g < k ∧ (firmware cfg lt b act).At PassesGate g ∧
      (firmware cfg lt b act).At (Calls .lifxLoop) k := by
  refine ⟨?_, ?_⟩
  · rintro ⟨k, s, hs, hc, htx⟩
    obtain ⟨g, hg, hgate⟩ := exists_gate hs (by rw [htx]; decide)
    exact ⟨g, k, hg, hgate, s, hs, hc⟩
  · rintro ⟨g, k, hgk, ⟨t, ht, hc, hwait, hwifi⟩, hcalls⟩
    -- the earliest of the later calls
    have hex : ∃ m, g < m ∧ (firmware cfg lt b act).At (Calls .lifxLoop) m := ⟨k, hgk, hcalls⟩
    obtain ⟨hgm, u, hu, hcu⟩ := Nat.find_spec hex
    have hfirst : ∀ m, g < m → m < Nat.find hex →
        ¬ (firmware cfg lt b act).At (Calls .lifxLoop) m :=
      fun m hgm hm h ↦ Nat.find_min hex hm ⟨hgm, h⟩
    obtain ⟨t', ht'⟩ := Run.exists_state_of_le (Nat.succ_le_of_lt hgm) hu
    have htx : t'.lifx.state = .tx := by
      obtain ⟨io, sent, -, hlifx, -⟩ := lifxStep_of_step ((Run.state_succ_of ht).symm.trans ht') hc
      generalize t'.lifx = l at hlifx
      cases hlifx with
      | gate => rfl
      | _ => simp_all
    refine ⟨Nat.find hex, u, hu, hcu, ?_⟩
    rw [← htx]
    refine Run.eq_of_unchanged (fun s : Sys ↦ s.lifx.state) ?_ (Nat.succ_le_of_lt hgm) ht' hu
    intro m v v' hgm' hm hv hstep
    rw [(step_lifx_of_not_calls hstep fun h ↦ hfirst m hgm' hm ⟨v, hv, h⟩).1]

/-- **When nothing is missing**: no step of a run takes the error branch if and only if there was a
socket, or `lifx_loop` is not called again once it has seen a connection, and no poll accepts an
answer. -/
theorem no_error_iff (cfg : SdkConfig) (b : Boot) (act : ℕ → Action) :
    (∀ n, (firmware cfg .block b act).state n ≠ none) ↔
      (0 ≤ b.sock ∨ ∀ g k, g < k → (firmware cfg .block b act).At PassesGate g →
        ¬ (firmware cfg .block b act).At (Calls .lifxLoop) k) ∧
      ∀ k, ¬ (firmware cfg .block b act).At (Answered cfg) k := by
  have hsends : (∀ g k, g < k → (firmware cfg .block b act).At PassesGate g →
      ¬ (firmware cfg .block b act).At (Calls .lifxLoop) k) ↔
      ∀ k, ¬ (firmware cfg .block b act).At Sends k := by
    rw [← not_exists, exists_sends_iff]
    push Not
    exact Iff.rfl
  rw [hsends]
  refine ⟨?_, ?_⟩
  · intro hall
    have hstep : ∀ {k s}, (firmware cfg .block b act).state k = some s →
        Sys.step cfg .block s (act k) ≠ none :=
      fun hs hnone ↦ hall _ ((Run.state_succ_of hs).trans hnone)
    refine ⟨?_, fun k ⟨s, hs, hans⟩ ↦ hstep hs ((step_error_iff hs).mpr (Or.inr hans))⟩
    by_cases hsock : 0 ≤ b.sock
    · exact Or.inl hsock
    · refine Or.inr fun k ⟨s, hs, hsend⟩ ↦ hstep hs ((step_error_iff hs).mpr (Or.inl ⟨?_, hsend⟩))
      exact Int.lt_of_not_ge hsock
  · rintro ⟨hclient, hans⟩ n hn
    induction n with
    | zero => exact absurd hn (by simp)
    | succ n ih =>
      obtain ⟨s, hs⟩ := Option.ne_none_iff_exists'.mp ih
      rw [Run.state_succ_of hs] at hn
      rcases (step_error_iff hs).mp hn with ⟨hsock, hsend⟩ | hanswer
      · rcases hclient with hle | hno
        · omega
        · exact hno n ⟨s, hs, hsend⟩
      · exact hans n ⟨s, hs, hanswer⟩

/-- A boot whose `my_udp_create_socket` has failed. -/
def noSocketBoot : Boot := ⟨-1, Buffer.fill rxBufSz 0, .switchOff⟩

/-- A connection, and two passes. -/
def connectedPasses : List Action :=
  [.event .ipEventStaGotIp] ++ pass .switchOff 1 ++ pass .switchOff 2

/-- A connection, a request and an answer to it. -/
def connectedAnswer : List Action :=
  connectedPasses ++ passReceiving (stateServiceHeader ++ udpServicePayload) 3

/-- Without a socket the second pass follows a null pointer, and with one the third pass reads a
message that is gone. -/
theorem not_no_error :
    (¬ ∀ (cfg : SdkConfig) (b : Boot) (act : ℕ → Action) (n : ℕ),
      (firmware cfg .block b act).state n ≠ none) ∧
    ¬ ∀ (cfg : SdkConfig) (b : Boot) (act : ℕ → Action) (n : ℕ), 0 ≤ b.sock →
      (firmware cfg .block b act).state n ≠ none := by
  refine ⟨?_, ?_⟩
  · intro hall
    refine hall defaultConfig noSocketBoot (schedule connectedPasses) 8 ?_
    exact Option.isNone_iff_eq_none.mp (by decide +kernel)
  · intro hall
    refine hall defaultConfig (defaultBoot .switchOff) (schedule connectedAnswer) 13 (by decide) ?_
    exact Option.isNone_iff_eq_none.mp (by decide +kernel)

end BedroomLights
