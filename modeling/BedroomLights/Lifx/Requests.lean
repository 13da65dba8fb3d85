import BedroomLights.Lifx.Lifetime

/-!
# The requests of a run

The program only ever sends one datagram.  Whatever it has received, and however often it has
started over, a request is the same 36 bytes, from the socket it was booted with to every device of
the local network, and there is one for each call of `lifx_loop` in `TX` (`sent_eq`).

`first_request` is about the first of them: it takes an address, a check of the event group and two
calls of `lifx_loop`, in this order, and no less.  The second of the calls sends it, unless there
was no socket: then it follows the null pointer of the client.
-/

set_option autoImplicit false

open Transition

namespace BedroomLights

/-- The request, as it is handed to `udp_tx`. -/
def broadcastRequest (sock : ℤ) : UdpTx where
  sock := sock
  data := [36, 0, 0, 0x34] ++ List.replicate 28 0 ++ [2, 0, 0, 0]
  dataLen := 36
  port := 56700
  ipAddr := 0xFFFFFFFF

variable {cfg : SdkConfig} {lt : Lifetime} {b : Boot} {act : ℕ → Action} {k : ℕ} {s s' : Sys}
  {a : Action}

/-! ## Every request is the same -/

theorem toBytes_getService :
    (popHeader 0#32 0#32 broadcastTarget lxPacketGetService).toBytes.bytes =
      [36, 0, 0, 0x34] ++ List.replicate 28 0 ++ [2, 0, 0, 0] := by decide +kernel

theorem request_eq {client : LxClient} (h : client.sourceId = 0) :
    request client = broadcastRequest client.sock := by
  obtain ⟨sourceId, sock, rxBuf⟩ := client
  obtain rfl : sourceId = 0 := h
  rw [broadcastRequest, ← toBytes_getService]
  rfl

/-- The client is the one that was created, but for its buffer. -/
def SameClient (b : Boot) (l : Lifx) : Prop :=
  ∀ client, l.lxClient = some client → client.sourceId = 0 ∧ client.sock = b.sock

theorem SameClient.step (h : SameClient b s.lifx) (hstep : Sys.step cfg lt s a = some s') :
    SameClient b s'.lifx := by
  by_cases hc : Calls .lifxLoop s a
  · obtain ⟨io, sent, rfl, hlifx, -⟩ := lifxStep_of_step hstep hc
    generalize s'.lifx = l at hlifx
    cases hlifx with
    | poll client _ _ hclient =>
      rintro _ ⟨⟩
      exact h client hclient
    | answer client _ _ hclient =>
      rintro _ ⟨⟩
      exact h client hclient
    | _ => exact h
  · rwa [(step_lifx_of_not_calls hstep hc).1]

theorem sameClient_of_state (h : (firmware cfg lt b act).state k = some s) :
    SameClient b s.lifx := by
  refine Run.invariant (I := fun s : Sys ↦ SameClient b s.lifx) ?_ ?_ h
  · intro client hclient
    have hlifx : (if b.sock < 0 then none else some (lxClientCreate b.sock b.rxBuf)) =
        some client := hclient
    split_ifs at hlifx
    rw [← Option.some_inj.mp hlifx]
    exact ⟨rfl, rfl⟩
  · exact fun s a s' hs hstep ↦ hs.step hstep

/-- What a step sends. -/
theorem step_sent (h : SameClient b s.lifx) (hstep : Sys.step cfg lt s a = some s') :
    s'.sent.map Prod.fst =
      s.sent.map Prod.fst ++ if Sends s a then [broadcastRequest b.sock] else [] := by
  by_cases hc : Calls .lifxLoop s a
  · obtain ⟨io, sent, rfl, hlifx, hsent⟩ := lifxStep_of_step hstep hc
    rw [hsent, List.map_append]
    have hiff : Sends s (.loop io) ↔ s.lifx.state = .tx := and_iff_right hc
    generalize s'.lifx = l at hlifx
    cases hlifx with
    | send client state hclient =>
      obtain ⟨hsource, hsock⟩ := h client hclient
      rw [if_pos (hiff.mpr state), List.map_singleton, request_eq hsource, hsock]
    | _ => rw [if_neg (by rw [hiff]; simp_all)]; rfl
  · rw [(step_lifx_of_not_calls hstep hc).2, if_neg fun h ↦ hc h.1, List.append_nil]

/-- **Everything that is ever sent**: the same request, once for each call of `lifx_loop` that
sends, whatever has been received in between. -/
theorem sent_eq (cfg : SdkConfig) (lt : Lifetime) (b : Boot) (act : ℕ → Action) (k : ℕ) (s : Sys)
    (h : (firmware cfg lt b act).state k = some s) :
    s.sent.map Prod.fst = List.replicate (Nat.count ((firmware cfg lt b act).At Sends) k)
      (broadcastRequest b.sock) := by
  refine Run.invariant_at (I := fun k (s : Sys) ↦ s.sent.map Prod.fst =
    List.replicate (Nat.count ((firmware cfg lt b act).At Sends) k) (broadcastRequest b.sock))
    ?_ ?_ h
  · rfl
  · intro k s s' hs hI hstep
    rw [step_sent (sameClient_of_state hs) hstep, hI, Nat.count_succ]
    simp only [Run.at_iff hs]
    split_ifs
    · rw [List.replicate_succ']
    · rw [List.append_nil, Nat.add_zero]

/-- A request in one of these passes. -/
theorem sent_eq_of_connectedPasses :
    ∃ s, (runOf .switchOff connectedPasses).state 11 = some s ∧
      s.sent.map Prod.fst = [broadcastRequest 3] := by
  have hrun : (runOf .switchOff connectedPasses).At (fun _ _ ↦ True) 11 := by decide +kernel
  have hcount : Nat.count ((runOf .switchOff connectedPasses).At Sends) 11 = 1 := by decide +kernel
  obtain ⟨s, hs, -⟩ := hrun
  refine ⟨s, hs, (sent_eq _ _ _ _ 11 s hs).trans ?_⟩
  rw [hcount]
  rfl

/-! ## The first request -/

variable {c e g m : ℕ}

/-- The first call of `lifx_loop` after a gate sends. -/
theorem sends_of_passesGate (hg : (firmware cfg lt b act).At PassesGate g) (hgk : g < k)
    (hk : (firmware cfg lt b act).At (Calls .lifxLoop) k)
    (hnone : NoneIn ((firmware cfg lt b act).At (Calls .lifxLoop)) (g + 1) k) :
    (firmware cfg lt b act).At Sends k := by
  obtain ⟨s, hs, hcall, hwait, hwifi⟩ := hg
  obtain ⟨t, ht, hcall'⟩ := hk
  obtain ⟨s', hs'⟩ := Run.exists_state_of_le (Nat.succ_le_of_lt hgk) ht
  have htx : s'.lifx.state = .tx := by
    obtain ⟨io, sent, -, hlifx, -⟩ :=
      lifxStep_of_step ((Run.state_succ_of hs).symm.trans hs') hcall
    generalize s'.lifx = l at hlifx
    cases hlifx with
    | gate => rfl
    | _ => simp_all
  refine ⟨t, ht, hcall', ?_⟩
  rw [← htx]
  refine Run.eq_of_unchanged (fun s : Sys ↦ s.lifx.state) ?_ (Nat.succ_le_of_lt hgk) hs' ht
  intro m u u' hgm hmk hu hstep
  rw [(step_lifx_of_not_calls hstep fun h ↦ hnone m hgm hmk ⟨u, hu, h⟩).1]

/-- A connection that is reported comes from an address. -/
theorem exists_gotIp_of_assigns (h : (firmware cfg lt b act).At (Assigns .wifiConnected) c) :
    ∃ j < c, (firmware cfg lt b act).At (Handles .ipEventStaGotIp) j := by
  obtain ⟨s, hs, -, hverdict⟩ := h
  have hbit : s.wifi.sWifiEventGroup &&& wifiConnectedBit ≠ 0#32 := by
    intro hno
    rw [wifiVerdict, if_neg (not_not_intro hno)] at hverdict
    split_ifs at hverdict
    exact absurd hverdict (by simp)
  obtain ⟨j, hj, hgot, -⟩ := (pending_of_state hs).connected.mp hbit
  exact ⟨j, hj, hgot⟩

/-- The check after an address reports a connection. -/
theorem assigns_of_gotIp (he : (firmware cfg lt b act).At (Handles .ipEventStaGotIp) e)
    (hec : e < c) (hc : (firmware cfg lt b act).At (Activates .wifi) c)
    (hnone : NoneIn ((firmware cfg lt b act).At (Activates .wifi)) (e + 1) c) :
    (firmware cfg lt b act).At (Assigns .wifiConnected) c := by
  obtain ⟨s, hs, hact⟩ := hc
  exact ⟨s, hs, hact, wifiVerdict_of_connected
    ((pending_of_state hs).connected.mpr ⟨e, hec, he, hnone⟩)⟩

/-- After a check, `lifx_loop` is called next. -/
theorem pc_of_check (hc : (firmware cfg lt b act).At (Activates .wifi) c) (hcm : c < m)
    (hnone : NoneIn ((firmware cfg lt b act).At (Calls .lifxLoop)) (c + 1) m)
    (hm : (firmware cfg lt b act).state m = some s) : s.pc = .lifxLoop := by
  obtain ⟨t, ht, hcall, -⟩ := hc
  refine Run.invariant_between (I := fun _ (s : Sys) ↦ s.pc = .lifxLoop) ?_ ?_
    (Nat.succ_le_of_lt hcm) hm
  · intro u hu
    obtain ⟨io, hio, hpc⟩ := hcall.exists_io
    have hstep : Sys.step cfg lt t (act c) = some u := (Run.state_succ_of ht).symm.trans hu
    rw [step_pc hstep, show act c = .loop io from hio, pcAfter, hpc]
    rfl
  · intro j u u' hcj hjm hu hI hstep
    rw [step_pc hstep]
    have hno : ¬ Calls .lifxLoop u (act j) := fun h ↦ hnone j hcj hjm ⟨u, hu, h⟩
    rw [firmware_act]
    generalize act j = a at hno
    cases a with
    | loop io => exact absurd hI hno
    | _ => exact hI

/-- Up to the first call of `lifx_loop` after the check after the first address, the client
waits. -/
theorem waitWifi_of_le (hfirst : NoneIn ((firmware cfg lt b act).At (Handles .ipEventStaGotIp)) 0 e)
    (hnone : NoneIn ((firmware cfg lt b act).At (Activates .wifi)) (e + 1) c)
    (hnone' : NoneIn ((firmware cfg lt b act).At (Calls .lifxLoop)) (c + 1) g) (hmg : m ≤ g)
    (hm : (firmware cfg lt b act).state m = some s) : s.lifx.state = .waitWifi := by
  by_contra hne
  obtain ⟨g', hg', t, ht, hcall, -, hconn⟩ := exists_gate hm hne
  obtain ⟨d, hd, hassigns, -⟩ := (connection_of_state ht).mp hconn
  obtain ⟨j, hj, hgot⟩ := exists_gotIp_of_assigns hassigns
  have hej : e ≤ j := Nat.le_of_not_lt fun hlt ↦ hfirst j (Nat.zero_le j) hlt hgot
  obtain ⟨u, hu, hact, -⟩ := hassigns
  have hcd : c ≤ d := Nat.le_of_not_lt fun hlt ↦ hnone d (by omega) hlt ⟨u, hu, hact⟩
  exact hnone' g' (by omega) (by omega) ⟨t, ht, hcall⟩

/-- A call that is to send goes wrong where there is no client, and nowhere else. -/
theorem step_eq_none_iff_of_sends (h : Sends s a) :
    Sys.step cfg lt s a = none ↔ s.lifx.lxClient = none := by
  obtain ⟨hcall, htx⟩ := h
  obtain ⟨io, rfl, hpc⟩ := hcall.exists_io
  rw [step_eq_none_iff]
  refine ⟨?_, fun hno ↦ ⟨io, rfl, hpc, lifxLoop_eq_none_iff.mpr (Or.inl ⟨htx, hno⟩)⟩⟩
  rintro ⟨io', -, -, hnone⟩
  rcases lifxLoop_eq_none_iff.mp hnone with ⟨-, hno⟩ | ⟨hrx, -⟩
  · exact hno
  · exact absurd (htx.symm.trans hrx) (by decide)

/-- As long as no call sends, nothing has been sent. -/
theorem sent_eq_nil (hnone : NoneIn ((firmware cfg lt b act).At Sends) 0 k)
    (h : (firmware cfg lt b act).state k = some s) : s.sent = [] := by
  have hsent : s.sent.map Prod.fst = (firmware cfg lt b act).start.sent.map Prod.fst := by
    refine Run.eq_of_unchanged (fun s : Sys ↦ s.sent.map Prod.fst) ?_ (Nat.zero_le k)
      (Run.state_zero _) h
    intro m u u' hm hmk hu hstep
    rw [step_sent (sameClient_of_state hu) hstep, if_neg fun hsend ↦ hnone m hm hmk ⟨u, hu, hsend⟩,
      List.append_nil]
  exact List.map_eq_nil_iff.mp hsent

/-- **The first request.**  It is sent by the second call of `lifx_loop` after the first check of
the event group after the first address: the first of the two sees the connection, and goes on to
`TX`.  Where there was no socket, the second call goes wrong instead. -/
theorem first_request (cfg : SdkConfig) (lt : Lifetime) (b : Boot) (act : ℕ → Action)
    (e c g k : ℕ) (he : (firmware cfg lt b act).At (Handles .ipEventStaGotIp) e)
    (hfirst : NoneIn ((firmware cfg lt b act).At (Handles .ipEventStaGotIp)) 0 e)
    (hec : e < c) (hc : (firmware cfg lt b act).At (Activates .wifi) c)
    (hnone : NoneIn ((firmware cfg lt b act).At (Activates .wifi)) (e + 1) c)
    (hcg : c < g) (hg : (firmware cfg lt b act).At (Calls .lifxLoop) g)
    (hnone' : NoneIn ((firmware cfg lt b act).At (Calls .lifxLoop)) (c + 1) g)
    (hgk : g < k) (hk : (firmware cfg lt b act).At (Calls .lifxLoop) k)
    (hnone'' : NoneIn ((firmware cfg lt b act).At (Calls .lifxLoop)) (g + 1) k) :
    (firmware cfg lt b act).At PassesGate g ∧ (firmware cfg lt b act).At Sends k ∧
      (∃ s, (firmware cfg lt b act).state k = some s ∧ s.sent = []) ∧
      (0 ≤ b.sock → ∃ s, (firmware cfg lt b act).state (k + 1) = some s ∧
        s.sent.map Prod.fst = [broadcastRequest b.sock]) ∧
      (b.sock < 0 → (firmware cfg lt b act).state (k + 1) = none) := by
  have hgate : (firmware cfg lt b act).At PassesGate g := by
    obtain ⟨s, hs, hcall⟩ := hg
    refine ⟨s, hs, hcall, waitWifi_of_le hfirst hnone hnone' le_rfl hs, ?_⟩
    refine (connection_of_state hs).mpr ⟨c, hcg, assigns_of_gotIp he hec hc hnone, ?_⟩
    rintro j hcj hjg ⟨u, hu, hact, -⟩
    obtain ⟨-, -, hpc⟩ := hact.1.exists_io
    exact absurd (hpc.symm.trans (pc_of_check hc hcj (hnone'.mono le_rfl hjg.le) hu)) (by decide)
  have hsends := sends_of_passesGate hgate hgk hk hnone''
  have hnever : NoneIn ((firmware cfg lt b act).At Sends) 0 k := by
    rintro m - hmk ⟨s, hs, hcall, htx⟩
    rcases Nat.lt_or_ge g m with hgm | hmg
    · exact hnone'' m hgm hmk ⟨s, hs, hcall⟩
    · rw [waitWifi_of_le hfirst hnone hnone' hmg hs] at htx
      exact absurd htx (by decide)
  refine ⟨hgate, hsends, ?_⟩
  obtain ⟨s, hs, hsend⟩ := hsends
  rw [firmware_act] at hsend
  have hclient := (clientInv_of_state hs).eq_none_iff
  refine ⟨⟨s, hs, sent_eq_nil hnever hs⟩, fun hsock ↦ ?_, fun hsock ↦ ?_⟩
  · have hstep : Sys.step cfg lt s (act k) ≠ none := fun hno ↦
      absurd (hclient.mp ((step_eq_none_iff_of_sends hsend).mp hno)) (by omega)
    obtain ⟨s', hs'⟩ := Option.ne_none_iff_exists'.mp hstep
    refine ⟨s', (Run.state_succ_of hs).trans hs', ?_⟩
    rw [step_sent (sameClient_of_state hs) hs', if_pos hsend, sent_eq_nil hnever hs]
    rfl
  · exact (Run.state_succ_of hs).trans ((step_eq_none_iff_of_sends hsend).mpr (hclient.mpr hsock))

theorem first_request_of_connectedPasses :
    (∃ s, (runOf .switchOff connectedPasses).state 7 = some s ∧ s.sent = []) ∧
      ∃ s, (runOf .switchOff connectedPasses).state 8 = some s ∧
        s.sent.map Prod.fst = [broadcastRequest 3] := by
  have he : (runOf .switchOff connectedPasses).At (Handles .ipEventStaGotIp) 0 := by decide +kernel
  have hc : (runOf .switchOff connectedPasses).At (Activates .wifi) 1 := by decide +kernel
  have hg : (runOf .switchOff connectedPasses).At (Calls .lifxLoop) 2 := by decide +kernel
  have hk : (runOf .switchOff connectedPasses).At (Calls .lifxLoop) 7 := by decide +kernel
  have hnone : ∀ m < 7, 3 ≤ m → ¬ (runOf .switchOff connectedPasses).At (Calls .lifxLoop) m := by
    decide +kernel
  obtain ⟨-, -, hbefore, hafter, -⟩ := first_request defaultConfig .block (defaultBoot .switchOff)
    (schedule connectedPasses) 0 1 2 7 he (noneIn_self _ 0) (by decide) hc (noneIn_self _ 1)
    (by decide) hg (noneIn_self _ 2) (by decide) hk fun m h3m hm ↦ hnone m hm h3m
  exact ⟨hbefore, hafter (by decide)⟩

end BedroomLights
