import BedroomLights.Firmware.Socket
import BedroomLights.Lifx.Step

/-!
# Is a reply the reply to the latest request?

A request says nothing that a reply could repeat, the decoder compares nothing with the request,
and nobody empties the socket: a reply that nobody has polled for stays there through the delay and
through the next request.  So the message that ends a cycle is the first acceptable one in the
socket, whichever request it answers.  `accepted_fresh_iff` says when it has arrived after the
latest request: when no other one was waiting at the time of the request.
-/

set_option autoImplicit false

open Transition

namespace BedroomLights

variable {cfg : SdkConfig} {lt : Lifetime} {b : Boot} {i k : ℕ} {s s' : Sys} {a : Action}

/-! ## Polling begins with a request -/

/-- Only a request brings the state machine to `RX`. -/
theorem sends_of_step (h : Sys.step cfg lt s a = some s') (hs : s.lifx.state ≠ .rx)
    (hs' : s'.lifx.state = .rx) : Sends s a := by
  by_cases hc : Calls .lifxLoop s a
  · obtain ⟨io, sent, rfl, hlifx, -⟩ := lifxStep_of_step h hc
    generalize hl : s'.lifx = l at hlifx
    rw [hl] at hs'
    cases hlifx with
    | send client state => exact ⟨hc, state⟩
    | waitWifi | delay | poll => exact absurd hs' hs
    | _ => exact absurd hs' (by simp)
  · rw [(step_lifx_of_not_calls h hc).1] at hs'
    exact absurd hs' hs

/-- An answer takes it away from there. -/
theorem Answered.not_rx (hans : Answered cfg s a) (h : Sys.step cfg lt s a = some s') :
    s'.lifx.state ≠ .rx := by
  obtain ⟨io, sent, rfl, hlifx, -⟩ := lifxStep_of_step h hans.calls
  obtain ⟨-, hrx, hearly, hacc⟩ := hans
  generalize s'.lifx = l at hlifx
  cases hlifx with
  | timeout _ late => exact absurd late hearly
  | poll _ _ _ _ hno => exact absurd hacc hno
  | answer => simp
  | _ => simp_all

theorem exists_sends {act : ℕ → Action} {t : Sys} (hik : i ≤ k)
    (hi : (firmware cfg lt b act).state i = some s) (hs : s.lifx.state ≠ .rx)
    (hk : (firmware cfg lt b act).state k = some t) (ht : t.lifx.state = .rx) :
    ∃ j, i ≤ j ∧ j < k ∧ (firmware cfg lt b act).At Sends j :=
  Run.exists_at_of_change (fun s : Sys ↦ s.lifx.state = .rx) (fun _ _ _ ↦ sends_of_step) hik hi hs
    hk ht

/-! ## Requests and replies at the socket -/

variable {act : ℕ → NetAction} {n m : Net}

/-- An answer is the oldest datagram in the socket. -/
theorem answered_iff : ∀ {a : NetAction}, OfProgram (Answered cfg) n a ↔
    OfProgram (Polls cfg) n a ∧ ∃ d, n.socket.head? = some d ∧ d.recv.Accepted
  | .arrive _ => iff_of_false id fun h ↦ h.1
  | .program a => by
    have haccepted : (recvfrom n.socket).Accepted ↔
        ∃ d, n.socket.head? = some d ∧ d.recv.Accepted := by
      cases n.socket with
      | nil => simp [recvfrom, RecvFrom.Accepted]
      | cons d socket => simp [recvfrom]
    rw [← haccepted]
    cases a with
    | loop io =>
      refine ⟨?_, ?_⟩
      · rintro ⟨hpc, hrx, hearly, hacc⟩
        exact ⟨⟨hpc, hrx, hearly⟩, hacc⟩
      · rintro ⟨⟨hpc, hrx, hearly⟩, hacc⟩
        exact ⟨hpc, hrx, hearly, hacc⟩
    | _ => exact iff_of_false id fun h ↦ h.1

theorem polls_of_ofProgram : ∀ {a : NetAction}, OfProgram (Polls cfg) n a →
    n.sys.pc = .lifxLoop ∧ n.sys.lifx.state = .rx
  | .program (.loop _), h => ⟨h.1, h.2.1⟩

/-- The latest request before an answer. -/
theorem exists_newest_sends (hn : (network cfg lt b act).state k = some n)
    (hacc : OfProgram (Answered cfg) n (act k)) :
    ∃ i, Newest ((network cfg lt b act).At (OfProgram Sends)) k i := by
  have hsends : ∀ s, ¬ Sends s (.event .other) := fun s h ↦ h.1
  have hrx : n.sys.lifx.state = .rx := (polls_of_ofProgram (answered_iff.mp hacc).1).2
  have hboot : (Sys.boot b).lifx.state = .waitWifi := rfl
  obtain ⟨j, -, hjk, hj⟩ := exists_sends (Nat.zero_le k) (Run.state_zero _)
    (hboot.trans_ne (by decide)) (firmware_state hn) hrx
  obtain ⟨i, -, hi⟩ := exists_newest hjk ((network_at_iff hsends).mpr hj)
  exact ⟨i, hi⟩

/-- Since the latest request there has been no answer. -/
theorem not_answered_of_newest (hi : Newest ((network cfg lt b act).At (OfProgram Sends)) k i)
    (hn : (network cfg lt b act).state k = some n) (hrx : n.sys.lifx.state = .rx) {j : ℕ}
    (hij : i ≤ j) (hjk : j < k) : ¬ (network cfg lt b act).At (OfProgram (Answered cfg)) j := by
  intro hj
  obtain ⟨s, hs, hans⟩ := (network_at_iff fun _ h ↦ h).mp hj
  obtain ⟨t, ht⟩ := Run.exists_state_of_le (Nat.succ_le_of_lt hjk) (firmware_state hn)
  have hstep : Sys.step cfg lt s (programAct cfg lt b act j) = some t :=
    (Run.state_succ_of hs).symm.trans ht
  obtain ⟨l, hjl, hlk, hl⟩ := exists_sends (Nat.succ_le_of_lt hjk) ht (hans.not_rx hstep)
    (firmware_state hn) hrx
  exact hi.none l (by omega) hlk ((network_at_iff fun _ h ↦ h.1).mpr hl)

/-! ## Which request a reply follows -/

theorem eq_arrive_of_arrival {d : Datagram} : ∀ {a : NetAction}, arrival n a = some d →
    a = .arrive d
  | .arrive _, h => congrArg NetAction.arrive (Option.some_inj.mp h)

/-- The message that step `k` accepts is `x`, and the latest request before it is that of step
`i`. -/
structure AcceptedAt (cfg : SdkConfig) (lt : Lifetime) (b : Boot) (act : ℕ → NetAction) (k i : ℕ)
    (x : Entry Datagram) : Prop where
  send : Newest ((network cfg lt b act).At (OfProgram Sends)) k i
  /-- It is the oldest datagram in the socket. -/
  oldest : (arrivals cfg lt b act k).head? = some x
  /-- It has arrived at an earlier step. -/
  arrived : x.step < k ∧ act x.step = .arrive x.item
  accepted : x.item.recv.Accepted

theorem exists_acceptedAt (hn : (network cfg lt b act).state k = some n)
    (hacc : OfProgram (Answered cfg) n (act k)) : ∃ i x, AcceptedAt cfg lt b act k i x := by
  obtain ⟨i, hi⟩ := exists_newest_sends hn hacc
  obtain ⟨-, d, hd, haccepted⟩ := answered_iff.mp hacc
  rw [← map_item_arrivals hn, List.head?_map, Option.map_eq_some_iff] at hd
  obtain ⟨x, hx, rfl⟩ := hd
  obtain ⟨hxk, s, -, hput⟩ := Run.put_of_mem_queue (List.mem_of_mem_head? hx)
  exact ⟨i, x, hi, hx, ⟨hxk, eq_arrive_of_arrival hput⟩, haccepted⟩

/-- **Which request a reply follows.**  Every message that is accepted is the oldest datagram in
the socket, and there has been a request before.  It has arrived after the latest one if and only
if no acceptable message was in the socket at the time of that request. -/
theorem accepted_fresh_iff (cfg : SdkConfig) (lt : Lifetime) (b : Boot) (act : ℕ → NetAction)
    (k : ℕ) (n : Net) (hn : (network cfg lt b act).state k = some n)
    (hacc : OfProgram (Answered cfg) n (act k)) :
    ∃ i x m, AcceptedAt cfg lt b act k i x ∧ (network cfg lt b act).state i = some m ∧
      (i < x.step ↔ ∀ d ∈ m.socket, ¬ d.recv.Accepted) := by
  obtain ⟨i, x, hx⟩ := exists_acceptedAt hn hacc
  obtain ⟨m, hm, hsend⟩ := hx.send.holds
  refine ⟨i, x, m, hx, hm, ?_⟩
  rcases Run.head_old_or_new hx.send.lt.le hn hx.oldest with hold | ⟨hix, hall⟩
  · have hstep : x.step < i := (Run.put_of_mem_queue hold).1
    have hmem : x.item ∈ m.socket := map_item_arrivals hm ▸ List.mem_map_of_mem hold
    exact iff_of_false (Nat.lt_asymm hstep) fun hno ↦ hno x.item hmem hx.accepted
  · have hne : i ≠ x.step := by
      intro heq
      rw [network_act, heq, hx.arrived.2] at hsend
      exact hsend
    refine iff_of_true (Nat.lt_of_le_of_ne hix hne) fun d hd haccepted ↦ ?_
    rw [← map_item_arrivals hm, List.mem_map] at hd
    obtain ⟨y, hy, rfl⟩ := hd
    -- a poll since the request has found `y` at the head, and would have accepted it
    obtain ⟨j, hij, hjk, ⟨u, hu, hpolls⟩, hhead⟩ := hall y hy
    have hsocket : u.socket.head? = some y.item := by
      rw [← map_item_arrivals hu, List.head?_map, hhead, Option.map_some]
    exact not_answered_of_newest hx.send hn (polls_of_ofProgram (answered_iff.mp hacc).1).2 hij hjk
      ⟨u, hu, answered_iff.mpr ⟨hpolls, y.item, hsocket, haccepted⟩⟩

/-- A reply from the bulb with this address. -/
def replyFrom (ipAddr : BitVec 32) : Datagram :=
  ⟨.afInet, stateServiceHeader ++ udpServicePayload, 56700, ipAddr⟩

/-- A request that two bulbs reply to, the delay, and a request that none replies to. -/
def twoReplies : List NetAction :=
  ([Action.event .ipEventStaGotIp] ++ pass .switchOff 1 ++
      pass .switchOff 2).map NetAction.program ++
    [.arrive (replyFrom 1), .arrive (replyFrom 2)] ++
    (pass .switchOff 3 ++ pass .switchOff 4 ++ pass .switchOff 255 ++ pass .switchOff 256 ++
      pass .switchOff 257).map NetAction.program

/-- These actions, and then for ever an event that nobody handles. -/
def twoRepliesAct (k : ℕ) : NetAction := twoReplies.getD k (.program (.event .other))

/-- The run of these actions, where `message` outlives its block. -/
abbrev twoRepliesRun : Run Net NetAction :=
  network defaultConfig .function (defaultBoot .switchOff) twoRepliesAct

theorem accepted_fresh_iff_of_twoReplies :
    ∃ i x m, AcceptedAt defaultConfig .function (defaultBoot .switchOff) twoRepliesAct 14 i x ∧
      twoRepliesRun.state i = some m ∧ (i < x.step ↔ ∀ d ∈ m.socket, ¬ d.recv.Accepted) := by
  obtain ⟨n, hn, hacc⟩ : twoRepliesRun.At (OfProgram (Answered defaultConfig)) 14 := by
    decide +kernel
  exact accepted_fresh_iff defaultConfig .function (defaultBoot .switchOff) twoRepliesAct 14 n hn
    hacc

/-- The second bulb's reply to the first request ends the cycle of the second. -/
theorem not_accepted_fresh : ¬ ∀ (cfg : SdkConfig) (lt : Lifetime) (b : Boot)
    (act : ℕ → NetAction) (k i : ℕ) (x : Entry Datagram),
    (network cfg lt b act).At (OfProgram (Answered cfg)) k →
      AcceptedAt cfg lt b act k i x → i < x.step := by
  intro hall
  have hacc : twoRepliesRun.At (OfProgram (Answered defaultConfig)) 34 := by decide +kernel
  have hsend : twoRepliesRun.At (OfProgram Sends) 29 := by decide +kernel
  have hno : ∀ m < 34, 29 < m → ¬ twoRepliesRun.At (OfProgram Sends) m := by decide +kernel
  have holdest :
      (arrivals defaultConfig .function (defaultBoot .switchOff) twoRepliesAct 34).head? =
        some ⟨12, replyFrom 2⟩ := by decide +kernel
  have hlt := hall defaultConfig .function (defaultBoot .switchOff) twoRepliesAct 34 29
    ⟨12, replyFrom 2⟩ hacc ⟨⟨by decide, hsend, fun m hlow hm ↦ hno m hm hlow⟩, holdest,
      ⟨by decide, rfl⟩, by decide +kernel⟩
  exact absurd hlt (by decide)

end BedroomLights
