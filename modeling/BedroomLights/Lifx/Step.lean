import BedroomLights.Client.Datagram
import BedroomLights.Firmware.Step

/-!
# What a call of `lifx_loop` can do

`LifxStep` lists the ways a call of `lifx_loop` can go that do not go wrong, one constructor for
each, with the condition under which it is taken; `lifxLoop_eq_none_iff` lists the ways it can go
wrong.  Everything said about the state machine later is proved from these two.
-/

set_option autoImplicit false

open Transition

namespace BedroomLights

variable {cfg : SdkConfig} {lt : Lifetime} {now : TickType} {wifiConnection : WifiState}
  {sendto : ℤ} {recv : RecvFrom} {l l' : Lifx} {sent : List (UdpTx × LxErr)} {s s' : Sys}
  {a : Action}

/-- The call of `udp_tx` that a request of `lifx_loop` becomes. -/
def request (client : LxClient) : UdpTx :=
  lxClientSendMessage client lxBroadcastDevice ⟨lxPacketGetService, none⟩

/-- The ways that a call of `lifx_loop` can go. -/
inductive LifxStep (cfg : SdkConfig) (lt : Lifetime) (now : TickType) (wifiConnection : WifiState)
    (sendto : ℤ) (recv : RecvFrom) (l : Lifx) : Lifx → List (UdpTx × LxErr) → Prop where
  /-- There is no connection yet. -/
  | waitWifi (state : l.state = .waitWifi) (hwifi : wifiConnection ≠ .wifiConnected) :
    LifxStep cfg lt now wifiConnection sendto recv l l []
  /-- There is a connection. -/
  | gate (state : l.state = .waitWifi) (hwifi : wifiConnection = .wifiConnected) :
    LifxStep cfg lt now wifiConnection sendto recv l { l with state := .tx } []
  /-- A request is sent. -/
  | send (client : LxClient) (state : l.state = .tx) (hclient : l.lxClient = some client) :
    LifxStep cfg lt now wifiConnection sendto recv l { l with lastSend := now, state := .rx }
      [(request client, lxUdpTx sendto)]
  /-- No answer has come in time. -/
  | timeout (state : l.state = .rx) (late : now - l.lastSend > lifxResendPeriod cfg) :
    LifxStep cfg lt now wifiConnection sendto recv l { l with state := .tx } []
  /-- A poll without an answer. -/
  | poll (client : LxClient) (state : l.state = .rx)
    (early : ¬ now - l.lastSend > lifxResendPeriod cfg) (hclient : l.lxClient = some client)
    (hno : ¬ recv.Accepted) :
    LifxStep cfg lt now wifiConnection sendto recv l
      { l with lxClient := some { client with rxBuf := recv.store client.rxBuf } } []
  /-- An answer, on a compiler that lets `message` outlive its block. -/
  | answer (client : LxClient) (state : l.state = .rx)
    (early : ¬ now - l.lastSend > lifxResendPeriod cfg) (hclient : l.lxClient = some client)
    (hacc : recv.Accepted) (hlt : lt = .function) :
    LifxStep cfg lt now wifiConnection sendto recv l
      { l with lxClient := some { client with rxBuf := recv.store client.rxBuf },
               state := .delayStart } []
  /-- The delay begins. -/
  | delayStart (state : l.state = .delayStart) :
    LifxStep cfg lt now wifiConnection sendto recv l { l with waitStart := now, state := .delay } []
  /-- The delay is over. -/
  | delayEnd (state : l.state = .delay) (late : now - l.waitStart > waitTime cfg) :
    LifxStep cfg lt now wifiConnection sendto recv l { l with state := .tx } []
  /-- The delay goes on. -/
  | delay (state : l.state = .delay) (early : ¬ now - l.waitStart > waitTime cfg) :
    LifxStep cfg lt now wifiConnection sendto recv l l []

/-- The callback on an answer: it goes wrong exactly where reading `message` does. -/
theorem eventCb_answer (lt : Lifetime) (buf : Buffer Byte rxBufSz) (state : UdpState) :
    eventCb lt (.lxEventMsgRx (Scoped.declare (stateServiceMessage buf)).leaveBlock) state =
      if lt = .function then some .delayStart else none := by
  cases lt with
  | block => simp [eventCb]
  | function =>
    have hpayload : (ArrayPtr.mk buf.bytes sizeofLxProtocolHeader).read?
        sizeofLxStateServicePayload = some ((buf.bytes.drop 36).take 5) :=
      ArrayPtr.read?_of_le (by rw [buf.length_bytes]; exact (by decide : 36 + 5 ≤ 1024))
    have hback : (ArrayPtr.mk buf.bytes sizeofLxProtocolHeader).back? sizeofLxProtocolHeader =
        some ⟨buf.bytes, 0⟩ := ArrayPtr.back?_of_le le_rfl
    have hheader : (ArrayPtr.mk buf.bytes 0).read? sizeofLxProtocolHeader =
        some ((buf.bytes.drop 0).take 36) :=
      ArrayPtr.read?_of_le (by rw [buf.length_bytes]; exact (by decide : 0 + 36 ≤ 1024))
    simp [eventCb, stateServiceMessage, hback, hheader, hpayload]

/-- A poll and its callback: the client and the state they leave. -/
theorem poll_eq (lt : Lifetime) (client : LxClient) (recv : RecvFrom) (state : UdpState) :
    (match (lxClientPoll client recv).2 with
      | none => some state
      | some event => eventCb lt event state) =
    if recv.Accepted then (if lt = .function then some .delayStart else none) else some state := by
  rw [lxClientPoll_eq]
  by_cases hacc : recv.Accepted
  · simp only [if_pos hacc, eventCb_answer]
  · by_cases herr : recv.Error
    · simp only [if_neg hacc, if_pos herr, eventCb]
    · simp only [if_neg hacc, if_neg herr]

/-- The `RX` branch, as long as the time for an answer is not over. -/
theorem lifxLoop_rx (state : l.state = .rx) (early : ¬ now - l.lastSend > lifxResendPeriod cfg) :
    lifxLoop cfg lt now wifiConnection sendto recv l = l.lxClient.bind fun client ↦
      (if recv.Accepted then (if lt = .function then some .delayStart else none)
        else some l.state).map fun state ↦
          ({ l with lxClient := some { client with rxBuf := recv.store client.rxBuf },
                    state := state }, []) := by
  rw [lifxLoop]
  simp only [state, if_neg early]
  cases l.lxClient with
  | none => rfl
  | some client =>
    rw [← poll_eq lt client recv]
    simp only [lxClientPoll_eq, Option.bind_eq_bind, Option.bind_some]
    by_cases hacc : recv.Accepted
    · simp only [if_pos hacc, eventCb_answer]
      cases lt <;> rfl
    · by_cases herr : recv.Error
      · simp only [if_neg hacc, if_pos herr, eventCb]
        rfl
      · simp only [if_neg hacc, if_neg herr]
        rfl

/-- Every call that does not go wrong is one of these. -/
theorem lifxStep_of_lifxLoop
    (h : lifxLoop cfg lt now wifiConnection sendto recv l = some (l', sent)) :
    LifxStep cfg lt now wifiConnection sendto recv l l' sent := by
  cases state : l.state with
  | waitWifi =>
    rw [lifxLoop] at h
    simp only [state, Option.some_inj, Prod.mk.injEq] at h
    obtain ⟨rfl, rfl⟩ := h
    split_ifs with hwifi
    · exact .gate state hwifi
    · exact .waitWifi state hwifi
  | tx =>
    rw [lifxLoop] at h
    simp only [state] at h
    obtain ⟨client, hclient, h⟩ := Option.bind_eq_some_iff.mp h
    rw [Option.some_inj, Prod.mk.injEq] at h
    obtain ⟨rfl, rfl⟩ := h
    exact .send client state hclient
  | rx =>
    by_cases late : now - l.lastSend > lifxResendPeriod cfg
    · rw [lifxLoop] at h
      simp only [state, if_pos late, Option.some_inj, Prod.mk.injEq] at h
      obtain ⟨rfl, rfl⟩ := h
      exact .timeout state late
    · rw [lifxLoop_rx state late] at h
      obtain ⟨client, hclient, h⟩ := Option.bind_eq_some_iff.mp h
      obtain ⟨next, hnext, h⟩ := Option.map_eq_some_iff.mp h
      rw [Prod.mk.injEq] at h
      obtain ⟨rfl, rfl⟩ := h
      split_ifs at hnext with hacc hlt
      · obtain rfl := Option.some_inj.mp hnext
        exact .answer client state late hclient hacc hlt
      · obtain rfl := Option.some_inj.mp hnext
        exact .poll client state late hclient hacc
  | delayStart =>
    rw [lifxLoop] at h
    simp only [state, Option.some_inj, Prod.mk.injEq] at h
    obtain ⟨rfl, rfl⟩ := h
    exact .delayStart state
  | delay =>
    rw [lifxLoop] at h
    simp only [state, Option.some_inj, Prod.mk.injEq] at h
    obtain ⟨rfl, rfl⟩ := h
    split_ifs with late
    · exact .delayEnd state late
    · exact .delay state late

/-- A call goes wrong when it uses a client that has not been created, or on an answer where the
message does not outlive its block. -/
theorem lifxLoop_eq_none_iff :
    lifxLoop cfg lt now wifiConnection sendto recv l = none ↔
      (l.state = .tx ∧ l.lxClient = none) ∨
      (l.state = .rx ∧ ¬ now - l.lastSend > lifxResendPeriod cfg ∧
        (l.lxClient = none ∨ (recv.Accepted ∧ lt = .block))) := by
  cases state : l.state with
  | tx =>
    rw [lifxLoop]
    cases l.lxClient <;> simp [state]
  | rx =>
    by_cases late : now - l.lastSend > lifxResendPeriod cfg
    · rw [lifxLoop]
      simp [state, late]
    · rw [lifxLoop_rx state late]
      cases hclient : l.lxClient <;> by_cases hacc : recv.Accepted <;> cases lt <;>
        simp [hacc, late]
  | _ =>
    rw [lifxLoop]
    simp [state]

/-- What a call of `lifx_loop` does to the program. -/
theorem lifxStep_of_step (h : Sys.step cfg lt s a = some s') (hc : Calls .lifxLoop s a) :
    ∃ io sent, a = .loop io ∧
      LifxStep cfg lt io.now s.wifi.wifiConnection io.sendto io.recv s.lifx s'.lifx sent ∧
        s'.sent = s.sent ++ sent := by
  obtain ⟨io, rfl, hpc⟩ := hc.exists_io
  obtain ⟨sent, hloop, hsent⟩ := step_lifx_of_calls h hpc
  exact ⟨io, sent, rfl, lifxStep_of_lifxLoop hloop, hsent⟩

/-! ## Occurrences -/

/-- A call of `lifx_loop` that sends a request. -/
def Sends (s : Sys) (a : Action) : Prop := Calls .lifxLoop s a ∧ s.lifx.state = .tx

/-- A call of `lifx_loop` whose poll accepts an answer. -/
def Answered (cfg : SdkConfig) (s : Sys) : Action → Prop
  | .loop io => s.pc = .lifxLoop ∧ s.lifx.state = .rx ∧
      ¬ io.now - s.lifx.lastSend > lifxResendPeriod cfg ∧ io.recv.Accepted
  | _ => False

instance (s : Sys) (a : Action) : Decidable (Sends s a) := inferInstanceAs (Decidable (_ ∧ _))

instance (cfg : SdkConfig) (s : Sys) : (a : Action) → Decidable (Answered cfg s a)
  | .loop _ => inferInstanceAs (Decidable (_ ∧ _))
  | .event _ | .dmxTimerIsr _ | .dmxUartIsrTxData _ | .dmxUartIsrTxDone =>
    inferInstanceAs (Decidable False)

theorem Answered.calls {a : Action} (h : Answered cfg s a) : Calls .lifxLoop s a := by
  cases a with
  | loop io => exact h.1
  | _ => exact h.elim

end BedroomLights
