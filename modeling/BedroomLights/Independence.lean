import BedroomLights.Firmware.Step

/-!
# Two halves that do not know of each other

The superloop calls everything in turn, but the lights and the network share nothing except the
order of the calls.  What the lights do is decided by the switch, the clock and the interrupts of
the transmitter, and nothing that comes from the access point or from the network can change it, as
long as the program runs at all (`lights_independent`).  The other way round it is even simpler:
what is sent, and whether the program goes wrong, has nothing to do with the lights
(`network_independent`).
-/

set_option autoImplicit false

open Transition

namespace BedroomLights

variable {cfg : SdkConfig} {lt lt' : Lifetime} {b b' : Boot} {act act' : ℕ → Action}
  {s s' t t' : Sys} {a a' : Action}

/-! ## The lights -/

/-- Two actions that are the same for the lights. -/
def SameForLights : Action → Action → Prop
  | .loop io, .loop io' => io.time = io'.time ∧ io.level = io'.level
  | .event _, .event _ => True
  | .dmxTimerIsr room, .dmxTimerIsr room' => room = room'
  | .dmxUartIsrTxData room, .dmxUartIsrTxData room' => room = room'
  | .dmxUartIsrTxDone, .dmxUartIsrTxDone => True
  | _, _ => False

/-- The states of two runs, as far as the lights are concerned. -/
structure SameLights (s t : Sys) : Prop where
  pc : s.pc = t.pc
  lights : s.lights = t.lights
  nextDmxSend : s.nextDmxSend = t.nextDmxSend
  nextSwitchRead : s.nextSwitchRead = t.nextSwitchRead

/-- The lights after a step. -/
def lightsAfter (cfg : SdkConfig) (s : Sys) : Action → Lights
  | .loop io =>
    match s.pc with
    | .wifiLoop | .lifxLoop => s.lights
    | .dmxLoop => (dmxLoop cfg io.now s.nextDmxSend s.lights).2
    | .switchLoop => (switchLoop cfg io.now io.level s.nextSwitchRead s.lights).2
    | .appLoop => appLoop s.lights
  | .event _ => s.lights
  | .dmxTimerIsr room => { s.lights with driver := dmxTimerIsr s.lights.driver room }
  | .dmxUartIsrTxData room => { s.lights with driver := dmxUartIsrTxData s.lights.driver room }
  | .dmxUartIsrTxDone => { s.lights with driver := dmxUartIsrTxDone s.lights.driver }

theorem step_lightsAfter (h : Sys.step cfg lt s a = some s') : s'.lights = lightsAfter cfg s a := by
  cases a with
  | loop io =>
    rw [lightsAfter]
    cases loopStep_of_step h with | _ hpc => rw [hpc]
  | _ => cases h; rfl

theorem SameForLights.pcAfter (ha : SameForLights a a') (hpc : s.pc = t.pc) :
    pcAfter s a = pcAfter t a' := by
  cases a <;> cases a' <;> first | exact ha.elim | exact hpc | exact congrArg LoopCall.next hpc

theorem SameForLights.lightsAfter (ha : SameForLights a a') (h : SameLights s t) :
    lightsAfter cfg s a = lightsAfter cfg t a' := by
  obtain ⟨hpc, hlights, hdmx, hswitch⟩ := h
  cases a <;> cases a' <;> try exact ha.elim
  case loop.loop io io' =>
    obtain ⟨htime, hlevel⟩ := ha
    simp only [BedroomLights.lightsAfter, LoopIo.now, hpc, hlights, hdmx, hswitch, htime, hlevel]
  case event.event => exact hlights
  case dmxUartIsrTxDone.dmxUartIsrTxDone => simp only [BedroomLights.lightsAfter, hlights]
  case dmxTimerIsr.dmxTimerIsr room room' =>
    obtain rfl : room = room' := ha
    simp only [BedroomLights.lightsAfter, hlights]
  case dmxUartIsrTxData.dmxUartIsrTxData room room' =>
    obtain rfl : room = room' := ha
    simp only [BedroomLights.lightsAfter, hlights]

/-- A deadline after a step, where the two runs agree on the clock. -/
theorem nextUpdate_of_same (τ : Task) (hτ : s.nextUpdate τ = t.nextUpdate τ)
    (ha : ∀ f, Calls f s a ↔ Calls f t a') (htime : a.time = a'.time)
    (hs : Sys.step cfg lt s a = some s') (ht : Sys.step cfg lt' t a' = some t') :
    s'.nextUpdate τ = t'.nextUpdate τ := by
  have hact : Activates τ s a ↔ Activates τ t a' := by
    rw [Activates, Activates, ha, hτ, htime]
  rw [step_nextUpdate τ hs, step_nextUpdate τ ht, hτ, htime]
  simp only [hact]

theorem SameForLights.calls (ha : SameForLights a a') (hpc : s.pc = t.pc) (f : LoopCall) :
    Calls f s a ↔ Calls f t a' := by
  cases a <;> cases a' <;> try exact ha.elim
  case loop.loop => rw [Calls, Calls, hpc]
  all_goals exact Iff.rfl

theorem SameForLights.time (ha : SameForLights a a') : a.time = a'.time := by
  cases a <;> cases a' <;> first | exact ha.elim | exact ha.1 | rfl

theorem SameLights.step (h : SameLights s t) (ha : SameForLights a a')
    (hs : Sys.step cfg lt s a = some s') (ht : Sys.step cfg lt' t a' = some t') :
    SameLights s' t' where
  pc := by rw [step_pc hs, step_pc ht, ha.pcAfter h.pc]
  lights := by rw [step_lightsAfter hs, step_lightsAfter ht, ha.lightsAfter h]
  nextDmxSend :=
    nextUpdate_of_same .dmx h.nextDmxSend (ha.calls h.pc) ha.time hs ht
  nextSwitchRead :=
    nextUpdate_of_same .switch h.nextSwitchRead (ha.calls h.pc) ha.time hs ht

/-- **Nothing from the network reaches the lights.**  Two runs with the same switch, the same times
and the same interrupts of the transmitter have the same lights, and so the same packets on the
wire, as long as they both run: whatever the access point and the network do in either of them,
whatever socket they have got, and whatever the compiler makes of an object that is gone. -/
theorem lights_independent (cfg : SdkConfig) (lt lt' : Lifetime) (b b' : Boot)
    (act act' : ℕ → Action) (hlevel : b.level = b'.level)
    (hact : ∀ k, SameForLights (act k) (act' k)) (k : ℕ) (s t : Sys)
    (hs : (firmware cfg lt b act).state k = some s)
    (ht : (firmware cfg lt' b' act').state k = some t) :
    s.lights = t.lights ∧ s.lights.driver.packets = t.lights.driver.packets := by
  have hsame : SameLights s t := by
    refine Run.related (I := SameLights) ?_ ?_ hs ht
    · exact ⟨rfl, congrArg lightsInit hlevel, rfl, rfl⟩
    · exact fun k s t s' t' h hs ht ↦ h.step (hact k) hs ht
  exact ⟨hsame.lights, by rw [hsame.lights]⟩

/-- Two schedules that are the same action by action. -/
theorem schedule_of_forall₂ {P : Action → Action → Prop} {actions actions' : List Action}
    (h : List.Forall₂ P actions actions') (hother : P (.event .other) (.event .other)) (k : ℕ) :
    P (schedule actions k) (schedule actions' k) := by
  induction h generalizing k with
  | nil => exact hother
  | cons ha _ ih =>
    cases k with
    | zero => exact ha
    | succ k => exact ih k

/-- The switch is turned on when there is a connection. -/
def turnedOnConnected : List Action := .event .ipEventStaGotIp :: pass .switchOn 1

/-- The switch is turned on when there is none. -/
def turnedOnAlone : List Action := .event .other :: pass .switchOn 1

theorem lights_independent_of_turnedOn :
    ∃ s t, (runOf .switchOff turnedOnConnected).state 6 = some s ∧
      (firmware defaultConfig .function ⟨-1, Buffer.fill rxBufSz 0, .switchOff⟩
        (schedule turnedOnAlone)).state 6 = some t ∧ s.lights = t.lights := by
  have hrun : (runOf .switchOff turnedOnConnected).At (fun _ _ ↦ True) 6 := by decide +kernel
  have hrun' : (firmware defaultConfig .function ⟨-1, Buffer.fill rxBufSz 0, .switchOff⟩
      (schedule turnedOnAlone)).At (fun _ _ ↦ True) 6 := by decide +kernel
  have hsame : List.Forall₂ SameForLights turnedOnConnected turnedOnAlone :=
    .cons trivial <| .cons ⟨rfl, rfl⟩ <| .cons ⟨rfl, rfl⟩ <| .cons ⟨rfl, rfl⟩ <|
      .cons ⟨rfl, rfl⟩ <| .cons ⟨rfl, rfl⟩ .nil
  obtain ⟨s, hs, -⟩ := hrun
  obtain ⟨t, ht, -⟩ := hrun'
  exact ⟨s, t, hs, ht, (lights_independent defaultConfig .block .function (defaultBoot .switchOff)
    ⟨-1, Buffer.fill rxBufSz 0, .switchOff⟩ (schedule turnedOnConnected) (schedule turnedOnAlone)
    rfl (schedule_of_forall₂ hsame trivial) 6 s t hs ht).1⟩

/-! ## The network -/

/-- Two actions that are the same for the network. -/
def SameForNetwork : Action → Action → Prop
  | .loop io, .loop io' => io.time = io'.time ∧ io.sendto = io'.sendto ∧ io.recv = io'.recv
  | .event event, .event event' => event = event'
  | .loop _, _ | _, .loop _ | .event _, _ | _, .event _ => False
  -- any two interrupts of the transmitter
  | _, _ => True

/-- The states of two runs, as far as the network is concerned. -/
structure SameNetwork (s t : Sys) : Prop where
  pc : s.pc = t.pc
  wifi : s.wifi = t.wifi
  nextWifiUpdate : s.nextWifiUpdate = t.nextWifiUpdate
  lifx : s.lifx = t.lifx
  sent : s.sent = t.sent

theorem SameForNetwork.calls (ha : SameForNetwork a a') (hpc : s.pc = t.pc) (f : LoopCall) :
    Calls f s a ↔ Calls f t a' := by
  cases a <;> cases a' <;> try exact ha.elim
  case loop.loop => rw [Calls, Calls, hpc]
  all_goals exact Iff.rfl

theorem SameForNetwork.time (ha : SameForNetwork a a') : a.time = a'.time := by
  cases a <;> cases a' <;> first | exact ha.elim | exact ha.1 | rfl

theorem SameForNetwork.pcAfter (ha : SameForNetwork a a') (hpc : s.pc = t.pc) :
    pcAfter s a = pcAfter t a' := by
  cases a <;> cases a' <;> first | exact ha.elim | exact hpc | exact congrArg LoopCall.next hpc

theorem SameNetwork.wifiAfter (h : SameNetwork s t) (ha : SameForNetwork a a') :
    wifiAfter cfg s a = wifiAfter cfg t a' := by
  obtain ⟨hpc, hwifi, hnext, -, -⟩ := h
  cases a <;> cases a' <;> try exact ha.elim
  case loop.loop io io' =>
    simp only [BedroomLights.wifiAfter, LoopIo.now, hpc, hwifi, hnext, ha.1]
  case event.event event event' =>
    obtain rfl : event = event' := ha
    simp only [BedroomLights.wifiAfter, hwifi]
  all_goals exact hwifi

/-- The state machine and its requests after a step. -/
theorem SameNetwork.lifx_sent (h : SameNetwork s t) (ha : SameForNetwork a a')
    (hs : Sys.step cfg lt s a = some s') (ht : Sys.step cfg lt t a' = some t') :
    s'.lifx = t'.lifx ∧ s'.sent = t'.sent := by
  by_cases hc : Calls .lifxLoop s a
  · have hc' := (ha.calls h.pc .lifxLoop).mp hc
    obtain ⟨io, rfl, hpc⟩ := hc.exists_io
    obtain ⟨io', rfl, hpc'⟩ := hc'.exists_io
    obtain ⟨htime, hsendto, hrecv⟩ := ha
    obtain ⟨sent, hloop, hsent⟩ := step_lifx_of_calls hs hpc
    obtain ⟨sent', hloop', hsent'⟩ := step_lifx_of_calls ht hpc'
    rw [LoopIo.now, htime, hsendto, hrecv, h.wifi, h.lifx] at hloop
    rw [LoopIo.now, hloop, Option.some_inj, Prod.mk.injEq] at hloop'
    exact ⟨hloop'.1, by rw [hsent, hsent', h.sent, hloop'.2]⟩
  · have hc' := mt (ha.calls h.pc .lifxLoop).mpr hc
    obtain ⟨hlifx, hsent⟩ := step_lifx_of_not_calls hs hc
    obtain ⟨hlifx', hsent'⟩ := step_lifx_of_not_calls ht hc'
    exact ⟨by rw [hlifx, hlifx', h.lifx], by rw [hsent, hsent', h.sent]⟩

theorem SameNetwork.step (h : SameNetwork s t) (ha : SameForNetwork a a')
    (hs : Sys.step cfg lt s a = some s') (ht : Sys.step cfg lt t a' = some t') :
    SameNetwork s' t' where
  pc := by rw [step_pc hs, step_pc ht, ha.pcAfter h.pc]
  wifi := by rw [step_wifi hs, step_wifi ht, h.wifiAfter ha]
  nextWifiUpdate := nextUpdate_of_same .wifi h.nextWifiUpdate (ha.calls h.pc) ha.time hs ht
  lifx := (h.lifx_sent ha hs ht).1
  sent := (h.lifx_sent ha hs ht).2

/-- Two steps that are the same for the network go wrong together. -/
theorem SameNetwork.wrong (h : SameNetwork s t) (ha : SameForNetwork a a') :
    Sys.step cfg lt s a = none ↔ Sys.step cfg lt t a' = none := by
  rw [step_eq_none_iff, step_eq_none_iff]
  cases a <;> cases a' <;> try exact ha.elim
  case loop.loop io io' =>
    obtain ⟨htime, hsendto, hrecv⟩ := ha
    simp [LoopIo.now, h.pc, h.wifi, h.lifx, htime, hsendto, hrecv]
  all_goals simp

/-- **The lights do not reach the network.**  Two runs from the same socket with the same network,
the same access point and the same times send the same requests, and go wrong at the same step if
they do: wherever the switch is in either of them, and whatever the transmitter does. -/
theorem network_independent (cfg : SdkConfig) (lt : Lifetime) (b b' : Boot)
    (act act' : ℕ → Action) (hsock : b.sock = b'.sock) (hbuf : b.rxBuf = b'.rxBuf)
    (hact : ∀ k, SameForNetwork (act k) (act' k)) (k : ℕ) :
    ((firmware cfg lt b act).state k = none ↔ (firmware cfg lt b' act').state k = none) ∧
      ∀ s t, (firmware cfg lt b act).state k = some s →
        (firmware cfg lt b' act').state k = some t →
        s.wifi = t.wifi ∧ s.lifx = t.lifx ∧ s.sent = t.sent := by
  have hbase : SameNetwork (firmware cfg lt b act).start (firmware cfg lt b' act').start := by
    refine ⟨rfl, rfl, rfl, ?_, rfl⟩
    show lifxInit b.sock b.rxBuf = lifxInit b'.sock b'.rxBuf
    rw [hsock, hbuf]
  refine ⟨?_, fun s t hs ht ↦ ?_⟩
  · refine Run.state_eq_none_iff_of_related (I := SameNetwork) hbase ?_ ?_ k
    · exact fun k s t s' t' h hs ht ↦ h.step (hact k) hs ht
    · exact fun k s t h ↦ h.wrong (hact k)
  · have hsame : SameNetwork s t := by
      refine Run.related (I := SameNetwork) hbase ?_ hs ht
      exact fun k s t s' t' h hs ht ↦ h.step (hact k) hs ht
    exact ⟨hsame.wifi, hsame.lifx, hsame.sent⟩

/-- A connection and a request, with the switch off and with the switch on. -/
theorem network_independent_of_pass :
    ∃ s t, (runOf .switchOff (.event .ipEventStaGotIp :: pass .switchOff 1)).state 6 = some s ∧
      (runOf .switchOn (.event .ipEventStaGotIp :: pass .switchOn 1)).state 6 = some t ∧
      s.sent = t.sent := by
  have hrun : (runOf .switchOff (.event .ipEventStaGotIp :: pass .switchOff 1)).At
      (fun _ _ ↦ True) 6 := by decide +kernel
  have hrun' : (runOf .switchOn (.event .ipEventStaGotIp :: pass .switchOn 1)).At
      (fun _ _ ↦ True) 6 := by decide +kernel
  have hsame : List.Forall₂ SameForNetwork (.event .ipEventStaGotIp :: pass .switchOff 1)
      (.event .ipEventStaGotIp :: pass .switchOn 1) :=
    .cons rfl <| .cons ⟨rfl, rfl, rfl⟩ <| .cons ⟨rfl, rfl, rfl⟩ <| .cons ⟨rfl, rfl, rfl⟩ <|
      .cons ⟨rfl, rfl, rfl⟩ <| .cons ⟨rfl, rfl, rfl⟩ .nil
  obtain ⟨s, hs, -⟩ := hrun
  obtain ⟨t, ht, -⟩ := hrun'
  have hnetwork := (network_independent defaultConfig .block (defaultBoot .switchOff)
    (defaultBoot .switchOn) _ _ rfl rfl (schedule_of_forall₂ hsame rfl) 6).2 s t hs ht
  exact ⟨s, t, hs, ht, hnetwork.2.2⟩

end BedroomLights
