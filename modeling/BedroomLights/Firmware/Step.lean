import BedroomLights.Clock
import BedroomLights.Firmware.Superloop

/-!
# What a step of the program can do

A step of `Sys.step` belongs to one party and touches one part of the state.  The lemmas here say
so once, part by part, and the invariants of the later files are proved from them without looking
at `Sys.step` again: `step_wifi` and `step_lifx_of_calls` give a part of the state after a step as a
function of the state before it, `step_lights` lists what can happen to the lights, `step_pc` is
about the superloop's position and `step_nextUpdate` about the deadline of each periodic task.  They
are proved from `LoopStep`, which lists the five calls that a step of the superloop can be.

`Task` names the three periodic tasks, `Calls` and `Activates` say of an action that it is a call
of a loop function, or one whose deadline has passed.
-/

set_option autoImplicit false

open Transition

namespace BedroomLights

variable {cfg : SdkConfig} {lt : Lifetime} {s s' : Sys} {a : Action}

/-! ## Calls and activations -/

/-- The real time of a call of the superloop. -/
def Action.time : Action → ℕ
  | .loop io => io.time
  | _ => 0

/-- The action is the superloop's call of the function `f`. -/
def Calls (f : LoopCall) (s : Sys) : Action → Prop
  | .loop _ => s.pc = f
  | _ => False

/-- The loop functions that do something only when a deadline has passed. -/
inductive Task where
  | wifi
  | dmx
  | switch
deriving DecidableEq

/-- The function of a task. -/
def Task.call : Task → LoopCall
  | .wifi => .wifiLoop
  | .dmx => .dmxLoop
  | .switch => .switchLoop

/-- `WIFI_CHECK_PERIOD`, `DMX_SEND_PERIOD` and `SWITCH_READ_PERIOD`. -/
def Task.period (cfg : SdkConfig) : Task → TickType
  | .wifi => wifiCheckPeriod cfg
  | .dmx => dmxSendPeriod cfg
  | .switch => switchReadPeriod cfg

/-- The deadline of a task. -/
def Sys.nextUpdate (s : Sys) : Task → TickType
  | .wifi => s.nextWifiUpdate
  | .dmx => s.nextDmxSend
  | .switch => s.nextSwitchRead

/-- The action is a call of the task's function that finds the deadline passed. -/
def Activates (τ : Task) (s : Sys) (a : Action) : Prop :=
  Calls τ.call s a ∧ s.nextUpdate τ < xTaskGetTickCount a.time

instance (f : LoopCall) (s : Sys) : (a : Action) → Decidable (Calls f s a)
  | .loop _ => inferInstanceAs (Decidable (s.pc = f))
  | .event _ | .dmxTimerIsr _ | .dmxUartIsrTxData _ | .dmxUartIsrTxDone =>
    inferInstanceAs (Decidable False)

instance (τ : Task) (s : Sys) (a : Action) : Decidable (Activates τ s a) :=
  inferInstanceAs (Decidable (_ ∧ _))

theorem Calls.unique {f g : LoopCall} (hf : Calls f s a) (hg : Calls g s a) : f = g := by
  cases a with
  | loop io => exact Eq.trans (Eq.symm hf) hg
  | _ => exact hf.elim

theorem Calls.exists_io {f : LoopCall} (h : Calls f s a) : ∃ io, a = .loop io ∧ s.pc = f := by
  cases a with
  | loop io => exact ⟨io, rfl, h⟩
  | _ => exact h.elim

/-- A schedule makes no call after its last action. -/
theorem not_calls_schedule {b : Boot} {actions : List Action} {f : LoopCall} {k : ℕ}
    (h : actions.length ≤ k) : ¬ (firmware cfg lt b (schedule actions)).At (Calls f) k := by
  rintro ⟨s, -, hc⟩
  rw [firmware_act, schedule_of_le h] at hc
  exact hc.elim

/-- The calls of a function in a schedule that makes one every `c` actions. -/
theorem calls_schedule_iff {b : Boot} {actions : List Action} {f : LoopCall} {c r n k : ℕ}
    (hn : actions.length ≤ n)
    (h : ∀ m < n, (firmware cfg lt b (schedule actions)).At (Calls f) m ↔ m % c = r) :
    (firmware cfg lt b (schedule actions)).At (Calls f) k ↔ k % c = r ∧ k < n := by
  by_cases hk : k < n
  · rw [h k hk, and_iff_left hk]
  · exact iff_of_false (not_calls_schedule (hn.trans (Nat.le_of_not_lt hk))) fun h ↦ hk h.2

/-! ## A step of the superloop -/

/-- The steps that a call of the superloop can be. -/
inductive LoopStep (cfg : SdkConfig) (lt : Lifetime) (io : LoopIo) (s : Sys) : Sys → Prop where
  | wifi (hpc : s.pc = .wifiLoop) : LoopStep cfg lt io s
    { s with
        pc := .lifxLoop
        nextWifiUpdate := (wifiLoop cfg io.now s.nextWifiUpdate s.wifi).1
        wifi := (wifiLoop cfg io.now s.nextWifiUpdate s.wifi).2 }
  | lifx (hpc : s.pc = .lifxLoop) {lifx : Lifx} {sent : List (UdpTx × LxErr)}
    (h : lifxLoop cfg lt io.now s.wifi.wifiConnection io.sendto io.recv s.lifx =
      some (lifx, sent)) :
    LoopStep cfg lt io s { s with pc := .dmxLoop, lifx := lifx, sent := s.sent ++ sent }
  | dmx (hpc : s.pc = .dmxLoop) : LoopStep cfg lt io s
    { s with
        pc := .switchLoop
        nextDmxSend := (dmxLoop cfg io.now s.nextDmxSend s.lights).1
        lights := (dmxLoop cfg io.now s.nextDmxSend s.lights).2 }
  | switch (hpc : s.pc = .switchLoop) : LoopStep cfg lt io s
    { s with
        pc := .appLoop
        nextSwitchRead := (switchLoop cfg io.now io.level s.nextSwitchRead s.lights).1
        lights := (switchLoop cfg io.now io.level s.nextSwitchRead s.lights).2 }
  | app (hpc : s.pc = .appLoop) :
    LoopStep cfg lt io s { s with pc := .wifiLoop, lights := appLoop s.lights }

/-- **The steps of the superloop**: what follows is proved from these. -/
theorem loopStep_of_step {io : LoopIo} (h : Sys.step cfg lt s (.loop io) = some s') :
    LoopStep cfg lt io s s' := by
  rw [Sys.step, Option.map_eq_some_iff] at h
  obtain ⟨t, ht, rfl⟩ := h
  rw [Sys.call] at ht
  obtain ⟨pc, nextWifiUpdate, nextDmxSend, nextSwitchRead, wifi, lifx, lights, sent⟩ := s
  cases pc with
  | lifxLoop =>
    obtain ⟨⟨lifx', sent'⟩, hloop, rfl⟩ := Option.map_eq_some_iff.mp ht
    exact .lifx rfl hloop
  | wifiLoop => cases ht; exact .wifi rfl
  | dmxLoop => cases ht; exact .dmx rfl
  | switchLoop => cases ht; exact .switch rfl
  | appLoop => cases ht; exact .app rfl

/-! ## One step, part by part -/

/-- The globals of `main/wifi.c` after a step. -/
def wifiAfter (cfg : SdkConfig) (s : Sys) : Action → Wifi
  | .loop io =>
    if s.pc = .wifiLoop then (wifiLoop cfg io.now s.nextWifiUpdate s.wifi).2 else s.wifi
  | .event event => (eventHandler cfg event s.wifi).1
  | _ => s.wifi

/-- What a step can do to the driver. -/
inductive DriverStep (d : DmxDriver) : DmxDriver → Prop where
  | skip : DriverStep d d
  | send : DriverStep d (dmxSendNum d dmxPacketSize).1
  | timer (room : EmptyFifo) : DriverStep d (dmxTimerIsr d room)
  | txData (room : ℕ) : DriverStep d (dmxUartIsrTxData d room)
  | txDone : DriverStep d (dmxUartIsrTxDone d)

/-- What a step can do to the lights: the driver moves on, the switch is sampled, or `app_loop` is
called. -/
inductive LightsStep (s : Sys) (a : Action) : Lights → Prop where
  | driver {d : DmxDriver} (hd : DriverStep s.lights.driver d) (hc : ¬ Calls .appLoop s a) :
    LightsStep s a { s.lights with driver := d }
  | sample (level : SwitchState) (hc : Calls .switchLoop s a) :
    LightsStep s a { s.lights with switchState := level }
  | app (hc : Calls .appLoop s a) : LightsStep s a (appLoop s.lights)

/-- The superloop's position after a step. -/
def pcAfter (s : Sys) : Action → LoopCall
  | .loop _ => s.pc.next
  | _ => s.pc

theorem step_pc (h : Sys.step cfg lt s a = some s') : s'.pc = pcAfter s a := by
  cases a with
  | loop io =>
    rw [pcAfter]
    cases loopStep_of_step h with | _ hpc => rw [hpc]; rfl
  | _ => cases h; rfl

theorem step_wifi (h : Sys.step cfg lt s a = some s') : s'.wifi = wifiAfter cfg s a := by
  cases a with
  | loop io =>
    cases loopStep_of_step h with
    | wifi hpc => rw [wifiAfter, if_pos hpc]
    | _ hpc => simp [wifiAfter, hpc]
  | _ => cases h; rfl

theorem dmxLoop_driverStep (cfg : SdkConfig) (now nextUpdate : TickType) (l : Lights) :
    ∃ d, DriverStep l.driver d ∧ (dmxLoop cfg now nextUpdate l).2 = { l with driver := d } := by
  rw [dmxLoop, periodic]
  split
  · exact ⟨_, .send, rfl⟩
  · exact ⟨_, .skip, rfl⟩

theorem switchLoop_sample (cfg : SdkConfig) (now : TickType) (level : SwitchState)
    (nextUpdate : TickType) (l : Lights) :
    ∃ x, (switchLoop cfg now level nextUpdate l).2 = { l with switchState := x } := by
  rw [switchLoop, periodic]
  split
  · exact ⟨level, rfl⟩
  · exact ⟨l.switchState, rfl⟩

theorem step_lights (h : Sys.step cfg lt s a = some s') : LightsStep s a s'.lights := by
  have hskip : ¬ Calls .appLoop s a → LightsStep s a s.lights := fun hc ↦ .driver .skip hc
  cases a with
  | loop io =>
    have hcalls : ∀ f, Calls f s (.loop io) ↔ s.pc = f := fun f ↦ Iff.rfl
    cases loopStep_of_step h with
    | wifi hpc => exact hskip (by simp [hcalls, hpc])
    | lifx hpc => exact hskip (by simp [hcalls, hpc])
    | dmx hpc =>
      obtain ⟨d, hd, heq⟩ := dmxLoop_driverStep cfg io.now s.nextDmxSend s.lights
      exact heq ▸ .driver hd (by simp [hcalls, hpc])
    | switch hpc =>
      obtain ⟨x, heq⟩ := switchLoop_sample cfg io.now io.level s.nextSwitchRead s.lights
      exact heq ▸ .sample x hpc
    | app hpc => exact .app hpc
  | event event => cases h; exact hskip id
  | dmxTimerIsr room => cases h; exact .driver (.timer room) id
  | dmxUartIsrTxData room => cases h; exact .driver (.txData room) id
  | dmxUartIsrTxDone => cases h; exact .driver .txDone id

/-- A step that does not call `lifx_loop` leaves its state machine and its sends alone. -/
theorem step_lifx_of_not_calls (h : Sys.step cfg lt s a = some s') (hc : ¬ Calls .lifxLoop s a) :
    s'.lifx = s.lifx ∧ s'.sent = s.sent := by
  cases a with
  | loop io =>
    cases loopStep_of_step h with
    | lifx hpc => exact absurd hpc hc
    | _ => exact ⟨rfl, rfl⟩
  | _ => cases h; exact ⟨rfl, rfl⟩

/-- A step that calls `lifx_loop` is a step of its state machine. -/
theorem step_lifx_of_calls {io : LoopIo} (h : Sys.step cfg lt s (.loop io) = some s')
    (hc : s.pc = .lifxLoop) : ∃ sent,
      lifxLoop cfg lt io.now s.wifi.wifiConnection io.sendto io.recv s.lifx =
        some (s'.lifx, sent) ∧ s'.sent = s.sent ++ sent := by
  cases loopStep_of_step h with
  | lifx _ hloop => exact ⟨_, hloop, rfl⟩
  | _ hpc => exact absurd (hc.symm.trans hpc) (by decide)

/-- The only steps that go wrong are calls of `lifx_loop`. -/
theorem step_eq_none_iff : Sys.step cfg lt s a = none ↔ ∃ io, a = .loop io ∧ s.pc = .lifxLoop ∧
    lifxLoop cfg lt io.now s.wifi.wifiConnection io.sendto io.recv s.lifx = none := by
  cases a with
  | loop io =>
    rw [Sys.step, Option.map_eq_none_iff, Sys.call]
    cases hpc : s.pc <;> simp
  | _ => simp [Sys.step]

/-- A deadline is set by an activation and by nothing else. -/
theorem step_nextUpdate (τ : Task) (h : Sys.step cfg lt s a = some s') :
    s'.nextUpdate τ =
      if Activates τ s a then xTaskGetTickCount a.time + τ.period cfg else s.nextUpdate τ := by
  cases a with
  | loop io =>
    have hact : Activates τ s (.loop io) ↔ s.pc = τ.call ∧ s.nextUpdate τ < io.now := Iff.rfl
    simp only [hact]
    cases loopStep_of_step h with
    | wifi hpc | dmx hpc | switch hpc =>
      -- the task of this call, and the two others
      cases τ <;> simp [Task.call, hpc, Sys.nextUpdate, Task.period, wifiLoop, dmxLoop,
        switchLoop, periodic_fst, LoopIo.now, Action.time]
    | lifx hpc | app hpc => cases τ <;> simp [Task.call, hpc, Sys.nextUpdate]
  | _ => cases h; simp [Activates, Calls, Sys.nextUpdate, Sys.updateDriver]

end BedroomLights
