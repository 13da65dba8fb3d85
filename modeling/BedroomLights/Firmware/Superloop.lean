import BedroomLights.Transition.Run
import BedroomLights.Firmware.Lifx
import BedroomLights.Firmware.Lights
import Mathlib.Data.List.GetD

/-!
# The whole program

`app_main` initialises the modules and then calls their loop functions for ever, in a fixed order.
Around it three things happen at times of their own: the event task runs `event_handler`, and the
timer and the UART interrupt the program to send the packet that has been started.

`Sys` is the state of all of it, and `Sys.step` one step: the superloop makes the call that is next
in order (`Action.loop`, with what the call reads from the clock, the pin and the socket), or one
of the others takes a step.  Calls and handlers are atomic with respect to each other.  A sequence
of actions from a state that `Sys.boot` describes is a run of the program (`firmware`), and since
the actions may come in any order a run may interleave the parties in any way.
-/

set_option autoImplicit false

open Transition

namespace BedroomLights

/-- The calls of the superloop, by the function they call. -/
inductive LoopCall where
  | wifiLoop
  | lifxLoop
  | dmxLoop
  | switchLoop
  | appLoop
deriving DecidableEq

/-- The order of `app_main`. -/
def LoopCall.next : LoopCall → LoopCall
  | .wifiLoop => .lifxLoop
  | .lifxLoop => .dmxLoop
  | .dmxLoop => .switchLoop
  | .switchLoop => .appLoop
  | .appLoop => .wifiLoop

/-- What a call of the superloop reads from the world. -/
structure LoopIo where
  /-- The real time, in ticks, when the call asks for the tick count. -/
  time : ℕ
  /-- The level of the switch's pin. -/
  level : SwitchState
  /-- What `sendto` returns. -/
  sendto : ℤ
  /-- What `recvfrom` does. -/
  recv : RecvFrom

/-- The tick count the call sees. -/
def LoopIo.now (io : LoopIo) : TickType := xTaskGetTickCount io.time

/-- The steps of the superloop, of the event task and of the interrupts. -/
inductive Action where
  | loop (io : LoopIo)
  | event (event : WifiEvent)
  | dmxTimerIsr (room : EmptyFifo)
  | dmxUartIsrTxData (room : ℕ)
  | dmxUartIsrTxDone

/-- The state of the program and of what surrounds it. -/
structure Sys where
  /-- The call that the superloop makes next. -/
  pc : LoopCall
  /-- `next_wifi_update`, `next_dmx_send` and `next_switch_read`, locals of `app_main`. -/
  nextWifiUpdate : TickType
  nextDmxSend : TickType
  nextSwitchRead : TickType
  wifi : Wifi
  lifx : Lifx
  lights : Lights
  /-- The calls of `udp_tx` made so far, with what they returned. -/
  sent : List (UdpTx × LxErr)

/-- The call that is next in order. -/
def Sys.call (cfg : SdkConfig) (lt : Lifetime) (io : LoopIo) (s : Sys) : Option Sys :=
  match s.pc with
  | .wifiLoop =>
    let (nextUpdate, wifi) := wifiLoop cfg io.now s.nextWifiUpdate s.wifi
    some { s with nextWifiUpdate := nextUpdate, wifi := wifi }
  | .lifxLoop =>
    (lifxLoop cfg lt io.now s.wifi.wifiConnection io.sendto io.recv s.lifx).map fun (lifx, sent) ↦
      { s with lifx := lifx, sent := s.sent ++ sent }
  | .dmxLoop =>
    let (nextUpdate, lights) := dmxLoop cfg io.now s.nextDmxSend s.lights
    some { s with nextDmxSend := nextUpdate, lights := lights }
  | .switchLoop =>
    let (nextUpdate, lights) := switchLoop cfg io.now io.level s.nextSwitchRead s.lights
    some { s with nextSwitchRead := nextUpdate, lights := lights }
  | .appLoop => some { s with lights := appLoop s.lights }

/-- The driver takes a step of its own. -/
def Sys.updateDriver (f : DmxDriver → DmxDriver) (s : Sys) : Sys :=
  { s with lights := { s.lights with driver := f s.lights.driver } }

/-- One step. -/
def Sys.step (cfg : SdkConfig) (lt : Lifetime) (s : Sys) : Action → Option Sys
  | .loop io => (s.call cfg lt io).map fun s ↦ { s with pc := s.pc.next }
  | .event event => some { s with wifi := (eventHandler cfg event s.wifi).1 }
  | .dmxTimerIsr room => some (s.updateDriver fun d ↦ dmxTimerIsr d room)
  | .dmxUartIsrTxData room => some (s.updateDriver fun d ↦ dmxUartIsrTxData d room)
  | .dmxUartIsrTxDone => some (s.updateDriver dmxUartIsrTxDone)

/-- What is decided before the superloop starts: the result of `my_udp_create_socket`, the contents
of the memory that `malloc` returns for the receive buffer, and the level of the switch. -/
structure Boot where
  sock : ℤ
  rxBuf : Buffer Byte rxBufSz
  level : SwitchState

/-- The state when `app_main` enters its loop. -/
def Sys.boot (b : Boot) : Sys where
  pc := .wifiLoop
  nextWifiUpdate := 0
  nextDmxSend := 0
  nextSwitchRead := 0
  wifi := wifiInit
  lifx := lifxInit b.sock b.rxBuf
  lights := lightsInit b.level
  sent := []

/-- The run of the program that a sequence of actions makes. -/
def firmware (cfg : SdkConfig) (lt : Lifetime) (b : Boot) (act : ℕ → Action) : Run Sys Action where
  step := Sys.step cfg lt
  start := Sys.boot b
  act := act

@[simp] theorem firmware_act (cfg : SdkConfig) (lt : Lifetime) (b : Boot) (act : ℕ → Action) :
    (firmware cfg lt b act).act = act := rfl

/-! ## Concrete runs -/

/-- A tick rate of 100 Hz and five retries. -/
def defaultConfig : SdkConfig := ⟨100#32, 5⟩

/-- A boot with a socket, on memory that holds zeros. -/
def defaultBoot (level : SwitchState) : Boot := ⟨3, Buffer.fill rxBufSz 0, level⟩

/-- A call of the superloop at a time when nothing arrives from the network. -/
def quietCall (level : SwitchState) (time : ℕ) : Action := .loop ⟨time, level, 0, .failed .eagain⟩

/-- One pass through the superloop. -/
def pass (level : SwitchState) (time : ℕ) : List Action := List.replicate 5 (quietCall level time)

/-- A pass in which `lifx_loop` receives a datagram. -/
def passReceiving (data : List Byte) (time : ℕ) : List Action :=
  [quietCall .switchOff time, .loop ⟨time, .switchOff, 0, .received .afInet data 56700 0⟩] ++
    List.replicate 3 (quietCall .switchOff time)

/-- The interrupts that complete a packet, with a FIFO of 128 bytes. -/
def transmit : List Action :=
  List.replicate 2 (.dmxTimerIsr ⟨128, by decide⟩) ++ List.replicate 4 (.dmxUartIsrTxData 128) ++
    [.dmxUartIsrTxDone]

/-- The actions of a list, and then for ever an event that nobody handles. -/
def schedule (actions : List Action) (k : ℕ) : Action := actions.getD k (.event .other)

theorem schedule_of_le {actions : List Action} {k : ℕ} (h : actions.length ≤ k) :
    schedule actions k = .event .other := List.getD_eq_default _ _ h

/-- The run that a list of actions makes. -/
abbrev runOf (level : SwitchState) (actions : List Action) : Run Sys Action :=
  firmware defaultConfig .block (defaultBoot level) (schedule actions)

end BedroomLights
