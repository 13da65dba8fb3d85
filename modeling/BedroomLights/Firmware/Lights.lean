import BedroomLights.Firmware.EspDmx

/-!
# The switch, the lights and the frame between them

`main/switch.c` samples a switch, `main/app.c` turns a change of it into a DMX frame, and
`main/dmx.c` hands the frame to the driver and has the driver send it, again and again, at its own
rate.  The three files share the globals collected in `Lights`.
-/

set_option autoImplicit false

namespace BedroomLights

/-- `switch_state_t`, and the level that `gpio_get_level` reads. -/
inductive SwitchState where
  | switchOff
  | switchOn
deriving DecidableEq

/-- `bar_footprint_t` and `bed_footprint_t`: the channels of one fixture. -/
structure Footprint where
  red : Byte
  green : Byte
  blue : Byte
  white : Byte

/-- A footprint as it lies in memory. -/
def Footprint.bytes (f : Footprint) : List Byte := [f.red, f.green, f.blue, f.white]

/-- `bar_footprint`. -/
def barFootprint : Footprint := ⟨100#8, 0#8, 0#8, 20#8⟩

/-- `bed_footprint`. -/
def bedFootprint : Footprint := ⟨0#8, 100#8, 100#8, 100#8⟩

/-- `BAR_ADDRESS`. -/
abbrev barAddress : ℕ := 1

/-- `BED_ADDRESS`. -/
abbrev bedAddress : ℕ := barAddress + 4

/-- `DMX_FRAME_SZ`. -/
abbrev dmxFrameSz : ℕ := 513

/-- The globals of the three files, and the driver that `dmx_init` installs. -/
structure Lights where
  /-- `dmx_frame`. -/
  dmxFrame : Buffer Byte dmxFrameSz
  /-- `switch_state`. -/
  switchState : SwitchState
  /-- `prev_switch_state`. -/
  prevSwitchState : SwitchState
  /-- The driver of port `DMX_NUM`. -/
  driver : DmxDriver

/-! ## `main/dmx.c` -/

/-- `DMX_SEND_PERIOD`. -/
def dmxSendPeriod (cfg : SdkConfig) : TickType := pdMsToTicks cfg 30#32

/-- `dmx_loop`. -/
def dmxLoop (cfg : SdkConfig) (now nextUpdate : TickType) (l : Lights) : TickType × Lights :=
  periodic (dmxSendPeriod cfg) (fun l ↦ { l with driver := (dmxSendNum l.driver dmxPacketSize).1 })
    now nextUpdate l

/-- `dmx_send_frame`. -/
def dmxSendFrame (l : Lights) : Lights :=
  { l with driver := (dmxWrite l.driver l.dmxFrame.bytes dmxFrameSz).1 }

/-! ## `main/switch.c` -/

/-- `SWITCH_READ_PERIOD`. -/
def switchReadPeriod (cfg : SdkConfig) : TickType := pdMsToTicks cfg 50#32

/-- `switch_init`, when the pin reads `level`. -/
def switchInit (level : SwitchState) (l : Lights) : Lights := { l with switchState := level }

/-- `switch_loop`, when the pin reads `level`. -/
def switchLoop (cfg : SdkConfig) (now : TickType) (level : SwitchState) (nextUpdate : TickType)
    (l : Lights) : TickType × Lights :=
  periodic (switchReadPeriod cfg) (fun l ↦ { l with switchState := level }) now nextUpdate l

/-! ## `main/app.c` -/

/-- `turn_lights_on`. -/
def turnLightsOn (l : Lights) : Lights :=
  dmxSendFrame { l with
    dmxFrame := (l.dmxFrame.write barAddress barFootprint.bytes (by decide)).write
      bedAddress bedFootprint.bytes (by decide) }

/-- `turn_lights_off`. -/
def turnLightsOff (l : Lights) : Lights :=
  dmxSendFrame { l with dmxFrame := Buffer.fill dmxFrameSz 0 }

/-- `app_init`. -/
def appInit (l : Lights) : Lights :=
  let l := if l.switchState = .switchOn then turnLightsOn l else turnLightsOff l
  { l with prevSwitchState := l.switchState }

/-- `app_loop`. -/
def appLoop (l : Lights) : Lights :=
  let l := if l.switchState = .switchOn ∧ l.prevSwitchState = .switchOff then turnLightsOn l else l
  if l.switchState = .switchOff ∧ l.prevSwitchState = .switchOn then turnLightsOff l else l

/-- The three files after `dmx_init` and `switch_init`. -/
def lightsBeforeApp (level : SwitchState) : Lights :=
  switchInit level
    { dmxFrame := Buffer.fill dmxFrameSz 0
      switchState := .switchOn
      prevSwitchState := .switchOff
      driver := dmxDriverInstall }

/-- The three files after `dmx_init`, `switch_init` and `app_init`. -/
def lightsInit (level : SwitchState) : Lights := appInit (lightsBeforeApp level)

/-! ## `main/app.c`, operation by operation

Committing a frame again leaves the state as it is, so what the functions of `main/app.c` do is
written down a second time, as the operations they perform. -/

/-- What the functions of `main/app.c` do to `dmx_frame` and to the driver. -/
inductive FrameOp where
  /-- `memcpy` of `bar_footprint`. -/
  | memcpyBar
  /-- `memcpy` of `bed_footprint`. -/
  | memcpyBed
  /-- `memset` of the whole frame. -/
  | memset
  /-- A call of `dmx_send_frame`. -/
  | dmxSendFrame
deriving DecidableEq

/-- One operation. -/
def FrameOp.exec (l : Lights) : FrameOp → Lights
  | .memcpyBar =>
    { l with dmxFrame := l.dmxFrame.write barAddress barFootprint.bytes (by decide) }
  | .memcpyBed =>
    { l with dmxFrame := l.dmxFrame.write bedAddress bedFootprint.bytes (by decide) }
  | .memset => { l with dmxFrame := Buffer.fill dmxFrameSz 0 }
  | .dmxSendFrame => BedroomLights.dmxSendFrame l

/-- The operations of `turn_lights_on`. -/
def turnLightsOnOps : List FrameOp := [.memcpyBar, .memcpyBed, .dmxSendFrame]

/-- The operations of `turn_lights_off`. -/
def turnLightsOffOps : List FrameOp := [.memset, .dmxSendFrame]

/-- The operations of `app_init`. -/
def appInitOps (l : Lights) : List FrameOp :=
  if l.switchState = .switchOn then turnLightsOnOps else turnLightsOffOps

/-- The operations of `app_loop`.  None of them touches the two variables it looks at. -/
def appLoopOps (l : Lights) : List FrameOp :=
  (if l.switchState = .switchOn ∧ l.prevSwitchState = .switchOff then turnLightsOnOps else []) ++
    if l.switchState = .switchOff ∧ l.prevSwitchState = .switchOn then turnLightsOffOps else []

theorem appInit_eq_exec (l : Lights) : appInit l =
    { (appInitOps l).foldl FrameOp.exec l with
        prevSwitchState := ((appInitOps l).foldl FrameOp.exec l).switchState } := by
  rw [appInit, appInitOps]
  split <;> rfl

theorem appLoop_eq_exec (l : Lights) : appLoop l = (appLoopOps l).foldl FrameOp.exec l := by
  have hon : (turnLightsOn l).switchState = l.switchState := rfl
  rw [appLoop, appLoopOps]
  cases hs : l.switchState <;> cases hp : l.prevSwitchState <;> simp [hs, hp, hon] <;> rfl

end BedroomLights
