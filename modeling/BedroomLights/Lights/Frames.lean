import BedroomLights.Firmware.Lights

/-!
# The two frames

The program only ever wants one of two frames on the wire: all slots zero, or the two footprints in
slots 1 to 8 and zero elsewhere.  `turn_lights_off` clears the frame and so makes the first one
whatever was there before; `turn_lights_on` copies eight slots and relies on the others being zero
already.  That they are is an invariant, `Whole`: each of the two frames is turned into the other
one by the two functions, so nothing else is ever in `dmx_frame`, nor in the driver's buffer, which
only ever receives copies of it.  And because slot 0 is zero in both frames, the driver never takes
one for an RDM packet and never refuses a write (`dmxWrite_eq`).
-/

set_option autoImplicit false

namespace BedroomLights

/-- The frame that belongs to a position of the switch. -/
def frameOf : SwitchState → List Byte
  | .switchOff => List.replicate 513 0#8
  | .switchOn => 0#8 :: barFootprint.bytes ++ bedFootprint.bytes ++ List.replicate 504 0#8

/-- One of the two frames. -/
def Whole (frame : List Byte) : Prop := ∃ level, frame = frameOf level

theorem whole_frameOf (level : SwitchState) : Whole (frameOf level) := ⟨level, rfl⟩

@[simp] theorem length_frameOf (level : SwitchState) : (frameOf level).length = 513 := by
  cases level <;> simp [frameOf, Footprint.bytes, -List.reduceReplicate]

theorem frameOf_injective : Function.Injective frameOf := by
  intro x y h
  have hslot : slot (frameOf x) 1 = slot (frameOf y) 1 := by rw [h]
  cases x <;> cases y <;> first | rfl | exact absurd hslot (by decide)

theorem slot_zero_frameOf (level : SwitchState) : slot (frameOf level) 0 = 0#8 := by
  cases level <;> rfl

/-- The two frames are the same outside the footprints. -/
theorem agree_frameOf (level level' : SwitchState) :
    Chunked.Agree 9 (frameOf level) (frameOf level') := by
  have h : ∀ l, (frameOf l).drop 9 = List.replicate 504 0#8 := by intro l; cases l <;> rfl
  rw [Chunked.Agree, h, h]

theorem Whole.slot_zero {frame : List Byte} (h : Whole frame) : slot frame 0 = 0#8 := by
  obtain ⟨level, rfl⟩ := h
  exact slot_zero_frameOf level

theorem Whole.not_rdm {frame : List Byte} (h : Whole frame) : rdmReadHeader frame = false :=
  rdmReadHeader_of_start_code h.slot_zero

/-! ## Writing a frame to the driver -/

/-- A write of a whole buffer is accepted, and replaces the packet and nothing else. -/
theorem dmxWrite_eq {d : DmxDriver} (hd : Whole d.data.bytes) (frame : Buffer Byte dmxFrameSz) :
    dmxWrite d frame.bytes dmxFrameSz = ({ d with data := frame }, 513) := by
  have hlen : frame.bytes.length = 513 := frame.length_bytes
  have hall : frame.bytes.take 513 = frame.bytes := List.take_of_length_le hlen.le
  have hdata : ∀ h, d.data.write 0 (frame.bytes.take 513) h = frame := fun h ↦
    Buffer.ext (by rw [Buffer.bytes_write_all _ _ (by rw [hall, hlen]), hall])
  simp [dmxWrite, dmxWriteOffset, hd.not_rdm, hdata]

theorem dmxSendFrame_eq {l : Lights} (hd : Whole l.driver.data.bytes) :
    dmxSendFrame l = { l with driver := { l.driver with data := l.dmxFrame } } := by
  rw [dmxSendFrame, dmxWrite_eq hd]

/-! ## Turning the lights on and off -/

/-- The frame after the two copies of `turn_lights_on`. -/
theorem bytes_write_footprints {b : Buffer Byte dmxFrameSz} (hb : Whole b.bytes) :
    ((b.write barAddress barFootprint.bytes (by decide)).write
      bedAddress bedFootprint.bytes (by decide)).bytes = frameOf .switchOn := by
  obtain ⟨level, hlevel⟩ := hb
  rw [Buffer.bytes_write, Buffer.bytes_write, hlevel]
  cases level <;> rfl

/-- The frame that `app.c` makes for a position of the switch, handed to the driver. -/
def commit (level : SwitchState) (l : Lights) : Lights :=
  match level with
  | .switchOn => turnLightsOn l
  | .switchOff => turnLightsOff l

/-- What the lights are after a commit, as far as the rest of the program can tell. -/
structure Committed (level : SwitchState) (l l' : Lights) : Prop where
  frame : l'.dmxFrame.bytes = frameOf level
  driver : l'.driver = { l.driver with data := l'.dmxFrame }
  switchState : l'.switchState = l.switchState
  prevSwitchState : l'.prevSwitchState = l.prevSwitchState

theorem Committed.data {level : SwitchState} {l l' : Lights} (h : Committed level l l') :
    l'.driver.data.bytes = frameOf level := by
  rw [h.driver, ← h.frame]

/-- **Both functions commit the frame they are named after**, from either frame. -/
theorem committed_commit {l : Lights} (hf : Whole l.dmxFrame.bytes)
    (hd : Whole l.driver.data.bytes) (level : SwitchState) :
    Committed level l (commit level l) := by
  cases level with
  | switchOn =>
    rw [commit, turnLightsOn, dmxSendFrame_eq (by exact hd)]
    exact ⟨bytes_write_footprints hf, rfl, rfl, rfl⟩
  | switchOff =>
    rw [commit, turnLightsOff, dmxSendFrame_eq (by exact hd)]
    exact ⟨rfl, rfl, rfl, rfl⟩

/-- `app_loop` commits the frame of the switch when `prev_switch_state` differs from it, and does
nothing otherwise. -/
theorem appLoop_eq {l : Lights} (hf : Whole l.dmxFrame.bytes) (hd : Whole l.driver.data.bytes) :
    appLoop l = if l.switchState = l.prevSwitchState then l else commit l.switchState l := by
  have hon := (committed_commit hf hd .switchOn).switchState
  rw [commit] at hon
  rw [appLoop]
  cases hs : l.switchState <;> cases hp : l.prevSwitchState <;> simp [hs, hp, hon, commit]

end BedroomLights
