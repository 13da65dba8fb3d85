import BedroomLights.Firmware.Step
import BedroomLights.Lights.Frames

/-!
# Every packet on the wire is one whole frame

`dmx_loop` does not wait for the packet it starts, so `app_loop` may replace the driver's buffer
between two of the chunks in which the packet is copied out, and the packet is then a mixture of
two frames.  That the mixture is nevertheless one of the two rests on three facts:

* nothing but a whole frame is ever in the buffer (`Whole`, from `Lights/Frames`);
* the two frames are the same from slot 9 on (`agree_frameOf`);
* the first chunk covers slots 0 to 8, since it goes to an empty FIFO (`EmptyFifo`).

So the first chunk decides which frame the packet is, and every further one continues it
(`Chunked.take_append_chunk`).  `Transmission` is the invariant that says so: the slots given to
the UART since the break are a prefix of one frame, whatever is in the buffer by now.
-/

set_option autoImplicit false

open Transition

namespace BedroomLights

/-! ## The transmission -/

/-- How far the driver is with the packet it is sending. -/
inductive Transmission (d : DmxDriver) : Prop where
  /-- Nothing is being sent. -/
  | idle (status : d.status ≠ .sending) (txData : d.intrTxData = false)
    (txDone : d.intrTxDone = false)
  /-- The break or the mark after it: the timer is running and no slot has been given out. -/
  | head (status : d.status = .sending) (size : d.size = 513) (timer : d.timerRunning = true)
    (txData : d.intrTxData = false) (txDone : d.intrTxDone = false) (wire : d.wire = [])
  /-- The slots given out are the first `dmx.head` ones of the frame for `level`. -/
  | body (level : SwitchState) (status : d.status = .sending) (size : d.size = 513)
    (timer : d.timerRunning = false) (nine : 9 ≤ d.head) (le : d.head ≤ 513)
    (wire : d.wire = (frameOf level).take d.head)

/-- The driver's part of the invariant. -/
structure DriverInv (d : DmxDriver) : Prop where
  data : Whole d.data.bytes
  transmission : Transmission d
  packets : ∀ packet ∈ d.packets, Whole packet

variable {d d' : DmxDriver}

theorem driverInv_dmxDriverInstall : DriverInv dmxDriverInstall where
  data := whole_frameOf .switchOff
  transmission := .idle (by decide) rfl rfl
  packets := by simp [dmxDriverInstall]

/-- Replacing the buffer by a whole frame does not disturb the packet that is being sent. -/
theorem DriverInv.write (h : DriverInv d) {data : Buffer Byte dmxPacketSize}
    (hdata : Whole data.bytes) : DriverInv { d with data := data } where
  data := hdata
  transmission := by
    cases h.transmission with
    | idle status txData txDone => exact .idle status txData txDone
    | head status size timer txData txDone wire =>
      exact .head status size timer txData txDone wire
    | body level status size timer nine le wire =>
      exact .body level status size timer nine le wire
  packets := h.packets

theorem DriverInv.dmxSendNum (h : DriverInv d) :
    DriverInv (dmxSendNum d dmxPacketSize).1 := by
  by_cases hs : d.status = .sending
  · rw [BedroomLights.dmxSendNum, if_pos hs]
    exact h
  · cases h.transmission with
    | idle status txData txDone =>
      rw [BedroomLights.dmxSendNum, if_neg hs, if_neg (by simp [h.data.not_rdm])]
      exact ⟨h.data, .head rfl (by simp) rfl txData txDone rfl, h.packets⟩
    | head status => exact absurd status hs
    | body level status => exact absurd status hs

theorem DriverInv.dmxTimerIsr (h : DriverInv d) (room : EmptyFifo) :
    DriverInv (dmxTimerIsr d room) := by
  rw [BedroomLights.dmxTimerIsr]
  cases h.transmission with
  | idle status txData txDone =>
    simp only [if_neg status]
    split
    · exact ⟨h.data, .idle status txData txDone, h.packets⟩
    · exact h
  | head status size timer txData txDone wire =>
    simp only [if_pos status, if_pos timer]
    split
    · exact ⟨h.data, .head status size timer txData txDone wire, h.packets⟩
    · -- the first chunk: nine slots at least, of the frame that is in the buffer now
      obtain ⟨level, hlevel⟩ := h.data
      have hnine : 9 ≤ min d.size (room : ℕ) := by
        have := room.2
        omega
      refine ⟨⟨level, hlevel⟩, .body level status size rfl hnine ?_ ?_, h.packets⟩
      · simp only [size]
        omega
      · simp only [wire, hlevel, List.nil_append]
  | body level status size timer nine le wire =>
    rw [if_neg (by simp [timer])]
    exact h

theorem DriverInv.dmxUartIsrTxData (h : DriverInv d) (room : ℕ) :
    DriverInv (dmxUartIsrTxData d room) := by
  rw [BedroomLights.dmxUartIsrTxData]
  cases h.transmission with
  | idle status txData txDone =>
    rw [if_neg (by simp [txData])]
    exact h
  | head status size timer txData txDone wire =>
    rw [if_neg (by simp [txData])]
    exact h
  | body level status size timer nine le wire =>
    split
    · -- a further chunk, of whichever frame is in the buffer by now
      obtain ⟨level', hlevel'⟩ := h.data
      refine ⟨⟨level', hlevel'⟩, .body level status size timer ?_ ?_ ?_, h.packets⟩
      · exact Nat.le_add_right_of_le nine
      · simp only [size]
        omega
      · simp only [wire, hlevel']
        exact Chunked.take_append_chunk (agree_frameOf level level') nine
    · exact h

theorem DriverInv.dmxUartIsrTxDone (h : DriverInv d) : DriverInv (dmxUartIsrTxDone d) := by
  rw [BedroomLights.dmxUartIsrTxDone]
  split
  case isFalse => exact h
  case isTrue hdone =>
    cases h.transmission with
    | idle status txData txDone => exact absurd hdone (by simp [txDone])
    | head status size timer txData txDone wire => exact absurd hdone (by simp [txDone])
    | body level status size timer nine le wire =>
      refine ⟨h.data, .idle (by simp) rfl rfl, ?_⟩
      intro packet hp
      simp only at hp
      split at hp
      case isFalse => exact h.packets packet hp
      case isTrue hall =>
        have hwire : d.wire = frameOf level := by
          rw [wire, hall, size, List.take_of_length_le (length_frameOf level).le]
        rcases List.mem_append.mp hp with hp | hp
        · exact h.packets packet hp
        · rw [List.mem_singleton.mp hp, hwire]
          exact whole_frameOf level

theorem DriverInv.step (h : DriverInv d) (hd : DriverStep d d') : DriverInv d' := by
  cases hd with
  | skip => exact h
  | send => exact h.dmxSendNum
  | timer room => exact h.dmxTimerIsr room
  | txData room => exact h.dmxUartIsrTxData room
  | txDone => exact h.dmxUartIsrTxDone

/-! ## The frame between the program and the driver -/

/-- The invariant of the lights: whole frames everywhere. -/
structure LightsInv (l : Lights) : Prop where
  frame : Whole l.dmxFrame.bytes
  driver : DriverInv l.driver

theorem LightsInv.commit {l : Lights} (h : LightsInv l) (level : SwitchState) :
    LightsInv (commit level l) := by
  have hc := committed_commit h.frame h.driver.data level
  have hframe : Whole (BedroomLights.commit level l).dmxFrame.bytes := ⟨level, hc.frame⟩
  exact ⟨hframe, hc.driver ▸ h.driver.write hframe⟩

theorem LightsInv.appLoop {l : Lights} (h : LightsInv l) : LightsInv (appLoop l) := by
  rw [appLoop_eq h.frame h.driver.data]
  split
  · exact h
  · exact h.commit l.switchState

theorem LightsInv.step {s : Sys} {a : Action} {l : Lights} (h : LightsInv s.lights)
    (hl : LightsStep s a l) : LightsInv l := by
  cases hl with
  | driver hd => exact ⟨h.frame, h.driver.step hd⟩
  | sample level => exact ⟨h.frame, h.driver⟩
  | app => exact h.appLoop

/-- The frame that the lights start with is the one of the switch. -/
theorem lightsInit_eq (level : SwitchState) : ∃ l : Lights, LightsInv l ∧
    l.switchState = level ∧
    lightsInit level = { commit level l with prevSwitchState := (commit level l).switchState } := by
  refine ⟨switchInit level ⟨Buffer.fill dmxFrameSz 0, .switchOn, .switchOff, dmxDriverInstall⟩,
    ⟨whole_frameOf .switchOff, driverInv_dmxDriverInstall⟩, rfl, ?_⟩
  cases level <;> rfl

theorem lightsInv_lightsInit (level : SwitchState) : LightsInv (lightsInit level) := by
  obtain ⟨l, hl, -, heq⟩ := lightsInit_eq level
  rw [heq]
  exact ⟨(hl.commit level).frame, (hl.commit level).driver⟩

variable {cfg : SdkConfig} {lt : Lifetime} {b : Boot} {act : ℕ → Action}

/-- **Whole frames everywhere, in every reachable state.** -/
theorem lightsInv_of_state {k : ℕ} {s : Sys} (h : (firmware cfg lt b act).state k = some s) :
    LightsInv s.lights := by
  refine Run.invariant (I := fun s : Sys ↦ LightsInv s.lights) ?_ ?_ h
  · exact lightsInv_lightsInit b.level
  · exact fun s a s' hs hstep ↦ hs.step (step_lights hstep)

/-- **Every packet on the wire is one whole frame**, whatever the interleaving of the superloop with
the interrupt handlers, and no write is ever refused for the sake of a packet in flight. -/
theorem packets_whole (cfg : SdkConfig) (lt : Lifetime) (b : Boot) (act : ℕ → Action) (k : ℕ)
    (s : Sys) (h : (firmware cfg lt b act).state k = some s) :
    (∀ packet ∈ s.lights.driver.packets, Whole packet ∧ slot packet 0 = 0#8) ∧
      ∀ frame : Buffer Byte dmxFrameSz,
        (dmxWrite s.lights.driver frame.bytes dmxFrameSz).2 = dmxFrameSz := by
  have hinv := lightsInv_of_state h
  refine ⟨?_, ?_⟩
  · intro packet hp
    have hw := hinv.driver.packets packet hp
    exact ⟨hw, hw.slot_zero⟩
  · intro frame
    rw [dmxWrite_eq hinv.driver.data]

/-- A packet that is started with the lights on; the switch is turned off and the buffer replaced
between its first and its second chunk. -/
def overwrittenPacket : List Action :=
  List.replicate 3 (quietCall .switchOff 1) ++
    List.replicate 2 (.dmxTimerIsr ⟨9, by decide⟩) ++
    List.replicate 2 (quietCall .switchOff 1) ++ [.dmxUartIsrTxData 504, .dmxUartIsrTxDone]

theorem packets_whole_of_overwrittenPacket :
    ∃ s, (runOf .switchOn overwrittenPacket).state 9 = some s ∧
      s.lights.driver.packets = [frameOf .switchOn] ∧
      s.lights.driver.data.bytes = frameOf .switchOff ∧
      ∀ packet ∈ s.lights.driver.packets, Whole packet ∧ slot packet 0 = 0#8 := by
  have hrun : (runOf .switchOn overwrittenPacket).At (fun s _ ↦
      s.lights.driver.packets = [frameOf .switchOn] ∧
        s.lights.driver.data.bytes = frameOf .switchOff) 9 := by decide +kernel
  obtain ⟨s, hs, hpackets, hdata⟩ := hrun
  exact ⟨s, hs, hpackets, hdata, (packets_whole _ _ _ _ _ s hs).1⟩

end BedroomLights
