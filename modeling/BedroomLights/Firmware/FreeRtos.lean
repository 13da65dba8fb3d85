import Mathlib.Data.BitVec
import Mathlib.Tactic.Common

/-!
# What the program uses of FreeRTOS

* The tick counter: `TickType_t` is an unsigned 32-bit integer that wraps, and
  `xTaskGetTickCount` shows the low 32 bits of the real time.
* `pdMS_TO_TICKS`, with the macro's own 32-bit arithmetic.
* Event groups: a word of bits that a task sets and another one polls.

`periodic` is not FreeRTOS but the shape that `dmx_loop`, `switch_loop` and `wifi_loop` share; each
of them is this definition at its own period and body.
-/

set_option autoImplicit false

namespace BedroomLights

/-- `uint8_t`. -/
abbrev Byte := BitVec 8

/-- `TickType_t`. -/
abbrev TickType := BitVec 32

/-- The values the build takes from its configuration file. -/
structure SdkConfig where
  /-- `configTICK_RATE_HZ`. -/
  configTickRateHz : TickType
  /-- `CONFIG_ESP_MAXIMUM_RETRY`. -/
  configEspMaximumRetry : ℕ

/-- `pdMS_TO_TICKS`. -/
def pdMsToTicks (cfg : SdkConfig) (ms : TickType) : TickType :=
  ms * cfg.configTickRateHz / 1000#32

/-- `xTaskGetTickCount`, called at a real time counted in ticks. -/
def xTaskGetTickCount (time : ℕ) : TickType := BitVec.ofNat 32 time

/-- The guard that `dmx_loop`, `switch_loop` and `wifi_loop` share: the body runs when the deadline
has passed, and then sets the next one. -/
def periodic {σ : Type*} (period : TickType) (body : σ → σ) (now nextUpdate : TickType) (s : σ) :
    TickType × σ :=
  if now > nextUpdate then (now + period, body s) else (nextUpdate, s)

/-- What a task does with its deadline. -/
theorem periodic_fst {σ : Type*} (period : TickType) (body : σ → σ) (now nextUpdate : TickType)
    (s : σ) : (periodic period body now nextUpdate s).1 =
      if nextUpdate < now then now + period else nextUpdate := by
  rw [periodic]
  split <;> rfl

/-! ## Event groups -/

/-- `EventBits_t`. -/
abbrev EventBits := BitVec 32

/-- `xEventGroupSetBits`. -/
def xEventGroupSetBits (group bits : EventBits) : EventBits := group ||| bits

/-- `xEventGroupWaitBits` with clear-on-exit, for any of the bits, without waiting: the bits as
they were, and the group afterwards. -/
def xEventGroupWaitBits (group bits : EventBits) : EventBits × EventBits :=
  (group, if group &&& bits ≠ 0#32 then group &&& ~~~bits else group)

theorem xEventGroupSetBits_and_ne_zero (group : EventBits) {bits mask : EventBits}
    (h : bits &&& mask ≠ 0#32) : xEventGroupSetBits group bits &&& mask ≠ 0#32 := by
  rw [xEventGroupSetBits, BitVec.and_or_distrib_right]
  exact fun hzero ↦ h (BitVec.or_eq_zero_iff.mp hzero).2

theorem xEventGroupSetBits_and_of_disjoint (group : EventBits) {bits mask : EventBits}
    (h : bits &&& mask = 0#32) : xEventGroupSetBits group bits &&& mask = group &&& mask := by
  rw [xEventGroupSetBits, BitVec.and_or_distrib_right, h]
  exact BitVec.or_zero

/-- A poll leaves none of the bits it asks for. -/
theorem xEventGroupWaitBits_and (group : EventBits) {bits mask : EventBits}
    (h : bits &&& mask = mask) : (xEventGroupWaitBits group bits).2 &&& mask = 0#32 := by
  rw [xEventGroupWaitBits]
  split_ifs with hset
  · rw [← h, BitVec.and_assoc, ← BitVec.and_assoc (~~~bits), BitVec.and_comm (~~~bits)]
    simp
  · rw [← h, ← BitVec.and_assoc, not_ne_iff.mp hset]
    exact BitVec.zero_and

end BedroomLights
