import BedroomLights.Firmware.Rdm.Request
import BedroomLights.Transition.Explore
import Mathlib.Data.Nat.Log

/-!
# Discovering the devices on a line

`rdm_discover_with_callback` searches the UIDs for devices.  It asks whether there is a device in a
range that has not been muted; if anything comes back, it searches the two halves of the range, the
lower one first, and in a range of one UID it mutes the device.  The ranges that are still to be
searched lie on a stack of 49.  The search is an `Explorer`, and the loop its loop.

The search that the source leaves out by `#if false` is left out here.  The callback is given the
UID and the number of devices found before; `found` is the list of the former, in order.
-/

set_option autoImplicit false

open Transition

namespace BedroomLights

/-! ## Requests -/

/-- `rdm_disc_unique_branch_t`.  No range that is searched is empty. -/
@[ext]
structure RdmDiscUniqueBranch where
  lowerBound : RdmUid
  upperBound : RdmUid
  le : lowerBound.val ≤ upperBound.val

/-- The request of `rdm_send_disc_unique_branch`. -/
def branchRequest (b : RdmDiscUniqueBranch) : RdmRequest :=
  ⟨rdmUidBroadcastAll, rdmSubDeviceRoot, rdmCcDiscCommand, rdmPidDiscUniqueBranch,
    some ['u', 'u', '$'], some (b.lowerBound.bytes ++ b.upperBound.bytes), 12⟩

/-- The request of `rdm_send_disc_mute` or `rdm_send_disc_un_mute`. -/
def muteRequest (pid : BitVec 16) (destUid : RdmUid) : RdmRequest :=
  ⟨destUid, rdmSubDeviceRoot, rdmCcDiscCommand, pid, none, none, 0⟩

section Requests

variable {σ : Type*} (cfg : SdkConfig) (L : Line σ) (c : Controller) (s : σ)

/-- `rdm_send_disc_unique_branch`. -/
def rdmSendDiscUniqueBranch (branch : RdmDiscUniqueBranch) (ack : Option RdmAck) :
    Option (Exchange σ) :=
  rdmSendRequest cfg L c s (branchRequest branch) none false 0 ack

/-- `rdm_send_disc_mute` and `rdm_send_disc_un_mute`, which differ in their parameter.  The
parameter data of the response are copied to the address of the parameter `mute`, and not to where
`mute` points: to a pointer of four bytes, whatever the caller has passed.  `room` is how many bytes
from there on are not otherwise in use. -/
def sendMute (room : ℕ) (pid : BitVec 16) (destUid : RdmUid) (ack : Option RdmAck) :
    Option (Exchange σ) :=
  (rdmSendRequest cfg L c s (muteRequest pid destUid) (some ['w', 'v']) true 8 ack).bind fun x ↦
    if x.pd.length ≤ room then some x else none

/-- `rdm_send_disc_mute`. -/
def rdmSendDiscMute (room : ℕ) : RdmUid → Option RdmAck → Option (Exchange σ) :=
  sendMute cfg L c s room rdmPidDiscMute

/-- `rdm_send_disc_un_mute`. -/
def rdmSendDiscUnMute (room : ℕ) : RdmUid → Option RdmAck → Option (Exchange σ) :=
  sendMute cfg L c s room rdmPidDiscUnMute

end Requests

/-! ## Ranges -/

namespace RdmDiscUniqueBranch

variable (b : RdmDiscUniqueBranch)

/-- The middle of a range, computed from numbers of 64 bits, which the sum is far below. -/
def mid : ℕ := (b.lowerBound.val + b.upperBound.val) / 2

theorem val_mid : (RdmUid.ofVal b.mid).val = b.mid := by
  have hlower := b.lowerBound.val_lt
  have hupper := b.upperBound.val_lt
  exact RdmUid.val_ofVal (by rw [mid]; omega)

/-- The part of a range that is searched first. -/
def lowerHalf : RdmDiscUniqueBranch where
  lowerBound := b.lowerBound
  upperBound := RdmUid.ofVal b.mid
  le := by
    have hle := b.le
    rw [val_mid, mid]
    omega

/-- The part of a range that is searched second, if there are two. -/
def upperHalf : RdmDiscUniqueBranch :=
  if h : b.lowerBound.val < b.upperBound.val then
    { lowerBound := RdmUid.ofVal (b.mid + 1)
      upperBound := b.upperBound
      le := by
        have hupper := b.upperBound.val_lt
        rw [RdmUid.val_ofVal (by rw [mid]; omega), mid]
        omega }
  else b

/-- How often a range can be halved. -/
def height : ℕ := Nat.clog 2 (b.upperBound.val - b.lowerBound.val + 1)

/-- The range that the search starts with. -/
def all : RdmDiscUniqueBranch := ⟨⟨0, 0⟩, rdmUidMax, Nat.zero_le _⟩

variable {b}

theorem lowerHalf_eq : b.lowerHalf.lowerBound = b.lowerBound ∧
    b.lowerHalf.upperBound = RdmUid.ofVal b.mid := by
  rw [lowerHalf]
  exact ⟨rfl, rfl⟩

theorem val_lowerHalf : b.lowerHalf.upperBound.val = b.mid := by
  rw [lowerHalf_eq.2, val_mid]

theorem upperHalf_eq (h : b.lowerBound.val < b.upperBound.val) :
    b.upperHalf.lowerBound = RdmUid.ofVal (b.mid + 1) ∧
      b.upperHalf.upperBound = b.upperBound := by
  rw [upperHalf, dif_pos h]
  exact ⟨rfl, rfl⟩

theorem val_upperHalf (h : b.lowerBound.val < b.upperBound.val) :
    b.upperHalf.lowerBound.val = b.mid + 1 := by
  have hupper := b.upperBound.val_lt
  have hlt : b.mid + 1 < 2 ^ 48 := by
    rw [mid]
    omega
  rw [(upperHalf_eq h).1, RdmUid.val_ofVal hlt]

theorem height_of_half {b' : RdmDiscUniqueBranch} (h : b.lowerBound.val < b.upperBound.val)
    (hhalf : 2 * (b'.upperBound.val - b'.lowerBound.val) ≤ b.upperBound.val - b.lowerBound.val) :
    b'.height < b.height := by
  rw [height, height, Nat.clog_of_two_le (n := b.upperBound.val - b.lowerBound.val + 1)
    Nat.one_lt_two (by omega)]
  exact Nat.lt_succ_of_le (Nat.clog_mono_right 2 (by omega))

theorem height_lowerHalf (h : b.lowerBound.val < b.upperBound.val) :
    b.lowerHalf.height < b.height := by
  refine height_of_half h ?_
  rw [lowerHalf_eq.1, val_lowerHalf, mid]
  omega

theorem height_upperHalf (h : b.lowerBound.val < b.upperBound.val) :
    b.upperHalf.height < b.height := by
  refine height_of_half h ?_
  rw [val_upperHalf h, (upperHalf_eq h).2, mid]
  omega

theorem lt_of_not_isEq (h : ¬ rdmUidIsEq b.lowerBound b.upperBound = true) :
    b.lowerBound.val < b.upperBound.val := by
  rw [rdmUidIsEq_iff, ← RdmUid.val_inj] at h
  exact lt_of_le_of_ne b.le h

end RdmDiscUniqueBranch

/-! ## The search -/

/-- The variables of `rdm_discover_with_callback`, but for its stack. -/
structure Discovery (σ : Type*) where
  controller : Controller
  line : σ
  ack : RdmAck
  found : List RdmUid

section Search

variable {σ : Type*} (cfg : SdkConfig) (L : Line σ) (room : ℕ)

/-- What an exchange does to the variables. -/
def Discovery.after (t : Discovery σ) (x : Exchange σ) : Discovery σ :=
  { t with controller := x.controller, line := x.line, ack := x.ack.getD t.ack }

/-- Sending a request up to `n` times, as long as `again` says so. -/
def attempt (send : Discovery σ → Option (Exchange σ)) (again : RdmAck → Bool) :
    ℕ → Discovery σ → Option (Discovery σ)
  | 0, t => some t
  | n + 1, t => (send t).bind fun x ↦
    if again (t.after x).ack then attempt send again n (t.after x) else some (t.after x)

/-- The attempts to mute a device. -/
def attemptMute (destUid : RdmUid) (t : Discovery σ) : Option (Discovery σ) :=
  attempt (fun t ↦ rdmSendDiscMute cfg L t.controller t.line room destUid (some t.ack))
    (fun ack ↦ ack.type ≠ rdmResponseTypeAck) 3 t

/-- The attempts to find out whether there is a device in a range. -/
def attemptBranch (b : RdmDiscUniqueBranch) (t : Discovery σ) : Option (Discovery σ) :=
  attempt (fun t ↦ rdmSendDiscUniqueBranch cfg L t.controller t.line b (some t.ack))
    (fun ack ↦ ack.type = rdmResponseTypeNone) 3 t

/-- What the loop does with a range: whether its halves are to be searched. -/
def searchBranch (t : Discovery σ) (b : RdmDiscUniqueBranch) : Option (Discovery σ × Bool) :=
  if rdmUidIsEq b.lowerBound b.upperBound then
    (attemptMute cfg L room b.lowerBound t).map fun t ↦
      (if t.ack.type = rdmResponseTypeAck then { t with found := t.found ++ [t.ack.srcUid] } else t,
        false)
  else
    (attemptBranch cfg L b t).map fun t ↦ (t, decide (t.ack.type ≠ rdmResponseTypeNone))

/-- `searchBranch`, with a state that stands for the search having gone wrong. -/
def visitBranch (t : Option (Discovery σ)) (b : RdmDiscUniqueBranch) :
    Option (Discovery σ) × Bool :=
  match t.bind fun t ↦ searchBranch cfg L room t b with
  | some (t, more) => (some t, more)
  | none => (none, false)

/-- Only a range of more than one UID is taken apart. -/
theorem lt_of_visitBranch {t : Option (Discovery σ)} {b : RdmDiscUniqueBranch}
    (h : (visitBranch cfg L room t b).2 = true) : b.lowerBound.val < b.upperBound.val := by
  refine b.lt_of_not_isEq fun heq ↦ ?_
  cases t with
  | none => exact absurd h Bool.false_ne_true
  | some t =>
    rw [visitBranch, Option.bind_some, searchBranch, if_pos heq] at h
    revert h
    cases attemptMute cfg L room b.lowerBound t with
    | none => exact fun h ↦ absurd h Bool.false_ne_true
    | some t' => exact fun h ↦ absurd h Bool.false_ne_true

/-- The search for devices. -/
def discoverer : Explorer RdmDiscUniqueBranch (Option (Discovery σ)) where
  visit := visitBranch cfg L room
  left := RdmDiscUniqueBranch.lowerHalf
  right := RdmDiscUniqueBranch.upperHalf
  height := RdmDiscUniqueBranch.height
  height_left _ _ h := RdmDiscUniqueBranch.height_lowerHalf (lt_of_visitBranch cfg L room h)
  height_right _ _ h := RdmDiscUniqueBranch.height_upperHalf (lt_of_visitBranch cfg L room h)

/-- The variables before the loop, when all devices have been told to listen: `ack` is what happens
to be on the stack. -/
def startDiscovery (c : Controller) (s : σ) (ack : RdmAck) : Option (Discovery σ) :=
  (rdmSendDiscUnMute cfg L c s room rdmUidBroadcastAll none).map fun x ↦
    ⟨x.controller, x.line, ack, []⟩

/-- The loop of `rdm_discover_with_callback`. -/
def rdmDiscoverWithCallback (c : Controller) (s : σ) (ack : RdmAck) :
    Run (List RdmDiscUniqueBranch × Option (Discovery σ)) Unit :=
  (discoverer cfg L room).loop 49 RdmDiscUniqueBranch.all (startDiscovery cfg L room c s ack)

end Search

/-- `rdm_disc_cb`: the array after a device has been found. -/
def rdmDiscCb (num : ℕ) (uids : List RdmUid) (uid : RdmUid) (numFound : ℕ) : List RdmUid :=
  if numFound < num then uids.set numFound uid else uids

/-- The array of `rdm_discover_devices_simple` after all calls of `rdm_disc_cb`. -/
def rdmDiscoverDevicesSimple (num : ℕ) (uids found : List RdmUid) : List RdmUid :=
  found.zipIdx.foldl (fun uids (uid, numFound) ↦ rdmDiscCb num uids uid numFound) uids

end BedroomLights
