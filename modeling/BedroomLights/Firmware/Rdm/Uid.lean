import BedroomLights.Firmware.EspDmx

/-!
# RDM unique identifiers

`rdm_uid_t` and the comparisons of `uid.h`.  A UID is a manufacturer and a device number, compared
one after the other; `RdmUid.val` is the 48-bit number that the two make, and the comparisons are
those of the numbers (`rdmUidIsEq_iff`, `rdmUidIsLt_iff`, `rdmUidIsGt_iff`).
-/

set_option autoImplicit false

namespace BedroomLights

/-- `rdm_uid_t`. -/
@[ext]
structure RdmUid where
  manId : BitVec 16
  devId : BitVec 32
deriving DecidableEq

/-- `RDM_UID_BROADCAST_ALL`. -/
def rdmUidBroadcastAll : RdmUid := ⟨0xffff#16, 0xffffffff#32⟩

/-- `RDM_UID_MAX`. -/
def rdmUidMax : RdmUid := ⟨0xffff#16, 0xfffffffe#32⟩

/-- `rdm_uid_is_eq`. -/
def rdmUidIsEq (a b : RdmUid) : Bool := a.manId == b.manId && a.devId == b.devId

/-- `rdm_uid_is_lt`. -/
def rdmUidIsLt (a b : RdmUid) : Bool :=
  decide (a.manId < b.manId) || (a.manId == b.manId && decide (a.devId < b.devId))

/-- `rdm_uid_is_gt`. -/
def rdmUidIsGt (a b : RdmUid) : Bool :=
  decide (a.manId > b.manId) || (a.manId == b.manId && decide (a.devId > b.devId))

/-- `rdm_uid_is_broadcast`. -/
def rdmUidIsBroadcast (uid : RdmUid) : Bool := uid.devId == 0xffffffff#32

/-- `rdm_uid_is_target`. -/
def rdmUidIsTarget (uid aliasUid : RdmUid) : Bool :=
  ((aliasUid.manId == 0xffff#16 || aliasUid.manId == uid.manId) &&
    aliasUid.devId == 0xffffffff#32) || rdmUidIsEq uid aliasUid

namespace RdmUid

/-- The number that the two parts make. -/
def val (uid : RdmUid) : ℕ := uid.manId.toNat * 2 ^ 32 + uid.devId.toNat

/-- The UID whose parts are the high and the low bits of a number. -/
def ofVal (n : ℕ) : RdmUid := ⟨BitVec.ofNat 16 (n / 2 ^ 32), BitVec.ofNat 32 n⟩

variable {a b : RdmUid} {n : ℕ}

theorem val_lt (uid : RdmUid) : uid.val < 2 ^ 48 := by
  have hman := uid.manId.isLt
  have hdev := uid.devId.isLt
  rw [val]
  omega

theorem val_ofVal (h : n < 2 ^ 48) : (ofVal n).val = n := by
  rw [ofVal, val, BitVec.toNat_ofNat, BitVec.toNat_ofNat]
  omega

theorem val_injective : Function.Injective val := by
  intro a b h
  have ha := a.devId.isLt
  have hb := b.devId.isLt
  rw [val, val] at h
  ext1
  · exact BitVec.eq_of_toNat_eq (by omega)
  · exact BitVec.eq_of_toNat_eq (by omega)

theorem val_inj : a.val = b.val ↔ a = b := val_injective.eq_iff

end RdmUid

variable {a b uid aliasUid : RdmUid}

theorem rdmUidIsEq_iff : rdmUidIsEq a b = true ↔ a = b := by
  rw [rdmUidIsEq, Bool.and_eq_true, beq_iff_eq, beq_iff_eq, RdmUid.ext_iff]

theorem rdmUidIsLt_iff : rdmUidIsLt a b = true ↔ a.val < b.val := by
  have ha := a.devId.isLt
  have hb := b.devId.isLt
  simp only [rdmUidIsLt, RdmUid.val, Bool.or_eq_true, Bool.and_eq_true, decide_eq_true_iff,
    beq_iff_eq, BitVec.lt_def, ← BitVec.toNat_inj]
  omega

theorem rdmUidIsGt_iff : rdmUidIsGt a b = true ↔ b.val < a.val := by
  have ha := a.devId.isLt
  have hb := b.devId.isLt
  simp only [rdmUidIsGt, RdmUid.val, Bool.or_eq_true, Bool.and_eq_true, decide_eq_true_iff,
    beq_iff_eq, gt_iff_lt, BitVec.lt_def, ← BitVec.toNat_inj]
  omega

/-- The UIDs that a UID which is not a broadcast address targets. -/
theorem rdmUidIsTarget_iff_of_not_broadcast (h : rdmUidIsBroadcast aliasUid = false) :
    rdmUidIsTarget uid aliasUid = true ↔ uid = aliasUid := by
  rw [rdmUidIsBroadcast] at h
  rw [rdmUidIsTarget, h, Bool.and_false, Bool.false_or, rdmUidIsEq_iff]

/-- What a broadcast address of one manufacturer targets comes at or before it. -/
theorem val_le_of_rdmUidIsTarget (hman : aliasUid.manId ≠ 0xffff#16)
    (h : rdmUidIsTarget uid aliasUid = true) : uid.val ≤ aliasUid.val := by
  rw [rdmUidIsTarget, Bool.or_eq_true, rdmUidIsEq_iff] at h
  rcases h with h | rfl
  · simp only [Bool.and_eq_true, Bool.or_eq_true, beq_iff_eq, or_iff_right hman] at h
    have hdev := uid.devId.isLt
    rw [RdmUid.val, RdmUid.val, h.1, h.2]
    exact Nat.add_le_add_left (Nat.le_of_lt_succ hdev) _
  · exact le_rfl

theorem rdmUidIsTarget_broadcastAll (uid : RdmUid) :
    rdmUidIsTarget uid rdmUidBroadcastAll = true := rfl

theorem val_rdmUidMax : rdmUidMax.val = 2 ^ 48 - 2 := rfl

end BedroomLights
