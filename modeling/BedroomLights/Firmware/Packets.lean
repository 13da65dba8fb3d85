import BedroomLights.Buffer
import BedroomLights.LittleEndian
import BedroomLights.Firmware.FreeRtos

/-!
# LIFX packets in memory

`lx_protocol_header_t` is a packed struct of 36 bytes that is copied to and from the wire as it
lies in memory.  `LxProtocolHeader` has its members, the unnamed ones included so that nothing of
the 36 bytes is lost, and `LxProtocolHeader.toBytes` and `LxProtocolHeader.ofBytes` are the layout:
members in order, integers little-endian, and the bit-fields that share a storage unit filling it
from the least significant bit.
-/

set_option autoImplicit false

open LittleEndian

namespace BedroomLights

/-- `lx_packet_t`: a C enumeration that also holds whatever number a header has in its type. -/
abbrev LxPacket := BitVec 16

/-- `LX_PACKET_NONE`. -/
def lxPacketNone : LxPacket := 0#16

/-- `LX_PACKET_GET_SERVICE`. -/
def lxPacketGetService : LxPacket := 2#16

/-- `LX_PACKET_STATE_SERVICE`. -/
def lxPacketStateService : LxPacket := 3#16

/-- `sizeof(lx_protocol_header_t)`. -/
abbrev sizeofLxProtocolHeader : ℕ := 36

/-- `sizeof(lx_state_service_payload_t)`: a byte and a 32-bit integer, packed. -/
abbrev sizeofLxStateServicePayload : ℕ := 5

/-- `lx_protocol_header_t`. -/
@[ext]
structure LxProtocolHeader where
  size : BitVec 16
  protocol : BitVec 12
  addressable : BitVec 1
  tagged : BitVec 1
  origin : BitVec 2
  source : BitVec 32
  target : Buffer Byte 8
  reserved : Buffer Byte 6
  resRequired : BitVec 1
  ackRequired : BitVec 1
  /-- The six unnamed bits after `ack_required`. -/
  pad6 : BitVec 6
  sequence : BitVec 8
  /-- The unnamed member before `type`. -/
  pad64 : BitVec 64
  type : BitVec 16
  /-- The unnamed member after `type`. -/
  pad16 : BitVec 16
deriving DecidableEq

/-- A little-endian integer of `k` bytes in memory, read as a number of `w` bits. -/
def readLe {k : ℕ} (w : ℕ) (b : Buffer Byte k) : BitVec w := BitVec.ofNat w (leVal b.bytes)

theorem readLe_eq_ofNat_iff {k w x : ℕ} {b : Buffer Byte k} (hw : 256 ^ k ≤ 2 ^ w)
    (hx : x < 2 ^ w) : readLe w b = BitVec.ofNat w x ↔ leVal b.bytes = x := by
  have hlt : leVal b.bytes < 2 ^ w := by
    have h := leVal_lt b.bytes
    rw [b.length_bytes] at h
    exact h.trans_le hw
  rw [readLe, ← BitVec.toNat_inj, BitVec.toNat_ofNat, BitVec.toNat_ofNat, Nat.mod_eq_of_lt hlt,
    Nat.mod_eq_of_lt hx]

/-- The lowest bit-field of a storage unit. -/
theorem extractLsb'_readLe_eq_ofNat_iff {k v w x : ℕ} {b : Buffer Byte k} (hv : v ≤ w)
    (hx : x < 2 ^ v) :
    (readLe w b).extractLsb' 0 v = BitVec.ofNat v x ↔ leVal b.bytes % 2 ^ v = x := by
  rw [readLe, ← BitVec.toNat_inj, BitVec.extractLsb'_toNat, BitVec.toNat_ofNat, BitVec.toNat_ofNat,
    Nat.shiftRight_zero, Nat.mod_mod_of_dvd _ (Nat.pow_dvd_pow 2 hv), Nat.mod_eq_of_lt hx]

namespace LxProtocolHeader

/-- The two bytes that `protocol`, `addressable`, `tagged` and `origin` share. -/
def frameBits (h : LxProtocolHeader) : BitVec 16 :=
  h.origin ++ h.tagged ++ h.addressable ++ h.protocol

/-- The byte that `res_required`, `ack_required` and the six bits after them share. -/
def addressBits (h : LxProtocolHeader) : BitVec 8 := h.pad6 ++ h.ackRequired ++ h.resRequired

/-- The header as it lies in memory. -/
def toBytes (h : LxProtocolHeader) : Buffer Byte sizeofLxProtocolHeader where
  bytes := leBytes 2 h.size.toNat ++ leBytes 2 h.frameBits.toNat ++ leBytes 4 h.source.toNat ++
    h.target.bytes ++ h.reserved.bytes ++ leBytes 1 h.addressBits.toNat ++
    leBytes 1 h.sequence.toNat ++ leBytes 8 h.pad64.toNat ++ leBytes 2 h.type.toNat ++
    leBytes 2 h.pad16.toNat
  length_bytes := by simp

/-- The header that lies in memory as `b`. -/
def ofBytes (b : Buffer Byte sizeofLxProtocolHeader) : LxProtocolHeader :=
  let frame : BitVec 16 := readLe 16 (b.slice 2 2 (by decide))
  let address : BitVec 8 := readLe 8 (b.slice 22 1 (by decide))
  { size := readLe 16 (b.slice 0 2 (by decide))
    protocol := frame.extractLsb' 0 12
    addressable := frame.extractLsb' 12 1
    tagged := frame.extractLsb' 13 1
    origin := frame.extractLsb' 14 2
    source := readLe 32 (b.slice 4 4 (by decide))
    target := b.slice 8 8 (by decide)
    reserved := b.slice 16 6 (by decide)
    resRequired := address.extractLsb' 0 1
    ackRequired := address.extractLsb' 1 1
    pad6 := address.extractLsb' 2 6
    sequence := readLe 8 (b.slice 23 1 (by decide))
    pad64 := readLe 64 (b.slice 24 8 (by decide))
    type := readLe 16 (b.slice 32 2 (by decide))
    pad16 := readLe 16 (b.slice 34 2 (by decide)) }

/-! ## The layout is lossless -/

theorem readLe_of_bytes {k w : ℕ} {b : Buffer Byte k} {x : BitVec w}
    (hb : b.bytes = leBytes k x.toNat) (hw : 2 ^ w ≤ 256 ^ k) : readLe w b = x := by
  rw [readLe, hb, leVal_leBytes_of_lt (x.isLt.trans_le hw), BitVec.ofNat_toNat,
    BitVec.setWidth_eq]

/-- Bit-fields that share a storage unit do not disturb each other. -/
theorem frameBits_extract (h : LxProtocolHeader) :
    h.frameBits.extractLsb' 0 12 = h.protocol ∧ h.frameBits.extractLsb' 12 1 = h.addressable ∧
      h.frameBits.extractLsb' 13 1 = h.tagged ∧ h.frameBits.extractLsb' 14 2 = h.origin := by
  refine ⟨?_, ?_, ?_, ?_⟩ <;>
    simp (disch := decide) only [frameBits, BitVec.extractLsb'_append_eq_of_le,
      BitVec.extractLsb'_append_eq_of_add_le, BitVec.extractLsb'_eq_self, Nat.reduceSub]

theorem addressBits_extract (h : LxProtocolHeader) :
    h.addressBits.extractLsb' 0 1 = h.resRequired ∧ h.addressBits.extractLsb' 1 1 = h.ackRequired ∧
      h.addressBits.extractLsb' 2 6 = h.pad6 := by
  refine ⟨?_, ?_, ?_⟩ <;>
    simp (disch := decide) only [addressBits, BitVec.extractLsb'_append_eq_of_le,
      BitVec.extractLsb'_append_eq_of_add_le, BitVec.extractLsb'_eq_self, Nat.reduceSub]

/-- The members lie at the offsets that `ofBytes` reads them from. -/
theorem slice_toBytes (h : LxProtocolHeader) :
    (h.toBytes.slice 0 2 (by decide)).bytes = leBytes 2 h.size.toNat ∧
    (h.toBytes.slice 2 2 (by decide)).bytes = leBytes 2 h.frameBits.toNat ∧
    (h.toBytes.slice 4 4 (by decide)).bytes = leBytes 4 h.source.toNat ∧
    (h.toBytes.slice 8 8 (by decide)).bytes = h.target.bytes ∧
    (h.toBytes.slice 16 6 (by decide)).bytes = h.reserved.bytes ∧
    (h.toBytes.slice 22 1 (by decide)).bytes = leBytes 1 h.addressBits.toNat ∧
    (h.toBytes.slice 23 1 (by decide)).bytes = leBytes 1 h.sequence.toNat ∧
    (h.toBytes.slice 24 8 (by decide)).bytes = leBytes 8 h.pad64.toNat ∧
    (h.toBytes.slice 32 2 (by decide)).bytes = leBytes 2 h.type.toNat ∧
    (h.toBytes.slice 34 2 (by decide)).bytes = leBytes 2 h.pad16.toNat := by
  refine ⟨?_, ?_, ?_, ?_, ?_, ?_, ?_, ?_, ?_, ?_⟩ <;>
    simp [toBytes, List.drop_append, List.drop_of_length_le]

/-- **The layout is lossless**: what is read back from the bytes of a header is the header. -/
theorem ofBytes_toBytes (h : LxProtocolHeader) : ofBytes h.toBytes = h := by
  obtain ⟨hsize, hframe, hsource, htarget, hreserved, haddress, hsequence, hpad64, htype, hpad16⟩ :=
    h.slice_toBytes
  obtain ⟨hprotocol, haddressable, htagged, horigin⟩ := h.frameBits_extract
  obtain ⟨hres, hack, hpad6⟩ := h.addressBits_extract
  rw [ofBytes, readLe_of_bytes hframe (by norm_num), readLe_of_bytes haddress (by norm_num)]
  ext1
  case size => exact readLe_of_bytes hsize (by norm_num)
  case protocol => exact hprotocol
  case addressable => exact haddressable
  case tagged => exact htagged
  case origin => exact horigin
  case source => exact readLe_of_bytes hsource (by norm_num)
  case target => exact Buffer.ext htarget
  case reserved => exact Buffer.ext hreserved
  case resRequired => exact hres
  case ackRequired => exact hack
  case pad6 => exact hpad6
  case sequence => exact readLe_of_bytes hsequence (by norm_num)
  case pad64 => exact readLe_of_bytes hpad64 (by norm_num)
  case type => exact readLe_of_bytes htype (by norm_num)
  case pad16 => exact readLe_of_bytes hpad16 (by norm_num)

/-- Two headers with the same bytes are the same header. -/
theorem toBytes_injective : Function.Injective toBytes :=
  Function.LeftInverse.injective ofBytes_toBytes

end LxProtocolHeader
end BedroomLights
