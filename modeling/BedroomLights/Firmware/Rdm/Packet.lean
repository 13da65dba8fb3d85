import BedroomLights.Firmware.Rdm.Format

/-!
# RDM packets in the driver's buffer

`rdm_write` serialises a packet into the buffer that `dmx_send_num` sends from, and
`rdm_read_header` and `rdm_read_pd` take one apart in the buffer that a packet has been received
into.  A packet is a header of 24 slots, the parameter data and a checksum.  The one exception is
the response to a discovery request: a preamble, the sender's UID with each byte sent twice, and a
checksum sent the same way, so that two responses that collide are recognised as such.

The existing `rdmReadHeader` is the case of `rdm_read_header` in which the caller only wants to know
whether there is a packet; `rdmReadHeader?` is the one that fills in the header
(`isSome_rdmReadHeader?`).
-/

set_option autoImplicit false

namespace BedroomLights

/-! ## Constants -/

/-- `RDM_SC`, `RDM_SUB_SC`, `RDM_PREAMBLE` and `RDM_DELIMITER`. -/
def rdmSc : Byte := 0xcc#8
def rdmSubSc : Byte := 0x01#8
def rdmPreamble : Byte := 0xfe#8
def rdmDelimiter : Byte := 0xaa#8

/-- `rdm_cc_t`. -/
def rdmCcDiscCommand : Byte := 0x10#8
def rdmCcDiscCommandResponse : Byte := 0x11#8
def rdmCcGetCommand : Byte := 0x20#8
def rdmCcGetCommandResponse : Byte := 0x21#8
def rdmCcSetCommand : Byte := 0x30#8
def rdmCcSetCommandResponse : Byte := 0x31#8

/-- `rdm_response_type_t`. -/
def rdmResponseTypeAck : Byte := 0x00#8
def rdmResponseTypeAckTimer : Byte := 0x01#8
def rdmResponseTypeNackReason : Byte := 0x02#8
def rdmResponseTypeAckOverflow : Byte := 0x03#8
def rdmResponseTypeInvalid : Byte := 0xfe#8
def rdmResponseTypeNone : Byte := 0xff#8

/-- The parameter IDs of discovery. -/
def rdmPidDiscUniqueBranch : BitVec 16 := 0x0001#16
def rdmPidDiscMute : BitVec 16 := 0x0002#16
def rdmPidDiscUnMute : BitVec 16 := 0x0003#16

/-- `rdm_sub_device_t`. -/
def rdmSubDeviceRoot : BitVec 16 := 0#16
def rdmSubDeviceMax : BitVec 16 := 513#16
def rdmSubDeviceAll : BitVec 16 := 0xffff#16

/-- `rdm_cc_is_valid`, on a command class of one byte: the shift leaves nothing of it. -/
def rdmCcIsValid (cc : Byte) : Bool := decide (cc >>> 8 < 0x4#8) && decide (cc &&& 0xf#8 < 0x2#8)

/-- `rdm_cc_is_request`. -/
def rdmCcIsRequest (cc : Byte) : Bool := cc &&& 0x1#8 == 0#8

/-- `rdm_response_type_is_valid`. -/
def rdmResponseTypeIsValid (t : Byte) : Bool :=
  decide (t ≥ rdmResponseTypeAck) && decide (t ≤ rdmResponseTypeAckOverflow)

/-! ## Integers in memory -/

/-- A 16-bit integer as it lies in memory. -/
def wordBytes (x : BitVec 16) : List Byte := [x.extractLsb' 0 8, x.extractLsb' 8 8]

/-- A 32-bit integer as it lies in memory. -/
def dwordBytes (x : BitVec 32) : List Byte :=
  [x.extractLsb' 0 8, x.extractLsb' 8 8, x.extractLsb' 16 8, x.extractLsb' 24 8]

/-- A UID as it lies in memory. -/
def RdmUid.bytes (uid : RdmUid) : List Byte := wordBytes uid.manId ++ dwordBytes uid.devId

/-- The big-endian 32-bit number made of four slots. -/
def bigEndian32 (a b c d : Byte) : BitVec 32 := a ++ b ++ c ++ d

/-- The UID in the six slots from an index on. -/
def uidAt (data : List Byte) (i : ℕ) : RdmUid where
  manId := bigEndian16 (slot data i) (slot data (i + 1))
  devId := bigEndian32 (slot data (i + 2)) (slot data (i + 3)) (slot data (i + 4))
    (slot data (i + 5))

/-! ## `rdm_header_t` -/

/-- `sizeof(rdm_header_t)`. -/
abbrev sizeofRdmHeader : ℕ := 24

/-- `rdm_header_t`, but for the unnamed members that stand for the two start codes.  `portId` is
also `response_type`, which shares its place. -/
@[ext]
structure RdmHeader where
  messageLen : Byte
  destUid : RdmUid
  srcUid : RdmUid
  tn : Byte
  portId : Byte
  messageCount : Byte
  subDevice : BitVec 16
  cc : Byte
  pid : BitVec 16
  pdl : Byte
deriving DecidableEq

/-- `response_type`. -/
def RdmHeader.responseType (h : RdmHeader) : Byte := h.portId

/-- The header as it lies in memory; the values of the unnamed members are never used. -/
def RdmHeader.bytes (h : RdmHeader) : List Byte :=
  [0, 0, h.messageLen] ++ h.destUid.bytes ++ h.srcUid.bytes ++ [h.tn, h.portId, h.messageCount] ++
    wordBytes h.subDevice ++ [h.cc] ++ wordBytes h.pid ++ [h.pdl]

/-! ## Reading -/

/-- The header of a standard packet. -/
def standardHeader (data : List Byte) : RdmHeader where
  messageLen := slot data 2
  destUid := uidAt data 3
  srcUid := uidAt data 9
  tn := slot data 15
  portId := slot data 16
  messageCount := slot data 17
  subDevice := bigEndian16 (slot data 18) (slot data 19)
  cc := slot data 20
  pid := bigEndian16 (slot data 21) (slot data 22)
  pdl := slot data 23

/-- The header that stands for a discovery response; `euid` starts after the delimiter. -/
def discoveryHeader (preambleLen : ℕ) (euid : List Byte) : RdmHeader where
  messageLen := BitVec.ofNat 8 (preambleLen + 17)
  destUid := rdmUidBroadcastAll
  srcUid := uidAt ((List.range 6).map fun i ↦ slot euid (2 * i) &&& slot euid (2 * i + 1)) 0
  tn := 0
  portId := rdmResponseTypeAck
  messageCount := 0
  subDevice := rdmSubDeviceRoot
  cc := rdmCcDiscCommandResponse
  pid := rdmPidDiscUniqueBranch
  pdl := 0

/-- `rdm_read_header`, filling in a header. -/
def rdmReadHeader? (data : List Byte) : Option RdmHeader :=
  if slot data 0 = rdmSc ∧ slot data 1 = rdmSubSc then
    let messageLen := (slot data 2).toNat
    if rdmChecksum (data.take messageLen) =
        bigEndian16 (slot data messageLen) (slot data (messageLen + 1)) then
      some (standardHeader data)
    else none
  else if slot data 0 = rdmPreamble ∨ slot data 0 = rdmDelimiter then
    match (List.range 8).find? fun i ↦ decide (slot data i = rdmDelimiter) with
    | none => none
    | some preambleLen =>
      let euid := data.drop (preambleLen + 1)
      if rdmChecksum (euid.take 12) =
          bigEndian16 (slot euid 12 &&& slot euid 13) (slot euid 14 &&& slot euid 15) then
        some (discoveryHeader preambleLen euid)
      else none
  else none

/-- Whether there is a packet does not depend on what the caller wants to know about it. -/
theorem isSome_rdmReadHeader? (data : List Byte) :
    (rdmReadHeader? data).isSome = rdmReadHeader data := by
  have hif : ∀ (p : Prop) [Decidable p] (h : RdmHeader),
      (if p then some h else none).isSome = decide p := by
    intro p _ h
    by_cases hp : p <;> simp [hp]
  rw [rdmReadHeader?, rdmReadHeader, rdmSc, rdmSubSc, rdmPreamble, rdmDelimiter]
  split
  · exact hif _ _
  · split
    · cases (List.range 8).find? fun i ↦ decide (slot data i = 0xaa#8) with
      | none => rfl
      | some preambleLen => exact hif _ _
    · rfl

/-- `rdm_read_pd` into a destination, if it is not a null pointer, of `size` bytes: what it returns,
and what it writes to the destination. -/
def rdmReadPd (data : List Byte) (format : Option (List Char)) (destination : Bool) (size : ℕ) :
    Option (ℕ × List Byte) := do
  let isValid ← rdmFormatIsValid format
  let pdl := (slot data 23).toNat
  if ¬ isValid ∨ pdl = 0 ∨ pdl > 231 then some (0, [])
  else if destination then
    let format ← format
    let written ← rdmFormatEncode format (data.drop 24) (BitVec.ofNat 32 (min pdl size)) true
    some (pdl, written)
  else some (pdl, [])

/-! ## Writing -/

/-- The checks at the start of `rdm_write`; `pd` is a null pointer or the memory it points to. -/
def rdmWriteChecks (h : RdmHeader) (format : Option (List Char)) (pd : Option (List Byte)) :
    Prop :=
  (24 ≤ h.messageLen.toNat ∧ h.messageLen.toNat = 24 + h.pdl.toNat) ∧
  (h.subDevice < rdmSubDeviceMax ∨ h.subDevice = rdmSubDeviceAll) ∧
  rdmCcIsValid h.cc = true ∧
  h.pdl < 231#8 ∧
  (if rdmCcIsRequest h.cc then h.portId > 0#8 else rdmResponseTypeIsValid h.responseType = true) ∧
  (h.pdl = 0#8 ∨ (format ≠ none ∧ pd ≠ none))

instance (h : RdmHeader) (format : Option (List Char)) (pd : Option (List Byte)) :
    Decidable (rdmWriteChecks h format pd) :=
  inferInstanceAs (Decidable (_ ∧ _ ∧ _ ∧ _ ∧ _ ∧ _))

/-- The preamble and the delimiter of a discovery response. -/
def rdmPreambleBytes : List Byte := List.replicate 7 rdmPreamble ++ [rdmDelimiter]

/-- A byte of a discovery response, sent twice. -/
def encodeTwice (b : Byte) : List Byte := [b ||| 0xaa#8, b ||| 0x55#8]

/-- The checksum of a discovery response. -/
def discoveryChecksum (uid : List Byte) : BitVec 16 :=
  uid.foldl (fun checksum b ↦ checksum + (b.setWidth 16 + (0xaa#16 ||| 0x55#16))) 0

/-- The discovery response of a UID. -/
def discoveryResponse (uid : RdmUid) : List Byte :=
  let uid := swapUid uid.bytes
  let checksum := discoveryChecksum uid
  rdmPreambleBytes ++ uid.flatMap encodeTwice ++ encodeTwice (checksum.extractLsb' 8 8) ++
    encodeTwice (checksum.extractLsb' 0 8)

/-- `header_format`. -/
def headerFormat : List Char :=
  ['x', 'C', 'C', 'x', '0', '1', 'b', 'u', 'u', 'b', 'b', 'b', 'w', 'b', 'w', 'b']

/-- The standard packet that `rdm_write` makes. -/
def standardPacket (h : RdmHeader) (format : Option (List Char)) (pd : Option (List Byte)) :
    Option (List Byte) := do
  let header ← rdmFormatEncode headerFormat h.bytes (BitVec.ofNat 32 sizeofRdmHeader) false
  let message ←
    match pd with
    | some pd =>
      if h.pdl > 0#8 then do
        let encoded ← rdmFormatEncode (← format) pd (h.pdl.setWidth 32) false
        -- the sizes are corrected when the parameter data turns out to be shorter
        let header :=
          if h.pdl.toNat ≠ encoded.length then
            (header.set 2 (BitVec.ofNat 8 (24 + encoded.length))).set 23
              (BitVec.ofNat 8 encoded.length)
          else header
        some (header ++ encoded)
      else some header
    | none => some header
  let checksum := rdmChecksum message
  some (message ++ (wordBytes checksum).reverse)

/-- A header of the response to a discovery request. -/
def RdmHeader.IsDiscoveryResponse (h : RdmHeader) : Prop :=
  h.cc = rdmCcDiscCommandResponse ∧ h.pid = rdmPidDiscUniqueBranch

instance (h : RdmHeader) : Decidable h.IsDiscoveryResponse := inferInstanceAs (Decidable (_ ∧ _))

/-- The packet that `rdm_write` makes. -/
def rdmPacket (h : RdmHeader) (format : Option (List Char)) (pd : Option (List Byte)) :
    Option (List Byte) :=
  if h.IsDiscoveryResponse then some (discoveryResponse h.srcUid) else standardPacket h format pd

/-- `rdm_write`: the number of slots written. -/
def rdmWrite (data : Buffer Byte dmxPacketSize) (h : RdmHeader) (format : Option (List Char))
    (pd : Option (List Byte)) : Option (Buffer Byte dmxPacketSize × ℕ) := do
  let isValid ← rdmFormatIsValid format
  if ¬ rdmWriteChecks h format pd ∨ ¬ isValid then some (data, 0)
  else
    let packet ← rdmPacket h format pd
    let data ← data.write? 0 packet
    some (data, packet.length)

end BedroomLights
