import BedroomLights.Firmware.Rdm.Packet

/-!
# Responding to RDM requests

`rdm_send_response` looks at the request in the driver's buffer, has the handler of its parameter
write a response over it, and sends that.  `Responder` is what it uses of the driver.  The handlers
of the parameters a device supports are a table, `definitions`; `rdm_rhd_discovery`, which is the
handler of the three discovery parameters, is written out, and `discoveryDefinition` is its entry.

`none` is the error branch: an assertion has failed, or a copy has left its source.  Only the root
device has parameters, since nothing adds sub-devices.  Left out are the repeat counter of requests
and the callbacks of parameters.
-/

set_option autoImplicit false

namespace BedroomLights

/-- `RDM_NR_UNKNOWN_PID`, `RDM_NR_FORMAT_ERROR`, `RDM_NR_HARDWARE_FAULT` and
`RDM_NR_UNSUPPORTED_COMMAND_CLASS`. -/
def rdmNrUnknownPid : BitVec 16 := 0x0000#16
def rdmNrFormatError : BitVec 16 := 0x0001#16
def rdmNrHardwareFault : BitVec 16 := 0x0002#16
def rdmNrUnsupportedCommandClass : BitVec 16 := 0x0005#16

/-- `rdm_pid_cc_t`: the command classes that a parameter supports. -/
inductive RdmPidCc where
  | disc
  | get
  | set
  | getSet
deriving DecidableEq

/-- What a responder uses of `dmx_driver_t`. -/
structure Responder where
  /-- `uid`. -/
  uid : RdmUid
  /-- `dmx.data`. -/
  data : Buffer Byte dmxPacketSize
  /-- The parameter that `RDM_PID_DISC_MUTE` and `RDM_PID_DISC_UN_MUTE` share. -/
  isMuted : Bool
  /-- `rdm.boot_loader`. -/
  bootLoader : Bool
  /-- `rdm_queue_size`. -/
  queueSize : Byte
  /-- The binding UID: null when the device has one port, and else the UID of its first one. -/
  bindingUid : RdmUid
  /-- What the twelve unnamed bits of a control field happen to be. -/
  controlPad : BitVec 12
deriving DecidableEq

/-- `rdm_parameter_definition_t`, as far as `rdm_send_response` looks at it. -/
structure RdmDefinition where
  pidCc : RdmPidCc
  getHandler : Responder → RdmHeader → Option (Responder × ℕ)
  setHandler : Responder → RdmHeader → Option (Responder × ℕ)

namespace Responder

/-- The header of a response. -/
def responseHeader (r : Responder) (h : RdmHeader) (responseType : Byte) (pdl : Byte) :
    RdmHeader where
  messageLen := 24 + pdl
  destUid := h.srcUid
  srcUid := r.uid
  tn := h.tn
  portId := responseType
  messageCount := r.queueSize
  subDevice := h.subDevice
  cc := h.cc ||| 0x1#8
  pid := h.pid
  pdl := pdl

/-- `rdm_write` to the buffer of the responder. -/
def write (r : Responder) (h : RdmHeader) (format : Option (List Char)) (pd : Option (List Byte)) :
    Option (Responder × ℕ) :=
  (rdmWrite r.data h format pd).map fun (data, written) ↦ ({ r with data := data }, written)

end Responder

/-- `rdm_write_ack`. -/
def rdmWriteAck (r : Responder) (h : RdmHeader) (format : Option (List Char))
    (pd : Option (List Byte)) (pdl : Byte) : Option (Responder × ℕ) :=
  if rdmCcIsRequest h.cc ∧ rdmFormatIsValid format = some true ∧ (format ≠ none ∨ pd = none) ∧
      (pd ≠ none ∨ pdl = 0#8) ∧ pdl < 231#8 then
    r.write (r.responseHeader h rdmResponseTypeAck pdl) format pd
  else none

/-- `rdm_write_nack_reason`. -/
def rdmWriteNackReason (r : Responder) (h : RdmHeader) (nackReason : BitVec 16) :
    Option (Responder × ℕ) :=
  if rdmCcIsRequest h.cc then
    r.write (r.responseHeader h rdmResponseTypeNackReason 2#8) (some ['w'])
      (some (wordBytes nackReason))
  else none

/-! ## Discovery -/

/-- The UID that lies in memory at an index. -/
def uidInMemory (bytes : List Byte) (i : ℕ) : RdmUid := uidAt (swapUid ((bytes.drop i).take 6)) 0

/-- The parameter data of the response to a mute request. -/
def Responder.muteBytes (r : Responder) : List Byte :=
  wordBytes (r.controlPad ++ (if r.bootLoader then 0x4#4 else 0x0#4)) ++ r.bindingUid.bytes

/-- `rdm_rhd_discovery`. -/
def rdmRhdDiscovery (r : Responder) (h : RdmHeader) : Option (Responder × ℕ) :=
  if h.subDevice ≠ rdmSubDeviceRoot then some (r, 0)
  else if h.pid = rdmPidDiscUniqueBranch then
    if r.isMuted then some (r, 0)
    else do
      let (read, branch) ← rdmReadPd r.data.bytes (some ['u', 'u', '$']) true 12
      if read = 0 then some (r, 0)
      else if rdmUidIsLt r.uid (uidInMemory branch 0) ∨ rdmUidIsGt r.uid (uidInMemory branch 6) then
        some (r, 0)
      else rdmWriteAck r h none none 0
  else
    let r := { r with isMuted := decide (h.pid = rdmPidDiscMute) }
    rdmWriteAck r h (some ['w', 'v']) (some r.muteBytes) 8

/-- The definition of the three discovery parameters. -/
def discoveryDefinition : RdmDefinition where
  pidCc := .disc
  getHandler := rdmRhdDiscovery
  setHandler _ _ := none

/-! ## Sending -/

/-- How many slots `dmx_send_num` sends of what is in the buffer, if it is asked for `size`. -/
def dmxSendSize (data : List Byte) (size : ℕ) : ℕ :=
  match rdmReadHeader? data with
  | some h =>
    if rdmCcIsValid h.cc then
      if h.IsDiscoveryResponse then h.messageLen.toNat else h.messageLen.toNat + 2
    else if size = 0 ∨ size > dmxPacketSize then dmxPacketSize else size
  | none => if size = 0 ∨ size > dmxPacketSize then dmxPacketSize else size

/-- The slots that `dmx_send_num` sends. -/
def sentSlots (data : Buffer Byte dmxPacketSize) (size : ℕ) : List Byte :=
  data.bytes.take (dmxSendSize data.bytes size)

/-- `rdm_definition_get`, with the assertions of `dmx_parameter_get_entry`. -/
def rdmDefinitionGet (definitions : BitVec 16 → Option RdmDefinition) (subDevice pid : BitVec 16) :
    Option (Option RdmDefinition) :=
  if subDevice < rdmSubDeviceMax ∧ pid ≠ 0#16 then
    some (if subDevice = rdmSubDeviceRoot then definitions pid else none)
  else none

/-- The handler that is called for a request. -/
def RdmDefinition.handler (d : RdmDefinition) (cc : Byte) :
    Responder → RdmHeader → Option (Responder × ℕ) :=
  if cc = rdmCcSetCommand then d.setHandler else d.getHandler

/-- What `rdm_send_response` checks of the response that a handler has written. -/
def validateResponse (h : RdmHeader) (r : Responder) (packetSize : ℕ) : Option (Responder × ℕ) :=
  if h.pid = rdmPidDiscUniqueBranch ∧ ((packetSize > 0 ∧ packetSize < 17) ∨ packetSize > 24) then
    some ({ r with bootLoader := true }, 0)
  else if packetSize > 255 ∨ (packetSize = 0 ∧ rdmUidIsBroadcast h.destUid = false) then
    (rdmWriteNackReason r h rdmNrHardwareFault).map fun (r, packetSize) ↦
      ({ r with bootLoader := true }, packetSize)
  else some (r, packetSize)

/-- The response that is written for a request that is meant for the device: its size, zero if
there is none. -/
def rdmHandleRequest (definitions : BitVec 16 → Option RdmDefinition) (r : Responder)
    (h : RdmHeader) : Option (Responder × ℕ) :=
  match rdmDefinitionGet definitions h.subDevice h.pid with
  | none => none
  | some none => rdmWriteNackReason r h rdmNrUnknownPid
  | some (some d) =>
    if h.pdl ≥ 232#8 then rdmWriteNackReason r h rdmNrFormatError
    else if d.pidCc = .disc ∧ h.cc ≠ rdmCcDiscCommand then some (r, 0)
    else if (d.pidCc = .getSet ∧ h.cc = rdmCcDiscCommand) ∨
        (d.pidCc = .get ∧ h.cc ≠ rdmCcGetCommand) ∨ (d.pidCc = .set ∧ h.cc ≠ rdmCcSetCommand) then
      rdmWriteNackReason r h rdmNrUnsupportedCommandClass
    else (d.handler h.cc r h).bind fun (r, packetSize) ↦ validateResponse h r packetSize

/-- What is sent of the response that has been written, if anything: `inTime` is the result of
`dmx_send_num`. -/
def sendPacket (h : RdmHeader) (inTime : Bool) (r : Responder) (packetSize : ℕ) :
    Responder × Option (List Byte) :=
  if packetSize = 0 ∨ (rdmUidIsBroadcast h.destUid ∧ h.pid ≠ rdmPidDiscUniqueBranch) then (r, none)
  else if inTime then (r, some (sentSlots r.data packetSize))
  else ({ r with bootLoader := true }, none)

/-- `rdm_send_response`: the slots it sends, if any. -/
def rdmSendResponse (definitions : BitVec 16 → Option RdmDefinition) (r : Responder)
    (inTime : Bool) : Option (Responder × Option (List Byte)) :=
  match rdmReadHeader? r.data.bytes with
  | none => some (r, none)
  | some h =>
    if rdmCcIsValid h.cc = false ∨ rdmUidIsTarget r.uid h.destUid = false then some (r, none)
    else (rdmHandleRequest definitions r h).map fun (r, packetSize) ↦
      sendPacket h inTime r packetSize

end BedroomLights
