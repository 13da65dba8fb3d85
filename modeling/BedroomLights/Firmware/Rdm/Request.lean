import BedroomLights.Firmware.FreeRtos
import BedroomLights.Firmware.Rdm.Responder

/-!
# Sending RDM requests

`rdm_send_request` writes a request over what is in the driver's buffer, sends it, waits for the
response, which is received over the request, and writes back what was there before.  `Line` is
what it sees of the transmitter and the receiver, which are not part of it: any line, with anything
on it.

`none` is the error branch, as it is for responses: an assertion has failed, or a copy has left its
source or its destination.  Left out is the copy of the parameter data that is made only to a null
pointer, that is not at all.
-/

set_option autoImplicit false

namespace BedroomLights

/-- `dmx_err_t`. -/
inductive DmxErr where
  | dmxOk
  | dmxErrTimeout
  | dmxErrUartOverflow
  | dmxErrImproperSlot
  | dmxErrNotEnoughSlots
  | dmxFail
deriving DecidableEq

/-- What `dmx_receive` says of a packet, and the slots that have come into the buffer: none of them
need be there when it has given up. -/
structure Reception where
  err : DmxErr
  size : ℕ
  slots : List Byte
deriving DecidableEq

/-- A line.  Its state is that of the transmitter and the receiver and of everything at the other
end. -/
structure Line (σ : Type*) where
  /-- `dmx_wait_sent`: whether the transmitter is done in time. -/
  waitSent : σ → σ × Bool
  /-- `dmx_send` of some slots: whether it sends them.  `none` if that makes something at the other
  end fail. -/
  send : σ → List Byte → Option (σ × Bool)
  /-- `dmx_receive`. -/
  receive : σ → σ × Reception
  /-- Whether the driver is sending. -/
  sending : σ → Bool

/-- What a controller uses of `dmx_driver_t`. -/
structure Controller where
  /-- `dmx_num`: there are three ports at most. -/
  dmxNum : Fin 3
  /-- `uid`. -/
  uid : RdmUid
  /-- `dmx.data`. -/
  data : Buffer Byte dmxPacketSize
  /-- `rdm.tn`. -/
  tn : Byte
  /-- What a word on the stack that nobody has written to happens to be. -/
  stackWord : BitVec 16
deriving DecidableEq

/-- `rdm_request_t`; `pd` is a null pointer or the memory it points to. -/
structure RdmRequest where
  destUid : RdmUid
  subDevice : BitVec 16
  cc : Byte
  pid : BitVec 16
  format : Option (List Char)
  pd : Option (List Byte)
  pdl : ℕ

/-- The union in `rdm_ack_t`. -/
inductive AckValue where
  | pdl (pdl : ℕ)
  | timer (timer : TickType)
  | nackReason (reason : BitVec 16)
deriving DecidableEq

/-- `rdm_ack_t`. -/
structure RdmAck where
  err : DmxErr
  size : ℕ
  srcUid : RdmUid
  pid : BitVec 16
  type : Byte
  messageCount : ℕ
  value : AckValue
deriving DecidableEq

/-- What a call of `rdm_send_request` leaves behind. -/
structure Exchange (σ : Type*) where
  controller : Controller
  line : σ
  /-- A null pointer stays one. -/
  ack : Option RdmAck
  /-- The bytes that have been written to the destination of the parameter data. -/
  pd : List Byte
  returned : ℕ

/-- `dmx_ms_to_ticks`. -/
def dmxMsToTicks (cfg : SdkConfig) (ms : TickType) : TickType :=
  pdMsToTicks cfg ms + if ms * cfg.configTickRateHz % 1000#32 > 0#32 then 1 else 0

/-- The assertions of `rdm_send_request`; `format` is that of the response. -/
def RdmRequest.Asserts (q : RdmRequest) (format : Option (List Char)) : Prop :=
  (q.subDevice < rdmSubDeviceMax ∨ q.subDevice = rdmSubDeviceAll) ∧ q.pid ≠ 0#16 ∧
  (rdmCcIsValid q.cc = true ∧ rdmCcIsRequest q.cc = true) ∧
  (q.subDevice ≠ rdmSubDeviceAll ∨ q.cc = rdmCcSetCommand) ∧
  rdmFormatIsValid q.format = some true ∧ (q.format ≠ none ∨ q.pd = none) ∧
  (q.pd ≠ none ∨ q.pdl = 0) ∧ q.pdl < 232 ∧ rdmFormatIsValid format = some true

instance (q : RdmRequest) (format : Option (List Char)) : Decidable (q.Asserts format) :=
  inferInstanceAs (Decidable (_ ∧ _ ∧ _ ∧ _ ∧ _ ∧ _ ∧ _ ∧ _ ∧ _))

/-- The header of a request. -/
def Controller.requestHeader (c : Controller) (q : RdmRequest) : RdmHeader where
  messageLen := BitVec.ofNat 8 (24 + q.pdl)
  destUid := q.destUid
  srcUid := c.uid
  tn := c.tn
  portId := BitVec.ofNat 8 (c.dmxNum + 1)
  messageCount := 0
  subDevice := q.subDevice
  cc := q.cc
  pid := q.pid
  pdl := BitVec.ofNat 8 q.pdl

/-- The transaction number after `dmx_send` of what is in the buffer. -/
def nextTn (data : List Byte) (tn : Byte) : Byte :=
  match rdmReadHeader? data with
  | some h => if rdmCcIsValid h.cc ∧ rdmCcIsRequest h.cc ∧ h.pid ≠ 0#16 then tn + 1 else tn
  | none => tn

/-- The buffer after some slots have been received, or written by `dmx_write`. -/
def overwrite (data : Buffer Byte dmxPacketSize) (slots : List Byte) : Buffer Byte dmxPacketSize :=
  data.write 0 (slots.take dmxPacketSize) (by
    rw [Nat.zero_add, List.length_take]
    exact Nat.min_le_left _ _)

/-- `dmx_write` of what was in the buffer before the request: nothing is written as long as an RDM
packet is being sent. -/
def Line.restore {σ : Type*} (L : Line σ) (s : σ) (old data : Buffer Byte dmxPacketSize)
    (packetSize : ℕ) : Buffer Byte dmxPacketSize :=
  if L.sending s ∧ rdmReadHeader data.bytes then data
  else overwrite data (old.bytes.take packetSize)

/-- An ack without a header. -/
def noHeaderAck (err : DmxErr) (size : ℕ) (type : Byte) : RdmAck :=
  ⟨err, size, ⟨0, 0⟩, 0, type, 0, .pdl 0⟩

/-- The word in the parameter data of a response. -/
def readWord (data : List Byte) (stackWord : BitVec 16) : Option (BitVec 16) := do
  let (_, written) ← rdmReadPd data (some ['w']) true 2
  some (match written with
    | [lo, hi] => bigEndian16 hi lo
    | _ => stackWord)

/-- What `rdm_send_request` copies from a response to the ack and to the destination of the
parameter data, which may be a null pointer. -/
def readAck (cfg : SdkConfig) (c : Controller) (data : List Byte) (h : RdmHeader)
    (format : Option (List Char)) (destination : Bool) (size : ℕ) (r : Reception) :
    Option (RdmAck × List Byte) :=
  let ack (type : Byte) (value : AckValue) : RdmAck :=
    ⟨r.err, r.size, h.srcUid, h.pid, type, h.messageCount.toNat, value⟩
  if rdmResponseTypeIsValid h.responseType = false then
    some (ack rdmResponseTypeInvalid (.pdl h.pdl.toNat), [])
  else if h.responseType = rdmResponseTypeAckTimer then
    (readWord data c.stackWord).map fun timer ↦
      (ack h.responseType (.timer (dmxMsToTicks cfg (timer.setWidth 32 * 10))), [])
  else if h.responseType = rdmResponseTypeNackReason then
    (readWord data c.stackWord).map fun reason ↦ (ack h.responseType (.nackReason reason), [])
  else
    (rdmReadPd data format destination size).map fun (_, pd) ↦
      (ack h.responseType (.pdl h.pdl.toNat), pd)

/-- The part of `rdm_send_request` that reads the response. -/
def readResponse {σ : Type*} (cfg : SdkConfig) (L : Line σ) (c : Controller) (s : σ)
    (old : Buffer Byte dmxPacketSize) (packetSize : ℕ) (format : Option (List Char))
    (destination : Bool) (size : ℕ) (ack : Option RdmAck) : Option (Exchange σ) :=
  let (s, r) := L.receive s
  let data := overwrite c.data r.slots
  let c := { c with data := L.restore s old data packetSize }
  if r.size = 0 then
    some ⟨c, s, ack.map fun _ ↦ noHeaderAck r.err r.size rdmResponseTypeNone, [], 0⟩
  else
    match rdmReadHeader? data.bytes with
    | none => some ⟨c, s, ack.map fun _ ↦ noHeaderAck r.err r.size rdmResponseTypeInvalid, [], 0⟩
    | some h =>
      let returned :=
        if h.responseType = rdmResponseTypeAck then
          if h.pdl = 0#8 then 1 else h.pdl.toNat
        else 0
      match ack with
      | none => some ⟨c, s, none, [], returned⟩
      | some _ =>
        (readAck cfg c data.bytes h format destination size r).map fun (ack, pd) ↦
          ⟨c, s, some ack, pd, returned⟩

/-- `rdm_send_request`.  An `ack` may be a null pointer, and is left as it was when the transmitter
is busy for too long. -/
def rdmSendRequest {σ : Type*} (cfg : SdkConfig) (L : Line σ) (c : Controller) (s : σ)
    (q : RdmRequest) (format : Option (List Char)) (destination : Bool) (size : ℕ)
    (ack : Option RdmAck) : Option (Exchange σ) :=
  if ¬ q.Asserts format then none
  else
    match L.waitSent s with
    | (s, false) => some ⟨c, s, ack, [], 0⟩
    | (s, true) =>
      let header := c.requestHeader q
      let packetSize := header.messageLen.toNat + 2
      let silent := ack.map fun _ ↦ noHeaderAck .dmxOk 0 rdmResponseTypeNone
      (rdmWrite c.data header q.format q.pd).bind fun (data, _) ↦
        (L.send s (sentSlots data dmxPacketSize)).bind fun (s, sent) ↦
          if sent = false then
            some ⟨{ c with data := L.restore s c.data data packetSize }, s, silent, [], 0⟩
          else if rdmUidIsBroadcast q.destUid ∧ q.pid ≠ rdmPidDiscUniqueBranch then
            let s := (L.waitSent s).1
            some ⟨{ c with data := L.restore s c.data data packetSize,
                           tn := nextTn data.bytes c.tn }, s, silent, [], 0⟩
          else readResponse cfg L { c with data := data, tn := nextTn data.bytes c.tn } s c.data
            packetSize format destination size ack

end BedroomLights
