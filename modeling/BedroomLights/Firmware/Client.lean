import BedroomLights.Memory
import BedroomLights.Firmware.Packets

/-!
# The LIFX client

`components/esp_lifx/src/esp_lifx.c` and the two functions of `main/udp.c` that it is given to send
and receive with.  What the network does is an input: `RecvFrom` is the outcome of a call of
`recvfrom`, and the result of `sendto` is its integer.  What the client does to the world is an
output: `UdpTx` is the call of `udp_tx` that a message becomes, and the event that
`lx_client_poll` reports is the argument it calls `event_cb` with.

The message that an event points to is declared inside a block of `lx_client_poll` that is left
before the callback is made, so the event carries it as `Scoped.leaveBlock`.
-/

set_option autoImplicit false

open LittleEndian

namespace BedroomLights

/-- `lx_err_t`. -/
inductive LxErr where
  | lxOk
  | lxErr
  | lxTimeout
deriving DecidableEq

/-! ## `main/udp.c` -/

/-- A call of `udp_tx`: its arguments. -/
structure UdpTx where
  sock : ℤ
  data : List Byte
  dataLen : BitVec 32
  port : BitVec 16
  ipAddr : BitVec 32
deriving DecidableEq

/-- `lx_udp_tx`, given what `sendto` returns. -/
def lxUdpTx (sendto : ℤ) : LxErr := if sendto < 0 then .lxErr else .lxOk

/-- The errors of `recvfrom`: `EAGAIN` and `EWOULDBLOCK` mean that there is no datagram. -/
inductive Errno where
  | eagain
  | ewouldblock
  | other
deriving DecidableEq

/-- `sa_family` of a sender's address. -/
inductive AddressFamily where
  | afInet
  | other
deriving DecidableEq

/-- What `recvfrom` does: it fails, or it delivers a datagram and its sender's address. -/
inductive RecvFrom where
  | failed (errno : Errno)
  | received (family : AddressFamily) (data : List Byte) (port : BitVec 16) (ipAddr : BitVec 32)
deriving DecidableEq

/-- `RX_BUF_SZ`. -/
abbrev rxBufSz : ℕ := 1024

/-- What `lx_udp_rx` returns, with what it writes to `len`, `port` and `ip_addr`. -/
inductive UdpRx where
  | lxOk (len : ℕ) (port : BitVec 16) (ipAddr : BitVec 32)
  | lxErr
  | lxTimeout
deriving DecidableEq

/-- What `recvfrom` leaves in the buffer. -/
def RecvFrom.store (recv : RecvFrom) (rxBuf : Buffer Byte rxBufSz) : Buffer Byte rxBufSz :=
  match recv with
  | .failed _ => rxBuf
  | .received _ data _ _ => rxBuf.write 0 (data.take rxBufSz) (by rw [List.length_take]; omega)

/-- `lx_udp_rx`. -/
def lxUdpRx (recv : RecvFrom) (rxBuf : Buffer Byte rxBufSz) : UdpRx × Buffer Byte rxBufSz :=
  let rxBuf := recv.store rxBuf
  match recv with
  | .failed errno => (if errno = .eagain ∨ errno = .ewouldblock then .lxTimeout else .lxErr, rxBuf)
  | .received family data port ipAddr =>
    if family ≠ .afInet then (.lxErr, rxBuf)
    else (.lxOk (data.take rxBufSz).length port ipAddr, rxBuf)

/-! ## `components/esp_lifx/src/esp_lifx.c` -/

/-- `lx_device_t`. -/
structure LxDevice where
  ip : BitVec 32
  port : BitVec 16
  target : BitVec 64
deriving DecidableEq

/-- `BROADCAST_TARGET`. -/
def broadcastTarget : BitVec 64 := 0#64

/-- `lx_broadcast_device`. -/
def lxBroadcastDevice : LxDevice := ⟨0xFFFFFFFF#32, 56700#16, broadcastTarget⟩

/-- `lx_message_t`; a null payload is `none`. -/
structure LxMessage where
  type : LxPacket
  payload : Option (ArrayPtr Byte)
deriving DecidableEq

/-- `lx_event_t`. -/
inductive LxEvent where
  | lxEventMsgRx (data : Scoped LxMessage)
  | lxEventErr (data : LxErr)
  | lxEventNone
deriving DecidableEq

/-- The members of `lx_client_t` that are ever read. -/
structure LxClient where
  sourceId : BitVec 32
  sock : ℤ
  rxBuf : Buffer Byte rxBufSz
deriving DecidableEq

/-- `lx_client_create`; `rxBuf` is what `malloc` happens to return. -/
def lxClientCreate (sock : ℤ) (rxBuf : Buffer Byte rxBufSz) : LxClient := ⟨0#32, sock, rxBuf⟩

/-- `pop_target`. -/
def popTarget (target : BitVec 64) : Buffer Byte 8 where
  bytes := (List.range 8).map fun i ↦ (target >>> (8 * i)).setWidth 8
  length_bytes := by simp

/-- `pop_header`. -/
def popHeader (payloadLen source : BitVec 32) (target : BitVec 64) (_packet : LxPacket) :
    LxProtocolHeader where
  size := (BitVec.ofNat 32 sizeofLxProtocolHeader + payloadLen).setWidth 16
  protocol := 1024#12
  addressable := 1#1
  tagged := if target = broadcastTarget then 1#1 else 0#1
  origin := 0#2
  source := source
  target := popTarget target
  reserved := Buffer.fill 6 0
  resRequired := 0#1
  ackRequired := 0#1
  pad6 := 0#6
  sequence := 0#8
  pad64 := 0#64
  type := lxPacketGetService
  pad16 := 0#16

/-- `lx_client_send_message`: the call of `udp_tx` it makes. -/
def lxClientSendMessage (client : LxClient) (device : LxDevice) (message : LxMessage) : UdpTx :=
  let header := popHeader 0#32 client.sourceId device.target message.type
  { sock := client.sock
    data := header.toBytes.bytes
    dataLen := BitVec.ofNat 32 sizeofLxProtocolHeader
    port := device.port
    ipAddr := device.ip }

/-- `validate_payload_size`. -/
def validatePayloadSize (packetType : LxPacket) (payloadLen : BitVec 32) : LxErr :=
  if packetType = lxPacketStateService then
    if payloadLen ≠ BitVec.ofNat 32 sizeofLxStateServicePayload then .lxErr else .lxOk
  else .lxErr

/-- The header at the start of the receive buffer. -/
def bufHeader (buf : Buffer Byte rxBufSz) : LxProtocolHeader :=
  LxProtocolHeader.ofBytes (buf.slice 0 sizeofLxProtocolHeader (by decide))

/-- `decode_packet`. -/
def decodePacket (buf : Buffer Byte rxBufSz) (bufLen : ℕ) (messageOut : LxMessage) : LxMessage :=
  if bufLen < sizeofLxProtocolHeader then messageOut
  else
    let header := bufHeader buf
    if header.protocol ≠ 1024#12 then messageOut
    else
      let payloadSize := header.size.setWidth 32 - BitVec.ofNat 32 sizeofLxProtocolHeader
      if validatePayloadSize header.type payloadSize ≠ .lxOk then messageOut
      else { type := header.type, payload := some ⟨buf.bytes, sizeofLxProtocolHeader⟩ }

/-- The last test of `lx_client_poll`: the callback is made for every event but this one. -/
def LxEvent.callback : LxEvent → Option LxEvent
  | .lxEventNone => none
  | event => some event

/-- `lx_client_poll`: the client afterwards, and the event that the callback is made with. -/
def lxClientPoll (client : LxClient) (recv : RecvFrom) : LxClient × Option LxEvent :=
  let (err, rxBuf) := lxUdpRx recv client.rxBuf
  let client := { client with rxBuf := rxBuf }
  match err with
  | .lxTimeout => (client, none)
  | .lxErr => (client, (LxEvent.lxEventErr .lxErr).callback)
  | .lxOk len _ _ =>
    let message := Scoped.declare (decodePacket rxBuf len ⟨lxPacketNone, none⟩)
    -- the block that declares `message` ends with the assignment to `event`
    let event : LxEvent :=
      if message.val.type ≠ lxPacketNone then .lxEventMsgRx message.leaveBlock else .lxEventNone
    (client, event.callback)

end BedroomLights
