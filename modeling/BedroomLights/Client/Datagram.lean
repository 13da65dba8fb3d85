import BedroomLights.Firmware.Client

/-!
# What the client makes of a datagram

Three functions share the decision whether a datagram is a `STATE_SERVICE` message, and what they
look at is its header and its received length against the length of a header.
`DeclaresStateService` is that decision, stated about the datagram alone; `decodePacket_write` says
that it is what `decode_packet` computes, whatever the receive buffer held before, and
`lxClientPoll_eq` what `lx_client_poll` makes of every outcome of `recvfrom`.

A header decides only what a datagram *declares*.  Whether the five bytes of payload it declares
have been received is not looked at, and `LxMessage.payloadBytes` are the bytes a callback finds
when it reads them.
-/

set_option autoImplicit false

namespace BedroomLights

/-! ## Headers of datagrams -/

/-- The header at the start of a datagram. -/
def datagramHeader (d : List Byte) (h : sizeofLxProtocolHeader ≤ d.length) : LxProtocolHeader :=
  LxProtocolHeader.ofBytes ⟨d.take sizeofLxProtocolHeader, by simpa using h⟩

/-- The datagram has a header, of a `STATE_SERVICE` message of the right size. -/
def DeclaresStateService (d : List Byte) : Prop :=
  ∃ h : sizeofLxProtocolHeader ≤ d.length,
    (datagramHeader d h).protocol = 1024#12 ∧ (datagramHeader d h).type = lxPacketStateService ∧
      (datagramHeader d h).size = 41#16

instance (d : List Byte) : Decidable (DeclaresStateService d) :=
  inferInstanceAs (Decidable (∃ _, _))

/-- A datagram that fits is what the buffer then starts with. -/
theorem bufHeader_write (rxBuf : Buffer Byte rxBufSz) {d : List Byte}
    (hw : 0 + d.length ≤ rxBufSz) (hd : sizeofLxProtocolHeader ≤ d.length) :
    bufHeader (rxBuf.write 0 d hw) = datagramHeader d hd := by
  rw [bufHeader, datagramHeader]
  congr 1
  ext1
  exact Buffer.bytes_slice_write_zero rxBuf hw (by decide) (by simpa using hd)

/-- The subtraction of the header's size is unsigned, but no size below it passes for another. -/
theorem size_sub_eq_iff {size : BitVec 16} :
    size.setWidth 32 - BitVec.ofNat 32 sizeofLxProtocolHeader =
      BitVec.ofNat 32 sizeofLxStateServicePayload ↔ size = 41#16 := by
  refine ⟨?_, ?_⟩
  · intro h
    change size.setWidth 32 - 36#32 = 5#32 at h
    bv_omega
  · rintro rfl
    rfl

theorem validatePayloadSize_eq_lxOk_iff {packetType : LxPacket} {payloadLen : BitVec 32} :
    validatePayloadSize packetType payloadLen = .lxOk ↔ packetType = lxPacketStateService ∧
      payloadLen = BitVec.ofNat 32 sizeofLxStateServicePayload := by
  rw [validatePayloadSize]
  split_ifs <;> simp_all

/-! ## Decoding -/

/-- The message that `decode_packet` makes of a `STATE_SERVICE` packet in the buffer. -/
def stateServiceMessage (buf : Buffer Byte rxBufSz) : LxMessage :=
  ⟨lxPacketStateService, some ⟨buf.bytes, sizeofLxProtocolHeader⟩⟩

/-- `decode_packet` on a datagram that has just been received. -/
theorem decodePacket_write (rxBuf : Buffer Byte rxBufSz) {d : List Byte}
    (hw : 0 + d.length ≤ rxBufSz) (messageOut : LxMessage) :
    decodePacket (rxBuf.write 0 d hw) d.length messageOut =
      if DeclaresStateService d then stateServiceMessage (rxBuf.write 0 d hw) else messageOut := by
  rw [decodePacket]
  by_cases hd : d.length < sizeofLxProtocolHeader
  · have hno : ¬ DeclaresStateService d := fun ⟨h, _⟩ ↦ absurd hd (Nat.not_lt.mpr h)
    rw [if_pos hd, if_neg hno]
  · have hle : sizeofLxProtocolHeader ≤ d.length := Nat.le_of_not_lt hd
    have hiff : DeclaresStateService d ↔ (datagramHeader d hle).protocol = 1024#12 ∧
        validatePayloadSize (datagramHeader d hle).type ((datagramHeader d hle).size.setWidth 32 -
          BitVec.ofNat 32 sizeofLxProtocolHeader) = .lxOk := by
      rw [validatePayloadSize_eq_lxOk_iff, size_sub_eq_iff]
      exact ⟨fun ⟨_, h⟩ ↦ h, fun h ↦ ⟨hle, h⟩⟩
    rw [if_neg hd, bufHeader_write rxBuf hw hle]
    by_cases hprotocol : (datagramHeader d hle).protocol = 1024#12
    · by_cases hvalid : validatePayloadSize (datagramHeader d hle).type
          ((datagramHeader d hle).size.setWidth 32 - BitVec.ofNat 32 sizeofLxProtocolHeader) = .lxOk
      · obtain ⟨_, -, htype, -⟩ := hiff.mpr ⟨hprotocol, hvalid⟩
        simp only [if_pos (hiff.mpr ⟨hprotocol, hvalid⟩), hprotocol, hvalid, ne_eq,
          not_true_eq_false, if_false]
        rw [stateServiceMessage, htype]
      · rw [if_neg fun h ↦ hvalid (hiff.mp h).2]
        simp [hprotocol, hvalid]
    · rw [if_neg fun h ↦ hprotocol (hiff.mp h).1]
      simp [hprotocol]

/-! ## Polling -/

/-- What `lx_udp_rx` delivers declares a `STATE_SERVICE` message. -/
def RecvFrom.Accepted : RecvFrom → Prop
  | .failed _ => False
  | .received family data _ _ => family = .afInet ∧ DeclaresStateService (data.take rxBufSz)

/-- `lx_udp_rx` reports an error that is not a timeout. -/
def RecvFrom.Error : RecvFrom → Prop
  | .failed errno => errno = .other
  | .received family _ _ _ => family ≠ .afInet

instance : (recv : RecvFrom) → Decidable recv.Accepted
  | .failed _ => inferInstanceAs (Decidable False)
  | .received _ _ _ _ => inferInstanceAs (Decidable (_ ∧ _))

instance : (recv : RecvFrom) → Decidable recv.Error
  | .failed _ => inferInstanceAs (Decidable (_ = _))
  | .received _ _ _ _ => inferInstanceAs (Decidable (_ ≠ _))

/-- **Every outcome of a poll**: the buffer keeps what was received, and the callback is made once
for an accepted datagram, once for an error, and not at all otherwise. -/
theorem lxClientPoll_eq (client : LxClient) (recv : RecvFrom) :
    lxClientPoll client recv =
      ({ client with rxBuf := recv.store client.rxBuf },
        if recv.Accepted then some (.lxEventMsgRx
          (Scoped.declare (stateServiceMessage (recv.store client.rxBuf))).leaveBlock)
        else if recv.Error then some (.lxEventErr .lxErr) else none) := by
  rw [lxClientPoll, lxUdpRx.eq_def]
  cases recv with
  | failed errno => cases errno <;> simp [RecvFrom.Accepted, RecvFrom.Error, LxEvent.callback]
  | received family data port ipAddr =>
    cases family with
    | other => simp [RecvFrom.Accepted, RecvFrom.Error, LxEvent.callback]
    | afInet =>
      have hdecode := decodePacket_write client.rxBuf (d := data.take rxBufSz)
        (by rw [List.length_take]; omega) ⟨lxPacketNone, none⟩
      have hstore : (RecvFrom.received .afInet data port ipAddr).store client.rxBuf =
        client.rxBuf.write 0 (data.take rxBufSz) (by rw [List.length_take]; omega) := rfl
      simp only [hstore, ne_eq, not_true_eq_false, if_false, hdecode]
      by_cases hd : DeclaresStateService (data.take rxBufSz)
      · have hne : lxPacketStateService ≠ lxPacketNone := by decide
        simp [RecvFrom.Accepted, hd, LxEvent.callback, stateServiceMessage, hne]
      · simp [RecvFrom.Accepted, RecvFrom.Error, hd, LxEvent.callback]

/-! ## What a callback reads -/

/-- The size of the payload struct of a message type. -/
def sizeofPayload (type : LxPacket) : ℕ :=
  if type = lxPacketStateService then sizeofLxStateServicePayload else 0

/-- The payload bytes of a message, as many as the payload struct of its type has. -/
def LxMessage.payloadBytes (m : LxMessage) : Option (List Byte) :=
  match m.payload with
  | none => if sizeofPayload m.type = 0 then some [] else none
  | some payload => payload.read? (sizeofPayload m.type)

/-- What an event says: its type, and for a message the type and the payload bytes.  The message is
taken to be there still, which is another question. -/
inductive Report where
  | msgRx (type : LxPacket) (payload : Option (List Byte))
  | err (data : LxErr)
  | nothing
deriving DecidableEq

/-- The report of an event. -/
def LxEvent.report : LxEvent → Report
  | .lxEventMsgRx data => .msgRx data.val.type data.val.payloadBytes
  | .lxEventErr data => .err data
  | .lxEventNone => .nothing

/-- What the callback made by a poll reports, if one is made. -/
def pollReport (client : LxClient) (recv : RecvFrom) : Option Report :=
  (lxClientPoll client recv).2.map LxEvent.report

theorem payloadBytes_stateServiceMessage (buf : Buffer Byte rxBufSz) :
    (stateServiceMessage buf).payloadBytes = some ((buf.bytes.drop 36).take 5) := by
  have hlen : 36 + 5 ≤ buf.bytes.length := by rw [buf.length_bytes]; decide
  simp only [LxMessage.payloadBytes, stateServiceMessage, sizeofPayload, if_true]
  exact ArrayPtr.read?_of_le hlen

theorem pollReport_eq (client : LxClient) (recv : RecvFrom) :
    pollReport client recv =
      if recv.Accepted then some (.msgRx lxPacketStateService
        (some (((recv.store client.rxBuf).bytes.drop 36).take 5)))
      else if recv.Error then some (.err .lxErr) else none := by
  rw [pollReport, lxClientPoll_eq]
  by_cases ha : recv.Accepted
  · rw [if_pos ha, if_pos ha, ← payloadBytes_stateServiceMessage]
    rfl
  · rw [if_neg ha, if_neg ha]
    split_ifs <;> rfl

/-! ## A message -/

/-- The header of a `STATE_SERVICE` message. -/
def stateServiceHeader : List Byte :=
  ({ popHeader 5#32 0#32 broadcastTarget lxPacketStateService with
      type := lxPacketStateService }).toBytes.bytes

/-- The payload of one, for UDP on port 56700. -/
def udpServicePayload : List Byte := [1#8, 0x7C#8, 0xDD#8, 0#8, 0#8]

end BedroomLights
