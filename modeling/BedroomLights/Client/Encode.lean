import BedroomLights.Client.Datagram

/-!
# Does a datagram say what its message says?

`lx_client_send_message` sends a header only, and `pop_header` is given the type of the message but
never looks at it: every datagram is a `GET_SERVICE` request.  So the encoder agrees with its
message, and with the decoder, exactly on the messages of that type (`sendMessage_agrees_iff`).
-/

set_option autoImplicit false

namespace BedroomLights

/-- A message of one of the two types that the program knows, with the payload of that type. -/
structure WellFormed (m : LxMessage) (payload : List Byte) : Prop where
  type : m.type = lxPacketGetService ∨ m.type = lxPacketStateService
  payload : m.payloadBytes = some payload

/-- A call of `udp_tx` carries a message. -/
structure Carries (tx : UdpTx) (m : LxMessage) (payload : List Byte) : Prop where
  /-- The datagram is a header of this type and size, and then the payload. -/
  data : ∃ header : LxProtocolHeader, header.type = m.type ∧
    header.size.toNat = sizeofLxProtocolHeader + payload.length ∧
      tx.data = header.toBytes.bytes ++ payload
  /-- All of it is sent. -/
  dataLen : tx.dataLen.toNat = sizeofLxProtocolHeader + payload.length
  /-- A client that receives it reports the message, if it is one that clients know. -/
  decodes : m.type = lxPacketStateService → ∀ (client : LxClient) (port : BitVec 16)
    (ipAddr : BitVec 32), pollReport client (.received .afInet tx.data port ipAddr) =
      some (.msgRx m.type (some payload))

theorem WellFormed.length_payload {m : LxMessage} {payload : List Byte}
    (h : WellFormed m payload) : payload.length = sizeofPayload m.type := by
  have hp := h.payload
  rw [LxMessage.payloadBytes] at hp
  split at hp
  · split at hp
    · rename_i hzero
      rw [← Option.some_inj.mp hp, hzero, List.length_nil]
    · exact absurd hp (by simp)
  · rw [ArrayPtr.read?] at hp
    split at hp
    · rename_i hle
      rw [← Option.some_inj.mp hp, List.length_take, List.length_drop]
      omega
    · exact absurd hp (by simp)

/-- A datagram carries a header of one type only. -/
theorem Carries.type_eq {tx : UdpTx} {m : LxMessage} {payload : List Byte}
    (h : Carries tx m payload) {header : LxProtocolHeader} {rest : List Byte}
    (hdata : tx.data = header.toBytes.bytes ++ rest) : m.type = header.type := by
  obtain ⟨header', htype, -, hdata'⟩ := h.data
  have hbytes : header'.toBytes.bytes = header.toBytes.bytes :=
    (List.append_inj (hdata'.symm.trans hdata)
      (by rw [Buffer.length_bytes, Buffer.length_bytes])).1
  rw [← htype, LxProtocolHeader.toBytes_injective (Buffer.ext hbytes)]

/-- **When the encoder agrees with its message**: when the message is a `GET_SERVICE` request. -/
theorem sendMessage_agrees_iff (client : LxClient) (device : LxDevice) (m : LxMessage)
    (payload : List Byte) (hm : WellFormed m payload) :
    Carries (lxClientSendMessage client device m) m payload ↔ m.type = lxPacketGetService := by
  have hdata : (lxClientSendMessage client device m).data =
      (popHeader 0#32 client.sourceId device.target m.type).toBytes.bytes ++ [] :=
    (List.append_nil _).symm
  refine ⟨?_, ?_⟩
  · exact fun h ↦ h.type_eq hdata
  · intro htype
    have hlen := hm.length_payload
    rw [htype] at hlen
    have hnil : payload = [] := List.length_eq_zero_iff.mp hlen
    subst hnil
    refine ⟨⟨_, htype.symm, rfl, hdata⟩, rfl, fun hstate ↦ ?_⟩
    exact absurd (htype.symm.trans hstate) (by decide)

theorem sendMessage_agrees_iff_of_getService :
    Carries (lxClientSendMessage ⟨0, 3, .fill _ 0⟩ lxBroadcastDevice ⟨lxPacketGetService, none⟩)
        ⟨lxPacketGetService, none⟩ [] ↔ lxPacketGetService = lxPacketGetService :=
  sendMessage_agrees_iff _ _ _ [] ⟨Or.inl rfl, rfl⟩

/-- A `STATE_SERVICE` message for UDP on port 56700. -/
def udpService : LxMessage :=
  ⟨lxPacketStateService, some ⟨udpServicePayload, 0⟩⟩

/-- That message is sent as a `GET_SERVICE` request, and no client reports it. -/
theorem not_sendMessage_agrees : ¬ ∀ (client : LxClient) (device : LxDevice) (m : LxMessage)
    (payload : List Byte), WellFormed m payload →
      Carries (lxClientSendMessage client device m) m payload := by
  intro hall
  have h := hall ⟨0, 3, .fill _ 0⟩ lxBroadcastDevice udpService _ ⟨Or.inr rfl, rfl⟩
  have hreport := h.decodes rfl ⟨0, 4, .fill _ 0⟩ 56700 0
  revert hreport
  decide +kernel

end BedroomLights
