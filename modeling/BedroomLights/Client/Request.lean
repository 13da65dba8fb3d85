import BedroomLights.Firmware.Client

/-!
# What a request says

The 36 bytes that `lx_client_send_message` hands to `udp_tx` are the members of a struct as they lie
in memory, and the layout of that struct is lossless (`LxProtocolHeader.ofBytes_toBytes`).  So what
a bulb reads in a request is what `pop_header` wrote, bit-fields and all, and of two clients and
two devices a request tells apart the source identifiers and the targets, and nothing else
(`getService_wire`).
-/

set_option autoImplicit false

open LittleEndian

namespace BedroomLights

/-- `pop_target` is the little-endian encoding of the target. -/
theorem popTarget_bytes (target : BitVec 64) :
    (popTarget target).bytes = leBytes 8 target.toNat := by
  rw [popTarget, leBytes]
  refine List.map_congr_left fun i _ ↦ ?_
  rw [← BitVec.toNat_inj, BitVec.toNat_setWidth, BitVec.toNat_ushiftRight, BitVec.toNat_ofNat]

theorem leVal_popTarget (target : BitVec 64) : leVal (popTarget target).bytes = target.toNat := by
  rw [popTarget_bytes, leVal_leBytes_of_lt (target.isLt.trans_le (by norm_num))]

/-- The header of a `GET_SERVICE` request from `source` to `target`. -/
structure IsGetService (header : LxProtocolHeader) (source : BitVec 32) (target : BitVec 64) :
    Prop where
  size : header.size.toNat = 36
  protocol : header.protocol.toNat = 1024
  addressable : header.addressable = 1#1
  origin : header.origin = 0#2
  tagged : header.tagged = 1#1 ↔ target = 0#64
  source : header.source = source
  /-- The target, least significant byte first. -/
  target : (header.target.bytes.mapIdx fun i b ↦ b.toNat * 256 ^ i).sum = target.toNat
  type : header.type.toNat = 2
  reserved : header.reserved = Buffer.fill 6 0
  resRequired : header.resRequired = 0#1
  ackRequired : header.ackRequired = 0#1
  pad6 : header.pad6 = 0#6
  sequence : header.sequence = 0#8
  pad64 : header.pad64 = 0#64
  pad16 : header.pad16 = 0#16

/-- A header of one request is not a header of another. -/
theorem IsGetService.unique {header : LxProtocolHeader} {source source' : BitVec 32}
    {target target' : BitVec 64} (h : IsGetService header source target)
    (h' : IsGetService header source' target') : source = source' ∧ target = target' :=
  ⟨h.source.symm.trans h'.source, BitVec.eq_of_toNat_eq (h.target.symm.trans h'.target)⟩

theorem isGetService_popHeader (source : BitVec 32) (target : BitVec 64) (packet : LxPacket) :
    IsGetService (popHeader 0#32 source target packet) source target := by
  refine ⟨rfl, rfl, rfl, rfl, ?_, rfl, ?_, rfl, rfl, rfl, rfl, rfl, rfl, rfl, rfl⟩
  · show (if target = broadcastTarget then 1#1 else 0#1) = 1#1 ↔ target = broadcastTarget
    split_ifs with h
    · exact iff_of_true rfl h
    · exact iff_of_false (by decide) h
  · rw [← leVal_eq_sum]
    exact leVal_popTarget target

/-- What is sent is decoded to what was encoded. -/
theorem isGetService_send (client : LxClient) (device : LxDevice) (message : LxMessage) :
    ∃ h : (lxClientSendMessage client device message).data.length = sizeofLxProtocolHeader,
      IsGetService (LxProtocolHeader.ofBytes ⟨(lxClientSendMessage client device message).data, h⟩)
        client.sourceId device.target := by
  refine ⟨Buffer.length_bytes _, ?_⟩
  have hdecode := LxProtocolHeader.ofBytes_toBytes
    (popHeader 0#32 client.sourceId device.target message.type)
  exact hdecode.symm ▸ isGetService_popHeader client.sourceId device.target message.type

/-- **What a request says**: 36 bytes, all of them sent, that decode to the header of a
`GET_SERVICE` request; and the bytes of two requests are the same exactly if source and target
are. -/
theorem getService_wire (client : LxClient) (device : LxDevice) (message : LxMessage) :
    (lxClientSendMessage client device message).dataLen.toNat = 36 ∧
    (∃ h : (lxClientSendMessage client device message).data.length = sizeofLxProtocolHeader,
      IsGetService (LxProtocolHeader.ofBytes ⟨(lxClientSendMessage client device message).data, h⟩)
        client.sourceId device.target) ∧
    ∀ (client' : LxClient) (device' : LxDevice) (message' : LxMessage),
      (lxClientSendMessage client device message).data =
          (lxClientSendMessage client' device' message').data ↔
        (client.sourceId, device.target) = (client'.sourceId, device'.target) := by
  refine ⟨rfl, isGetService_send client device message, fun client' device' message' ↦ ⟨?_, ?_⟩⟩
  · intro hdata
    obtain ⟨hlen, h⟩ := isGetService_send client device message
    obtain ⟨hlen', h'⟩ := isGetService_send client' device' message'
    have hbytes : (⟨_, hlen⟩ : Buffer Byte sizeofLxProtocolHeader) = ⟨_, hlen'⟩ := Buffer.ext hdata
    rw [hbytes] at h
    obtain ⟨hsource, htarget⟩ := h.unique h'
    rw [hsource, htarget]
  · intro heq
    obtain ⟨hsource, htarget⟩ := Prod.mk.inj heq
    simp only [lxClientSendMessage, hsource, htarget]
    rfl

end BedroomLights
