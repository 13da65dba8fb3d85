import BedroomLights.Firmware.Rdm.Responder
import BedroomLights.Rdm.Packet

/-!
# What a responder answers

The handlers of a device are whatever it supports, as long as they answer by `rdm_write_ack` and
`rdm_write_nack_reason` only (`Responds`), as the handler of the discovery parameters does.

* `answers_of_sends`: a device sends nothing but answers.  What the controller reads off the wire
  comes from the device, to whom the request came from, with the number of the request; and nobody
  answers a broadcast, but for the search for devices.
* `rdmSendResponse_eq_none_iff`: which packets end in a failed assertion.

The rest is what a device makes of the packets of a discovery (`rdmSendResponse_branch`,
`rdmSendResponse_mute`).
-/

set_option autoImplicit false

namespace BedroomLights

variable {r r' : Responder} {h : RdmHeader} {pd rest : List Byte} {n : ℕ}
  {definitions : BitVec 16 → Option RdmDefinition}

/-! ## The slots that are sent -/

/-- A standard packet is sent whole, and nothing of what is behind it. -/
theorem sentSlots_wirePacket {data : Buffer Byte dmxPacketSize} (hcc : rdmCcIsValid h.cc = true)
    (hdisc : ¬ h.IsDiscoveryResponse) (hpd : pd.length ≤ 231)
    (hdata : data.bytes = wirePacket h pd ++ rest) (size : ℕ) :
    sentSlots data size = wirePacket h pd := by
  have hlen : (h.withPd pd).messageLen.toNat + 2 = (wirePacket h pd).length := by
    show (BitVec.ofNat 8 (24 + pd.length)).toNat + 2 = _
    rw [BitVec.toNat_ofNat, Nat.mod_eq_of_lt (by omega), length_wirePacket]
    omega
  have hcc' : rdmCcIsValid (h.withPd pd).cc = true := hcc
  have hdisc' : ¬ (h.withPd pd).IsDiscoveryResponse := hdisc
  rw [sentSlots, dmxSendSize, hdata, rdmReadHeader?_wirePacket hpd]
  simp only [hcc', if_true, if_neg hdisc', hlen, List.take_left]

theorem sentSlots_discoveryResponse {data : Buffer Byte dmxPacketSize} {uid : RdmUid}
    (hdata : data.bytes = discoveryResponse uid ++ rest) (size : ℕ) :
    sentSlots data size = discoveryResponse uid := by
  have hcc : rdmCcIsValid (discoveryAck uid).cc = true := by
    show rdmCcIsValid rdmCcDiscCommandResponse = true
    decide
  have hdisc : (discoveryAck uid).IsDiscoveryResponse := ⟨rfl, rfl⟩
  rw [sentSlots, dmxSendSize, hdata, rdmReadHeader?_discoveryResponse]
  simp only [hcc, if_true, if_pos hdisc]
  exact List.take_left' (length_discoveryResponse uid)

/-- What is written to the buffer is what is sent, and can be read back at the other end. -/
theorem readHeader?_of_write {format : Option (List Char)} {src : Option (List Byte)}
    (hwrite : r.write h format src = some (r', n)) (hn : n ≠ 0) (size : ℕ) (rest : List Byte) :
    r'.uid = r.uid ∧
      if h.IsDiscoveryResponse then
        rdmReadHeader? (sentSlots r'.data size ++ rest) = some (discoveryAck h.srcUid)
      else ∃ pd, rdmReadHeader? (sentSlots r'.data size ++ rest) = some (h.withPd pd) := by
  rw [Responder.write] at hwrite
  obtain ⟨⟨data, m⟩, hdata, heq⟩ := Option.map_eq_some_iff.mp hwrite
  cases heq
  obtain ⟨packet, hbytes, -, -, hpacket⟩ := rdmWrite_eq hdata hn
  refine ⟨rfl, ?_⟩
  split_ifs at hpacket ⊢ with hdisc
  · subst hpacket
    rw [sentSlots_discoveryResponse hbytes, rdmReadHeader?_discoveryResponse]
  · obtain ⟨pd, -, hpd, rfl⟩ := hpacket
    have hcc := (rdmWriteChecks_of_rdmWrite hdata hn).2.2.1
    exact ⟨pd, by rw [sentSlots_wirePacket hcc hdisc hpd hbytes, rdmReadHeader?_wirePacket hpd]⟩

/-! ## Answers -/

/-- What a handler does that answers by `rdm_write_ack` and `rdm_write_nack_reason` only.  It may
change the device before that, but not its UID, and it may answer for another parameter. -/
def Responds (handler : Responder → RdmHeader → Option (Responder × ℕ)) : Prop :=
  ∀ r h r' n, handler r h = some (r', n) → r'.uid = r.uid ∧ (n = 0 ∨ ∃ r₁ pid, r₁.uid = r.uid ∧
    ((∃ format pd pdl, rdmWriteAck r₁ { h with pid := pid } format pd pdl = some (r', n)) ∨
      ∃ reason, rdmWriteNackReason r₁ { h with pid := pid } reason = some (r', n)))

/-- `h'` is read off an answer of the device `uid` to the request `h`. -/
structure Answers (uid : RdmUid) (h h' : RdmHeader) : Prop where
  srcUid : h'.srcUid = uid
  cc : h'.cc = h.cc ||| 0x1#8
  responseType : h'.responseType = rdmResponseTypeAck ∨ h'.responseType = rdmResponseTypeNackReason
  /-- A discovery response has no room for the rest. -/
  rest : h'.IsDiscoveryResponse ∨
    (h'.destUid = h.srcUid ∧ h'.tn = h.tn ∧ h'.subDevice = h.subDevice)

theorem answers_of_write {pid : BitVec 16} {responseType pdl : Byte}
    {format : Option (List Char)} {src : Option (List Byte)}
    (htype : responseType = rdmResponseTypeAck ∨ responseType = rdmResponseTypeNackReason)
    (hwrite : r.write (r.responseHeader { h with pid := pid } responseType pdl) format src =
      some (r', n)) (hn : n ≠ 0) (size : ℕ) (rest : List Byte) :
    ∃ h', rdmReadHeader? (sentSlots r'.data size ++ rest) = some h' ∧ Answers r.uid h h' := by
  obtain ⟨-, hread⟩ := readHeader?_of_write hwrite hn size rest
  split_ifs at hread with hdisc
  · exact ⟨_, hread, ⟨rfl, hdisc.1.symm, .inl rfl, .inl ⟨rfl, rfl⟩⟩⟩
  · obtain ⟨pd, hread⟩ := hread
    exact ⟨_, hread, ⟨rfl, rfl, htype, .inr ⟨rfl, rfl, rfl⟩⟩⟩

theorem answers_of_rdmWriteAck {pid : BitVec 16} {format : Option (List Char)}
    {src : Option (List Byte)} {pdl : Byte}
    (hack : rdmWriteAck r { h with pid := pid } format src pdl = some (r', n)) (hn : n ≠ 0)
    (size : ℕ) (rest : List Byte) : rdmCcIsRequest h.cc = true ∧
      ∃ h', rdmReadHeader? (sentSlots r'.data size ++ rest) = some h' ∧ Answers r.uid h h' := by
  rw [rdmWriteAck] at hack
  split_ifs at hack with hrequest
  exact ⟨hrequest.1, answers_of_write (.inl rfl) hack hn size rest⟩

theorem answers_of_rdmWriteNackReason {reason : BitVec 16} (pid : BitVec 16)
    (hnack : rdmWriteNackReason r { h with pid := pid } reason = some (r', n)) (hn : n ≠ 0)
    (size : ℕ) (rest : List Byte) : rdmCcIsRequest h.cc = true ∧
      ∃ h', rdmReadHeader? (sentSlots r'.data size ++ rest) = some h' ∧ Answers r.uid h h' := by
  rw [rdmWriteNackReason] at hnack
  split_ifs at hnack with hrequest
  exact ⟨hrequest, answers_of_write (.inr rfl) hnack hn size rest⟩

theorem rdmDefinitionGet_eq_some {d : RdmDefinition}
    (hget : rdmDefinitionGet definitions h.subDevice h.pid = some (some d)) :
    definitions h.pid = some d := by
  rw [rdmDefinitionGet] at hget
  split_ifs at hget
  · exact Option.some_inj.mp hget
  · cases hget

theorem responds_handler {d : RdmDefinition} (cc : Byte)
    (h : Responds d.getHandler ∧ Responds d.setHandler) : Responds (d.handler cc) := by
  rw [RdmDefinition.handler]
  split_ifs
  · exact h.2
  · exact h.1

/-- The response that is sent is an answer, whichever branch it comes from. -/
theorem answers_of_rdmHandleRequest
    (hdefs : ∀ pid d, definitions pid = some d → Responds d.getHandler ∧ Responds d.setHandler)
    (hhandle : rdmHandleRequest definitions r h = some (r', n)) (hn : n ≠ 0) (size : ℕ)
    (rest : List Byte) : rdmCcIsRequest h.cc = true ∧
      ∃ h', rdmReadHeader? (sentSlots r'.data size ++ rest) = some h' ∧ Answers r.uid h h' := by
  have hnack : ∀ {r₁ r₂ : Responder} {reason : BitVec 16} {m : ℕ}, r₁.uid = r.uid → m ≠ 0 →
      rdmWriteNackReason r₁ h reason = some (r₂, m) → rdmCcIsRequest h.cc = true ∧
        ∃ h', rdmReadHeader? (sentSlots r₂.data size ++ rest) = some h' ∧ Answers r.uid h h' := by
    intro r₁ r₂ reason m huid hm hwrite
    rw [← huid]
    exact answers_of_rdmWriteNackReason (h := h) h.pid hwrite hm size rest
  rw [rdmHandleRequest] at hhandle
  split at hhandle
  · cases hhandle
  · exact hnack rfl hn hhandle
  · rename_i d hget
    have hresponds := responds_handler h.cc (hdefs _ _ (rdmDefinitionGet_eq_some hget))
    split_ifs at hhandle
    · exact hnack rfl hn hhandle
    · cases hhandle
      exact absurd rfl hn
    · exact hnack rfl hn hhandle
    · obtain ⟨⟨r₂, m⟩, hhandler, hhandle⟩ := Option.bind_eq_some_iff.mp hhandle
      obtain ⟨huid, hanswer⟩ := hresponds _ _ _ _ hhandler
      change validateResponse h r₂ m = some (r', n) at hhandle
      rw [validateResponse] at hhandle
      split_ifs at hhandle
      · cases hhandle
        exact absurd rfl hn
      · obtain ⟨⟨r₃, m'⟩, hwrite, heq⟩ := Option.map_eq_some_iff.mp hhandle
        cases heq
        have hanswers := hnack huid hn hwrite
        exact hanswers
      · cases hhandle
        obtain ⟨r₁, pid, huid₁, hwrite⟩ := hanswer.resolve_left hn
        rw [← huid₁]
        rcases hwrite with ⟨format, src, pdl, hack⟩ | ⟨reason, hwrite⟩
        · exact answers_of_rdmWriteAck hack hn size rest
        · exact answers_of_rdmWriteNackReason _ hwrite hn size rest

/-- What a device sends is an answer to what is in its buffer. -/
theorem answers_of_read
    (hdefs : ∀ pid d, definitions pid = some d → Responds d.getHandler ∧ Responds d.setHandler)
    (hread : rdmReadHeader? r.data.bytes = some h) {inTime : Bool} {slots : List Byte}
    (hsend : rdmSendResponse definitions r inTime = some (r', some slots)) (rest : List Byte) :
    rdmCcIsRequest h.cc = true ∧ rdmUidIsTarget r.uid h.destUid = true ∧
      (rdmUidIsBroadcast h.destUid = true → h.pid = rdmPidDiscUniqueBranch) ∧
      ∃ h', rdmReadHeader? (slots ++ rest) = some h' ∧ Answers r.uid h h' := by
  rw [rdmSendResponse, hread] at hsend
  dsimp only at hsend
  split_ifs at hsend with hmeant
  · cases hsend
  · rw [not_or, Bool.not_eq_false, Bool.not_eq_false] at hmeant
    obtain ⟨⟨r₁, n⟩, hhandle, hsend⟩ := Option.map_eq_some_iff.mp hsend
    change sendPacket h inTime r₁ n = (r', some slots) at hsend
    rw [sendPacket] at hsend
    split_ifs at hsend with hsilent
    · cases hsend
    · rw [not_or, not_and_not_right] at hsilent
      cases hsend
      obtain ⟨hrequest, hanswers⟩ := answers_of_rdmHandleRequest hdefs hhandle hsilent.1 n rest
      exact ⟨hrequest, hmeant.2, hsilent.2, hanswers⟩
    · cases hsend

/-! ## The search for devices -/

/-- The bounds of a branch on the wire. -/
def branchPd (lower upper : RdmUid) : List Byte := swapUid lower.bytes ++ swapUid upper.bytes

@[simp] theorem length_branchPd (lower upper : RdmUid) : (branchPd lower upper).length = 12 := rfl

theorem plain_uu : Plain ['u', 'u'] := .copied rfl (.copied rfl .nil)

theorem rdmReadPd_branchPd (h : RdmHeader) (lower upper : RdmUid) (rest : List Byte) :
    rdmReadPd (wirePacket h (branchPd lower upper) ++ rest) (some ['u', 'u', '$']) true 12 =
      some (12, lower.bytes ++ upper.bytes) := by
  obtain ⟨hpdl, rest', hdrop⟩ := wirePacket_pd h (branchPd lower upper) rest
  have hsrc : plainSize ['u', 'u'] ≤ (branchPd lower upper ++ rest').length := by
    rw [List.length_append]
    exact Nat.le_add_right 12 _
  have hencode : rdmFormatEncode (['u', 'u'] ++ ['$']) (branchPd lower upper ++ rest') 12#32 true =
      some (plainSwap ['u', 'u'] (branchPd lower upper ++ rest')) :=
    rdmFormatEncode_plain_end plain_uu (by decide) (by decide) hsrc
  have hswap : plainSwap ['u', 'u'] (branchPd lower upper ++ rest') =
      lower.bytes ++ upper.bytes := rfl
  have hvalid : rdmFormatIsValid (some ['u', 'u', '$']) = some true := by decide
  rw [rdmReadPd, hvalid, hpdl, hdrop]
  show (do
    let written ← rdmFormatEncode ['u', 'u', '$'] (branchPd lower upper ++ rest') 12#32 true
    some (12, written)) = some (12, lower.bytes ++ upper.bytes)
  rw [show ['u', 'u', '$'] = ['u', 'u'] ++ ['$'] from rfl, hencode, hswap]
  rfl

variable {lower upper : RdmUid}

/-- `rdm_write_ack` on the request of a discovery, which is for the root device. -/
theorem rdmWriteAck_of_rdmPacket {format : Option (List Char)} {src : Option (List Byte)}
    {pdl : Byte} {packet : List Byte} (hsub : h.subDevice = rdmSubDeviceRoot)
    (hcc : h.cc = rdmCcDiscCommand) (hvalid : rdmFormatIsValid format = some true)
    (hgiven : (format = none ∧ src = none ∧ pdl = 0#8) ∨ (format ≠ none ∧ src ≠ none))
    (hpdl : pdl < 231#8)
    (hpacket : rdmPacket (r.responseHeader h rdmResponseTypeAck pdl) format src = some packet)
    (hlen : packet.length ≤ dmxPacketSize) : ∃ data rest,
      rdmWriteAck r h format src pdl = some ({ r with data := data }, packet.length) ∧
      data.bytes = packet ++ rest := by
  have hcc' : (r.responseHeader h rdmResponseTypeAck pdl).cc = rdmCcDiscCommandResponse := by
    show h.cc ||| 0x1#8 = _
    rw [hcc]
    rfl
  have hmessage : (24 + pdl).toNat = 24 + pdl.toNat := by
    have hlt : pdl.toNat < 231 := hpdl
    rw [BitVec.toNat_add]
    exact Nat.mod_eq_of_lt (show 24 + pdl.toNat < 256 by omega)
  have hchecks : rdmWriteChecks (r.responseHeader h rdmResponseTypeAck pdl) format src := by
    refine ⟨⟨?_, hmessage⟩, Or.inl ?_, ?_, hpdl, ?_, ?_⟩
    · show 24 ≤ (24 + pdl).toNat
      rw [hmessage]
      exact Nat.le_add_right 24 _
    · show h.subDevice < rdmSubDeviceMax
      rw [hsub]
      decide
    · rw [hcc']
      decide
    · rw [hcc', if_neg (by decide)]
      exact (by decide : rdmResponseTypeIsValid rdmResponseTypeAck = true)
    · exact hgiven.imp (fun h ↦ h.2.2) id
  have hassert : rdmCcIsRequest h.cc = true ∧ rdmFormatIsValid format = some true ∧
      (format ≠ none ∨ src = none) ∧ (src ≠ none ∨ pdl = 0#8) ∧ pdl < 231#8 := by
    refine ⟨by rw [hcc]; decide, hvalid, ?_, ?_, hpdl⟩
    · exact hgiven.symm.imp And.left fun h ↦ h.2.1
    · exact hgiven.symm.imp And.right fun h ↦ h.2.2
  obtain ⟨data, hwrite, hbytes⟩ := rdmWrite_of_rdmPacket r.data hvalid hchecks hpacket hlen
  refine ⟨data, _, ?_, hbytes⟩
  rw [rdmWriteAck, if_pos hassert, Responder.write, hwrite]
  rfl

/-- A request of a discovery: for the root device, and for everybody or for one device. -/
structure IsDiscovery (h : RdmHeader) (pid : BitVec 16) : Prop where
  subDevice : h.subDevice = rdmSubDeviceRoot
  cc : h.cc = rdmCcDiscCommand
  pid : h.pid = pid

theorem uidInMemory_bytes (lower upper : RdmUid) :
    uidInMemory (lower.bytes ++ upper.bytes) 0 = lower ∧
      uidInMemory (lower.bytes ++ upper.bytes) 6 = upper := by
  have hlower := uidAt_swapUid_bytes lower []
  have hupper := uidAt_swapUid_bytes upper []
  rw [List.append_nil] at hlower hupper
  rw [uidInMemory, uidInMemory, List.drop_zero, List.take_left' (RdmUid.length_bytes lower),
    List.drop_left' (RdmUid.length_bytes lower), List.take_of_length_le (by simp)]
  exact ⟨hlower, hupper⟩

/-- What the handler does in the search for devices. -/
theorem rdmRhdDiscovery_branch (hdisc : IsDiscovery h rdmPidDiscUniqueBranch) {h' : RdmHeader}
    (hdata : r.data.bytes = wirePacket h' (branchPd lower upper) ++ rest) :
    ∃ data n, rdmRhdDiscovery r h = some ({ r with data := data }, n) ∧
      if r.isMuted = false ∧ lower.val ≤ r.uid.val ∧ r.uid.val ≤ upper.val then
        n = 24 ∧ ∃ rest', data.bytes = discoveryResponse r.uid ++ rest'
      else n = 0 := by
  have hpd := rdmReadPd_branchPd h' lower upper rest
  rw [rdmRhdDiscovery, if_neg (not_not.mpr hdisc.subDevice), if_pos hdisc.pid]
  by_cases hmuted : r.isMuted = true
  · refine ⟨r.data, 0, by rw [if_pos hmuted], ?_⟩
    rw [if_neg fun h ↦ by simp [hmuted] at h]
  · rw [if_neg hmuted, hdata, hpd]
    simp only [Option.bind_eq_bind, Option.bind_some]
    rw [(uidInMemory_bytes lower upper).1, (uidInMemory_bytes lower upper).2]
    simp only [rdmUidIsLt_iff, rdmUidIsGt_iff]
    rw [if_neg (by decide)]
    by_cases hout : r.uid.val < lower.val ∨ upper.val < r.uid.val
    · refine ⟨r.data, 0, by rw [if_pos hout], ?_⟩
      rw [if_neg fun h ↦ by omega]
    · have hpacket : rdmPacket (r.responseHeader h rdmResponseTypeAck 0) none none =
          some (discoveryResponse r.uid) := by
        refine if_pos ⟨?_, hdisc.pid⟩
        show h.cc ||| 0x1#8 = _
        rw [hdisc.cc]
        rfl
      obtain ⟨data, rest', hack, hbytes⟩ := rdmWriteAck_of_rdmPacket hdisc.subDevice hdisc.cc rfl
        (Or.inl ⟨rfl, rfl, rfl⟩) (by decide) hpacket (by rw [length_discoveryResponse]; decide)
      rw [length_discoveryResponse] at hack
      refine ⟨data, 24, by rw [if_neg hout]; exact hack, ?_⟩
      rw [if_pos ⟨by simpa using hmuted, by omega, by omega⟩]
      exact ⟨rfl, rest', hbytes⟩

/-- The parameter data of the response to a mute request, on the wire. -/
def Responder.mutePd (r : Responder) : List Byte :=
  (r.muteBytes.take 2).reverse ++
    if r.bindingUid.bytes = List.replicate sizeofRdmUid 0 then [] else swapUid r.bindingUid.bytes

theorem Responder.length_mutePd (r : Responder) : r.mutePd.length ≤ 8 := by
  rw [Responder.mutePd, List.length_append]
  split_ifs
  · exact (by decide : 2 ≤ 8)
  · exact le_refl 8

theorem Responder.two_le_length_mutePd (r : Responder) : 2 ≤ r.mutePd.length := by
  rw [Responder.mutePd, List.length_append]
  exact Nat.le_add_right 2 _

theorem rdmFormatEncode_muteBytes (r : Responder) :
    rdmFormatEncode ['w', 'v'] r.muteBytes 8#32 false = some r.mutePd := by
  have hsrc : r.muteBytes.drop 2 = r.bindingUid.bytes := rfl
  have hsize : ¬ (8#32 - BitVec.ofNat 32 2).toNat < sizeofRdmUid := by decide
  have hlen : ¬ r.bindingUid.bytes.length < sizeofRdmUid := by
    rw [RdmUid.length_bytes]
    decide
  have htake : r.bindingUid.bytes.take sizeofRdmUid = r.bindingUid.bytes :=
    List.take_of_length_le (by rw [RdmUid.length_bytes])
  rw [rdmFormatEncode_of_valid (by decide)]
  show rdmFormatLoop ['w', 'v'] false (7 + 1) [] r.muteBytes 8#32 = _
  rw [rdmFormatLoop, if_neg (by decide), rdmFormatPass_copied (c := 'w') rfl,
    if_pos (show 2 ≤ r.muteBytes.length from (by decide : 2 ≤ 8)),
    rdmFormatPass_optionalUid (c := 'v') rfl, encodeOptionalUid, hsrc, if_neg hsize, if_neg hlen,
    htake, Responder.mutePd]
  by_cases hnull : r.bindingUid.bytes = List.replicate sizeofRdmUid 0
  · rw [if_pos hnull, if_pos hnull]
    simp
  · rw [if_neg hnull, if_neg hnull]
    simp

/-- What the handler does with a mute or un-mute request. -/
theorem rdmRhdDiscovery_mute {pid : BitVec 16} (hdisc : IsDiscovery h pid)
    (hpid : pid ≠ rdmPidDiscUniqueBranch) : ∃ data rest,
      rdmRhdDiscovery r h = some ({ r with isMuted := decide (pid = rdmPidDiscMute), data := data },
        26 + r.mutePd.length) ∧
      data.bytes = wirePacket (r.responseHeader h rdmResponseTypeAck 8) r.mutePd ++ rest := by
  have hnot : ¬ (r.responseHeader h rdmResponseTypeAck 8#8).IsDiscoveryResponse :=
    fun h' ↦ hpid (hdisc.pid.symm.trans h'.2)
  have hmessage : (r.responseHeader h rdmResponseTypeAck 8#8).messageLen.toNat =
      24 + (r.responseHeader h rdmResponseTypeAck 8#8).pdl.toNat := rfl
  have hpd : WritesPd (r.responseHeader h rdmResponseTypeAck 8#8) (some ['w', 'v'])
      (some r.muteBytes) r.mutePd :=
    .encoded (show 8#8 ≠ 0#8 by decide) rfl rfl (rdmFormatEncode_muteBytes r)
  have hpacket : rdmPacket (r.responseHeader h rdmResponseTypeAck 8#8) (some ['w', 'v'])
      (some r.muteBytes) =
        some (wirePacket (r.responseHeader h rdmResponseTypeAck 8#8) r.mutePd) := by
    rw [rdmPacket, if_neg hnot, hpd.standardPacket_eq hmessage]
  obtain ⟨data, rest, hack, hbytes⟩ :=
    rdmWriteAck_of_rdmPacket (r := { r with isMuted := decide (pid = rdmPidDiscMute) })
      hdisc.subDevice hdisc.cc (by decide) (Or.inr ⟨by simp, by simp⟩) (by decide) hpacket
      (by rw [length_wirePacket]; exact (Nat.add_le_add_left r.length_mutePd 26).trans (by decide))
  rw [length_wirePacket] at hack
  refine ⟨data, rest, ?_, hbytes⟩
  rw [rdmRhdDiscovery, if_neg (not_not.mpr hdisc.subDevice), hdisc.pid, if_neg hpid]
  exact hack

/-- The device has the discovery parameters, whatever else it has. -/
def Discoverable (definitions : BitVec 16 → Option RdmDefinition) : Prop :=
  ∀ pid ∈ [rdmPidDiscUniqueBranch, rdmPidDiscMute, rdmPidDiscUnMute],
    definitions pid = some discoveryDefinition

/-- The discovery parameters and no others. -/
def discoveryParameters (pid : BitVec 16) : Option RdmDefinition :=
  if pid ∈ [rdmPidDiscUniqueBranch, rdmPidDiscMute, rdmPidDiscUnMute] then some discoveryDefinition
  else none

theorem discoverable_discoveryParameters : Discoverable discoveryParameters :=
  fun _ hpid ↦ if_pos hpid

/-- The requests of a discovery go to its handler. -/
theorem rdmSendResponse_discovery {pid : BitVec 16} (hdefs : Discoverable definitions)
    (hpid : pid ∈ [rdmPidDiscUniqueBranch, rdmPidDiscMute, rdmPidDiscUnMute])
    (hdisc : IsDiscovery h pid) (hpd : pd.length ≤ 231)
    (hdata : r.data.bytes = wirePacket h pd ++ rest) :
    rdmSendResponse definitions r true =
      if rdmUidIsTarget r.uid h.destUid then
        ((rdmRhdDiscovery r (h.withPd pd)).bind fun x ↦ validateResponse (h.withPd pd) x.1 x.2).map
          fun x ↦ sendPacket (h.withPd pd) true x.1 x.2
      else some (r, none) := by
  have hcc : rdmCcIsValid (h.withPd pd).cc = true := by
    show rdmCcIsValid h.cc = true
    rw [hdisc.cc]
    decide
  have hzero : pid ≠ 0#16 := by
    rintro rfl
    revert hpid
    decide
  have hpdl : ¬ (h.withPd pd).pdl ≥ 232#8 := by
    show ¬ 232 ≤ (BitVec.ofNat 8 pd.length).toNat
    rw [BitVec.toNat_ofNat, Nat.mod_eq_of_lt (by omega)]
    omega
  have hget : rdmDefinitionGet definitions (h.withPd pd).subDevice (h.withPd pd).pid =
      some (some discoveryDefinition) := by
    show rdmDefinitionGet definitions h.subDevice h.pid = _
    rw [rdmDefinitionGet, hdisc.subDevice, hdisc.pid, if_pos ⟨by decide, hzero⟩, if_pos rfl,
      hdefs pid hpid]
  have hhandler : discoveryDefinition.handler (h.withPd pd).cc = rdmRhdDiscovery := by
    show discoveryDefinition.handler h.cc = _
    rw [hdisc.cc]
    rfl
  have hcommand : ¬ (discoveryDefinition.pidCc = .disc ∧ (h.withPd pd).cc ≠ rdmCcDiscCommand) :=
    fun hne ↦ hne.2 hdisc.cc
  have hclass : ¬ ((discoveryDefinition.pidCc = .getSet ∧ (h.withPd pd).cc = rdmCcDiscCommand) ∨
      (discoveryDefinition.pidCc = .get ∧ (h.withPd pd).cc ≠ rdmCcGetCommand) ∨
      (discoveryDefinition.pidCc = .set ∧ (h.withPd pd).cc ≠ rdmCcSetCommand)) := by
    simp [discoveryDefinition]
  rw [rdmSendResponse, hdata, rdmReadHeader?_wirePacket hpd]
  simp only [hcc]
  by_cases htarget : rdmUidIsTarget r.uid h.destUid = true
  · have hmeant : ¬ (true = false ∨ rdmUidIsTarget r.uid (h.withPd pd).destUid = false) := by
      show ¬ (true = false ∨ rdmUidIsTarget r.uid h.destUid = false)
      simp [htarget]
    rw [if_neg hmeant, if_pos htarget, rdmHandleRequest, hget]
    simp only [if_neg hpdl, if_neg hcommand, if_neg hclass, hhandler]
  · rw [if_pos (Or.inr (Bool.not_eq_true _ ▸ htarget)), if_neg htarget]

/-- **The search for devices, at a device.**  It answers if and only if it has not been muted and
its UID is in the range, and nothing but its buffer changes. -/
theorem rdmSendResponse_branch (hdefs : Discoverable definitions)
    (hdisc : IsDiscovery h rdmPidDiscUniqueBranch) (hdest : h.destUid = rdmUidBroadcastAll)
    (hdata : r.data.bytes = wirePacket h (branchPd lower upper) ++ rest) :
    ∃ data, rdmSendResponse definitions r true = some ({ r with data := data },
      if r.isMuted = false ∧ lower.val ≤ r.uid.val ∧ r.uid.val ≤ upper.val then
        some (discoveryResponse r.uid) else none) := by
  have hdisc' : IsDiscovery (h.withPd (branchPd lower upper)) rdmPidDiscUniqueBranch :=
    ⟨hdisc.subDevice, hdisc.cc, hdisc.pid⟩
  obtain ⟨data, n, hhandler, hn⟩ := rdmRhdDiscovery_branch hdisc' hdata
  refine ⟨data, ?_⟩
  have htarget : rdmUidIsTarget r.uid h.destUid = true := by
    rw [hdest]
    exact rdmUidIsTarget_broadcastAll r.uid
  have hbroadcast : rdmUidIsBroadcast (h.withPd (branchPd lower upper)).destUid = true := by
    show rdmUidIsBroadcast h.destUid = true
    rw [hdest]
    rfl
  rw [rdmSendResponse_discovery hdefs (by simp) hdisc (by rw [length_branchPd]; decide) hdata,
    if_pos htarget, hhandler]
  split_ifs at hn ⊢
  · obtain ⟨rfl, rest', hbytes⟩ := hn
    simp [validateResponse, sendPacket, hdisc'.pid, sentSlots_discoveryResponse hbytes]
  · subst hn
    simp [validateResponse, sendPacket, hbroadcast]

/-- **A mute or un-mute request, at a device.**  Only the flag and the buffer change; a device that
is meant alone acknowledges. -/
theorem rdmSendResponse_mute {pid : BitVec 16} (hdefs : Discoverable definitions)
    (hpid : pid = rdmPidDiscMute ∨ pid = rdmPidDiscUnMute) (hdisc : IsDiscovery h pid)
    (hdata : r.data.bytes = wirePacket h [] ++ rest) :
    ∃ data, rdmSendResponse definitions r true =
      if rdmUidIsTarget r.uid h.destUid then
        some ({ r with isMuted := decide (pid = rdmPidDiscMute), data := data },
          if rdmUidIsBroadcast h.destUid then none
          else some (wirePacket (r.responseHeader h rdmResponseTypeAck 8) r.mutePd))
      else some (r, none) := by
  have hdisc' : IsDiscovery (h.withPd []) pid := ⟨hdisc.subDevice, hdisc.cc, hdisc.pid⟩
  have hbranch : pid ≠ rdmPidDiscUniqueBranch := by
    rcases hpid with rfl | rfl <;> decide
  obtain ⟨data, rest', hhandler, hbytes⟩ := rdmRhdDiscovery_mute (r := r) hdisc' hbranch
  refine ⟨data, ?_⟩
  have hmem : pid ∈ [rdmPidDiscUniqueBranch, rdmPidDiscMute, rdmPidDiscUnMute] := by
    simp [hpid]
  have hcc : rdmCcIsValid (r.responseHeader h rdmResponseTypeAck 8#8).cc = true := by
    show rdmCcIsValid (h.cc ||| 0x1#8) = true
    rw [hdisc.cc]
    decide
  have hnot : ¬ (r.responseHeader h rdmResponseTypeAck 8#8).IsDiscoveryResponse :=
    fun h' ↦ hbranch (hdisc.pid.symm.trans h'.2)
  have hsent := sentSlots_wirePacket hcc hnot (r.length_mutePd.trans (by decide)) hbytes
  have hsize := r.length_mutePd
  rw [rdmSendResponse_discovery hdefs hmem hdisc (Nat.zero_le _) hdata, hhandler]
  have hvalid : ∀ r' : Responder, validateResponse (h.withPd []) r' (26 + r.mutePd.length) =
      some (r', 26 + r.mutePd.length) := by
    intro r'
    rw [validateResponse, if_neg fun h' ↦ hbranch (hdisc.pid.symm.trans h'.1), if_neg (by omega)]
  have hpid' : (h.withPd []).pid ≠ rdmPidDiscUniqueBranch :=
    fun h' ↦ hbranch (hdisc.pid.symm.trans h')
  split_ifs with htarget hbroadcast
  · have hsilent : rdmUidIsBroadcast (h.withPd []).destUid = true := hbroadcast
    simp [hvalid, sendPacket, hsilent, hpid']
  · have hsilent : ¬ rdmUidIsBroadcast (h.withPd []).destUid = true := hbroadcast
    simp [hvalid, sendPacket, hsilent, hsent]
  · rfl

/-! ## Failed assertions -/

/-- A request with a valid command class gets a response with one. -/
theorem rdmCcIsValid_response {cc : Byte} (hvalid : rdmCcIsValid cc = true)
    (hrequest : rdmCcIsRequest cc = true) :
    rdmCcIsValid (cc ||| 0x1#8) = true ∧ rdmCcIsRequest (cc ||| 0x1#8) = false := by
  revert cc
  decide

theorem rdmFormatEncode_word (x : BitVec 16) :
    rdmFormatEncode ['w'] (wordBytes x) 2#32 false = some (wordBytes x).reverse := by
  have hplain : Plain ['w'] := .copied rfl .nil
  have hle : 2 ≤ (wordBytes x).length := le_rfl
  have hencode := rdmFormatEncode_plain (e := false) hplain (by decide) (by decide) hle
    (show 2 < 2 ^ 32 by decide)
  rw [if_pos (by decide)] at hencode
  exact hencode

/-- A reason can be written for any request but those for sub-devices that cannot exist. -/
theorem rdmWriteNackReason_ne_none (hvalid : rdmCcIsValid h.cc = true)
    (hrequest : rdmCcIsRequest h.cc = true) (hsub : h.subDevice < rdmSubDeviceMax)
    (reason : BitVec 16) : rdmWriteNackReason r h reason ≠ none := by
  obtain ⟨hcc, hresponse⟩ := rdmCcIsValid_response hvalid hrequest
  have hchecks : rdmWriteChecks (r.responseHeader h rdmResponseTypeNackReason 2#8) (some ['w'])
      (some (wordBytes reason)) := by
    refine ⟨⟨show 24 ≤ 26 by decide, rfl⟩, Or.inl hsub, hcc, show 2#8 < 231#8 by decide, ?_,
      Or.inr ⟨by simp, by simp⟩⟩
    rw [if_neg (by rw [show (r.responseHeader h rdmResponseTypeNackReason 2#8).cc = h.cc ||| 0x1#8
      from rfl, hresponse]; decide)]
    exact (by decide : rdmResponseTypeIsValid rdmResponseTypeNackReason = true)
  have hpd : WritesPd (r.responseHeader h rdmResponseTypeNackReason 2#8) (some ['w'])
      (some (wordBytes reason)) (wordBytes reason).reverse :=
    .encoded (show 2#8 ≠ 0#8 by decide) rfl rfl (rdmFormatEncode_word reason)
  have hpacket : ∃ packet, rdmPacket (r.responseHeader h rdmResponseTypeNackReason 2#8)
      (some ['w']) (some (wordBytes reason)) = some packet ∧ packet.length ≤ dmxPacketSize := by
    rw [rdmPacket]
    split_ifs
    · exact ⟨_, rfl, by rw [length_discoveryResponse]; decide⟩
    · refine ⟨_, hpd.standardPacket_eq rfl, ?_⟩
      rw [length_wirePacket, List.length_reverse, length_wordBytes]
      decide
  obtain ⟨packet, hpacket, hlen⟩ := hpacket
  obtain ⟨data, hwrite, -⟩ := rdmWrite_of_rdmPacket r.data (by decide) hchecks hpacket hlen
  rw [rdmWriteNackReason, if_pos hrequest, Responder.write, hwrite]
  exact Option.some_ne_none _

/-- The bounds of a branch are found in any buffer. -/
theorem rdmReadPd_ne_none (data : Buffer Byte dmxPacketSize) :
    rdmReadPd data.bytes (some ['u', 'u', '$']) true 12 ≠ none := by
  have hvalid : rdmFormatIsValid (some ['u', 'u', '$']) = some true := by decide
  have hsrc : plainSize ['u', 'u'] ≤ (data.bytes.drop 24).length := by
    rw [List.length_drop, data.length_bytes]
    exact (by decide : 12 ≤ 489)
  rw [rdmReadPd, hvalid]
  simp only [Option.bind_eq_bind, Option.bind_some]
  split_ifs with hpdl
  · exact Option.some_ne_none _
  · have hne : BitVec.ofNat 32 (min (slot data.bytes 23).toNat 12) ≠ 0 := by
      intro hzero
      have htoNat := congrArg BitVec.toNat hzero
      rw [BitVec.toNat_ofNat, Nat.mod_eq_of_lt (by omega)] at htoNat
      simp at hpdl htoNat
      omega
    have hencode := rdmFormatEncode_plain_end (e := true) plain_uu hvalid hne hsrc
    rw [show ['u', 'u', '$'] = ['u', 'u'] ++ ['$'] from rfl, hencode]
    exact Option.some_ne_none _

/-- The discovery handler answers by `rdm_write_ack` only. -/
theorem responds_rdmRhdDiscovery : Responds rdmRhdDiscovery := by
  intro r h r' n hhandler
  have hsame : ∀ {x : Responder}, some (x, 0) = some (r', n) → x.uid = r.uid →
      r'.uid = r.uid ∧ n = 0 := by
    rintro x heq huid
    cases heq
    exact ⟨huid, rfl⟩
  have hack : ∀ {r₁ : Responder} {format : Option (List Char)} {src : Option (List Byte)}
      {pdl : Byte}, r₁.uid = r.uid → rdmWriteAck r₁ h format src pdl = some (r', n) →
      r'.uid = r.uid ∧ ∃ r₁ pid, r₁.uid = r.uid ∧ ∃ format src pdl,
        rdmWriteAck r₁ { h with pid := pid } format src pdl = some (r', n) := by
    intro r₁ format src pdl huid hwrite
    refine ⟨?_, r₁, h.pid, huid, format, src, pdl, hwrite⟩
    rw [rdmWriteAck] at hwrite
    split_ifs at hwrite
    obtain ⟨⟨data, m⟩, -, heq⟩ := Option.map_eq_some_iff.mp hwrite
    cases heq
    exact huid
  have hcases : r'.uid = r.uid ∧ (n = 0 ∨ ∃ r₁ pid, r₁.uid = r.uid ∧ ∃ format src pdl,
      rdmWriteAck r₁ { h with pid := pid } format src pdl = some (r', n)) := by
    rw [rdmRhdDiscovery] at hhandler
    split_ifs at hhandler
    · exact (hsame hhandler rfl).imp_right Or.inl
    · exact (hsame hhandler rfl).imp_right Or.inl
    · obtain ⟨⟨read, branch⟩, -, hhandler⟩ := Option.bind_eq_some_iff.mp hhandler
      simp only at hhandler
      split_ifs at hhandler
      · exact (hsame hhandler rfl).imp_right Or.inl
      · exact (hsame hhandler rfl).imp_right Or.inl
      · exact (hack rfl hhandler).imp_right Or.inr
    · dsimp only at hhandler
      refine (hack ?_ hhandler).imp_right Or.inr
      rfl
  refine hcases.imp_right (Or.imp_right ?_)
  rintro ⟨r₁, pid, huid, hwrite⟩
  exact ⟨r₁, pid, huid, Or.inl hwrite⟩

/-- The handlers of a device that has no other parameters. -/
theorem responds_discoveryParameters (pid : BitVec 16) (d : RdmDefinition)
    (hd : discoveryParameters pid = some d) : Responds d.getHandler ∧ Responds d.setHandler := by
  rw [discoveryParameters] at hd
  split_ifs at hd
  cases hd
  exact ⟨responds_rdmRhdDiscovery, fun _ _ _ _ h ↦ by cases h⟩

/-- **A device sends nothing but answers.**  It sends something only if there is a request in its
buffer that is meant for it, and not for others as well unless it is the search for devices; and
what the other end reads off the wire is an answer of this device to that request. -/
theorem answers_of_sends (definitions : BitVec 16 → Option RdmDefinition)
    (hdefs : ∀ pid d, definitions pid = some d → Responds d.getHandler ∧ Responds d.setHandler)
    (r r' : Responder) (inTime : Bool) (slots : List Byte)
    (hsend : rdmSendResponse definitions r inTime = some (r', some slots)) (rest : List Byte) :
    ∃ h h', rdmReadHeader? r.data.bytes = some h ∧ rdmCcIsRequest h.cc = true ∧
      rdmUidIsTarget r.uid h.destUid = true ∧
      (rdmUidIsBroadcast h.destUid = true → h.pid = rdmPidDiscUniqueBranch) ∧
      rdmReadHeader? (slots ++ rest) = some h' ∧ Answers r.uid h h' := by
  match hread : rdmReadHeader? r.data.bytes with
  | none =>
    rw [rdmSendResponse, hread] at hsend
    cases hsend
  | some h =>
    obtain ⟨hrequest, htarget, hbroadcast, h', hread', hanswers⟩ :=
      answers_of_read hdefs hread hsend rest
    exact ⟨h, h', rfl, hrequest, htarget, hbroadcast, hread', hanswers⟩

/-- A device that has received some slots. -/
def deviceReceiving (slots : List Byte) : Responder where
  uid := ⟨0x05e0, 7⟩
  data := ((Buffer.fill dmxPacketSize 0).write? 0 slots).getD (Buffer.fill dmxPacketSize 0)
  isMuted := false
  bootLoader := false
  queueSize := 0
  bindingUid := ⟨0, 0⟩
  controlPad := 0

/-- A mute request to that device. -/
def muteDevice : RdmHeader :=
  ⟨24, ⟨0x05e0, 7⟩, ⟨0x05e0, 1⟩, 0, 1, 0, rdmSubDeviceRoot, rdmCcDiscCommand, rdmPidDiscMute, 0⟩

/-- The header of its answer. -/
def muteAnswer : RdmHeader :=
  ⟨26, ⟨0x05e0, 1⟩, ⟨0x05e0, 7⟩, 0, rdmResponseTypeAck, 0, rdmSubDeviceRoot,
    rdmCcDiscCommandResponse, rdmPidDiscMute, 2⟩

theorem answers_of_sends_of_muteDevice :
    ∃ r', rdmSendResponse discoveryParameters (deviceReceiving (wirePacket muteDevice [])) true =
        some (r', some (wirePacket muteAnswer [0, 0])) ∧
      rdmReadHeader? (wirePacket muteAnswer [0, 0] ++ []) = some muteAnswer ∧
      Answers ⟨0x05e0, 7⟩ muteDevice muteAnswer := by
  have hsend : (rdmSendResponse discoveryParameters (deviceReceiving (wirePacket muteDevice []))
      true).map Prod.snd = some (some (wirePacket muteAnswer [0, 0])) := by decide +kernel
  have hheader : rdmReadHeader? (deviceReceiving (wirePacket muteDevice [])).data.bytes =
      some muteDevice := by decide +kernel
  have hanswer : rdmReadHeader? (wirePacket muteAnswer [0, 0] ++ []) = some muteAnswer := by
    decide +kernel
  obtain ⟨⟨r', slots⟩, hr', rfl⟩ := Option.map_eq_some_iff.mp hsend
  obtain ⟨h, h', hread, -, -, -, hread', hanswers⟩ :=
    answers_of_sends _ responds_discoveryParameters _ _ _ _ hr' []
  obtain rfl : muteDevice = h := Option.some_inj.mp (hheader.symm.trans hread)
  obtain rfl : muteAnswer = h' := Option.some_inj.mp (hanswer.symm.trans hread')
  exact ⟨r', hr', hanswer, hanswers⟩

/-- A header that a device takes for a discovery command or for the response to one. -/
def ForDiscovery (definitions : BitVec 16 → Option RdmDefinition) (h : RdmHeader) : Prop :=
  h.subDevice = rdmSubDeviceRoot ∧ definitions h.pid = some discoveryDefinition ∧ h.pdl < 232#8

/-- The discovery handler never fails. -/
theorem rdmRhdDiscovery_ne_none (hsub : h.subDevice = rdmSubDeviceRoot)
    (hcc : h.cc = rdmCcDiscCommand) : rdmRhdDiscovery r h ≠ none := by
  by_cases hbranch : h.pid = rdmPidDiscUniqueBranch
  · rw [rdmRhdDiscovery, if_neg (not_not.mpr hsub), if_pos hbranch]
    obtain ⟨⟨read, branch⟩, hread⟩ := Option.ne_none_iff_exists'.mp (rdmReadPd_ne_none r.data)
    have hpacket : rdmPacket (r.responseHeader h rdmResponseTypeAck 0) none none =
        some (discoveryResponse r.uid) := by
      refine if_pos ⟨?_, hbranch⟩
      show h.cc ||| 0x1#8 = _
      rw [hcc]
      rfl
    obtain ⟨data, rest, hack, -⟩ := rdmWriteAck_of_rdmPacket hsub hcc rfl
      (Or.inl ⟨rfl, rfl, rfl⟩) (by decide) hpacket (by rw [length_discoveryResponse]; decide)
    rw [hread]
    simp only [Option.bind_eq_bind, Option.bind_some]
    split_ifs
    · exact Option.some_ne_none _
    · exact Option.some_ne_none _
    · exact Option.some_ne_none _
    · exact fun hnone ↦ Option.some_ne_none _ (hack.symm.trans hnone)
  · obtain ⟨data, rest, hhandler, -⟩ := rdmRhdDiscovery_mute (r := r) ⟨hsub, hcc, rfl⟩ hbranch
    rw [hhandler]
    exact Option.some_ne_none _

theorem rdmWriteNackReason_eq_none_iff (hvalid : rdmCcIsValid h.cc = true)
    (hsub : h.subDevice < rdmSubDeviceMax) (reason : BitVec 16) :
    rdmWriteNackReason r h reason = none ↔ rdmCcIsRequest h.cc = false := by
  refine ⟨fun hnone ↦ ?_, fun hresponse ↦ ?_⟩
  · by_contra hrequest
    exact rdmWriteNackReason_ne_none hvalid (Bool.not_eq_false _ ▸ hrequest) hsub reason hnone
  · rw [rdmWriteNackReason, if_neg (by rw [hresponse]; decide)]

theorem rdmHandleRequest_eq_none_iff
    (hdef : definitions h.pid = none ∨ definitions h.pid = some discoveryDefinition)
    (hvalid : rdmCcIsValid h.cc = true) : rdmHandleRequest definitions r h = none ↔
      ¬ h.subDevice < rdmSubDeviceMax ∨ h.pid = 0#16 ∨
        (rdmCcIsRequest h.cc = false ∧ ¬ ForDiscovery definitions h) := by
  by_cases hget : h.subDevice < rdmSubDeviceMax ∧ h.pid ≠ 0#16
  · obtain ⟨hsub, hpid⟩ := hget
    have hnack := fun r reason ↦ rdmWriteNackReason_eq_none_iff (r := r) hvalid hsub reason
    rw [rdmHandleRequest, rdmDefinitionGet, if_pos ⟨hsub, hpid⟩,
      or_iff_right (not_not.mpr hsub), or_iff_right hpid]
    by_cases hdisc : h.subDevice = rdmSubDeviceRoot ∧ definitions h.pid = some discoveryDefinition
    · rw [if_pos hdisc.1, hdisc.2]
      by_cases hpdl : h.pdl < 232#8
      · have hfor : ForDiscovery definitions h := ⟨hdisc.1, hdisc.2, hpdl⟩
        have hpdl' : ¬ h.pdl ≥ 232#8 := BitVec.not_le.mpr hpdl
        simp only [if_neg hpdl', hfor, not_true_eq_false, and_false, iff_false]
        by_cases hcc : h.cc = rdmCcDiscCommand
        · have hrequest : rdmCcIsRequest h.cc = true := by rw [hcc]; decide
          have hhandler : discoveryDefinition.handler h.cc = rdmRhdDiscovery := by rw [hcc]; rfl
          obtain ⟨⟨r', n⟩, hhandled⟩ :=
            Option.ne_none_iff_exists'.mp (rdmRhdDiscovery_ne_none (r := r) hdisc.1 hcc)
          rw [if_neg (fun h' ↦ h'.2 hcc), if_neg (by simp [discoveryDefinition]), hhandler,
            hhandled]
          show validateResponse h r' n ≠ none
          rw [validateResponse]
          split_ifs
          · exact Option.some_ne_none _
          · rw [Ne, Option.map_eq_none_iff, hnack, hrequest]
            decide
          · exact Option.some_ne_none _
        · rw [if_pos ⟨rfl, hcc⟩]
          exact Option.some_ne_none _
      · simp only [if_pos (BitVec.not_lt.mp hpdl), hnack]
        exact (and_iff_left fun hfor : ForDiscovery definitions h ↦ hpdl hfor.2.2).symm
    · have hnone : (if h.subDevice = rdmSubDeviceRoot then definitions h.pid else none) = none := by
        split_ifs with hroot
        · exact hdef.resolve_right fun hsome ↦ hdisc ⟨hroot, hsome⟩
        · rfl
      rw [hnone]
      exact (hnack r rdmNrUnknownPid).trans
        (and_iff_left fun hfor : ForDiscovery definitions h ↦ hdisc ⟨hfor.1, hfor.2.1⟩).symm
  · have hfail : ¬ h.subDevice < rdmSubDeviceMax ∨ h.pid = 0#16 := by
      rwa [not_and_or, not_ne_iff] at hget
    rw [rdmHandleRequest, rdmDefinitionGet, if_neg hget]
    exact iff_of_true rfl (hfail.imp_right Or.inl)

/-- **Which packets make a device fail.**  When the parameter of a packet is one of discovery or
none of the device's, then the device fails an assertion if and only if the packet is meant for it,
alone or with others, and is for a sub-device from 513 on, which all sub-devices together count as,
or has parameter 0, or is a response that the discovery handler does not take (`ForDiscovery`).  It
looks at the parameter of a response and not at the command class. -/
theorem rdmSendResponse_eq_none_iff (definitions : BitVec 16 → Option RdmDefinition) (r : Responder)
    (inTime : Bool) (h : RdmHeader) (hread : rdmReadHeader? r.data.bytes = some h)
    (hdef : definitions h.pid = none ∨ definitions h.pid = some discoveryDefinition) :
    rdmSendResponse definitions r inTime = none ↔
      rdmCcIsValid h.cc = true ∧ rdmUidIsTarget r.uid h.destUid = true ∧
        (¬ h.subDevice < rdmSubDeviceMax ∨ h.pid = 0#16 ∨
          (rdmCcIsRequest h.cc = false ∧ ¬ ForDiscovery definitions h)) := by
  rw [rdmSendResponse, hread]
  by_cases hmeant : rdmCcIsValid h.cc = true ∧ rdmUidIsTarget r.uid h.destUid = true
  · obtain ⟨hvalid, htarget⟩ := hmeant
    have hnot : ¬ (rdmCcIsValid h.cc = false ∨ rdmUidIsTarget r.uid h.destUid = false) := by
      simp [hvalid, htarget]
    dsimp only
    rw [if_neg hnot, Option.map_eq_none_iff, rdmHandleRequest_eq_none_iff hdef hvalid,
      and_iff_right hvalid, and_iff_right htarget]
  · have hother : rdmCcIsValid h.cc = false ∨ rdmUidIsTarget r.uid h.destUid = false := by
      rwa [not_and_or, Bool.not_eq_true, Bool.not_eq_true] at hmeant
    dsimp only
    rw [if_pos hother]
    exact iff_of_false (Option.some_ne_none _) fun h' ↦ hmeant ⟨h'.1, h'.2.1⟩

/-- A mute request to the whole of a manufacturer's devices, and to all of their sub-devices. -/
def muteSubDevices : RdmHeader :=
  ⟨24, ⟨0x05e0, 0xffffffff⟩, ⟨0x05e0, 1⟩, 0, 1, 0, rdmSubDeviceAll, rdmCcDiscCommand,
    rdmPidDiscMute, 0⟩

theorem rdmSendResponse_eq_none_iff_of_muteSubDevices :
    rdmSendResponse discoveryParameters (deviceReceiving (wirePacket muteSubDevices [])) true =
      none := by
  refine (rdmSendResponse_eq_none_iff discoveryParameters _ true muteSubDevices ?_ ?_).mpr ?_
  · decide +kernel
  · exact Or.inr (discoverable_discoveryParameters _ (by decide))
  · exact ⟨by decide, by decide, Or.inl (by decide)⟩

end BedroomLights
