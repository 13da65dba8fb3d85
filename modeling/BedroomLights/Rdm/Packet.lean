import BedroomLights.Firmware.Rdm.Packet
import BedroomLights.Rdm.Format
import Mathlib.Data.List.GetD

/-!
# What is written is read back

`wirePacket h pd` is the packet of a header and its parameter data, with the sizes and the checksum
that belong to it.  `rdm_write` makes nothing else, but for discovery responses
(`exists_writesPd`), and `rdm_read_header` finds the header in any buffer that starts with it,
whatever comes after (`rdmReadHeader?_wirePacket`).  A discovery response says less, and what it
says is found again as well (`rdmReadHeader?_discoveryResponse`).

`rdmWrite_read` puts this together for every call of `rdm_write` that writes anything.
-/

set_option autoImplicit false

namespace BedroomLights

variable {h : RdmHeader} {pd rest : List Byte}

/-! ## Bytes -/

@[simp] theorem length_wordBytes (x : BitVec 16) : (wordBytes x).length = 2 := rfl

@[simp] theorem RdmUid.length_bytes (uid : RdmUid) : uid.bytes.length = 6 := rfl

/-- `bswap16` of what lies in memory. -/
theorem bigEndian16_extractLsb' (x : BitVec 16) :
    bigEndian16 (x.extractLsb' 8 8) (x.extractLsb' 0 8) = x := by
  rw [bigEndian16, BitVec.extractLsb'_append_extractLsb'_eq_extractLsb' (show 8 = 0 + 8 from rfl)]
  exact BitVec.extractLsb'_eq_self

/-- `bswap32` of what lies in memory. -/
theorem bigEndian32_extractLsb' (x : BitVec 32) :
    bigEndian32 (x.extractLsb' 24 8) (x.extractLsb' 16 8) (x.extractLsb' 8 8) (x.extractLsb' 0 8) =
      x := by
  rw [bigEndian32,
    BitVec.extractLsb'_append_extractLsb'_eq_extractLsb' (show 24 = 16 + 8 from rfl),
    BitVec.extractLsb'_append_extractLsb'_eq_extractLsb' (show 16 = 8 + 8 from rfl),
    BitVec.extractLsb'_append_extractLsb'_eq_extractLsb' (show 8 = 0 + 8 from rfl)]
  exact BitVec.extractLsb'_eq_self

/-- A UID on the wire. -/
theorem swapUid_bytes (uid : RdmUid) : swapUid uid.bytes =
    [uid.manId.extractLsb' 8 8, uid.manId.extractLsb' 0 8, uid.devId.extractLsb' 24 8,
      uid.devId.extractLsb' 16 8, uid.devId.extractLsb' 8 8, uid.devId.extractLsb' 0 8] := rfl

theorem uidAt_swapUid_bytes (uid : RdmUid) (rest : List Byte) :
    uidAt (swapUid uid.bytes ++ rest) 0 = uid := by
  simp only [swapUid_bytes, uidAt, slot, List.cons_append, List.getD_cons_succ,
    List.getD_cons_zero, bigEndian16_extractLsb', bigEndian32_extractLsb']

theorem slot_append_add (l rest : List Byte) (i : ℕ) :
    slot (l ++ rest) (l.length + i) = slot rest i := by
  rw [slot, slot, List.getD_append_right _ _ _ _ (Nat.le_add_right _ _), Nat.add_sub_cancel_left]

/-! ## Standard packets -/

/-- The header on the wire. -/
def RdmHeader.slots (h : RdmHeader) : List Byte :=
  [rdmSc, rdmSubSc, h.messageLen] ++ swapUid h.destUid.bytes ++ swapUid h.srcUid.bytes ++
    [h.tn, h.portId, h.messageCount] ++ (wordBytes h.subDevice).reverse ++ [h.cc] ++
    (wordBytes h.pid).reverse ++ [h.pdl]

/-- The header with the sizes that belong to parameter data. -/
def RdmHeader.withPd (h : RdmHeader) (pd : List Byte) : RdmHeader :=
  { h with messageLen := BitVec.ofNat 8 (24 + pd.length), pdl := BitVec.ofNat 8 pd.length }

/-- The part of a packet that the checksum is of. -/
def wireMessage (h : RdmHeader) (pd : List Byte) : List Byte := (h.withPd pd).slots ++ pd

/-- The packet of a header and its parameter data. -/
def wirePacket (h : RdmHeader) (pd : List Byte) : List Byte :=
  wireMessage h pd ++ (wordBytes (rdmChecksum (wireMessage h pd))).reverse

theorem slots_eq (h : RdmHeader) : h.slots =
    [rdmSc, rdmSubSc, h.messageLen,
      h.destUid.manId.extractLsb' 8 8, h.destUid.manId.extractLsb' 0 8,
      h.destUid.devId.extractLsb' 24 8, h.destUid.devId.extractLsb' 16 8,
      h.destUid.devId.extractLsb' 8 8, h.destUid.devId.extractLsb' 0 8,
      h.srcUid.manId.extractLsb' 8 8, h.srcUid.manId.extractLsb' 0 8,
      h.srcUid.devId.extractLsb' 24 8, h.srcUid.devId.extractLsb' 16 8,
      h.srcUid.devId.extractLsb' 8 8, h.srcUid.devId.extractLsb' 0 8,
      h.tn, h.portId, h.messageCount, h.subDevice.extractLsb' 8 8, h.subDevice.extractLsb' 0 8,
      h.cc, h.pid.extractLsb' 8 8, h.pid.extractLsb' 0 8, h.pdl] := rfl

@[simp] theorem RdmHeader.length_slots (h : RdmHeader) : h.slots.length = 24 := rfl

@[simp] theorem length_wireMessage : (wireMessage h pd).length = 24 + pd.length := by
  rw [wireMessage, List.length_append, RdmHeader.length_slots]

@[simp] theorem length_wirePacket : (wirePacket h pd).length = 26 + pd.length := by
  rw [wirePacket, List.length_append, length_wireMessage, List.length_reverse, length_wordBytes]
  omega

theorem plain_headerRest : Plain ['b', 'u', 'u', 'b', 'b', 'b', 'w', 'b', 'w', 'b'] :=
  .copied rfl <| .copied rfl <| .copied rfl <| .copied rfl <| .copied rfl <| .copied rfl <|
    .copied rfl <| .copied rfl <| .copied rfl <| .copied rfl .nil

/-- `header_format` makes the start codes and swaps the rest. -/
theorem rdmFormatEncode_headerFormat (h : RdmHeader) :
    rdmFormatEncode headerFormat h.bytes (BitVec.ofNat 32 sizeofRdmHeader) false =
      some h.slots := by
  have hpass : rdmFormatPass false headerFormat [] h.bytes 24#32 = some (.next h.slots [] 0) := by
    have hlen : plainSize ['b', 'u', 'u', 'b', 'b', 'b', 'w', 'b', 'w', 'b'] ≤
        (h.bytes.drop 2).length := le_refl 22
    have hrest := rdmFormatPass_plain (e := false) plain_headerRest []
      [hexLiteral 'C' 'C', hexLiteral '0' '1'] (h.bytes.drop 2) (24#32 - 1 - 1)
    rw [List.append_nil, rdmFormatPass_nil, if_pos hlen] at hrest
    rw [headerFormat, rdmFormatPass_literal, rdmFormatPass_literal, List.drop_drop]
    refine hrest.trans ?_
    rfl
  rw [rdmFormatEncode_of_valid (by decide)]
  show rdmFormatLoop headerFormat false (23 + 1) [] h.bytes 24#32 = _
  rw [rdmFormatLoop, if_neg (by decide), hpass]
  exact if_pos rfl

/-- The header is found in any buffer that starts with it. -/
theorem standardHeader_slots (h : RdmHeader) (rest : List Byte) :
    standardHeader (h.slots ++ rest) = h := by
  simp only [standardHeader, uidAt, slot, slots_eq, List.cons_append, List.getD_cons_succ,
    List.getD_cons_zero, bigEndian16_extractLsb', bigEndian32_extractLsb']

/-- **A packet is read back**, whatever comes after it. -/
theorem rdmReadHeader?_wirePacket (hpd : pd.length ≤ 231) (rest : List Byte) :
    rdmReadHeader? (wirePacket h pd ++ rest) = some (h.withPd pd) := by
  have hsplit : wirePacket h pd ++ rest = (h.withPd pd).slots ++
      (pd ++ ((wordBytes (rdmChecksum (wireMessage h pd))).reverse ++ rest)) := by
    rw [wirePacket, wireMessage]
    simp only [List.append_assoc]
  have hlen : (slot (wirePacket h pd ++ rest) 2).toNat = 24 + pd.length := by
    rw [hsplit]
    show (BitVec.ofNat 8 (24 + pd.length)).toNat = _
    rw [BitVec.toNat_ofNat, Nat.mod_eq_of_lt (by omega)]
  have hmessage : (wirePacket h pd ++ rest).take (24 + pd.length) = wireMessage h pd := by
    rw [wirePacket, List.append_assoc, List.take_left' length_wireMessage]
  have hcheck : bigEndian16 (slot (wirePacket h pd ++ rest) (24 + pd.length))
      (slot (wirePacket h pd ++ rest) (24 + pd.length + 1)) = rdmChecksum (wireMessage h pd) := by
    rw [wirePacket, List.append_assoc, ← length_wireMessage (h := h), ← Nat.add_zero
      (wireMessage h pd).length, Nat.add_assoc, slot_append_add, slot_append_add]
    generalize rdmChecksum (wireMessage h pd) = checksum
    exact bigEndian16_extractLsb' checksum
  have hstart : slot (wirePacket h pd ++ rest) 0 = rdmSc ∧
      slot (wirePacket h pd ++ rest) 1 = rdmSubSc := by
    rw [hsplit]
    exact ⟨rfl, rfl⟩
  rw [rdmReadHeader?, if_pos hstart]
  simp only [hlen, hmessage, hcheck, if_true]
  rw [hsplit, standardHeader_slots]

/-- Where the parameter data of a packet are, and how many there are. -/
theorem wirePacket_pd (h : RdmHeader) (pd rest : List Byte) :
    slot (wirePacket h pd ++ rest) 23 = BitVec.ofNat 8 pd.length ∧
      ∃ rest', (wirePacket h pd ++ rest).drop 24 = pd ++ rest' := by
  rw [wirePacket, wireMessage, List.append_assoc, List.append_assoc]
  refine ⟨rfl, _, List.drop_left' (RdmHeader.length_slots _)⟩

/-! ## Discovery responses -/

theorem encodeTwice_decode (b : Byte) : (b ||| 0xaa#8) &&& (b ||| 0x55#8) = b := by
  revert b
  decide

theorem encodeTwice_sum (b : Byte) : (b ||| 0xaa#8).setWidth 16 + (b ||| 0x55#8).setWidth 16 =
    b.setWidth 16 + (0xaa#16 ||| 0x55#16) := by
  revert b
  decide

/-- The two ways of summing up a discovery response agree. -/
theorem rdmChecksum_flatMap_encodeTwice (l : List Byte) :
    rdmChecksum (l.flatMap encodeTwice) = discoveryChecksum l := by
  have hstart : ∀ c : BitVec 16, (l.flatMap encodeTwice).foldl
      (fun checksum b ↦ checksum + b.setWidth 16) c =
        l.foldl (fun checksum b ↦ checksum + (b.setWidth 16 + (0xaa#16 ||| 0x55#16))) c := by
    induction l with
    | nil => exact fun _ ↦ rfl
    | cons b l ih =>
      intro c
      rw [List.flatMap_cons, List.foldl_append, List.foldl_cons, encodeTwice, List.foldl_cons,
        List.foldl_cons, List.foldl_nil, ih, add_assoc, encodeTwice_sum]
  exact hstart 0

/-- The header that a discovery response stands for. -/
def discoveryAck (uid : RdmUid) : RdmHeader :=
  ⟨24, rdmUidBroadcastAll, uid, 0, rdmResponseTypeAck, 0, rdmSubDeviceRoot,
    rdmCcDiscCommandResponse, rdmPidDiscUniqueBranch, 0⟩

@[simp] theorem length_discoveryResponse (uid : RdmUid) : (discoveryResponse uid).length = 24 := rfl

/-- The part of a discovery response that the checksum is of. -/
def euidBytes (uid : RdmUid) : List Byte := (swapUid uid.bytes).flatMap encodeTwice

@[simp] theorem length_euidBytes (uid : RdmUid) : (euidBytes uid).length = 12 := rfl

/-- Each byte of the UID is found again in the two that were sent for it. -/
theorem euidBytes_decode (uid : RdmUid) (rest : List Byte) :
    (List.range 6).map (fun i ↦ slot (euidBytes uid ++ rest) (2 * i) &&&
      slot (euidBytes uid ++ rest) (2 * i + 1)) = swapUid uid.bytes := by
  rw [swapUid_bytes]
  simp [List.range_succ, euidBytes, swapUid_bytes, encodeTwice, slot, encodeTwice_decode]

/-- **A discovery response is read back**, whatever comes after it. -/
theorem rdmReadHeader?_discoveryResponse (uid : RdmUid) (rest : List Byte) :
    rdmReadHeader? (discoveryResponse uid ++ rest) = some (discoveryAck uid) := by
  have hdelimiter : ((List.range 8).find? fun i ↦
      decide (slot (discoveryResponse uid ++ rest) i = rdmDelimiter)) = some 7 := rfl
  obtain ⟨checksum, hchecksum⟩ : ∃ checksum,
      checksum = discoveryChecksum (swapUid uid.bytes) := ⟨_, rfl⟩
  have heuid : (discoveryResponse uid ++ rest).drop 8 = euidBytes uid ++
      (encodeTwice (checksum.extractLsb' 8 8) ++
        (encodeTwice (checksum.extractLsb' 0 8) ++ rest)) := by
    rw [hchecksum, discoveryResponse, List.append_assoc, List.append_assoc, List.append_assoc]
    exact List.drop_left' rfl
  have htake : ((discoveryResponse uid ++ rest).drop 8).take 12 = euidBytes uid := by
    rw [heuid, List.take_left' (length_euidBytes uid)]
  have hsum : rdmChecksum (euidBytes uid) = checksum := by
    rw [euidBytes, rdmChecksum_flatMap_encodeTwice, hchecksum]
  have hcheck : bigEndian16
      (slot ((discoveryResponse uid ++ rest).drop 8) 12 &&&
        slot ((discoveryResponse uid ++ rest).drop 8) 13)
      (slot ((discoveryResponse uid ++ rest).drop 8) 14 &&&
        slot ((discoveryResponse uid ++ rest).drop 8) 15) = checksum := by
    rw [heuid]
    show bigEndian16
      ((checksum.extractLsb' 8 8 ||| 0xaa#8) &&& (checksum.extractLsb' 8 8 ||| 0x55#8))
      ((checksum.extractLsb' 0 8 ||| 0xaa#8) &&& (checksum.extractLsb' 0 8 ||| 0x55#8)) = checksum
    rw [encodeTwice_decode, encodeTwice_decode, bigEndian16_extractLsb']
  have hstart : slot (discoveryResponse uid ++ rest) 0 = rdmPreamble := rfl
  rw [rdmReadHeader?, if_neg (by rw [hstart]; exact fun h ↦ absurd h.1 (by decide)),
    if_pos (Or.inl hstart), hdelimiter]
  simp only [htake, hsum, hcheck, if_true]
  rw [heuid, discoveryHeader, euidBytes_decode]
  have huid := uidAt_swapUid_bytes uid []
  rw [List.append_nil] at huid
  rw [huid]
  rfl

/-! ## `rdm_write` -/

variable {format : Option (List Char)} {src : Option (List Byte)}

/-- The parameter data that `rdm_write` puts on the wire. -/
inductive WritesPd (h : RdmHeader) (format : Option (List Char)) (src : Option (List Byte)) :
    List Byte → Prop where
  | empty (hpdl : h.pdl = 0#8) : WritesPd h format src []
  | encoded {f : List Char} {p pd : List Byte} (hpdl : h.pdl ≠ 0#8) (hformat : format = some f)
    (hsrc : src = some p)
    (hencode : rdmFormatEncode f p (h.pdl.setWidth 32) false = some pd) : WritesPd h format src pd

theorem WritesPd.length_le (hvalid : rdmFormatIsValid format = some true) (hpdl : h.pdl < 231#8)
    (hpd : WritesPd h format src pd) : pd.length ≤ 231 := by
  cases hpd with
  | empty => exact Nat.zero_le 231
  | encoded _ hformat _ hencode =>
    subst hformat
    refine length_rdmFormatEncode_le hvalid ?_ hencode
    rw [BitVec.toNat_setWidth]
    rw [BitVec.lt_def] at hpdl
    exact (Nat.mod_le _ _).trans hpdl.le

/-- The sizes of a header are those of the parameter data it announces. -/
theorem withPd_eq_self (hlen : h.messageLen.toNat = 24 + h.pdl.toNat)
    (hpd : h.pdl.toNat = pd.length) : h.withPd pd = h := by
  have hmessage : BitVec.ofNat 8 (24 + pd.length) = h.messageLen := by
    rw [← hpd, ← hlen, BitVec.ofNat_toNat, BitVec.setWidth_eq]
  have hpdl : BitVec.ofNat 8 pd.length = h.pdl := by
    rw [← hpd, BitVec.ofNat_toNat, BitVec.setWidth_eq]
  rw [RdmHeader.withPd, hmessage, hpdl]

/-- The packet that `rdm_write` makes of parameter data. -/
theorem WritesPd.standardPacket_eq (hpd : WritesPd h format src pd)
    (hlen : h.messageLen.toNat = 24 + h.pdl.toNat) :
    standardPacket h format src = some (wirePacket h pd) := by
  rw [standardPacket, rdmFormatEncode_headerFormat]
  cases hpd with
  | empty hpdl =>
    have hself : h.withPd [] = h := withPd_eq_self hlen (by rw [hpdl]; rfl)
    have hnot : ¬ h.pdl > 0#8 := by rw [hpdl]; decide
    rw [wirePacket, wireMessage, hself, List.append_nil]
    cases src <;> simp [hnot]
  | @encoded f p _ hpdl hformat hsrc hencode =>
    subst hformat hsrc
    have hpos : h.pdl > 0#8 := by
      rw [gt_iff_lt, BitVec.lt_def]
      exact Nat.pos_of_ne_zero fun hz ↦ hpdl (BitVec.eq_of_toNat_eq hz)
    have hslots : (if h.pdl.toNat ≠ pd.length then
        (h.slots.set 2 (BitVec.ofNat 8 (24 + pd.length))).set 23 (BitVec.ofNat 8 pd.length)
        else h.slots) = (h.withPd pd).slots := by
      split_ifs with hne
      · rfl
      · rw [withPd_eq_self hlen (not_ne_iff.mp hne)]
    simp only [hpos, hencode, if_true, Option.bind_eq_bind, Option.bind_some, hslots]
    rfl

/-- **A standard packet is the packet of its header and its parameter data.** -/
theorem exists_writesPd (hchecks : rdmWriteChecks h format src) {packet : List Byte}
    (hpacket : standardPacket h format src = some packet) :
    ∃ pd, WritesPd h format src pd ∧ packet = wirePacket h pd := by
  obtain ⟨⟨-, hlen⟩, -, -, -, -, hgiven⟩ := hchecks
  have hexists : ∃ pd, WritesPd h format src pd := by
    by_cases hpdl : h.pdl = 0#8
    · exact ⟨[], .empty hpdl⟩
    · obtain ⟨hformat, hsrc⟩ := hgiven.resolve_left hpdl
      obtain ⟨f, rfl⟩ := Option.ne_none_iff_exists'.mp hformat
      obtain ⟨p, rfl⟩ := Option.ne_none_iff_exists'.mp hsrc
      have hpos : h.pdl > 0#8 := by
        rw [gt_iff_lt, BitVec.lt_def]
        exact Nat.pos_of_ne_zero fun hz ↦ hpdl (BitVec.eq_of_toNat_eq hz)
      cases hencode : rdmFormatEncode f p (h.pdl.setWidth 32) false with
      | none => simp [standardPacket, rdmFormatEncode_headerFormat, hpos, hencode] at hpacket
      | some pd => exact ⟨pd, .encoded hpdl rfl rfl hencode⟩
  obtain ⟨pd, hpd⟩ := hexists
  rw [hpd.standardPacket_eq hlen, Option.some_inj] at hpacket
  exact ⟨pd, hpd, hpacket.symm⟩

variable {data data' : Buffer Byte dmxPacketSize} {n : ℕ}

/-- **What `rdm_write` does**, when it writes anything: the buffer starts with the packet, and is
what it was from there on. -/
theorem rdmWrite_eq (hwrite : rdmWrite data h format src = some (data', n)) (hn : n ≠ 0) :
    ∃ packet, data'.bytes = packet ++ data.bytes.drop n ∧ packet.length = n ∧ n ≤ 257 ∧
      if h.IsDiscoveryResponse then packet = discoveryResponse h.srcUid
      else ∃ pd, WritesPd h format src pd ∧ pd.length ≤ 231 ∧ packet = wirePacket h pd := by
  rw [rdmWrite] at hwrite
  obtain ⟨isValid, hvalid, hwrite⟩ := Option.bind_eq_some_iff.mp hwrite
  split_ifs at hwrite with hskip
  · cases hwrite
    exact absurd rfl hn
  · rw [not_or, not_not, not_not] at hskip
    obtain ⟨hchecks, rfl⟩ := hskip
    obtain ⟨packet, hpacket, hwrite⟩ := Option.bind_eq_some_iff.mp hwrite
    obtain ⟨written, hdata, hwrite⟩ := Option.bind_eq_some_iff.mp hwrite
    obtain ⟨hlen, rfl⟩ := Buffer.write?_eq_some_iff.mp hdata
    cases hwrite
    refine ⟨packet, by rw [Buffer.bytes_write_zero], rfl, ?_⟩
    rw [rdmPacket] at hpacket
    split_ifs at hpacket with hdisc
    · rw [Option.some_inj] at hpacket
      exact ⟨by rw [← hpacket, length_discoveryResponse]; decide, by rw [if_pos hdisc, hpacket]⟩
    · obtain ⟨pd, hpd, rfl⟩ := exists_writesPd hchecks hpacket
      have hle := hpd.length_le hvalid hchecks.2.2.2.1
      refine ⟨by rw [length_wirePacket]; omega, ?_⟩
      rw [if_neg hdisc]
      exact ⟨pd, hpd, hle, rfl⟩

/-- What is written has passed the checks. -/
theorem rdmWriteChecks_of_rdmWrite (hwrite : rdmWrite data h format src = some (data', n))
    (hn : n ≠ 0) : rdmWriteChecks h format src := by
  rw [rdmWrite] at hwrite
  obtain ⟨isValid, -, hwrite⟩ := Option.bind_eq_some_iff.mp hwrite
  split_ifs at hwrite with hskip
  · cases hwrite
    exact absurd rfl hn
  · exact not_not.mp (not_or.mp hskip).1

/-- What passes the checks is written. -/
theorem rdmWrite_of_rdmPacket (data : Buffer Byte dmxPacketSize)
    (hvalid : rdmFormatIsValid format = some true) (hchecks : rdmWriteChecks h format src)
    {packet : List Byte} (hpacket : rdmPacket h format src = some packet)
    (hlen : packet.length ≤ dmxPacketSize) :
    ∃ data', rdmWrite data h format src = some (data', packet.length) ∧
      data'.bytes = packet ++ data.bytes.drop packet.length := by
  have hle : 0 + packet.length ≤ dmxPacketSize := by rwa [Nat.zero_add]
  refine ⟨data.write 0 packet hle, ?_, Buffer.bytes_write_zero data packet hle⟩
  have hwrite : data.write? 0 packet = some (data.write 0 packet hle) :=
    Buffer.write?_eq_some_iff.mpr ⟨hle, rfl⟩
  rw [rdmWrite, hvalid]
  simp [hchecks, hpacket, hwrite]

/-- **What is written is read back.**  After a call of `rdm_write` that has written `n` slots, the
buffer is what it was from slot `n` on, and `rdm_read_header` finds the header that was written:
with the sizes of the parameter data that has been put on the wire, which is found in the slots
behind the header; or, where it is a discovery response, with the UID it was sent from. -/
theorem rdmWrite_read (data data' : Buffer Byte dmxPacketSize) (h : RdmHeader)
    (format : Option (List Char)) (src : Option (List Byte)) (n : ℕ)
    (hwrite : rdmWrite data h format src = some (data', n)) (hn : n ≠ 0) :
    n ≤ 257 ∧ data'.bytes.drop n = data.bytes.drop n ∧
      if h.IsDiscoveryResponse then
        rdmReadHeader? data'.bytes = some (discoveryAck h.srcUid) ∧ n = 24
      else ∃ pd, WritesPd h format src pd ∧
        rdmReadHeader? data'.bytes = some (h.withPd pd) ∧ n = (h.withPd pd).messageLen.toNat + 2 ∧
        (data'.bytes.drop 24).take (h.withPd pd).pdl.toNat = pd := by
  obtain ⟨packet, hbytes, hlen, hle, hpacket⟩ := rdmWrite_eq hwrite hn
  refine ⟨hle, by rw [hbytes, List.drop_left' hlen], ?_⟩
  split_ifs at hpacket ⊢
  · subst hpacket
    exact ⟨by rw [hbytes, rdmReadHeader?_discoveryResponse], hlen.symm⟩
  · obtain ⟨pd, hpd, hpdle, rfl⟩ := hpacket
    refine ⟨pd, hpd, by rw [hbytes, rdmReadHeader?_wirePacket hpdle], ?_, ?_⟩
    · show n = (BitVec.ofNat 8 (24 + pd.length)).toNat + 2
      rw [length_wirePacket] at hlen
      rw [BitVec.toNat_ofNat, Nat.mod_eq_of_lt (by omega)]
      omega
    · show (data'.bytes.drop 24).take (BitVec.ofNat 8 pd.length).toNat = pd
      rw [BitVec.toNat_ofNat, Nat.mod_eq_of_lt (by omega), hbytes, wirePacket, wireMessage,
        List.append_assoc, List.append_assoc, List.drop_left' (RdmHeader.length_slots _),
        List.take_left]

/-- The search for devices in the whole range of UIDs, from port 0. -/
def searchAll : RdmHeader :=
  ⟨36, rdmUidBroadcastAll, ⟨0x05e0, 1⟩, 0, 1, 0, rdmSubDeviceRoot, rdmCcDiscCommand,
    rdmPidDiscUniqueBranch, 12⟩

/-- The two bounds of that range, as they lie in memory. -/
def searchAllPd : List Byte := (RdmUid.mk 0 0).bytes ++ rdmUidMax.bytes

theorem rdmWrite_read_of_searchAll :
    ∃ data' pd, rdmWrite (Buffer.fill dmxPacketSize 0) searchAll (some ['u', 'u', '$'])
        (some searchAllPd) = some (data', 38) ∧
      rdmReadHeader? data'.bytes = some (searchAll.withPd pd) := by
  have hwrite : (rdmWrite (Buffer.fill dmxPacketSize 0) searchAll (some ['u', 'u', '$'])
      (some searchAllPd)).map Prod.snd = some 38 := by decide +kernel
  obtain ⟨⟨data', n⟩, hdata, rfl⟩ := Option.map_eq_some_iff.mp hwrite
  obtain ⟨-, -, hread⟩ := rdmWrite_read _ _ _ _ _ _ hdata (by decide)
  rw [if_neg (by decide)] at hread
  obtain ⟨pd, -, hheader, -⟩ := hread
  exact ⟨data', pd, hdata, hheader⟩

end BedroomLights
