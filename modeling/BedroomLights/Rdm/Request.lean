import BedroomLights.Firmware.Rdm.Request
import BedroomLights.Rdm.Responder

/-!
# What a request comes to

`rdmSendRequest_eq` says what is on the wire when a request is sent, and what is left to do then.

* `rdmSendRequest_data` is about the buffer.  What the program had in it is put back, but only as
  many slots of it as the request had: of a longer response the rest stays (`slotsReceived`).
-/

set_option autoImplicit false

namespace BedroomLights

/-! ## The buffer -/

theorem bytes_overwrite {data : Buffer Byte dmxPacketSize} {slots : List Byte}
    (h : slots.length ≤ dmxPacketSize) :
    (overwrite data slots).bytes = slots ++ data.bytes.drop slots.length := by
  rw [overwrite, Buffer.bytes_write_zero, List.take_of_length_le h]

variable {σ : Type*} {cfg : SdkConfig} {L : Line σ} {c : Controller} {s s' : σ} {q : RdmRequest}
  {format : Option (List Char)} {destination : Bool} {size : ℕ} {ack : Option RdmAck}
  {pd : List Byte}

/-! ## Sending -/

/-- The header of a request passes the checks of `rdm_write`. -/
theorem rdmWriteChecks_requestHeader (hasserts : q.Asserts format) (hpdl : q.pdl < 231) :
    rdmWriteChecks (c.requestHeader q) q.format q.pd := by
  obtain ⟨hsub, -, ⟨hvalid, hrequest⟩, -, -, hformat, hpd, -, -⟩ := hasserts
  have hpdl' : (BitVec.ofNat 8 q.pdl).toNat = q.pdl := by
    rw [BitVec.toNat_ofNat, Nat.mod_eq_of_lt (by omega)]
  have hmessage : (BitVec.ofNat 8 (24 + q.pdl)).toNat = 24 + q.pdl := by
    rw [BitVec.toNat_ofNat, Nat.mod_eq_of_lt (by omega)]
  refine ⟨⟨?_, ?_⟩, hsub, hvalid, ?_, ?_, ?_⟩
  · show 24 ≤ (BitVec.ofNat 8 (24 + q.pdl)).toNat
    omega
  · show (BitVec.ofNat 8 (24 + q.pdl)).toNat = 24 + (BitVec.ofNat 8 q.pdl).toNat
    omega
  · show (BitVec.ofNat 8 q.pdl).toNat < 231
    omega
  · rw [show (c.requestHeader q).cc = q.cc from rfl, hrequest, if_pos rfl]
    show 0#8 < BitVec.ofNat 8 (c.dmxNum + 1)
    generalize c.dmxNum = n
    revert n
    decide
  · rcases hpd with hpd | hpd
    · exact Or.inr ⟨hformat.resolve_right hpd, hpd⟩
    · left
      show BitVec.ofNat 8 q.pdl = 0#8
      rw [hpd]

/-- No request is taken for a discovery response. -/
theorem not_isDiscoveryResponse_requestHeader (hrequest : rdmCcIsRequest q.cc = true) :
    ¬ (c.requestHeader q).IsDiscoveryResponse := by
  intro h
  have hcc : q.cc = rdmCcDiscCommandResponse := h.1
  rw [hcc] at hrequest
  exact absurd hrequest (by decide)

/-- **What is on the wire**, and what is left to do once it is. -/
theorem rdmSendRequest_eq (cfg : SdkConfig) (L : Line σ) (c : Controller) (s s' : σ)
    (q : RdmRequest) (format : Option (List Char)) (destination : Bool) (size : ℕ)
    (ack : Option RdmAck) (hasserts : q.Asserts format) (hpdl : q.pdl < 231)
    (hpd : WritesPd (c.requestHeader q) q.format q.pd pd) (hready : L.waitSent s = (s', true)) :
    ∃ data : Buffer Byte dmxPacketSize,
      data.bytes = wirePacket (c.requestHeader q) pd ++ c.data.bytes.drop (26 + pd.length) ∧
      rdmSendRequest cfg L c s q format destination size ack =
        (L.send s' (wirePacket (c.requestHeader q) pd)).bind fun x ↦
          if x.2 = false then
            some ⟨{ c with data := L.restore x.1 c.data data (26 + q.pdl) }, x.1,
              ack.map fun _ ↦ noHeaderAck .dmxOk 0 rdmResponseTypeNone, [], 0⟩
          else if rdmUidIsBroadcast q.destUid ∧ q.pid ≠ rdmPidDiscUniqueBranch then
            some ⟨{ c with data := L.restore (L.waitSent x.1).1 c.data data (26 + q.pdl),
                           tn := c.tn + 1 }, (L.waitSent x.1).1,
              ack.map fun _ ↦ noHeaderAck .dmxOk 0 rdmResponseTypeNone, [], 0⟩
          else readResponse cfg L { c with data := data, tn := c.tn + 1 } x.1 c.data
            (26 + q.pdl) format destination size ack := by
  have hchecks := rdmWriteChecks_requestHeader (c := c) hasserts hpdl
  obtain ⟨hsub, hpid, ⟨hvalid, hrequest⟩, -, hformat, -, -, -, -⟩ := id hasserts
  have hnot := not_isDiscoveryResponse_requestHeader (c := c) hrequest
  have hlen := hpd.length_le hformat hchecks.2.2.2.1
  have hpacket : rdmPacket (c.requestHeader q) q.format q.pd =
      some (wirePacket (c.requestHeader q) pd) := by
    rw [rdmPacket, if_neg hnot, hpd.standardPacket_eq hchecks.1.2]
  obtain ⟨data, hwrite, hbytes⟩ := rdmWrite_of_rdmPacket c.data hformat hchecks hpacket
    (by rw [length_wirePacket]; exact (Nat.add_le_add_left hlen 26).trans (by decide))
  have hvalid' : rdmCcIsValid (c.requestHeader q).cc = true := hvalid
  have hsent := sentSlots_wirePacket hvalid' hnot hlen hbytes dmxPacketSize
  have hsize : (c.requestHeader q).messageLen.toNat + 2 = 26 + q.pdl := by
    show (BitVec.ofNat 8 (24 + q.pdl)).toNat + 2 = 26 + q.pdl
    rw [BitVec.toNat_ofNat, Nat.mod_eq_of_lt (by omega)]
    omega
  have htn : nextTn data.bytes c.tn = c.tn + 1 := by
    rw [nextTn, hbytes, rdmReadHeader?_wirePacket hlen]
    exact if_pos ⟨hvalid, hrequest, hpid⟩
  rw [length_wirePacket] at hbytes
  refine ⟨data, hbytes, ?_⟩
  rw [rdmSendRequest, if_neg (not_not.mpr hasserts), hready]
  simp only [hwrite, Option.bind_some, hsent, hsize, htn]

/-- Parameter data have been put on the wire by a request that has not gone wrong. -/
theorem exists_writesPd_of_rdmSendRequest {x : Exchange σ} (hpdl : q.pdl < 231)
    (hready : L.waitSent s = (s', true))
    (hsend : rdmSendRequest cfg L c s q format destination size ack = some x) :
    q.Asserts format ∧ ∃ pd, WritesPd (c.requestHeader q) q.format q.pd pd := by
  have hasserts : q.Asserts format := by
    by_contra hno
    rw [rdmSendRequest, if_pos hno] at hsend
    cases hsend
  have hchecks := rdmWriteChecks_requestHeader (c := c) hasserts hpdl
  obtain ⟨-, -, ⟨-, hrequest⟩, -, hformat, -, -, -, -⟩ := id hasserts
  refine ⟨hasserts, ?_⟩
  rw [rdmSendRequest, if_neg (not_not.mpr hasserts), hready] at hsend
  obtain ⟨⟨data, n⟩, hwrite, -⟩ := Option.bind_eq_some_iff.mp hsend
  rw [rdmWrite, hformat] at hwrite
  simp only [Option.bind_eq_bind, Option.bind_some, hchecks, not_true, or_self, if_false] at hwrite
  obtain ⟨packet, hpacket, -⟩ := Option.bind_eq_some_iff.mp hwrite
  rw [rdmPacket, if_neg (not_isDiscoveryResponse_requestHeader hrequest)] at hpacket
  obtain ⟨pd, hpd, -⟩ := exists_writesPd hchecks hpacket
  exact ⟨pd, hpd⟩

/-! ## What is put back -/

theorem bytes_overwrite_drop (data : Buffer Byte dmxPacketSize) (slots : List Byte) (n : ℕ) :
    (overwrite data slots).bytes.drop n =
      (slots.take dmxPacketSize).drop n ++ data.bytes.drop
        ((slots.take dmxPacketSize).length + (n - (slots.take dmxPacketSize).length)) := by
  rw [overwrite, Buffer.bytes_write_zero, List.drop_append, List.drop_drop]

/-- What is received over a request hides what was written there. -/
theorem bytes_overwrite_drop_congr {data data' : Buffer Byte dmxPacketSize} {n : ℕ}
    (h : data.bytes.drop n = data'.bytes.drop n) (slots : List Byte) :
    (overwrite data slots).bytes.drop n = (overwrite data' slots).bytes.drop n := by
  have hle : n ≤ (slots.take dmxPacketSize).length + (n - (slots.take dmxPacketSize).length) := by
    omega
  obtain ⟨k, hk⟩ := Nat.exists_eq_add_of_le hle
  rw [bytes_overwrite_drop, bytes_overwrite_drop, hk, ← List.drop_drop, ← List.drop_drop, h]

/-- What is put back of the buffer when nothing is being sent. -/
theorem bytes_restore (hidle : L.sending s = false) {old data : Buffer Byte dmxPacketSize} {n : ℕ}
    (hn : n ≤ dmxPacketSize) :
    (L.restore s old data n).bytes = old.bytes.take n ++ data.bytes.drop n := by
  have hlen : (old.bytes.take n).length = n := by
    rw [List.length_take, old.length_bytes, Nat.min_eq_left hn]
  rw [Line.restore, if_neg (by rw [hidle]; exact fun h ↦ absurd h.1 Bool.false_ne_true),
    bytes_overwrite (hlen.trans_le hn), hlen]

/-- Nothing is left of a request that nothing has come back to. -/
theorem bytes_restore_of_drop (hidle : L.sending s = false) {old data : Buffer Byte dmxPacketSize}
    {n : ℕ} (hn : n ≤ dmxPacketSize) (hdrop : data.bytes.drop n = old.bytes.drop n) :
    (L.restore s old data n).bytes = old.bytes := by
  rw [bytes_restore hidle hn, hdrop, List.take_append_drop]

/-- A request leaves the buffer alone behind its slots. -/
theorem drop_of_wirePacket {old data : Buffer Byte dmxPacketSize} {h : RdmHeader} {n : ℕ}
    (hbytes : data.bytes = wirePacket h pd ++ old.bytes.drop (26 + pd.length))
    (hle : pd.length ≤ n) : data.bytes.drop (26 + n) = old.bytes.drop (26 + n) := by
  obtain ⟨k, rfl⟩ := Nat.exists_eq_add_of_le hle
  have hwire : (wirePacket h pd).length = 26 + pd.length := length_wirePacket
  rw [← Nat.add_assoc, ← List.drop_drop, hbytes, List.drop_left' hwire, List.drop_drop]

theorem overwrite_nil (data : Buffer Byte dmxPacketSize) :
    (overwrite data []).bytes = data.bytes := by
  rw [bytes_overwrite (Nat.zero_le _), List.nil_append, List.length_nil, List.drop_zero]

/-- What `rdm_send_request` reads of a response does not concern the buffer. -/
theorem data_of_readResponse {old : Buffer Byte dmxPacketSize} {n : ℕ} {x : Exchange σ}
    (h : readResponse cfg L c s old n format destination size ack = some x) :
    x.controller.data =
      L.restore (L.receive s).1 old (overwrite c.data (L.receive s).2.slots) n := by
  rw [readResponse] at h
  dsimp only at h
  split at h
  · cases h
    rfl
  · split at h
    · cases h
      rfl
    · split at h
      · cases h
        rfl
      · obtain ⟨⟨ack', pd'⟩, -, rfl⟩ := Option.map_eq_some_iff.mp h
        rfl

/-- What has been received over a request when it is over: nothing, unless the request has been sent
and is not one that nobody answers. -/
def slotsReceived (L : Line σ) (s : σ) (q : RdmRequest) (packet : List Byte) : List Byte :=
  match L.waitSent s with
  | (_, false) => []
  | (s, true) =>
    match L.send s packet with
    | some (s, true) =>
      if rdmUidIsBroadcast q.destUid ∧ q.pid ≠ rdmPidDiscUniqueBranch then []
      else (L.receive s).2.slots
    | _ => []

theorem slotsReceived_of_not_sent {s₁ : σ} {packet : List Byte} (hready : L.waitSent s = (s', true))
    (hsend : L.send s' packet = some (s₁, false)) : slotsReceived L s q packet = [] := by
  simp only [slotsReceived, hready, hsend]

theorem slotsReceived_of_sent {s₁ : σ} {packet : List Byte} (hready : L.waitSent s = (s', true))
    (hsend : L.send s' packet = some (s₁, true)) : slotsReceived L s q packet =
      if rdmUidIsBroadcast q.destUid ∧ q.pid ≠ rdmPidDiscUniqueBranch then []
      else (L.receive s₁).2.slots := by
  simp only [slotsReceived, hready, hsend]

/-- A controller at port 0. -/
def idleController : Controller := ⟨0, ⟨0x05e0, 1⟩, Buffer.fill dmxPacketSize 0, 0, 0⟩

/-- A line on which more comes back than a request without parameter data has slots. -/
def longLine : Line Unit where
  waitSent s := (s, true)
  send s _ := some (s, true)
  receive s := (s, ⟨.dmxErrImproperSlot, 40, List.replicate 40 1⟩)
  sending _ := false

/-- A request to get a parameter. -/
def getRequest : RdmRequest :=
  ⟨⟨0x05e0, 7⟩, rdmSubDeviceRoot, rdmCcGetCommand, 0x0060, none, none, 0⟩

section Response

variable {old : Buffer Byte dmxPacketSize} {n : ℕ} {h : RdmHeader} {a : RdmAck}
  {z : Option (Exchange σ)}

theorem readResponse_of_silent
    (hz : z = readResponse cfg L c s old n format destination size (some a))
    (hsize : (L.receive s).2.size = 0) :
    ∃ data, z = some ⟨{ c with data := data }, (L.receive s).1,
      some (noHeaderAck (L.receive s).2.err 0 rdmResponseTypeNone), [], 0⟩ := by
  rw [readResponse] at hz
  dsimp only at hz
  rw [if_pos hsize, hsize] at hz
  exact ⟨_, hz⟩

theorem readResponse_of_unreadable
    (hz : z = readResponse cfg L c s old n format destination size (some a))
    (hsize : (L.receive s).2.size ≠ 0)
    (hread : rdmReadHeader? (overwrite c.data (L.receive s).2.slots).bytes = none) :
    ∃ data, z = some ⟨{ c with data := data }, (L.receive s).1, some (noHeaderAck
      (L.receive s).2.err (L.receive s).2.size rdmResponseTypeInvalid), [], 0⟩ := by
  rw [readResponse] at hz
  dsimp only at hz
  rw [if_neg hsize, hread] at hz
  exact ⟨_, hz⟩

/-- The line after a response has been read. -/
theorem line_of_readResponse {x : Exchange σ}
    (hx : readResponse cfg L c s old n format destination size ack = some x) :
    x.line = (L.receive s).1 := by
  rw [readResponse] at hx
  dsimp only at hx
  split at hx
  · cases hx
    rfl
  · split at hx
    · cases hx
      rfl
    · split at hx
      · cases hx
        rfl
      · obtain ⟨y, -, rfl⟩ := Option.map_eq_some_iff.mp hx
        rfl

/-- The sender and the type of a response are in the ack, if reading it does not go wrong. -/
theorem ack_of_readResponse {x : Exchange σ}
    (hx : readResponse cfg L c s old n format destination size (some a) = some x)
    (hsize : (L.receive s).2.size ≠ 0)
    (hread : rdmReadHeader? (overwrite c.data (L.receive s).2.slots).bytes = some h)
    (hvalid : rdmResponseTypeIsValid h.responseType = true) :
    ∃ a', x.ack = some a' ∧ a'.type = h.responseType ∧ a'.srcUid = h.srcUid := by
  rw [readResponse] at hx
  dsimp only at hx
  rw [if_neg hsize, hread] at hx
  obtain ⟨⟨a', pd'⟩, hack, rfl⟩ := Option.map_eq_some_iff.mp hx
  refine ⟨a', rfl, ?_⟩
  rw [readAck, if_neg (Bool.not_eq_false _ ▸ hvalid)] at hack
  split_ifs at hack
  · obtain ⟨word, -, heq⟩ := Option.map_eq_some_iff.mp hack
    cases heq
    exact ⟨rfl, rfl⟩
  · obtain ⟨word, -, heq⟩ := Option.map_eq_some_iff.mp hack
    cases heq
    exact ⟨rfl, rfl⟩
  · obtain ⟨word, -, heq⟩ := Option.map_eq_some_iff.mp hack
    cases heq
    exact ⟨rfl, rfl⟩

/-- A response that acknowledges the request: its sender is in the ack, and its parameter data are
copied. -/
theorem readResponse_of_ack
    (hz : z = readResponse cfg L c s old n format destination size (some a))
    (hsize : (L.receive s).2.size ≠ 0)
    (hread : rdmReadHeader? (overwrite c.data (L.receive s).2.slots).bytes = some h)
    (htype : h.responseType = rdmResponseTypeAck) {x : ℕ × List Byte}
    (hpd : rdmReadPd (overwrite c.data (L.receive s).2.slots).bytes format destination size =
      some x) :
    ∃ data returned a',
      z = some ⟨{ c with data := data }, (L.receive s).1, some a', x.2, returned⟩ ∧
      a'.type = rdmResponseTypeAck ∧ a'.srcUid = h.srcUid := by
  have hvalid : ¬ rdmResponseTypeIsValid h.responseType = false := by rw [htype]; decide
  have htimer : ¬ h.responseType = rdmResponseTypeAckTimer := by rw [htype]; decide
  have hnack : ¬ h.responseType = rdmResponseTypeNackReason := by rw [htype]; decide
  rw [readResponse] at hz
  dsimp only at hz
  rw [if_neg hsize, hread] at hz
  dsimp only at hz
  rw [readAck] at hz
  dsimp only at hz
  rw [if_neg hvalid, if_neg htimer, if_neg hnack, hpd] at hz
  exact ⟨_, _, _, hz, htype, rfl⟩

end Response

end BedroomLights
