import BedroomLights.Rdm.Devices

/-!
# A request to one device

On a line with devices that answer by `rdm_write_ack` and `rdm_write_nack_reason` only, whatever
parameters they have, a request that is not a broadcast is between the controller and the device it
is meant for.

* `rdmSendRequest_answered`: what the controller is told comes from that device, or it is told that
  nothing has come back; responses do not collide; and the request leaves the other devices as they
  were.
-/

set_option autoImplicit false

namespace BedroomLights

/-- What a list has been taken to, entry by entry. -/
theorem forall₂_of_mapM {α β : Type*} {f : α → Option β} : ∀ {l : List α} {l' : List β},
    l.mapM f = some l' → List.Forall₂ (fun a b ↦ f a = some b) l l' := by
  intro l
  induction l with
  | nil =>
    intro l' h
    cases h
    exact .nil
  | cons a l ih =>
    intro l' h
    rw [List.mapM_cons] at h
    obtain ⟨b, hb, h⟩ := Option.bind_eq_some_iff.mp h
    obtain ⟨bs, hbs, h⟩ := Option.bind_eq_some_iff.mp h
    cases h
    exact .cons hb (ih hbs)

variable {definitions : RdmUid → BitVec 16 → Option RdmDefinition}

/-! ## One device -/

theorem uid_of_rdmWriteNackReason {r r' : Responder} {h : RdmHeader} {reason : BitVec 16} {n : ℕ}
    (hnack : rdmWriteNackReason r h reason = some (r', n)) : r'.uid = r.uid := by
  rw [rdmWriteNackReason, Responder.write] at hnack
  split_ifs at hnack
  obtain ⟨x, -, heq⟩ := Option.map_eq_some_iff.mp hnack
  cases heq
  rfl

theorem uid_of_validateResponse {r r' : Responder} {h : RdmHeader} {m n : ℕ}
    (hvalid : validateResponse h r m = some (r', n)) : r'.uid = r.uid := by
  rw [validateResponse] at hvalid
  split_ifs at hvalid
  · cases hvalid
    rfl
  · obtain ⟨⟨r₁, k⟩, hnack, heq⟩ := Option.map_eq_some_iff.mp hvalid
    cases heq
    have huid := uid_of_rdmWriteNackReason hnack
    exact huid
  · cases hvalid
    rfl

theorem uid_of_rdmHandleRequest {definitions : BitVec 16 → Option RdmDefinition}
    (hdefs : ∀ pid d, definitions pid = some d → Responds d.getHandler ∧ Responds d.setHandler)
    {r r' : Responder} {h : RdmHeader} {n : ℕ}
    (hhandle : rdmHandleRequest definitions r h = some (r', n)) : r'.uid = r.uid := by
  rw [rdmHandleRequest] at hhandle
  split at hhandle
  · cases hhandle
  · exact uid_of_rdmWriteNackReason hhandle
  · rename_i d hget
    have hresponds := responds_handler h.cc (hdefs _ _ (rdmDefinitionGet_eq_some hget))
    split_ifs at hhandle
    · exact uid_of_rdmWriteNackReason hhandle
    · cases hhandle
      rfl
    · exact uid_of_rdmWriteNackReason hhandle
    · obtain ⟨⟨r₁, m⟩, hhandler, hvalid⟩ := Option.bind_eq_some_iff.mp hhandle
      exact (uid_of_validateResponse hvalid).trans (hresponds _ _ _ _ hhandler).1

/-- A device keeps its UID. -/
theorem uid_of_rdmSendResponse {definitions : BitVec 16 → Option RdmDefinition}
    (hdefs : ∀ pid d, definitions pid = some d → Responds d.getHandler ∧ Responds d.setHandler)
    {r r' : Responder} {inTime : Bool} {response : Option (List Byte)}
    (h : rdmSendResponse definitions r inTime = some (r', response)) : r'.uid = r.uid := by
  rw [rdmSendResponse] at h
  split at h
  · cases h
    rfl
  · split_ifs at h
    · cases h
      rfl
    · obtain ⟨⟨r₁, n⟩, hhandle, hsend⟩ := Option.map_eq_some_iff.mp h
      rw [← uid_of_rdmHandleRequest hdefs hhandle]
      change sendPacket _ inTime r₁ n = (r', response) at hsend
      rw [sendPacket] at hsend
      split_ifs at hsend <;> cases hsend <;> rfl

theorem uid_of_respond (hdefs : ∀ uid pid d, definitions uid pid = some d →
      Responds d.getHandler ∧ Responds d.setHandler)
    {r r' : Responder} {slots : List Byte} {response : Option (List Byte)}
    (h : r.respond definitions slots = some (r', response)) : r'.uid = r.uid := by
  rw [Responder.respond] at h
  have huid := uid_of_rdmSendResponse (hdefs r.uid) h
  exact huid

/-- What a device does with a request that is not meant for it. -/
theorem respond_of_not_target {r r' : Responder} {slots : List Byte} {response : Option (List Byte)}
    {h : RdmHeader} (hrespond : r.respond definitions slots = some (r', response))
    (hread : rdmReadHeader? (overwrite r.data slots).bytes = some h)
    (htarget : ¬ rdmUidIsTarget r.uid h.destUid = true) :
    response = none ∧ ∃ data, r' = { r with data := data } := by
  rw [Responder.respond, rdmSendResponse] at hrespond
  dsimp only at hrespond
  rw [hread] at hrespond
  dsimp only at hrespond
  rw [if_pos (Or.inr (Bool.not_eq_true _ ▸ htarget))] at hrespond
  cases hrespond
  exact ⟨rfl, _, rfl⟩

/-! ## All devices -/

/-- Where at most one device responds, there is one response at most. -/
theorem filterMap_of_forall₂ {devices : List Responder}
    {f : Responder → Option (Responder × Option (List Byte))}
    {responses : List (Responder × Option (List Byte))} {uid : RdmUid}
    (h : List.Forall₂ (fun r x ↦ f r = some x) devices responses)
    (honly : ∀ r r' slots, f r = some (r', some slots) → r.uid = uid)
    (hnodup : (devices.map Responder.uid).Nodup) :
    responses.filterMap Prod.snd = [] ∨ ∃ r ∈ devices, ∃ r' slots, r.uid = uid ∧
      f r = some (r', some slots) ∧ responses.filterMap Prod.snd = [slots] := by
  induction h with
  | nil => exact Or.inl rfl
  | @cons r x devices responses hx h ih =>
    rw [List.map_cons, List.nodup_cons] at hnodup
    have ih := ih hnodup.2
    match x, hx with
    | (r', none), _ =>
      rw [List.filterMap_cons_none rfl]
      refine ih.imp_right ?_
      rintro ⟨r₁, hr₁, hrest⟩
      exact ⟨r₁, List.mem_cons_of_mem r hr₁, hrest⟩
    | (r', some slots), hx =>
      have huid := honly r r' slots hx
      have hnil : responses.filterMap Prod.snd = [] := by
        refine ih.resolve_right ?_
        rintro ⟨r₁, hr₁, -, -, huid₁, -⟩
        exact hnodup.1 (List.mem_map.mpr ⟨r₁, hr₁, huid₁.trans huid.symm⟩)
      have hone : ((r', some slots) :: responses).filterMap Prod.snd = [slots] := by
        rw [List.filterMap_cons, hnil]
      rw [hone]
      exact Or.inr ⟨r, List.mem_cons_self, r', slots, huid, hx, rfl⟩

/-- A device sends no more than a packet. -/
theorem length_of_rdmSendResponse {definitions : BitVec 16 → Option RdmDefinition}
    {r r' : Responder} {inTime : Bool} {slots : List Byte}
    (h : rdmSendResponse definitions r inTime = some (r', some slots)) :
    slots.length ≤ dmxPacketSize := by
  rw [rdmSendResponse] at h
  split at h
  · cases h
  · split_ifs at h
    · cases h
    · obtain ⟨⟨r₁, n⟩, -, hsend⟩ := Option.map_eq_some_iff.mp h
      change sendPacket _ inTime r₁ n = (r', some slots) at hsend
      rw [sendPacket] at hsend
      split_ifs at hsend
      · cases hsend
      · cases hsend
        rw [sentSlots, List.length_take, Buffer.length_bytes]
        exact Nat.min_le_right _ _
      · cases hsend

/-- A packet, in the buffer of a device that has received it. -/
theorem rdmReadHeader?_overwrite_wirePacket {h : RdmHeader} {pd : List Byte}
    (hpd : pd.length ≤ 231) (data : Buffer Byte dmxPacketSize) :
    rdmReadHeader? (overwrite data (wirePacket h pd)).bytes = some (h.withPd pd) := by
  rw [bytes_overwrite (by
    rw [length_wirePacket]
    exact (Nat.add_le_add_left hpd 26).trans (by decide)), rdmReadHeader?_wirePacket hpd]

/-! ## What the controller is told -/

section Ack

variable {σ : Type*} {cfg : SdkConfig} {L : Line σ} {c : Controller} {s : σ}
  {old : Buffer Byte dmxPacketSize} {n size : ℕ} {format : Option (List Char)}
  {destination : Bool} {a : RdmAck} {x : Exchange σ}

theorem ack_of_silent
    (hx : readResponse cfg L c s old n format destination size (some a) = some x)
    (hsize : (L.receive s).2.size = 0) :
    ∃ a', x.ack = some a' ∧ a'.type = rdmResponseTypeNone := by
  obtain ⟨data, heq⟩ := readResponse_of_silent hx.symm hsize
  cases heq
  exact ⟨_, rfl, rfl⟩

/-- If what has been received is an answer of one device, then the ack is from that device; an
answer of no slots is taken for none. -/
theorem ack_of_answer {uid : RdmUid} {h : RdmHeader} {e : DmxErr} {slots : List Byte}
    (hx : readResponse cfg L c s old n format destination size (some a) = some x)
    (hreception : (L.receive s).2 = ⟨e, slots.length, slots⟩)
    (hlen : slots.length ≤ dmxPacketSize)
    (hanswer : ∃ h', rdmReadHeader? (slots ++ c.data.bytes.drop slots.length) = some h' ∧
      Answers uid h h') :
    ∃ a', x.ack = some a' ∧ (a'.type = rdmResponseTypeNone ∨ a'.srcUid = uid ∧
      (a'.type = rdmResponseTypeAck ∨ a'.type = rdmResponseTypeNackReason)) := by
  by_cases hempty : (L.receive s).2.size = 0
  · obtain ⟨a', hack, htype⟩ := ack_of_silent hx hempty
    exact ⟨a', hack, Or.inl htype⟩
  · obtain ⟨h', hread, hanswers⟩ := hanswer
    have hvalid : rdmResponseTypeIsValid h'.responseType = true := by
      rcases hanswers.responseType with htype | htype
      · rw [htype]
        decide
      · rw [htype]
        decide
    rw [← bytes_overwrite hlen] at hread
    obtain ⟨a', hack, htype, hsrc⟩ :=
      ack_of_readResponse hx hempty (by rw [hreception]; exact hread) hvalid
    refine ⟨a', hack, Or.inr ⟨hsrc.trans hanswers.srcUid, ?_⟩⟩
    rw [htype]
    exact hanswers.responseType

end Ack

/-- **A request to one device is answered by that device**, or by nobody.  What the controller is
told comes from the device it has asked, nothing that the others send gets in the way of it, and the
others are what they were but for what is in their buffers. -/
theorem rdmSendRequest_answered (cfg : SdkConfig)
    (definitions : RdmUid → BitVec 16 → Option RdmDefinition) (noise : List (List Byte) → Reception)
    (hdefs : ∀ uid pid d, definitions uid pid = some d →
      Responds d.getHandler ∧ Responds d.setHandler)
    (c : Controller) (s : Devices) (huids : s.uids.Nodup) (q : RdmRequest) (hpdl : q.pdl < 231)
    (hdest : rdmUidIsBroadcast q.destUid = false) (format : Option (List Char)) (destination : Bool)
    (size : ℕ) (a : RdmAck) (x : Exchange Devices)
    (hsend : rdmSendRequest cfg (deviceLine definitions noise) c s q format destination size
      (some a) = some x) :
    List.Forall₂ (fun r r' ↦ r'.uid = r.uid ∧
      (r.uid ≠ q.destUid → ∃ data, r' = { r with data := data })) s.devices x.line.devices ∧
    ∃ a', x.ack = some a' ∧ (a'.type = rdmResponseTypeNone ∨
      q.destUid ∈ s.uids ∧ a'.srcUid = q.destUid ∧
        (a'.type = rdmResponseTypeAck ∨ a'.type = rdmResponseTypeNackReason)) := by
  obtain ⟨hasserts, pd, hpd⟩ := exists_writesPd_of_rdmSendRequest hpdl rfl hsend
  obtain ⟨data, -, heq⟩ := rdmSendRequest_eq cfg (deviceLine definitions noise) c s s q format
    destination size (some a) hasserts hpdl hpd rfl
  have hle : pd.length ≤ 231 :=
    hpd.length_le hasserts.2.2.2.2.1 (rdmWriteChecks_requestHeader hasserts hpdl).2.2.2.1
  rw [heq] at hsend
  obtain ⟨⟨s₁, sent⟩, hline, hsend⟩ := Option.bind_eq_some_iff.mp hsend
  obtain ⟨responses, hmap, hline⟩ := Option.map_eq_some_iff.mp hline
  obtain ⟨rfl, rfl⟩ := Prod.mk.inj hline
  have hforall := forall₂_of_mapM hmap
  rw [if_neg Bool.true_eq_false.mp, if_neg fun h ↦ by
    rw [hdest] at h
    exact Bool.false_ne_true h.1] at hsend
  have hothers : ∀ {r r' : Responder} {response},
      r.respond definitions (wirePacket (c.requestHeader q) pd) = some (r', response) →
        r.uid ≠ q.destUid → response = none ∧ ∃ data, r' = { r with data := data } :=
    fun {r r' response} hrespond hne ↦
      respond_of_not_target hrespond (rdmReadHeader?_overwrite_wirePacket hle r.data)
        fun h ↦ hne ((rdmUidIsTarget_iff_of_not_broadcast hdest).mp h)
  refine ⟨?_, ?_⟩
  · rw [line_of_readResponse hsend]
    show List.Forall₂ _ s.devices (responses.map Prod.fst)
    rw [List.forall₂_map_right_iff]
    exact hforall.imp fun r ⟨r', response⟩ hrespond ↦
      ⟨uid_of_respond hdefs hrespond, fun hne ↦ (hothers hrespond hne).2⟩
  · have honly : ∀ (r r' : Responder) slots,
        r.respond definitions (wirePacket (c.requestHeader q) pd) = some (r', some slots) →
          r.uid = q.destUid := by
      intro r r' slots hrespond
      by_contra hne
      exact Option.some_ne_none _ (hothers hrespond hne).1
    rcases filterMap_of_forall₂ hforall honly huids with hnil | ⟨r, hr, r', slots, huid, hr', hone⟩
    · obtain ⟨a', hack, htype⟩ := ack_of_silent hsend (by
        show (hear noise (responses.filterMap Prod.snd)).size = 0
        rw [hnil]
        rfl)
      exact ⟨a', hack, Or.inl htype⟩
    · rw [Responder.respond] at hr'
      obtain ⟨-, -, -, hanswer⟩ :=
        answers_of_read (r := { r with data := overwrite r.data _ }) (hdefs r.uid)
          (rdmReadHeader?_overwrite_wirePacket hle r.data) hr' (data.bytes.drop slots.length)
      obtain ⟨a', hack, htype⟩ := ack_of_answer hsend (e := .dmxOk) (by
        show hear noise (responses.filterMap Prod.snd) = _
        rw [hone]
        rfl) (length_of_rdmSendResponse hr') hanswer
      refine ⟨a', hack, htype.imp_right fun ⟨hsrc, htype⟩ ↦ ⟨?_, hsrc.trans huid, htype⟩⟩
      rw [← huid]
      exact List.mem_map_of_mem hr

theorem rdmSendRequest_answered_of_twoDevices :
    ∃ x a', rdmSendRequest ⟨1000, 0⟩ (deviceLine (fun _ ↦ discoveryParameters) unreadableNoise)
        idleController twoDevices (muteRequest rdmPidDiscMute ⟨0x05e0, 7⟩) (some ['w', 'v']) true 8
        (some (noHeaderAck .dmxOk 0 0)) = some x ∧ x.ack = some a' ∧
      (a'.type = rdmResponseTypeNone ∨ a'.srcUid = ⟨0x05e0, 7⟩) := by
  have hsend : (rdmSendRequest ⟨1000, 0⟩ (deviceLine (fun _ ↦ discoveryParameters) unreadableNoise)
      idleController twoDevices (muteRequest rdmPidDiscMute ⟨0x05e0, 7⟩) (some ['w', 'v']) true 8
      (some (noHeaderAck .dmxOk 0 0))).isSome = true := by decide +kernel
  obtain ⟨x, hx⟩ := Option.isSome_iff_exists.mp hsend
  obtain ⟨-, a', hack, htype⟩ := rdmSendRequest_answered ⟨1000, 0⟩ (fun _ ↦ discoveryParameters)
    unreadableNoise (fun _ ↦ responds_discoveryParameters) idleController twoDevices (by decide)
    (muteRequest rdmPidDiscMute ⟨0x05e0, 7⟩) (by decide) (by decide) (some ['w', 'v']) true 8
    (noHeaderAck .dmxOk 0 0) x hx
  exact ⟨x, a', hx, hack, htype.imp_right fun h ↦ h.2.1⟩

end BedroomLights
