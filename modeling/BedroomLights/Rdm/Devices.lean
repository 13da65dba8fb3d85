import BedroomLights.Firmware.Rdm.Devices
import BedroomLights.Firmware.Rdm.Discovery
import BedroomLights.Rdm.Request

/-!
# The requests of a discovery on a line with devices

`OnLine uids muted s` says which devices are on a line and which of them have been muted.  That is
all that a discovery depends on: `exchange_branch` is the search for devices in a range, and
`exchange_mute` the muting of a device, in these terms.
-/

set_option autoImplicit false

namespace BedroomLights

/-! ## The devices -/

/-- The devices on a line have these UIDs, and have been muted if these say so. -/
structure OnLine (uids : List RdmUid) (muted : RdmUid → Bool) (s : Devices) : Prop where
  uids : s.uids = uids
  muted : ∀ r ∈ s.devices, r.isMuted = muted r.uid

variable {definitions : RdmUid → BitVec 16 → Option RdmDefinition}
  {noise : List (List Byte) → Reception} {uids : List RdmUid} {muted : RdmUid → Bool} {s : Devices}
  {h : RdmHeader} {lower upper : RdmUid}

theorem OnLine.congr {muted' : RdmUid → Bool} (hs : OnLine uids muted s)
    (h : ∀ uid ∈ uids, muted uid = muted' uid) : OnLine uids muted' s := by
  refine ⟨hs.uids, fun r hr ↦ ?_⟩
  have hmem : r.uid ∈ uids := by
    rw [← hs.uids]
    exact List.mem_map_of_mem hr
  rw [hs.muted r hr, h _ hmem]

/-- What a line does when no device fails. -/
theorem send_of_respond {slots : List Byte} {f : Responder → Responder × Option (List Byte)}
    (hf : ∀ r, r.respond definitions slots = some (f r)) :
    (deviceLine definitions noise).send s slots = some (⟨s.devices.map fun r ↦ (f r).1,
      hear noise (s.devices.filterMap fun r ↦ (f r).2)⟩, true) := by
  have hmap : Responder.respond definitions slots = fun r ↦ pure (f r) := funext hf
  show (s.devices.mapM (Responder.respond definitions slots)).map _ = _
  rw [hmap, List.mapM_pure]
  simp [List.map_map, List.filterMap_map, Function.comp_def]

/-- What the devices with some UIDs respond. -/
theorem filterMap_uid {devices : List Responder} {p : Responder → Prop} [DecidablePred p]
    {q : RdmUid → Prop} [DecidablePred q] {f : RdmUid → List Byte}
    (h : ∀ r ∈ devices, p r ↔ q r.uid) :
    (devices.filterMap fun r ↦ if p r then some (f r.uid) else none) =
      ((devices.map Responder.uid).filter (fun uid ↦ q uid)).map f := by
  induction devices with
  | nil => rfl
  | cons r devices ih =>
    have hr := h r List.mem_cons_self
    have hrest := ih fun r' hr' ↦ h r' (List.mem_cons_of_mem r hr')
    by_cases hp : p r
    · simp [hp, hr.mp hp, hrest]
    · have hq : ¬ q r.uid := fun hq ↦ hp (hr.mpr hq)
      simp [hp, hq, hrest]

/-- **The search for devices, on a line.**  The devices that respond are those that have not been
muted and are in the range. -/
theorem send_branch (noise : List (List Byte) → Reception) (lower upper : RdmUid)
    (hdefs : ∀ uid, Discoverable (definitions uid)) (hs : OnLine uids muted s)
    (hdisc : IsDiscovery h rdmPidDiscUniqueBranch) (hdest : h.destUid = rdmUidBroadcastAll) :
    ∃ s', (deviceLine definitions noise).send s (wirePacket h (branchPd lower upper)) =
        some (s', true) ∧ OnLine uids muted s' ∧
      s'.reception = hear noise ((uids.filter fun uid ↦ muted uid = false ∧ lower.val ≤ uid.val ∧
        uid.val ≤ upper.val).map discoveryResponse) := by
  have hlen : (wirePacket h (branchPd lower upper)).length ≤ dmxPacketSize := by
    rw [length_wirePacket, length_branchPd]
    decide
  have hrespond : ∀ r : Responder, ∃ data,
      r.respond definitions (wirePacket h (branchPd lower upper)) = some ({ r with data := data },
        if r.isMuted = false ∧ lower.val ≤ r.uid.val ∧ r.uid.val ≤ upper.val then
          some (discoveryResponse r.uid) else none) := by
    intro r
    obtain ⟨data, hdata⟩ := rdmSendResponse_branch
      (r := { r with data := overwrite r.data (wirePacket h (branchPd lower upper)) })
      (hdefs r.uid) hdisc hdest (bytes_overwrite hlen)
    exact ⟨data, hdata⟩
  choose data hdata using hrespond
  refine ⟨_, send_of_respond hdata, ⟨?_, ?_⟩, ?_⟩
  · rw [← hs.uids]
    simp [Devices.uids, List.map_map, Function.comp_def]
  · intro r hr
    obtain ⟨r₀, hr₀, rfl⟩ := List.mem_map.mp hr
    exact hs.muted r₀ hr₀
  · show hear noise _ = hear noise _
    rw [← hs.uids, Devices.uids]
    refine congrArg (hear noise) (filterMap_uid fun r hr ↦ ?_)
    rw [hs.muted r hr]

/-- What the device with one UID responds. -/
theorem filterMap_uid_eq {devices : List Responder} {uid : RdmUid} {f : Responder → List Byte}
    (h : (devices.map Responder.uid).Nodup) :
    if uid ∈ devices.map Responder.uid then ∃ r ∈ devices, r.uid = uid ∧
      (devices.filterMap fun r ↦ if r.uid = uid then some (f r) else none) = [f r]
    else (devices.filterMap fun r ↦ if r.uid = uid then some (f r) else none) = [] := by
  induction devices with
  | nil => simp
  | cons r devices ih =>
    rw [List.map_cons, List.nodup_cons] at h
    have ih := ih h.2
    by_cases hr : r.uid = uid
    · subst hr
      rw [if_neg h.1] at ih
      simp [ih]
    · by_cases hmem : uid ∈ devices.map Responder.uid
      · rw [if_pos hmem] at ih
        obtain ⟨r', hr', huid, heq⟩ := ih
        rw [List.map_cons, if_pos (List.mem_cons_of_mem _ hmem)]
        exact ⟨r', List.mem_cons_of_mem _ hr', huid, by simp [hr, heq]⟩
      · rw [if_neg hmem] at ih
        rw [List.map_cons, if_neg (List.not_mem_cons_of_ne_of_not_mem (Ne.symm hr) hmem)]
        simp [hr, ih]

/-- A mute or un-mute request at a device. -/
theorem respond_mute (hdefs : ∀ uid, Discoverable (definitions uid)) {pid : BitVec 16}
    (hpid : pid = rdmPidDiscMute ∨ pid = rdmPidDiscUnMute) (hdisc : IsDiscovery h pid)
    (r : Responder) : ∃ x, r.respond definitions (wirePacket h []) = some x ∧ x.1.uid = r.uid ∧
      x.1.isMuted = (if rdmUidIsTarget r.uid h.destUid then decide (pid = rdmPidDiscMute)
        else r.isMuted) ∧
      x.2 = if rdmUidIsTarget r.uid h.destUid ∧ rdmUidIsBroadcast h.destUid = false then
        some (wirePacket (r.responseHeader h rdmResponseTypeAck 8) r.mutePd) else none := by
  have hlen : (wirePacket h []).length ≤ dmxPacketSize := by
    rw [length_wirePacket]
    decide
  obtain ⟨data, hdata⟩ := rdmSendResponse_mute
    (r := { r with data := overwrite r.data (wirePacket h []) }) (hdefs r.uid) hpid hdisc
    (bytes_overwrite hlen)
  change r.respond definitions (wirePacket h []) = _ at hdata
  by_cases htarget : rdmUidIsTarget r.uid h.destUid = true
  · rw [if_pos htarget] at hdata
    refine ⟨_, hdata, rfl, by rw [if_pos htarget], ?_⟩
    cases rdmUidIsBroadcast h.destUid with
    | true => simp
    | false => simp [htarget]; rfl
  · rw [if_neg htarget] at hdata
    exact ⟨_, hdata, rfl, by rw [if_neg htarget], by rw [if_neg fun h ↦ htarget h.1]⟩

/-- **A mute or un-mute request, on a line.**  It is for the devices that its destination targets,
and the one that is meant alone responds. -/
theorem send_mute (noise : List (List Byte) → Reception)
    (hdefs : ∀ uid, Discoverable (definitions uid)) (hs : OnLine uids muted s)
    {pid : BitVec 16} (hpid : pid = rdmPidDiscMute ∨ pid = rdmPidDiscUnMute)
    (hdisc : IsDiscovery h pid) (huids : uids.Nodup) :
    ∃ s', (deviceLine definitions noise).send s (wirePacket h []) = some (s', true) ∧
      OnLine uids (fun uid ↦ if rdmUidIsTarget uid h.destUid then decide (pid = rdmPidDiscMute)
        else muted uid) s' ∧
      (rdmUidIsBroadcast h.destUid = false →
        if h.destUid ∈ uids then ∃ r : Responder, r.uid = h.destUid ∧
          s'.reception = hear noise [wirePacket (r.responseHeader h rdmResponseTypeAck 8) r.mutePd]
        else s'.reception = hear noise []) := by
  choose f hf huid hmuted hresponse using respond_mute hdefs hpid hdisc
  refine ⟨_, send_of_respond hf, ⟨?_, ?_⟩, fun hbroadcast ↦ ?_⟩
  · rw [← hs.uids]
    simp [Devices.uids, List.map_map, Function.comp_def, huid]
  · intro r hr
    obtain ⟨r₀, hr₀, rfl⟩ := List.mem_map.mp hr
    rw [hmuted, huid, hs.muted r₀ hr₀]
  · have honly : ∀ r, (f r).2 = if r.uid = h.destUid then
        some (wirePacket (r.responseHeader h rdmResponseTypeAck 8) r.mutePd) else none := by
      intro r
      simp only [hresponse, hbroadcast, and_true, rdmUidIsTarget_iff_of_not_broadcast hbroadcast]
    have hnodup : (s.devices.map Responder.uid).Nodup := by
      rw [← hs.uids] at huids
      exact huids
    have hfilter := @filterMap_uid_eq s.devices h.destUid
      (fun r ↦ wirePacket (r.responseHeader h rdmResponseTypeAck 8) r.mutePd) hnodup
    simp only [honly, ← hs.uids, Devices.uids]
    split_ifs at hfilter ⊢
    · obtain ⟨r, -, hr, heq⟩ := hfilter
      exact ⟨r, hr, by rw [heq]⟩
    · rw [hfilter]

/-! ## The exchanges -/

variable {cfg : SdkConfig} {c : Controller} {b : RdmDiscUniqueBranch} {a : RdmAck}

/-- The assertions about a request of a discovery are about its parameter data. -/
theorem asserts_discovery {destUid : RdmUid} {pid : BitVec 16} {f format : Option (List Char)}
    {pd : Option (List Byte)} {pdl : ℕ} (hpid : pid ≠ 0#16) (hf : rdmFormatIsValid f = some true)
    (hpd : f ≠ none ∨ pd = none) (hpdl : pd ≠ none ∨ pdl = 0) (hlt : pdl < 232)
    (hformat : rdmFormatIsValid format = some true) :
    RdmRequest.Asserts ⟨destUid, rdmSubDeviceRoot, rdmCcDiscCommand, pid, f, pd, pdl⟩ format :=
  ⟨Or.inl (show rdmSubDeviceRoot < rdmSubDeviceMax by decide), hpid,
    ⟨show rdmCcIsValid rdmCcDiscCommand = true by decide,
      show rdmCcIsRequest rdmCcDiscCommand = true by decide⟩,
    Or.inl (show rdmSubDeviceRoot ≠ rdmSubDeviceAll by decide), hf, hpd, hpdl, hlt, hformat⟩

theorem writesPd_branchRequest (c : Controller) (b : RdmDiscUniqueBranch) :
    WritesPd (c.requestHeader (branchRequest b)) (branchRequest b).format (branchRequest b).pd
      (branchPd b.lowerBound b.upperBound) := by
  have hencode : rdmFormatEncode (['u', 'u'] ++ ['$'])
      (b.lowerBound.bytes ++ b.upperBound.bytes) 12#32 false =
        some (plainSwap ['u', 'u'] (b.lowerBound.bytes ++ b.upperBound.bytes)) :=
    rdmFormatEncode_plain_end plain_uu (by decide) (by decide) le_rfl
  exact .encoded (show 12#8 ≠ 0#8 by decide) rfl rfl hencode

theorem asserts_muteRequest {pid : BitVec 16} (hpid : pid = rdmPidDiscMute ∨ pid = rdmPidDiscUnMute)
    (destUid : RdmUid) : (muteRequest pid destUid).Asserts (some ['w', 'v']) := by
  refine asserts_discovery ?_ rfl (Or.inr rfl) (Or.inr rfl) (by decide) (by decide)
  rcases hpid with rfl | rfl <;> decide

/-- The search for devices in a range, on any line that the request is sent on. -/
theorem rdmSendDiscUniqueBranch_eq {σ : Type*} (cfg : SdkConfig) {L : Line σ} (c : Controller)
    {s s' s₁ : σ} {b : RdmDiscUniqueBranch} (ack : Option RdmAck)
    (hready : L.waitSent s = (s', true))
    (hsend : L.send s' (wirePacket (c.requestHeader (branchRequest b))
      (branchPd b.lowerBound b.upperBound)) = some (s₁, true)) :
    ∃ data, rdmSendDiscUniqueBranch cfg L c s b ack =
      readResponse cfg L { c with data := data, tn := c.tn + 1 } s₁ c.data 38 none false 0 ack := by
  have hasserts : (branchRequest b).Asserts none :=
    asserts_discovery (by decide) (by decide) (Or.inl (by simp)) (Or.inl (by simp)) (by decide) rfl
  obtain ⟨data, -, heq⟩ := rdmSendRequest_eq cfg L c s s' (branchRequest b) none false 0 ack
    hasserts (show 12 < 231 by decide) (writesPd_branchRequest c b) hready
  have hnot : ¬ (rdmUidIsBroadcast (branchRequest b).destUid = true ∧
      (branchRequest b).pid ≠ rdmPidDiscUniqueBranch) := fun h ↦ h.2 rfl
  rw [hsend, Option.bind_some, if_neg Bool.true_eq_false.mp, if_neg hnot] at heq
  exact ⟨data, heq⟩

/-- Muting everybody, on any line that the request is sent on. -/
theorem sendMute_broadcast {σ : Type*} (cfg : SdkConfig) {L : Line σ} (c : Controller)
    {s s' s₁ : σ} (room : ℕ) {pid : BitVec 16}
    (hpid : pid = rdmPidDiscMute ∨ pid = rdmPidDiscUnMute) {destUid : RdmUid}
    (hdest : rdmUidIsBroadcast destUid = true) (ack : Option RdmAck)
    (hready : L.waitSent s = (s', true))
    (hsend : L.send s' (wirePacket (c.requestHeader (muteRequest pid destUid)) []) =
      some (s₁, true)) :
    ∃ x, sendMute cfg L c s room pid destUid ack = some x ∧
      x.ack = ack.map (fun _ ↦ noHeaderAck .dmxOk 0 rdmResponseTypeNone) ∧
      x.line = (L.waitSent s₁).1 := by
  obtain ⟨data, -, heq⟩ := rdmSendRequest_eq cfg L c s s' (muteRequest pid destUid)
    (some ['w', 'v']) true 8 ack (asserts_muteRequest hpid destUid) (show 0 < 231 by decide)
    (.empty rfl) hready
  have hbranch : pid ≠ rdmPidDiscUniqueBranch := by
    rcases hpid with rfl | rfl <;> decide
  have hfits : ([] : List Byte).length ≤ room := Nat.zero_le room
  rw [hsend, Option.bind_some, if_neg Bool.true_eq_false.mp, if_pos ⟨hdest, hbranch⟩] at heq
  rw [sendMute, heq, Option.bind_some]
  dsimp only
  rw [if_pos hfits]
  exact ⟨_, rfl, rfl, rfl⟩

/-- Without a destination, nothing is copied. -/
theorem exists_rdmReadPd_null (data : List Byte) : ∃ y, rdmReadPd data none false 0 = some y := by
  show ∃ y, (if ¬ true = true ∨ (slot data 23).toNat = 0 ∨ (slot data 23).toNat > 231 then
    some (0, []) else some ((slot data 23).toNat, [])) = some y
  split_ifs
  · exact ⟨_, rfl⟩
  · exact ⟨_, rfl⟩

/-- **The search for devices in a range.**  The ack says that nothing has come back if and only if
every device in the range has been muted; and nothing else changes on the line. -/
theorem exchange_branch (hdefs : ∀ uid, Discoverable (definitions uid)) (hnoise : Garbles noise)
    (hs : OnLine uids muted s) :
    ∃ x a', rdmSendDiscUniqueBranch cfg (deviceLine definitions noise) c s b (some a) = some x ∧
      x.ack = some a' ∧ OnLine uids muted x.line ∧
      (a'.type = rdmResponseTypeNone ↔ ∀ uid ∈ uids, muted uid = false →
        b.lowerBound.val ≤ uid.val → ¬ uid.val ≤ b.upperBound.val) := by
  obtain ⟨s', hsend, hs', hreception⟩ := send_branch noise b.lowerBound b.upperBound hdefs hs
    (h := c.requestHeader (branchRequest b)) ⟨rfl, rfl, rfl⟩ rfl
  obtain ⟨data, heq⟩ := rdmSendDiscUniqueBranch_eq cfg c (some a) rfl hsend
  have hnone : (uids.filter fun uid ↦ decide (muted uid = false ∧
      b.lowerBound.val ≤ uid.val ∧ uid.val ≤ b.upperBound.val)) = [] ↔
      ∀ uid ∈ uids, muted uid = false → b.lowerBound.val ≤ uid.val →
        ¬ uid.val ≤ b.upperBound.val := by
    simp only [List.filter_eq_nil_iff, decide_eq_true_eq, not_and]
  rw [← hnone]
  revert hreception
  generalize (uids.filter fun uid ↦ decide (muted uid = false ∧
    b.lowerBound.val ≤ uid.val ∧ uid.val ≤ b.upperBound.val)) = responding
  intro hreception
  match responding with
  | [] =>
    have hsize : ((deviceLine definitions noise).receive s').2.size = 0 :=
      congrArg Reception.size hreception
    obtain ⟨data', hx⟩ := readResponse_of_silent heq hsize
    exact ⟨_, _, hx, rfl, hs', iff_of_true rfl rfl⟩
  | [uid] =>
    have hsize : ((deviceLine definitions noise).receive s').2.size ≠ 0 := by
      rw [show ((deviceLine definitions noise).receive s').2.size = 24 from
        congrArg Reception.size hreception]
      decide
    have hslots : ((deviceLine definitions noise).receive s').2.slots = discoveryResponse uid :=
      congrArg Reception.slots hreception
    have hread : rdmReadHeader? (overwrite data
        ((deviceLine definitions noise).receive s').2.slots).bytes = some (discoveryAck uid) := by
      rw [hslots, bytes_overwrite (by rw [length_discoveryResponse]; decide),
        rdmReadHeader?_discoveryResponse]
    obtain ⟨y, hy⟩ := exists_rdmReadPd_null
      (overwrite data ((deviceLine definitions noise).receive s').2.slots).bytes
    obtain ⟨data', returned, a', hx, htype, -⟩ := readResponse_of_ack heq hsize hread rfl hy
    refine ⟨_, a', hx, rfl, hs', iff_of_false (by rw [htype]; decide) (List.cons_ne_nil _ _)⟩
  | uid :: uid' :: rest =>
    have hgarbled := hnoise ((uid :: uid' :: rest).map discoveryResponse) data (by simp)
    have hline : ((deviceLine definitions noise).receive s').2 =
        noise ((uid :: uid' :: rest).map discoveryResponse) := hreception
    rw [← hline] at hgarbled
    obtain ⟨data', hx⟩ := readResponse_of_unreadable heq hgarbled.1 hgarbled.2
    exact ⟨_, _, hx, rfl, hs', iff_of_false
      (show ¬ rdmResponseTypeInvalid = rdmResponseTypeNone by decide) (List.cons_ne_nil _ _)⟩

/-- **Muting everybody.**  Nobody responds. -/
theorem exchange_mute_broadcast (hdefs : ∀ uid, Discoverable (definitions uid))
    (huids : uids.Nodup) (hs : OnLine uids muted s) {pid : BitVec 16}
    (hpid : pid = rdmPidDiscMute ∨ pid = rdmPidDiscUnMute) {destUid : RdmUid}
    (hdest : rdmUidIsBroadcast destUid = true) (room : ℕ) (ack : Option RdmAck) :
    ∃ x, sendMute cfg (deviceLine definitions noise) c s room pid destUid ack = some x ∧
      x.ack = ack.map (fun _ ↦ noHeaderAck .dmxOk 0 rdmResponseTypeNone) ∧
      OnLine uids (fun uid ↦ if rdmUidIsTarget uid destUid then decide (pid = rdmPidDiscMute)
        else muted uid) x.line := by
  obtain ⟨s', hsend, hs', -⟩ := send_mute noise hdefs hs hpid
    (h := c.requestHeader (muteRequest pid destUid)) ⟨rfl, rfl, rfl⟩ huids
  obtain ⟨x, hx, hack, hline⟩ := sendMute_broadcast cfg c room hpid hdest ack rfl hsend
  refine ⟨x, hx, hack, ?_⟩
  rw [hline]
  exact hs'

/-- Reading a word and an optional UID writes eight bytes, even if there is no UID. -/
theorem rdmFormatEncode_wv (src : List Byte) {n : ℕ} (hpos : 2 ≤ n) (hle : n ≤ 8)
    (hlen : n ≤ src.length) : ∃ written,
      rdmFormatEncode ['w', 'v'] src (BitVec.ofNat 32 n) true = some written ∧
        written.length = 8 := by
  obtain ⟨k, rfl⟩ := Nat.exists_eq_add_of_le' hpos
  have hn : (BitVec.ofNat 32 (k + 2)).toNat = k + 2 := by
    rw [BitVec.toNat_ofNat, Nat.mod_eq_of_lt (by omega)]
  have hne : BitVec.ofNat 32 (k + 2) ≠ 0 := by
    intro h
    rw [h] at hn
    exact absurd hn.symm (Nat.succ_ne_zero _)
  have hsub : (BitVec.ofNat 32 (k + 2) - BitVec.ofNat 32 2).toNat = k := by
    rw [BitVec.toNat_sub_of_le (by rw [BitVec.le_def, hn]; exact Nat.le_add_left 2 k), hn]
    rfl
  have hword : ((src.take 2).reverse).length = 2 := by
    rw [List.length_reverse, List.length_take, Nat.min_eq_left (by omega)]
  have huid : ∃ written, encodeOptionalUid true (src.take 2).reverse (src.drop 2)
      (BitVec.ofNat 32 (k + 2) - BitVec.ofNat 32 2) = some written ∧ written.length = 8 := by
    have hnull : ((src.take 2).reverse ++ List.replicate sizeofRdmUid 0).length = 8 := by
      rw [List.length_append, hword, List.length_replicate]
      rfl
    rw [encodeOptionalUid, hsub, if_pos rfl]
    split_ifs with hshort hsource
    · exact ⟨_, rfl, hnull⟩
    · rw [List.length_drop] at hsource
      omega
    · exact ⟨_, rfl, hnull⟩
    · refine ⟨_, rfl, ?_⟩
      rw [List.length_append, hword, length_swapUid, List.length_take,
        Nat.min_eq_left (not_lt.mp hsource)]
      rfl
  obtain ⟨written, hwritten, hlength⟩ := huid
  refine ⟨written, ?_, hlength⟩
  rw [rdmFormatEncode_of_valid (by decide), hn, rdmFormatLoop, if_neg hne,
    rdmFormatPass_copied (c := 'w') rfl, if_pos (by omega),
    rdmFormatPass_optionalUid (c := 'v') rfl, List.nil_append, hwritten]
  rfl

/-- The parameter data of an acknowledgment are copied with a binding UID, even if it has none. -/
theorem rdmReadPd_mutePd (r : Responder) (h : RdmHeader) (rest : List Byte) :
    ∃ n written, rdmReadPd (wirePacket h r.mutePd ++ rest) (some ['w', 'v']) true 8 =
      some (n, written) ∧ written.length = 8 := by
  obtain ⟨hpdl, rest', hdrop⟩ := wirePacket_pd h r.mutePd rest
  have hle := r.length_mutePd
  have hpos := r.two_le_length_mutePd
  have hn : (BitVec.ofNat 8 r.mutePd.length).toNat = r.mutePd.length := by
    rw [BitVec.toNat_ofNat, Nat.mod_eq_of_lt (by omega)]
  have hvalid : rdmFormatIsValid (some ['w', 'v']) = some true := by decide
  obtain ⟨written, hwritten, hlength⟩ := rdmFormatEncode_wv (r.mutePd ++ rest') hpos hle
    (by rw [List.length_append]; exact Nat.le_add_right _ _)
  refine ⟨r.mutePd.length, written, ?_, hlength⟩
  have hskip : ¬ (¬ True ∨ r.mutePd.length = 0 ∨ r.mutePd.length > 231) := by
    rw [not_true, false_or]
    omega
  rw [rdmReadPd, hvalid, hpdl, hdrop]
  simp only [Option.bind_eq_bind, Option.bind_some, hn, if_true, Nat.min_eq_left hle, hwritten]
  exact if_neg hskip

/-- **Muting one device.**  If it is on the line it acknowledges, as long as the eight bytes of its
parameter data fit where they are copied to; and if it is not, nothing comes back. -/
theorem exchange_mute (hdefs : ∀ uid, Discoverable (definitions uid))
    (huids : uids.Nodup) (hs : OnLine uids muted s) {destUid : RdmUid}
    (hdest : rdmUidIsBroadcast destUid = false) (room : ℕ) (a : RdmAck) :
    if destUid ∈ uids then
      if 8 ≤ room then ∃ x a', rdmSendDiscMute cfg (deviceLine definitions noise) c s room destUid
          (some a) = some x ∧ x.ack = some a' ∧ a'.type = rdmResponseTypeAck ∧
          a'.srcUid = destUid ∧ OnLine uids (fun uid ↦ decide (uid = destUid) || muted uid) x.line
      else rdmSendDiscMute cfg (deviceLine definitions noise) c s room destUid (some a) = none
    else ∃ x a', rdmSendDiscMute cfg (deviceLine definitions noise) c s room destUid (some a) =
      some x ∧ x.ack = some a' ∧ a'.type = rdmResponseTypeNone ∧ OnLine uids muted x.line := by
  obtain ⟨data, hbytes, heq⟩ := rdmSendRequest_eq cfg (deviceLine definitions noise) c s s
    (muteRequest rdmPidDiscMute destUid) (some ['w', 'v']) true 8 (some a)
    (asserts_muteRequest (Or.inl rfl) destUid) (show 0 < 231 by decide) (.empty rfl) rfl
  obtain ⟨s', hsend, hs', hreception⟩ := send_mute noise hdefs hs (Or.inl rfl)
    (h := c.requestHeader (muteRequest rdmPidDiscMute destUid)) ⟨rfl, rfl, rfl⟩ huids
  have hreception := hreception hdest
  have hnot : ¬ (rdmUidIsBroadcast (muteRequest rdmPidDiscMute destUid).destUid = true ∧
      (muteRequest rdmPidDiscMute destUid).pid ≠ rdmPidDiscUniqueBranch) := by
    intro h
    have hbroadcast : rdmUidIsBroadcast destUid = true := h.1
    rw [hdest] at hbroadcast
    exact Bool.false_ne_true hbroadcast
  have htarget : ∀ uid, (if rdmUidIsTarget uid
      (c.requestHeader (muteRequest rdmPidDiscMute destUid)).destUid then
        decide (rdmPidDiscMute = rdmPidDiscMute) else muted uid) =
      (decide (uid = destUid) || muted uid) := by
    intro uid
    show (if rdmUidIsTarget uid destUid then true else muted uid) = _
    by_cases huid : uid = destUid
    · rw [if_pos ((rdmUidIsTarget_iff_of_not_broadcast hdest).mpr huid), decide_eq_true huid,
        Bool.true_or]
    · rw [if_neg fun h ↦ huid ((rdmUidIsTarget_iff_of_not_broadcast hdest).mp h),
        decide_eq_false huid, Bool.false_or]
  rw [funext htarget] at hs'
  rw [hsend, Option.bind_some, if_neg Bool.true_eq_false.mp, if_neg hnot] at heq
  change if destUid ∈ uids then _ else _ at hreception
  by_cases hmem : destUid ∈ uids
  · rw [if_pos hmem] at hreception ⊢
    obtain ⟨r, hr, hreception⟩ := hreception
    set response := wirePacket (r.responseHeader (c.requestHeader
      (muteRequest rdmPidDiscMute destUid)) rdmResponseTypeAck 8) r.mutePd with hresponse
    have hlength : response.length = 26 + r.mutePd.length := length_wirePacket
    have hle := r.length_mutePd
    have hline : ((deviceLine definitions noise).receive s').2 =
        ⟨.dmxOk, response.length, response⟩ := hreception
    have hsize : ((deviceLine definitions noise).receive s').2.size ≠ 0 := by
      rw [hline, hlength]
      exact Nat.succ_ne_zero _
    have hbuffer : (overwrite data ((deviceLine definitions noise).receive s').2.slots).bytes =
        response ++ data.bytes.drop response.length := by
      have hfits : response.length ≤ dmxPacketSize := by
        rw [hlength]
        exact (Nat.add_le_add_left hle 26).trans (by decide)
      rw [hline, bytes_overwrite hfits]
    have hread := rdmReadHeader?_wirePacket (h := r.responseHeader
      (c.requestHeader (muteRequest rdmPidDiscMute destUid)) rdmResponseTypeAck 8)
      (hle.trans (by decide)) (data.bytes.drop response.length)
    obtain ⟨n, written, hpd, hwritten⟩ := rdmReadPd_mutePd r (r.responseHeader
      (c.requestHeader (muteRequest rdmPidDiscMute destUid)) rdmResponseTypeAck 8)
      (data.bytes.drop response.length)
    rw [← hresponse, ← hbuffer] at hread hpd
    obtain ⟨data', returned, a', hx, htype, hsrc⟩ := readResponse_of_ack heq hsize hread rfl hpd
    rw [rdmSendDiscMute, sendMute, hx, Option.bind_some]
    dsimp only
    rw [hwritten]
    split_ifs
    · exact ⟨_, a', rfl, rfl, htype, hsrc.trans hr, hs'⟩
    · rfl
  · rw [if_neg hmem] at hreception ⊢
    have hsize : ((deviceLine definitions noise).receive s').2.size = 0 :=
      congrArg Reception.size hreception
    obtain ⟨data', hx⟩ := readResponse_of_silent heq hsize
    have hmuted : ∀ uid ∈ uids, (decide (uid = destUid) || muted uid) = muted uid := by
      intro uid huid
      have hne : uid ≠ destUid := by
        rintro rfl
        exact hmem huid
      rw [decide_eq_false hne, Bool.false_or]
    have hfits : ([] : List Byte).length ≤ room := Nat.zero_le room
    rw [rdmSendDiscMute, sendMute, hx, Option.bind_some]
    dsimp only
    rw [if_pos hfits]
    exact ⟨_, _, rfl, rfl, rfl, hs'.congr hmuted⟩

/-! ## Two devices -/

theorem rdmReadHeader?_zero (data : Buffer Byte dmxPacketSize) :
    rdmReadHeader? (overwrite data [0]).bytes = none := by
  rw [bytes_overwrite (by decide)]
  rfl

/-- Two devices, the one with the higher UID first. -/
def twoDevices : Devices :=
  ⟨[deviceReceiving [], { deviceReceiving [] with uid := ⟨0x05e0, 3⟩ }], ⟨.dmxOk, 0, []⟩⟩

/-- A collision that comes to a single slot. -/
def unreadableNoise (_ : List (List Byte)) : Reception := ⟨.dmxErrImproperSlot, 1, [0]⟩

theorem garbles_unreadableNoise : Garbles unreadableNoise := by
  intro _ data _
  exact ⟨Nat.one_ne_zero, rdmReadHeader?_zero data⟩

end BedroomLights
