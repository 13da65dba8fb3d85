import BedroomLights.Client.Datagram

/-!
# Which datagrams are accepted

`DeclaresStateService` decides over a decoded header.  Here the same decision is put in terms of
the bytes in the receive buffer and of the length that was received, which is all that the client
has (`IsStateService`).  The two part company over datagrams that declare more than they bring; on
the others the client accepts exactly the well-formed ones (`poll_exact`).
-/

set_option autoImplicit false

open LittleEndian

namespace BedroomLights

/-! ## The decision in bytes -/

/-- The little-endian number in `len` bytes of the receive buffer, from `off` on. -/
def field (buf : Buffer Byte rxBufSz) (off len : ℕ) : ℕ := leVal ((buf.bytes.drop off).take len)

/-- The `n` bytes received are, or start with, a complete `STATE_SERVICE` message. -/
structure IsStateService (buf : Buffer Byte rxBufSz) (n : ℕ) : Prop where
  /-- All of it has been received. -/
  len : 41 ≤ n
  /-- The low 12 bits; the other four are flags. -/
  protocol : field buf 2 2 % 2 ^ 12 = 1024
  type : field buf 32 2 = 3
  size : field buf 0 2 = 41

instance (buf : Buffer Byte rxBufSz) (n : ℕ) : Decidable (IsStateService buf n) :=
  decidable_of_iff
    (41 ≤ n ∧ field buf 2 2 % 2 ^ 12 = 1024 ∧ field buf 32 2 = 3 ∧ field buf 0 2 = 41)
    ⟨fun ⟨hlen, hprotocol, htype, hsize⟩ ↦ ⟨hlen, hprotocol, htype, hsize⟩,
      fun h ↦ ⟨h.len, h.protocol, h.type, h.size⟩⟩

/-- The datagram has no header, or all of the bytes that its header declares. -/
def Untruncated (buf : Buffer Byte rxBufSz) (n : ℕ) : Prop := n < 36 ∨ field buf 0 2 ≤ n

/-- The bytes of a member of the header are bytes of the buffer. -/
theorem leVal_slice_header (buf : Buffer Byte rxBufSz) {off len : ℕ}
    (h : off + len ≤ sizeofLxProtocolHeader) :
    leVal ((buf.slice 0 sizeofLxProtocolHeader (by decide)).slice off len h).bytes =
      field buf off len := by
  rw [Buffer.bytes_slice_slice, Nat.zero_add, field]

theorem bufHeader_eq_iff (buf : Buffer Byte rxBufSz) :
    ((bufHeader buf).protocol = 1024#12 ↔ field buf 2 2 % 2 ^ 12 = 1024) ∧
    ((bufHeader buf).type = lxPacketStateService ↔ field buf 32 2 = 3) ∧
    ((bufHeader buf).size = 41#16 ↔ field buf 0 2 = 41) := by
  rw [← leVal_slice_header buf (by decide), ← leVal_slice_header buf (by decide),
    ← leVal_slice_header buf (by decide)]
  exact ⟨extractLsb'_readLe_eq_ofNat_iff (by decide) (by decide),
    readLe_eq_ofNat_iff (by decide) (by decide), readLe_eq_ofNat_iff (by decide) (by decide)⟩

/-- What a datagram declares, once it is in the buffer. -/
theorem declaresStateService_iff (rxBuf : Buffer Byte rxBufSz) {d : List Byte}
    (hw : 0 + d.length ≤ rxBufSz) :
    DeclaresStateService d ↔ 36 ≤ d.length ∧ field (rxBuf.write 0 d hw) 2 2 % 2 ^ 12 = 1024 ∧
      field (rxBuf.write 0 d hw) 32 2 = 3 ∧ field (rxBuf.write 0 d hw) 0 2 = 41 := by
  obtain ⟨hprotocol, htype, hsize⟩ := bufHeader_eq_iff (rxBuf.write 0 d hw)
  rw [← hprotocol, ← htype, ← hsize]
  refine ⟨?_, ?_⟩
  · rintro ⟨hlen, h⟩
    rw [bufHeader_write rxBuf hw hlen]
    exact ⟨hlen, h⟩
  · rintro ⟨hlen, h⟩
    rw [bufHeader_write rxBuf hw hlen] at h
    exact ⟨hlen, h⟩

/-- On a datagram that is not truncated, what is declared has been received. -/
theorem declaresStateService_iff_isStateService (rxBuf : Buffer Byte rxBufSz) {d : List Byte}
    (hw : 0 + d.length ≤ rxBufSz) (hd : Untruncated (rxBuf.write 0 d hw) d.length) :
    DeclaresStateService d ↔ IsStateService (rxBuf.write 0 d hw) d.length := by
  rw [declaresStateService_iff rxBuf hw]
  refine ⟨?_, ?_⟩
  · rintro ⟨hlen, hprotocol, htype, hsize⟩
    refine ⟨?_, hprotocol, htype, hsize⟩
    rcases hd with hshort | hall
    · exact absurd hlen (Nat.not_le.mpr hshort)
    · rwa [hsize] at hall
  · intro h
    exact ⟨(by decide : 36 ≤ 41).trans h.len, h.protocol, h.type, h.size⟩

/-! ## The outcome of a poll -/

/-- Any `n` bytes can be received, with anything in the rest of the buffer. -/
theorem exists_lxUdpRx_eq (buf : Buffer Byte rxBufSz) {n : ℕ} (hn : n ≤ rxBufSz) :
    ∃ (client : LxClient) (recv : RecvFrom), lxUdpRx recv client.rxBuf = (.lxOk n 0 0, buf) := by
  have htake : (buf.bytes.take n).take rxBufSz = buf.bytes.take n := by
    rw [List.take_take, Nat.min_eq_right hn]
  have hlen : (buf.bytes.take n).length = n := by
    rw [List.length_take, buf.length_bytes, Nat.min_eq_left hn]
  refine ⟨⟨0, 0, buf⟩, .received .afInet (buf.bytes.take n) 0 0, ?_⟩
  have hstore : RecvFrom.store (.received .afInet (buf.bytes.take n) 0 0) buf = buf :=
    Buffer.ext (by
      simp only [RecvFrom.store, Buffer.bytes_write, htake, hlen, List.take_zero, List.nil_append,
        Nat.zero_add, List.take_append_drop])
  simp only [lxUdpRx, hstore, htake, hlen, ne_eq, not_true_eq_false, if_false]

/-- What a successful `lx_udp_rx` says about `recvfrom`. -/
theorem lxUdpRx_eq_lxOk {recv : RecvFrom} {rxBuf buf : Buffer Byte rxBufSz} {n : ℕ}
    {port : BitVec 16} {ipAddr : BitVec 32} (h : lxUdpRx recv rxBuf = (.lxOk n port ipAddr, buf)) :
    ∃ data : List Byte, recv = .received .afInet data port ipAddr ∧ recv.store rxBuf = buf ∧
      (data.take rxBufSz).length = n := by
  cases recv with
  | failed errno => cases errno <;> simp [lxUdpRx] at h
  | received family data port' ipAddr' =>
    cases family with
    | other => simp [lxUdpRx] at h
    | afInet =>
      simp only [lxUdpRx, ne_eq, not_true_eq_false, if_false, Prod.mk.injEq, UdpRx.lxOk.injEq] at h
      obtain ⟨⟨hlen, rfl, rfl⟩, hstore⟩ := h
      exact ⟨data, rfl, hstore, hlen⟩

/-- **What is accepted**: of the datagrams that are not truncated, the complete messages. -/
theorem pollReport_of_lxOk {client : LxClient} {recv : RecvFrom} {buf : Buffer Byte rxBufSz} {n : ℕ}
    {port : BitVec 16} {ipAddr : BitVec 32}
    (h : lxUdpRx recv client.rxBuf = (.lxOk n port ipAddr, buf)) (hn : Untruncated buf n) :
    pollReport client recv = if IsStateService buf n then
      some (.msgRx lxPacketStateService (some ((buf.bytes.drop 36).take 5))) else none := by
  obtain ⟨data, rfl, rfl, rfl⟩ := lxUdpRx_eq_lxOk h
  have hw : 0 + (data.take rxBufSz).length ≤ rxBufSz := by rw [List.length_take]; omega
  have hacc : (RecvFrom.received .afInet data port ipAddr).Accepted ↔ IsStateService
      ((RecvFrom.received .afInet data port ipAddr).store client.rxBuf)
      (data.take rxBufSz).length :=
    (and_iff_right rfl).trans (declaresStateService_iff_isStateService client.rxBuf hw hn)
  have hok : ¬ (RecvFrom.received .afInet data port ipAddr).Error := fun herr ↦ herr rfl
  rw [pollReport_eq, if_neg hok, if_congr hacc rfl rfl]

theorem pollReport_of_lxTimeout {client : LxClient} {recv : RecvFrom} {buf : Buffer Byte rxBufSz}
    (h : lxUdpRx recv client.rxBuf = (.lxTimeout, buf)) : pollReport client recv = none := by
  rw [pollReport, lxClientPoll, h]
  rfl

theorem pollReport_of_lxErr {client : LxClient} {recv : RecvFrom} {buf : Buffer Byte rxBufSz}
    (h : lxUdpRx recv client.rxBuf = (.lxErr, buf)) :
    pollReport client recv = some (.err .lxErr) := by
  rw [pollReport, lxClientPoll, h]
  rfl

/-- Two receptions that differ at most in the four flags, in the members of the header that nobody
looks at, and in what follows the message. -/
structure SameMessage (buf buf' : Buffer Byte rxBufSz) (n n' : ℕ) : Prop where
  header : 36 ≤ n ↔ 36 ≤ n'
  protocol : field buf 2 2 % 2 ^ 12 = field buf' 2 2 % 2 ^ 12
  type : field buf 32 2 = field buf' 32 2
  size : field buf 0 2 = field buf' 0 2
  /-- The payload has the same bytes, as many as the header declares. -/
  payload : (buf.bytes.drop 36).take (field buf 0 2 - 36) =
    (buf'.bytes.drop 36).take (field buf 0 2 - 36)

theorem SameMessage.symm {buf buf' : Buffer Byte rxBufSz} {n n' : ℕ}
    (h : SameMessage buf buf' n n') : SameMessage buf' buf n' n :=
  ⟨h.header.symm, h.protocol.symm, h.type.symm, h.size.symm, h.size ▸ h.payload.symm⟩

theorem SameMessage.isStateService {buf buf' : Buffer Byte rxBufSz} {n n' : ℕ}
    (h : SameMessage buf buf' n n') (hn' : Untruncated buf' n') (hbuf : IsStateService buf n) :
    IsStateService buf' n' := by
  have hheader : 36 ≤ n' := h.header.mp ((by decide : 36 ≤ 41).trans hbuf.len)
  have hsize : field buf' 0 2 = 41 := h.size.symm.trans hbuf.size
  refine ⟨?_, h.protocol.symm.trans hbuf.protocol, h.type.symm.trans hbuf.type, hsize⟩
  rcases hn' with hshort | hall
  · exact absurd hheader (Nat.not_le.mpr hshort)
  · rwa [hsize] at hall

/-- Such receptions are reported alike. -/
theorem SameMessage.pollReport_eq {client client' : LxClient} {recv recv' : RecvFrom}
    {buf buf' : Buffer Byte rxBufSz} {n n' : ℕ} {port port' : BitVec 16}
    {ipAddr ipAddr' : BitVec 32}
    (h : SameMessage buf buf' n n') (hrx : lxUdpRx recv client.rxBuf = (.lxOk n port ipAddr, buf))
    (hrx' : lxUdpRx recv' client'.rxBuf = (.lxOk n' port' ipAddr', buf'))
    (hn : Untruncated buf n) (hn' : Untruncated buf' n') :
    pollReport client recv = pollReport client' recv' := by
  have hiff : IsStateService buf n ↔ IsStateService buf' n' :=
    ⟨h.isStateService hn', h.symm.isStateService hn⟩
  rw [pollReport_of_lxOk hrx hn, pollReport_of_lxOk hrx' hn']
  by_cases hbuf : IsStateService buf n
  · have hpayload := h.payload
    rw [hbuf.size] at hpayload
    rw [if_pos hbuf, if_pos (hiff.mp hbuf), hpayload]
  · rw [if_neg hbuf, if_neg fun hbuf' ↦ hbuf (hiff.mpr hbuf')]

/-- What a poll makes of the `n` bytes that `lx_udp_rx` has put into the buffer. -/
structure AcceptsExactly (client : LxClient) (recv : RecvFrom) (buf : Buffer Byte rxBufSz)
    (n : ℕ) : Prop where
  /-- One callback with the message, or none. -/
  report : pollReport client recv = if IsStateService buf n then
    some (.msgRx lxPacketStateService (some ((buf.bytes.drop 36).take 5))) else none
  /-- A declared size below that of a header does not pass for a large payload. -/
  size_lt : field buf 0 2 < 36 → pollReport client recv = none
  /-- A stale header is not taken for one that has been received. -/
  len_lt : n < 36 → pollReport client recv = none
  /-- Flags and trailing bytes do not count. -/
  same : ∀ {client' : LxClient} {recv' : RecvFrom} {buf' : Buffer Byte rxBufSz} {n' : ℕ}
    {port : BitVec 16} {ipAddr : BitVec 32}, lxUdpRx recv' client'.rxBuf =
      (.lxOk n' port ipAddr, buf') → Untruncated buf' n' → SameMessage buf buf' n n' →
        pollReport client' recv' = pollReport client recv

/-- **What a poll accepts**: a timeout makes no callback and an error makes one; of the datagrams
that are not truncated, exactly the complete `STATE_SERVICE` messages are reported, once each. -/
theorem poll_exact {client : LxClient} {recv : RecvFrom} {err : UdpRx} {buf : Buffer Byte rxBufSz}
    (h : lxUdpRx recv client.rxBuf = (err, buf)) :
    (∀ n port ipAddr, err = .lxOk n port ipAddr → Untruncated buf n →
      AcceptsExactly client recv buf n) ∧
    (err = .lxTimeout → pollReport client recv = none) ∧
    (err = .lxErr → pollReport client recv = some (.err .lxErr)) := by
  refine ⟨?_, fun herr ↦ pollReport_of_lxTimeout (herr ▸ h),
    fun herr ↦ pollReport_of_lxErr (herr ▸ h)⟩
  rintro n port ipAddr rfl hn
  have hreport := pollReport_of_lxOk h hn
  refine ⟨hreport, ?_, ?_, fun hrx' hn' hsame ↦ (hsame.pollReport_eq h hrx' hn hn').symm⟩
  · intro hlt
    have hno : ¬ IsStateService buf n := fun hbuf ↦ by rw [hbuf.size] at hlt; omega
    rw [hreport, if_neg hno]
  · intro hlt
    have hno : ¬ IsStateService buf n := fun hbuf ↦ by have := hbuf.len; omega
    rw [hreport, if_neg hno]

/-- A message with three more bytes behind it is one of them, whatever the buffer is filled with. -/
theorem poll_exact_of_udpService :
    pollReport ⟨0, 3, .fill _ 0xAA⟩ (.received .afInet
      (stateServiceHeader ++ udpServicePayload ++ [1, 2, 3]) 56700 0) =
        some (.msgRx lxPacketStateService (some udpServicePayload)) := by
  have h := ((@poll_exact ⟨0, 3, .fill _ 0xAA⟩ (.received .afInet
    (stateServiceHeader ++ udpServicePayload ++ [1, 2, 3]) 56700 0) _ _ rfl).1 44 56700 0 rfl
      (Or.inr (by decide +kernel))).report
  rw [if_pos (by decide +kernel)] at h
  rw [h]
  decide +kernel

end BedroomLights
