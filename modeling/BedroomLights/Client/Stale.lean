import BedroomLights.Client.Datagram

/-!
# Does a report depend on the datagram only?

The receive buffer is reused and never cleared, and `decode_packet` checks the size that a packet
declares, not the length that was received.  A datagram with a complete header that declares five
bytes of payload but does not bring all of them is therefore delivered with bytes of an earlier
datagram in their place.  These are the only datagrams of which the report depends on anything
else (`report_independent_iff`).
-/

set_option autoImplicit false

namespace BedroomLights

/-- A client after a series of polls. -/
def pollAll (client : LxClient) (history : List RecvFrom) : LxClient :=
  history.foldl (fun client recv ↦ (lxClientPoll client recv).1) client

/-- The receive buffer can hold anything at all: one datagram is enough to fill it. -/
theorem exists_pollAll_eq (client : LxClient) (buf : Buffer Byte rxBufSz) :
    ∃ history, pollAll client history = { client with rxBuf := buf } := by
  refine ⟨[.received .afInet buf.bytes 0 0], ?_⟩
  have htake : buf.bytes.take rxBufSz = buf.bytes := List.take_of_length_le buf.length_bytes.le
  have hstore : RecvFrom.store (.received .afInet buf.bytes 0 0) client.rxBuf = buf :=
    Buffer.ext (by
      rw [RecvFrom.store, Buffer.bytes_write_all _ _ (by rw [htake, buf.length_bytes]), htake])
  rw [pollAll, List.foldl_cons, List.foldl_nil, lxClientPoll_eq, hstore]

/-- The buffer after a datagram: its bytes, and then what was there before. -/
theorem bytes_store {d : List Byte} (hd : d.length ≤ rxBufSz) (family : AddressFamily)
    (port : BitVec 16) (ipAddr : BitVec 32) (rxBuf : Buffer Byte rxBufSz) :
    (RecvFrom.store (.received family d port ipAddr) rxBuf).bytes =
      d ++ rxBuf.bytes.drop d.length := by
  have htake : d.take rxBufSz = d := List.take_of_length_le hd
  simp only [RecvFrom.store, Buffer.bytes_write, List.take_zero, List.nil_append, Nat.zero_add,
    htake]

/-- A payload that has been received in full is read back. -/
theorem payload_of_le {d : List Byte} (hlen : 41 ≤ d.length) (rest : List Byte) :
    ((d ++ rest).drop 36).take 5 = (d.drop 36).take 5 := by
  rw [List.drop_append_of_le_length (by omega),
    List.take_append_of_le_length (by rw [List.length_drop]; omega)]

/-- The last byte of a payload that has not been received in full is an old one. -/
theorem payload_getElem?_four {d : List Byte} (hlen : d.length < 41) (x : Byte) :
    (((d ++ (List.replicate rxBufSz x).drop d.length).drop 36).take 5)[4]? = some x := by
  have hsize : rxBufSz = 1024 := rfl
  rw [List.getElem?_take, if_pos (by decide), List.getElem?_drop,
    List.getElem?_append_right (by omega), List.getElem?_drop, List.getElem?_replicate,
    if_pos (by omega)]

/-- **When a report depends on the datagram only**: whatever has been polled before, on whatever
memory the client was created, the report of a datagram is the same, if and only if it is not one
that declares a payload it does not bring in full. -/
theorem report_independent_iff (d : List Byte) (hd : d.length ≤ rxBufSz) :
    (∀ (client : LxClient) (history history' : List RecvFrom) (family : AddressFamily)
      (port : BitVec 16) (ipAddr : BitVec 32),
      pollReport (pollAll client history) (.received family d port ipAddr) =
        pollReport (pollAll client history') (.received family d port ipAddr)) ↔
      ¬ (DeclaresStateService d ∧ d.length < 41) := by
  refine ⟨?_, ?_⟩
  · rintro hall ⟨hdecl, hlen⟩
    have hacc : (RecvFrom.received .afInet d 0 0).Accepted :=
      ⟨rfl, by rwa [List.take_of_length_le hd]⟩
    obtain ⟨history, hzero⟩ := exists_pollAll_eq ⟨0, 0, .fill _ 0⟩ (.fill rxBufSz 0#8)
    obtain ⟨history', hone⟩ := exists_pollAll_eq ⟨0, 0, .fill _ 0⟩ (.fill rxBufSz 1#8)
    have h := hall ⟨0, 0, .fill _ 0⟩ history history' .afInet 0 0
    rw [hzero, hone, pollReport_eq, pollReport_eq, if_pos hacc, if_pos hacc, bytes_store hd,
      bytes_store hd, Buffer.bytes_fill, Buffer.bytes_fill, Option.some_inj,
      Report.msgRx.injEq, Option.some_inj] at h
    have hlast := congrArg (fun l : List Byte ↦ l[4]?) h.2
    simp only [payload_getElem?_four hlen] at hlast
    exact absurd hlast (by decide)
  · intro hno client history history' family port ipAddr
    rw [pollReport_eq, pollReport_eq]
    by_cases hacc : (RecvFrom.received family d port ipAddr).Accepted
    · have hdecl : DeclaresStateService d := List.take_of_length_le hd ▸ hacc.2
      have hlen : 41 ≤ d.length := Nat.le_of_not_lt fun hlt ↦ hno ⟨hdecl, hlt⟩
      rw [if_pos hacc, if_pos hacc, bytes_store hd, bytes_store hd, payload_of_le hlen,
        payload_of_le hlen]
    · rw [if_neg hacc, if_neg hacc]

theorem report_independent_iff_of_header :
    (∀ (client : LxClient) (history history' : List RecvFrom) (family : AddressFamily)
      (port : BitVec 16) (ipAddr : BitVec 32),
      pollReport (pollAll client history) (.received family stateServiceHeader port ipAddr) =
        pollReport (pollAll client history') (.received family stateServiceHeader port ipAddr)) ↔
      ¬ (DeclaresStateService stateServiceHeader ∧ stateServiceHeader.length < 41) :=
  report_independent_iff stateServiceHeader (by decide)

/-- A bare header is reported with the payload of the message that was received before it. -/
theorem not_report_independent : ¬ ∀ (d : List Byte), d.length ≤ rxBufSz →
    ∀ (client : LxClient) (history history' : List RecvFrom) (family : AddressFamily)
      (port : BitVec 16) (ipAddr : BitVec 32),
      pollReport (pollAll client history) (.received family d port ipAddr) =
        pollReport (pollAll client history') (.received family d port ipAddr) := by
  intro hall
  have h := hall stateServiceHeader (by decide) ⟨0, 3, .fill _ 0⟩ []
    [.received .afInet (stateServiceHeader ++ udpServicePayload) 56700 0] .afInet
    56700 0
  revert h
  decide +kernel

end BedroomLights
