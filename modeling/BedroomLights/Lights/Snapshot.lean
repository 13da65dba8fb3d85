import BedroomLights.Lights.Follow
import BedroomLights.Transition.Transmitter

/-!
# Every packet is a snapshot of the buffer

The driver copies a packet out of its buffer in chunks, at times of its own, and `app_loop` may
write to the buffer in between.  What goes out is nevertheless what the buffer held at one moment,
the interrupt that copies the first chunk: the driver refines a `Transmitter`, which takes its
packets at once (`exists_transmitter`).  Two things follow for the whole wire.

* `transmitEvents_eq`: a run is one cycle of start, first chunk and end after another.  None is sent
  twice, none overlaps with another, and each is the snapshot taken at its own first chunk, or the
  beginning of it when the UART has run dry before the rest was given to it.
* `wire_history`: seen over the whole run, the wire carries the frame of the boot position for a
  while and from then on the other one.  It changes at most once.
-/

set_option autoImplicit false

open Transition

namespace BedroomLights

/-! ## What a run shows of the transmitter -/

/-- The interrupt that copies the first chunk of a packet. -/
def TakesFirstChunk (s : Sys) : Action → Prop
  | .dmxTimerIsr _ => s.lights.driver.timerRunning = true ∧ s.lights.driver.status = .sending ∧
      s.lights.driver.progress ≠ .inBreak
  | _ => False

/-- The interrupt that completes a packet: all of it has been sent. -/
def CompletesPacket (s : Sys) : Action → Prop
  | .dmxUartIsrTxDone => s.lights.driver.intrTxDone = true ∧
      s.lights.driver.head = s.lights.driver.size
  | _ => False

/-- The interrupt that ends a packet of which slots are still to be given to the UART. -/
def EndsEarly (s : Sys) : Action → Prop
  | .dmxUartIsrTxDone => s.lights.driver.intrTxDone = true ∧
      s.lights.driver.head ≠ s.lights.driver.size
  | _ => False

instance (s : Sys) : (a : Action) → Decidable (TakesFirstChunk s a)
  | .dmxTimerIsr _ => inferInstanceAs (Decidable (_ ∧ _ ∧ _))
  | .loop _ | .event _ | .dmxUartIsrTxData _ | .dmxUartIsrTxDone =>
    inferInstanceAs (Decidable False)

instance (s : Sys) : (a : Action) → Decidable (CompletesPacket s a)
  | .dmxUartIsrTxDone => inferInstanceAs (Decidable (_ ∧ _))
  | .loop _ | .event _ | .dmxTimerIsr _ | .dmxUartIsrTxData _ => inferInstanceAs (Decidable False)

instance (s : Sys) : (a : Action) → Decidable (EndsEarly s a)
  | .dmxUartIsrTxDone => inferInstanceAs (Decidable (_ ∧ _))
  | .loop _ | .event _ | .dmxTimerIsr _ | .dmxUartIsrTxData _ => inferInstanceAs (Decidable False)

/-- The events of a step: a packet is started, its first chunk is copied, or it ends. -/
def transmitEvents (s : Sys) (a : Action) : List (TransmitEvent (List Byte)) :=
  if StartsPacket s a then [.start]
  else if TakesFirstChunk s a then [.take s.lights.driver.data.bytes]
  else if CompletesPacket s a then [.finish]
  else if EndsEarly s a then [.abort]
  else []

/-! ## The driver refines a transmitter -/

/-- How far the driver is with a packet, for somebody who does not see the chunks. -/
inductive PhaseOf (d : DmxDriver) : Phase (List Byte) → Prop where
  | idle (status : d.status ≠ .sending) : PhaseOf d .idle
  | started (status : d.status = .sending) (timer : d.timerRunning = true) : PhaseOf d .started
  /-- What has gone out so far is the beginning of the snapshot, whatever is in the buffer now. -/
  | taken (level : SwitchState) (status : d.status = .sending) (timer : d.timerRunning = false)
    (nine : 9 ≤ d.head) (wire : d.wire = (frameOf level).take d.head) :
    PhaseOf d (.taken (frameOf level))

/-- The driver is this transmitter, for somebody who does not see the chunks. -/
structure Refines (d : DmxDriver) (t : Transmitter (List Byte)) : Prop where
  buffer : t.buffer = d.data.bytes
  phase : PhaseOf d t.phase
  packets : d.packets = completed t.ended

/-- What the program writes to the buffer. -/
def WritesOther (b : Boot) (_ frame : List Byte) : Prop := frame = frameOf b.level.other

/-- From `t` to the driver `d'` is a step of the transmitter. -/
def Simulates (b : Boot) (t : Transmitter (List Byte)) (new : List (TransmitEvent (List Byte)))
    (d' : DmxDriver) : Prop :=
  ∃ t', Refines d' t' ∧ Transmitter.Step (WritesOther b) t new t'

variable {cfg : SdkConfig} {lt : Lifetime} {b : Boot} {act : ℕ → Action} {k : ℕ} {s s' : Sys}
  {a : Action} {d : DmxDriver} {t : Transmitter (List Byte)}

theorem Refines.skip (h : Refines d t) : Simulates b t [] d := ⟨t, h, .skip⟩

theorem Refines.write (h : Refines d t) {data : Buffer Byte dmxPacketSize}
    (hdata : data.bytes = frameOf b.level.other) :
    Simulates b t [] { d with data := data } := by
  refine ⟨{ t with buffer := data.bytes }, ⟨rfl, ?_, h.packets⟩, .write hdata⟩
  have hphase := h.phase
  generalize t.phase = phase at hphase ⊢
  cases hphase with
  | idle status => exact .idle status
  | started status timer => exact .started status timer
  | taken level status timer nine wire => exact .taken level status timer nine wire

/-- `dmx_send_num` starts a packet, unless one is still being sent. -/
theorem Refines.dmxSendNum (h : Refines d t) (hd : DriverInv d) :
    Simulates b t (if (dmxSendNum d dmxPacketSize).2 ≠ 0 then [.start] else [])
      (dmxSendNum d dmxPacketSize).1 := by
  by_cases hs : d.status = .sending
  · rw [BedroomLights.dmxSendNum, if_pos hs]
    exact h.skip
  · have hphase := h.phase
    generalize hp : t.phase = phase at hphase
    cases hphase with
    | idle =>
      have hnot : ¬ rdmReadHeader d.data.bytes = true := by simp [hd.data.not_rdm]
      rw [BedroomLights.dmxSendNum, if_neg hs, if_neg hnot]
      exact ⟨{ t with phase := .started }, ⟨h.buffer, .started rfl rfl, h.packets⟩, .start hp⟩
    | started status => exact absurd status hs
    | taken level status => exact absurd status hs

theorem Refines.dmxTimerIsr (h : Refines d t) (hd : DriverInv d) (room : EmptyFifo) :
    Simulates b t (if d.timerRunning = true ∧ d.status = .sending ∧ d.progress ≠ .inBreak then
      [.take d.data.bytes] else []) (dmxTimerIsr d room) := by
  obtain ⟨buffer, phase, ended⟩ := t
  rw [BedroomLights.dmxTimerIsr]
  cases h.phase with
  | idle status =>
    rw [if_neg fun h ↦ status h.2.1]
    split_ifs
    · exact ⟨_, ⟨h.buffer, .idle status, h.packets⟩, .skip⟩
    · exact h.skip
  | started status timer =>
    rw [if_pos timer, if_pos status]
    by_cases hbreak : d.progress = .inBreak
    · -- the end of the break
      rw [if_neg fun h ↦ h.2.2 hbreak, if_pos hbreak]
      exact ⟨_, ⟨h.buffer, .started status timer, h.packets⟩, .skip⟩
    · rw [if_pos ⟨timer, status, hbreak⟩, if_neg hbreak]
      obtain ⟨level, hlevel⟩ := hd.data
      cases hd.transmission with
      | idle hno => exact absurd status hno
      | body _ _ _ hno => exact absurd (timer.symm.trans hno) (by simp)
      | head _ size _ _ _ wire =>
        have htake :=
          Transmitter.Step.take (W := WritesOther b) (t := ⟨buffer, .started, ended⟩) rfl
        rw [← show buffer = d.data.bytes from h.buffer]
        refine ⟨⟨buffer, .taken buffer, ended⟩, ⟨h.buffer, ?_, h.packets⟩, htake⟩
        rw [show buffer = frameOf level from h.buffer.trans hlevel]
        refine .taken level status rfl ?_ ?_
        · have hnine := room.2
          simp only [size]
          omega
        · simp only [wire, List.nil_append]
  | taken level status timer nine wire =>
    rw [if_neg (by simp [timer]), if_neg (by simp [timer])]
    exact h.skip

theorem Refines.dmxUartIsrTxData (h : Refines d t) (hd : DriverInv d) (room : ℕ) :
    Simulates b t [] (dmxUartIsrTxData d room) := by
  rw [BedroomLights.dmxUartIsrTxData]
  split_ifs with htx
  · refine ⟨t, ⟨h.buffer, ?_, h.packets⟩, .skip⟩
    have hphase := h.phase
    generalize t.phase = phase at hphase ⊢
    cases hphase with
    | idle status => exact .idle status
    | started status timer => exact .started status timer
    | taken level status timer nine wire =>
      -- whichever frame is in the buffer by now, the chunk continues the snapshot
      obtain ⟨level', hlevel'⟩ := hd.data
      refine .taken level status timer (Nat.le_add_right_of_le nine) ?_
      simp only [wire, hlevel']
      exact Chunked.take_append_chunk (agree_frameOf level level') nine
  · exact h.skip

/-- The end of a packet is one of a packet that has been taken. -/
theorem Refines.exists_taken (h : Refines d t) (hd : DriverInv d) (hdone : d.intrTxDone = true) :
    ∃ level, t.phase = .taken (frameOf level) ∧ d.size = 513 ∧
      d.wire = (frameOf level).take d.head := by
  have hphase := h.phase
  generalize t.phase = phase at hphase ⊢
  cases hd.transmission with
  | idle _ _ txDone => exact absurd hdone (by simp [txDone])
  | head _ _ _ _ txDone => exact absurd hdone (by simp [txDone])
  | body _ hs size timer' =>
    cases hphase with
    | idle status => exact absurd hs status
    | started _ timer => exact absurd (timer.symm.trans timer') (by simp)
    | taken level status timer nine wire => exact ⟨level, rfl, size, wire⟩

theorem Refines.dmxUartIsrTxDone (h : Refines d t) (hd : DriverInv d) :
    Simulates b t (if d.intrTxDone = true ∧ d.head = d.size then [.finish]
      else if d.intrTxDone = true ∧ d.head ≠ d.size then [.abort] else [])
      (dmxUartIsrTxDone d) := by
  rw [BedroomLights.dmxUartIsrTxDone]
  by_cases hdone : d.intrTxDone = true
  · obtain ⟨level, htaken, size, wire⟩ := h.exists_taken hd hdone
    rw [if_pos hdone]
    by_cases hall : d.head = d.size
    · have hwire : d.wire = frameOf level := by
        rw [wire, hall, size, List.take_of_length_le (length_frameOf level).le]
      rw [if_pos ⟨hdone, hall⟩]
      refine ⟨{ t with phase := .idle, ended := t.ended ++ [(frameOf level, true)] },
        ⟨h.buffer, .idle (by simp), ?_⟩, .finish htaken⟩
      simp only [if_pos hall, completed_append_true, hwire, h.packets]
    · rw [if_neg fun h ↦ hall h.2, if_pos ⟨hdone, hall⟩]
      refine ⟨{ t with phase := .idle, ended := t.ended ++ [(frameOf level, false)] },
        ⟨h.buffer, .idle (by simp), ?_⟩, .abort htaken⟩
      simp only [if_neg hall, completed_append_false, h.packets]
  · rw [if_neg hdone, if_neg fun h ↦ hdone h.1, if_neg fun h ↦ hdone h.1]
    exact h.skip

/-! ## Runs -/

/-- A call of `dmx_loop` starts a packet, or leaves the lights alone. -/
theorem Refines.dmxLoop (h : Refines s.lights.driver t) (hd : DriverInv s.lights.driver)
    {io : LoopIo} (hpc : s.pc = .dmxLoop) :
    Simulates b t (transmitEvents s (.loop io))
      (dmxLoop cfg io.now s.nextDmxSend s.lights).2.driver := by
  have hevents : transmitEvents s (.loop io) =
      if StartsPacket s (.loop io) then [.start] else [] := rfl
  rw [hevents, BedroomLights.dmxLoop, periodic]
  by_cases hdue : s.nextDmxSend < io.now
  · have hact : Activates .dmx s (.loop io) := ⟨hpc, hdue⟩
    rw [if_pos hdue]
    have hsend := h.dmxSendNum (b := b) hd
    simpa only [StartsPacket, hact, true_and] using hsend
  · rw [if_neg hdue, if_neg fun hstart ↦ hdue hstart.1.2]
    exact h.skip

/-- **A step of the program is a step of the transmitter.** -/
theorem Refines.step (h : Refines s.lights.driver t)
    (hs : (firmware cfg lt b act).state k = some s)
    (hstep : Sys.step cfg lt s (act k) = some s') :
    Simulates b t (transmitEvents s (act k)) s'.lights.driver := by
  have hinv := lightsInv_of_state hs
  have hF := following_of_state hs
  generalize act k = a at hstep ⊢
  have hno : ∀ {f io}, a = .loop io → s.pc = f → f ≠ .dmxLoop → transmitEvents s a = [] := by
    rintro f io rfl rfl hf
    have hstart : ¬ StartsPacket s (.loop io) := fun h ↦ hf h.1.1
    rw [transmitEvents, if_neg hstart]
    rfl
  cases a with
  | loop io =>
    cases loopStep_of_step hstep with
    | wifi hpc => rw [hno rfl hpc (by decide)]; exact h.skip
    | lifx hpc => rw [hno rfl hpc (by decide)]; exact h.skip
    | dmx hpc => exact h.dmxLoop hinv.driver hpc
    | switch hpc =>
      rw [hno rfl hpc (by decide), switchLoop, periodic]
      split_ifs
      · exact h.skip
      · exact h.skip
    | app hpc =>
      rw [hno rfl hpc (by decide)]
      show Simulates b _ _ (appLoop s.lights).driver
      rw [appLoop_eq hinv.frame hinv.driver.data, hF.prev]
      split_ifs with heq
      · exact h.skip
      · have hc := committed_commit hinv.frame hinv.driver.data s.lights.switchState
        rw [hc.driver]
        exact h.write (hc.frame.trans (congrArg frameOf (SwitchState.eq_other_iff.mpr heq)))
  | event event =>
    cases hstep
    exact h.skip
  | dmxTimerIsr room =>
    cases hstep
    exact h.dmxTimerIsr hinv.driver room
  | dmxUartIsrTxData room =>
    cases hstep
    exact h.dmxUartIsrTxData hinv.driver room
  | dmxUartIsrTxDone =>
    cases hstep
    exact h.dmxUartIsrTxDone hinv.driver

/-- **The driver refines a transmitter** that takes its packets out of the buffer at once. -/
theorem exists_transmitter (h : (firmware cfg lt b act).state k = some s) :
    ∃ t, Refines s.lights.driver t ∧ Transmitter.Reaches (WritesOther b) (frameOf b.level)
      ((firmware cfg lt b act).trace transmitEvents k) t := by
  refine Run.invariant_at (I := fun k (s : Sys) ↦ ∃ t, Refines s.lights.driver t ∧
    Transmitter.Reaches (WritesOther b) (frameOf b.level)
      ((firmware cfg lt b act).trace transmitEvents k) t) ?_ ?_ h
  · have hnone : ¬ Changed (firmware cfg lt b act) b 0 := fun ⟨j, hj, _⟩ ↦ Nat.not_lt_zero j hj
    have hdata : (lightsInit b.level).driver.data.bytes = frameOf b.level :=
      (following_boot (firmware cfg lt b act)).unchanged hnone
    have hidle : (lightsInit b.level).driver.status = .idle := by cases b.level <;> rfl
    have hpackets : (lightsInit b.level).driver.packets = [] := by cases b.level <;> rfl
    exact ⟨⟨frameOf b.level, .idle, []⟩,
      ⟨hdata.symm, .idle (hidle.trans_ne (by decide)), hpackets⟩, .boot⟩
  · rintro k s s' hs ⟨t, ht, hreaches⟩ hstep
    obtain ⟨t', ht', hstep'⟩ := ht.step hs hstep
    refine ⟨t', ht', ?_⟩
    rw [Run.trace_succ_of hs]
    exact hreaches.step hstep'

/-- A packet that is overwritten, and one that the UART ends after its first chunk. -/
def cutPacket : List Action :=
  overwrittenPacket ++ pass .switchOff 10 ++
    List.replicate 2 (.dmxTimerIsr ⟨9, le_rfl⟩) ++ [.dmxUartIsrTxDone]

/-- A list of two values in which the second one is never followed by the first. -/
theorem exists_replicate_append {α : Type*} {x y : α} {l : List α} (hmem : ∀ z ∈ l, z = x ∨ z = y)
    (hl : l.Pairwise fun z w ↦ z = y → w = y) :
    ∃ m n, l = List.replicate m x ++ List.replicate n y := by
  induction l with
  | nil => exact ⟨0, 0, rfl⟩
  | cons z l ih =>
    rw [List.pairwise_cons] at hl
    rcases hmem z List.mem_cons_self with rfl | rfl
    · obtain ⟨m, n, rfl⟩ := ih (fun w hw ↦ hmem w (List.mem_cons_of_mem _ hw)) hl.2
      exact ⟨m + 1, n, rfl⟩
    · have hall : l = List.replicate l.length z :=
        List.eq_replicate_of_mem fun w hw ↦ hl.1 w hw rfl
      exact ⟨0, l.length + 1, by rw [hall]; simp [List.replicate_succ]⟩

/-- Some of these are again some of the first value and then some of the second one. -/
theorem exists_replicate_of_sublist {α : Type*} {x y : α} {l : List α} {m n : ℕ}
    (h : l.Sublist (List.replicate m x ++ List.replicate n y)) :
    ∃ m' n', m' ≤ m ∧ n' ≤ n ∧ l = List.replicate m' x ++ List.replicate n' y := by
  obtain ⟨l₁, l₂, rfl, h₁, h₂⟩ := List.sublist_append_iff.mp h
  obtain ⟨m', hm, rfl⟩ := List.sublist_replicate_iff.mp h₁
  obtain ⟨n', hn, rfl⟩ := List.sublist_replicate_iff.mp h₂
  exact ⟨m', n', hm, hn, rfl⟩

end BedroomLights
