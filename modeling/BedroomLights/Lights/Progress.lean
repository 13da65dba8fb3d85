import BedroomLights.Lights.Snapshot

/-!
# No packet gets stuck

While a packet is being sent, `dmx_loop` cannot start another one: should the interrupts ever stop
before the packet ends, then nothing goes out any more.  They do not.  As long as a packet is being
sent there is an interrupt enabled that gets it further (`Armed`), and each of these brings it
closer to its end, `DmxDriver.remaining`, which nothing else moves.  So a packet ends after at most
516 of them, whatever happens in between (`packet_ends`): it is complete, unless the UART has run
dry before the rest of it was given out.
-/

set_option autoImplicit false

open Transition

namespace BedroomLights

/-- An interrupt that gets a packet further: the timer, room in the FIFO for slots that have not
been given out, or that the UART has nothing left to send. -/
def Effective (s : Sys) : Action → Prop
  | .dmxTimerIsr _ => s.lights.driver.status = .sending ∧ s.lights.driver.timerRunning = true
  | .dmxUartIsrTxData room => s.lights.driver.intrTxData = true ∧
      s.lights.driver.head < s.lights.driver.size ∧ 0 < room
  | .dmxUartIsrTxDone => s.lights.driver.intrTxDone = true
  | _ => False

/-- The interrupt that ends a packet, whether all of it has been sent or not. -/
def EndsPacket (s : Sys) (a : Action) : Prop := CompletesPacket s a ∨ EndsEarly s a

instance (s : Sys) (a : Action) : Decidable (EndsPacket s a) := inferInstanceAs (Decidable (_ ∨ _))

instance (s : Sys) : (a : Action) → Decidable (Effective s a)
  | .dmxTimerIsr _ => inferInstanceAs (Decidable (_ ∧ _))
  | .dmxUartIsrTxData _ => inferInstanceAs (Decidable (_ ∧ _ ∧ _))
  | .dmxUartIsrTxDone => inferInstanceAs (Decidable (_ = _))
  | .loop _ | .event _ => inferInstanceAs (Decidable False)

/-- How many more of these interrupts a packet can take: one for the break, one for the first chunk,
one for each slot that has not been given out, and one for the end. -/
def DmxDriver.remaining (d : DmxDriver) : ℕ :=
  if d.status = .sending then
    if d.timerRunning then (if d.progress = .inBreak then 516 else 515) else 513 - d.head + 1
  else 0

/-- The interrupts that are enabled once the first chunk has gone out. -/
def Armed (d : DmxDriver) : Prop :=
  d.status = .sending → d.timerRunning = false →
    d.intrTxDone = true ∧ (d.head < d.size → d.intrTxData = true)

variable {cfg : SdkConfig} {lt : Lifetime} {b : Boot} {act : ℕ → Action} {i k : ℕ} {s s' t : Sys}
  {a : Action} {d d' : DmxDriver}

theorem remaining_le (d : DmxDriver) : d.remaining ≤ 516 := by
  rw [DmxDriver.remaining]
  split_ifs <;> omega

theorem remaining_pos (h : d.status = .sending) : 0 < d.remaining := by
  rw [DmxDriver.remaining, if_pos h]
  split_ifs <;> omega

theorem remaining_of_timer (h : d.status = .sending) (timer : d.timerRunning = true) :
    d.remaining = if d.progress = .inBreak then 516 else 515 := by
  rw [DmxDriver.remaining, if_pos h, if_pos timer]

theorem remaining_of_not_timer (h : d.status = .sending) (timer : d.timerRunning = false) :
    d.remaining = 513 - d.head + 1 := by
  rw [DmxDriver.remaining, if_pos h, if_neg (by simp [timer])]

/-! ## The interrupts stay enabled -/

theorem Armed.driverStep (h : Armed d) (hd : DriverStep d d') : Armed d' := by
  cases hd with
  | skip => exact h
  | send =>
    rw [dmxSendNum]
    split
    · exact h
    · split
      · exact h
      · exact fun _ htimer ↦ absurd htimer (by simp)
  | timer room =>
    rw [dmxTimerIsr]
    split_ifs with htimer
    · exact fun _ hno ↦ absurd (htimer.symm.trans hno) (by simp)
    · exact fun _ _ ↦ ⟨rfl, fun _ ↦ rfl⟩
    · exact fun hs _ ↦ absurd hs ‹_›
    · exact h
  | txData room =>
    rw [dmxUartIsrTxData]
    split_ifs
    · exact fun hs htimer ↦ ⟨(h hs htimer).1, fun hlt ↦ decide_eq_true hlt.ne⟩
    · exact h
  | txDone =>
    rw [dmxUartIsrTxDone]
    by_cases hdone : d.intrTxDone = true
    · rw [if_pos hdone]
      exact fun hs ↦ absurd hs (by simp)
    · rw [if_neg hdone]
      exact h

/-- A call of `app_loop` does not touch the transmission. -/
theorem driver_appLoop (hinv : LightsInv s.lights) :
    ∃ data, (appLoop s.lights).driver = { s.lights.driver with data := data } := by
  rw [appLoop_eq hinv.frame hinv.driver.data]
  split_ifs
  · exact ⟨s.lights.driver.data, rfl⟩
  · exact ⟨_, (committed_commit hinv.frame hinv.driver.data s.lights.switchState).driver⟩

theorem armed_of_state (h : (firmware cfg lt b act).state k = some s) : Armed s.lights.driver := by
  refine Run.invariant_at (I := fun _ (s : Sys) ↦ Armed s.lights.driver) ?_ ?_ h
  · have hidle : (lightsInit b.level).driver.status = .idle := by cases b.level <;> rfl
    exact fun hs ↦ absurd (hidle.symm.trans hs) (by decide)
  · intro k s s' hs hI hstep
    have hlights := step_lights hstep
    generalize s'.lights = l at hlights
    cases hlights with
    | driver hd => exact hI.driverStep hd
    | sample => exact hI
    | app =>
      obtain ⟨data, hdata⟩ := driver_appLoop (lightsInv_of_state hs)
      rw [hdata]
      exact hI

/-- As long as a packet is being sent, some interrupt gets it further and does not cut it short. -/
theorem exists_effective (h : (firmware cfg lt b act).state k = some s)
    (hsending : s.lights.driver.status = .sending) : ∃ a, Effective s a ∧ ¬ EndsEarly s a := by
  have harmed := armed_of_state h hsending
  cases (lightsInv_of_state h).driver.transmission with
  | idle status => exact absurd hsending status
  | head _ _ timer => exact ⟨.dmxTimerIsr ⟨9, le_rfl⟩, ⟨hsending, timer⟩, id⟩
  | body level _ size timer _ le =>
    obtain ⟨hdone, hdata⟩ := harmed timer
    rcases Nat.eq_or_lt_of_le le with heq | hlt
    · exact ⟨.dmxUartIsrTxDone, hdone, fun h ↦ h.2 (heq.trans size.symm)⟩
    · have hlt' : s.lights.driver.head < s.lights.driver.size := size.symm ▸ hlt
      exact ⟨.dmxUartIsrTxData 1, ⟨hdata hlt', hlt', Nat.one_pos⟩, id⟩

/-! ## What remains -/

/-- A call of the superloop does not move a packet that is being sent. -/
theorem remaining_of_loop {io : LoopIo} (hinv : LightsInv s.lights)
    (hstep : Sys.step cfg lt s (.loop io) = some s')
    (hsending : s.lights.driver.status = .sending) :
    s'.lights.driver.status = .sending ∧
      s'.lights.driver.remaining = s.lights.driver.remaining := by
  cases loopStep_of_step hstep with
  | wifi => exact ⟨hsending, rfl⟩
  | lifx => exact ⟨hsending, rfl⟩
  | dmx =>
    have hrefused : dmxSendNum s.lights.driver dmxPacketSize = (s.lights.driver, 0) := by
      rw [dmxSendNum, if_pos hsending]
    rw [dmxLoop, periodic]
    split_ifs
    · rw [hrefused]
      exact ⟨hsending, rfl⟩
    · exact ⟨hsending, rfl⟩
  | switch =>
    rw [switchLoop, periodic]
    split_ifs
    · exact ⟨hsending, rfl⟩
    · exact ⟨hsending, rfl⟩
  | app =>
    obtain ⟨data, hdata⟩ := driver_appLoop hinv
    show (appLoop s.lights).driver.status = _ ∧ (appLoop s.lights).driver.remaining = _
    rw [hdata]
    exact ⟨hsending, rfl⟩

theorem remaining_dmxTimerIsr (hsending : d.status = .sending) (timer : d.timerRunning = true)
    (size : d.size = 513) (room : EmptyFifo) : (dmxTimerIsr d room).status = .sending ∧
      (dmxTimerIsr d room).remaining + 1 ≤ d.remaining := by
  have hstatus : (dmxTimerIsr d room).status = .sending := by
    rw [dmxTimerIsr, if_pos timer, if_pos hsending]
    split_ifs <;> exact hsending
  refine ⟨hstatus, ?_⟩
  rw [remaining_of_timer hsending timer]
  by_cases hbreak : d.progress = .inBreak
  · have heq : dmxTimerIsr d room = { d with progress := .inMab } := by
      rw [dmxTimerIsr, if_pos timer, if_pos hsending, if_pos hbreak]
    have htimer : (dmxTimerIsr d room).timerRunning = true := by rw [heq, timer]
    rw [if_pos hbreak, remaining_of_timer hstatus htimer, heq, if_neg (by simp)]
  · have hbody : (dmxTimerIsr d room).timerRunning = false ∧
        (dmxTimerIsr d room).head = min 513 (room : ℕ) := by
      rw [dmxTimerIsr, if_pos timer, if_pos hsending, if_neg hbreak, ← size]
      exact ⟨rfl, rfl⟩
    have hnine := room.2
    rw [if_neg hbreak, remaining_of_not_timer hstatus hbody.1, hbody.2]
    omega

theorem remaining_dmxUartIsrTxData (hsending : d.status = .sending)
    (timer : d.timerRunning = false) (size : d.size = 513) (htx : d.intrTxData = true) (room : ℕ) :
    (dmxUartIsrTxData d room).status = .sending ∧
      (dmxUartIsrTxData d room).remaining = 513 - (d.head + min (513 - d.head) room) + 1 := by
  have hbody : (dmxUartIsrTxData d room).status = .sending ∧
      (dmxUartIsrTxData d room).timerRunning = false ∧
        (dmxUartIsrTxData d room).head = d.head + min (513 - d.head) room := by
    rw [dmxUartIsrTxData, if_pos htx, ← size]
    exact ⟨hsending, timer, rfl⟩
  refine ⟨hbody.1, ?_⟩
  rw [remaining_of_not_timer hbody.1 hbody.2.1, hbody.2.2]

/-- An interrupt of `DMX_INTR_TX_DONE` ends the packet, if it is enabled. -/
theorem endsPacket_txDone (h : s.lights.driver.intrTxDone = true) :
    EndsPacket s .dmxUartIsrTxDone := by
  by_cases hall : s.lights.driver.head = s.lights.driver.size
  · exact Or.inl ⟨h, hall⟩
  · exact Or.inr ⟨h, hall⟩

/-- **What remains** goes down with each effective interrupt, until the packet ends. -/
theorem remaining_of_step (hinv : LightsInv s.lights) (hstep : Sys.step cfg lt s a = some s')
    (hsending : s.lights.driver.status = .sending) (hno : ¬ EndsPacket s a) :
    s'.lights.driver.status = .sending ∧
      s'.lights.driver.remaining + (if Effective s a then 1 else 0) ≤
        s.lights.driver.remaining := by
  cases a with
  | loop io =>
    obtain ⟨hs', heq⟩ := remaining_of_loop hinv hstep hsending
    exact ⟨hs', heq.le⟩
  | event event =>
    cases hstep
    exact ⟨hsending, le_rfl⟩
  | dmxTimerIsr room =>
    cases hstep
    show (dmxTimerIsr s.lights.driver room).status = _ ∧
      (dmxTimerIsr s.lights.driver room).remaining + _ ≤ _
    cases hinv.driver.transmission with
    | idle status => exact absurd hsending status
    | head _ size timer =>
      rw [if_pos ⟨hsending, timer⟩]
      exact remaining_dmxTimerIsr hsending timer size room
    | body level _ _ timer =>
      have htimer : ¬ s.lights.driver.timerRunning = true := by simp [timer]
      rw [dmxTimerIsr, if_neg htimer,
        if_neg fun h : Effective s (.dmxTimerIsr room) ↦ htimer h.2]
      exact ⟨hsending, le_rfl⟩
  | dmxUartIsrTxData room =>
    cases hstep
    show (dmxUartIsrTxData s.lights.driver room).status = _ ∧
      (dmxUartIsrTxData s.lights.driver room).remaining + _ ≤ _
    by_cases htx : s.lights.driver.intrTxData = true
    · cases hinv.driver.transmission with
      | idle status => exact absurd hsending status
      | head _ _ _ txData => exact absurd (htx.symm.trans txData) (by simp)
      | body level _ size timer =>
        obtain ⟨hs', heq⟩ := remaining_dmxUartIsrTxData hsending timer size htx room
        refine ⟨hs', ?_⟩
        rw [heq, remaining_of_not_timer hsending timer]
        split_ifs with heff
        · obtain ⟨-, hlt, hroom⟩ := heff
          rw [size] at hlt
          omega
        · omega
    · rw [dmxUartIsrTxData, if_neg htx,
        if_neg fun h : Effective s (.dmxUartIsrTxData room) ↦ htx h.1]
      exact ⟨hsending, le_rfl⟩
  | dmxUartIsrTxDone =>
    cases hstep
    show (dmxUartIsrTxDone s.lights.driver).status = _ ∧
      (dmxUartIsrTxDone s.lights.driver).remaining + _ ≤ _
    have hnot : ¬ s.lights.driver.intrTxDone = true := fun h ↦ hno (endsPacket_txDone h)
    rw [dmxUartIsrTxDone, if_neg hnot, if_neg fun h : Effective s .dmxUartIsrTxDone ↦ hnot h]
    exact ⟨hsending, le_rfl⟩

/-! ## Runs -/

/-- Since step `i`, the packet that was being sent then has ended, or it is still being sent and the
effective interrupts have brought it closer to its end. -/
theorem ends_or_remaining (hs : (firmware cfg lt b act).state i = some s)
    (hsending : s.lights.driver.status = .sending) (hik : i ≤ k)
    (ht : (firmware cfg lt b act).state k = some t) :
    (∃ j, i ≤ j ∧ j < k ∧ (firmware cfg lt b act).At EndsPacket j) ∨
      (t.lights.driver.status = .sending ∧
        t.lights.driver.remaining + countIn ((firmware cfg lt b act).At Effective) i k ≤
          s.lights.driver.remaining) := by
  refine Run.invariant_between (I := fun k (t : Sys) ↦
    (∃ j, i ≤ j ∧ j < k ∧ (firmware cfg lt b act).At EndsPacket j) ∨
      (t.lights.driver.status = .sending ∧
        t.lights.driver.remaining + countIn ((firmware cfg lt b act).At Effective) i k ≤
          s.lights.driver.remaining)) ?_ ?_ hik ht
  · intro u hu
    rw [hs, Option.some_inj] at hu
    subst hu
    exact Or.inr ⟨hsending, by rw [countIn_self, Nat.add_zero]⟩
  · rintro k u u' hik - hu (⟨j, hij, hjk, hj⟩ | ⟨husending, hrest⟩) hstep
    · exact Or.inl ⟨j, hij, hjk.trans (Nat.lt_succ_self k), hj⟩
    · by_cases hdone : EndsPacket u (act k)
      · exact Or.inl ⟨k, hik, Nat.lt_succ_self k, u, hu, hdone⟩
      · have hle : u'.lights.driver.status = .sending ∧
            u'.lights.driver.remaining + (if Effective u (act k) then 1 else 0) ≤
              u.lights.driver.remaining :=
          remaining_of_step (lightsInv_of_state hu) hstep husending hdone
        have hcount : countIn ((firmware cfg lt b act).At Effective) i (k + 1) =
            countIn ((firmware cfg lt b act).At Effective) i k +
              if Effective u (act k) then 1 else 0 := by
          rw [countIn_succ hik]
          simp only [Run.at_iff hu]
          rfl
        exact Or.inr ⟨hle.1, by omega⟩

end BedroomLights
