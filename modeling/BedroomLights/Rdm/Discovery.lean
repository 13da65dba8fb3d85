import BedroomLights.Rdm.Devices

/-!
# What a discovery finds

The search of `rdm_discover_with_callback` goes through the UIDs from the lowest on.  When it has
come to a UID, the devices below that have been muted and the others have not (`Swept`), so that a
range is silent only if there is no device in it.

* `discoverer_suffices_iff`: a stack of 49 is what the search needs, on any line.
* `rdmDiscoverWithCallback_ends`: on any line it searches everything, unless one of its requests
  goes wrong.
* `rdmDiscoverWithCallback_finds`: on a line on which devices respond it finds each of them once, in
  increasing order, and no other; and has muted them all.
* `rdmDiscoverWithCallback_wrong`: it goes wrong at the first device if there is no room for the
  eight bytes that the device acknowledges with.
-/

set_option autoImplicit false

open Transition

namespace BedroomLights

/-! ## Ranges -/

theorem RdmDiscUniqueBranch.height_all : RdmDiscUniqueBranch.all.height = 48 := by
  have hzero : (RdmUid.mk 0 0).val = 0 := rfl
  rw [RdmDiscUniqueBranch.height, RdmDiscUniqueBranch.all, hzero, val_rdmUidMax]
  refine Nat.le_antisymm (Nat.clog_le_of_le_pow (by omega)) ?_
  exact (Nat.lt_clog_iff_pow_lt Nat.one_lt_two).mpr (by omega)

/-- The ranges that the search looks at first. -/
theorem RdmDiscUniqueBranch.val_lowerHalf_iterate (j : ℕ) :
    (RdmDiscUniqueBranch.lowerHalf^[j] RdmDiscUniqueBranch.all).lowerBound = ⟨0, 0⟩ ∧
      (RdmDiscUniqueBranch.lowerHalf^[j] RdmDiscUniqueBranch.all).upperBound.val =
        (2 ^ 48 - 2) / 2 ^ j := by
  induction j with
  | zero =>
    rw [pow_zero, Nat.div_one]
    exact ⟨rfl, val_rdmUidMax⟩
  | succ j ih =>
    have hzero : (RdmUid.mk 0 0).val = 0 := rfl
    rw [Function.iterate_succ_apply', lowerHalf_eq.1, val_lowerHalf, mid, ih.1, ih.2, hzero,
      Nat.zero_add, Nat.div_div_eq_div_mul, pow_succ]
    exact ⟨rfl, rfl⟩

/-! ## Any line -/

section AnyLine

variable {σ : Type*} (cfg : SdkConfig) (L : Line σ) (room : ℕ) (c : Controller) (s : σ)
  (ack : RdmAck)

theorem height_discoverer (b : RdmDiscUniqueBranch) : (discoverer cfg L room).height b = b.height :=
  rfl

/-- The two parts of a range of more than one UID. -/
theorem halves_discoverer {b : RdmDiscUniqueBranch} (hlt : b.lowerBound.val < b.upperBound.val) :
    ((discoverer cfg L room).left b).lowerBound = b.lowerBound ∧
      ((discoverer cfg L room).left b).upperBound.val = b.mid ∧
      ((discoverer cfg L room).right b).lowerBound.val = b.mid + 1 ∧
      ((discoverer cfg L room).right b).upperBound = b.upperBound ∧
      b.lowerBound.val ≤ b.mid ∧ b.mid < b.upperBound.val := by
  refine ⟨RdmDiscUniqueBranch.lowerHalf_eq.1, RdmDiscUniqueBranch.val_lowerHalf,
    RdmDiscUniqueBranch.val_upperHalf hlt, (RdmDiscUniqueBranch.upperHalf_eq hlt).2, ?_, ?_⟩
  · rw [RdmDiscUniqueBranch.mid]
    omega
  · rw [RdmDiscUniqueBranch.mid]
    omega

/-- A search that has gone wrong comes to nothing. -/
theorem eq_none_of_explores_none {z z' : Option (Discovery σ)} {b : RdmDiscUniqueBranch} {n : ℕ}
    (h : (discoverer cfg L room).Explores z b z' n) (hz : z = none) : z' = none := by
  subst hz
  cases h with
  | leaf hvisit => exact (congrArg Prod.fst hvisit).symm
  | node hvisit => exact absurd (congrArg Prod.snd hvisit) Bool.false_ne_true

/-- A pass in which a request goes wrong: it fails an assertion, or something is copied out of its
memory. -/
def GoesWrong (x : List RdmDiscUniqueBranch × Option (Discovery σ)) (_ : Unit) : Prop :=
  ∃ b rest t, x = (b :: rest, some t) ∧ searchBranch cfg L room t b = none

/-- The search has gone wrong if a request of it has, the one before the loop or one of a pass. -/
theorem eq_none_iff_goesWrong {k : ℕ} {x : List RdmDiscUniqueBranch × Option (Discovery σ)}
    (h : (rdmDiscoverWithCallback cfg L room c s ack).state k = some x) :
    x.2 = none ↔ startDiscovery cfg L room c s ack = none ∨
      ∃ j < k, (rdmDiscoverWithCallback cfg L room c s ack).At (GoesWrong cfg L room) j := by
  refine Run.invariant_at (I := fun k (x : List RdmDiscUniqueBranch × Option (Discovery σ)) ↦
    x.2 = none ↔ startDiscovery cfg L room c s ack = none ∨
      ∃ j < k, (rdmDiscoverWithCallback cfg L room c s ack).At (GoesWrong cfg L room) j) ?_ ?_ h
  · exact (or_iff_left fun ⟨j, hj, _⟩ ↦ Nat.not_lt_zero j hj).symm
  · intro k x x' hx hI hstep
    change (discoverer cfg L room).step 49 x () = some x' at hstep
    have hpass : x'.2 = none ↔ x.2 = none ∨ GoesWrong cfg L room x () := by
      match x with
      | ([], z) =>
        cases hstep
        exact (or_iff_left fun ⟨_, _, _, heq, _⟩ ↦ by cases heq).symm
      | (b :: rest, none) =>
        rw [Explorer.snd_of_step hstep]
        exact iff_of_true rfl (Or.inl rfl)
      | (b :: rest, some t) =>
        have hwrong : GoesWrong cfg L room (b :: rest, some t) () ↔
            searchBranch cfg L room t b = none := by
          refine ⟨?_, fun h ↦ ⟨b, rest, t, rfl, h⟩⟩
          rintro ⟨_, _, _, heq, h⟩
          cases heq
          exact h
        have hvisit : (visitBranch cfg L room (some t) b).1 = none ↔
            searchBranch cfg L room t b = none := by
          rw [visitBranch, Option.bind_some]
          cases searchBranch cfg L room t b <;> simp
        rw [Explorer.snd_of_step hstep, hwrong, ← hvisit, or_iff_right (Option.some_ne_none t)]
        rfl
    rw [hpass, hI, Nat.exists_lt_succ_right, Run.at_iff hx, or_assoc]

/-- **The search ends**, whatever is on the line, and its stack never overflows before that: after
fewer than 2^49 passes everything has been searched, or a request has gone wrong. -/
theorem rdmDiscoverWithCallback_ends :
    (∀ k, ∃ x, (rdmDiscoverWithCallback cfg L room c s ack).state k = some x ∧ x.1.length ≤ 49) ∧
      ∃ n < 2 ^ 49, ∃ t, (rdmDiscoverWithCallback cfg L room c s ack).state n = some ([], t) ∧
        (t = none ↔ startDiscovery cfg L room c s ack = none ∨
          ∃ k < n, ∃ b rest d, (rdmDiscoverWithCallback cfg L room c s ack).state k =
            some (b :: rest, some d) ∧ searchBranch cfg L room d b = none) := by
  have hheight : (discoverer cfg L room).height RdmDiscUniqueBranch.all = 48 := by
    rw [height_discoverer, RdmDiscUniqueBranch.height_all]
  have hcap : (discoverer cfg L room).height RdmDiscUniqueBranch.all < 49 := by
    rw [hheight]
    decide
  refine ⟨fun k ↦ ?_, ?_⟩
  · obtain ⟨x, hx, hlow⟩ := Explorer.exists_state hcap k
    exact ⟨x, hx, hlow.length_le⟩
  · obtain ⟨t, n, hexplores⟩ := (discoverer cfg L room).exists_explores
      (startDiscovery cfg L room c s ack) RdmDiscUniqueBranch.all
    have hn := hexplores.lt_two_pow
    rw [hheight] at hn
    have hend : (rdmDiscoverWithCallback cfg L room c s ack).state n = some ([], t) :=
      Explorer.state_of_explores hcap hexplores
    refine ⟨n, hn, t, hend, (eq_none_iff_goesWrong cfg L room c s ack hend).trans ?_⟩
    refine or_congr_right (exists_congr fun k ↦ and_congr_right fun _ ↦ ⟨?_, ?_⟩)
    · rintro ⟨x, hx, b, rest, d, rfl, hwrong⟩
      exact ⟨b, rest, d, hx, hwrong⟩
    · rintro ⟨b, rest, d, hx, hwrong⟩
      exact ⟨_, hx, b, rest, d, rfl, hwrong⟩

end AnyLine

/-! ## Attempts -/

/-- An invariant of each attempt, and what each comes to. -/
theorem exists_attempt {σ : Type*} {P Q : Discovery σ → Prop}
    (send : Discovery σ → Option (Exchange σ)) (again : RdmAck → Bool)
    (hsend : ∀ t, P t → ∃ x, send t = some x ∧ P (t.after x) ∧ Q (t.after x)) (n : ℕ) :
    ∀ t, P t → ∃ t', attempt send again (n + 1) t = some t' ∧ P t' ∧ Q t' := by
  induction n with
  | zero =>
    intro t ht
    obtain ⟨x, hx, hP, hQ⟩ := hsend t ht
    refine ⟨t.after x, ?_, hP, hQ⟩
    rw [attempt, hx, Option.bind_some, attempt, ite_self]
  | succ n ih =>
    intro t ht
    obtain ⟨x, hx, hP, hQ⟩ := hsend t ht
    rw [attempt, hx, Option.bind_some]
    split_ifs
    · exact ih _ hP
    · exact ⟨t.after x, rfl, hP, hQ⟩

theorem attempt_of_not_again {σ : Type*} {send : Discovery σ → Option (Exchange σ)}
    {again : RdmAck → Bool} {t : Discovery σ} {x : Exchange σ} (hx : send t = some x)
    (h : again (t.after x).ack = false) (n : ℕ) :
    attempt send again (n + 1) t = some (t.after x) := by
  rw [attempt, hx, Option.bind_some, h, if_neg Bool.false_ne_true]

/-! ## The size of the stack -/

/-- A line on which something that cannot be read comes back from every request. -/
def unreadableLine : Line Unit where
  waitSent s := (s, true)
  send s _ := some (s, true)
  receive s := (s, ⟨.dmxErrImproperSlot, 1, [0]⟩)
  sending _ := false

/-- There it seems that there are devices everywhere. -/
theorem visitBranch_unreadable (cfg : SdkConfig) (room : ℕ) (t : Discovery Unit)
    {b : RdmDiscUniqueBranch} (hlt : b.lowerBound.val < b.upperBound.val) :
    ∃ t', visitBranch cfg unreadableLine room (some t) b = (some t', true) := by
  have hne : ¬ rdmUidIsEq b.lowerBound b.upperBound = true := by
    rw [rdmUidIsEq_iff, ← RdmUid.val_inj]
    exact hlt.ne
  obtain ⟨data, heq⟩ := rdmSendDiscUniqueBranch_eq (L := unreadableLine) cfg t.controller (b := b)
    (some t.ack) (s := t.line) rfl rfl
  obtain ⟨data', hx⟩ := readResponse_of_unreadable heq (show (1 : ℕ) ≠ 0 by decide)
    (rdmReadHeader?_zero data)
  have hattempt : attemptBranch cfg unreadableLine b t = some (t.after _) :=
    attempt_of_not_again hx rfl 2
  rw [visitBranch, Option.bind_some, searchBranch, if_neg hne, hattempt]
  exact ⟨_, rfl⟩

/-- **A stack of 49 is what the search needs**: with less, there is a line on which it overflows. -/
theorem discoverer_suffices_iff (cap : ℕ) :
    (∀ (σ : Type) (cfg : SdkConfig) (L : Line σ) (room : ℕ) (c : Controller) (s : σ) (ack : RdmAck)
      (k : ℕ), ((discoverer cfg L room).loop cap RdmDiscUniqueBranch.all
        (startDiscovery cfg L room c s ack)).state k ≠ none) ↔ 49 ≤ cap := by
  refine ⟨fun h ↦ ?_, fun hcap σ cfg L room c s ack k ↦ ?_⟩
  · by_contra hcap
    obtain ⟨x, hx, -, -⟩ := sendMute_broadcast (L := unreadableLine) ⟨1000, 0⟩ idleController
      (s := ()) 8
      (Or.inr rfl) (show rdmUidIsBroadcast rdmUidBroadcastAll = true from rfl) none rfl rfl
    have hstart : startDiscovery ⟨1000, 0⟩ unreadableLine 8 idleController ()
        (noHeaderAck .dmxOk 0 0) =
        some ⟨x.controller, x.line, noHeaderAck .dmxOk 0 0, []⟩ :=
      Option.map_eq_some_iff.mpr ⟨x, hx, rfl⟩
    have hmore : ∀ j ≤ cap - 1, ∀ t, (∃ d, t = some d) →
        (visitBranch ⟨1000, 0⟩ unreadableLine 8 t
          (RdmDiscUniqueBranch.lowerHalf^[j] RdmDiscUniqueBranch.all)).2 = true ∧
        ∃ d, (visitBranch ⟨1000, 0⟩ unreadableLine 8 t
          (RdmDiscUniqueBranch.lowerHalf^[j] RdmDiscUniqueBranch.all)).1 = some d := by
      rintro j hj _ ⟨d, rfl⟩
      obtain ⟨hlower, hupper⟩ := RdmDiscUniqueBranch.val_lowerHalf_iterate j
      have hpow : 2 ^ j ≤ 2 ^ 48 - 2 :=
        (Nat.pow_le_pow_right Nat.two_pos (show j ≤ 47 by omega)).trans (by omega)
      obtain ⟨d', hvisit⟩ := visitBranch_unreadable ⟨1000, 0⟩ 8 d
        (b := RdmDiscUniqueBranch.lowerHalf^[j] RdmDiscUniqueBranch.all) (by
          rw [hlower, hupper]
          exact Nat.div_pos hpow (Nat.two_pow_pos j))
      rw [hvisit]
      exact ⟨rfl, d', rfl⟩
    obtain ⟨k, hk⟩ := Explorer.exists_state_eq_none (E := discoverer ⟨1000, 0⟩ unreadableLine 8)
      (i := RdmDiscUniqueBranch.all) (P := fun t ↦ ∃ d, t = some d) ⟨_, hstart⟩ hmore
    exact h Unit _ _ _ _ _ _ k hk
  · have hheight : (discoverer cfg L room).height RdmDiscUniqueBranch.all < cap := by
      rw [height_discoverer, RdmDiscUniqueBranch.height_all]
      omega
    obtain ⟨x, hx, -⟩ := @Explorer.exists_state _ _ _ _
      (startDiscovery cfg L room c s ack) _ hheight k
    rw [hx]
    exact Option.some_ne_none x

/-! ## A line with devices -/

/-- The devices below some UID have been muted, and the others have not. -/
def Swept (uids : List RdmUid) (p : ℕ) (s : Devices) : Prop :=
  OnLine uids (fun uid ↦ decide (uid.val < p)) s

section Devices

variable {cfg : SdkConfig} {definitions : RdmUid → BitVec 16 → Option RdmDefinition}
  {noise : List (List Byte) → Reception} {room : ℕ} {uids : List RdmUid} {t : Discovery Devices}
  {b : RdmDiscUniqueBranch} {p q : ℕ}

theorem Swept.congr {s : Devices} (hs : Swept uids p s)
    (h : ∀ uid ∈ uids, uid.val < p ↔ uid.val < q) : Swept uids q s :=
  OnLine.congr hs fun uid huid ↦ by simp only [h uid huid]

/-- **A range of more than one UID** is taken apart if and only if there is a device in it. -/
theorem visitBranch_of_lt (hdefs : ∀ uid, Discoverable (definitions uid)) (hnoise : Garbles noise)
    (hlt : b.lowerBound.val < b.upperBound.val) (hs : Swept uids b.lowerBound.val t.line) :
    ∃ t', visitBranch cfg (deviceLine definitions noise) room (some t) b = (some t',
        decide (∃ uid ∈ uids, b.lowerBound.val ≤ uid.val ∧ uid.val ≤ b.upperBound.val)) ∧
      Swept uids b.lowerBound.val t'.line ∧ t'.found = t.found := by
  have hne : ¬ rdmUidIsEq b.lowerBound b.upperBound = true := by
    rw [rdmUidIsEq_iff, ← RdmUid.val_inj]
    exact hlt.ne
  have hsend : ∀ t : Discovery Devices, Swept uids b.lowerBound.val t.line →
      ∃ x, rdmSendDiscUniqueBranch cfg (deviceLine definitions noise) t.controller t.line b
          (some t.ack) = some x ∧ Swept uids b.lowerBound.val (t.after x).line ∧
        ((t.after x).ack.type = rdmResponseTypeNone ↔
          ¬ ∃ uid ∈ uids, b.lowerBound.val ≤ uid.val ∧ uid.val ≤ b.upperBound.val) := by
    intro t ht
    obtain ⟨x, a', hx, hack, hline, htype⟩ := exchange_branch hdefs hnoise ht
    refine ⟨x, hx, hline, ?_⟩
    have hafter : (t.after x).ack = a' := by
      rw [Discovery.after, hack]
      rfl
    rw [hafter, htype]
    simp only [decide_eq_false_iff_not, not_lt, not_exists, not_and]
    exact forall₂_congr fun uid _ ↦ ⟨fun h hle ↦ h hle hle, fun h hle _ ↦ h hle⟩
  have hstep : ∀ t' : Discovery Devices,
      Swept uids b.lowerBound.val t'.line ∧ t'.found = t.found →
        ∃ x, rdmSendDiscUniqueBranch cfg (deviceLine definitions noise) t'.controller t'.line b
          (some t'.ack) = some x ∧ (Swept uids b.lowerBound.val (t'.after x).line ∧
            (t'.after x).found = t.found) ∧ ((t'.after x).ack.type = rdmResponseTypeNone ↔
              ¬ ∃ uid ∈ uids, b.lowerBound.val ≤ uid.val ∧ uid.val ≤ b.upperBound.val) := by
    rintro t' ⟨hline, hfound⟩
    obtain ⟨x, hx, hline', htype⟩ := hsend t' hline
    exact ⟨x, hx, ⟨hline', hfound⟩, htype⟩
  obtain ⟨t', hattempt, ⟨hline, hfound⟩, htype⟩ := exists_attempt
    (P := fun t' ↦ Swept uids b.lowerBound.val t'.line ∧ t'.found = t.found)
    (Q := fun t' ↦ t'.ack.type = rdmResponseTypeNone ↔
      ¬ ∃ uid ∈ uids, b.lowerBound.val ≤ uid.val ∧ uid.val ≤ b.upperBound.val) _
    (fun ack ↦ decide (ack.type = rdmResponseTypeNone)) hstep 2 t ⟨hs, rfl⟩
  refine ⟨t', ?_, hline, hfound⟩
  rw [visitBranch, Option.bind_some, searchBranch, if_neg hne, attemptBranch, hattempt]
  simp only [Option.map_some, ne_eq, htype, not_not]

/-- A search that has come to a UID that is not on the line may as well have gone past it. -/
theorem Swept.succ {uid : RdmUid} {s : Devices} (hs : Swept uids uid.val s) (hmem : uid ∉ uids) :
    Swept uids (uid.val + 1) s := by
  refine hs.congr fun uid' huid' ↦ ?_
  have hne : uid'.val ≠ uid.val := fun h ↦ hmem (RdmUid.val_inj.mp h ▸ huid')
  omega

/-- What comes of a range of one UID. -/
theorem visitBranch_eq (heq : b.lowerBound = b.upperBound) {x : Option (Discovery Devices)}
    (hattempt : attemptMute cfg (deviceLine definitions noise) room b.lowerBound t = x) :
    visitBranch cfg (deviceLine definitions noise) room (some t) b =
      (x.map fun t ↦ if t.ack.type = rdmResponseTypeAck then
        { t with found := t.found ++ [t.ack.srcUid] } else t, false) := by
  subst hattempt
  rw [visitBranch, Option.bind_some, searchBranch, if_pos (rdmUidIsEq_iff.mpr heq)]
  cases attemptMute cfg (deviceLine definitions noise) room b.lowerBound t with
  | none => rfl
  | some t' => rfl

/-- A range of one UID that nobody acknowledges. -/
theorem visitBranch_of_silent (heq : b.lowerBound = b.upperBound) (hmem : b.lowerBound ∉ uids)
    (hs : Swept uids b.lowerBound.val t.line)
    (hsend : ∀ t : Discovery Devices, Swept uids b.lowerBound.val t.line →
      ∃ x a', rdmSendDiscMute cfg (deviceLine definitions noise) t.controller t.line room
        b.lowerBound (some t.ack) = some x ∧ x.ack = some a' ∧ a'.type = rdmResponseTypeNone ∧
          Swept uids b.lowerBound.val x.line) :
    ∃ t', visitBranch cfg (deviceLine definitions noise) room (some t) b = (some t', false) ∧
      Swept uids (b.upperBound.val + 1) t'.line ∧ t'.found = t.found := by
  have hstep : ∀ t' : Discovery Devices,
      Swept uids b.lowerBound.val t'.line ∧ t'.found = t.found →
        ∃ x, rdmSendDiscMute cfg (deviceLine definitions noise) t'.controller t'.line room
          b.lowerBound (some t'.ack) = some x ∧ (Swept uids b.lowerBound.val (t'.after x).line ∧
            (t'.after x).found = t.found) ∧ (t'.after x).ack.type = rdmResponseTypeNone := by
    rintro t' ⟨hline, hfound⟩
    obtain ⟨x, a', hx, hack, htype, hline'⟩ := hsend t' hline
    refine ⟨x, hx, ⟨hline', hfound⟩, ?_⟩
    rw [Discovery.after, hack]
    exact htype
  obtain ⟨t', hattempt, ⟨hline, hfound⟩, htype⟩ := exists_attempt
    (P := fun t' ↦ Swept uids b.lowerBound.val t'.line ∧ t'.found = t.found)
    (Q := fun t' ↦ t'.ack.type = rdmResponseTypeNone) _
    (fun ack ↦ decide (ack.type ≠ rdmResponseTypeAck)) hstep 2 t ⟨hs, rfl⟩
  have hnone : ¬ rdmResponseTypeNone = rdmResponseTypeAck := by decide
  refine ⟨t', ?_, ?_, hfound⟩
  · rw [visitBranch_eq heq hattempt, Option.map_some, htype, if_neg hnone]
  · rw [← heq]
    exact hline.succ hmem

/-- The broadcast addresses that are searched are those of single manufacturers. -/
theorem manId_ne_of_le {uid : RdmUid} (hbroadcast : rdmUidIsBroadcast uid = true)
    (hmax : uid.val ≤ rdmUidMax.val) : uid.manId ≠ 0xffff#16 := by
  rw [rdmUidIsBroadcast, beq_iff_eq] at hbroadcast
  intro hman
  rw [val_rdmUidMax, RdmUid.val, hbroadcast, hman] at hmax
  exact absurd hmax (by decide)

/-- **A range of one UID**, which is where a device is found.  Where it is a broadcast address, only
devices are muted that have been muted before. -/
theorem visitBranch_of_eq (hdefs : ∀ uid, Discoverable (definitions uid)) (huids : uids.Nodup)
    (hbroadcast : ∀ uid ∈ uids, rdmUidIsBroadcast uid = false)
    (heq : b.lowerBound = b.upperBound) (hmax : b.upperBound.val ≤ rdmUidMax.val)
    (hs : Swept uids b.lowerBound.val t.line) :
    if b.lowerBound ∈ uids then
      if 8 ≤ room then
        ∃ t', visitBranch cfg (deviceLine definitions noise) room (some t) b = (some t', false) ∧
          Swept uids (b.upperBound.val + 1) t'.line ∧ t'.found = t.found ++ [b.lowerBound]
      else visitBranch cfg (deviceLine definitions noise) room (some t) b = (none, false)
    else ∃ t', visitBranch cfg (deviceLine definitions noise) room (some t) b = (some t', false) ∧
      Swept uids (b.upperBound.val + 1) t'.line ∧ t'.found = t.found := by
  by_cases hmem : b.lowerBound ∈ uids
  · rw [if_pos hmem]
    have hexchange := @exchange_mute definitions noise uids _ t.line cfg t.controller hdefs huids hs
      b.lowerBound (hbroadcast _ hmem) room t.ack
    rw [if_pos hmem] at hexchange
    split_ifs at hexchange ⊢ with hroom
    · obtain ⟨x, a', hx, hack, htype, hsrc, hline⟩ := hexchange
      have hafter : (t.after x).ack = a' := by
        rw [Discovery.after, hack]
        rfl
      have hattempt : attemptMute cfg (deviceLine definitions noise) room b.lowerBound t =
          some (t.after x) :=
        attempt_of_not_again hx (by rw [hafter, htype]; decide) 2
      refine ⟨{ t.after x with found := t.found ++ [b.lowerBound] }, ?_, ?_, rfl⟩
      · rw [← hafter] at htype hsrc
        rw [visitBranch_eq heq hattempt, Option.map_some, if_pos htype, hsrc]
        rfl
      · refine OnLine.congr hline fun uid huid ↦ ?_
        rw [← Bool.decide_or, ← heq]
        exact decide_eq_decide.mpr (by rw [← RdmUid.val_inj]; omega)
    · have hattempt :
          attemptMute cfg (deviceLine definitions noise) room b.lowerBound t = none := by
        rw [attemptMute, attempt, hexchange, Option.bind_none]
      exact visitBranch_eq heq hattempt
  · rw [if_neg hmem]
    refine visitBranch_of_silent heq hmem hs fun t ht ↦ ?_
    by_cases hbroad : rdmUidIsBroadcast b.lowerBound = true
    · obtain ⟨x, hx, hack, hline⟩ := @exchange_mute_broadcast definitions noise uids _ t.line cfg
        t.controller hdefs huids ht rdmPidDiscMute (Or.inl rfl) b.lowerBound hbroad room
        (some t.ack)
      refine ⟨x, _, hx, hack, rfl, hline.congr fun uid huid ↦ ?_⟩
      split_ifs with htarget
      · have hle := val_le_of_rdmUidIsTarget (manId_ne_of_le hbroad (heq ▸ hmax)) htarget
        have hne : uid.val ≠ b.lowerBound.val := fun h ↦ hmem (RdmUid.val_inj.mp h ▸ huid)
        exact (decide_eq_true rfl).trans (decide_eq_true (lt_of_le_of_ne hle hne)).symm
      · rfl
    · have hexchange := @exchange_mute definitions noise uids _ t.line cfg t.controller hdefs huids
        ht b.lowerBound (Bool.not_eq_true _ ▸ hbroad) room t.ack
      rwa [if_neg hmem] at hexchange

/-! ## The search -/

/-- The devices in a range, each once and in increasing order. -/
structure Finds (uids : List RdmUid) (lower upper : ℕ) (l : List RdmUid) : Prop where
  increasing : l.Pairwise fun a b ↦ a.val < b.val
  mem_iff : ∀ uid, uid ∈ l ↔ uid ∈ uids ∧ lower ≤ uid.val ∧ uid.val ≤ upper

theorem Finds.append {lower mid upper : ℕ} {l l' : List RdmUid} (h : Finds uids lower mid l)
    (h' : Finds uids (mid + 1) upper l') (hlower : lower ≤ mid) (hupper : mid ≤ upper) :
    Finds uids lower upper (l ++ l') := by
  refine ⟨List.pairwise_append.mpr ⟨h.increasing, h'.increasing, fun a ha b hb ↦ ?_⟩, fun uid ↦ ?_⟩
  · have hle := ((h.mem_iff a).mp ha).2.2
    have hlt := ((h'.mem_iff b).mp hb).2.1
    omega
  · rw [List.mem_append, h.mem_iff, h'.mem_iff, ← and_or_left]
    refine and_congr_right fun _ ↦ ?_
    omega

theorem Finds.nil {lower upper : ℕ}
    (h : ∀ uid ∈ uids, ¬ (lower ≤ uid.val ∧ uid.val ≤ upper)) : Finds uids lower upper [] :=
  ⟨.nil, fun uid ↦ iff_of_false List.not_mem_nil fun hmem ↦ h uid hmem.1 hmem.2⟩

/-- The passes that the two halves of a range take. -/
theorem passes_le {h h₁ h₂ m n k k' : ℕ} (hleft : h₁ < h) (hright : h₂ < h)
    (hm : m ≤ 2 * h₁ * k + 1) (hn : n ≤ 2 * h₂ * k' + 1) (hpos : 0 < k + k') :
    m + n + 1 ≤ 2 * h * (k + k') + 1 := by
  obtain ⟨h', rfl⟩ := Nat.exists_eq_add_of_le' (Nat.zero_lt_of_lt hleft)
  have hleft' : 2 * h₁ * k ≤ 2 * h' * k :=
    Nat.mul_le_mul_right k (Nat.mul_le_mul_left 2 (Nat.le_of_lt_succ hleft))
  have hright' : 2 * h₂ * k' ≤ 2 * h' * k' :=
    Nat.mul_le_mul_right k' (Nat.mul_le_mul_left 2 (Nat.le_of_lt_succ hright))
  calc m + n + 1 ≤ 2 * h' * k + 2 * h' * k' + 2 * 1 + 1 := by omega
    _ ≤ 2 * h' * k + 2 * h' * k' + 2 * (k + k') + 1 := by omega
    _ = 2 * (h' + 1) * (k + k') + 1 := by ring

/-- Past a range without devices. -/
theorem Swept.skip {s : Devices} (hs : Swept uids b.lowerBound.val s)
    (h : ∀ uid ∈ uids, ¬ (b.lowerBound.val ≤ uid.val ∧ uid.val ≤ b.upperBound.val)) :
    Swept uids (b.upperBound.val + 1) s := by
  refine hs.congr fun uid huid ↦ ?_
  have hout := h uid huid
  have hle := b.le
  omega

section Search

variable {z z' : Option (Discovery Devices)} {n : ℕ}

/-- **What the search of a range finds.** -/
theorem finds_of_explores (hdefs : ∀ uid, Discoverable (definitions uid)) (hnoise : Garbles noise)
    (huids : uids.Nodup) (hbroadcast : ∀ uid ∈ uids, rdmUidIsBroadcast uid = false)
    (h : (discoverer cfg (deviceLine definitions noise) room).Explores z b z' n) (hz : z = some t)
    (hmax : b.upperBound.val ≤ rdmUidMax.val) (hs : Swept uids b.lowerBound.val t.line)
    (hroom : 8 ≤ room ∨ ∀ uid ∈ uids, ¬ (b.lowerBound.val ≤ uid.val ∧ uid.val ≤ b.upperBound.val)) :
    ∃ t' l, z' = some t' ∧ t'.found = t.found ++ l ∧
      Finds uids b.lowerBound.val b.upperBound.val l ∧
      Swept uids (b.upperBound.val + 1) t'.line ∧ n ≤ 2 * b.height * l.length + 1 := by
  induction h generalizing t with
  | @leaf z z' b hvisit =>
    subst hz
    change visitBranch cfg (deviceLine definitions noise) room (some t) b = (z', false) at hvisit
    rcases Nat.eq_or_lt_of_le b.le with heq | hlt
    · have heq := RdmUid.val_inj.mp heq
      have hspec := @visitBranch_of_eq cfg definitions noise room uids t b hdefs huids hbroadcast
        heq hmax hs
      split_ifs at hspec with hmem hfits
      · obtain ⟨t', hvisit', hline, hfound⟩ := hspec
        cases hvisit.symm.trans hvisit'
        refine ⟨t', [b.lowerBound], rfl, hfound, ⟨List.pairwise_singleton _ _, fun uid ↦ ?_⟩, hline,
          Nat.le_add_left _ _⟩
        rw [List.mem_singleton, ← heq]
        refine ⟨?_, fun h ↦ RdmUid.val_inj.mp (Nat.le_antisymm h.2.2 h.2.1)⟩
        rintro rfl
        exact ⟨hmem, le_rfl, le_rfl⟩
      · exact absurd ⟨le_rfl, heq ▸ le_rfl⟩ (hroom.resolve_left hfits _ hmem)
      · obtain ⟨t', hvisit', hline, hfound⟩ := hspec
        cases hvisit.symm.trans hvisit'
        refine ⟨t', [], rfl, by rw [hfound, List.append_nil], Finds.nil fun uid huid h ↦ ?_, hline,
          Nat.le_add_left _ _⟩
        rw [← heq] at h
        exact hmem (RdmUid.val_inj.mp (Nat.le_antisymm h.2 h.1) ▸ huid)
    · obtain ⟨t', hvisit', hline, hfound⟩ := @visitBranch_of_lt cfg definitions noise room uids t b
        hdefs hnoise hlt hs
      obtain ⟨rfl, hmore⟩ := Prod.mk.inj (hvisit.symm.trans hvisit')
      have hnone : ∀ uid ∈ uids, ¬ (b.lowerBound.val ≤ uid.val ∧ uid.val ≤ b.upperBound.val) :=
        fun uid huid hin ↦ of_decide_eq_false hmore.symm ⟨uid, huid, hin⟩
      exact ⟨t', [], rfl, by rw [hfound, List.append_nil], Finds.nil hnone, hline.skip hnone,
        Nat.le_add_left _ _⟩
  | @node z z₁ z₂ z' b m n hvisit hleft hright ihleft ihright =>
    subst hz
    change visitBranch cfg (deviceLine definitions noise) room (some t) b = (z₁, true) at hvisit
    have hlt : b.lowerBound.val < b.upperBound.val :=
      lt_of_visitBranch cfg (deviceLine definitions noise) room (by rw [hvisit])
    obtain ⟨t₁, hvisit', hline, hfound⟩ := @visitBranch_of_lt cfg definitions noise room uids t b
      hdefs hnoise hlt hs
    obtain ⟨rfl, hmore⟩ := Prod.mk.inj (hvisit.symm.trans hvisit')
    obtain ⟨uid, huid, hin⟩ := of_decide_eq_true hmore.symm
    have hfits : 8 ≤ room := hroom.resolve_right fun h ↦ h uid huid hin
    obtain ⟨hlowerLower, hlowerUpper, hupperLower, hupperUpper, hmid⟩ :=
      halves_discoverer cfg (deviceLine definitions noise) room hlt
    obtain ⟨t₂, l, rfl, hfound₁, hfinds₁, hline₁, hm⟩ := @ihleft t₁ rfl
      (by rw [hlowerUpper]; omega) (by rw [hlowerLower]; exact hline) (Or.inl hfits)
    rw [hlowerUpper] at hline₁ hfinds₁
    rw [hlowerLower] at hfinds₁
    obtain ⟨t', l', rfl, hfound₂, hfinds₂, hline₂, hn⟩ := @ihright t₂ rfl
      (by rw [hupperUpper]; exact hmax) (by rw [hupperLower]; exact hline₁) (Or.inl hfits)
    rw [hupperUpper] at hline₂ hfinds₂
    rw [hupperLower] at hfinds₂
    have hfinds := hfinds₁.append hfinds₂ hmid.1 hmid.2.le
    have hpos : 0 < (l ++ l').length :=
      List.length_pos_of_mem ((hfinds.mem_iff uid).mpr ⟨huid, hin⟩)
    rw [List.length_append] at hpos
    refine ⟨t', l ++ l', rfl, by rw [hfound₂, hfound₁, hfound, List.append_assoc], hfinds,
      hline₂, ?_⟩
    rw [List.length_append]
    exact passes_le (RdmDiscUniqueBranch.height_lowerHalf hlt)
      (RdmDiscUniqueBranch.height_upperHalf hlt) hm hn hpos

/-- **A search goes wrong** at the first device that there is no room for. -/
theorem eq_none_of_explores (hdefs : ∀ uid, Discoverable (definitions uid)) (hnoise : Garbles noise)
    (huids : uids.Nodup) (hbroadcast : ∀ uid ∈ uids, rdmUidIsBroadcast uid = false)
    (h : (discoverer cfg (deviceLine definitions noise) room).Explores z b z' n) (hz : z = some t)
    (hmax : b.upperBound.val ≤ rdmUidMax.val) (hs : Swept uids b.lowerBound.val t.line)
    (hroom : ¬ 8 ≤ room)
    (hmem : ∃ uid ∈ uids, b.lowerBound.val ≤ uid.val ∧ uid.val ≤ b.upperBound.val) : z' = none := by
  induction h generalizing t with
  | @leaf z z' b hvisit =>
    subst hz
    change visitBranch cfg (deviceLine definitions noise) room (some t) b = (z', false) at hvisit
    rcases Nat.eq_or_lt_of_le b.le with heq | hlt
    · have heq := RdmUid.val_inj.mp heq
      obtain ⟨uid, huid, hle, hge⟩ := hmem
      rw [← heq] at hge
      have hspec := @visitBranch_of_eq cfg definitions noise room uids t b hdefs huids hbroadcast
        heq hmax hs
      rw [if_pos (RdmUid.val_inj.mp (Nat.le_antisymm hge hle) ▸ huid), if_neg hroom] at hspec
      exact (Prod.mk.inj (hvisit.symm.trans hspec)).1
    · obtain ⟨t', hvisit', -, -⟩ := @visitBranch_of_lt cfg definitions noise room uids t b hdefs
        hnoise hlt hs
      have hmore := (Prod.mk.inj (hvisit.symm.trans hvisit')).2
      exact absurd hmem (of_decide_eq_false hmore.symm)
  | @node z z₁ z₂ z' b m n hvisit hleft hright ihleft ihright =>
    subst hz
    change visitBranch cfg (deviceLine definitions noise) room (some t) b = (z₁, true) at hvisit
    have hlt : b.lowerBound.val < b.upperBound.val :=
      lt_of_visitBranch cfg (deviceLine definitions noise) room (by rw [hvisit])
    obtain ⟨t₁, hvisit', hline, -⟩ := @visitBranch_of_lt cfg definitions noise room uids t b
      hdefs hnoise hlt hs
    obtain ⟨rfl, -⟩ := Prod.mk.inj (hvisit.symm.trans hvisit')
    obtain ⟨hlowerLower, hlowerUpper, hupperLower, hupperUpper, hmid⟩ :=
      halves_discoverer cfg (deviceLine definitions noise) room hlt
    rw [← hlowerLower] at hline
    by_cases hlower : ∃ uid ∈ uids, b.lowerBound.val ≤ uid.val ∧ uid.val ≤ b.mid
    · refine eq_none_of_explores_none _ _ _ hright
        (@ihleft t₁ rfl (by rw [hlowerUpper]; omega) hline ?_)
      rwa [hlowerLower, hlowerUpper]
    · have hnone : ∀ uid ∈ uids, ¬ (b.lowerBound.val ≤ uid.val ∧ uid.val ≤ b.mid) :=
        fun uid huid hin ↦ hlower ⟨uid, huid, hin⟩
      obtain ⟨t₂, l, rfl, -, -, hline₂, -⟩ := finds_of_explores hdefs hnoise huids hbroadcast hleft
        rfl (by rw [hlowerUpper]; omega) hline (Or.inr (by rwa [hlowerLower, hlowerUpper]))
      rw [hlowerUpper, ← hupperLower] at hline₂
      refine @ihright t₂ rfl (by rw [hupperUpper]; exact hmax) hline₂ ?_
      obtain ⟨uid, huid, hle, hge⟩ := hmem
      refine ⟨uid, huid, ?_, by rw [hupperUpper]; exact hge⟩
      have hout := hnone uid huid
      rw [hupperLower]
      omega

end Search

end Devices

/-! ## The array -/

/-- Behind its end nothing is written. -/
theorem foldl_rdmDiscCb_of_le {num : ℕ} (found array : List RdmUid) : ∀ {k : ℕ}, num ≤ k →
    (found.zipIdx k).foldl (fun array (uid, numFound) ↦ rdmDiscCb num array uid numFound) array =
      array := by
  induction found with
  | nil => exact fun _ ↦ rfl
  | cons uid found ih =>
    intro k hk
    rw [List.zipIdx_cons, List.foldl_cons]
    dsimp only
    rw [rdmDiscCb, if_neg (not_lt.mpr hk)]
    exact ih (Nat.le_succ_of_le hk)

/-- The array, when the first `k` devices have been written to it. -/
theorem foldl_rdmDiscCb {num : ℕ} (found : List RdmUid) : ∀ {k : ℕ} {array : List RdmUid},
    num ≤ array.length → k ≤ num →
      (found.zipIdx k).foldl (fun array (uid, numFound) ↦ rdmDiscCb num array uid numFound) array =
        array.take k ++ (found.take (num - k) ++ array.drop (k + min (num - k) found.length)) := by
  induction found with
  | nil =>
    intro k array _ _
    rw [List.zipIdx_nil, List.foldl_nil, List.take_nil, List.nil_append, List.length_nil,
      Nat.min_zero, Nat.add_zero, List.take_append_drop]
  | cons uid found ih =>
    intro k array hnum hk
    rcases Nat.eq_or_lt_of_le hk with rfl | hlt
    · rw [foldl_rdmDiscCb_of_le _ _ le_rfl, Nat.sub_self, Nat.zero_min, List.take_zero,
        List.nil_append, Nat.add_zero, List.take_append_drop]
    · obtain ⟨m, rfl⟩ := Nat.exists_eq_add_of_lt hlt
      have hk' : k < array.length := hlt.trans_le hnum
      have htake : (array.set k uid).take (k + 1) = array.take k ++ [uid] := by
        rw [List.set_eq_take_append_cons_drop, if_pos hk', List.take_append,
          List.length_take_of_le hk'.le, Nat.add_sub_cancel_left, List.take_take,
          Nat.min_eq_right (Nat.le_succ k)]
        rfl
      have hdrop : (array.set k uid).drop (k + 1 + min m found.length) =
          array.drop (k + 1 + min m found.length) := List.drop_set_of_lt (by omega)
      have hfound := @ih (k + 1) (array.set k uid) (by rwa [List.length_set])
        (Nat.succ_le_of_lt hlt)
      rw [show k + m + 1 - (k + 1) = m by omega, htake, hdrop, List.append_assoc] at hfound
      rw [List.zipIdx_cons, List.foldl_cons]
      dsimp only
      rw [rdmDiscCb, if_pos hlt, hfound, show k + m + 1 - k = m + 1 by omega, List.take_succ_cons,
        List.length_cons, Nat.add_min_add_right, Nat.add_right_comm k, Nat.add_assoc k]
      rfl

/-- **The array** has room for the first devices only. -/
theorem rdmDiscoverDevicesSimple_eq {num : ℕ} {array found : List RdmUid}
    (hnum : num ≤ array.length) : rdmDiscoverDevicesSimple num array found =
      found.take num ++ array.drop (min num found.length) := by
  rw [rdmDiscoverDevicesSimple, foldl_rdmDiscCb found hnum (Nat.zero_le _), List.take_zero,
    List.nil_append, Nat.sub_zero, Nat.zero_add]

/-! ## The discovery -/

section Discovery

variable (cfg : SdkConfig) (definitions : RdmUid → BitVec 16 → Option RdmDefinition)
  (noise : List (List Byte) → Reception) (room : ℕ) (c : Controller) (s : Devices) (ack : RdmAck)

/-- Every device listens when the search begins. -/
theorem exists_startDiscovery (hdefs : ∀ uid, Discoverable (definitions uid))
    (huids : s.uids.Nodup) :
    ∃ t, startDiscovery cfg (deviceLine definitions noise) room c s ack = some t ∧
      Swept s.uids 0 t.line ∧ t.found = [] := by
  have hs :
      OnLine s.uids (fun uid ↦ decide (∃ r ∈ s.devices, r.uid = uid ∧ r.isMuted = true)) s := by
    refine ⟨rfl, fun r hr ↦ ?_⟩
    have honly : ∀ r' ∈ s.devices, r'.uid = r.uid → r' = r := fun r' hr' h ↦
      List.inj_on_of_nodup_map huids hr' hr h
    cases hmuted : r.isMuted with
    | true => exact (decide_eq_true ⟨r, hr, rfl, hmuted⟩).symm
    | false =>
      refine (decide_eq_false ?_).symm
      rintro ⟨r', hr', huid, hmuted'⟩
      rw [honly r' hr' huid, hmuted] at hmuted'
      exact Bool.false_ne_true hmuted'
  obtain ⟨x, hx, -, hline⟩ := @exchange_mute_broadcast definitions noise s.uids _ s cfg c hdefs
    huids hs rdmPidDiscUnMute (Or.inr rfl) rdmUidBroadcastAll rfl room none
  refine ⟨_, Option.map_eq_some_iff.mpr ⟨x, hx, rfl⟩, hline.congr fun uid _ ↦ ?_, rfl⟩
  rw [rdmUidIsTarget_broadcastAll, if_pos rfl, decide_eq_false (Nat.not_lt_zero _)]
  rfl

/-- A UID that is not a broadcast address is in the range that the search starts with. -/
theorem val_le_rdmUidMax {uid : RdmUid} (h : rdmUidIsBroadcast uid = false) :
    uid.val ≤ rdmUidMax.val := by
  have hman := uid.manId.isLt
  have hdev := uid.devId.isLt
  rw [rdmUidIsBroadcast, beq_eq_false_iff_ne, ne_eq, ← BitVec.toNat_inj] at h
  have hne : uid.devId.toNat ≠ 4294967295 := h
  rw [val_rdmUidMax, RdmUid.val]
  omega

/-- **A discovery finds every device, once, and nothing else**, in increasing order, and leaves all
of them muted; and it takes no more than 96 passes for each.  Of an array that is too short for all
of them, the first UIDs are written, and otherwise what is behind them stays. -/
theorem rdmDiscoverWithCallback_finds (hdefs : ∀ uid, Discoverable (definitions uid))
    (hnoise : Garbles noise) (huids : s.uids.Nodup)
    (hbroadcast : ∀ uid ∈ s.uids, rdmUidIsBroadcast uid = false)
    (hroom : 8 ≤ room ∨ s.devices = []) :
    ∃ n t, n ≤ 96 * s.devices.length + 1 ∧
      (rdmDiscoverWithCallback cfg (deviceLine definitions noise) room c s ack).state n =
        some ([], some t) ∧
      t.found.Pairwise (fun a b ↦ a.val < b.val) ∧ t.found.Perm s.uids ∧
      (t.line.uids = s.uids ∧ ∀ r ∈ t.line.devices, r.isMuted = true) ∧
      ∀ num array, num ≤ array.length → rdmDiscoverDevicesSimple num array t.found =
        t.found.take num ++ array.drop (min num s.devices.length) := by
  obtain ⟨t₀, hstart, hline₀, hfound₀⟩ :=
    exists_startDiscovery cfg definitions noise room c s ack hdefs huids
  obtain ⟨z, n, hexplores⟩ := (discoverer cfg (deviceLine definitions noise) room).exists_explores
    (startDiscovery cfg (deviceLine definitions noise) room c s ack) RdmDiscUniqueBranch.all
  have hempty : s.devices = [] → ∀ uid ∈ s.uids,
      ¬ (RdmDiscUniqueBranch.all.lowerBound.val ≤ uid.val ∧
        uid.val ≤ RdmDiscUniqueBranch.all.upperBound.val) := by
    intro hnil uid huid
    rw [Devices.uids, hnil] at huid
    exact absurd huid List.not_mem_nil
  obtain ⟨t, l, rfl, hfound, hfinds, hline, hn⟩ := finds_of_explores hdefs hnoise huids hbroadcast
    hexplores hstart le_rfl hline₀ (hroom.imp_right hempty)
  have hmem : ∀ uid, uid ∈ l ↔ uid ∈ s.uids := by
    intro uid
    rw [hfinds.mem_iff]
    exact and_iff_left_of_imp fun huid ↦ ⟨Nat.zero_le _, val_le_rdmUidMax (hbroadcast uid huid)⟩
  have hnodup : l.Nodup := hfinds.increasing.imp fun hlt heq ↦ hlt.ne (congrArg RdmUid.val heq)
  have hperm : l.Perm s.uids := (List.perm_ext_iff_of_nodup hnodup huids).mpr hmem
  rw [hfound₀, List.nil_append] at hfound
  subst hfound
  have hlength : t.found.length = s.devices.length := by
    rw [hperm.length_eq, Devices.uids, List.length_map]
  rw [RdmDiscUniqueBranch.height_all, hlength] at hn
  refine ⟨n, t, hn, Explorer.state_of_explores ?_ hexplores, hfinds.increasing, hperm,
    ⟨hline.uids, fun r hr ↦ ?_⟩, fun num array hnum ↦ ?_⟩
  · rw [height_discoverer, RdmDiscUniqueBranch.height_all]
    decide
  · rw [hline.muted r hr]
    have huid : r.uid ∈ s.uids := by
      rw [← hline.uids]
      exact List.mem_map_of_mem hr
    exact decide_eq_true (Nat.lt_succ_of_le (val_le_rdmUidMax (hbroadcast _ huid)))
  · rw [rdmDiscoverDevicesSimple_eq hnum, hlength]

theorem rdmDiscoverWithCallback_finds_of_twoDevices :
    ∃ n t, n ≤ 193 ∧
      (rdmDiscoverWithCallback ⟨1000, 0⟩ (deviceLine (fun _ ↦ discoveryParameters) unreadableNoise)
        8 idleController twoDevices (noHeaderAck .dmxOk 0 0)).state n = some ([], some t) ∧
      t.found.Perm [⟨0x05e0, 7⟩, ⟨0x05e0, 3⟩] := by
  obtain ⟨n, t, hn, hstate, -, hperm, -, -⟩ := rdmDiscoverWithCallback_finds ⟨1000, 0⟩
    (fun _ ↦ discoveryParameters) unreadableNoise 8 idleController twoDevices
    (noHeaderAck .dmxOk 0 0) (fun _ ↦ discoverable_discoveryParameters) garbles_unreadableNoise
    (by decide) (by decide) (Or.inl le_rfl)
  exact ⟨n, t, hn, hstate, hperm⟩

/-- **A discovery writes over memory that is not its own** as soon as a device responds, if there is
less room than that. -/
theorem rdmDiscoverWithCallback_wrong (hdefs : ∀ uid, Discoverable (definitions uid))
    (hnoise : Garbles noise) (huids : s.uids.Nodup)
    (hbroadcast : ∀ uid ∈ s.uids, rdmUidIsBroadcast uid = false) (hroom : room < 8)
    (hne : s.devices ≠ []) :
    ∃ n, (rdmDiscoverWithCallback cfg (deviceLine definitions noise) room c s ack).state n =
      some ([], none) := by
  obtain ⟨t₀, hstart, hline₀, -⟩ :=
    exists_startDiscovery cfg definitions noise room c s ack hdefs huids
  obtain ⟨z, n, hexplores⟩ := (discoverer cfg (deviceLine definitions noise) room).exists_explores
    (startDiscovery cfg (deviceLine definitions noise) room c s ack) RdmDiscUniqueBranch.all
  obtain ⟨r, hr⟩ := List.exists_mem_of_ne_nil _ hne
  have huid : r.uid ∈ s.uids := List.mem_map_of_mem hr
  have hnone := eq_none_of_explores hdefs hnoise huids hbroadcast hexplores hstart le_rfl hline₀
    (not_le.mpr hroom) ⟨r.uid, huid, Nat.zero_le _, val_le_rdmUidMax (hbroadcast _ huid)⟩
  subst hnone
  refine ⟨n, Explorer.state_of_explores ?_ hexplores⟩
  rw [height_discoverer, RdmDiscUniqueBranch.height_all]
  decide

theorem rdmDiscoverWithCallback_wrong_of_twoDevices :
    ∃ n, (rdmDiscoverWithCallback ⟨1000, 0⟩
      (deviceLine (fun _ ↦ discoveryParameters) unreadableNoise) 4 idleController twoDevices
      (noHeaderAck .dmxOk 0 0)).state n = some ([], none) :=
  rdmDiscoverWithCallback_wrong ⟨1000, 0⟩ (fun _ ↦ discoveryParameters) unreadableNoise 4
    idleController twoDevices (noHeaderAck .dmxOk 0 0) (fun _ ↦ discoverable_discoveryParameters)
    garbles_unreadableNoise (by decide) (by decide) (by decide) (List.cons_ne_nil _ _)

end Discovery

end BedroomLights
