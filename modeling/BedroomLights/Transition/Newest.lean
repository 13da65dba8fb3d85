import Mathlib.Data.Nat.Count

/-!
# The newest occurrence

Properties of a run often speak about "the latest `P` so far": the newest event before a poll, the
previous call of a function, the last request sent.  For a predicate `P` on the indices of a run,
`Newest P k j` says that `j` is the newest index before `k` where `P` holds, and `NoneIn P i k`
that `P` holds nowhere from `i` up to `k`.  A window that opens at the start of the run or right
after a `P` is an `OpensAt P`; windows like that are what "since the latest `P`, or since boot"
means.

The counting function is Mathlib's `Nat.count`, shifted to a window.
-/

set_option autoImplicit false

namespace Transition

variable {P Q : ℕ → Prop} {i j k : ℕ}

/-- `P` holds at no index of the window from `i` up to, but not at, `k`. -/
def NoneIn (P : ℕ → Prop) (i k : ℕ) : Prop := ∀ m, i ≤ m → m < k → ¬ P m

/-- `j` is the newest index before `k` where `P` holds. -/
structure Newest (P : ℕ → Prop) (k j : ℕ) : Prop where
  /-- It is an earlier index. -/
  lt : j < k
  /-- `P` holds there. -/
  holds : P j
  /-- `P` does not hold at any index in between. -/
  none : NoneIn P (j + 1) k

theorem NoneIn.mono (h : NoneIn P i k) {i' k' : ℕ} (hi : i ≤ i') (hk : k' ≤ k) :
    NoneIn P i' k' :=
  fun m him hmk ↦ h m (hi.trans him) (hmk.trans_le hk)

theorem noneIn_self (P : ℕ → Prop) (k : ℕ) : NoneIn P k k :=
  fun _ hkm hmk ↦ absurd hmk (Nat.not_lt.mpr hkm)

theorem noneIn_succ_iff (hik : i ≤ k) : NoneIn P i (k + 1) ↔ NoneIn P i k ∧ ¬ P k := by
  refine ⟨?_, ?_⟩
  · exact fun h ↦ ⟨h.mono le_rfl (Nat.le_succ k), h k hik (Nat.lt_succ_self k)⟩
  · rintro ⟨h, hk⟩ m him hmk
    rcases Nat.lt_succ_iff_lt_or_eq.mp hmk with hlt | rfl
    · exact h m him hlt
    · exact hk

/-- Where `P` has held at all, it has a newest occurrence. -/
theorem exists_newest (hj : j < k) (hP : P j) : ∃ m, j ≤ m ∧ Newest P k m := by
  induction k with
  | zero => exact absurd hj (Nat.not_lt_zero j)
  | succ k ih =>
    by_cases hk : P k
    · exact ⟨k, by omega, Nat.lt_succ_self k, hk, noneIn_self P (k + 1)⟩
    · have hne : j ≠ k := fun h ↦ hk (h ▸ hP)
      obtain ⟨m, hjm, hm⟩ := ih (by omega)
      exact ⟨m, hjm, hm.lt.trans (Nat.lt_succ_self k), hm.holds,
        (noneIn_succ_iff hm.lt).mpr ⟨hm.none, hk⟩⟩

/-- There is at most one newest occurrence. -/
theorem Newest.eq {j' : ℕ} (h : Newest P k j) (h' : Newest P k j') : j = j' := by
  rcases Nat.lt_trichotomy j j' with hlt | rfl | hlt
  · exact absurd h'.holds (h.none j' hlt h'.lt)
  · rfl
  · exact absurd h.holds (h'.none j hlt h.lt)

theorem newest_succ_of (hk : P k) : Newest P (k + 1) k :=
  ⟨Nat.lt_succ_self k, hk, noneIn_self P (k + 1)⟩

/-- One step further on, the newest occurrence is the step just taken or the one before it. -/
theorem newest_succ_iff : Newest P (k + 1) j ↔ (P k ∧ j = k) ∨ (¬ P k ∧ Newest P k j) := by
  refine ⟨?_, ?_⟩
  · intro h
    by_cases hk : P k
    · exact Or.inl ⟨hk, h.eq (newest_succ_of hk)⟩
    · have hlt : j < k := by
        have := h.lt
        have hne : j ≠ k := fun he ↦ hk (he ▸ h.holds)
        omega
      exact Or.inr ⟨hk, hlt, h.holds, h.none.mono le_rfl (Nat.le_succ k)⟩
  · rintro (⟨hk, rfl⟩ | ⟨hk, h⟩)
    · exact newest_succ_of hk
    · exact ⟨h.lt.trans (Nat.lt_succ_self k), h.holds,
        (noneIn_succ_iff h.lt).mpr ⟨h.none, hk⟩⟩

/-- Where `P` holds at every `c`-th index up to `n`, the newest occurrence is `c` indices back. -/
theorem Newest.eq_add_of_mod {c r n : ℕ} (hP : ∀ m, P m ↔ m % c = r ∧ m < n) (h : Newest P k j)
    (hk : P k) : k = j + c := by
  obtain ⟨hkr, hkn⟩ := (hP k).mp hk
  obtain ⟨hjr, -⟩ := (hP j).mp h.holds
  have hjk := h.lt
  have hdvd : c ∣ k - j :=
    Nat.dvd_of_mod_eq_zero (Nat.sub_mod_eq_zero_of_mod_eq (hkr.trans hjr.symm))
  have hle : c ≤ k - j := Nat.le_of_dvd (by omega) hdvd
  by_contra hne
  have hc : 0 < c := Nat.pos_of_dvd_of_pos hdvd (by omega)
  exact h.none (j + c) (by omega) (by omega)
    ((hP (j + c)).mpr ⟨by rw [Nat.add_mod_right, hjr], by omega⟩)

/-! ## Since the newest reset -/

/-- `P` has held since `Q` last did. -/
def Since (P Q : ℕ → Prop) (k : ℕ) : Prop := ∃ j < k, P j ∧ NoneIn Q (j + 1) k

theorem not_since_zero (P Q : ℕ → Prop) : ¬ Since P Q 0 :=
  fun ⟨j, hj, _⟩ ↦ Nat.not_lt_zero j hj

theorem since_succ_iff : Since P Q (k + 1) ↔ P k ∨ (Since P Q k ∧ ¬ Q k) := by
  refine ⟨?_, ?_⟩
  · rintro ⟨j, hj, hP, hnone⟩
    rcases Nat.lt_succ_iff_lt_or_eq.mp hj with hlt | rfl
    · obtain ⟨hnone, hQ⟩ := (noneIn_succ_iff hlt).mp hnone
      exact Or.inr ⟨⟨j, hlt, hP, hnone⟩, hQ⟩
    · exact Or.inl hP
  · rintro (hP | ⟨⟨j, hj, hP, hnone⟩, hQ⟩)
    · exact ⟨k, Nat.lt_succ_self k, hP, noneIn_self Q (k + 1)⟩
    · exact ⟨j, hj.trans (Nat.lt_succ_self k), hP, (noneIn_succ_iff hj).mpr ⟨hnone, hQ⟩⟩

/-- What has held since the newest reset has still done so while there is no further one. -/
theorem Since.of_noneIn {i : ℕ} (h : Since P Q i) (hik : i ≤ k) (hnone : NoneIn Q i k) :
    Since P Q k := by
  obtain ⟨j, hj, hP, hnone'⟩ := h
  refine ⟨j, hj.trans_le hik, hP, fun m hjm hmk ↦ ?_⟩
  rcases Nat.lt_or_ge m i with hmi | him
  · exact hnone' m hjm hmi
  · exact hnone m him hmk

/-- Of the occurrences of `S`, which `P` is one kind of, only the newest and those before it can be
what has held since the newest reset. -/
theorem since_iff_of_newest {S : ℕ → Prop} (hPS : ∀ m, P m → S m) (hj : Newest S k j)
    (hnone : NoneIn Q j k) : Since P Q k ↔ P j ∨ Since P Q j := by
  refine ⟨?_, ?_⟩
  · rintro ⟨m, hm, hP, hnone'⟩
    rcases Nat.lt_trichotomy m j with hlt | rfl | hlt
    · exact Or.inr ⟨m, hlt, hP, hnone'.mono le_rfl hj.lt.le⟩
    · exact Or.inl hP
    · exact absurd (hPS m hP) (hj.none m hlt hm)
  · rintro (hP | hsince)
    · exact ⟨j, hj.lt, hP, hnone.mono (Nat.le_succ j) le_rfl⟩
    · exact hsince.of_noneIn hj.lt.le hnone

/-- Nothing has held since a reset that came after the newest occurrence. -/
theorem not_since_of_newest {S : ℕ → Prop} (hPS : ∀ m, P m → S m) (hPQ : ∀ m, P m → ¬ Q m)
    (hj : Newest S k j) (hsome : ¬ NoneIn Q j k) : ¬ Since P Q k := by
  rintro ⟨m, hm, hP, hnone⟩
  refine hsome fun i hji hik hQ ↦ ?_
  have hmj : m ≤ j := Nat.le_of_not_lt fun hlt ↦ hj.none m hlt hm (hPS m hP)
  rcases Nat.eq_or_lt_of_le (hmj.trans hji) with rfl | hmi
  · exact hPQ m hP hQ
  · exact hnone i hmi hik hQ

/-- What had held since the newest reset no longer has when there has been a further reset, and it
has not held again. -/
theorem not_since_iff {i : ℕ} (h : Since P Q i) (hik : i ≤ k) (hPQ : ∀ m, P m → ¬ Q m) :
    ¬ Since P Q k ↔ ∃ d, i ≤ d ∧ d < k ∧ Q d ∧ NoneIn P (d + 1) k := by
  refine ⟨?_, ?_⟩
  · intro hno
    have hreset : ∃ m, i ≤ m ∧ m < k ∧ Q m := by
      by_contra hnone
      push Not at hnone
      exact hno (h.of_noneIn hik hnone)
    obtain ⟨m, him, hmk, hQ⟩ := hreset
    obtain ⟨d, hmd, hd⟩ := exists_newest hmk hQ
    refine ⟨d, him.trans hmd, hd.lt, hd.holds, fun n hdn hnk hP ↦ ?_⟩
    exact hno ⟨n, hnk, hP, hd.none.mono (Nat.le_succ_of_le hdn) le_rfl⟩
  · rintro ⟨d, -, hdk, hQ, hnone⟩ ⟨m, hmk, hP, hnone'⟩
    rcases Nat.lt_trichotomy m d with hlt | rfl | hlt
    · exact hnone' d hlt hdk hQ
    · exact hPQ m hP hQ
    · exact hnone m hlt hmk hP

/-! ## Windows -/

/-- A window opens at `b`: at the start of the run, or right after an index where `P` holds. -/
def OpensAt (P : ℕ → Prop) (b : ℕ) : Prop := b = 0 ∨ ∃ g, b = g + 1 ∧ P g

/-- Before every index there is a newest place where a window opens. -/
theorem exists_opensAt (P : ℕ → Prop) (k : ℕ) : ∃ b ≤ k, OpensAt P b ∧ NoneIn P b k := by
  by_cases h : ∃ g < k, P g
  · obtain ⟨g, hg, hP⟩ := h
    obtain ⟨m, -, hm⟩ := exists_newest hg hP
    exact ⟨m + 1, hm.lt, Or.inr ⟨m, rfl, hm.holds⟩, hm.none⟩
  · push Not at h
    exact ⟨0, Nat.zero_le k, Or.inl rfl, fun m _ hm ↦ h m hm⟩

/-- How often `P` holds from `b` up to, but not at, `k`. -/
def countIn (P : ℕ → Prop) [DecidablePred P] (b k : ℕ) : ℕ :=
  Nat.count (fun m ↦ P (b + m)) (k - b)

variable [DecidablePred P]

@[simp] theorem countIn_self (b : ℕ) : countIn P b b = 0 := by
  simp [countIn]

theorem countIn_succ {b : ℕ} (hb : b ≤ k) :
    countIn P b (k + 1) = countIn P b k + if P k then 1 else 0 := by
  rw [countIn, countIn, Nat.succ_sub hb, Nat.count_succ]
  simp only [Nat.add_sub_cancel' hb]

/-- Where `P` has held in a window, it is counted there. -/
theorem countIn_pos {b : ℕ} (hb : b ≤ j) (hj : j < k) (hP : P j) : 0 < countIn P b k := by
  refine Nat.pos_of_ne_zero (Nat.count_ne_iff_exists.mpr ⟨j - b, by omega, ?_⟩)
  rwa [Nat.add_sub_cancel' hb]

end Transition
