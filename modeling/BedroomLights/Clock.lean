import BedroomLights.Transition.Newest
import Mathlib.Algebra.Order.Group.Nat
import Mathlib.Tactic.Ring

/-!
# Clocks that wrap

A hardware tick counter of width `w` shows the low `w` bits of a real time that never wraps.  A
program sees only the counter, and there are two idioms for asking it whether a time has come.

* **Subtract, then compare**: `now - start > wait`.  The difference of two readings is the real
  time between them as long as that is less than one revolution of the counter
  (`toNat_sub_ofNat`), so the answer does not depend on where the counter wraps.
* **Compare with a deadline**: `now > next`, with `next = now' + period` computed earlier.  For a
  deadline at most a revolution old the answer is right exactly when the counter has not wrapped
  since (`ofNat_lt_ofNat_iff`).

`Rearming` is the second idiom as a task: each call compares the clock with the deadline, and a
call that finds it passed activates and sets the next one.  `Rearming.all_due_activate_iff` is what
is true of it under a bound on the time between calls: the calls that are due all activate exactly
when none of them is separated from its deadline by a wrap of the counter.
`Rearming.all_spaced_iff` is the other side: the calls that come before their deadline all leave it
alone exactly when none of them is separated from it by a wrap.
-/

set_option autoImplicit false

open Transition

namespace Clock

variable {w : ℕ}

/-- **Elapsed time survives a wrap** as long as it is less than one revolution. -/
theorem toNat_sub_ofNat {t u : ℕ} (hut : u ≤ t) (hlt : t < u + 2 ^ w) :
    (BitVec.ofNat w t - BitVec.ofNat w u).toNat = t - u := by
  obtain ⟨d, rfl⟩ := Nat.exists_eq_add_of_le hut
  have hd : d < 2 ^ w := by omega
  have h : BitVec.ofNat w (u + d) = BitVec.ofNat w u + BitVec.ofNat w d := BitVec.ofNat_add u d
  rw [h, BitVec.add_comm, BitVec.add_sub_cancel, BitVec.toNat_ofNat, Nat.mod_eq_of_lt hd,
    Nat.add_sub_cancel_left]

/-- Subtract, then compare: the answer is the real one. -/
theorem lt_sub_ofNat_iff {wait : BitVec w} {t u : ℕ} (hut : u ≤ t) (hlt : t < u + 2 ^ w) :
    wait < BitVec.ofNat w t - BitVec.ofNat w u ↔ u + wait.toNat < t := by
  rw [BitVec.lt_def, toNat_sub_ofNat hut hlt]
  omega

/-- A deadline set up to one revolution ago looks passed exactly when it has passed and the
counter has not wrapped since. -/
theorem ofNat_lt_ofNat_iff {t u : ℕ} (hut : u ≤ t) (hlt : t < u + 2 ^ w) :
    BitVec.ofNat w u < BitVec.ofNat w t ↔ u < t ∧ u / 2 ^ w = t / 2 ^ w := by
  rw [BitVec.lt_def, BitVec.toNat_ofNat, BitVec.toNat_ofNat]
  have hu := Nat.div_add_mod u (2 ^ w)
  have ht := Nat.div_add_mod t (2 ^ w)
  have hmu : u % 2 ^ w < 2 ^ w := Nat.mod_lt _ (Nat.two_pow_pos w)
  rcases Nat.eq_or_lt_of_le (Nat.div_le_div_right (c := 2 ^ w) hut) with heq | hdiv
  · rw [heq] at hu
    simp only [heq, and_true]
    omega
  · -- the counter has wrapped: `t` shows less than `u` does
    have hmul : 2 ^ w * (u / 2 ^ w) + 2 ^ w ≤ 2 ^ w * (t / 2 ^ w) := by
      rw [← Nat.mul_succ]
      exact Nat.mul_le_mul_left _ hdiv
    refine ⟨fun h ↦ by omega, fun h ↦ absurd h.2 hdiv.ne⟩

/-- A deadline that is still up to one revolution ahead looks passed exactly when it has wrapped and
the counter has not. -/
theorem ofNat_lt_ofNat_iff_of_le {t u : ℕ} (htu : t ≤ u) (hlt : u < t + 2 ^ w) :
    BitVec.ofNat w u < BitVec.ofNat w t ↔ t / 2 ^ w ≠ u / 2 ^ w := by
  rw [BitVec.lt_def, BitVec.toNat_ofNat, BitVec.toNat_ofNat]
  have hu := Nat.div_add_mod u (2 ^ w)
  have ht := Nat.div_add_mod t (2 ^ w)
  rcases Nat.eq_or_lt_of_le (Nat.div_le_div_right (c := 2 ^ w) htu) with heq | hdiv
  · rw [← heq] at hu
    exact iff_of_false (by omega) (not_ne_iff.mpr heq)
  · have hmul : 2 ^ w * (t / 2 ^ w) + 2 ^ w ≤ 2 ^ w * (u / 2 ^ w) := by
      rw [← Nat.mul_succ]
      exact Nat.mul_le_mul_left _ hdiv
    exact iff_of_true (by omega) hdiv.ne

/-! ## Tasks that re-arm themselves -/

/-- A task on a wrapping clock: at the indices where it is called, it compares the clock with a
deadline, and `armed` says that the deadline it finds is the one its newest activation set. -/
structure Rearming (w : ℕ) where
  /-- The time from an activation to the next deadline. -/
  period : ℕ
  /-- The real time of a step. -/
  time : ℕ → ℕ
  /-- The step is a call of the task. -/
  Calls : ℕ → Prop
  /-- The deadline a call finds. -/
  next : ℕ → BitVec w
  /-- A deadline is set by the newest activation and by nothing else. -/
  armed : ∀ {i k : ℕ}, Newest (fun m ↦ Calls m ∧ next m < BitVec.ofNat w (time m)) k i →
    Calls k → next k = BitVec.ofNat w (time i + period)

namespace Rearming

variable (T : Rearming w)

/-- The call finds its deadline passed. -/
def Activates (k : ℕ) : Prop := T.Calls k ∧ T.next k < BitVec.ofNat w (T.time k)

/-- More than a period of real time has gone by since the newest activation. -/
structure Due (i k : ℕ) : Prop where
  /-- The newest activation. -/
  newest : Newest T.Activates k i
  /-- A call. -/
  calls : T.Calls k
  /-- The real time between them. -/
  late : T.time i + T.period < T.time k

/-- Consecutive calls are at least one tick and at most `G` ticks apart. -/
def Cadence (G : ℕ) : Prop :=
  ∀ p k, Newest T.Calls k p → T.Calls k → T.time p + 1 ≤ T.time k ∧ T.time k ≤ T.time p + G

/-- At most a period of real time has gone by since the newest activation. -/
structure Early (i k : ℕ) : Prop where
  /-- The newest activation. -/
  newest : Newest T.Activates k i
  /-- A call. -/
  calls : T.Calls k
  /-- The real time between them. -/
  soon : T.time k ≤ T.time i + T.period

variable {T}

/-- A due call activates exactly when the counter has not wrapped since its deadline, provided the
deadline is at most a revolution old. -/
theorem Due.activates_iff {i k : ℕ} (h : T.Due i k)
    (hlt : T.time k < T.time i + T.period + 2 ^ w) :
    T.Activates k ↔ (T.time i + T.period) / 2 ^ w = T.time k / 2 ^ w := by
  rw [Activates, T.armed h.newest h.calls, ofNat_lt_ofNat_iff h.late.le hlt]
  exact ⟨fun h' ↦ h'.2.2, fun h' ↦ ⟨h.calls, h.late, h'⟩⟩

/-- Where every due call so far has activated, a call cannot be more than the gap between two
calls late: the call before it was not due yet. -/
theorem Due.time_le {G i k : ℕ} (hG : T.Cadence G) (h : T.Due i k)
    (hprev : ∀ k', k' < k → T.Due i k' → T.Activates k') :
    T.time k ≤ T.time i + T.period + G := by
  obtain ⟨p, hip, hp⟩ := exists_newest h.newest.lt h.newest.holds.1
  have hgap := (hG p k hp h.calls).2
  rcases Nat.eq_or_lt_of_le hip with rfl | hlt
  · omega
  · have hnew : Newest T.Activates p i :=
      ⟨hlt, h.newest.holds, h.newest.none.mono le_rfl hp.lt.le⟩
    have hnot : ¬ T.Due i p := fun hd ↦ h.newest.none p hlt hp.lt (hprev p hp.lt hd)
    have hle : T.time p ≤ T.time i + T.period := by
      by_contra hlate
      exact hnot ⟨hnew, hp.holds, Nat.lt_of_not_le hlate⟩
    omega

/-- **When no due call is missed.**  In the first `n` steps of a run whose calls are at most `G`
ticks apart, every call that is due activates if and only if the counter never wraps between a
deadline and the call that is due for it. -/
theorem all_due_activate_iff {G : ℕ} (hG : T.Cadence G) (hlt : G + T.period < 2 ^ w) (n : ℕ) :
    (∀ i k, k < n → T.Due i k → T.Activates k) ↔
      ∀ i k, k < n → T.Due i k → (T.time i + T.period) / 2 ^ w = T.time k / 2 ^ w := by
  refine ⟨?_, ?_⟩
  · intro hall i k hkn hd
    have hle := hd.time_le hG fun k' hk' ↦ hall i k' (hk'.trans hkn)
    exact (hd.activates_iff (by omega)).mp (hall i k hkn hd)
  · intro hrev i k
    induction k using Nat.strongRecOn with
    | _ k ih =>
      intro hkn hd
      have hle := hd.time_le hG fun k' hk' ↦ ih k' hk' (hk'.trans hkn)
      exact (hd.activates_iff (by omega)).mpr (hrev i k hkn hd)

/-- Real time goes on from call to call. -/
theorem Cadence.time_lt {G i k : ℕ} (hG : T.Cadence G) (hi : T.Calls i) (hk : T.Calls k)
    (hik : i < k) : T.time i < T.time k := by
  induction k using Nat.strongRecOn with
  | _ k ih =>
    obtain ⟨p, hip, hp⟩ := exists_newest hik hi
    have hpk := (hG p k hp hk).1
    rcases Nat.eq_or_lt_of_le hip with rfl | hlt
    · omega
    · have := ih p hp.lt hp.holds hlt
      omega

/-- An early call activates exactly when the counter has yet to wrap before its deadline. -/
theorem Early.activates_iff {G i k : ℕ} (hG : T.Cadence G) (hlt : T.period < 2 ^ w)
    (h : T.Early i k) :
    T.Activates k ↔ T.time k / 2 ^ w ≠ (T.time i + T.period) / 2 ^ w := by
  have htime := hG.time_lt h.newest.holds.1 h.calls h.newest.lt
  rw [Activates, T.armed h.newest h.calls, ofNat_lt_ofNat_iff_of_le h.soon (by omega)]
  exact and_iff_right h.calls

/-- **When no activation is early.**  In the first `n` steps of a run, any two consecutive
activations are more than a period apart if and only if the counter never wraps between an early
call and its deadline. -/
theorem all_spaced_iff {G : ℕ} (hG : T.Cadence G) (hlt : T.period < 2 ^ w) (n : ℕ) :
    (∀ i k, k < n → Newest T.Activates k i → T.Activates k → T.time i + T.period < T.time k) ↔
      ∀ i k, k < n → T.Early i k → T.time k / 2 ^ w = (T.time i + T.period) / 2 ^ w := by
  refine ⟨?_, ?_⟩
  · intro hall i k hkn hearly
    by_contra hne
    have hlate := hall i k hkn hearly.newest ((hearly.activates_iff hG hlt).mpr hne)
    exact absurd hearly.soon (Nat.not_le.mpr hlate)
  · intro hwrap i k hkn hnew hact
    by_contra hsoon
    have hearly : T.Early i k := ⟨hnew, hact.1, Nat.le_of_not_lt hsoon⟩
    exact (hearly.activates_iff hG hlt).mp hact (hwrap i k hkn hearly)

end Rearming
end Clock
