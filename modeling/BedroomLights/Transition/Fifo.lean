import BedroomLights.Transition.Run
import BedroomLights.Transition.Newest

/-!
# A queue along a run

Somebody puts items into a queue and somebody else takes the oldest one out, and each of the steps
of a run may do either.  `Run.queue` is the contents of the queue along the run, every item with
the index of the step that put it there, so that "arrived after" is a comparison of indices and
two equal items are still two entries.  A machine that keeps the items of such a queue in its state
keeps exactly these (`Run.map_item_queue`).

Between two indices of a run a queue loses entries at its old end, one for each taking step until it
is empty, and gets others at its new end (`Run.queue_eq_drop_append`).  So an entry that is at the
head later on was in the queue before, or else everything that was in the queue before has been at
the head of it at some taking step in between (`Run.head_old_or_new`).  What has been taken is gone,
and whatever is in the queue afterwards has come later (`Run.step_lt_of_taken`).
-/

set_option autoImplicit false

namespace Transition

variable {σ α μ : Type*}

/-- An item of a queue, and the step that put it there. -/
structure Entry (μ : Type*) where
  step : ℕ
  item : μ
deriving DecidableEq

namespace Run

variable (R : Run σ α) (put : σ → α → Option μ) (Takes : σ → α → Prop)
  [∀ s a, Decidable (Takes s a)]

/-- The queue before step `k`, oldest entry first. -/
def queue : ℕ → List (Entry μ)
  | 0 => []
  | k + 1 => (R.state k).elim (queue k) fun s ↦
      (if Takes s (R.act k) then (queue k).tail else queue k) ++
        ((put s (R.act k)).map (Entry.mk k)).toList

variable {R put Takes} {i k : ℕ} {s : σ}

theorem queue_succ_of (h : R.state k = some s) :
    R.queue put Takes (k + 1) =
      (if Takes s (R.act k) then (R.queue put Takes k).tail else R.queue put Takes k) ++
        ((put s (R.act k)).map (Entry.mk k)).toList := by
  rw [queue, h, Option.elim_some]

/-- A machine that puts and takes the same items keeps the queue. -/
theorem map_item_queue {q : σ → List μ} (start : q R.start = [])
    (step : ∀ s a s', R.step s a = some s' →
      q s' = (if Takes s a then (q s).tail else q s) ++ (put s a).toList)
    (h : R.state k = some s) : (R.queue put Takes k).map Entry.item = q s := by
  refine invariant_at (I := fun k s ↦ (R.queue put Takes k).map Entry.item = q s) ?_ ?_ h
  · rw [queue, List.map_nil, start]
  · intro k s s' hs hI hstep
    have hput : ((put s (R.act k)).map (Entry.mk k)).toList.map Entry.item =
        (put s (R.act k)).toList := by cases put s (R.act k) <;> rfl
    rw [queue_succ_of hs, step s _ s' hstep, ← hI, List.map_append, hput]
    split_ifs
    · rw [List.map_tail]
    · rfl

/-- An entry of the queue was put there by an earlier step, which its index names. -/
theorem put_of_mem_queue {x : Entry μ} (hx : x ∈ R.queue put Takes k) :
    x.step < k ∧ ∃ s, R.state x.step = some s ∧ put s (R.act x.step) = some x.item := by
  induction k with
  | zero => exact absurd hx List.not_mem_nil
  | succ k ih =>
    have hold : x ∈ R.queue put Takes k → _ := fun h ↦
      (⟨(ih h).1.trans (Nat.lt_succ_self k), (ih h).2⟩ : x.step < k + 1 ∧ _)
    cases hs : R.state k with
    | none =>
      rw [queue, hs, Option.elim_none] at hx
      exact hold hx
    | some s =>
      rw [queue_succ_of hs, List.mem_append, Option.mem_toList, Option.map_eq_some_iff] at hx
      rcases hx with hx | ⟨d, hput, rfl⟩
      · split_ifs at hx
        · exact hold (List.mem_of_mem_tail hx)
        · exact hold hx
      · exact ⟨Nat.lt_succ_self k, s, hs, hput⟩

/-- Taking the oldest of some old and some new items away. -/
theorem exists_tail_append (old new : List μ) :
    ∃ new', (old ++ new).tail = old.tail ++ new' ∧ new' ⊆ new := by
  cases old with
  | nil => exact ⟨new.tail, rfl, List.tail_subset new⟩
  | cons x old => exact ⟨new, rfl, List.Subset.refl new⟩

/-- **The law of the queue**: from `i` to `k` it loses its oldest entries, one for each taking step,
and the new ones come from steps since `i`. -/
theorem queue_eq_drop_append (hik : i ≤ k) (h : R.state k = some s) :
    ∃ new, R.queue put Takes k =
        (R.queue put Takes i).drop (countIn (R.At Takes) i k) ++ new ∧
      ∀ x ∈ new, i ≤ x.step := by
  refine invariant_between (I := fun k _ ↦ ∃ new, R.queue put Takes k =
    (R.queue put Takes i).drop (countIn (R.At Takes) i k) ++ new ∧ ∀ x ∈ new, i ≤ x.step)
    ?_ ?_ hik h
  · intro s _
    exact ⟨[], by simp, fun x hx ↦ absurd hx List.not_mem_nil⟩
  · rintro k s s' hik - hs ⟨new, hqueue, hnew⟩ -
    obtain ⟨new', hnew', hsub⟩ :
        ∃ new', (if Takes s (R.act k) then (R.queue put Takes k).tail else R.queue put Takes k) =
          (R.queue put Takes i).drop (countIn (R.At Takes) i (k + 1)) ++ new' ∧ new' ⊆ new := by
      rw [countIn_succ hik, hqueue]
      simp only [at_iff hs]
      split_ifs
      · rw [← List.drop_drop, List.drop_one]
        exact exists_tail_append _ new
      · exact ⟨new, rfl, List.Subset.refl new⟩
    refine ⟨new' ++ _, by rw [queue_succ_of hs, hnew', List.append_assoc], fun x hx ↦ ?_⟩
    rcases List.mem_append.mp hx with hx | hx
    · exact hnew x (hsub hx)
    · obtain ⟨d, -, rfl⟩ := Option.map_eq_some_iff.mp (Option.mem_toList.mp hx)
      exact hik

/-- What a queue has lost has been at its head at a taking step. -/
theorem exists_head_of_mem_take (hik : i ≤ k) (h : R.state k = some s) {x : Entry μ}
    (hx : x ∈ (R.queue put Takes i).take (countIn (R.At Takes) i k)) :
    ∃ j, i ≤ j ∧ j < k ∧ R.At Takes j ∧ (R.queue put Takes j).head? = some x := by
  revert hx
  refine invariant_between (I := fun k _ ↦ x ∈ (R.queue put Takes i).take
    (countIn (R.At Takes) i k) → ∃ j, i ≤ j ∧ j < k ∧ R.At Takes j ∧
      (R.queue put Takes j).head? = some x) ?_ ?_ hik h
  · intro s _ hx
    rw [countIn_self, List.take_zero] at hx
    exact absurd hx List.not_mem_nil
  · intro k s s' hik _ hs hI _ hx
    have hlater : x ∈ (R.queue put Takes i).take (countIn (R.At Takes) i k) →
        ∃ j, i ≤ j ∧ j < k + 1 ∧ R.At Takes j ∧ (R.queue put Takes j).head? = some x := by
      intro hx
      obtain ⟨j, hij, hjk, hj⟩ := hI hx
      exact ⟨j, hij, hjk.trans (Nat.lt_succ_self k), hj⟩
    rw [countIn_succ hik] at hx
    split_ifs at hx with htakes
    · rw [List.take_add, List.mem_append, List.take_one, Option.mem_toList] at hx
      rcases hx with hx | hx
      · exact hlater hx
      · obtain ⟨new, hqueue, -⟩ : ∃ new, R.queue put Takes k =
            (R.queue put Takes i).drop (countIn (R.At Takes) i k) ++ new ∧ _ :=
          queue_eq_drop_append hik hs
        exact ⟨k, hik, Nat.lt_succ_self k, htakes,
          by rw [hqueue, List.head?_append, hx, Option.some_or]⟩
    · exact hlater hx

/-- **The head of a queue** was in the queue before `i`, or else it is new and everything that was
in the queue has been at its head since. -/
theorem head_old_or_new (hik : i ≤ k) (h : R.state k = some s) {x : Entry μ}
    (hx : (R.queue put Takes k).head? = some x) :
    x ∈ R.queue put Takes i ∨ (i ≤ x.step ∧ ∀ y ∈ R.queue put Takes i,
      ∃ j, i ≤ j ∧ j < k ∧ R.At Takes j ∧ (R.queue put Takes j).head? = some y) := by
  obtain ⟨new, hqueue, hnew⟩ : ∃ new, R.queue put Takes k =
      (R.queue put Takes i).drop (countIn (R.At Takes) i k) ++ new ∧ ∀ x ∈ new, i ≤ x.step :=
    queue_eq_drop_append hik h
  rw [hqueue] at hx
  cases hdrop : (R.queue put Takes i).drop (countIn (R.At Takes) i k) with
  | cons y old =>
    rw [hdrop, List.cons_append, List.head?_cons, Option.some_inj] at hx
    have hy : y ∈ (R.queue put Takes i).drop (countIn (R.At Takes) i k) := by
      rw [hdrop]
      exact List.mem_cons_self
    exact Or.inl (hx ▸ List.mem_of_mem_drop hy)
  | nil =>
    rw [hdrop, List.nil_append] at hx
    refine Or.inr ⟨hnew x (List.mem_of_mem_head? hx), fun y hy ↦ ?_⟩
    have htake : (R.queue put Takes i).take (countIn (R.At Takes) i k) = R.queue put Takes i :=
      List.take_of_length_le (List.drop_eq_nil_iff.mp hdrop)
    exact exists_head_of_mem_take hik h (htake.symm ▸ hy)

/-- The entries of a queue are in the order of their steps. -/
theorem pairwise_queue (k : ℕ) :
    (R.queue put Takes k).Pairwise fun x y ↦ x.step < y.step := by
  induction k with
  | zero => exact List.Pairwise.nil
  | succ k ih =>
    cases hs : R.state k with
    | none => rwa [queue, hs, Option.elim_none]
    | some s =>
      rw [queue_succ_of hs, List.pairwise_append]
      have hsub : (if Takes s (R.act k) then (R.queue put Takes k).tail
          else R.queue put Takes k).Sublist (R.queue put Takes k) := by
        split_ifs
        · exact List.tail_sublist _
        · exact List.Sublist.refl _
      refine ⟨ih.sublist hsub, ?_, fun x hx y hy ↦ ?_⟩
      · cases put s (R.act k) <;> simp
      · obtain ⟨d, -, rfl⟩ := Option.map_eq_some_iff.mp (Option.mem_toList.mp hy)
        exact (put_of_mem_queue (hsub.subset hx)).1

/-- **What has been taken is gone**: everything in the queue after a taking step has been put there
after what was taken. -/
theorem step_lt_of_taken (hik : i < k) (hi : R.At Takes i) (h : R.state k = some s) {x y : Entry μ}
    (hx : (R.queue put Takes i).head? = some x) (hy : y ∈ R.queue put Takes k) :
    x.step < y.step := by
  obtain ⟨old, hold⟩ := List.head?_eq_some_iff.mp hx
  have hxi : x.step < i := (put_of_mem_queue (hold ▸ List.mem_cons_self)).1
  obtain ⟨new, hqueue, hnew⟩ : ∃ new, R.queue put Takes k =
      (R.queue put Takes i).drop (countIn (R.At Takes) i k) ++ new ∧ ∀ x ∈ new, i ≤ x.step :=
    queue_eq_drop_append hik.le h
  rw [hqueue, List.mem_append] at hy
  rcases hy with hy | hy
  · obtain ⟨n, hn⟩ := Nat.exists_eq_succ_of_ne_zero (countIn_pos le_rfl hik hi).ne'
    rw [hn, hold, List.drop_succ_cons] at hy
    have hpair : (x :: old).Pairwise fun x y ↦ x.step < y.step := hold ▸ pairwise_queue i
    exact List.rel_of_pairwise_cons hpair (List.mem_of_mem_drop hy)
  · exact hxi.trans_le (hnew y hy)

end Run
end Transition
