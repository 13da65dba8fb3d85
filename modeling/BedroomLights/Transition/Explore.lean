import BedroomLights.Transition.Run

/-!
# Depth-first exploration with an explicit stack

A search looks at items one at a time.  Looking at an item changes a state, and says whether the
item has to be taken apart into a left and a right part that are then searched in its place, the
left one first.  A program keeps what it still has to look at on a stack of a fixed capacity;
`Explorer.loop` is that program as a machine that goes wrong when the stack is full.

* `Explorer.Explores s i s' n` is the search without a stack: searching `i` takes `s` to `s'` and
  looks at `n` items.  Properties of the search are proved by induction over it.
* `Explorer.exists_explores` says that every search ends, and `Explorer.state_of_explores` that the
  loop does what the search does.
* `Explorer.exists_state` says that a capacity of one more than the height of the first item is
  enough, at every moment: the deeper the item, the more may lie on the stack below it.  By
  `Explorer.exists_state_eq_none`, less is not when the left parts are as high as they can be.
-/

set_option autoImplicit false

namespace Transition

variable {ι σ : Type*}

/-- A search.  An item that is taken apart is higher than its two parts. -/
structure Explorer (ι σ : Type*) where
  /-- Looking at an item: what it does to the state, and whether the item is to be taken apart. -/
  visit : σ → ι → σ × Bool
  left : ι → ι
  right : ι → ι
  /-- How often an item can be taken apart. -/
  height : ι → ℕ
  height_left : ∀ s i, (visit s i).2 = true → height (left i) < height i
  height_right : ∀ s i, (visit s i).2 = true → height (right i) < height i

namespace Explorer

variable (E : Explorer ι σ)

/-! ## The search -/

/-- Searching `i` takes `s` to `s'` and looks at `n` items. -/
inductive Explores : σ → ι → σ → ℕ → Prop where
  | leaf {s s' : σ} {i : ι} (hvisit : E.visit s i = (s', false)) : Explores s i s' 1
  | node {s s₁ s₂ s' : σ} {i : ι} {m n : ℕ} (hvisit : E.visit s i = (s₁, true))
    (hleft : Explores s₁ (E.left i) s₂ m) (hright : Explores s₂ (E.right i) s' n) :
    Explores s i s' (m + n + 1)

/-- **Every search ends.** -/
theorem exists_explores (s : σ) (i : ι) : ∃ s' n, E.Explores s i s' n := by
  generalize hh : E.height i = h
  induction h using Nat.strongRecOn generalizing s i with
  | _ h ih =>
    subst hh
    match hvisit : E.visit s i with
    | (s₁, false) => exact ⟨s₁, 1, .leaf hvisit⟩
    | (s₁, true) =>
      have hmore : (E.visit s i).2 = true := by rw [hvisit]
      obtain ⟨s₂, m, hleft⟩ := ih _ (E.height_left s i hmore) s₁ (E.left i) rfl
      obtain ⟨s', n, hright⟩ := ih _ (E.height_right s i hmore) s₂ (E.right i) rfl
      exact ⟨s', m + n + 1, .node hvisit hleft hright⟩

/-- How many items a search looks at, at most. -/
theorem Explores.lt_two_pow {E : Explorer ι σ} {s s' : σ} {i : ι} {n : ℕ}
    (h : E.Explores s i s' n) : n < 2 ^ (E.height i + 1) := by
  induction h with
  | leaf => exact Nat.one_lt_two_pow (Nat.succ_ne_zero _)
  | @node s s₁ s₂ s' i m n hvisit hleft hright ihleft ihright =>
    have hmore : (E.visit s i).2 = true := by rw [hvisit]
    have hm := ihleft.trans_le (Nat.pow_le_pow_right Nat.two_pos (E.height_left s i hmore))
    have hn := ihright.trans_le (Nat.pow_le_pow_right Nat.two_pos (E.height_right s i hmore))
    rw [pow_succ]
    omega

/-! ## The loop -/

/-- One pass through the loop, on a stack of the given capacity whose top is the head of the
list. -/
def step (cap : ℕ) : List ι × σ → Unit → Option (List ι × σ)
  | ([], s), _ => some ([], s)
  | (i :: rest, s), _ =>
    if (E.visit s i).2 then
      if rest.length + 2 ≤ cap then some (E.left i :: E.right i :: rest, (E.visit s i).1) else none
    else some (rest, (E.visit s i).1)

/-- The loop, started with one item on the stack. -/
def loop (cap : ℕ) (i : ι) (s : σ) : Run (List ι × σ) Unit := ⟨E.step cap, ([i], s), fun _ ↦ ()⟩

/-- Every item on the stack is low enough for what lies below it. -/
def Low (cap : ℕ) : List ι → Prop
  | [] => True
  | i :: rest => E.height i + rest.length < cap ∧ Low cap rest

variable {E} {cap : ℕ} {s s' : σ} {i : ι} {rest : List ι} {n : ℕ}

theorem Low.length_le {stack : List ι} (h : E.Low cap stack) : stack.length ≤ cap := by
  cases stack with
  | nil => exact Nat.zero_le cap
  | cons i rest =>
    have hi := h.1
    rw [List.length_cons]
    omega

/-- The parts of an item fit on the stack when the item did. -/
theorem Low.parts (h : E.Low cap (i :: rest)) (hmore : (E.visit s i).2 = true) :
    rest.length + 2 ≤ cap ∧ E.Low cap (E.left i :: E.right i :: rest) := by
  have hi := h.1
  have hleft := E.height_left s i hmore
  have hright := E.height_right s i hmore
  refine ⟨by omega, ?_, ?_, h.2⟩
  · rw [List.length_cons]
    omega
  · omega

theorem step_of_leaf (hvisit : E.visit s i = (s', false)) :
    E.step cap (i :: rest, s) () = some (rest, s') := by
  rw [step, hvisit, if_neg Bool.false_ne_true]

theorem step_of_node (h : E.Low cap (i :: rest)) (hvisit : E.visit s i = (s', true)) :
    E.step cap (i :: rest, s) () = some (E.left i :: E.right i :: rest, s') := by
  rw [step, hvisit, if_pos rfl, if_pos (h.parts (s := s) (by rw [hvisit])).1]

/-- The state after a pass is that after the visit of the item on top. -/
theorem snd_of_step {c' : List ι × σ} (h : E.step cap (i :: rest, s) () = some c') :
    c'.2 = (E.visit s i).1 := by
  rw [step] at h
  split_ifs at h <;> cases h <;> rfl

/-- A pass neither overflows the stack nor leaves too high an item on it. -/
theorem exists_step (c : List ι × σ) (h : E.Low cap c.1) :
    ∃ c', E.step cap c () = some c' ∧ E.Low cap c'.1 := by
  match c, h with
  | ([], s), _ => exact ⟨([], s), rfl, trivial⟩
  | (i :: rest, s), h =>
    match hvisit : E.visit s i with
    | (s', false) => exact ⟨_, step_of_leaf hvisit, h.2⟩
    | (s', true) => exact ⟨_, step_of_node h hvisit, (h.parts (s := s) (by rw [hvisit])).2⟩

/-- **The stack never overflows.** -/
theorem exists_state (hcap : E.height i < cap) (k : ℕ) :
    ∃ c, (E.loop cap i s).state k = some c ∧ E.Low cap c.1 := by
  induction k with
  | zero => exact ⟨([i], s), rfl, hcap, trivial⟩
  | succ k ih =>
    obtain ⟨c, hc, hlow⟩ := ih
    obtain ⟨c', hc', hlow'⟩ := exists_step c hlow
    exact ⟨c', (Run.state_succ_of hc).trans hc', hlow'⟩

/-- The loop searches the item on top of its stack and takes it off. -/
theorem state_add_of_explores {R : Run (List ι × σ) Unit} (hR : R.step = E.step cap)
    (h : E.Explores s i s' n) : ∀ {k : ℕ} {rest : List ι}, E.Low cap (i :: rest) →
      R.state k = some (i :: rest, s) → R.state (k + n) = some (rest, s') := by
  induction h with
  | leaf hvisit =>
    intro k rest _ hk
    rw [Run.state_succ_of hk, hR]
    exact step_of_leaf hvisit
  | @node s s₁ s₂ s' i m n hvisit hleft hright ihleft ihright =>
    intro k rest hlow hk
    have hparts := (hlow.parts (s := s) (by rw [hvisit])).2
    have hk₁ : R.state (k + 1) = some (E.left i :: E.right i :: rest, s₁) := by
      rw [Run.state_succ_of hk, hR]
      exact step_of_node hlow hvisit
    have hk₂ := ihright hparts.2 (ihleft hparts hk₁)
    rwa [show k + (m + n + 1) = k + 1 + m + n by omega]

/-- **The loop does what the search does**, and then has nothing left to look at. -/
theorem state_of_explores (hcap : E.height i < cap) (h : E.Explores s i s' n) :
    (E.loop cap i s).state n = some ([], s') := by
  have hrun : (E.loop cap i s).state (0 + n) = some ([], s') :=
    state_add_of_explores rfl h ⟨hcap, trivial⟩ rfl
  rwa [Nat.zero_add] at hrun

/-! ## The stack at its largest -/

/-- While every left part is taken apart, the stack grows with every pass. -/
theorem exists_state_of_left {P : σ → Prop} (hs : P s) {k : ℕ} (hcap : k ≤ cap - 1)
    (hmore : ∀ j < k, ∀ s, P s →
      (E.visit s (E.left^[j] i)).2 = true ∧ P (E.visit s (E.left^[j] i)).1) :
    ∃ rest s', (E.loop cap i s).state k = some (E.left^[k] i :: rest, s') ∧ rest.length = k ∧
      P s' := by
  induction k with
  | zero => exact ⟨[], s, rfl, rfl, hs⟩
  | succ k ih =>
    obtain ⟨rest, s', hstate, hlen, hs'⟩ :=
      ih (Nat.le_of_succ_le hcap) fun j hj ↦ hmore j (Nat.lt_succ_of_lt hj)
    obtain ⟨hvisit, hP⟩ := hmore k (Nat.lt_succ_self k) s' hs'
    refine ⟨E.right (E.left^[k] i) :: rest, (E.visit s' (E.left^[k] i)).1, ?_, ?_, hP⟩
    · rw [Run.state_succ_of hstate, Function.iterate_succ_apply']
      show E.step cap (E.left^[k] i :: rest, s') () = _
      rw [step, if_pos hvisit, if_pos (by omega)]
    · rw [List.length_cons, hlen]

/-- **The stack overflows** if the left parts can be taken apart as often as it has room for. -/
theorem exists_state_eq_none {P : σ → Prop} (hs : P s)
    (hmore : ∀ j ≤ cap - 1, ∀ s, P s →
      (E.visit s (E.left^[j] i)).2 = true ∧ P (E.visit s (E.left^[j] i)).1) :
    ∃ k, (E.loop cap i s).state k = none := by
  obtain ⟨rest, s', hstate, hlen, hs'⟩ :=
    exists_state_of_left hs le_rfl fun j hj ↦ hmore j hj.le
  refine ⟨cap - 1 + 1, ?_⟩
  rw [Run.state_succ_of hstate]
  show E.step cap (E.left^[cap - 1] i :: rest, s') () = none
  rw [step, if_pos (hmore _ le_rfl s' hs').1, if_neg (by omega)]

end Explorer
end Transition
