import BedroomLights.Firmware.Rdm.Queue
import BedroomLights.Transition.Run

/-!
# What the queue of RDM messages keeps

Statements are about runs: any sequence of calls of `rdm_queue_push` and `rdm_queue_pop`, from an
empty queue on.

* `queue_fifo`: what has been taken from the queue and what is still in it is what has been added to
  it, in order; nothing is in it twice.
* `rdmQueuePush_outcome`: what a push does, in terms of what has been added before.  When that is as
  many as the array has elements, or a multiple of it, and the queue is not empty, the push of a
  parameter that is not in the queue does not end; or, if the parameter is among the last that have
  been added, it reports success and adds nothing.
-/

set_option autoImplicit false

open Transition

namespace BedroomLights

variable {n : ℕ} {q q' : RdmQueue n} {pid : BitVec 16} {i passes : ℕ}

/-- The parameters in the queue, in the order in which they have been added. -/
def RdmQueue.waiting (q : RdmQueue n) : List (BitVec 16) := Ring.waiting q.data.bytes q.head q.tail

theorem RdmQueue.head_lt_length (q : RdmQueue n) : q.head < q.data.bytes.length :=
  q.head_lt.trans_eq q.data.length_bytes.symm

theorem RdmQueue.tail_lt_length (q : RdmQueue n) : q.tail < q.data.bytes.length :=
  q.tail_lt.trans_eq q.data.length_bytes.symm

theorem RdmQueue.length_waiting (q : RdmQueue n) :
    q.waiting.length = Ring.size n q.head q.tail := by
  rw [RdmQueue.waiting, Ring.length_waiting q.head_lt_length q.tail_lt_length, q.data.length_bytes]

/-! ## The loop -/

/-- The element of an array at an index, and those after it. -/
theorem mem_drop_iff (pid : BitVec 16) {l : List (BitVec 16)} (hi : i < l.length) :
    pid ∈ l.drop i ↔ l[i]? = some pid ∨ pid ∈ l.drop (i + 1) := by
  rw [List.drop_eq_getElem_cons hi, List.mem_cons, List.getElem?_eq_getElem hi, Option.some_inj,
    eq_comm]

theorem mem_take_drop_iff (pid : BitVec 16) {l : List (BitVec 16)} {k : ℕ} (hi : i < l.length) :
    pid ∈ (l.drop i).take (k + 1) ↔ l[i]? = some pid ∨ pid ∈ (l.drop (i + 1)).take k := by
  rw [List.drop_eq_getElem_cons hi, List.take_succ_cons, List.mem_cons, List.getElem?_eq_getElem hi,
    Option.some_inj, eq_comm]

theorem scan_head (pid : BitVec 16) (passes : ℕ) :
    q.scan pid (passes + 1) q.head = some false := by
  rw [RdmQueue.scan, if_pos rfl]

/-- A pass inside the array. -/
theorem scan_of_lt (hne : i ≠ q.head) (hi : i < n) :
    q.scan pid (passes + 1) i =
      if q.data.bytes[i]? = some pid then some true else q.scan pid passes (i + 1) := by
  rw [RdmQueue.scan, if_neg hne]
  dsimp only
  rw [if_neg hi.ne]

/-- A pass at its end. -/
theorem scan_end : q.scan pid (passes + 1) n =
    if q.data.bytes[0]? = some pid then some true else q.scan pid passes 1 := by
  rw [RdmQueue.scan, if_neg q.head_lt.ne']
  dsimp only
  rw [if_pos rfl]

/-- From an index that is not behind `head`, the loop goes through what is in front of it. -/
theorem scan_to_head (hi : i ≤ q.head) (hpasses : q.head - i < passes) :
    q.scan pid passes i = some (decide (pid ∈ (q.data.bytes.drop i).take (q.head - i))) := by
  induction passes generalizing i with
  | zero => exact absurd hpasses (Nat.not_lt_zero _)
  | succ passes ih =>
    rcases Nat.eq_or_lt_of_le hi with rfl | hlt
    · rw [scan_head, Nat.sub_self, List.take_zero, decide_eq_false List.not_mem_nil]
    · have hn := hlt.trans q.head_lt
      obtain ⟨k, hk⟩ := Nat.exists_eq_add_of_lt hlt
      rw [scan_of_lt hlt.ne hn, ih (Nat.succ_le_of_lt hlt) (by omega),
        show q.head - i = k + 1 by omega, show q.head - (i + 1) = k by omega]
      have hmem := mem_take_drop_iff pid (k := k) (l := q.data.bytes)
        (by rw [q.data.length_bytes]; exact hn)
      split_ifs with heq
      · rw [decide_eq_true (hmem.mpr (Or.inl heq))]
      · rw [decide_eq_decide.mpr (hmem.trans (or_iff_right heq))]

/-- At the end of the array the loop goes on at its start, unless `head` is there. -/
theorem scan_end_eq (h : q.head ≠ 0) : q.scan pid passes n = q.scan pid passes 0 := by
  cases passes with
  | zero => rfl
  | succ passes => rw [scan_end, scan_of_lt h.symm (Nat.zero_lt_of_lt q.head_lt)]

/-- From an index behind `head`, the loop goes through the end of the array and then through what is
in front of `head`, unless `head` is at the start. -/
theorem scan_around (h : q.head ≠ 0) (hi : q.head < i) (hn : i ≤ n)
    (hpasses : n - i + q.head < passes) :
    q.scan pid passes i =
      some (decide (pid ∈ q.data.bytes.drop i ++ q.data.bytes.take q.head)) := by
  induction passes generalizing i with
  | zero => exact absurd hpasses (Nat.not_lt_zero _)
  | succ passes ih =>
    rcases Nat.eq_or_lt_of_le hn with rfl | hlt
    · rw [scan_end_eq h, scan_to_head (Nat.zero_le _) (by omega), List.drop_zero, Nat.sub_zero,
        List.drop_eq_nil_of_le (by rw [q.data.length_bytes]), List.nil_append]
    · have hmem := mem_drop_iff pid (l := q.data.bytes)
        (by rw [q.data.length_bytes]; exact hlt)
      rw [scan_of_lt hi.ne' hlt, ih (Nat.lt_succ_of_lt hi) hlt (by omega)]
      simp only [List.mem_append, hmem]
      split_ifs with heq
      · rw [decide_eq_true (Or.inl (Or.inl heq))]
      · simp only [heq, false_or]

/-- **The loop looks for the parameter in the queue**, unless `head` has come to the start of the
array and `tail` has not. -/
theorem scan_eq (h : ¬ (q.head = 0 ∧ q.tail ≠ 0)) :
    q.scan pid (2 * n + 1) q.tail = some (decide (pid ∈ q.waiting)) := by
  rcases Nat.lt_or_ge q.head q.tail with hlt | hle
  · have hzero : q.head ≠ 0 := fun h₀ ↦ h ⟨h₀, by omega⟩
    have htail := q.tail_lt
    rw [scan_around hzero hlt q.tail_lt.le (by omega), RdmQueue.waiting,
      Ring.waiting_of_lt q.tail_lt_length hlt]
  · have hhead := q.head_lt
    rw [scan_to_head hle (by omega), RdmQueue.waiting, Ring.waiting_of_le q.head_lt_length hle]

/-! ## The loop when `head` is at the start of the array -/

/-- A parameter that is nowhere in the array is looked for without end. -/
theorem scan_eq_none (h : q.head = 0) (hi : 0 < i) (hn : i ≤ n) (hpid : pid ∉ q.data.bytes) :
    q.scan pid passes i = none := by
  have hnot : ∀ j, q.data.bytes[j]? ≠ some pid := fun j hj ↦ hpid (List.mem_of_getElem? hj)
  induction passes generalizing i with
  | zero => rfl
  | succ passes ih =>
    rcases Nat.eq_or_lt_of_le hn with rfl | hlt
    · rw [scan_end, if_neg (hnot 0)]
      exact ih Nat.one_pos (Nat.zero_lt_of_lt q.head_lt)
    · rw [scan_of_lt (by omega) hlt, if_neg (hnot i)]
      exact ih (Nat.succ_pos i) hlt

/-- A parameter from an index on is found. -/
theorem scan_found (h : q.head = 0) (hi : 0 < i) (hn : i ≤ n) (hpid : pid ∈ q.data.bytes.drop i)
    (hpasses : n - i ≤ passes) : q.scan pid passes i = some true := by
  induction passes generalizing i with
  | zero =>
    rw [List.drop_eq_nil_of_le (by rw [q.data.length_bytes]; omega)] at hpid
    exact absurd hpid List.not_mem_nil
  | succ passes ih =>
    rcases Nat.eq_or_lt_of_le hn with rfl | hlt
    · rw [List.drop_eq_nil_of_le (by rw [q.data.length_bytes])] at hpid
      exact absurd hpid List.not_mem_nil
    · rw [mem_drop_iff pid (by rw [q.data.length_bytes]; exact hlt)] at hpid
      rw [scan_of_lt (by omega) hlt]
      split_ifs with heq
      · rfl
      · exact ih (Nat.succ_pos i) hlt (hpid.resolve_left heq) (by omega)

/-- So is one that is anywhere in the array. -/
theorem scan_eq_true (h : q.head = 0) (hi : 0 < i) (hn : i ≤ n) (hpid : pid ∈ q.data.bytes)
    (hpasses : 2 * n - i < passes) : q.scan pid passes i = some true := by
  induction passes generalizing i with
  | zero => exact absurd hpasses (Nat.not_lt_zero _)
  | succ passes ih =>
    rcases Nat.eq_or_lt_of_le hn with rfl | hlt
    · rw [← List.drop_zero (l := q.data.bytes), mem_drop_iff pid (by
        rw [q.data.length_bytes]
        exact hi)] at hpid
      rw [scan_end]
      split_ifs with heq
      · rfl
      · exact scan_found h Nat.one_pos hi (hpid.resolve_left heq) (by omega)
    · rw [scan_of_lt (by omega) hlt]
      split_ifs with heq
      · rfl
      · exact ih (Nat.succ_pos i) hlt (by omega)

/-! ## One operation -/

/-- The state in which the loop misses `head`. -/
theorem wrapped_iff : (q.head = 0 ∧ q.tail ≠ 0) ↔ q.head = 0 ∧ q.waiting ≠ [] := by
  refine and_congr_right fun h ↦ ?_
  rw [ne_eq, ne_eq, ← List.length_eq_zero_iff, q.length_waiting, Ring.size_eq_zero_iff q.tail_lt, h]

theorem bytes_enqueue (q : RdmQueue n) (pid : BitVec 16) :
    (q.enqueue pid).data.bytes = q.data.bytes.set q.head pid := by
  rw [List.set_eq_take_append_cons_drop, if_pos q.head_lt_length]
  show q.data.bytes.take q.head ++ [pid] ++ q.data.bytes.drop (q.head + 1) = _
  rw [List.append_assoc]
  rfl

theorem waiting_enqueue (hroom : q.waiting.length + 1 ≠ n) :
    (q.enqueue pid).waiting = q.waiting ++ [pid] := by
  have hne : Ring.advance q.data.bytes.length q.head ≠ q.tail := by
    rw [q.data.length_bytes, ne_eq, Ring.advance_eq_tail_iff q.head_lt q.tail_lt,
      ← q.length_waiting]
    exact hroom
  have hset := Ring.waiting_set (x := pid) q.head_lt_length q.tail_lt_length hne
  rw [q.data.length_bytes] at hset
  rw [RdmQueue.waiting, bytes_enqueue]
  exact hset

theorem aged_enqueue (q : RdmQueue n) (pid : BitVec 16) :
    Ring.aged (q.enqueue pid).data.bytes (q.enqueue pid).head =
      (Ring.aged q.data.bytes q.head).tail ++ [pid] := by
  have hset := Ring.aged_set (x := pid) q.head_lt_length
  rw [q.data.length_bytes] at hset
  rw [bytes_enqueue]
  exact hset

/-- **What a push does** that does not miss `head`. -/
theorem rdmQueuePush_eq (hpid : pid ≠ 0#16) (h : ¬ (q.head = 0 ∧ q.waiting ≠ [])) :
    rdmQueuePush q pid = some (if pid ∈ q.waiting then (q, true)
      else if q.waiting.length + 1 ≠ n then (q.enqueue pid, true) else (q, false)) := by
  rw [← wrapped_iff] at h
  have hfull : (q.head + 1) % n ≠ q.tail ↔ q.waiting.length + 1 ≠ n := by
    rw [← Ring.advance_eq_mod q.head_lt, ne_eq, Ring.advance_eq_tail_iff q.head_lt q.tail_lt,
      q.length_waiting]
  rw [rdmQueuePush, if_neg hpid, scan_eq h, Option.map_some]
  simp only [decide_eq_true_eq, hfull]

/-- What a push does that misses it. -/
theorem rdmQueuePush_of_wrapped (hpid : pid ≠ 0#16) (h : q.head = 0 ∧ q.waiting ≠ []) :
    if pid ∈ q.data.bytes then rdmQueuePush q pid = some (q, true)
    else rdmQueuePush q pid = none ∧ ∀ passes, q.scan pid passes q.tail = none := by
  have hwrapped := wrapped_iff.mpr h
  have htail := Nat.pos_of_ne_zero hwrapped.2
  split_ifs with hmem
  · rw [rdmQueuePush, if_neg hpid, scan_eq_true h.1 htail q.tail_lt.le hmem (by omega)]
    rfl
  · have hnone : ∀ passes, q.scan pid passes q.tail = none := fun passes ↦
      scan_eq_none h.1 htail q.tail_lt.le hmem
    refine ⟨?_, hnone⟩
    rw [rdmQueuePush, if_neg hpid, hnone]
    rfl

/-- The size of the queue, as it is told. -/
theorem rdmQueueSize_eq (q : RdmQueue n) :
    rdmQueueSize q = BitVec.ofNat 8 (min q.waiting.length 255) := by
  have htail := q.tail_lt
  have hsize : (if -(q.tail : ℤ) + q.head < 0 then -(q.tail : ℤ) + q.head + n
      else -(q.tail : ℤ) + q.head) = (q.waiting.length : ℤ) := by
    rw [q.length_waiting, Ring.size]
    split_ifs <;> omega
  have hclamp : (if (q.waiting.length : ℤ) > 255 then 255 else (q.waiting.length : ℤ)) =
      ((min q.waiting.length 255 : ℕ) : ℤ) := by
    split_ifs <;> omega
  rw [rdmQueueSize, hsize, hclamp, BitVec.ofInt_natCast]

theorem rdmQueueSize_pos_iff (q : RdmQueue n) : rdmQueueSize q > 0 ↔ q.waiting ≠ [] := by
  rw [rdmQueueSize_eq, gt_iff_lt, BitVec.lt_def, BitVec.toNat_ofNat, Nat.mod_eq_of_lt (by omega),
    ← List.length_pos_iff]
  show 0 < _ ↔ _
  omega

/-- **What a pop does.** -/
theorem waiting_dequeue (h : q.waiting ≠ []) :
    q.waiting = q.dequeue.previous :: q.dequeue.waiting := by
  have hne : q.tail ≠ q.head := by
    rw [ne_eq, ← Ring.size_eq_zero_iff q.tail_lt, ← q.length_waiting, List.length_eq_zero_iff]
    exact h
  have hcons := Ring.waiting_eq_cons q.head_lt_length q.tail_lt_length hne
  rw [q.data.length_bytes] at hcons
  have htail := q.tail_lt_length
  have hprevious : q.dequeue.previous = q.data.bytes[q.tail] := by
    show q.data.bytes[q.tail]?.getD 0 = _
    rw [List.getElem?_eq_getElem htail, Option.getD_some]
  rw [hprevious]
  exact hcons

theorem rdmQueuePop_eq (q : RdmQueue n) :
    rdmQueuePop q = if q.waiting = [] then (q, 0) else (q.dequeue, q.dequeue.previous) := by
  rw [rdmQueuePop]
  simp only [rdmQueueSize_pos_iff]
  by_cases hnil : q.waiting = []
  · rw [if_neg (not_not.mpr hnil), if_pos hnil]
  · rw [if_pos hnil, if_neg hnil]
    rfl

/-! ## Runs -/

/-- A run of the queue, from an empty one on. -/
def RdmQueue.run (h : 0 < n ∧ n < 2 ^ 16) (ops : ℕ → QueueOp) : Run (RdmQueue n) QueueOp :=
  ⟨RdmQueue.step, RdmQueue.init h, ops⟩

/-- What has been added to the queue by the first operations of a run. -/
def pushedBefore (h : 0 < n ∧ n < 2 ^ 16) (ops : ℕ → QueueOp) (k : ℕ) : List (BitVec 16) :=
  (RdmQueue.run h ops).trace RdmQueue.pushed k

/-- What has been taken from it. -/
def poppedBefore (h : 0 < n ∧ n < 2 ^ 16) (ops : ℕ → QueueOp) (k : ℕ) : List (BitVec 16) :=
  (RdmQueue.run h ops).trace RdmQueue.popped k

/-- The array and the indices of a queue say what has been added to it and taken from it. -/
structure Follows (q : RdmQueue n) (pushed popped : List (BitVec 16)) : Prop where
  aged : Ring.aged q.data.bytes q.head = (List.replicate n 0 ++ pushed).drop pushed.length
  head : q.head = pushed.length % n
  fifo : pushed = popped ++ q.waiting
  nodup : q.waiting.Nodup
  nonzero : 0#16 ∉ pushed
  previous : q.previous = popped.getLastD 0

theorem follows_init (h : 0 < n ∧ n < 2 ^ 16) : Follows (RdmQueue.init h) [] [] := by
  have hwaiting : (RdmQueue.init h).waiting = [] := by
    rw [← List.length_eq_zero_iff, RdmQueue.length_waiting]
    rfl
  refine ⟨?_, (Nat.zero_mod n).symm, hwaiting.symm, ?_, List.not_mem_nil, rfl⟩
  · show (List.replicate n 0#16).drop 0 ++ (List.replicate n 0#16).take 0 = _
    rw [List.drop_zero, List.take_zero]
    rfl
  · rw [hwaiting]
    exact List.nodup_nil

theorem Follows.enqueue {pushed popped : List (BitVec 16)} (h : Follows q pushed popped)
    (hpid : pid ≠ 0#16) (hmem : pid ∉ q.waiting) (hroom : q.waiting.length + 1 ≠ n) :
    Follows (q.enqueue pid) (pushed ++ [pid]) popped := by
  have hn := Nat.zero_lt_of_lt q.head_lt
  refine ⟨?_, ?_, ?_, ?_, ?_, h.previous⟩
  · have hlen : pushed.length + 1 ≤ (List.replicate n 0#16 ++ pushed).length := by
      rw [List.length_append, List.length_replicate]
      omega
    rw [aged_enqueue, h.aged, List.tail_drop, List.length_append, List.length_singleton,
      ← List.append_assoc]
    exact (List.drop_append_of_le_length hlen).symm
  · show Ring.advance n q.head = _
    rw [Ring.advance_eq_mod q.head_lt, h.head, Nat.mod_add_mod, List.length_append,
      List.length_singleton]
  · rw [waiting_enqueue hroom, ← List.append_assoc, ← h.fifo]
  · rw [waiting_enqueue hroom, List.nodup_append]
    refine ⟨h.nodup, List.nodup_singleton pid, fun a ha b hb ↦ ?_⟩
    rw [List.mem_singleton] at hb
    rintro rfl
    exact hmem (hb ▸ ha)
  · rw [List.mem_append, List.mem_singleton, not_or]
    exact ⟨h.nonzero, hpid.symm⟩

theorem Follows.dequeue {pushed popped : List (BitVec 16)} (h : Follows q pushed popped)
    (hne : q.waiting ≠ []) : Follows q.dequeue pushed (popped ++ [q.dequeue.previous]) := by
  have hcons := waiting_dequeue hne
  refine ⟨h.aged, h.head, ?_, ?_, h.nonzero, ?_⟩
  · rw [List.append_assoc, List.singleton_append, ← hcons]
    exact h.fifo
  · have hnodup := h.nodup
    rw [hcons] at hnodup
    exact hnodup.of_cons
  · rw [List.getLastD_concat]

/-- A push that leaves the queue as it is adds nothing. -/
theorem pushed_of_unchanged {success : Bool} (h : rdmQueuePush q pid = some (q, success)) :
    q.pushed (.push pid) = [] := by
  rw [RdmQueue.pushed, h]
  exact if_pos rfl

theorem pushed_of_enqueue (h : rdmQueuePush q pid = some (q.enqueue pid, true))
    (hroom : q.waiting.length + 1 ≠ n) : q.pushed (.push pid) = [pid] := by
  have hlt := Ring.size_lt q.head_lt q.tail_lt
  rw [← q.length_waiting] at hlt
  have hhead : (q.enqueue pid).head ≠ q.head := by
    show Ring.advance n q.head ≠ q.head
    rw [Ring.advance]
    split_ifs <;> omega
  rw [RdmQueue.pushed, h]
  exact if_neg hhead

/-- **One operation.** -/
theorem Follows.step {pushed popped : List (BitVec 16)} (h : Follows q pushed popped) {op : QueueOp}
    (hstep : q.step op = some q') :
    Follows q' (pushed ++ q.pushed op) (popped ++ q.popped op) := by
  cases op with
  | push pid =>
    rw [show q.popped (.push pid) = [] from rfl, List.append_nil]
    obtain ⟨⟨q₁, success⟩, hpush, rfl⟩ := Option.map_eq_some_iff.mp hstep
    have hsame : ∀ success', rdmQueuePush q pid = some (q, success') →
        Follows q₁ (pushed ++ q.pushed (.push pid)) popped := by
      intro success' heq
      rw [pushed_of_unchanged heq, List.append_nil]
      cases hpush.symm.trans heq
      exact h
    by_cases hpid : pid = 0#16
    · exact hsame false (if_pos hpid)
    · by_cases hwrapped : q.head = 0 ∧ q.waiting ≠ []
      · have hspec := rdmQueuePush_of_wrapped hpid hwrapped
        split_ifs at hspec
        · exact hsame true hspec
        · cases hpush.symm.trans hspec.1
      · have hspec := rdmQueuePush_eq hpid hwrapped
        split_ifs at hspec with hmem hroom
        · exact hsame true hspec
        · rw [pushed_of_enqueue hspec hroom]
          cases hpush.symm.trans hspec
          exact h.enqueue hpid hmem hroom
        · exact hsame false hspec
  | pop =>
    rw [show q.pushed .pop = [] from rfl, List.append_nil]
    cases hstep
    rw [RdmQueue.popped]
    simp only [rdmQueueSize_pos_iff, rdmQueuePop_eq]
    by_cases hnil : q.waiting = []
    · rw [if_neg (not_not.mpr hnil), if_pos hnil, List.append_nil]
      exact h
    · rw [if_pos hnil, if_neg hnil]
      exact h.dequeue hnil

/-- **A whole run.** -/
theorem follows_of_run {h : 0 < n ∧ n < 2 ^ 16} {ops : ℕ → QueueOp} {k : ℕ}
    (hq : (RdmQueue.run h ops).state k = some q) :
    Follows q (pushedBefore h ops k) (poppedBefore h ops k) := by
  refine Run.invariant_at (I := fun k q ↦ Follows q (pushedBefore h ops k) (poppedBefore h ops k))
    (follows_init h) (fun k q q' hq hI hstep ↦ ?_) hq
  rw [pushedBefore, poppedBefore, Run.trace_succ_of hq, Run.trace_succ_of hq]
  exact hI.step hstep

/-- What is in the array, in the queue or not any more. -/
theorem Follows.mem_bytes_iff {pushed popped : List (BitVec 16)} (h : Follows q pushed popped)
    (hpid : pid ≠ 0#16) : pid ∈ q.data.bytes ↔ pid ∈ pushed.drop (pushed.length - n) := by
  have hzero : pid ∉ (List.replicate n (0 : BitVec 16)).drop pushed.length := fun hmem ↦
    hpid (List.eq_of_mem_replicate (List.mem_of_mem_drop hmem))
  rw [← Ring.mem_aged_iff, h.aged, List.drop_append, List.length_replicate, List.mem_append,
    or_iff_right hzero]

/-- **The queue is first in, first out**, over every run.  What has been taken from it, and then
what is in it, is what has been added to it; nothing is in it twice; and what `rdm_queue_pop`,
`rdm_queue_previous` and `rdm_queue_size` return is what this says. -/
theorem queue_fifo (h : 0 < n ∧ n < 2 ^ 16) (ops : ℕ → QueueOp) (k : ℕ) (q : RdmQueue n)
    (hq : (RdmQueue.run h ops).state k = some q) :
    ∃ waiting, pushedBefore h ops k = poppedBefore h ops k ++ waiting ∧
      waiting.Nodup ∧ waiting.length < n ∧ 0#16 ∉ waiting ∧
      rdmQueueSize q = BitVec.ofNat 8 (min waiting.length 255) ∧
      (rdmQueuePop q).2 = waiting.headD 0 ∧
      rdmQueuePrevious q = (poppedBefore h ops k).getLastD 0 := by
  have hfollows := follows_of_run hq
  refine ⟨q.waiting, hfollows.fifo, hfollows.nodup, ?_, fun hzero ↦ ?_, rdmQueueSize_eq q, ?_,
    hfollows.previous⟩
  · rw [q.length_waiting]
    exact Ring.size_lt q.head_lt q.tail_lt
  · refine hfollows.nonzero ?_
    rw [hfollows.fifo]
    exact List.mem_append_right _ hzero
  · rw [rdmQueuePop_eq]
    by_cases hnil : q.waiting = []
    · rw [if_pos hnil, hnil]
      rfl
    · rw [if_neg hnil, waiting_dequeue hnil]
      rfl

/-- Operations on a queue with room for two parameters, until `head` is at the start of the array
again. -/
def wrapOps : ℕ → QueueOp
  | 0 => .push 1
  | 1 => .push 2
  | 2 => .pop
  | 3 => .push 3
  | _ => .push 4

theorem wrapSize : 0 < 3 ∧ 3 < 2 ^ 16 := by decide

theorem pushedBefore_wrapOps : pushedBefore wrapSize wrapOps 4 = [1, 2, 3] := by
  decide

theorem poppedBefore_wrapOps : poppedBefore wrapSize wrapOps 4 = [1] := by
  decide

theorem queue_fifo_of_wrapOps :
    ∃ q, (RdmQueue.run wrapSize wrapOps).state 4 = some q ∧ (rdmQueuePop q).2 = 2 ∧
      rdmQueuePrevious q = 1 := by
  have hstate : ((RdmQueue.run wrapSize wrapOps).state 4).isSome = true := by decide
  obtain ⟨q, hq⟩ := Option.isSome_iff_exists.mp hstate
  obtain ⟨waiting, hwaiting, -, -, -, -, hpop, hprevious⟩ := queue_fifo _ wrapOps 4 q hq
  rw [pushedBefore_wrapOps, poppedBefore_wrapOps] at hwaiting
  rw [poppedBefore_wrapOps] at hprevious
  obtain rfl : [2, 3] = waiting := (List.cons.inj hwaiting).2
  exact ⟨q, hq, hpop, hprevious⟩

/-- **What a push does**, in any run.  When the number of parameters that have been added so far is
a multiple of the size of the array, and the queue is not empty, a parameter that is not in it is
not added to it: the push reports success if it is among the last that have been added, as many as
the array has elements, and does not end otherwise. -/
theorem rdmQueuePush_outcome (h : 0 < n ∧ n < 2 ^ 16) (ops : ℕ → QueueOp) (k : ℕ) (q : RdmQueue n)
    (hq : (RdmQueue.run h ops).state k = some q) (pid : BitVec 16) (hpid : pid ≠ 0#16) :
    ∃ waiting, pushedBefore h ops k = poppedBefore h ops k ++ waiting ∧
      if pid ∈ waiting then rdmQueuePush q pid = some (q, true)
      else if n ∣ (pushedBefore h ops k).length ∧ waiting ≠ [] then
        if pid ∈ (pushedBefore h ops k).drop ((pushedBefore h ops k).length - n) then
          rdmQueuePush q pid = some (q, true)
        else rdmQueuePush q pid = none ∧ ∀ passes, q.scan pid passes q.tail = none
      else if waiting.length + 1 ≠ n then ∃ q', rdmQueuePush q pid = some (q', true) ∧
        q.pushed (.push pid) = [pid]
      else rdmQueuePush q pid = some (q, false) := by
  have hfollows := follows_of_run hq
  refine ⟨q.waiting, hfollows.fifo, ?_⟩
  have hhead : n ∣ (pushedBefore h ops k).length ↔ q.head = 0 := by
    rw [hfollows.head, Nat.dvd_iff_mod_eq_zero]
  simp only [hhead, ← hfollows.mem_bytes_iff hpid]
  by_cases hwrapped : q.head = 0 ∧ q.waiting ≠ []
  · have hspec := rdmQueuePush_of_wrapped hpid hwrapped
    rw [if_pos hwrapped]
    by_cases hmem : pid ∈ q.waiting
    · rw [if_pos (Ring.mem_of_mem_waiting hmem)] at hspec
      rw [if_pos hmem]
      exact hspec
    · rw [if_neg hmem]
      exact hspec
  · have hspec := rdmQueuePush_eq hpid hwrapped
    rw [if_neg hwrapped]
    split_ifs at hspec ⊢ with hmem hroom
    · exact hspec
    · exact ⟨_, hspec, pushed_of_enqueue hspec hroom⟩
    · exact hspec

theorem rdmQueuePush_outcome_of_wrapOps :
    ∃ q, (RdmQueue.run wrapSize wrapOps).state 4 = some q ∧
      ∀ passes, q.scan 4 passes q.tail = none := by
  have hstate : ((RdmQueue.run wrapSize wrapOps).state 4).isSome = true := by decide
  obtain ⟨q, hq⟩ := Option.isSome_iff_exists.mp hstate
  obtain ⟨waiting, hwaiting, hpush⟩ := rdmQueuePush_outcome _ wrapOps 4 q hq 4 (by decide)
  rw [pushedBefore_wrapOps] at hwaiting hpush
  rw [poppedBefore_wrapOps] at hwaiting
  obtain rfl : [2, 3] = waiting := (List.cons.inj hwaiting).2
  rw [if_neg (by decide), if_pos (by decide), if_neg (by decide)] at hpush
  exact ⟨q, hq, hpush.2⟩

end BedroomLights
