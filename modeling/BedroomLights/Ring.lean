import Mathlib.Data.List.Basic
import Mathlib.Tactic.Common

/-!
# Queues in an array

A queue of limited length is often kept in an array, between an index `tail` where it is taken from
and an index `head` where it is added to, both of which start over at the end of the array.  When
the two are equal it is empty, so that one element of the array is never in use.

* `aged l head` is the array from the oldest element on: what `Ring.aged_set` says of it is that it
  forgets the oldest one for each that is added.
* `waiting l head tail` is what is in the queue, `waiting_set` what adding to it does, and
  `waiting_eq_cons` what taking from it does.
-/

set_option autoImplicit false

namespace Ring

variable {α : Type*} {l : List α} {n head tail : ℕ} {x : α}

/-- The index after another one in an array of `n` elements. -/
def advance (n i : ℕ) : ℕ := if i + 1 = n then 0 else i + 1

/-- How many elements are in the queue. -/
def size (n head tail : ℕ) : ℕ := if tail ≤ head then head - tail else head + n - tail

/-- The elements of the array, the oldest first. -/
def aged (l : List α) (head : ℕ) : List α := l.drop head ++ l.take head

/-- The elements of the queue, the oldest first. -/
def waiting (l : List α) (head tail : ℕ) : List α :=
  (aged l head).drop (l.length - size l.length head tail)

theorem advance_lt (h : head < n) : advance n head < n := by
  rw [advance]
  split_ifs <;> omega

theorem advance_eq_mod (h : head < n) : advance n head = (head + 1) % n := by
  rw [advance]
  split_ifs with hn
  · rw [hn, Nat.mod_self]
  · rw [Nat.mod_eq_of_lt (by omega)]

/-! ## The size -/

theorem size_lt (hhead : head < n) (htail : tail < n) : size n head tail < n := by
  rw [size]
  split_ifs <;> omega

theorem size_eq_zero_iff (htail : tail < n) : size n head tail = 0 ↔ tail = head := by
  rw [size]
  split_ifs <;> omega

/-- The queue is full when one element is left. -/
theorem advance_eq_tail_iff (hhead : head < n) (htail : tail < n) :
    advance n head = tail ↔ size n head tail + 1 = n := by
  rw [advance, size]
  split_ifs <;> omega

theorem size_advance_head (htail : tail < n) (hroom : advance n head ≠ tail) :
    size n (advance n head) tail = size n head tail + 1 := by
  rw [advance] at hroom ⊢
  rw [size, size]
  split_ifs at hroom ⊢ <;> omega

theorem size_advance_tail (hhead : head < n) (htail : tail < n) (hne : tail ≠ head) :
    size n head tail = size n head (advance n tail) + 1 := by
  rw [advance, size, size]
  split_ifs <;> omega

/-! ## The elements -/

theorem length_aged (h : head < l.length) : (aged l head).length = l.length := by
  rw [aged, List.length_append, List.length_drop, List.length_take_of_le (Nat.le_of_lt h)]
  omega

theorem mem_aged_iff : x ∈ aged l head ↔ x ∈ l := by
  rw [aged, List.mem_append, or_comm, ← List.mem_append, List.take_append_drop]

theorem mem_of_mem_waiting (h : x ∈ waiting l head tail) : x ∈ l :=
  mem_aged_iff.mp (List.mem_of_mem_drop h)

theorem length_waiting (hhead : head < l.length) (htail : tail < l.length) :
    (waiting l head tail).length = size l.length head tail := by
  have hlt := size_lt hhead htail
  rw [waiting, List.length_drop, length_aged hhead]
  omega

/-- **Adding forgets the oldest element.** -/
theorem aged_set (h : head < l.length) :
    aged (l.set head x) (advance l.length head) = (aged l head).tail ++ [x] := by
  have hsplit : l.set head x = l.take head ++ x :: l.drop (head + 1) := by
    rw [List.set_eq_take_append_cons_drop, if_pos h]
  have htake : (l.take head).length = head := List.length_take_of_le (Nat.le_of_lt h)
  have haged : (aged l head).tail = l.drop (head + 1) ++ l.take head := by
    rw [aged, List.drop_eq_getElem_cons h]
    rfl
  rw [haged, advance]
  split_ifs with hn
  · rw [aged, List.drop_zero, List.take_zero, List.append_nil, hsplit, hn, List.drop_length,
      List.nil_append]
  · have hdrop : (l.set head x).drop (head + 1) = l.drop (head + 1) := by
      rw [hsplit, ← List.singleton_append, ← List.append_assoc]
      exact List.drop_left' (by rw [List.length_append, htake, List.length_singleton])
    have htake' : (l.set head x).take (head + 1) = l.take head ++ [x] := by
      rw [hsplit, ← List.singleton_append, ← List.append_assoc]
      exact List.take_left' (by rw [List.length_append, htake, List.length_singleton])
    rw [aged, hdrop, htake', List.append_assoc]

/-- **Adding to the queue.** -/
theorem waiting_set (hhead : head < l.length) (htail : tail < l.length)
    (hroom : advance l.length head ≠ tail) :
    waiting (l.set head x) (advance l.length head) tail = waiting l head tail ++ [x] := by
  have hlt := size_lt hhead htail
  have hfull := mt (advance_eq_tail_iff hhead htail).mpr hroom
  have hlength := length_aged hhead
  rw [waiting, waiting, List.length_set, aged_set hhead, size_advance_head htail hroom,
    List.drop_append_of_le_length (by rw [List.length_tail, hlength]; omega), ← List.drop_one,
    List.drop_drop]
  congr 2
  omega

/-- **Taking from the queue.** -/
theorem waiting_eq_cons (hhead : head < l.length) (htail : tail < l.length) (hne : tail ≠ head) :
    waiting l head tail = l[tail] :: waiting l head (advance l.length tail) := by
  have hsize := size_advance_tail hhead htail hne
  have hlt := size_lt hhead htail
  have hlength := length_aged hhead
  have hindex : l.length - size l.length head tail < (aged l head).length := by omega
  have helement : (aged l head)[l.length - size l.length head tail] = l[tail] := by
    have htake : (l.drop head).length = l.length - head := List.length_drop
    simp only [aged, size]
    split_ifs with hle
    · rw [List.getElem_append_right (by omega), List.getElem_take]
      congr 1
      omega
    · rw [List.getElem_append_left (by omega), List.getElem_drop]
      congr 1
      omega
  rw [waiting, waiting, List.drop_eq_getElem_cons hindex, helement]
  congr 2
  omega

/-- The queue when it lies in one piece. -/
theorem waiting_of_le (hhead : head < l.length) (hle : tail ≤ head) :
    waiting l head tail = (l.drop tail).take (head - tail) := by
  rw [waiting, aged, size, if_pos hle, List.drop_append, List.length_drop,
    List.drop_eq_nil_of_le (by rw [List.length_drop]; omega), List.nil_append, List.drop_take]
  congr 1
  · omega
  · congr 1
    omega

/-- The queue when it starts over at the end of the array. -/
theorem waiting_of_lt (htail : tail < l.length) (hlt : head < tail) :
    waiting l head tail = l.drop tail ++ l.take head := by
  rw [waiting, aged, size, if_neg (by omega),
    List.drop_append_of_le_length (by rw [List.length_drop]; omega), List.drop_drop]
  congr 2
  omega

end Ring
