import Mathlib.Data.Nat.Digits.Lemmas
import Mathlib.Tactic.NormNum

/-!
# Little-endian integers in byte arrays

`leBytes k n` are the low `k` bytes of `n`, least significant first, each cut out by a shift and a
mask; `leVal` is the number a list of bytes spells, which is Mathlib's `Nat.ofDigits` in base 256.
The two are inverse to each other up to the bytes that do not fit (`leVal_leBytes`), and that is
all a reader and a writer of the same layout need to agree.
-/

set_option autoImplicit false

namespace LittleEndian

/-- The low `k` bytes of `n`, least significant first. -/
def leBytes (k n : ℕ) : List (BitVec 8) := (List.range k).map fun i ↦ BitVec.ofNat 8 (n >>> (8 * i))

/-- The number that a list of bytes spells, least significant first. -/
def leVal (bs : List (BitVec 8)) : ℕ := Nat.ofDigits 256 (bs.map BitVec.toNat)

@[simp] theorem length_leBytes (k n : ℕ) : (leBytes k n).length = k := by
  rw [leBytes, List.length_map, List.length_range]

@[simp] theorem leVal_nil : leVal [] = 0 := rfl

@[simp] theorem leVal_cons (b : BitVec 8) (bs : List (BitVec 8)) :
    leVal (b :: bs) = b.toNat + 256 * leVal bs := by
  rw [leVal, List.map_cons, Nat.ofDigits_cons, leVal]

theorem leVal_append (bs cs : List (BitVec 8)) :
    leVal (bs ++ cs) = leVal bs + 256 ^ bs.length * leVal cs := by
  rw [leVal, List.map_append, Nat.ofDigits_append, List.length_map, leVal, leVal]

/-- The number as a sum of weighted bytes. -/
theorem leVal_eq_sum (bs : List (BitVec 8)) :
    leVal bs = (bs.mapIdx fun i b ↦ b.toNat * 256 ^ i).sum := by
  rw [leVal, Nat.ofDigits_eq_sum_mapIdx]
  congr 1
  refine List.ext_getElem? fun i ↦ ?_
  rw [List.getElem?_mapIdx, List.getElem?_mapIdx, List.getElem?_map, Option.map_map]
  rfl

/-- `k` bytes spell less than `256 ^ k`. -/
theorem leVal_lt (bs : List (BitVec 8)) : leVal bs < 256 ^ bs.length := by
  rw [leVal, ← List.length_map BitVec.toNat]
  refine Nat.ofDigits_lt_base_pow_length (by norm_num) fun x hx ↦ ?_
  obtain ⟨b, -, rfl⟩ := List.mem_map.mp hx
  exact b.isLt

/-- A byte of `leBytes` as a digit. -/
theorem toNat_leBytes_digit (n i : ℕ) :
    (BitVec.ofNat 8 (n >>> (8 * i))).toNat = n / 256 ^ i % 256 := by
  have h : (2 : ℕ) ^ (8 * i) = 256 ^ i := by rw [pow_mul]; norm_num
  rw [BitVec.toNat_ofNat, Nat.shiftRight_eq_div_pow, h]

/-- **Reading back what was written** keeps the `k` bytes that fit. -/
theorem leVal_leBytes (k n : ℕ) : leVal (leBytes k n) = n % 256 ^ k := by
  induction k with
  | zero => simp [leBytes, Nat.mod_one]
  | succ k ih =>
    have hsplit : leBytes (k + 1) n = leBytes k n ++ [BitVec.ofNat 8 (n >>> (8 * k))] := by
      rw [leBytes, List.range_succ, List.map_append, List.map_singleton, ← leBytes]
    rw [hsplit, leVal_append, ih, length_leBytes, leVal_cons, leVal_nil, toNat_leBytes_digit,
      Nat.mul_zero, Nat.add_zero, Nat.mod_pow_succ]

theorem leVal_leBytes_of_lt {k n : ℕ} (h : n < 256 ^ k) : leVal (leBytes k n) = n := by
  rw [leVal_leBytes, Nat.mod_eq_of_lt h]

end LittleEndian
