import Mathlib.Data.List.Basic
import Mathlib.Tactic.Common

/-!
# Arrays of a fixed length, and copying them

A `Buffer α n` is an array of `n` elements.  Its length is part of its type, and `Buffer.write`,
which is `memcpy` into it, asks for a proof that the copy stays inside: a model built on it has no
step that writes out of bounds.

The last section is about a reader that copies a buffer out in chunks while a writer may replace
its contents between two chunks.  What the reader ends up with is in general a mixture of several
versions.  `Agree c` is the relation between versions that makes it whole again: they differ only
below index `c`, and a first chunk that covers the indices below `c` fixes which version the
reader gets (`take_append_chunk`).
-/

set_option autoImplicit false

variable {α : Type*} {n : ℕ}

/-- An array of `n` elements. -/
@[ext]
structure Buffer (α : Type*) (n : ℕ) where
  /-- Its elements, in order. -/
  bytes : List α
  /-- There are `n` of them. -/
  length_bytes : bytes.length = n
deriving DecidableEq

namespace Buffer

attribute [simp] length_bytes

/-- `memset`: all elements are `x`. -/
def fill (n : ℕ) (x : α) : Buffer α n := ⟨List.replicate n x, List.length_replicate⟩

/-- `memcpy` of `src` to the elements from `off` on. -/
def write (b : Buffer α n) (off : ℕ) (src : List α) (h : off + src.length ≤ n) : Buffer α n :=
  ⟨b.bytes.take off ++ src ++ b.bytes.drop (off + src.length), by simp; omega⟩

/-- `memcpy` of `src` to the elements from `off` on, if it stays inside. -/
def write? (b : Buffer α n) (off : ℕ) (src : List α) : Option (Buffer α n) :=
  if h : off + src.length ≤ n then some (b.write off src h) else none

/-- The `len` elements from `off` on, as an array of their own. -/
def slice (b : Buffer α n) (off len : ℕ) (h : off + len ≤ n) : Buffer α len :=
  ⟨(b.bytes.drop off).take len, by simp; omega⟩

@[simp] theorem bytes_fill (n : ℕ) (x : α) : (fill n x).bytes = List.replicate n x := rfl

@[simp] theorem bytes_write (b : Buffer α n) (off : ℕ) (src : List α) (h : off + src.length ≤ n) :
    (b.write off src h).bytes = b.bytes.take off ++ src ++ b.bytes.drop (off + src.length) := rfl

@[simp] theorem bytes_slice (b : Buffer α n) (off len : ℕ) (h : off + len ≤ n) :
    (b.slice off len h).bytes = (b.bytes.drop off).take len := rfl

theorem write?_eq_some_iff {b b' : Buffer α n} {off : ℕ} {src : List α} :
    b.write? off src = some b' ↔ ∃ h : off + src.length ≤ n, b.write off src h = b' := by
  rw [write?]
  split_ifs with h
  · rw [Option.some_inj]
    exact ⟨fun heq ↦ ⟨h, heq⟩, fun ⟨_, heq⟩ ↦ heq⟩
  · exact iff_of_false (by simp) fun ⟨h', _⟩ ↦ h h'

/-- A copy to the start of the buffer. -/
theorem bytes_write_zero (b : Buffer α n) (src : List α) (h : 0 + src.length ≤ n) :
    (b.write 0 src h).bytes = src ++ b.bytes.drop src.length := by
  rw [bytes_write, List.take_zero, List.nil_append, Nat.zero_add]

/-- A part of a part. -/
theorem bytes_slice_slice (b : Buffer α n) {off len off' len' : ℕ} (h : off + len ≤ n)
    (h' : off' + len' ≤ len) :
    ((b.slice off len h).slice off' len' h').bytes = (b.bytes.drop (off + off')).take len' := by
  rw [bytes_slice, bytes_slice, List.drop_take, List.take_take, List.drop_drop,
    Nat.min_eq_left (by omega)]

/-- What lies inside the part just written is read back, whatever the buffer held before. -/
theorem bytes_slice_write_zero (b : Buffer α n) {src : List α} (hw : 0 + src.length ≤ n)
    {off len : ℕ} (hr : off + len ≤ n) (hlen : off + len ≤ src.length) :
    ((b.write 0 src hw).slice off len hr).bytes = (src.drop off).take len := by
  rw [bytes_slice, bytes_write, List.take_zero, List.nil_append,
    List.drop_append_of_le_length (by omega),
    List.take_append_of_le_length (by rw [List.length_drop]; omega)]

/-- A copy that covers the whole buffer replaces its contents. -/
theorem bytes_write_all (b : Buffer α n) {src : List α} (h : 0 + src.length ≤ n)
    (hall : src.length = n) : (b.write 0 src h).bytes = src := by
  rw [bytes_write, List.take_zero, List.nil_append, List.drop_eq_nil_of_le (by simp; omega),
    List.append_nil]

end Buffer

/-! ## Copying out in chunks -/

namespace Chunked

/-- Two versions of a buffer that are the same from index `c` on. -/
def Agree (c : ℕ) (l l' : List α) : Prop := l.drop c = l'.drop c

/-- **A chunk of another version continues this one**, from any index at or beyond `c`. -/
theorem take_append_chunk {c head k : ℕ} {l l' : List α} (h : Agree c l l') (hc : c ≤ head) :
    l.take head ++ (l'.drop head).take k = l.take (head + k) := by
  have hdrop : l'.drop head = l.drop head := by
    obtain ⟨d, rfl⟩ := Nat.exists_eq_add_of_le hc
    rw [← List.drop_drop, ← List.drop_drop, h]
  rw [hdrop, List.take_add]

end Chunked
