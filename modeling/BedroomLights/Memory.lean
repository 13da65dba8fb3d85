import Mathlib.Tactic.Common

/-!
# Objects that go away, and pointers into arrays

Two ways a C pointer can be bad, each made an `Option`.

* A pointer to an object declared inside a block is good until the block is left.  `Scoped` is the
  address of such an object together with the value last stored there; leaving the block
  (`Scoped.leaveBlock`) does not touch the value, it only ends the object's lifetime.  What reading
  through the pointer then gives depends on whom one asks, which is the `Lifetime` argument of
  `Scoped.deref`: by the C standard (`Lifetime.block`) nothing can be read any more, while a
  compiler that gives each local of a function a stack slot of its own (`Lifetime.function`) leaves
  the value there until the function returns.
* A pointer into an array is good for as many elements as the array has from there on.  `ArrayPtr`
  is an array with an offset, and `ArrayPtr.read?` and `ArrayPtr.back?` check it.
-/

set_option autoImplicit false

variable {α : Type*}

/-- Until when an object declared inside a block can be read. -/
inductive Lifetime where
  /-- Until its block is left: the C standard. -/
  | block
  /-- Until its function returns: compiled code that keeps a stack slot for it. -/
  | function
deriving DecidableEq

/-- The address of an object declared inside a block. -/
structure Scoped (α : Type*) where
  /-- The value last stored in the object. -/
  val : α
  /-- Its block has not been left yet. -/
  inScope : Bool
deriving DecidableEq

namespace Scoped

/-- The address of an object of the block being executed. -/
def declare (x : α) : Scoped α := ⟨x, true⟩

/-- The same address once the block has been left. -/
def leaveBlock (p : Scoped α) : Scoped α := { p with inScope := false }

/-- Reading through the address. -/
def deref (lt : Lifetime) (p : Scoped α) : Option α :=
  match lt with
  | .block => if p.inScope then some p.val else none
  | .function => some p.val

@[simp] theorem val_declare (x : α) : (declare x).val = x := rfl

@[simp] theorem val_leaveBlock (p : Scoped α) : p.leaveBlock.val = p.val := rfl

@[simp] theorem deref_block_leaveBlock (p : Scoped α) : p.leaveBlock.deref .block = none := rfl

@[simp] theorem deref_function (p : Scoped α) : p.deref .function = some p.val := rfl

end Scoped

/-- A pointer into an array. -/
structure ArrayPtr (α : Type*) where
  /-- The elements of the array it points into. -/
  object : List α
  /-- The index it points at. -/
  off : ℕ
deriving DecidableEq

namespace ArrayPtr

/-- The `len` elements from the pointer on, if the array has that many. -/
def read? (p : ArrayPtr α) (len : ℕ) : Option (List α) :=
  if p.off + len ≤ p.object.length then some ((p.object.drop p.off).take len) else none

/-- The pointer `k` elements further down, if that is still inside the array. -/
def back? (p : ArrayPtr α) (k : ℕ) : Option (ArrayPtr α) :=
  if k ≤ p.off then some { p with off := p.off - k } else none

theorem read?_of_le {p : ArrayPtr α} {len : ℕ} (h : p.off + len ≤ p.object.length) :
    p.read? len = some ((p.object.drop p.off).take len) := if_pos h

theorem back?_of_le {p : ArrayPtr α} {k : ℕ} (h : k ≤ p.off) :
    p.back? k = some { p with off := p.off - k } := if_pos h

end ArrayPtr
