import BedroomLights.Buffer
import BedroomLights.Firmware.Rdm.Responder
import BedroomLights.Ring

/-!
# The queue of RDM messages

A device keeps the parameters that have changed in a queue until the controller asks for them.
`rdm_queue_push` first looks whether the parameter is in the queue already.  It does so by a loop
that need not end, so that `none` is the error branch here as well.

The queue is one that `rdm_register_queued_message` has made: its memory is zero.  The function
takes a `max_count` of 32 bits that is not 0, and `max_size` keeps 16 bits of it; the queue here is
one for which that makes no difference.  At 65536 the size of the array is 0, and the first push
divides by it.
-/

set_option autoImplicit false

namespace BedroomLights

/-- `rdm_queue_t`.  Both indices are in the array, and like its size they are `uint16_t`, which they
do not wrap in: they are at most `max_size` before they start over. -/
structure RdmQueue (maxSize : ℕ) where
  head : ℕ
  tail : ℕ
  previous : BitVec 16
  data : Buffer (BitVec 16) maxSize
  head_lt : head < maxSize
  tail_lt : tail < maxSize
  maxSize_lt : maxSize < 2 ^ 16

variable {maxSize : ℕ}

/-- The queue that `rdm_register_queued_message` makes of a `max_count` that `max_size` can hold. -/
def RdmQueue.init (h : 0 < maxSize ∧ maxSize < 2 ^ 16) : RdmQueue maxSize :=
  ⟨0, 0, 0, Buffer.fill maxSize 0, h.1, h.1, h.2⟩

/-- The loop of `rdm_queue_push`, from an index on: whether it finds the parameter, if it ends
within so many passes.  At the end of the array the index starts over only after it has been
compared with `head`: it is never zero in that comparison, unless it has been zero from the
start. -/
def RdmQueue.scan (q : RdmQueue maxSize) (pid : BitVec 16) : ℕ → ℕ → Option Bool
  | 0, _ => none
  | passes + 1, i =>
    if i = q.head then some false
    else
      let i := if i = maxSize then 0 else i
      if q.data.bytes[i]? = some pid then some true else scan q pid passes (i + 1)

/-- What `rdm_queue_push` does to add a parameter. -/
def RdmQueue.enqueue (q : RdmQueue maxSize) (pid : BitVec 16) : RdmQueue maxSize :=
  { q with data := q.data.write q.head [pid] q.head_lt
           head := Ring.advance maxSize q.head
           head_lt := Ring.advance_lt q.head_lt }

/-- `rdm_queue_push`.  An index that the loop comes back to has been looked at before, so that more
passes make no difference. -/
def rdmQueuePush (q : RdmQueue maxSize) (pid : BitVec 16) : Option (RdmQueue maxSize × Bool) :=
  if pid = 0#16 then some (q, false)
  else (q.scan pid (2 * maxSize + 1) q.tail).map fun alreadyQueued ↦
    if alreadyQueued then (q, true)
    else if (q.head + 1) % maxSize ≠ q.tail then (q.enqueue pid, true)
    else (q, false)

/-- `rdm_queue_size`. -/
def rdmQueueSize (q : RdmQueue maxSize) : Byte :=
  let size : ℤ := -(q.tail : ℤ) + q.head
  let size := if size < 0 then size + maxSize else size
  BitVec.ofInt 8 (if size > 255 then 255 else size)

/-- What `rdm_queue_pop` does to take a parameter. -/
def RdmQueue.dequeue (q : RdmQueue maxSize) : RdmQueue maxSize :=
  { q with tail := Ring.advance maxSize q.tail
           tail_lt := Ring.advance_lt q.tail_lt
           previous := q.data.bytes[q.tail]?.getD 0 }

/-- `rdm_queue_pop`. -/
def rdmQueuePop (q : RdmQueue maxSize) : RdmQueue maxSize × BitVec 16 :=
  if rdmQueueSize q > 0 then (q.dequeue, q.data.bytes[q.tail]?.getD 0) else (q, 0)

/-- `rdm_queue_previous`. -/
def rdmQueuePrevious (q : RdmQueue maxSize) : BitVec 16 := q.previous

/-- What the driver does with its queue. -/
inductive QueueOp where
  | push (pid : BitVec 16)
  | pop
deriving DecidableEq

/-- The queue after an operation on it. -/
def RdmQueue.step (q : RdmQueue maxSize) : QueueOp → Option (RdmQueue maxSize)
  | .push pid => (rdmQueuePush q pid).map Prod.fst
  | .pop => some (rdmQueuePop q).1

/-- What an operation adds to the queue. -/
def RdmQueue.pushed (q : RdmQueue maxSize) : QueueOp → List (BitVec 16)
  | .push pid =>
    match rdmQueuePush q pid with
    | some (q', _) => if q'.head = q.head then [] else [pid]
    | none => []
  | .pop => []

/-- What an operation takes from the queue. -/
def RdmQueue.popped (q : RdmQueue maxSize) : QueueOp → List (BitVec 16)
  | .push _ => []
  | .pop => if rdmQueueSize q > 0 then [(rdmQueuePop q).2] else []

end BedroomLights
