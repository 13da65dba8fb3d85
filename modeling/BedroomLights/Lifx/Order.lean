import BedroomLights.Lifx.Matching

/-!
# Replies are accepted in order, and one for each request

A reply may be the reply to another request than the latest one, but it is never taken for two:
every message that is accepted is an arrival of its own, they are accepted in the order in which
they have arrived, and there is a request between any two of them (`accepted_in_order`).
-/

set_option autoImplicit false

open Transition

namespace BedroomLights

variable {cfg : SdkConfig} {lt : Lifetime} {b : Boot} {act : ℕ → NetAction} {i j k : ℕ} {n n' : Net}

/-- The latest request before a message is accepted comes after every message accepted before. -/
theorem lt_of_answered (hj : (network cfg lt b act).At (OfProgram (Answered cfg)) j) (hjk : j < k)
    (hn : (network cfg lt b act).state k = some n) (hacc : OfProgram (Answered cfg) n (act k))
    (hi : Newest ((network cfg lt b act).At (OfProgram Sends)) k i) : j < i := by
  have hrx : n.sys.lifx.state = .rx := (polls_of_ofProgram (answered_iff.mp hacc).1).2
  by_contra hle
  exact not_answered_of_newest hi hn hrx (Nat.le_of_not_lt hle) hjk hj

/-- **Replies are accepted in order, and one for each request.**  Of two messages that are accepted,
the second one has arrived after the first, and the latest request before the second is sent after
the first has been accepted. -/
theorem accepted_in_order (cfg : SdkConfig) (lt : Lifetime) (b : Boot) (act : ℕ → NetAction)
    (j k : ℕ) (hjk : j < k) (n n' : Net) (hn : (network cfg lt b act).state j = some n)
    (hacc : OfProgram (Answered cfg) n (act j)) (hn' : (network cfg lt b act).state k = some n')
    (hacc' : OfProgram (Answered cfg) n' (act k)) :
    ∃ i x i' x', AcceptedAt cfg lt b act j i x ∧ AcceptedAt cfg lt b act k i' x' ∧
      x.step < x'.step ∧ j < i' := by
  obtain ⟨i, x, hx⟩ := exists_acceptedAt hn hacc
  obtain ⟨i', x', hx'⟩ := exists_acceptedAt hn' hacc'
  refine ⟨i, x, i', x', hx, hx', ?_, lt_of_answered ⟨n, hn, hacc⟩ hjk hn' hacc' hx'.send⟩
  have htakes : (network cfg lt b act).At (OfProgram (Polls cfg)) j :=
    ⟨n, hn, (answered_iff.mp hacc).1⟩
  exact Run.step_lt_of_taken hjk htakes hn' hx.oldest (List.mem_of_mem_head? hx'.oldest)

/-- The replies of the two bulbs, one for each of the two requests. -/
theorem accepted_in_order_of_twoReplies :
    ∃ i x i' x', AcceptedAt defaultConfig .function (defaultBoot .switchOff) twoRepliesAct 14 i x ∧
      AcceptedAt defaultConfig .function (defaultBoot .switchOff) twoRepliesAct 34 i' x' ∧
      x.step < x'.step ∧ 14 < i' := by
  have hfirst : twoRepliesRun.At (OfProgram (Answered defaultConfig)) 14 := by decide +kernel
  have hsecond : twoRepliesRun.At (OfProgram (Answered defaultConfig)) 34 := by decide +kernel
  obtain ⟨n, hn, hacc⟩ := hfirst
  obtain ⟨n', hn', hacc'⟩ := hsecond
  exact accepted_in_order defaultConfig .function (defaultBoot .switchOff) twoRepliesAct 14 34
    (by decide) n n' hn hacc hn' hacc'

end BedroomLights
