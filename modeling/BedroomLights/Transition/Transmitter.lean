import Mathlib.Data.List.Basic
import Mathlib.Tactic.Common

/-!
# A transmitter that takes a packet out of its buffer at once

This is what a transmitter looks like to somebody who writes to its buffer: when a packet has been
started, there is one moment at which it takes the whole packet out of the buffer, and everything
written later is for the packets after it.  It may fail to send all of what it has taken, and gives
the packet up then.  A driver that copies the packet out bit by bit refines it if what it sends is
what the buffer held at one of these moments.

* `Transmitter.Reaches.events_eq`: what happens is one cycle of a start, a take and an end after
  another, one for each packet, and the last one may not have ended.
* `Transmitter.Reaches.pairwise_history`: what has been taken and the buffer are ordered the way the
  writes to the buffer are.
-/

set_option autoImplicit false

namespace Transition

variable {φ : Type*}

/-- How far a transmitter is with a packet. -/
inductive Phase (φ : Type*) where
  | idle
  | started
  | taken (frame : φ)

/-- What a transmitter does.  It finishes a packet when all of it has been sent, and aborts it
otherwise. -/
inductive TransmitEvent (φ : Type*) where
  | start
  | take (frame : φ)
  | finish
  | abort
deriving DecidableEq

/-- A packet that is over: what was taken, and whether all of it has been sent. -/
abbrev Ended (φ : Type*) := φ × Bool

/-- The events of a packet that is over. -/
def cycle : Ended φ → List (TransmitEvent φ)
  | (frame, whole) => [.start, .take frame, if whole then .finish else .abort]

/-- The packets of which all has been sent. -/
def completed (ended : List (Ended φ)) : List φ := (ended.filter Prod.snd).map Prod.fst

@[simp] theorem completed_append_true (ended : List (Ended φ)) (frame : φ) :
    completed (ended ++ [(frame, true)]) = completed ended ++ [frame] := by
  rw [completed, List.filter_append, List.map_append]
  rfl

@[simp] theorem completed_append_false (ended : List (Ended φ)) (frame : φ) :
    completed (ended ++ [(frame, false)]) = completed ended := by
  rw [completed, List.filter_append, List.map_append]
  exact List.append_nil _

/-- The packets that have been sent are some of those that have been taken, in the same order. -/
theorem completed_sublist (ended : List (Ended φ)) :
    (completed ended).Sublist (ended.map Prod.fst) :=
  List.filter_sublist.map Prod.fst

/-- The events of a packet that has got to a phase. -/
def Phase.events : Phase φ → List (TransmitEvent φ)
  | .idle => []
  | .started => [.start]
  | .taken frame => [.start, .take frame]

/-- The packet in flight. -/
def Phase.frames : Phase φ → List φ
  | .idle | .started => []
  | .taken frame => [frame]

/-- The packet that is taken by an event. -/
def TransmitEvent.frame? : TransmitEvent φ → Option φ
  | .take frame => some frame
  | .start | .finish | .abort => none

/-- Each cycle takes its own packet. -/
theorem filterMap_cycles (ended : List (Ended φ)) :
    (ended.flatMap cycle).filterMap TransmitEvent.frame? = ended.map Prod.fst := by
  induction ended with
  | nil => rfl
  | cons packet ended ih =>
    obtain ⟨frame, whole⟩ := packet
    rw [List.flatMap_cons, List.filterMap_append, ih]
    cases whole <;> rfl

theorem Phase.filterMap_events (phase : Phase φ) :
    phase.events.filterMap TransmitEvent.frame? = phase.frames := by
  cases phase <;> rfl

/-- A transmitter. -/
structure Transmitter (φ : Type*) where
  buffer : φ
  phase : Phase φ
  /-- The packets that are over, oldest first. -/
  ended : List (Ended φ)

namespace Transmitter

/-- The steps of a transmitter and of its user, who may replace `x` by `y` when `W x y`. -/
inductive Step (W : φ → φ → Prop) :
    Transmitter φ → List (TransmitEvent φ) → Transmitter φ → Prop where
  | skip {t : Transmitter φ} : Step W t [] t
  | write {t : Transmitter φ} {frame : φ} (hW : W t.buffer frame) :
    Step W t [] { t with buffer := frame }
  | start {t : Transmitter φ} (phase : t.phase = .idle) :
    Step W t [.start] { t with phase := .started }
  | take {t : Transmitter φ} (phase : t.phase = .started) :
    Step W t [.take t.buffer] { t with phase := .taken t.buffer }
  | finish {t : Transmitter φ} {frame : φ} (phase : t.phase = .taken frame) :
    Step W t [.finish] { t with phase := .idle, ended := t.ended ++ [(frame, true)] }
  | abort {t : Transmitter φ} {frame : φ} (phase : t.phase = .taken frame) :
    Step W t [.abort] { t with phase := .idle, ended := t.ended ++ [(frame, false)] }

/-- Started with `x` in the buffer, the transmitter gets to `t`. -/
inductive Reaches (W : φ → φ → Prop) (x : φ) : List (TransmitEvent φ) → Transmitter φ → Prop where
  | boot : Reaches W x [] ⟨x, .idle, []⟩
  | step {events new : List (TransmitEvent φ)} {t t' : Transmitter φ} (h : Reaches W x events t)
    (hstep : Step W t new t') : Reaches W x (events ++ new) t'

variable {W : φ → φ → Prop} {x : φ} {events : List (TransmitEvent φ)} {t : Transmitter φ}

/-- **What happens is one cycle after another.** -/
theorem Reaches.events_eq (h : Reaches W x events t) :
    events = t.ended.flatMap cycle ++ t.phase.events := by
  induction h with
  | boot => rfl
  | step _ hstep ih =>
    rw [ih]
    cases hstep with
    | skip => rw [List.append_nil]
    | write => rw [List.append_nil]
    | start phase => rw [phase, Phase.events, Phase.events, List.append_nil]
    | take phase => rw [phase, Phase.events, Phase.events, List.append_assoc]; rfl
    | finish phase =>
      rw [phase, List.flatMap_append, List.append_assoc]
      simp [cycle, Phase.events]
    | abort phase =>
      rw [phase, List.flatMap_append, List.append_assoc]
      simp [cycle, Phase.events]

/-- What has been taken, one packet for each cycle. -/
theorem Reaches.filterMap_events (h : Reaches W x events t) :
    events.filterMap TransmitEvent.frame? = t.ended.map Prod.fst ++ t.phase.frames := by
  rw [h.events_eq, List.filterMap_append, filterMap_cycles, Phase.filterMap_events]

/-- What has been taken, and what would be taken next. -/
def history (t : Transmitter φ) : List φ := t.ended.map Prod.fst ++ t.phase.frames ++ [t.buffer]

/-- The end of a packet leaves the history as it is. -/
theorem history_of_taken {frame : φ} (phase : t.phase = .taken frame) (whole : Bool) :
    history { t with phase := .idle, ended := t.ended ++ [(frame, whole)] } = t.history := by
  rw [history, history, phase, List.map_append]
  simp [Phase.frames]

/-- **Packets are ordered the way the writes are.** -/
theorem Reaches.pairwise_history {r : φ → φ → Prop} (refl : ∀ x, r x x)
    (trans : ∀ x y z, r x y → r y z → r x z) (hW : ∀ x y, W x y → r x y)
    (h : Reaches W x events t) : (x :: t.history).Pairwise r := by
  induction h with
  | boot => simp [history, Phase.frames, refl]
  | @step _ _ t _ _ hstep ih =>
    cases hstep with
    | skip => exact ih
    | start phase => simpa [history, phase, Phase.frames] using ih
    | finish phase => rwa [history_of_taken phase]
    | abort phase => rwa [history_of_taken phase]
    | write hwrite =>
      -- only the last one has changed
      rw [history, ← List.cons_append, List.pairwise_append] at ih ⊢
      refine ⟨ih.1, List.pairwise_singleton _ _, fun y hy z hz ↦ ?_⟩
      rw [List.mem_singleton] at hz
      exact hz ▸ trans _ _ _ (ih.2.2 y hy _ List.mem_cons_self) (hW _ _ hwrite)
    | take phase =>
      rw [history, phase, Phase.frames, List.append_nil] at ih
      rw [history, Phase.frames, ← List.cons_append, List.pairwise_append]
      rw [← List.cons_append] at ih ⊢
      refine ⟨ih, List.pairwise_singleton _ _, fun y hy z hz ↦ ?_⟩
      rw [List.mem_singleton] at hz
      subst hz
      rcases List.mem_append.mp hy with hy | hy
      · exact (List.pairwise_append.mp ih).2.2 y hy _ List.mem_cons_self
      · exact List.mem_singleton.mp hy ▸ refl _

end Transmitter
end Transition
