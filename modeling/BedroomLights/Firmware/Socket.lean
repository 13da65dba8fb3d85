import BedroomLights.Firmware.Step
import BedroomLights.Transition.Fifo

/-!
# The program and its socket

In `Sys.step` the outcome of `recvfrom` is an input like any other.  Here it is decided by a socket:
the network puts datagrams into it at times of its own, and a poll takes the oldest one out, or
finds none.  `Net` is the program with its socket and `Net.step` a step of either.

Seen from the program nothing has changed, except that it stands still while a datagram arrives: a
run of the two is a run of the program (`network_sys`), with the same occurrences
(`network_at_iff`), so whatever holds of all runs of the program holds here.
-/

set_option autoImplicit false

open Transition

namespace BedroomLights

/-- A datagram with its sender's address. -/
structure Datagram where
  family : AddressFamily
  data : List Byte
  port : BitVec 16
  ipAddr : BitVec 32
deriving DecidableEq

/-- The outcome of `recvfrom` that delivers a datagram. -/
def Datagram.recv (d : Datagram) : RecvFrom := .received d.family d.data d.port d.ipAddr

/-- `recvfrom` on a socket, with `MSG_DONTWAIT`. -/
def recvfrom : List Datagram → RecvFrom
  | [] => .failed .eagain
  | d :: _ => d.recv

/-- The call of `lifx_loop` in which `recvfrom` is called. -/
def Polls (cfg : SdkConfig) (s : Sys) : Action → Prop
  | .loop io => s.pc = .lifxLoop ∧ s.lifx.state = .rx ∧
      ¬ io.now - s.lifx.lastSend > lifxResendPeriod cfg
  | _ => False

instance (cfg : SdkConfig) (s : Sys) : (a : Action) → Decidable (Polls cfg s a)
  | .loop _ => inferInstanceAs (Decidable (_ ∧ _))
  | .event _ | .dmxTimerIsr _ | .dmxUartIsrTxData _ | .dmxUartIsrTxDone =>
    inferInstanceAs (Decidable False)

/-- The same action when `recvfrom` does something else. -/
def Action.withRecv (recv : RecvFrom) : Action → Action
  | .loop io => .loop { io with recv := recv }
  | a => a

/-- The steps of the program, and of the network that delivers to it. -/
inductive NetAction where
  | arrive (d : Datagram)
  | program (a : Action)

/-- The program and its socket, the oldest datagram first. -/
structure Net where
  sys : Sys
  socket : List Datagram

/-- One step. -/
def Net.step (cfg : SdkConfig) (lt : Lifetime) (n : Net) : NetAction → Option Net
  | .arrive d => some { n with socket := n.socket ++ [d] }
  | .program a =>
    let a := a.withRecv (recvfrom n.socket)
    (Sys.step cfg lt n.sys a).map fun sys ↦
      { sys := sys, socket := if Polls cfg n.sys a then n.socket.tail else n.socket }

/-- The run of the program and its socket that a sequence of actions makes. -/
def network (cfg : SdkConfig) (lt : Lifetime) (b : Boot) (act : ℕ → NetAction) :
    Run Net NetAction where
  step := Net.step cfg lt
  start := ⟨Sys.boot b, []⟩
  act := act

@[simp] theorem network_act (cfg : SdkConfig) (lt : Lifetime) (b : Boot) (act : ℕ → NetAction) :
    (network cfg lt b act).act = act := rfl

/-- The action is one of the program that `P` describes. -/
def OfProgram (P : Sys → Action → Prop) (n : Net) : NetAction → Prop
  | .arrive _ => False
  | .program a => P n.sys (a.withRecv (recvfrom n.socket))

instance (P : Sys → Action → Prop) [∀ s a, Decidable (P s a)] (n : Net) :
    (a : NetAction) → Decidable (OfProgram P n a)
  | .arrive _ => inferInstanceAs (Decidable False)
  | .program a => inferInstanceAs (Decidable (P n.sys (a.withRecv (recvfrom n.socket))))

/-- What an action puts into the socket. -/
def arrival (_ : Net) : NetAction → Option Datagram
  | .arrive d => some d
  | .program _ => none

variable {cfg : SdkConfig} {lt : Lifetime} {b : Boot} {act : ℕ → NetAction} {k : ℕ} {n n' : Net}

/-! ## The socket is a queue -/

/-- Outside of polls it makes no difference what `recvfrom` would do. -/
theorem step_withRecv_of_not_polls {s : Sys} {a : Action} (h : ¬ Polls cfg s a) (recv : RecvFrom) :
    Sys.step cfg lt s (a.withRecv recv) = Sys.step cfg lt s a := by
  cases a with
  | loop io =>
    rw [Action.withRecv, Sys.step, Sys.step, Sys.call, Sys.call]
    cases hpc : s.pc with
    | lifxLoop =>
      have hloop : lifxLoop cfg lt io.now s.wifi.wifiConnection io.sendto recv s.lifx =
          lifxLoop cfg lt io.now s.wifi.wifiConnection io.sendto io.recv s.lifx := by
        rw [lifxLoop, lifxLoop]
        cases hstate : s.lifx.state with
        | rx =>
          have hlate : io.now - s.lifx.lastSend > lifxResendPeriod cfg :=
            Classical.byContradiction fun hearly ↦ h ⟨hpc, hstate, hearly⟩
          simp only [if_pos hlate]
        | _ => rfl
      exact congrArg (fun r ↦ Option.map _ (Option.map _ r)) hloop
    | _ => rfl
  | _ => rfl

theorem step_socket {a : NetAction} (h : Net.step cfg lt n a = some n') :
    n'.socket = (if OfProgram (Polls cfg) n a then n.socket.tail else n.socket) ++
      (arrival n a).toList := by
  cases a with
  | arrive d => cases h; rfl
  | program a =>
    obtain ⟨s, -, rfl⟩ := Option.map_eq_some_iff.mp h
    exact (List.append_nil _).symm

/-- The socket with the steps at which the datagrams in it have arrived. -/
abbrev arrivals (cfg : SdkConfig) (lt : Lifetime) (b : Boot) (act : ℕ → NetAction) :
    ℕ → List (Entry Datagram) :=
  (network cfg lt b act).queue arrival (OfProgram (Polls cfg))

theorem map_item_arrivals (h : (network cfg lt b act).state k = some n) :
    (arrivals cfg lt b act k).map Entry.item = n.socket :=
  Run.map_item_queue (q := Net.socket) rfl (fun _ _ _ ↦ step_socket) h

/-! ## A run of the program -/

/-- What the program sees of a run: its own actions, and otherwise an event that nobody handles. -/
def programAct (cfg : SdkConfig) (lt : Lifetime) (b : Boot) (act : ℕ → NetAction) (k : ℕ) :
    Action :=
  match (network cfg lt b act).state k, act k with
  | some n, .program a => a.withRecv (recvfrom n.socket)
  | _, _ => .event .other

/-- **A run with the socket is a run of the program.** -/
theorem network_sys : ((network cfg lt b act).state k).map Net.sys =
    (firmware cfg lt b (programAct cfg lt b act)).state k := by
  induction k with
  | zero => rfl
  | succ k ih =>
    rw [Run.state_succ, Run.state_succ, ← ih, firmware_act, network_act, programAct]
    cases (network cfg lt b act).state k with
    | none => rfl
    | some n =>
      rw [Option.bind_some, Option.map_some, Option.bind_some]
      cases act k with
      | arrive d => rfl
      | program a =>
        show (Net.step cfg lt n (.program a)).map Net.sys =
          Sys.step cfg lt n.sys (a.withRecv (recvfrom n.socket))
        rw [Net.step, Option.map_map]
        exact congrFun Option.map_id _

theorem firmware_state (h : (network cfg lt b act).state k = some n) :
    (firmware cfg lt b (programAct cfg lt b act)).state k = some n.sys := by
  rw [← network_sys, h, Option.map_some]

/-- The occurrences in the two runs are the same. -/
theorem network_at_iff {P : Sys → Action → Prop} (hP : ∀ s, ¬ P s (.event .other)) :
    (network cfg lt b act).At (OfProgram P) k ↔
      (firmware cfg lt b (programAct cfg lt b act)).At P k := by
  cases hn : (network cfg lt b act).state k with
  | none =>
    have hs : (firmware cfg lt b (programAct cfg lt b act)).state k = none := by
      rw [← network_sys, hn, Option.map_none]
    exact iff_of_false (Run.not_at_of_none hn) (Run.not_at_of_none hs)
  | some n =>
    rw [Run.at_iff hn, Run.at_iff (firmware_state hn), firmware_act, network_act, programAct, hn]
    cases act k with
    | arrive d => exact iff_of_false id (hP n.sys)
    | program a => exact Iff.rfl

end BedroomLights
