import Mathlib.Tactic.Common

/-!
# The native per-thread runtime

The asyncio helpers of `morpheus/asyncio.py` and `morpheus_asyncio.py` reach the
runtime only through the native `_morpheus` module: `checkpoint`, `acknowledge_yield`,
`enter_critical_section`, `exit_critical_section` and `pressure_level`. That module is
not among the Python sources, so `Worker` and the operations on it follow the spec's
contract for a registered worker: the checkpoint predicate of §4.3 and §4.5, the
acknowledgement, and the re-entrant counter of §4.4 whose underflow is clamped at zero
and counted (§7).

`checkpoint_eq_false_of_critical` is the critical-section gate (I3),
`checkpoint_acknowledgeYield` says an acknowledgement retires every hint published so
far (T4, T5), and `Worker.AckBehind` is the ordering I2 between the two sequence
numbers: every operation `Advances` a worker that keeps it.
-/

namespace Morpheus

/-- Modelled from the spec: the part of a registered worker's shared control block and
runtime state that the operations the Python layer calls read or write. -/
structure Worker where
  /-- `preempt_seq`, written by the kernel. -/
  preemptSeq : Nat
  /-- `last_ack_seq`, written by `acknowledge_yield`. -/
  lastAckSeq : Nat
  /-- `is_in_critical_section`, the re-entrant count. -/
  isInCriticalSection : Nat
  /-- `kernel_pressure_level`. -/
  kernelPressureLevel : Nat
  /-- The runtime is in DEFENSIVE mode (§4.5). -/
  defensive : Bool
  /-- The diagnostic counter of exits without a matching entry (§7). -/
  underflows : Nat
  deriving Repr, DecidableEq

namespace Worker

/-- Modelled from the spec: `checkpoint()`, true iff a hint is outstanding (or the runtime
is defensive) and the worker is not in a critical section. It mutates nothing. -/
def checkpoint (w : Worker) : Bool :=
  w.isInCriticalSection == 0 && (w.defensive || w.preemptSeq != w.lastAckSeq)

/-- Modelled from the spec: `acknowledge_yield()` copies `preempt_seq` into
`last_ack_seq` and reports whether a yield was outstanding. -/
def acknowledgeYield (w : Worker) : Bool × Worker :=
  (w.preemptSeq != w.lastAckSeq, { w with lastAckSeq := w.preemptSeq })

/-- Modelled from the spec: `enter_critical_section()` increments the count. -/
def enterCriticalSection (w : Worker) : Worker :=
  { w with isInCriticalSection := w.isInCriticalSection + 1 }

/-- Modelled from the spec: `exit_critical_section()` decrements the count, clamping at
zero and counting the underflow. -/
def exitCriticalSection (w : Worker) : Worker :=
  if w.isInCriticalSection = 0 then { w with underflows := w.underflows + 1 }
  else { w with isInCriticalSection := w.isInCriticalSection - 1 }

/-- Modelled from the spec: `pressure_level()` of a registered worker. -/
def pressureLevel (w : Worker) : Option Nat :=
  some w.kernelPressureLevel

/-- The kernel publishes a new hint: `preempt_seq` advances. -/
def publishHint (w : Worker) : Worker :=
  { w with preemptSeq := w.preemptSeq + 1 }

/-- `morpheus_checkpoint()` up to its `await asyncio.sleep(0)`: it acknowledges when
`checkpoint()` is true, and returns whether it then yields. -/
def morpheusCheckpoint (w : Worker) : Bool × Worker :=
  if w.checkpoint then (true, w.acknowledgeYield.2) else (false, w)

@[simp] theorem enterCriticalSection_isInCriticalSection (w : Worker) :
    w.enterCriticalSection.isInCriticalSection = w.isInCriticalSection + 1 := rfl

@[simp] theorem enterCriticalSection_underflows (w : Worker) :
    w.enterCriticalSection.underflows = w.underflows := rfl

@[simp] theorem acknowledgeYield_isInCriticalSection (w : Worker) :
    w.acknowledgeYield.2.isInCriticalSection = w.isInCriticalSection := rfl

@[simp] theorem acknowledgeYield_underflows (w : Worker) :
    w.acknowledgeYield.2.underflows = w.underflows := rfl

@[simp] theorem exitCriticalSection_preemptSeq (w : Worker) :
    w.exitCriticalSection.preemptSeq = w.preemptSeq := by
  unfold exitCriticalSection; split_ifs <;> rfl

@[simp] theorem exitCriticalSection_lastAckSeq (w : Worker) :
    w.exitCriticalSection.lastAckSeq = w.lastAckSeq := by
  unfold exitCriticalSection; split_ifs <;> rfl

/-- Away from zero, an exit undoes one entry and the clamp does not fire. -/
theorem exitCriticalSection_of_pos {w : Worker} (h : 0 < w.isInCriticalSection) :
    w.exitCriticalSection.isInCriticalSection + 1 = w.isInCriticalSection ∧
      w.exitCriticalSection.underflows = w.underflows := by
  simp [exitCriticalSection, Nat.pos_iff_ne_zero.mp h]
  omega

/-- While the count is positive, no checkpoint asks for a yield (I3). -/
theorem checkpoint_eq_false_of_critical {w : Worker} (h : 0 < w.isInCriticalSection) :
    w.checkpoint = false := by
  simp [checkpoint, Nat.pos_iff_ne_zero.mp h]

/-- After an acknowledgement, a checkpoint asks for a yield only in DEFENSIVE mode,
however many hints were published before it (T4, T5). -/
theorem checkpoint_acknowledgeYield (w : Worker) :
    w.acknowledgeYield.2.checkpoint = (w.isInCriticalSection == 0 && w.defensive) := by
  simp [checkpoint, acknowledgeYield]

/-- I2: the runtime never acknowledges past the kernel. -/
def AckBehind (w : Worker) : Prop := w.lastAckSeq ≤ w.preemptSeq

/-- `w'` follows `w` under I2: it acknowledges no further than the kernel has published,
and neither sequence number went back. -/
structure Advances (w w' : Worker) : Prop where
  ackBehind : w'.AckBehind
  preemptSeq : w.preemptSeq ≤ w'.preemptSeq
  lastAckSeq : w.lastAckSeq ≤ w'.lastAckSeq

theorem Advances.refl {w : Worker} (h : w.AckBehind) : Advances w w :=
  ⟨h, Nat.le_refl _, Nat.le_refl _⟩

theorem Advances.trans {u v w : Worker} (h : Advances u v) (h' : Advances v w) :
    Advances u w :=
  ⟨h'.ackBehind, Nat.le_trans h.preemptSeq h'.preemptSeq,
    Nat.le_trans h.lastAckSeq h'.lastAckSeq⟩

theorem AckBehind.advances_acknowledgeYield {w : Worker} (h : w.AckBehind) :
    Advances w w.acknowledgeYield.2 :=
  ⟨Nat.le_refl _, Nat.le_refl _, h⟩

theorem AckBehind.advances_publishHint {w : Worker} (h : w.AckBehind) :
    Advances w w.publishHint :=
  ⟨Nat.le_succ_of_le h, Nat.le_succ _, Nat.le_refl _⟩

theorem AckBehind.advances_enterCriticalSection {w : Worker} (h : w.AckBehind) :
    Advances w w.enterCriticalSection :=
  ⟨h, Nat.le_refl _, Nat.le_refl _⟩

theorem AckBehind.advances_exitCriticalSection {w : Worker} (h : w.AckBehind) :
    Advances w w.exitCriticalSection := by
  unfold exitCriticalSection
  split_ifs <;> exact ⟨h, Nat.le_refl _, Nat.le_refl _⟩

theorem AckBehind.advances_morpheusCheckpoint {w : Worker} (h : w.AckBehind) :
    Advances w w.morpheusCheckpoint.2 := by
  unfold morpheusCheckpoint
  split_ifs
  · exact h.advances_acknowledgeYield
  · exact .refl h

@[simp] theorem morpheusCheckpoint_isInCriticalSection (w : Worker) :
    w.morpheusCheckpoint.2.isInCriticalSection = w.isInCriticalSection := by
  unfold morpheusCheckpoint
  split_ifs <;> rfl

@[simp] theorem morpheusCheckpoint_kernelPressureLevel (w : Worker) :
    w.morpheusCheckpoint.2.kernelPressureLevel = w.kernelPressureLevel := by
  unfold morpheusCheckpoint
  split_ifs <;> rfl

@[simp] theorem morpheusCheckpoint_defensive (w : Worker) :
    w.morpheusCheckpoint.2.defensive = w.defensive := by
  unfold morpheusCheckpoint
  split_ifs <;> rfl

/-- Outside DEFENSIVE mode, `morpheus_checkpoint()` suspends only to retire a hint: its
acknowledgement moves `last_ack_seq` forward. -/
theorem AckBehind.lastAckSeq_lt_morpheusCheckpoint {w : Worker} (h : w.AckBehind)
    (hd : w.defensive = false) (hy : w.morpheusCheckpoint.1 = true) :
    w.lastAckSeq < w.morpheusCheckpoint.2.lastAckSeq := by
  unfold morpheusCheckpoint at hy ⊢
  split_ifs at hy ⊢ with hc
  simp only [checkpoint, hd, Bool.false_or, Bool.and_eq_true, beq_iff_eq, bne_iff_ne] at hc
  exact Nat.lt_of_le_of_ne h (Ne.symm hc.2)

/-- Outside a critical section, `morpheus_checkpoint()` leaves no hint pending: it
acknowledges, or there was none. -/
theorem morpheusCheckpoint_lastAckSeq {w : Worker} (hc : w.isInCriticalSection = 0) :
    w.morpheusCheckpoint.2.lastAckSeq = w.preemptSeq := by
  unfold morpheusCheckpoint
  split_ifs with h
  · rfl
  · simp only [checkpoint, hc, beq_self_eq_true, Bool.true_and, Bool.or_eq_true, bne_iff_ne,
      ne_eq, not_or, Decidable.not_not] at h
    exact h.2.symm

end Worker

end Morpheus
