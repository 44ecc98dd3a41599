import Morpheus.Runtime
import Morpheus.Pacer

/-!
# The paced checkpoint loop

`AdaptiveCheckpointer`'s docstring in `morpheus_asyncio.py`, and
`adaptive_checkpoint_example` in `examples/asyncio_example.py`, pace a CPU-bound loop with
it: at every iteration `i`, `if checker.should_check(i): await morpheus_checkpoint()`. The
pacer reads `_morpheus.pressure_level()`, and `morpheus_checkpoint()` acknowledges a
pending hint. Between iterations the kernel publishes hints and moves the pressure, and
while the loop is suspended the thread's other tasks run: `PacedLoop.env` stands for all
of it. A kernel write that lands inside `morpheus_checkpoint()` is taken as landing after
it.

`PacedLoop.state_checker` : the loop's checker is the one `AdaptiveCheckpointer.checks`
computes from the pressures the loop read, so the pacer's results apply to the loop.
`hint_acknowledged_within_interval` : when no critical section stays open across an
iteration and the pressure never falls below `P`, every hint the kernel published before
iteration `i` is acknowledged by the end of iteration `i + interval(P)`; at `P = 0`, by
the end of iteration `i + max_interval`, whatever the pressure does. `yields_le_hints` is
the other side: outside DEFENSIVE mode the loop suspends at most once per hint.
-/

namespace Morpheus

open AdaptiveCheckpointer

/-- A task running `checker.should_check(i)`, and `morpheus_checkpoint()` when it returns
`True`, for `i = 0, 1, …`, on a fresh `AdaptiveCheckpointer(min_interval, max_interval)`. -/
structure PacedLoop where
  minInterval : Int
  maxInterval : Int
  /-- The worker when the loop starts. -/
  worker : Worker
  /-- What the kernel and the thread's other tasks do to the worker after iteration `j`. -/
  env : Nat → Worker → Worker

namespace PacedLoop

/-- What `_morpheus.pressure_level()` returns, as `should_check` reads it. -/
def pressureOf (w : Worker) : Option Int := w.pressureLevel.map fun l : Nat => (l : Int)

/-- The checker and the worker before iteration `n`. -/
def state (p : PacedLoop) : Nat → AdaptiveCheckpointer × Worker
  | 0 => (init p.minInterval p.maxInterval, p.worker)
  | n + 1 =>
    let s := p.state n
    let r := s.1.shouldCheck (pressureOf s.2) n
    (r.2, p.env n (if r.1 then s.2.morpheusCheckpoint.2 else s.2))

/-- `should_check(n)` returns `True`. -/
def fires (p : PacedLoop) (n : Nat) : Bool :=
  ((p.state n).1.shouldCheck (pressureOf (p.state n).2) n).1

/-- How many times `morpheus_checkpoint()` has returned `True`, that is, suspended the
loop, in its first `n` iterations. -/
def yields (p : PacedLoop) : Nat → Nat
  | 0 => 0
  | n + 1 => p.yields n + if p.fires n && (p.state n).2.morpheusCheckpoint.1 then 1 else 0

/-- What the loop needs of its surroundings: the worker starts with I2 and no critical
section open, and between iterations the kernel and the other tasks keep I2 and leave no
critical section open. -/
structure Quiet (p : PacedLoop) : Prop where
  ackBehind : p.worker.AckBehind
  noScope : p.worker.isInCriticalSection = 0
  env : ∀ j w, w.AckBehind → w.isInCriticalSection = 0 →
    w.Advances (p.env j w) ∧ (p.env j w).isInCriticalSection = 0

/-- The pressure never falls below `P`: the loop starts at `P` or more, and nothing
between iterations takes it below `P`. -/
structure PressureFloor (p : PacedLoop) (P : Nat) : Prop where
  start : P ≤ p.worker.kernelPressureLevel
  env : ∀ j w, P ≤ w.kernelPressureLevel → P ≤ (p.env j w).kernelPressureLevel

/-- The runtime stays out of DEFENSIVE mode: it is off when the loop starts and nothing
between iterations turns it on. -/
structure NeverDefensive (p : PacedLoop) : Prop where
  start : p.worker.defensive = false
  env : ∀ j w, w.defensive = false → (p.env j w).defensive = false

theorem state_succ_snd (p : PacedLoop) (n : Nat) : (p.state (n + 1)).2 =
    p.env n (if p.fires n then (p.state n).2.morpheusCheckpoint.2 else (p.state n).2) := rfl

/-- A property of the worker that holds at the start and that `morpheus_checkpoint()` and
every step between iterations keep holds before every iteration. -/
theorem state_invariant {p : PacedLoop} (Q : Worker → Prop) (h₀ : Q p.worker)
    (hck : ∀ w, Q w → Q w.morpheusCheckpoint.2) (henv : ∀ j w, Q w → Q (p.env j w))
    (n : Nat) : Q (p.state n).2 := by
  induction n with
  | zero => exact h₀
  | succ n ih =>
    rw [state_succ_snd]
    exact henv n _ (by split_ifs; exacts [hck _ ih, ih])

theorem PressureFloor.le_state {p : PacedLoop} {P : Nat} (hP : p.PressureFloor P) (n : Nat) :
    P ≤ (p.state n).2.kernelPressureLevel :=
  state_invariant (fun w => P ≤ w.kernelPressureLevel) hP.start (fun _ h => by simpa using h)
    hP.env n

theorem NeverDefensive.defensive_state {p : PacedLoop} (hd : p.NeverDefensive) (n : Nat) :
    (p.state n).2.defensive = false :=
  state_invariant (fun w => w.defensive = false) hd.start (fun _ h => by simpa using h)
    hd.env n

variable (p : PacedLoop)

/-! ## The checker -/

/-- The loop's checker is `AdaptiveCheckpointer.checks` run on the pressures it read. -/
theorem state_checker (n : Nat) :
    (p.state n).1 = ((init p.minInterval p.maxInterval).checks
      (consecutive (fun j => pressureOf (p.state j).2) n)).2 := by
  induction n with
  | zero => rfl
  | succ n ih =>
    rw [consecutive_succ, checks_append_singleton]
    simp only [checkStep, ← ih]
    rfl

theorem lastCheck_state_succ (n : Nat) :
    (p.state (n + 1)).1.lastCheck = if p.fires n then (n : Int) else (p.state n).1.lastCheck := by
  simp only [state, fires, shouldCheck]
  split_ifs <;> first | rfl | contradiction

theorem lastCheck_state_le (n : Nat) : (p.state n).1.lastCheck ≤ n := by
  rw [state_checker]
  exact lastCheck_consecutive_le _ (Int.le_refl 0) _ n

/-- Once the cursor is the interval at `P` behind, `should_check` returns `True`: the
pressure read is at least `P`, so its interval is no longer. -/
theorem fires_of_le (hle : p.minInterval ≤ p.maxInterval) {P : Nat} (n : Nat)
    (hP : P ≤ (p.state n).2.kernelPressureLevel)
    (h : (p.state n).1.lastCheck + (init p.minInterval p.maxInterval).interval P ≤ n) :
    p.fires n = true := by
  have hb := checks_bounds (init p.minInterval p.maxInterval)
    (consecutive (fun j => pressureOf (p.state j).2) n)
  rw [← state_checker] at hb
  have heq : ∀ q, (p.state n).1.interval q = (init p.minInterval p.maxInterval).interval q :=
    fun q => by simp only [interval, hb.1, hb.2]
  have hi := (init p.minInterval p.maxInterval).interval_antitone hle
    (show (P : Int) ≤ (pressureOf (p.state n).2).getD 0 by
      simpa [pressureOf, Worker.pressureLevel] using hP)
  unfold fires shouldCheck
  rw [if_pos (by rw [heq]; omega)]

/-- Within the interval at `P` plus one iterations from any `i`, `should_check` returns
`True`. -/
theorem exists_fires (hle : p.minInterval ≤ p.maxInterval) {P : Nat} (hP : p.PressureFloor P)
    (i : Nat) : ∃ j, i ≤ j ∧ j ≤ i + ((init p.minInterval p.maxInterval).interval P).toNat ∧
      p.fires j = true := by
  by_contra hno
  push_neg at hno
  have hconst : ∀ k ≤ ((init p.minInterval p.maxInterval).interval P).toNat,
      (p.state (i + k)).1.lastCheck = (p.state i).1.lastCheck := by
    intro k
    induction k with
    | zero => simp
    | succ k ih =>
      intro hk
      have hk' : p.fires (i + k) = false := by simpa using hno _ (by omega) (by omega)
      rw [← Nat.add_assoc, lastCheck_state_succ, hk', if_neg Bool.false_ne_true, ih (by omega)]
  have := p.lastCheck_state_le i
  exact hno _ (by omega) (Nat.le_refl _) (p.fires_of_le hle _ (hP.le_state _)
    (by rw [hconst _ (Nat.le_refl _)]; push_cast; omega))

/-! ## The worker -/

namespace Quiet

variable {p} (hq : p.Quiet)
include hq

theorem worker_state (n : Nat) :
    (p.state n).2.AckBehind ∧ (p.state n).2.isInCriticalSection = 0 :=
  state_invariant (fun w => w.AckBehind ∧ w.isInCriticalSection = 0)
    ⟨hq.ackBehind, hq.noScope⟩
    (fun _ h => ⟨h.1.advances_morpheusCheckpoint.ackBehind, by simpa using h.2⟩)
    (fun j w h => ⟨(hq.env j w h.1 h.2).1.ackBehind, (hq.env j w h.1 h.2).2⟩) n

/-- After a `True` from `should_check`, the step between iterations keeps I2. -/
theorem advances_env_checkpoint (n : Nat) :
    (p.state n).2.morpheusCheckpoint.2.Advances (p.env n (p.state n).2.morpheusCheckpoint.2) :=
  have h := hq.worker_state n
  (hq.env n _ h.1.advances_morpheusCheckpoint.ackBehind (by simpa using h.2)).1

theorem advances_succ (n : Nat) : (p.state n).2.Advances (p.state (n + 1)).2 := by
  have h := hq.worker_state n
  rw [state_succ_snd]
  split_ifs
  · exact h.1.advances_morpheusCheckpoint.trans (hq.advances_env_checkpoint n)
  · exact (hq.env n _ h.1 h.2).1

theorem advances {m n : Nat} (hmn : m ≤ n) : (p.state m).2.Advances (p.state n).2 := by
  induction n, hmn using Nat.le_induction with
  | base => exact .refl (hq.worker_state m).1
  | succ n _ ih => exact ih.trans (hq.advances_succ n)

/-- An iteration whose `should_check` returns `True` leaves no hint of its start pending. -/
theorem preemptSeq_le_lastAckSeq {j : Nat} (hj : p.fires j = true) :
    (p.state j).2.preemptSeq ≤ (p.state (j + 1)).2.lastAckSeq := by
  rw [state_succ_snd, if_pos hj, ← Worker.morpheusCheckpoint_lastAckSeq (hq.worker_state j).2]
  exact (hq.advances_env_checkpoint j).lastAckSeq

/-- Outside DEFENSIVE mode each suspension moves `last_ack_seq` forward. -/
theorem yields_add_lastAckSeq_le (hd : p.NeverDefensive) (n : Nat) :
    p.yields n + p.worker.lastAckSeq ≤ (p.state n).2.lastAckSeq := by
  induction n with
  | zero => exact (Nat.zero_add _).le
  | succ n ih =>
    have hadv := (hq.advances_succ n).lastAckSeq
    simp only [yields]
    split_ifs with hy
    · obtain ⟨hf, hy⟩ := Bool.and_eq_true _ _ ▸ hy
      have hlt := (hq.worker_state n).1.lastAckSeq_lt_morpheusCheckpoint (hd.defensive_state n) hy
      have henv := (hq.advances_env_checkpoint n).lastAckSeq
      rw [state_succ_snd, if_pos hf]
      omega
    · omega

end Quiet

end PacedLoop

/-- When no critical section stays open across an iteration and the pressure never falls
below `P`, the paced loop acknowledges every hint the kernel has published before
iteration `i` by the end of iteration `i + interval(P)`, whatever else happens between
iterations. With `P = 0` the bound is `max_interval`, however the pressure moves. -/
theorem hint_acknowledged_within_interval (p : PacedLoop) (hle : p.minInterval ≤ p.maxInterval)
    (hq : p.Quiet) {P : Nat} (hP : p.PressureFloor P) (i : Nat) :
    (p.state i).2.preemptSeq ≤
      (p.state (i + ((init p.minInterval p.maxInterval).interval P).toNat + 1)).2.lastAckSeq := by
  obtain ⟨j, hij, hjm, hj⟩ := p.exists_fires hle hP i
  calc (p.state i).2.preemptSeq
      ≤ (p.state j).2.preemptSeq := (hq.advances hij).preemptSeq
    _ ≤ (p.state (j + 1)).2.lastAckSeq := hq.preemptSeq_le_lastAckSeq hj
    _ ≤ (p.state (i + ((init p.minInterval p.maxInterval).interval P).toNat + 1)).2.lastAckSeq :=
      (hq.advances (by omega)).lastAckSeq

theorem hint_acknowledged_within_interval_at_half_pressure :
    let p : PacedLoop := ⟨1, 3, ⟨0, 0, 0, 50, false, 0⟩, fun _ w => w.publishHint⟩
    p.minInterval ≤ p.maxInterval ∧ p.Quiet ∧ p.PressureFloor 50 ∧
      (p.state 2).2.preemptSeq ≤
        (p.state (2 + ((init p.minInterval p.maxInterval).interval ((50 : Nat) : Int)).toNat +
          1)).2.lastAckSeq :=
  have hq : PacedLoop.Quiet ⟨1, 3, ⟨0, 0, 0, 50, false, 0⟩, fun _ w => w.publishHint⟩ :=
    ⟨Nat.le_refl 0, rfl, fun _ _ h hc => ⟨h.advances_publishHint, hc⟩⟩
  have hP : PacedLoop.PressureFloor ⟨1, 3, ⟨0, 0, 0, 50, false, 0⟩, fun _ w => w.publishHint⟩ 50 :=
    ⟨Nat.le_refl _, fun _ _ h => h⟩
  ⟨by decide, hq, hP, hint_acknowledged_within_interval _ (by decide) hq hP 2⟩

/-- Outside DEFENSIVE mode the paced loop suspends at most once per hint: in its first `n`
iterations `morpheus_checkpoint()` returns `True` at most as many times as there were
hints pending when the loop started plus hints the kernel has published since. -/
theorem yields_le_hints (p : PacedLoop) (hq : p.Quiet) (hd : p.NeverDefensive) (n : Nat) :
    p.yields n + p.worker.lastAckSeq ≤ (p.state n).2.preemptSeq :=
  Nat.le_trans (hq.yields_add_lastAckSeq_le hd n) (hq.worker_state n).1

theorem yields_le_hints_hinted :
    let p : PacedLoop := ⟨1, 3, ⟨0, 0, 0, 50, false, 0⟩, fun _ w => w.publishHint⟩
    p.Quiet ∧ p.NeverDefensive ∧ p.yields 6 + p.worker.lastAckSeq ≤ (p.state 6).2.preemptSeq :=
  have hq : PacedLoop.Quiet ⟨1, 3, ⟨0, 0, 0, 50, false, 0⟩, fun _ w => w.publishHint⟩ :=
    ⟨Nat.le_refl 0, rfl, fun _ _ h hc => ⟨h.advances_publishHint, hc⟩⟩
  have hd : PacedLoop.NeverDefensive ⟨1, 3, ⟨0, 0, 0, 50, false, 0⟩, fun _ w => w.publishHint⟩ :=
    ⟨rfl, fun _ _ h => h⟩
  ⟨hq, hd, yields_le_hints _ hq hd 6⟩

end Morpheus
