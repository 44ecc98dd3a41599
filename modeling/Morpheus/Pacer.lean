import Mathlib.Data.List.Chain

/-!
# The adaptive checkpoint pacer

`AdaptiveCheckpointer`, the same class in `morpheus/asyncio.py` and
`morpheus_asyncio.py`, waits `interval` iterations between checkpoints, interpolated
linearly between `max_interval` at pressure 0 and `min_interval` at pressure 100. Its
`should_check` returns `True`, and moves its cursor, once the iteration is at least an
interval past the cursor.

`checks` runs a sequence of calls. `lastCheck_checks` : the cursor is the last iteration
that returned `True`. `should_check_spacing` : with pressures in `[0, 100]`, checkpoints
are at least `min_interval` apart, and on consecutive iterations at most `max_interval`
apart. `checks_length_mono` : higher pressure at every iteration never gives fewer
checkpoints by any iteration, although the two runs move their cursors at different
times (`checkpoints_monotone_in_pressure`). `checks_constant` : under a constant reading,
checkpoints fall exactly on the positive multiples of its interval; without the kernel,
of `max_interval`.
-/

namespace Morpheus

/-- `AdaptiveCheckpointer`: its bounds and its cursor `_last_check`. -/
structure AdaptiveCheckpointer where
  minInterval : Int
  maxInterval : Int
  lastCheck : Int
  deriving Repr, DecidableEq

namespace AdaptiveCheckpointer

/-- `AdaptiveCheckpointer(min_interval, max_interval)`. -/
def init (minInterval maxInterval : Int) : AdaptiveCheckpointer :=
  ⟨minInterval, maxInterval, 0⟩

/-- `AdaptiveCheckpointer()`, with the defaults `min_interval=100`, `max_interval=10000`. -/
def withDefaults : AdaptiveCheckpointer := init 100 10000

/-- The interval at `pressure`. Python's `//` floors; so does `Int.ediv` by `100`. -/
def interval (c : AdaptiveCheckpointer) (pressure : Int) : Int :=
  c.maxInterval - (c.maxInterval - c.minInterval) * pressure / 100

/-- `should_check(iteration)`, `pressureLevel` being what `_morpheus.pressure_level()`
returned; `or 0` reads `None` as `0`. -/
def shouldCheck (c : AdaptiveCheckpointer) (pressureLevel : Option Int) (iteration : Int) :
    Bool × AdaptiveCheckpointer :=
  let pressure := pressureLevel.getD 0
  if iteration - c.lastCheck ≥ c.interval pressure then (true, { c with lastCheck := iteration })
  else (false, c)

/-- At pressure `0`, and so for a reading of `None`, the interval is `max_interval`. -/
@[simp] theorem interval_zero (c : AdaptiveCheckpointer) : c.interval 0 = c.maxInterval := by
  simp [interval]

example : withDefaults.interval 0 = 10000 ∧ withDefaults.interval 100 = 100 ∧
    withDefaults.interval 50 = 5050 := by decide

theorem interval_antitone (c : AdaptiveCheckpointer) (h : c.minInterval ≤ c.maxInterval)
    {p q : Int} (hpq : p ≤ q) : c.interval q ≤ c.interval p := by
  have := Int.mul_le_mul_of_nonneg_left hpq (Int.sub_nonneg_of_le h)
  unfold interval
  omega

theorem interval_le_max (c : AdaptiveCheckpointer) (h : c.minInterval ≤ c.maxInterval)
    {p : Int} (hp : 0 ≤ p) : c.interval p ≤ c.maxInterval := by
  simpa [interval] using c.interval_antitone h hp

theorem min_le_interval (c : AdaptiveCheckpointer) (h : c.minInterval ≤ c.maxInterval)
    {p : Int} (hp : p ≤ 100) : c.minInterval ≤ c.interval p := by
  have := c.interval_antitone h hp
  simp only [interval] at this ⊢
  omega

/-! ## Runs -/

/-- One call of a run: `should_check` at iteration `call.2` reading `call.1`, the iteration
logged if it returned `True`. -/
def checkStep (r : List Int × AdaptiveCheckpointer) (call : Option Int × Int) :
    List Int × AdaptiveCheckpointer :=
  let o := r.2.shouldCheck call.1 call.2
  (if o.1 then r.1 ++ [call.2] else r.1, o.2)

/-- `calls` from `c`: the iterations that returned `True`, and the checker after them. -/
def checks (c : AdaptiveCheckpointer) (calls : List (Option Int × Int)) :
    List Int × AdaptiveCheckpointer :=
  calls.foldl checkStep ([], c)

/-- The calls `should_check(0), …, should_check(n - 1)`, call `i` reading `P i`. -/
def consecutive (P : Nat → Option Int) (n : Nat) : List (Option Int × Int) :=
  (List.range n).map fun i => (P i, (i : Int))

theorem checkStep_eq (r : List Int × AdaptiveCheckpointer) (call : Option Int × Int) :
    checkStep r call =
      if call.2 - r.2.lastCheck ≥ r.2.interval (call.1.getD 0) then
        (r.1 ++ [call.2], { r.2 with lastCheck := call.2 })
      else r := by
  by_cases h : call.2 - r.2.lastCheck ≥ r.2.interval (call.1.getD 0) <;>
    simp [checkStep, shouldCheck, h]

@[simp] theorem checks_nil (c : AdaptiveCheckpointer) : c.checks [] = ([], c) := rfl

@[simp] theorem checks_append_singleton (c : AdaptiveCheckpointer)
    (calls : List (Option Int × Int)) (call : Option Int × Int) :
    c.checks (calls ++ [call]) = checkStep (c.checks calls) call := by
  simp [checks]

theorem consecutive_succ (P : Nat → Option Int) (n : Nat) :
    consecutive P (n + 1) = consecutive P n ++ [(P n, (n : Int))] := by
  simp [consecutive, List.range_succ]

/-- The bounds never change. -/
@[simp] theorem checks_bounds (c : AdaptiveCheckpointer) (calls : List (Option Int × Int)) :
    (c.checks calls).2.minInterval = c.minInterval ∧
      (c.checks calls).2.maxInterval = c.maxInterval := by
  induction calls using List.reverseRecOn with
  | nil => simp
  | append_singleton calls call ih =>
    rw [checks_append_singleton, checkStep_eq]
    split_ifs <;> exact ih

theorem interval_checks (c : AdaptiveCheckpointer) (calls : List (Option Int × Int))
    (p : Int) : (c.checks calls).2.interval p = c.interval p := by
  simp [interval, checks_bounds]

/-- The cursor is the last iteration that returned `True`, or where it started. -/
theorem lastCheck_checks (c : AdaptiveCheckpointer) (calls : List (Option Int × Int)) :
    (c.checks calls).2.lastCheck = (c.checks calls).1.getLast?.getD c.lastCheck := by
  induction calls using List.reverseRecOn with
  | nil => simp
  | append_singleton calls call ih =>
    rw [checks_append_singleton, checkStep_eq]
    split_ifs <;> simp [ih, List.getLast?_concat]

theorem chain'_snoc {R : Int → Int → Prop} {a b : Int} {l : List Int}
    (h : List.Chain' R (a :: l)) (hb : R (l.getLast?.getD a) b) :
    List.Chain' R (a :: (l ++ [b])) := by
  simpa using h.append (List.chain'_singleton b) (by simpa [List.getLast?_cons] using hb)

/-- Below pressure 100, checkpoints are at least `min_interval` apart. -/
theorem chain'_min_checks (c : AdaptiveCheckpointer) (h : c.minInterval ≤ c.maxInterval)
    (calls : List (Option Int × Int)) (hp : ∀ call ∈ calls, ∀ p ∈ call.1, p ≤ 100) :
    List.Chain' (fun a b => a + c.minInterval ≤ b) (c.lastCheck :: (c.checks calls).1) := by
  induction calls using List.reverseRecOn with
  | nil => exact List.chain'_singleton _
  | append_singleton calls call ih =>
    have ih := ih fun x hx => hp x (List.mem_append_left _ hx)
    have hle : c.minInterval ≤ c.interval (call.1.getD 0) := by
      refine c.min_le_interval h ?_
      cases h1 : call.1 with
      | none => simp
      | some p => exact hp call (by simp) p h1
    have hL := lastCheck_checks c calls
    rw [checks_append_singleton, checkStep_eq, interval_checks]
    split_ifs with hfire
    · exact chain'_snoc ih (by rw [← hL]; omega)
    · exact ih

/-- On consecutive iterations from pressure 0 up, the gap to the next call never exceeds
`max_interval`, so neither does the gap between checkpoints. -/
theorem chain'_max_consecutive (c : AdaptiveCheckpointer) (h : c.minInterval ≤ c.maxInterval)
    (h1 : 1 ≤ c.maxInterval) (h0 : -c.lastCheck ≤ c.maxInterval) (P : Nat → Option Int)
    (hP : ∀ i, ∀ p ∈ P i, 0 ≤ p) (n : Nat) :
    List.Chain' (fun a b => b ≤ a + c.maxInterval)
        (c.lastCheck :: (c.checks (consecutive P n)).1) ∧
      (n : Int) - (c.checks (consecutive P n)).2.lastCheck ≤ c.maxInterval := by
  induction n with
  | zero => exact ⟨List.chain'_singleton _, by simpa [consecutive] using h0⟩
  | succ n ih =>
    have hle : c.interval ((P n).getD 0) ≤ c.maxInterval := by
      refine c.interval_le_max h ?_
      cases h1 : P n with
      | none => simp
      | some p => exact hP n p h1
    have hL := lastCheck_checks c (consecutive P n)
    rw [consecutive_succ, checks_append_singleton, checkStep_eq, interval_checks]
    dsimp only
    split_ifs with hfire
    · exact ⟨chain'_snoc ih.1 (by rw [← hL]; omega), by push_cast; omega⟩
    · exact ⟨ih.1, by push_cast; omega⟩

/-- The cursor never passes the last iteration called. -/
theorem lastCheck_consecutive_le (c : AdaptiveCheckpointer) (h : c.lastCheck ≤ 0)
    (P : Nat → Option Int) (n : Nat) : (c.checks (consecutive P n)).2.lastCheck ≤ n := by
  induction n with
  | zero => simpa [consecutive] using h
  | succ n ih =>
    rw [consecutive_succ, checks_append_singleton, checkStep_eq]
    split_ifs
    · exact Int.ofNat_le.mpr (Nat.le_succ n)
    · exact Int.le_trans ih (Int.ofNat_le.mpr (Nat.le_succ n))

/-- The run `rQ` is ahead of `rP`: more checkpoints, or as many and a cursor no later. -/
def Ahead (rP rQ : List Int × AdaptiveCheckpointer) : Prop :=
  rP.1.length < rQ.1.length ∨ rP.1.length = rQ.1.length ∧ rQ.2.lastCheck ≤ rP.2.lastCheck

/-- A call at the same iteration keeps the run with the shorter interval ahead: if the other
run checkpoints, so does it, unless it is already a checkpoint up. -/
theorem Ahead.checkStep {rP rQ : List Int × AdaptiveCheckpointer} (h : Ahead rP rQ)
    {i : Int} {p q : Option Int} (hQ : rQ.2.lastCheck ≤ i)
    (hpq : rQ.2.interval (q.getD 0) ≤ rP.2.interval (p.getD 0)) :
    Ahead (checkStep rP (p, i)) (checkStep rQ (q, i)) := by
  unfold Ahead at h ⊢
  rw [checkStep_eq, checkStep_eq]
  dsimp only
  split_ifs <;> simp only [List.length_append, List.length_singleton] at * <;> omega

theorem ahead_consecutive (minInterval maxInterval : Int) (hle : minInterval ≤ maxInterval)
    {P Q : Nat → Option Int} (hPQ : ∀ i, (P i).getD 0 ≤ (Q i).getD 0) (n : Nat) :
    Ahead ((init minInterval maxInterval).checks (consecutive P n))
      ((init minInterval maxInterval).checks (consecutive Q n)) := by
  induction n with
  | zero => exact .inr ⟨rfl, Int.le_refl 0⟩
  | succ n ih =>
    rw [consecutive_succ, consecutive_succ, checks_append_singleton, checks_append_singleton]
    refine ih.checkStep (lastCheck_consecutive_le _ (Int.le_refl 0) Q n) ?_
    rw [interval_checks, interval_checks]
    exact interval_antitone _ hle (hPQ n)

/-- Higher pressure at every iteration never gives fewer checkpoints by any iteration. -/
theorem checks_length_mono (minInterval maxInterval : Int) (hle : minInterval ≤ maxInterval)
    {P Q : Nat → Option Int} (hPQ : ∀ i, (P i).getD 0 ≤ (Q i).getD 0) (n : Nat) :
    ((init minInterval maxInterval).checks (consecutive P n)).1.length ≤
      ((init minInterval maxInterval).checks (consecutive Q n)).1.length := by
  rcases ahead_consecutive minInterval maxInterval hle hPQ n with h | ⟨h, -⟩ <;> omega

/-! ## Constant pressure -/

/-- Past a multiple `L` of `d`, the first multiple of `d` is `L + d`. -/
theorem dvd_iff_eq_add {d L n : Nat} (hL : d ∣ L) (hLn : L < n) (hn : n ≤ L + d) :
    d ∣ n ↔ n = L + d := by
  constructor
  · intro h
    have := Nat.le_of_dvd (by omega) (Nat.dvd_sub' h hL)
    omega
  · rintro rfl
    exact Nat.dvd_add hL (Nat.dvd_refl d)

/-- With the cursor at a multiple `L` of `d` less than `d` behind iteration `n`, the call
at `n` returns `True` exactly when `n` is a positive multiple of `d`. -/
theorem fires_iff {d L n : Nat} (hd0 : 0 < d) (hdL : d ∣ L) (hLn : L < n ∨ L = 0 ∧ n = 0)
    (hnL : n ≤ L + d) : (n : Int) - L ≥ d ↔ 0 < n ∧ n % d = 0 := by
  rcases hLn with hLn | ⟨rfl, rfl⟩
  · rw [← Nat.dvd_iff_mod_eq_zero, dvd_iff_eq_add hdL hLn hnL]
    omega
  · simp only [Nat.lt_irrefl, false_and, iff_false]
    omega

theorem checks_constant_aux (minInterval maxInterval : Int) (r : Option Int) {d : Nat}
    (hd : (init minInterval maxInterval).interval (r.getD 0) = d) (hd0 : 0 < d) (n : Nat) :
    ∃ L : Nat,
      ((init minInterval maxInterval).checks (consecutive (fun _ => r) n)).2.lastCheck = L ∧
      d ∣ L ∧ (L < n ∨ L = 0 ∧ n = 0) ∧ n ≤ L + d ∧
      ((init minInterval maxInterval).checks (consecutive (fun _ => r) n)).1 =
        ((List.range n).filter fun i => 0 < i ∧ i % d = 0).map fun i : Nat => (i : Int) := by
  induction n with
  | zero => exact ⟨0, rfl, Nat.dvd_zero d, .inr ⟨rfl, rfl⟩, Nat.zero_le _, rfl⟩
  | succ n ih =>
    obtain ⟨L, hL, hdL, hLn, hnL, hlist⟩ := ih
    have hfires := fires_iff hd0 hdL hLn hnL
    rw [consecutive_succ, checks_append_singleton, checkStep_eq, interval_checks, hd, hL]
    by_cases hfire : 0 < n ∧ n % d = 0
    · rw [if_pos (hfires.2 hfire)]
      exact ⟨n, rfl, Nat.dvd_of_mod_eq_zero hfire.2, .inl (Nat.lt_succ_self n), by omega,
        by simp [hlist, List.range_succ, hfire]⟩
    · have hnf := mt hfires.1 hfire
      rw [if_neg hnf]
      exact ⟨L, hL, hdL, .inl (by omega), by omega, by simp [hlist, List.range_succ, hfire]⟩

/-- Under a constant reading whose interval `d` is positive, a fresh checker called on
`0, 1, …, n - 1` returns `True` exactly at the positive multiples of `d` below `n`. A
thread with no registered worker reads `None` (spec §8, scenario 6), read as `0`, so there
`d` is `max_interval` for every checker (`interval_zero`). -/
theorem checks_constant (minInterval maxInterval : Int) (r : Option Int) (d : Nat)
    (hd : (init minInterval maxInterval).interval (r.getD 0) = d) (hd0 : 0 < d) (n : Nat) :
    ((init minInterval maxInterval).checks (consecutive (fun _ => r) n)).1 =
      ((List.range n).filter fun i => 0 < i ∧ i % d = 0).map fun i : Nat => (i : Int) := by
  obtain ⟨-, -, -, -, -, h⟩ := checks_constant_aux minInterval maxInterval r hd hd0 n
  exact h

theorem checks_constant_without_kernel :
    (init 1 3).interval ((none : Option Int).getD 0) = ((3 : Nat) : Int) ∧ 0 < 3 ∧
      ((init 1 3).checks (consecutive (fun _ => none) 7)).1 =
        ((List.range 7).filter fun i => 0 < i ∧ i % 3 = 0).map fun i : Nat => (i : Int) :=
  ⟨by decide, by decide, checks_constant 1 3 none 3 (by decide) (by decide) 7⟩

example : ((init 1 3).checks (consecutive (fun _ => none) 7)).1 = [3, 6] := by decide

end AdaptiveCheckpointer

open AdaptiveCheckpointer in
/-- On a fresh checker with `1 ≤ min_interval ≤ max_interval` and pressures in `[0, 100]`:
after any calls the cursor is the last checkpoint (`0` before the first), and checkpoints
are at least `min_interval` apart, from `0` on. On the consecutive iterations
`0, 1, …, n - 1`, checkpoints are at most `max_interval` apart, from `0` on, and the next
call is at most `max_interval` past the last one. -/
theorem should_check_spacing (minInterval maxInterval : Int) (hmin : 1 ≤ minInterval)
    (hle : minInterval ≤ maxInterval) (calls : List (Option Int × Int))
    (hp : ∀ call ∈ calls, ∀ p ∈ call.1, 0 ≤ p ∧ p ≤ 100) (P : Nat → Option Int)
    (hP : ∀ i, ∀ p ∈ P i, 0 ≤ p ∧ p ≤ 100) (n : Nat) :
    ((init minInterval maxInterval).checks calls).2.lastCheck =
        ((init minInterval maxInterval).checks calls).1.getLast?.getD 0 ∧
      List.Chain' (fun a b => a + minInterval ≤ b)
        (0 :: ((init minInterval maxInterval).checks calls).1) ∧
      List.Chain' (fun a b => b ≤ a + maxInterval)
        (0 :: ((init minInterval maxInterval).checks (consecutive P n)).1) ∧
      (n : Int) - ((init minInterval maxInterval).checks (consecutive P n)).2.lastCheck ≤
        maxInterval :=
  have hq := (init minInterval maxInterval).chain'_max_consecutive hle (by simp [init]; omega)
    (by simp [init]; omega) P (fun i p hp => (hP i p hp).1) n
  ⟨lastCheck_checks _ calls,
    chain'_min_checks (init minInterval maxInterval) hle calls fun c hc p h => (hp c hc p h).2,
    hq.1, hq.2⟩

open AdaptiveCheckpointer in
theorem should_check_spacing_at_half_pressure :
    ((init 100 10000).checks [(some 50, 6000), (none, 9000)]).2.lastCheck =
        ((init 100 10000).checks [(some 50, 6000), (none, 9000)]).1.getLast?.getD 0 ∧
      List.Chain' (fun a b => a + 100 ≤ b)
        (0 :: ((init 100 10000).checks [(some 50, 6000), (none, 9000)]).1) ∧
      List.Chain' (fun a b => b ≤ a + 10000)
        (0 :: ((init 100 10000).checks (consecutive (fun _ => some 50) 3)).1) ∧
      ((3 : Nat) : Int) - ((init 100 10000).checks (consecutive (fun _ => some 50) 3)).2.lastCheck
        ≤ 10000 :=
  should_check_spacing 100 10000 (by decide) (by decide) _ (by simp) (fun _ => some 50)
    (fun _ p hp => by simp at hp; omega) 3

open AdaptiveCheckpointer in
/-- Two fresh checkers with the same bounds run on `should_check(0), …`, the second reading
a pressure at least the first's at every call (`None` as `0`): when the first returns `True`
for the `k`-th time, at iteration `s`, the second has returned `True` at least `k` times by
then. The first `s + 1` calls of a longer run are these. -/
theorem checkpoints_monotone_in_pressure (minInterval maxInterval : Int)
    (hle : minInterval ≤ maxInterval) (P Q : Nat → Option Int)
    (hPQ : ∀ i, (P i).getD 0 ≤ (Q i).getD 0) (s k : Nat)
    (_hs : (((init minInterval maxInterval).checks (consecutive P s)).2.shouldCheck
      (P s) s).1 = true)
    (hk : ((init minInterval maxInterval).checks (consecutive P (s + 1))).1.length = k) :
    k ≤ ((init minInterval maxInterval).checks (consecutive Q (s + 1))).1.length :=
  hk ▸ checks_length_mono minInterval maxInterval hle hPQ (s + 1)

open AdaptiveCheckpointer in
theorem checkpoints_monotone_under_full_pressure :
    (((init 1 3).checks (consecutive (fun _ => none) 3)).2.shouldCheck none 3).1 = true ∧
      ((init 1 3).checks (consecutive (fun _ => none) 4)).1.length = 1 ∧
      1 ≤ ((init 1 3).checks (consecutive (fun _ => some 100) 4)).1.length :=
  ⟨by decide, by decide,
    checkpoints_monotone_in_pressure 1 3 (by decide) (fun _ => none) (fun _ => some 100)
      (fun _ => by simp) 3 1 (by decide) (by decide)⟩

end Morpheus
