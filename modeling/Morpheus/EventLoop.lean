import Mathlib.Data.List.Nodup

/-!
# The checkpoint chain of `_MorpheusEventLoop`

`_MorpheusEventLoop` in `morpheus/asyncio.py` wraps an asyncio loop. Its `run_forever`
and `run_until_complete` call `_schedule_check()`, which queues `_check_and_reschedule`
on the inner loop with `call_soon` and keeps the handle in `_check_handle`, and then run
the inner loop inside a `try` whose `finally` is `_cancel_check()`. Each time
`_check_and_reschedule` runs, it calls `checkpoint()` and schedules itself again.

The inner loop is its ready queue of `Handle`s: `call_soon` appends, `Handle.cancel`
marks, and each iteration (`_run_once`) pops the handles queued at its start, skipping the
cancelled ones; `run_*` raises at once while the loop runs. A user callback, a task's step,
a future's done callback, a timer or an I/O callback is a `Callback.user`, and what it does
is the next `Event`s, up to `Event.done`. `Loop.step` is the thread's next step.

A `run_*` on the wrapper from inside a callback schedules a second check before the inner
loop refuses to run, and its `finally` cancels that one and clears `_check_handle`: the
chain that was running is no longer the one `_check_handle` names (an orphan). `Loop.Inv`
counts orphans against such nested calls. `liveChecks_steps_le` : the queue never holds
more live checks than the nested calls so far, plus one while a wrapper run is active, so
with no nested call there is at most one and none between runs (`check_chain_single`).
`Loop.Alive` is the other half: with no nested call the chain never breaks, and while a
run is active exactly one live check is queued, the one `_check_handle` names
(`check_chain_alive`). `check_once_per_iteration` is what the chain is for: with no
nested call, each iteration of `_run_once` runs the wrapper's `checkpoint()` exactly once
(`Loop.Paced`). `nested_run_leaks_check_chain` is a run of the wrapper that
returns with a live check left in the queue, and two once the next run starts.
-/

namespace Morpheus

/-- A callback in the inner loop's ready queue. -/
inductive Callback where
  /-- The wrapper's `_check_and_reschedule`. -/
  | checkAndReschedule
  /-- Any other callback. -/
  | user
  deriving Repr, DecidableEq

/-- An `asyncio.Handle`; `id` tells handle objects apart. -/
structure Handle where
  id : Nat
  callback : Callback
  cancelled : Bool
  deriving Repr, DecidableEq

/-- Where the thread is, for the wrapper and the inner loop. -/
inductive Ctrl where
  /-- No wrapper `run_*` call is active. -/
  | idle
  /-- The inner `run_forever` is about to call `_run_once`. -/
  | loop
  /-- In `_run_once`, `ntodo` handles still to pop. -/
  | iteration (ntodo : Nat)
  /-- A user callback runs, `ntodo` handles left in its iteration. -/
  | callback (ntodo : Nat)
  /-- A wrapper `run_*` called from the callback has had the inner loop refuse to run;
  its `finally` is next. -/
  | nestedFinally (ntodo : Nat)
  /-- The inner run has returned; the wrapper's `finally` is next. -/
  | runFinally
  deriving Repr, DecidableEq

/-- While `_run_once` pops handles or runs a callback: the handles it has still to pop. -/
def Ctrl.iterating : Ctrl → Option Nat
  | .iteration n | .callback n | .nestedFinally n => some n
  | _ => none

/-- The wrapper and its inner loop. -/
structure Loop where
  /-- The inner loop's `_ready`. -/
  ready : List Handle
  /-- The inner loop's `_stopping`. -/
  stopping : Bool
  /-- The inner loop is closed. -/
  closed : Bool
  /-- The wrapper's `_check_handle`, by id. -/
  checkHandle : Option Nat
  /-- The id of the next handle. -/
  nextId : Nat
  ctrl : Ctrl
  deriving Repr, DecidableEq

/-- What the running code, or the environment, does next. -/
inductive Event where
  /-- `call_soon` of a user callback on the inner loop, or, before an iteration, a timer
  or I/O callback coming due. -/
  | callSoon
  /-- `stop()` on the inner loop. -/
  | stop
  /-- `close()`. -/
  | close
  /-- `run_forever()` on the wrapper. -/
  | runForever
  /-- `run_until_complete(coro)` on the wrapper. -/
  | runUntilComplete
  /-- The running user callback returns, or raises into the loop's exception handler. -/
  | done
  /-- The loop's own next step. -/
  | tick
  deriving Repr, DecidableEq

namespace Loop

/-- `_MorpheusEventLoop(inner)` on a new inner loop. -/
def new : Loop := ⟨[], false, false, none, 0, .idle⟩

/-- `call_soon(cb)`: the new handle's id and the loop; `none` where a closed loop raises. -/
def callSoon (l : Loop) (cb : Callback) : Option (Nat × Loop) :=
  if l.closed then none
  else some (l.nextId,
    { l with ready := l.ready ++ [⟨l.nextId, cb, false⟩], nextId := l.nextId + 1 })

/-- `cancel()` on the handle `id`. -/
def cancelHandle (id : Nat) (ready : List Handle) : List Handle :=
  ready.map fun h => if h.id = id then { h with cancelled := true } else h

/-- `_schedule_check()`; `none` where `call_soon` raises. -/
def scheduleCheck (l : Loop) : Option Loop :=
  (l.callSoon .checkAndReschedule).map fun r => { r.2 with checkHandle := some r.1 }

/-- `_cancel_check()`. -/
def cancelCheck (l : Loop) : Loop :=
  match l.checkHandle with
  | some id => { l with ready := cancelHandle id l.ready, checkHandle := none }
  | none => l

/-- The wrapper's `run_forever()`, or `run_until_complete(coro)` when `untilComplete`,
called with no run active: `_schedule_check()`, then the inner run, which queues the
coroutine's task (`ensure_future`) for `run_until_complete`. -/
def run (l : Loop) (untilComplete : Bool) : Loop :=
  match l.scheduleCheck with
  | none => l
  | some l' =>
    let l' := { l' with ctrl := .loop }
    if untilComplete then ((l'.callSoon .user).map Prod.snd).getD l' else l'

/-- `_run_once` pops the next handle and runs it unless it is cancelled; `ntodo` are left
after it. `_check_and_reschedule` calls `checkpoint()`, which changes nothing here, and
then `_schedule_check()`. -/
def runHandle (l : Loop) (ntodo : Nat) : Loop :=
  match l.ready with
  | [] => { l with ctrl := .iteration ntodo }
  | h :: rest =>
    let l := { l with ready := rest, ctrl := .iteration ntodo }
    if h.cancelled then l
    else match h.callback with
      | .checkAndReschedule => l.scheduleCheck.getD l
      | .user => { l with ctrl := .callback ntodo }

/-- The thread's next step. A wrapper `run_*` from a callback schedules its check and the
inner loop refuses to run; `close()` while the loop runs raises. -/
def step (l : Loop) (e : Event) : Loop :=
  match l.ctrl, e with
  | .idle, .callSoon => ((l.callSoon .user).map Prod.snd).getD l
  | .idle, .stop => { l with stopping := true }
  | .idle, .close => { l with closed := true, ready := [] }
  | .idle, .runForever => l.run false
  | .idle, .runUntilComplete => l.run true
  | .loop, .callSoon => ((l.callSoon .user).map Prod.snd).getD l
  | .loop, .tick => { l with ctrl := .iteration l.ready.length }
  | .iteration 0, .tick =>
    if l.stopping then { l with stopping := false, ctrl := .runFinally }
    else { l with ctrl := .loop }
  | .iteration (n + 1), .tick => l.runHandle n
  | .callback _, .callSoon => ((l.callSoon .user).map Prod.snd).getD l
  | .callback _, .stop => { l with stopping := true }
  | .callback n, .runForever => { l.scheduleCheck.getD l with ctrl := .nestedFinally n }
  | .callback n, .runUntilComplete => { l.scheduleCheck.getD l with ctrl := .nestedFinally n }
  | .callback n, .done => { l with ctrl := .iteration n }
  | .nestedFinally n, .tick => { l.cancelCheck with ctrl := .callback n }
  | .runFinally, .tick => { l.cancelCheck with ctrl := .idle }
  | _, _ => l

/-- The step is a wrapper `run_*` called while another is active. -/
def nested (l : Loop) (e : Event) : Bool :=
  match l.ctrl, e with
  | .callback _, .runForever => true
  | .callback _, .runUntilComplete => true
  | _, _ => false

/-- The steps `es` from `l`. -/
def steps (l : Loop) : List Event → Loop
  | [] => l
  | e :: es => (l.step e).steps es

/-- The nested wrapper `run_*` calls among the steps `es` from `l`. -/
def nestedRuns (l : Loop) : List Event → Nat
  | [] => 0
  | e :: es => (if l.nested e then 1 else 0) + (l.step e).nestedRuns es

end Loop

/-- A queued `_check_and_reschedule` that is not cancelled. -/
def Handle.isLiveCheck (h : Handle) : Bool :=
  h.callback == .checkAndReschedule && !h.cancelled

/-- The live checks in `ready`. -/
def liveChecks (ready : List Handle) : Nat := ready.countP Handle.isLiveCheck

/-- The live checks in `ready` other than the one `c` names. -/
def orphansOf (c : Option Nat) (ready : List Handle) : Nat :=
  ready.countP fun h => h.isLiveCheck && c != some h.id

@[simp] theorem orphansOf_nil (c : Option Nat) : orphansOf c [] = 0 := rfl

@[simp] theorem orphansOf_append (c : Option Nat) (r s : List Handle) :
    orphansOf c (r ++ s) = orphansOf c r + orphansOf c s := List.countP_append _ _ _

@[simp] theorem orphansOf_user (c : Option Nat) (k : Nat) :
    orphansOf c [⟨k, .user, false⟩] = 0 := rfl

@[simp] theorem orphansOf_some_check (k : Nat) :
    orphansOf (some k) [⟨k, .checkAndReschedule, false⟩] = 0 := by
  simp [orphansOf]

theorem liveChecks_eq_orphansOf_none (r : List Handle) : liveChecks r = orphansOf none r :=
  List.countP_congr fun _ _ => by simp [bne]

/-- A name no handle in `r` has leaves every live check an orphan. -/
theorem orphansOf_of_forall_ne {k : Nat} {r : List Handle} (h : ∀ x ∈ r, x.id ≠ k) :
    orphansOf (some k) r = liveChecks r :=
  List.countP_congr fun x hx => by simp [Ne.symm (h x hx)]

/-- With distinct ids, at most one live check is the named one. -/
theorem liveChecks_le_orphansOf (c : Option Nat) :
    ∀ r : List Handle, (r.map Handle.id).Nodup → liveChecks r ≤ orphansOf c r + 1
  | [], _ => by simp [liveChecks]
  | x :: r, hr => by
    simp only [List.map_cons, List.nodup_cons, List.mem_map, not_exists, not_and] at hr
    have ih := liveChecks_le_orphansOf c r hr.2
    by_cases hc : c = some x.id
    · subst hc
      have h1 : liveChecks (x :: r) ≤ liveChecks r + 1 := by
        simp only [liveChecks, List.countP_cons]
        split_ifs <;> omega
      have h2 := (List.sublist_cons_self x r).countP_le
        (fun h => h.isLiveCheck && some x.id != some h.id)
      rw [← orphansOf, ← orphansOf, orphansOf_of_forall_ne fun y hy => hr.1 y hy] at h2
      omega
    · have : orphansOf c (x :: r) = orphansOf c r + if x.isLiveCheck then 1 else 0 := by
        simp [orphansOf, List.countP_cons, hc]
      simp only [liveChecks, List.countP_cons] at ih ⊢
      rw [this]
      split_ifs <;> omega

/-- Cancelling the named check and forgetting its name leaves the orphans as they were. -/
theorem orphansOf_cancelHandle (k : Nat) (r : List Handle) :
    orphansOf none (Loop.cancelHandle k r) = orphansOf (some k) r := by
  unfold orphansOf Loop.cancelHandle
  rw [List.countP_map]
  refine List.countP_congr fun x _ => ?_
  by_cases hx : x.id = k
  · simp [hx, Handle.isLiveCheck]
  · simp [hx, Handle.isLiveCheck, Ne.symm hx]


/-- A live check at the head of the queue: the live checks behind it are orphans
already, or become orphans once it has run and `_check_handle` names its successor. -/
theorem liveChecks_le_orphansOf_cons {c : Option Nat} {x : Handle} {r : List Handle}
    (hx : x.isLiveCheck) (hr : ((x :: r).map Handle.id).Nodup) :
    liveChecks r ≤ orphansOf c (x :: r) := by
  simp only [List.map_cons, List.nodup_cons, List.mem_map, not_exists, not_and] at hr
  have hsub := (List.sublist_cons_self x r).countP_le
    (fun h => h.isLiveCheck && c != some h.id)
  rw [← orphansOf, ← orphansOf] at hsub
  by_cases hc : c = some x.id
  · subst hc
    rw [← orphansOf_of_forall_ne fun y hy => hr.1 y hy]
    exact hsub
  · have := liveChecks_le_orphansOf c r hr.2
    have : orphansOf c (x :: r) = orphansOf c r + 1 := by
      simp [orphansOf, List.countP_cons, hc, hx]
    omega

namespace Loop

/-- `N` bounds the orphans, handle ids are distinct and below `nextId`, and no handle is
named between runs. -/
structure Inv (N : Nat) (l : Loop) : Prop where
  fresh : ∀ h ∈ l.ready, h.id < l.nextId
  nodup : (l.ready.map Handle.id).Nodup
  orphans : orphansOf l.checkHandle l.ready ≤ N
  idle : l.ctrl = .idle → l.checkHandle = none

theorem Inv.mono {N M : Nat} {l : Loop} (h : l.Inv N) (hNM : N ≤ M) : l.Inv M :=
  ⟨h.fresh, h.nodup, h.orphans.trans hNM, h.idle⟩

theorem Inv.setCtrl {N : Nat} {l : Loop} (h : l.Inv N) {c : Ctrl} (hc : c ≠ .idle) :
    { l with ctrl := c }.Inv N :=
  ⟨h.fresh, h.nodup, h.orphans, fun h' => absurd h' hc⟩

theorem Inv.setStopping {N : Nat} {l : Loop} (h : l.Inv N) (b : Bool) :
    { l with stopping := b }.Inv N :=
  ⟨h.fresh, h.nodup, h.orphans, h.idle⟩

theorem Inv.close {N : Nat} {l : Loop} (h : l.Inv N) :
    { l with closed := true, ready := [] }.Inv N :=
  ⟨by simp, by simp, by simp, h.idle⟩

/-- A fresh id keeps the ids distinct. -/
theorem Inv.ids_append {l : Loop} {N : Nat} (h : l.Inv N) (cb : Callback) :
    (∀ x ∈ l.ready ++ [(⟨l.nextId, cb, false⟩ : Handle)], x.id < l.nextId + 1) ∧
      ((l.ready ++ [(⟨l.nextId, cb, false⟩ : Handle)]).map Handle.id).Nodup := by
  refine ⟨fun x hx => ?_, ?_⟩
  · rcases List.mem_append.mp hx with hx | hx
    · exact Nat.lt_succ_of_lt (h.fresh x hx)
    · simp [List.mem_singleton.mp hx]
  · simpa [List.nodup_append] using ⟨h.nodup, fun x hx => Nat.ne_of_lt (h.fresh x hx)⟩

theorem Inv.callSoonUser {N : Nat} {l : Loop} (h : l.Inv N) :
    (((l.callSoon .user).map Prod.snd).getD l).Inv N := by
  unfold callSoon
  split_ifs
  · exact h
  · obtain ⟨hf, hn⟩ := h.ids_append .user
    exact ⟨hf, hn, by simpa using h.orphans, h.idle⟩

theorem scheduleCheck_eq_some {l l' : Loop} (hs : l.scheduleCheck = some l') :
    l' = { l with
      ready := l.ready ++ [(⟨l.nextId, .checkAndReschedule, false⟩ : Handle)]
      nextId := l.nextId + 1
      checkHandle := some l.nextId } := by
  unfold scheduleCheck callSoon at hs
  split_ifs at hs
  · simp at hs
  · simp at hs
    exact hs.symm

theorem closed_eq_false_of_scheduleCheck {l l' : Loop} (hs : l.scheduleCheck = some l') :
    l.closed = false := by
  unfold scheduleCheck callSoon at hs
  split_ifs at hs with h
  · simp at hs
  · simpa using h

/-- `_schedule_check()` leaves as orphans every live check queued before it. -/
theorem Inv.scheduleCheck {N M : Nat} {l l' : Loop} (h : l.Inv N)
    (hs : l.scheduleCheck = some l') (hM : liveChecks l.ready ≤ M) {c : Ctrl}
    (hc : c ≠ .idle) : { l' with ctrl := c }.Inv M := by
  obtain ⟨hf, hn⟩ := h.ids_append .checkAndReschedule
  rw [scheduleCheck_eq_some hs]
  refine ⟨hf, hn, ?_, fun h' => absurd h' hc⟩
  simpa [orphansOf_of_forall_ne fun x hx => Nat.ne_of_lt (h.fresh x hx)] using hM

/-- `_cancel_check()` forgets the name of the check it cancels. -/
theorem Inv.cancelCheck {N : Nat} {l : Loop} (h : l.Inv N) (c : Ctrl) :
    { l.cancelCheck with ctrl := c }.Inv N := by
  unfold Loop.cancelCheck
  split
  · rename_i k hk
    refine ⟨fun x hx => ?_, by simpa [cancelHandle, Function.comp_def, apply_ite] using h.nodup,
      ?_, fun _ => rfl⟩
    · obtain ⟨y, hy, rfl⟩ := List.mem_map.mp hx
      split_ifs <;> exact h.fresh y hy
    · simpa [orphansOf_cancelHandle, ← hk] using h.orphans
  · rename_i hk
    exact ⟨h.fresh, h.nodup, h.orphans, fun _ => hk⟩

theorem Inv.run {N : Nat} {l : Loop} (h : l.Inv N) (hidle : l.ctrl = .idle)
    (untilComplete : Bool) : (l.run untilComplete).Inv N := by
  unfold Loop.run
  split
  · exact h
  · rename_i l' hs
    have hM : liveChecks l.ready ≤ N := by
      rw [liveChecks_eq_orphansOf_none, ← h.idle hidle]
      exact h.orphans
    have h' : { l' with ctrl := .loop }.Inv N := h.scheduleCheck hs hM (by decide)
    cases untilComplete
    · exact h'
    · exact h'.callSoonUser

theorem Inv.runHandle {N : Nat} {l : Loop} (h : l.Inv N) (n : Nat) :
    (l.runHandle n).Inv N := by
  obtain ⟨_ | ⟨x, rest⟩, stopping, closed, checkHandle, nextId, ctrl⟩ := l
  · exact h.setCtrl (by simp)
  -- the queue without its head
  have h1 : Inv N ⟨rest, stopping, closed, checkHandle, nextId, .iteration n⟩ :=
    ⟨fun y hy => h.fresh y (List.mem_cons_of_mem _ hy), (List.nodup_cons.mp h.nodup).2,
      ((List.sublist_cons_self x rest).countP_le _).trans h.orphans, fun h' => by cases h'⟩
  simp only [Loop.runHandle]
  split_ifs with hx
  · exact h1
  cases hcb : x.callback with
  | user => exact h1.setCtrl (by simp)
  | checkAndReschedule =>
    cases hs : Loop.scheduleCheck
        ⟨rest, stopping, closed, checkHandle, nextId, .iteration n⟩ with
    | none => exact h1
    | some l' =>
      have hM : liveChecks rest ≤ N := (liveChecks_le_orphansOf_cons
        (by simp [Handle.isLiveCheck, hcb, hx]) h.nodup).trans h.orphans
      obtain rfl := scheduleCheck_eq_some hs
      exact h1.scheduleCheck hs hM (by simp)

/-- A nested `run_*`: its check orphans the one `_check_handle` named. -/
theorem Inv.nestedRun {N : Nat} {l : Loop} (h : l.Inv N) (n : Nat) :
    { l.scheduleCheck.getD l with ctrl := .nestedFinally n }.Inv (N + 1) := by
  cases hs : l.scheduleCheck with
  | none => exact (h.setCtrl (by simp)).mono (Nat.le_succ N)
  | some l' =>
    exact h.scheduleCheck hs ((liveChecks_le_orphansOf _ _ h.nodup).trans
      (Nat.add_le_add_right h.orphans 1)) (by simp)

/-- Every step keeps the invariant, a nested `run_*` adding one orphan at most. -/
theorem Inv.step {N : Nat} {l : Loop} (h : l.Inv N) (e : Event) :
    (l.step e).Inv (N + if l.nested e then 1 else 0) := by
  obtain ⟨ready, stopping, closed, checkHandle, nextId, ctrl⟩ := l
  rcases ctrl with _ | _ | (_ | n) | n | n | _ <;> cases e
  -- each step is one operation of the wrapper or the inner loop, or changes nothing
  all_goals first
    | exact h
    | exact h.callSoonUser
    | exact h.run rfl _
    | exact h.runHandle _
    | exact h.nestedRun _
    | exact h.cancelCheck _
    | exact h.setStopping true
    | exact h.close
    | exact h.setCtrl (by simp)
    | cases stopping
      · exact h.setCtrl (by simp)
      · exact (h.setStopping false).setCtrl (by simp)

theorem Inv.steps {N : Nat} {l : Loop} (h : l.Inv N) (es : List Event) :
    (l.steps es).Inv (N + l.nestedRuns es) := by
  induction es generalizing N l with
  | nil => exact h
  | cons e es ih =>
    simpa only [steps, nestedRuns, Nat.add_assoc] using ih (h.step e)

theorem inv_new : Loop.new.Inv 0 :=
  ⟨by simp [new], by simp [new], by simp [new], fun _ => rfl⟩

/-- What the invariant says of the queue: at most `N` live checks besides the one the
wrapper holds, and none of its own between runs. -/
theorem Inv.liveChecks_le {N : Nat} {l : Loop} (h : l.Inv N) :
    liveChecks l.ready ≤ N + 1 ∧ (l.ctrl = .idle → liveChecks l.ready ≤ N) :=
  ⟨(liveChecks_le_orphansOf _ _ h.nodup).trans (Nat.add_le_add_right h.orphans 1),
    fun hidle => by rw [liveChecks_eq_orphansOf_none, ← h.idle hidle]; exact h.orphans⟩

/-- The queue never holds more live checks than the nested `run_*` calls so far, plus
one while a wrapper run is active; between runs the nested calls alone bound them. -/
theorem liveChecks_steps_le (es : List Event) :
    let l := Loop.new.steps es
    liveChecks l.ready ≤ Loop.new.nestedRuns es + 1 ∧
      (l.ctrl = .idle → liveChecks l.ready ≤ Loop.new.nestedRuns es) := by
  simpa only [Nat.zero_add] using (inv_new.steps es).liveChecks_le

/-- With no wrapper `run_*` called from inside a running loop, the inner queue holds at
most one live `_check_and_reschedule`, and none between runs. -/
theorem check_chain_single (es : List Event) (hnest : Loop.new.nestedRuns es = 0) :
    let l := Loop.new.steps es
    liveChecks l.ready ≤ 1 ∧ (l.ctrl = .idle → liveChecks l.ready = 0) := by
  have h := (inv_new.steps es).liveChecks_le
  rw [Nat.zero_add, hnest] at h
  exact ⟨h.1, fun hidle => Nat.le_zero.mp (h.2 hidle)⟩

theorem check_chain_single_run_forever :
    Loop.new.nestedRuns [.runForever, .tick, .tick, .callSoon, .tick, .tick, .stop, .tick,
        .tick] = 0 ∧
      let l := Loop.new.steps [.runForever, .tick, .tick, .callSoon, .tick, .tick, .stop,
        .tick, .tick]
      liveChecks l.ready ≤ 1 ∧ (l.ctrl = .idle → liveChecks l.ready = 0) :=
  ⟨by decide, check_chain_single _ (by decide)⟩

/-! ## The chain while a run is active -/

/-- While a run is active with no `run_*` nested in it: the loop is open, and
`_check_handle` names a live check in the queue. -/
structure Alive (l : Loop) : Prop where
  notNested : ∀ n, l.ctrl ≠ .nestedFinally n
  named : l.ctrl ≠ .idle → l.closed = false ∧
    ∃ k, l.checkHandle = some k ∧ (⟨k, .checkAndReschedule, false⟩ : Handle) ∈ l.ready

theorem Alive.setCtrl {l : Loop} (h : l.Alive) (hl : l.ctrl ≠ .idle) {c : Ctrl}
    (hc : ∀ n, c ≠ .nestedFinally n) : { l with ctrl := c }.Alive :=
  ⟨hc, fun _ => h.named hl⟩

theorem Alive.setStopping {l : Loop} (h : l.Alive) (b : Bool) : { l with stopping := b }.Alive :=
  ⟨h.notNested, h.named⟩

theorem Alive.idle {l : Loop} (hl : l.ctrl = .idle) : l.Alive :=
  ⟨fun n h => (by rw [hl] at h; cases h), fun h => absurd hl h⟩

theorem Alive.callSoonUser {l : Loop} (h : l.Alive) :
    (((l.callSoon .user).map Prod.snd).getD l).Alive := by
  unfold callSoon
  split_ifs
  · exact h
  · refine ⟨h.notNested, fun hl => ?_⟩
    obtain ⟨hc, k, hk, hm⟩ := h.named hl
    exact ⟨hc, k, hk, List.mem_append_left _ hm⟩

/-- `_schedule_check()` on an open loop names the check it queues. -/
theorem Alive.scheduleCheck {l l' : Loop} (hs : l.scheduleCheck = some l') {c : Ctrl}
    (hc : ∀ n, c ≠ .nestedFinally n) : { l' with ctrl := c }.Alive := by
  have hcl := closed_eq_false_of_scheduleCheck hs
  rw [scheduleCheck_eq_some hs]
  exact ⟨hc, fun _ => ⟨hcl, l.nextId, rfl, by simp⟩⟩

theorem Alive.run {l : Loop} (hidle : l.ctrl = .idle) (untilComplete : Bool) :
    (l.run untilComplete).Alive := by
  unfold Loop.run
  split
  · exact .idle hidle
  · rename_i l' hs
    have h' : { l' with ctrl := .loop }.Alive := Alive.scheduleCheck hs (by simp)
    cases untilComplete
    · exact h'
    · exact h'.callSoonUser

theorem Alive.runHandle {l : Loop} (h : l.Alive) {n : Nat} (hl : l.ctrl = .iteration (n + 1)) :
    (l.runHandle n).Alive := by
  have hl' : l.ctrl ≠ .idle := by simp [hl]
  obtain ⟨_ | ⟨x, rest⟩, stopping, closed, checkHandle, nextId, ctrl⟩ := l
  all_goals obtain ⟨hc, k, hk, hm⟩ := h.named hl'
  · cases hm
  -- the named check is the head, or still queued behind it
  have hrest : x ≠ ⟨k, .checkAndReschedule, false⟩ →
      Alive ⟨rest, stopping, closed, checkHandle, nextId, .iteration n⟩ := fun hx =>
    ⟨by simp, fun _ => ⟨hc, k, hk, (List.mem_cons.mp hm).resolve_left (Ne.symm hx)⟩⟩
  simp only [Loop.runHandle]
  split_ifs with hx
  · exact hrest (by rintro rfl; cases hx)
  cases hcb : x.callback with
  | user => exact (hrest (by rintro rfl; cases hcb)).setCtrl (by simp) (by simp)
  | checkAndReschedule =>
    cases hs : Loop.scheduleCheck
        ⟨rest, stopping, closed, checkHandle, nextId, .iteration n⟩ with
    | none => simp [Loop.scheduleCheck, Loop.callSoon, show closed = false from hc] at hs
    | some l' =>
      obtain rfl := scheduleCheck_eq_some hs
      exact Alive.scheduleCheck hs (by simp)

/-- Every step but a nested `run_*` keeps the chain alive. -/
theorem Alive.step {l : Loop} (h : l.Alive) (e : Event) (hn : l.nested e = false) :
    (l.step e).Alive := by
  obtain ⟨ready, stopping, closed, checkHandle, nextId, ctrl⟩ := l
  rcases ctrl with _ | _ | (_ | n) | n | n | _ <;> cases e
  -- as for `Inv.step`; a nested `run_*` is excluded, and so is the state after one
  all_goals first
    | exact h
    | exact h.callSoonUser
    | exact Alive.run rfl _
    | exact h.runHandle rfl
    | exact Alive.idle rfl
    | exact h.setStopping true
    | exact h.setCtrl (by simp) (by simp)
    | exact absurd rfl (h.notNested n)
    | exact (Bool.false_ne_true hn.symm).elim
    | cases stopping
      · exact h.setCtrl (by simp) (by simp)
      · exact (h.setStopping false).setCtrl (by simp) (by simp)

theorem Alive.steps {l : Loop} (h : l.Alive) (es : List Event) (hn : l.nestedRuns es = 0) :
    (l.steps es).Alive := by
  induction es generalizing l with
  | nil => exact h
  | cons e es ih =>
    simp only [nestedRuns] at hn
    cases he : l.nested e
    · exact ih (h.step e he) (by simpa [he] using hn)
    · simp [he] at hn

/-- With no `run_*` nested in a running loop, the check chain never breaks: while a run is
active, the queue holds exactly one live `_check_and_reschedule`, the one `_check_handle`
names, so the next `_run_once` reaches it. -/
theorem check_chain_alive (es : List Event) (hnest : Loop.new.nestedRuns es = 0)
    (hactive : (Loop.new.steps es).ctrl ≠ .idle) :
    liveChecks (Loop.new.steps es).ready = 1 ∧
      ∃ k, (Loop.new.steps es).checkHandle = some k ∧
        (⟨k, .checkAndReschedule, false⟩ : Handle) ∈ (Loop.new.steps es).ready := by
  obtain ⟨-, k, hk, hm⟩ := ((Alive.idle rfl).steps es hnest).named hactive
  have hle := (inv_new.steps es).liveChecks_le.1
  rw [Nat.zero_add, hnest] at hle
  have hpos : 0 < liveChecks (Loop.new.steps es).ready := List.countP_pos_iff.2 ⟨_, hm, rfl⟩
  exact ⟨by omega, k, hk, hm⟩

theorem check_chain_alive_run_forever :
    Loop.new.nestedRuns [.runForever, .tick, .tick] = 0 ∧
      (Loop.new.steps [.runForever, .tick, .tick]).ctrl ≠ .idle ∧
      liveChecks (Loop.new.steps [.runForever, .tick, .tick]).ready = 1 ∧
      ∃ k, (Loop.new.steps [.runForever, .tick, .tick]).checkHandle = some k ∧
        (⟨k, .checkAndReschedule, false⟩ : Handle) ∈
          (Loop.new.steps [.runForever, .tick, .tick]).ready :=
  ⟨by decide, by decide, check_chain_alive _ (by decide) (by decide)⟩

/-! ## One check per iteration -/

/-- The step pops a live `_check_and_reschedule` and runs it, calling `checkpoint()`. -/
def runsCheck (l : Loop) (e : Event) : Bool :=
  match l.ctrl, e with
  | .iteration (_ + 1), .tick =>
    match l.ready with
    | h :: _ => h.isLiveCheck
    | [] => false
  | _, _ => false

/-- The step begins an iteration of `_run_once`. -/
def startsIteration (l : Loop) (e : Event) : Bool :=
  match l.ctrl, e with
  | .loop, .tick => true
  | _, _ => false

/-- The steps among `es` from `l` that `P` picks. -/
def countSteps (P : Loop → Event → Bool) (l : Loop) : List Event → Nat
  | [] => 0
  | e :: es => (if P l e then 1 else 0) + countSteps P (l.step e) es

/-- The live checks among the handles the current iteration has still to pop; none
between iterations. -/
def checksDue (l : Loop) : Nat :=
  match l.ctrl.iterating with
  | some n => liveChecks (l.ready.take n)
  | none => 0

theorem checksDue_le_liveChecks (l : Loop) : checksDue l ≤ liveChecks l.ready := by
  unfold checksDue
  split
  · exact (List.take_sublist _ _).countP_le _
  · exact Nat.zero_le _

/-- While a run is active with none nested, exactly one live check is queued. -/
theorem Alive.liveChecks_eq_one {l : Loop} (h : l.Alive) (hi : l.Inv 0) (hl : l.ctrl ≠ .idle) :
    liveChecks l.ready = 1 := by
  obtain ⟨-, k, -, hm⟩ := h.named hl
  have hle := hi.liveChecks_le.1
  have hpos : 0 < liveChecks l.ready := List.countP_pos_iff.2 ⟨_, hm, rfl⟩
  omega

/-- The handles the current iteration has still to pop are queued, and the `C` checks run
so far and those still due make one per iteration begun, `S` of them. -/
structure Paced (C S : Nat) (l : Loop) : Prop where
  queued : ∀ n, l.ctrl.iterating = some n → n ≤ l.ready.length
  count : C + checksDue l = S

theorem Paced.outside {C S : Nat} {l l' : Loop} (h : l.Paced C S) (hl : checksDue l = 0)
    (hl' : l'.ctrl.iterating = none) : l'.Paced C S :=
  ⟨fun n hn => (by rw [hl'] at hn; cases hn), by
    rw [show checksDue l' = 0 by simp [checksDue, hl'], ← h.count, hl]⟩

theorem Paced.setCtrl {C S : Nat} {l : Loop} (h : l.Paced C S) {c : Ctrl}
    (hc : c.iterating = l.ctrl.iterating) : { l with ctrl := c }.Paced C S :=
  ⟨fun n hn => h.queued n (hc ▸ hn), by simpa [checksDue, hc] using h.count⟩

theorem Paced.setStopping {C S : Nat} {l : Loop} (h : l.Paced C S) (b : Bool) :
    { l with stopping := b }.Paced C S :=
  ⟨h.queued, h.count⟩

/-- Handles queued during an iteration run in the next one. -/
theorem Paced.append {C S : Nat} {l : Loop} (h : l.Paced C S) (r : List Handle) (m : Nat)
    (c : Option Nat) : { l with ready := l.ready ++ r, nextId := m, checkHandle := c }.Paced C S := by
  refine ⟨fun n hn => ?_, ?_⟩
  · simpa using Nat.le_add_right_of_le (h.queued n hn)
  · rw [← h.count]
    unfold checksDue
    cases hc : l.ctrl.iterating with
    | none => rfl
    | some n => simp only [List.take_append_of_le_length (h.queued n hc)]

theorem Paced.callSoonUser {C S : Nat} {l : Loop} (h : l.Paced C S) :
    (((l.callSoon .user).map Prod.snd).getD l).Paced C S := by
  unfold callSoon
  split_ifs
  · exact h
  · exact h.append _ _ _

theorem Paced.run {C S : Nat} {l : Loop} (h : l.Paced C S) (hidle : l.ctrl = .idle)
    (untilComplete : Bool) : (l.run untilComplete).Paced C S := by
  unfold Loop.run
  split
  · exact h
  · rename_i l' hs
    have h' : { l' with ctrl := .loop }.Paced C S :=
      h.outside (by simp [checksDue, hidle, Ctrl.iterating]) rfl
    cases untilComplete
    · exact h'
    · exact h'.callSoonUser

/-- `_run_once` begins: every handle queued is one it pops, among them the one live check. -/
theorem Paced.startIteration {C S : Nat} {l : Loop} (h : l.Paced C S) (hl : l.ctrl = .loop)
    (hone : liveChecks l.ready = 1) : { l with ctrl := .iteration l.ready.length }.Paced C (S + 1) := by
  refine ⟨fun n hn => by cases hn; exact Nat.le_refl _, ?_⟩
  have := h.count
  simp only [checksDue, hl, Ctrl.iterating, List.take_length, hone] at this ⊢
  omega

/-- Popping a handle: a live check among those due runs, and its successor is queued
behind the handles of this iteration. -/
theorem Paced.runHandle {C S : Nat} {l : Loop} (h : l.Paced C S) {n : Nat}
    (hl : l.ctrl = .iteration (n + 1)) :
    (l.runHandle n).Paced (C + if l.runsCheck .tick then 1 else 0) S := by
  obtain ⟨_ | ⟨x, rest⟩, stopping, closed, checkHandle, nextId, ctrl⟩ := l
  all_goals obtain rfl := hl
  · exact absurd (h.queued (n + 1) rfl) (Nat.not_succ_le_zero n)
  have hr : runsCheck ⟨x :: rest, stopping, closed, checkHandle, nextId, .iteration (n + 1)⟩
      .tick = x.isLiveCheck := rfl
  -- the queue without its head, the head counted as run if it is a live check
  have h1 : Paced (C + if x.isLiveCheck then 1 else 0) S
      ⟨rest, stopping, closed, checkHandle, nextId, .iteration n⟩ := by
    refine ⟨fun m hm => ?_, ?_⟩
    · cases hm
      simpa using h.queued _ rfl
    · have := h.count
      simp only [checksDue, Ctrl.iterating, List.take_succ_cons, liveChecks,
        List.countP_cons] at this ⊢
      omega
  rw [hr]
  simp only [Loop.runHandle]
  by_cases hx : x.cancelled = true
  · rw [if_pos hx]
    exact h1
  rw [if_neg hx]
  cases hcb : x.callback with
  | user => exact h1.setCtrl rfl
  | checkAndReschedule =>
    cases hs : Loop.scheduleCheck ⟨rest, stopping, closed, checkHandle, nextId, .iteration n⟩ with
    | none => exact h1
    | some l' =>
      obtain rfl := scheduleCheck_eq_some hs
      exact h1.append _ _ _

/-- Every step but a nested `run_*` keeps the count: a check runs only as one due, and
each iteration begun brings exactly one due. -/
theorem Paced.step {C S : Nat} {l : Loop} (h : l.Paced C S) (ha : l.Alive) (hi : l.Inv 0)
    (e : Event) (hn : l.nested e = false) :
    (l.step e).Paced (C + if l.runsCheck e then 1 else 0)
      (S + if l.startsIteration e then 1 else 0) := by
  obtain ⟨ready, stopping, closed, checkHandle, nextId, ctrl⟩ := l
  rcases ctrl with _ | _ | (_ | n) | n | n | _ <;> cases e
  -- as for `Alive.step`; the iteration-begin and the pop are the two steps that count
  all_goals first
    | exact h
    | exact h.callSoonUser
    | exact h.run rfl _
    | exact h.runHandle rfl
    | exact h.startIteration rfl (ha.liveChecks_eq_one hi Ctrl.noConfusion)
    | exact h.setStopping true
    | exact h.setCtrl rfl
    | exact h.outside rfl rfl
    | exact absurd rfl (ha.notNested n)
    | exact (Bool.false_ne_true hn.symm).elim
    | cases stopping <;> exact h.outside rfl rfl

theorem Paced.steps {C S : Nat} {l : Loop} (h : l.Paced C S) (ha : l.Alive) (hi : l.Inv 0)
    (es : List Event) (hn : l.nestedRuns es = 0) :
    (l.steps es).Paced (C + l.countSteps runsCheck es) (S + l.countSteps startsIteration es) := by
  induction es generalizing C S l with
  | nil => exact h
  | cons e es ih =>
    simp only [nestedRuns] at hn
    cases he : l.nested e
    · have hi' : (l.step e).Inv 0 := by simpa [he] using hi.step e
      simpa only [steps, countSteps, Nat.add_assoc] using
        ih (h.step ha hi e he) (ha.step e he) hi' (by simpa [he] using hn)
    · simp [he] at hn

/-- With no `run_*` nested in a running loop, the wrapper calls `checkpoint()` once in
every iteration of the inner loop: at every point of every run, the checks run so far plus
the live checks due among the handles the current `_run_once` has still to pop (at most
one, none between iterations) are the iterations begun. -/
theorem check_once_per_iteration (es : List Event) (hnest : Loop.new.nestedRuns es = 0) :
    Loop.new.countSteps runsCheck es + checksDue (Loop.new.steps es) =
        Loop.new.countSteps startsIteration es ∧
      checksDue (Loop.new.steps es) ≤ 1 := by
  have h := (show Loop.new.Paced 0 0 from ⟨fun _ hn => (by cases hn), rfl⟩).steps
    (Alive.idle rfl) inv_new es hnest
  have hle := (inv_new.steps es).liveChecks_le.1
  rw [Nat.zero_add, hnest] at hle
  exact ⟨by simpa using h.count, (checksDue_le_liveChecks _).trans hle⟩

theorem check_once_per_iteration_run_forever :
    Loop.new.nestedRuns [.runForever, .tick, .tick, .callSoon, .tick, .tick, .tick, .tick] = 0 ∧
      Loop.new.countSteps runsCheck [.runForever, .tick, .tick, .callSoon, .tick, .tick, .tick,
          .tick] +
          checksDue (Loop.new.steps [.runForever, .tick, .tick, .callSoon, .tick, .tick, .tick,
            .tick]) =
        Loop.new.countSteps startsIteration [.runForever, .tick, .tick, .callSoon, .tick, .tick,
          .tick, .tick] ∧
      checksDue (Loop.new.steps [.runForever, .tick, .tick, .callSoon, .tick, .tick, .tick,
        .tick]) ≤ 1 :=
  ⟨by decide, check_once_per_iteration _ (by decide)⟩

/-- `loop.run_until_complete(main())` where `main` calls `loop.run_until_complete(...)`,
catches the `RuntimeError`, and stops the running loop; the task's done callback is queued
as `main` returns. -/
def nestedRunEvents : List Event :=
  [.runUntilComplete, .tick, .tick, .tick, .runUntilComplete, .tick, .stop, .callSoon, .done,
    .tick, .tick]

/-- After that run the wrapper is idle with a live check still queued, and the next
`run_forever()` has two. -/
theorem nested_run_leaks_check_chain :
    (Loop.new.steps nestedRunEvents).ctrl = .idle ∧
      liveChecks (Loop.new.steps nestedRunEvents).ready = 1 ∧
      liveChecks ((Loop.new.steps nestedRunEvents).step .runForever).ready = 2 := by
  decide

end Loop

end Morpheus
