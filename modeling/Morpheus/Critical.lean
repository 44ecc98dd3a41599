import Morpheus.Runtime

/-!
# Critical sections across interleaved tasks

`morpheus_critical`, in `morpheus/asyncio.py` and again in `morpheus_asyncio.py`, is an
async context manager that calls `enter_critical_section()` before its `yield` and
`exit_critical_section()` in the `finally` around it. Neither half awaits, so each is one
step of the task that opens the scope.

A task runs statements (`Stmt`): awaits, the two suspending helpers, `raise`, `return`,
nested `morpheus_critical` scopes and `try`/`except`. Its state is a control stack of
`Frame`s and a `Mode`: running normally, or unwinding an exception or a `return`, which
runs every `finally` it passes. The scheduler (`Sys.Event`) steps any task at any point,
resumes an await with `CancelledError`, and the kernel publishes hints in between. A body
without loops stands for every finite prefix of a run of one with loops.

`Task.runFor_critical` : a scope brackets its body, whatever the body does and on whatever
worker each step finds; its calls are the enter call, the body's own calls, then the exit
call (`Task.runFor_append`: a task never looks below the frames it pushed). `Sys.run_task`
carries this into every interleaving, which reaches a task only through the worker.
`Sys.Inv` is the accounting of the counter: its start value plus the scopes open in all
tasks, no clamped exit, and for each task as many entries as exits plus its own open
scopes. `Sys.Inv.run` proves it of every run, and `critical_counter_balanced` reads all of
it off for tasks started fresh. `checkpoint_in_scope` is the gate at the Python level:
inside any open scope, `morpheus_checkpoint()` neither acknowledges nor suspends.
`checkpoint_with_pending_hint` is the deferral: a hint stays pending through any run in
which no task acknowledges (`Sys.Follows`), and a task's `morpheus_checkpoint()` takes it
exactly when no task, this one or another, is inside the body of a scope.
-/

namespace Morpheus

/-- The statements of a task, as the critical-section discipline sees them. -/
inductive Stmt where
  /-- An `await` that suspends: other tasks may run, or the task is resumed with
  `CancelledError`. -/
  | await
  /-- `await morpheus_checkpoint()`. -/
  | checkpoint
  /-- `await force_yield()`. -/
  | forceYield
  /-- `raise`. -/
  | raise
  /-- `return`. -/
  | ret
  /-- `async with morpheus_critical(): body`. -/
  | critical (body : List Stmt)
  /-- `try: body` followed by `except BaseException: handler`. -/
  | tryExcept (body handler : List Stmt)
  deriving Repr

/-- A frame of a task's control stack. -/
inductive Frame where
  /-- The statements left in a block. -/
  | block (rest : List Stmt)
  /-- An open `morpheus_critical` scope: leaving it runs its `finally`. -/
  | scope
  /-- The `except` clause of an active `try`. -/
  | handler (handler : List Stmt)
  deriving Repr

/-- How control leaves the top frame. -/
inductive Mode where
  | normal
  | raising
  | returning
  deriving Repr, DecidableEq

/-- A task: its control stack and how control is moving through it. -/
structure Task where
  mode : Mode
  frames : List Frame
  deriving Repr

/-- A task about to run `body`. -/
def Task.start (body : List Stmt) : Task := ⟨.normal, [.block body]⟩

/-- The task has returned, raised or been cancelled out of its body. -/
def Task.finished (t : Task) : Bool := t.frames.isEmpty

def Frame.isScope : Frame → Bool
  | .scope => true
  | _ => false

/-- The `morpheus_critical` scopes a task has open. -/
def Task.scopes (t : Task) : Nat := t.frames.countP Frame.isScope

/-- The native call one step makes. -/
inductive Effect where
  | none
  | enter
  | exit
  | acknowledge
  deriving Repr, DecidableEq

namespace Effect

def apply : Effect → Worker → Worker
  | .none, w => w
  | .enter, w => w.enterCriticalSection
  | .exit, w => w.exitCriticalSection
  | .acknowledge, w => w.acknowledgeYield.2

/-- Entries made by the call, 1 or 0. -/
def enters (e : Effect) : Nat := if e = .enter then 1 else 0

/-- Exits made by the call, 1 or 0. -/
def exits (e : Effect) : Nat := if e = .exit then 1 else 0

/-- A call moves the counter by its entries minus its exits, unless it is an exit at zero. -/
theorem apply_isInCriticalSection (e : Effect) {w : Worker}
    (h : e.exits ≤ w.isInCriticalSection) :
    (e.apply w).isInCriticalSection + e.exits = w.isInCriticalSection + e.enters ∧
      (e.apply w).underflows = w.underflows := by
  cases e
  case exit => exact Worker.exitCriticalSection_of_pos h
  all_goals simp [apply, enters, exits]

@[simp] theorem apply_preemptSeq (e : Effect) (w : Worker) :
    (e.apply w).preemptSeq = w.preemptSeq := by
  cases e <;> simp [apply, Worker.enterCriticalSection, Worker.acknowledgeYield]

/-- Only an acknowledgement moves `last_ack_seq`. -/
theorem apply_lastAckSeq {e : Effect} (h : e ≠ .acknowledge) (w : Worker) :
    (e.apply w).lastAckSeq = w.lastAckSeq := by
  cases e <;> simp_all [apply, Worker.enterCriticalSection]

end Effect

/-- `s` run with `rest` after it in its block and `k` below; with `cancel`, an `await`
resumes by raising `CancelledError`. -/
def Stmt.exec (w : Worker) (cancel : Bool) (rest : List Stmt) (k : List Frame) :
    Stmt → Effect × Task
  | .await =>
    if cancel then (.none, ⟨.raising, k⟩) else (.none, ⟨.normal, .block rest :: k⟩)
  | .checkpoint =>
    if w.checkpoint then (.acknowledge, ⟨.normal, .block (.await :: rest) :: k⟩)
    else (.none, ⟨.normal, .block rest :: k⟩)
  | .forceYield => (.acknowledge, ⟨.normal, .block (.await :: rest) :: k⟩)
  | .raise => (.none, ⟨.raising, k⟩)
  | .ret => (.none, ⟨.returning, k⟩)
  | .critical body => (.enter, ⟨.normal, .block body :: .scope :: .block rest :: k⟩)
  | .tryExcept body handler =>
    (.none, ⟨.normal, .block body :: .handler handler :: .block rest :: k⟩)

/-- The step at top frame `f` in mode `m`, with `k` below: the next statement of a block
when running normally, and otherwise leaving `f`. An exception stops at a `handler`; a
scope is left through `morpheus_critical`'s `finally` whatever the mode. -/
def Frame.next (w : Worker) (cancel : Bool) (m : Mode) (k : List Frame) :
    Frame → Effect × Task
  | .block (s :: rest) => if m = .normal then s.exec w cancel rest k else (.none, ⟨m, k⟩)
  | .block [] => (.none, ⟨m, k⟩)
  | .scope => (.exit, ⟨m, k⟩)
  | .handler except =>
    if m = .raising then (.none, ⟨.normal, .block except :: k⟩) else (.none, ⟨m, k⟩)

/-- One step of a task. A finished task stays as it is. -/
def Task.step (w : Worker) (cancel : Bool) : Task → Effect × Task
  | ⟨m, []⟩ => (.none, ⟨m, []⟩)
  | ⟨m, f :: k⟩ => f.next w cancel m k

/-- The calls a task makes over the steps `ss` and the task after them; each step is taken
on the worker the thread has then, whatever the other tasks and the kernel did before it,
and says whether an `await` resumes with `CancelledError`. -/
def Task.runFor : List (Worker × Bool) → Task → List Effect × Task
  | [], t => ([], t)
  | (v, c) :: ss, t =>
    let r := t.step v c
    let r' := Task.runFor ss r.2
    (r.1 :: r'.1, r'.2)

theorem Stmt.scopes_exec (w : Worker) (cancel : Bool) (rest : List Stmt) (k : List Frame)
    (s : Stmt) : (s.exec w cancel rest k).2.scopes + (s.exec w cancel rest k).1.exits =
      k.countP Frame.isScope + (s.exec w cancel rest k).1.enters := by
  cases s <;> simp only [exec] <;> (try split_ifs) <;>
    simp [Task.scopes, Frame.isScope, Effect.enters, Effect.exits, Nat.add_comm]

theorem Frame.scopes_next (w : Worker) (cancel : Bool) (m : Mode) (k : List Frame)
    (f : Frame) : (f.next w cancel m k).2.scopes + (f.next w cancel m k).1.exits =
      k.countP Frame.isScope + (if f.isScope then 1 else 0) + (f.next w cancel m k).1.enters := by
  rcases f with (_ | ⟨s, rest⟩) | _ | except
  · simp [next, isScope, Task.scopes, Effect.enters, Effect.exits]
  · by_cases hm : m = .normal
    · simpa [next, hm, isScope] using s.scopes_exec w cancel rest k
    · simp [next, hm, isScope, Task.scopes, Effect.enters, Effect.exits]
  · simp [next, isScope, Task.scopes, Effect.enters, Effect.exits]
  · by_cases hm : m = .raising <;>
      simp [next, hm, isScope, Task.scopes, Effect.enters, Effect.exits]

/-- A step opens a scope exactly when it enters, and closes one exactly when it exits. -/
theorem Task.scopes_step (w : Worker) (cancel : Bool) (t : Task) :
    (t.step w cancel).2.scopes + (t.step w cancel).1.exits =
      t.scopes + (t.step w cancel).1.enters := by
  rcases t with ⟨m, _ | ⟨f, k⟩⟩
  · simp [Task.step, Effect.enters, Effect.exits]
  · simpa [Task.step, Task.scopes, List.countP_cons, Nat.add_right_comm _ (ite _ _ _)] using
      f.scopes_next w cancel m k

/-- The task's `morpheus_checkpoint()` step is `Worker.morpheusCheckpoint`: its call leaves
the worker as that does, and the task suspends exactly when it returns `True`. -/
theorem Stmt.exec_checkpoint (w : Worker) (cancel : Bool) (rest : List Stmt) (k : List Frame) :
    (Stmt.checkpoint.exec w cancel rest k).1.apply w = w.morpheusCheckpoint.2 ∧
      (Stmt.checkpoint.exec w cancel rest k).2 =
        ⟨.normal, .block (if w.morpheusCheckpoint.1 then .await :: rest else rest) :: k⟩ := by
  by_cases h : w.checkpoint <;> simp [exec, Worker.morpheusCheckpoint, h, Effect.apply]

/-! ## A scope brackets its body -/

/-- A statement's step never looks at the frames below its block. -/
theorem Stmt.exec_append (w : Worker) (cancel : Bool) (rest : List Stmt) (k k' : List Frame)
    (s : Stmt) : s.exec w cancel rest (k ++ k') = ((s.exec w cancel rest k).1,
      ⟨(s.exec w cancel rest k).2.mode, (s.exec w cancel rest k).2.frames ++ k'⟩) := by
  cases s <;> simp only [exec] <;> (try split_ifs) <;> rfl

theorem Frame.next_append (w : Worker) (cancel : Bool) (m : Mode) (k k' : List Frame)
    (f : Frame) : f.next w cancel m (k ++ k') = ((f.next w cancel m k).1,
      ⟨(f.next w cancel m k).2.mode, (f.next w cancel m k).2.frames ++ k'⟩) := by
  rcases f with (_ | ⟨s, rest⟩) | _ | except
  · rfl
  · by_cases hm : m = .normal <;> simp [next, hm, Stmt.exec_append]
  · rfl
  · by_cases hm : m = .raising <;> simp [next, hm]

/-- A task with frames left steps as it would with nothing below them: the frames under
the ones it started with ride through untouched. -/
theorem Task.step_append (w : Worker) (cancel : Bool) {t : Task} (ht : t.finished = false)
    (k : List Frame) : Task.step w cancel ⟨t.mode, t.frames ++ k⟩ = ((t.step w cancel).1,
      ⟨(t.step w cancel).2.mode, (t.step w cancel).2.frames ++ k⟩) := by
  rcases t with ⟨m, _ | ⟨f, fs⟩⟩
  · cases ht
  · exact f.next_append w cancel m fs k

theorem Task.runFor_append_steps (ss ss' : List (Worker × Bool)) (t : Task) :
    Task.runFor (ss ++ ss') t = ((Task.runFor ss t).1 ++ (Task.runFor ss' (Task.runFor ss t).2).1,
      (Task.runFor ss' (Task.runFor ss t).2).2) := by
  induction ss generalizing t with
  | nil => rfl
  | cons x ss ih => simp only [List.cons_append, runFor, List.append_eq, ih]

/-- Frames below a task that keeps frames of its own through every step of `ss` are never
touched, and the calls are the task's own. -/
theorem Task.runFor_append (ss : List (Worker × Bool)) (t : Task) (k : List Frame)
    (hlive : ∀ j < ss.length, (Task.runFor (ss.take j) t).2.finished = false) :
    Task.runFor ss ⟨t.mode, t.frames ++ k⟩ =
      ((Task.runFor ss t).1, ⟨(Task.runFor ss t).2.mode, (Task.runFor ss t).2.frames ++ k⟩) := by
  induction ss generalizing t with
  | nil => rfl
  | cons x ss ih =>
    obtain ⟨v, c⟩ := x
    have ih' := ih (t.step v c).2 fun j hj => by simpa [runFor] using hlive (j + 1) (by simp [hj])
    simp only [runFor, Task.step_append v c (by simpa [runFor] using hlive 0 (by simp)), ih']

/-- `async with morpheus_critical(): body`: whatever `body` does (awaits, checkpoints,
nested scopes, a `raise`, a `return`, or `CancelledError` at an await), if it leaves the
block after the steps `ss`, the statement makes the enter call, then exactly the calls
`body` makes on its own, then the exit call, and control goes on after the `async with` in
the mode `body` left it. -/
theorem Task.runFor_critical (body rest : List Stmt) (k : List Frame)
    (ss : List (Worker × Bool)) (v v' : Worker) (c c' : Bool)
    (hlive : ∀ j < ss.length, (Task.runFor (ss.take j) (Task.start body)).2.finished = false)
    (hdone : (Task.runFor ss (Task.start body)).2.finished) :
    Task.runFor ((v, c) :: ss ++ [(v', c')]) ⟨.normal, .block (.critical body :: rest) :: k⟩ =
      (.enter :: (Task.runFor ss (Task.start body)).1 ++ [.exit],
        ⟨(Task.runFor ss (Task.start body)).2.mode, .block rest :: k⟩) := by
  have hbody := Task.runFor_append ss (Task.start body) (.scope :: .block rest :: k) hlive
  generalize Task.runFor ss (Task.start body) = r at hbody hdone
  obtain ⟨es, m, _ | ⟨f, fs⟩⟩ := r
  · have henter : Task.step v c ⟨.normal, .block (.critical body :: rest) :: k⟩ =
        (.enter, ⟨.normal, .block body :: .scope :: .block rest :: k⟩) := rfl
    simp only [Task.start, List.cons_append, List.nil_append] at hbody
    simp only [List.cons_append, runFor, henter, List.append_eq, Task.runFor_append_steps, hbody]
    rfl
  · cases hdone

/-! ## Tasks on one thread -/

/-- What can happen next on the thread. -/
inductive Sys.Event where
  /-- Task `i` takes a step; with `cancel`, an `await` it waits at raises
  `CancelledError`. -/
  | step (i : Nat) (cancel : Bool)
  /-- The kernel publishes a hint. -/
  | hint
  /-- The kernel writes the pressure level. -/
  | pressure (p : Nat)
  /-- The runtime enters or leaves DEFENSIVE mode. -/
  | defensive (b : Bool)
  deriving Repr

/-- The thread's worker, its tasks, and the native calls made so far, each with the
index of the task that made it. -/
structure Sys where
  worker : Worker
  tasks : List Task
  calls : List (Nat × Effect)

namespace Sys

/-- Tasks about to run `bodies` on worker `w`. -/
def start (w : Worker) (bodies : List (List Stmt)) : Sys := ⟨w, bodies.map Task.start, []⟩

def step (s : Sys) : Event → Sys
  | .step i cancel =>
    match s.tasks[i]? with
    | none => s
    | some t =>
      let r := t.step s.worker cancel
      ⟨r.1.apply s.worker, s.tasks.set i r.2, s.calls ++ [(i, r.1)]⟩
  | .hint => { s with worker := s.worker.publishHint }
  | .pressure p => { s with worker := { s.worker with kernelPressureLevel := p } }
  | .defensive b => { s with worker := { s.worker with defensive := b } }

def run (s : Sys) (evs : List Event) : Sys := evs.foldl step s

/-- The calls `e` task `i` has made. -/
def made (s : Sys) (i : Nat) (e : Effect) : Nat := s.calls.count (i, e)

/-- The acknowledgements any task has made. -/
def acks (s : Sys) : Nat := s.calls.countP fun c => c.2 == .acknowledge

/-- The steps task `i` takes over `evs` from `s`: the worker it finds at each, and whether
an `await` it waits at is cancelled. -/
def stepsOf (i : Nat) : Sys → List Event → List (Worker × Bool)
  | _, [] => []
  | s, .step j c :: evs => (if j = i then [(s.worker, c)] else []) ++ stepsOf i (s.step (.step j c)) evs
  | s, ev :: evs => stepsOf i (s.step ev) evs

/-- The calls task `i` has made, in order. -/
def callsOf (s : Sys) (i : Nat) : List Effect := (s.calls.filter fun c => c.1 == i).map Prod.snd

end Sys

/-- The scopes open across `ts`. -/
def openScopes : List Task → Nat
  | [] => 0
  | t :: ts => t.scopes + openScopes ts

theorem openScopes_set {ts : List Task} {i : Nat} {t : Task} (h : ts[i]? = some t)
    (t' : Task) : openScopes (ts.set i t') + t.scopes = openScopes ts + t'.scopes := by
  induction ts generalizing i with
  | nil => simp at h
  | cons u ts ih =>
    cases i with
    | zero =>
      obtain rfl : u = t := by simpa using h
      simp only [openScopes, List.set_cons_zero]
      omega
    | succ i =>
      have := ih (by simpa using h)
      simp only [openScopes, List.set_cons_succ] at this ⊢
      omega

theorem scopes_le_openScopes {ts : List Task} {i : Nat} {t : Task} (h : ts[i]? = some t) :
    t.scopes ≤ openScopes ts := by
  have := openScopes_set h ⟨.normal, []⟩
  simp only [Task.scopes, List.countP_nil, Nat.add_zero] at this ⊢
  omega

theorem Effect.enters_add_exits_le (e : Effect) : e.enters + e.exits ≤ 1 := by
  cases e <;> simp [enters, exits]

/-- The counter's accounting, from start value `c₀` and underflow count `u₀`. -/
structure Sys.Inv (c₀ u₀ : Nat) (s : Sys) : Prop where
  /-- The counter is its start value plus every open scope. -/
  count : s.worker.isInCriticalSection = c₀ + openScopes s.tasks
  /-- No exit has been clamped. -/
  underflows : s.worker.underflows = u₀
  /-- Each task has entered once per exit and once per scope it has open. -/
  balanced : ∀ i t, s.tasks[i]? = some t → s.made i .enter = s.made i .exit + t.scopes

namespace Sys

theorem made_append (w : Worker) (ts : List Task) (calls : List (Nat × Effect))
    (i j : Nat) (e f : Effect) : (⟨w, ts, calls ++ [(i, f)]⟩ : Sys).made j e =
      calls.count (j, e) + if i = j ∧ f = e then 1 else 0 := by
  simp only [made, List.count_append, List.count_singleton, beq_iff_eq, Prod.mk.injEq]

/-- One step of one task keeps the accounting: an exit only ever closes a scope, so the
counter is positive when it comes. -/
theorem Inv.step_task {c₀ u₀ : Nat} {s : Sys} (hs : s.Inv c₀ u₀) {i : Nat} {t : Task}
    (ht : s.tasks[i]? = some t) (cancel : Bool) :
    (⟨(t.step s.worker cancel).1.apply s.worker, s.tasks.set i (t.step s.worker cancel).2,
      s.calls ++ [(i, (t.step s.worker cancel).1)]⟩ : Sys).Inv c₀ u₀ := by
  have hscope := t.scopes_step s.worker cancel
  generalize t.step s.worker cancel = r at hscope ⊢
  obtain ⟨e, t'⟩ := r
  dsimp only at hscope ⊢
  have hle : e.exits ≤ s.worker.isInCriticalSection := by
    have := scopes_le_openScopes ht
    have := e.enters_add_exits_le
    have := hs.count
    omega
  obtain ⟨hc, hu⟩ := e.apply_isInCriticalSection hle
  have hset := openScopes_set ht t'
  refine ⟨?_, hu.trans hs.underflows, fun j u hj => ?_⟩
  · show (e.apply s.worker).isInCriticalSection = c₀ + openScopes (s.tasks.set i t')
    have := hs.count
    omega
  · rw [made_append, made_append]
    by_cases hij : i = j
    · subst hij
      obtain rfl : t' = u := by simpa [List.getElem?_set', ht] using hj
      have hb := hs.balanced i t ht
      have hen : (if i = i ∧ e = .enter then 1 else 0) = e.enters := by simp [Effect.enters]
      have hex : (if i = i ∧ e = .exit then 1 else 0) = e.exits := by simp [Effect.exits]
      simp only [made] at hb
      omega
    · rw [List.getElem?_set_ne hij] at hj
      simpa [hij] using hs.balanced j u hj

theorem Inv.step {c₀ u₀ : Nat} {s : Sys} (hs : s.Inv c₀ u₀) (ev : Event) :
    (s.step ev).Inv c₀ u₀ := by
  cases ev with
  | step i cancel =>
    cases ht : s.tasks[i]? with
    | none => simpa [Sys.step, ht] using hs
    | some t => simpa [Sys.step, ht] using hs.step_task ht cancel
  | _ => exact ⟨hs.count, hs.underflows, hs.balanced⟩

theorem Inv.run {c₀ u₀ : Nat} {s : Sys} (hs : s.Inv c₀ u₀) (evs : List Event) :
    (s.run evs).Inv c₀ u₀ := by
  induction evs generalizing s with
  | nil => exact hs
  | cons ev evs ih => exact ih (hs.step ev)

end Sys

/-! ## One task in the interleaving -/

/-- The other tasks and the kernel reach a task only through the worker: after any run,
task `i` is where it would be, and has made the calls it would have made, running alone
over the steps it took, on the workers it found. -/
theorem Sys.run_task {s : Sys} {i : Nat} {t : Task} (ht : s.tasks[i]? = some t)
    (evs : List Event) :
    (s.run evs).tasks[i]? = some (Task.runFor (s.stepsOf i evs) t).2 ∧
      (s.run evs).callsOf i = s.callsOf i ++ (Task.runFor (s.stepsOf i evs) t).1 := by
  induction evs generalizing s t with
  | nil => simp [run, stepsOf, Task.runFor, ht]
  | cons ev evs ih =>
    -- an event that leaves task `i` and its calls alone adds no step of its own
    have untouched : ∀ s' : Sys, s'.tasks[i]? = some t → s'.callsOf i = s.callsOf i →
        s.step ev = s' → s.stepsOf i (ev :: evs) = s'.stepsOf i evs →
        (s.run (ev :: evs)).tasks[i]? = some (Task.runFor (s.stepsOf i (ev :: evs)) t).2 ∧
          (s.run (ev :: evs)).callsOf i =
            s.callsOf i ++ (Task.runFor (s.stepsOf i (ev :: evs)) t).1 := by
      rintro s' ht' hc rfl hst
      rw [hst, ← hc]
      exact ih ht'
    cases ev with
    | step j c =>
      by_cases hj : j = i
      · subst hj
        have hlt : j < s.tasks.length := (List.getElem?_eq_some_iff.1 ht).1
        obtain ⟨h1, h2⟩ := ih (s := s.step (.step j c)) (t := (t.step s.worker c).2)
          (by simp [Sys.step, ht, List.getElem?_set_self hlt])
        refine ⟨by simpa [stepsOf, Task.runFor] using h1, ?_⟩
        simp only [stepsOf, if_pos, List.singleton_append, Task.runFor]
        rw [run, List.foldl_cons, ← run, h2]
        simp [Sys.step, ht, callsOf, List.filter_append]
      · refine untouched _ ?_ ?_ rfl (by simp [stepsOf, hj])
        · cases hu : s.tasks[j]? <;> simp [Sys.step, hu, List.getElem?_set_ne hj, ht]
        · cases hu : s.tasks[j]? <;> simp [Sys.step, hu, callsOf, List.filter_append, hj]
    | hint => exact untouched (s.step .hint) ht rfl rfl rfl
    | pressure p => exact untouched (s.step (.pressure p)) ht rfl rfl rfl
    | defensive b => exact untouched (s.step (.defensive b)) ht rfl rfl rfl

theorem Sys.inv_start (w : Worker) (bodies : List (List Stmt)) :
    (Sys.start w bodies).Inv w.isInCriticalSection w.underflows := by
  have h0 : ∀ b, (Task.start b).scopes = 0 := fun _ => rfl
  refine ⟨?_, rfl, fun i t ht => ?_⟩
  · induction bodies with
    | nil => rfl
    | cons b bodies ih => simpa [start, openScopes, h0] using ih
  · obtain ⟨b, -, rfl⟩ := List.mem_map.mp (List.getElem?_mem ht)
    simp [made, start, h0]

theorem openScopes_eq_zero : ∀ {ts : List Task}, ts.all Task.finished → openScopes ts = 0
  | [], _ => rfl
  | ⟨_, []⟩ :: _, h => by simpa [openScopes, Task.scopes] using openScopes_eq_zero (by simp_all)
  | ⟨_, _ :: _⟩ :: _, h => by simp [Task.finished] at h

/-- Scopes nest to any depth in any number of tasks, and the scheduler interleaves them,
raises into them and cancels them at will. Each `async with morpheus_critical(): body`
calls enter once before its body and exit once after it: its calls are the enter call,
the body's own calls, then the exit call, whether the body ends normally, raises, returns
or is cancelled, on whatever worker each step finds. The interleaving reaches a task only
through that worker: in every run each task's frames and calls are those of its body run
alone over the steps it took. Each step that opens a scope enters
once and each that closes one exits once. The counter is its start value plus the scopes
open, no exit is clamped, each task's entries are its exits plus its open scopes, and
once every task is done the counter is back where it started. -/
theorem critical_counter_balanced (w : Worker) (bodies : List (List Stmt))
    (evs : List Sys.Event) :
    (∀ (body rest : List Stmt) (k : List Frame) (ss : List (Worker × Bool)) (v v' : Worker)
        (c c' : Bool),
      (∀ j < ss.length, (Task.runFor (ss.take j) (Task.start body)).2.finished = false) →
      (Task.runFor ss (Task.start body)).2.finished →
      Task.runFor ((v, c) :: ss ++ [(v', c')]) ⟨.normal, .block (.critical body :: rest) :: k⟩ =
        (.enter :: (Task.runFor ss (Task.start body)).1 ++ [.exit],
          ⟨(Task.runFor ss (Task.start body)).2.mode, .block rest :: k⟩)) ∧
    (∀ (v : Worker) (cancel : Bool) (t : Task),
      (t.step v cancel).2.scopes + (t.step v cancel).1.exits =
        t.scopes + (t.step v cancel).1.enters) ∧
    let s := (Sys.start w bodies).run evs
    (∀ i body, bodies[i]? = some body →
      s.tasks[i]? = some (Task.runFor ((Sys.start w bodies).stepsOf i evs) (Task.start body)).2 ∧
        s.callsOf i = (Task.runFor ((Sys.start w bodies).stepsOf i evs) (Task.start body)).1) ∧
      s.worker.isInCriticalSection = w.isInCriticalSection + openScopes s.tasks ∧
      s.worker.underflows = w.underflows ∧
      (∀ i t, s.tasks[i]? = some t → s.made i .enter = s.made i .exit + t.scopes) ∧
      (s.tasks.all Task.finished → s.worker.isInCriticalSection = w.isInCriticalSection) := by
  have h := (Sys.inv_start w bodies).run evs
  refine ⟨Task.runFor_critical, Task.scopes_step, fun i body hb => ?_, h.count, h.underflows,
    h.balanced, fun hf => ?_⟩
  · simpa [Sys.callsOf, Sys.start] using
      Sys.run_task (s := Sys.start w bodies) (by simp [Sys.start, hb]) evs
  · rw [h.count, openScopes_eq_zero hf, Nat.add_zero]

/-- A body cancelled at its first `await`: the scope still exits once after it, and the
`CancelledError` goes on past the `async with`. -/
theorem critical_counter_balanced_cancelled :
    let v : Worker := ⟨0, 0, 0, 0, false, 0⟩
    (∀ j < [(v, true)].length,
      (Task.runFor ([(v, true)].take j) (Task.start [.await, .checkpoint])).2.finished = false) ∧
    (Task.runFor [(v, true)] (Task.start [.await, .checkpoint])).2.finished ∧
    Task.runFor [(v, false), (v, true), (v, false)]
        ⟨.normal, [.block [.critical [.await, .checkpoint], .checkpoint]]⟩ =
      ([.enter, .none, .exit], ⟨.raising, [.block [.checkpoint]]⟩) :=
  ⟨by decide, rfl, (critical_counter_balanced ⟨0, 0, 0, 0, false, 0⟩ [] []).1
    [.await, .checkpoint] [.checkpoint] [] [(⟨0, 0, 0, 0, false, 0⟩, true)] _ _ false false
    (by decide) rfl⟩

/-- Inside an open scope, `morpheus_checkpoint()` returns at once, without acknowledging
or suspending, whatever the kernel has published and whether the runtime is defensive. -/
theorem checkpoint_in_scope (w : Worker) (bodies : List (List Stmt)) (evs : List Sys.Event)
    {i : Nat} {rest : List Stmt} {k : List Frame} (cancel : Bool)
    (ht : ((Sys.start w bodies).run evs).tasks[i]? =
      some ⟨.normal, .block (.checkpoint :: rest) :: k⟩)
    (hk : 0 < k.countP Frame.isScope) :
    Task.step ((Sys.start w bodies).run evs).worker cancel
        ⟨.normal, .block (.checkpoint :: rest) :: k⟩ =
      (.none, ⟨.normal, .block rest :: k⟩) := by
  have h := (Sys.inv_start w bodies).run evs
  have hle := scopes_le_openScopes ht
  have hpos : 0 < ((Sys.start w bodies).run evs).worker.isInCriticalSection := by
    simp only [Task.scopes, List.countP_cons, Frame.isScope, Bool.false_eq_true, if_false,
      Nat.add_zero] at hle
    have := h.count
    omega
  simp [Task.step, Frame.next, Stmt.exec, Worker.checkpoint_eq_false_of_critical hpos]

theorem checkpoint_in_scope_after_hint :
    let s := (Sys.start ⟨0, 0, 0, 0, true, 0⟩ [[.critical [.checkpoint]]]).run
      [.hint, .step 0 false]
    s.tasks[0]? = some ⟨.normal, [.block [.checkpoint], .scope, .block []]⟩ ∧
      0 < [Frame.scope, .block []].countP Frame.isScope ∧
      Task.step s.worker false ⟨.normal, [.block [.checkpoint], .scope, .block []]⟩ =
        (.none, ⟨.normal, [.block [], .scope, .block []]⟩) :=
  ⟨rfl, by decide, @checkpoint_in_scope _ _ _ 0 _ _ false rfl (by decide)⟩

/-! ## Deferred hints -/

/-- What a run keeps of the handshake: `preempt_seq` never goes back, acknowledgements are
only added, and `last_ack_seq` moves only with one. -/
structure Sys.Follows (s t : Sys) : Prop where
  preemptSeq : s.worker.preemptSeq ≤ t.worker.preemptSeq
  acks : s.acks ≤ t.acks
  lastAckSeq : t.acks = s.acks → t.worker.lastAckSeq = s.worker.lastAckSeq

namespace Sys.Follows

variable {s t u : Sys}

theorem refl (s : Sys) : s.Follows s := ⟨Nat.le_refl _, Nat.le_refl _, fun _ => rfl⟩

theorem trans (h₁ : s.Follows t) (h₂ : t.Follows u) : s.Follows u where
  preemptSeq := Nat.le_trans h₁.preemptSeq h₂.preemptSeq
  acks := Nat.le_trans h₁.acks h₂.acks
  lastAckSeq hu := by
    have h₁' := h₁.acks
    have h₂' := h₂.acks
    rw [h₂.lastAckSeq (by omega), h₁.lastAckSeq (by omega)]

end Sys.Follows

namespace Sys

theorem follows_step (s : Sys) (ev : Event) : s.Follows (s.step ev) := by
  cases ev with
  | step i cancel =>
    cases ht : s.tasks[i]? with
    | none => simpa [Sys.step, ht] using Follows.refl s
    | some t =>
      simp only [Sys.step, ht]
      refine ⟨by simp, by simp [acks], fun h => Effect.apply_lastAckSeq (fun he => ?_) _⟩
      simp [acks, he] at h
  | hint => exact ⟨Nat.le_succ _, Nat.le_refl _, fun _ => rfl⟩
  | _ => exact ⟨Nat.le_refl _, Nat.le_refl _, fun _ => rfl⟩

theorem follows_run (s : Sys) (evs : List Event) : s.Follows (s.run evs) := by
  induction evs generalizing s with
  | nil => exact .refl s
  | cons ev evs ih => exact (follows_step s ev).trans (ih _)

end Sys

/-- A hint the kernel published while any scope was open is taken at the first
`morpheus_checkpoint()` after the counter is back to zero. From any state with the
counter's accounting, if a hint is pending and no task acknowledges in between, however
the tasks interleave, a task's `morpheus_checkpoint()` acknowledges and suspends exactly
when no task, this one or another, is inside the body of a scope (a scope is open exactly
while its body runs, `Task.runFor_critical`); otherwise it returns at once. -/
theorem checkpoint_with_pending_hint {c₀ u₀ : Nat} {s : Sys} (hs : s.Inv c₀ u₀)
    (hpend : s.worker.lastAckSeq < s.worker.preemptSeq) (evs : List Sys.Event)
    (hno : (s.run evs).acks = s.acks) (cancel : Bool) (rest : List Stmt) (k : List Frame) :
    Task.step (s.run evs).worker cancel ⟨.normal, .block (.checkpoint :: rest) :: k⟩ =
      if c₀ + openScopes (s.run evs).tasks = 0 then
        (.acknowledge, ⟨.normal, .block (.await :: rest) :: k⟩)
      else (.none, ⟨.normal, .block rest :: k⟩) := by
  have hf := s.follows_run evs
  have hne : ((s.run evs).worker.preemptSeq != (s.run evs).worker.lastAckSeq) = true := by
    have := hf.preemptSeq
    rw [bne_iff_ne, hf.lastAckSeq hno]
    omega
  simp [Task.step, Frame.next, Stmt.exec, Worker.checkpoint, (hs.run evs).count, hne]

/-- A hint published inside `async with morpheus_critical(): await ...; await
morpheus_checkpoint()`: the checkpoint in the body holds it back, and the one after the
scope takes it. -/
theorem checkpoint_with_pending_hint_in_scope :
    let s := (Sys.start ⟨0, 0, 0, 0, false, 0⟩ [[.critical [.await, .checkpoint], .checkpoint]]).run
      [.step 0 false, .step 0 false, .hint]
    let s' := s.run [.step 0 false, .step 0 false, .step 0 false]
    s.Inv 0 0 ∧ s.worker.lastAckSeq < s.worker.preemptSeq ∧
      s.tasks[0]? = some ⟨.normal, [.block [.checkpoint], .scope, .block [.checkpoint]]⟩ ∧
      0 < openScopes (s.run []).tasks ∧
      Task.step (s.run []).worker false ⟨.normal, [.block [.checkpoint], .scope, .block [.checkpoint]]⟩ =
        (if 0 + openScopes (s.run []).tasks = 0 then
          (.acknowledge, ⟨.normal, [.block [.await], .scope, .block [.checkpoint]]⟩)
        else (.none, ⟨.normal, [.block [], .scope, .block [.checkpoint]]⟩)) ∧
      s'.acks = s.acks ∧ s'.tasks[0]? = some ⟨.normal, [.block [.checkpoint]]⟩ ∧
      openScopes s'.tasks = 0 ∧
      Task.step s'.worker false ⟨.normal, [.block [.checkpoint]]⟩ =
        if 0 + openScopes s'.tasks = 0 then (.acknowledge, ⟨.normal, [.block [.await]]⟩)
        else (.none, ⟨.normal, [.block []]⟩) :=
  have hs := (Sys.inv_start ⟨0, 0, 0, 0, false, 0⟩
    [[.critical [.await, .checkpoint], .checkpoint]]).run [.step 0 false, .step 0 false, .hint]
  ⟨hs, by decide, rfl, by decide, checkpoint_with_pending_hint hs (by decide) [] rfl false
    [] [.scope, .block [.checkpoint]], rfl, rfl, rfl,
    checkpoint_with_pending_hint hs (by decide) [.step 0 false, .step 0 false, .step 0 false]
      rfl false [] []⟩

end Morpheus
