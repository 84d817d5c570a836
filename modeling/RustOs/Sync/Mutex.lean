import RustOs.Sched.Sleep

/-!
# The sleeping mutex

`sync/mutex.rs`: a `Mutex` is a spin lock, `inner`, and the queue `waiting_tasks` of the tasks
that want it. `lock` marks the task sleeping, queues it, tries the inner lock and runs the
scheduler when that fails, and starts again; the drop of the `MutexGuard` wakes every queued
task. Its body runs before the fields of the guard are dropped, so `wake_tasks` runs while the
inner lock is still held, and `inner` is released only after it.

A run interleaves these steps of the tasks on all CPUs with the scheduler: a timer interrupt
can preempt a task that holds the mutex or is not in its code. Every reachable state keeps the
mutex exclusive, and a task inside `lock` that is sleeping is in `waiting_tasks`. That is not
enough for a waiter to be woken: a waiter that queues itself after `wake_tasks` and tries the
lock before the release sleeps with the mutex free, until the next unlock.
-/

namespace RustOs.Sync

open RustOs.Sched

/-- `Mutex<T>` without its value: whether `inner` is taken, and `waiting_tasks`. -/
structure Mutex where
  locked : Bool
  waitingTasks : List TaskId
  deriving DecidableEq, Repr

namespace Mutex

def new : Mutex := ⟨false, []⟩

/-- `SpinLock::try_lock_allow_preempt` of `inner`: `none` when it is taken. -/
def tryLock (self : Mutex) : Option Mutex :=
  if self.locked then none else some { self with locked := true }

def pushWaiting (self : Mutex) (taskId : TaskId) : Mutex :=
  { self with waitingTasks := self.waitingTasks ++ [taskId] }

/-- The drop of the `SpinLockGuard` of `inner`. -/
def unlock (self : Mutex) : Mutex := { self with locked := false }

/-- The `while let` loop of `wake_tasks`: `awaken_task` of every queued task, oldest first. -/
def wakeTasksLoop {n : Nat} : SchedState n → List TaskId → Option (SchedState n)
  | s, [] => some s
  | s, taskId :: waitingTasks => do
      let s ← s.awakenTask taskId
      wakeTasksLoop s waitingTasks

def wakeTasks {n : Nat} (self : Mutex) (s : SchedState n) : Option (Mutex × SchedState n) := do
  let s ← wakeTasksLoop s self.waitingTasks
  some ({ self with waitingTasks := [] }, s)

end Mutex

/-- Where a task is in `Mutex::lock` or in the drop of its `MutexGuard`. -/
inductive LockPc where
  | outside
  /-- After `prepare_to_sleep`. -/
  | prepared
  | queued
  /-- `try_lock` failed: `run_scheduler` is next. -/
  | failed
  /-- Back from `run_scheduler`, or switched out inside it: the loop starts again. -/
  | rescheduled
  /-- `try_lock` succeeded: the `awaken_task` of itself is next. -/
  | acquired
  /-- It holds the `MutexGuard`. -/
  | holding
  /-- In the drop of the guard, after `wake_tasks` and before `inner` is released. -/
  | waking
  deriving DecidableEq, Repr

namespace LockPc

def holds : LockPc → Bool
  | acquired | holding | waking => true
  | _ => false

def waits : LockPc → Bool
  | prepared | queued | failed | rescheduled => true
  | _ => false

def pushed : LockPc → Bool
  | queued | failed | rescheduled | acquired => true
  | _ => false

/-- The task is between `prepare_to_sleep` and its own `run_scheduler`, where nothing switches
it out. -/
def onCpu : LockPc → Bool
  | prepared | queued | failed => true
  | _ => false

theorem waits_of_onCpu {pc : LockPc} (h : pc.onCpu = true) : pc.waits = true := by
  cases pc <;> first | rfl | cases h

end LockPc

structure MutexSys (n : Nat) where
  sched : SchedState n
  mutex : Mutex
  pc : TaskId → LockPc

namespace MutexSys

variable {n : Nat}

def running (m : MutexSys n) (cpu : Fin n) : TaskId := m.sched.currentTaskId cpu

def moveTo (m : MutexSys n) (cpu : Fin n) (pc : LockPc) : TaskId → LockPc :=
  Function.update m.pc (m.running cpu) pc

@[simp] theorem moveTo_apply (m : MutexSys n) (cpu : Fin n) (pc : LockPc) (x : TaskId) :
    m.moveTo cpu pc x = if x = m.running cpu then pc else m.pc x := by
  simp only [moveTo, Function.update_apply]

def SwitchedOutInLock (m : MutexSys n) (x : TaskId) : Prop :=
  (m.pc x).waits = true ∧ ∀ cpu, m.sched.currentTaskId cpu ≠ x

end MutexSys

/-- One step of the task on `cpu` in the mutex's code, or of the scheduler on `cpu`. -/
inductive MutexStep {n : Nat} : MutexSys n → MutexSys n → Prop
  | prepareToSleep {m : MutexSys n} {s : SchedState n} {id : TaskId} (cpu : Fin n)
      (hpc : m.pc (m.running cpu) = .outside ∨ m.pc (m.running cpu) = .rescheduled)
      (h : m.sched.prepareToSleep cpu = some (id, s)) :
      MutexStep m ⟨s, m.mutex, m.moveTo cpu .prepared⟩
  | pushWaiting {m : MutexSys n} (cpu : Fin n) (hpc : m.pc (m.running cpu) = .prepared) :
      MutexStep m ⟨m.sched, m.mutex.pushWaiting (m.running cpu), m.moveTo cpu .queued⟩
  | tryLockFailed {m : MutexSys n} (cpu : Fin n) (hpc : m.pc (m.running cpu) = .queued)
      (h : m.mutex.tryLock = none) : MutexStep m ⟨m.sched, m.mutex, m.moveTo cpu .failed⟩
  | tryLock {m : MutexSys n} {mutex : Mutex} (cpu : Fin n) (hpc : m.pc (m.running cpu) = .queued)
      (h : m.mutex.tryLock = some mutex) : MutexStep m ⟨m.sched, mutex, m.moveTo cpu .acquired⟩
  | awakenSelf {m : MutexSys n} {s : SchedState n} (cpu : Fin n)
      (hpc : m.pc (m.running cpu) = .acquired) (h : m.sched.awakenTask (m.running cpu) = some s) :
      MutexStep m ⟨s, m.mutex, m.moveTo cpu .holding⟩
  /-- `run_scheduler` in `lock`, where the preempt count is `0`. -/
  | runScheduler {m : MutexSys n} {s : SchedState n} (cpu : Fin n)
      (hpc : m.pc (m.running cpu) = .failed) (h : m.sched.runScheduler cpu 0 = some s) :
      MutexStep m ⟨s, m.mutex, m.moveTo cpu .rescheduled⟩
  /-- The body of the drop of the `MutexGuard`. -/
  | wakeTasks {m : MutexSys n} {s : SchedState n} {mutex : Mutex} (cpu : Fin n)
      (hpc : m.pc (m.running cpu) = .holding) (h : m.mutex.wakeTasks m.sched = some (mutex, s)) :
      MutexStep m ⟨s, mutex, m.moveTo cpu .waking⟩
  | release {m : MutexSys n} (cpu : Fin n) (hpc : m.pc (m.running cpu) = .waking) :
      MutexStep m ⟨m.sched, m.mutex.unlock, m.moveTo cpu .outside⟩
  /-- A timer interrupt's `run_scheduler` on a CPU whose task is not in the loop of `lock`. -/
  | preempt {m : MutexSys n} {s : SchedState n} (cpu : Fin n)
      (hpc : (m.pc (m.running cpu)).waits = false) (h : m.sched.runScheduler cpu 0 = some s) :
      MutexStep m ⟨s, m.mutex, m.pc⟩
  | schedulerTick {m : MutexSys n} {s : SchedState n} (cpu : Fin n) (ms : Nat)
      (h : m.sched.schedulerTick cpu ms = some s) : MutexStep m ⟨s, m.mutex, m.pc⟩

/-! ## What a step does to the scheduler -/

section Sched

variable {n : Nat}

theorem wakeTasksLoop_isSleeping :
    ∀ (ids : List TaskId) (s : SchedState n) {s' : SchedState n},
      Mutex.wakeTasksLoop s ids = some s' →
      ∀ x, s'.tasks.isSleeping x = if x ∈ ids then false else s.tasks.isSleeping x
  | [], s, _, h, x => by
      simp only [Mutex.wakeTasksLoop, Option.some.injEq] at h
      simp [h]
  | id :: ids, s, _, h, x => by
      simp only [Mutex.wakeTasksLoop, Option.bind_eq_bind, Option.bind_eq_some_iff] at h
      obtain ⟨s1, h1, h⟩ := h
      rw [wakeTasksLoop_isSleeping ids s1 h x, awakenTask_isSleeping h1 x]
      by_cases hx : x = id
      · simp [hx]
      · simp [hx]

theorem wakeTasksLoop_currentTaskId :
    ∀ (ids : List TaskId) (s : SchedState n) {s' : SchedState n},
      Mutex.wakeTasksLoop s ids = some s' → s'.currentTaskId = s.currentTaskId
  | [], s, _, h => by
      simp only [Mutex.wakeTasksLoop, Option.some.injEq] at h
      rw [h]
  | id :: ids, s, _, h => by
      simp only [Mutex.wakeTasksLoop, Option.bind_eq_bind, Option.bind_eq_some_iff] at h
      obtain ⟨s1, h1, h⟩ := h
      rw [wakeTasksLoop_currentTaskId ids s1 h, awakenTask_currentTaskId h1]

theorem wakeTasks_eq {mutex mutex' : Mutex} {s s' : SchedState n}
    (h : mutex.wakeTasks s = some (mutex', s')) :
    mutex' = { mutex with waitingTasks := [] } ∧ Mutex.wakeTasksLoop s mutex.waitingTasks = some s' := by
  simp only [Mutex.wakeTasks, Option.bind_eq_bind, Option.bind_eq_some_iff, Option.some.injEq,
    Prod.mk.injEq] at h
  obtain ⟨s1, h1, rfl, rfl⟩ := h
  exact ⟨rfl, h1⟩

end Sched

/-! ## The invariant -/

/-- At most one task holds `inner`, which is taken exactly when one does; a task that has
queued itself in this turn of `lock` and sleeps is in `waiting_tasks`; and a task in `lock`
before its `run_scheduler` runs on some CPU. -/
structure MutexInv {n : Nat} (m : MutexSys n) : Prop where
  exclusive : ∀ x y, (m.pc x).holds = true → (m.pc y).holds = true → x = y
  locked : m.mutex.locked = true ↔ ∃ x, (m.pc x).holds = true
  queued : ∀ x, (m.pc x).pushed = true → m.sched.tasks.isSleeping x = true →
    x ∈ m.mutex.waitingTasks
  current : ∀ x, (m.pc x).onCpu = true → ∃ cpu, m.sched.currentTaskId cpu = x

namespace MutexInv

variable {n : Nat} {m : MutexSys n}

theorem holds_moveTo {cpu : Fin n} {pc : LockPc} (hpc : pc.holds = (m.pc (m.running cpu)).holds)
    (x : TaskId) : (m.moveTo cpu pc x).holds = (m.pc x).holds := by
  rw [MutexSys.moveTo_apply]
  split
  · rename_i hx
    rw [hx, hpc]
  · rfl

theorem exclusive_moveTo (hinv : MutexInv m) {cpu : Fin n} {pc : LockPc}
    (hpc : pc.holds = (m.pc (m.running cpu)).holds) {mutex : Mutex}
    (hlocked : mutex.locked = m.mutex.locked) :
    (∀ x y, (m.moveTo cpu pc x).holds = true → (m.moveTo cpu pc y).holds = true → x = y) ∧
      (mutex.locked = true ↔ ∃ x, (m.moveTo cpu pc x).holds = true) := by
  simp only [holds_moveTo hpc, hlocked]
  exact ⟨hinv.exclusive, hinv.locked⟩

theorem queued_moveTo (hinv : MutexInv m) {cpu : Fin n} {pc : LockPc} {s : SchedState n}
    {waitingTasks : List TaskId} (hsub : ∀ x ∈ m.mutex.waitingTasks, x ∈ waitingTasks)
    (hself : pc.pushed = true → s.tasks.isSleeping (m.running cpu) = true →
      (m.pc (m.running cpu)).pushed = true ∧ m.sched.tasks.isSleeping (m.running cpu) = true)
    (hother : ∀ x ≠ m.running cpu, s.tasks.isSleeping x = true → m.sched.tasks.isSleeping x = true) :
    ∀ x, (m.moveTo cpu pc x).pushed = true → s.tasks.isSleeping x = true → x ∈ waitingTasks := by
  intro x hpushed hsleep
  rw [MutexSys.moveTo_apply] at hpushed
  split at hpushed
  · rename_i hx
    subst hx
    obtain ⟨hp, hs⟩ := hself hpushed hsleep
    exact hsub _ (hinv.queued _ hp hs)
  · rename_i hx
    exact hsub _ (hinv.queued x hpushed (hother x hx hsleep))

theorem current_moveTo (hinv : MutexInv m) {cpu : Fin n} {pc : LockPc} {s : SchedState n}
    (hcur : s.currentTaskId = m.sched.currentTaskId) :
    ∀ x, (m.moveTo cpu pc x).onCpu = true → ∃ c, s.currentTaskId c = x := by
  intro x hx
  rw [hcur]
  simp only [MutexSys.moveTo_apply] at hx
  split at hx
  · rename_i hxr
    exact ⟨cpu, hxr.symm⟩
  · exact hinv.current x hx

theorem current_of_switch (hinv : MutexInv m) {cpu : Fin n} {s : SchedState n}
    (hother : ∀ c ≠ cpu, s.currentTaskId c = m.sched.currentTaskId c) {x : TaskId}
    (hx : (m.pc x).onCpu = true) (hxr : x ≠ m.running cpu) : ∃ c, s.currentTaskId c = x := by
  obtain ⟨c, hc⟩ := hinv.current x hx
  have hne : c ≠ cpu := fun hcpu => hxr (by rw [← hc, hcpu]; rfl)
  exact ⟨c, by rw [hother c hne, hc]⟩

theorem step (hinv : MutexInv m) {m' : MutexSys n} (h : MutexStep m m') : MutexInv m' := by
  cases h with
  | prepareToSleep cpu hpc h =>
      have hholds : LockPc.prepared.holds = (m.pc (m.running cpu)).holds := by
        rcases hpc with hpc | hpc <;> rw [hpc] <;> rfl
      have hid := (prepareToSleep_isSleeping h (m.running cpu)).1
      refine ⟨(hinv.exclusive_moveTo hholds rfl).1, (hinv.exclusive_moveTo hholds rfl).2,
        hinv.queued_moveTo (fun x hx => hx) (fun hp _ => absurd hp (by decide)) (fun x hx hs => ?_),
        hinv.current_moveTo (prepareToSleep_currentTaskId h)⟩
      rwa [(prepareToSleep_isSleeping h x).2, if_neg (by rw [hid]; exact hx)] at hs
  | pushWaiting cpu hpc =>
      have hholds : LockPc.queued.holds = (m.pc (m.running cpu)).holds := by rw [hpc]; rfl
      refine ⟨(hinv.exclusive_moveTo hholds rfl).1, (hinv.exclusive_moveTo hholds rfl).2, ?_,
        hinv.current_moveTo rfl⟩
      -- the task that pushed itself is queued now, the others as before
      intro x hpushed hsleep
      simp only [MutexSys.moveTo_apply] at hpushed
      simp only [Mutex.pushWaiting, List.mem_append, List.mem_singleton]
      split at hpushed
      · exact .inr (by assumption)
      · exact .inl (hinv.queued x hpushed hsleep)
  | tryLockFailed cpu hpc h =>
      have hholds : LockPc.failed.holds = (m.pc (m.running cpu)).holds := by rw [hpc]; rfl
      exact ⟨(hinv.exclusive_moveTo hholds rfl).1, (hinv.exclusive_moveTo hholds rfl).2,
        hinv.queued_moveTo (fun x hx => hx) (fun _ hs => ⟨by rw [hpc]; rfl, hs⟩)
          (fun _ _ hs => hs), hinv.current_moveTo rfl⟩
  | tryLock cpu hpc h =>
      -- `inner` was free, so no task held it, and now only this one does
      have hfree : m.mutex.locked = false := by
        unfold Mutex.tryLock at h
        split at h
        · cases h
        · simpa using (by assumption : ¬m.mutex.locked = true)
      have hmutex : _ = _ := (Option.some.inj (by rw [← h, Mutex.tryLock, hfree]; rfl :
        some { m.mutex with locked := true } = some _))
      subst hmutex
      have hnone : ∀ x, (m.pc x).holds = false := fun x => by
        cases hx : (m.pc x).holds
        · rfl
        · exact absurd (hinv.locked.mpr ⟨x, hx⟩) (by rw [hfree]; decide)
      have honly : ∀ x, (m.moveTo cpu .acquired x).holds = true → x = m.running cpu := by
        intro x hx
        rw [MutexSys.moveTo_apply] at hx
        split at hx
        · assumption
        · rw [hnone x] at hx
          cases hx
      refine ⟨fun x y hx hy => (honly x hx).trans (honly y hy).symm,
        ⟨fun _ => ⟨m.running cpu, by simp; rfl⟩, fun _ => rfl⟩,
        hinv.queued_moveTo (fun x hx => hx) (fun _ hs => ⟨by rw [hpc]; rfl, hs⟩)
          (fun _ _ hs => hs), hinv.current_moveTo rfl⟩
  | awakenSelf cpu hpc h =>
      have hholds : LockPc.holding.holds = (m.pc (m.running cpu)).holds := by rw [hpc]; rfl
      refine ⟨(hinv.exclusive_moveTo hholds rfl).1, (hinv.exclusive_moveTo hholds rfl).2,
        hinv.queued_moveTo (fun x hx => hx) (fun hp _ => absurd hp (by decide)) (fun x hx hs => ?_),
        hinv.current_moveTo (awakenTask_currentTaskId h)⟩
      rwa [awakenTask_isSleeping h x, if_neg hx] at hs
  | runScheduler cpu hpc h =>
      have hholds : LockPc.rescheduled.holds = (m.pc (m.running cpu)).holds := by rw [hpc]; rfl
      refine ⟨(hinv.exclusive_moveTo hholds rfl).1, (hinv.exclusive_moveTo hholds rfl).2,
        hinv.queued_moveTo (fun x hx => hx)
          (fun _ hs => ⟨by rw [hpc]; rfl, by rwa [runScheduler_isSleeping h] at hs⟩)
          (fun x _ hs => by rwa [runScheduler_isSleeping h] at hs), fun x hx => ?_⟩
      -- the task that ran the scheduler left the loop's first part; the others kept their CPUs
      simp only [MutexSys.moveTo_apply] at hx
      split at hx
      · cases hx
      · exact hinv.current_of_switch (fun c hc => runScheduler_currentTaskId h hc) hx
          (by assumption)
  | wakeTasks cpu hpc h =>
      obtain ⟨rfl, hloop⟩ := wakeTasks_eq h
      have hholds : LockPc.waking.holds = (m.pc (m.running cpu)).holds := by rw [hpc]; rfl
      refine ⟨(hinv.exclusive_moveTo hholds rfl).1, (hinv.exclusive_moveTo hholds rfl).2, ?_,
        hinv.current_moveTo (wakeTasksLoop_currentTaskId _ _ hloop)⟩
      -- every queued task is awake now, and no other queued task sleeps
      intro x hpushed hsleep
      rw [wakeTasksLoop_isSleeping _ _ hloop x] at hsleep
      split at hsleep
      · cases hsleep
      · rename_i hnot
        simp only [MutexSys.moveTo_apply] at hpushed
        split at hpushed
        · cases hpushed
        · exact absurd (hinv.queued x hpushed hsleep) hnot
  | release cpu hpc =>
      have hheld : (m.pc (m.running cpu)).holds = true := by rw [hpc]; rfl
      -- the releasing task was the one holder, and it holds nothing now
      have hnone : ∀ x, (m.moveTo cpu .outside x).holds = false := by
        intro x
        rw [MutexSys.moveTo_apply]
        split
        · rfl
        · rename_i hx
          cases hxh : (m.pc x).holds
          · rfl
          · exact absurd (hinv.exclusive x _ hxh hheld) hx
      refine ⟨fun x _ hx _ => (by rw [hnone x] at hx; cases hx),
        ⟨fun h => (by cases h), fun ⟨x, hx⟩ => (by rw [hnone x] at hx; cases hx)⟩,
        hinv.queued_moveTo (fun x hx => hx) (fun hp _ => absurd hp (by decide))
          (fun _ _ hs => hs), hinv.current_moveTo rfl⟩
  | preempt cpu hpc h =>
      -- the preempted task is not in the loop's first part, so no such task is switched out
      refine ⟨hinv.exclusive, hinv.locked, fun x hp hs =>
        hinv.queued x hp (by rwa [runScheduler_isSleeping h] at hs), fun x hx => ?_⟩
      refine hinv.current_of_switch (fun c hc => runScheduler_currentTaskId h hc) hx fun hxr => ?_
      rw [← hxr, LockPc.waits_of_onCpu hx] at hpc
      cases hpc
  | schedulerTick cpu ms h =>
      exact ⟨hinv.exclusive, hinv.locked, fun x hp hs =>
        hinv.queued x hp (by rwa [schedulerTick_isSleeping h] at hs),
        by rw [schedulerTick_currentTaskId h]; exact hinv.current⟩

end MutexInv

/-! ## Two CPUs

`per_cpu_init` on two CPUs: the idle tasks 1 and 2, each running on its CPU, and the next id 3.
-/

def bootTwoCpus : SchedState 2 where
  tasks := ⟨⟨3⟩, fun id => if id = ⟨1⟩ ∨ id = ⟨2⟩ then some Task.new else none⟩
  runQueue := ⟨[]⟩
  currentTaskId := fun c => if c = 0 then ⟨1⟩ else ⟨2⟩
  idleTaskId := fun c => if c = 0 then ⟨1⟩ else ⟨2⟩
  creating := []

theorem schedInit_bootTwoCpus : SchedInit bootTwoCpus := by
  refine ⟨by unfold Function.Injective; decide, rfl, fun id => ?_, rfl, rfl⟩
  simp only [bootTwoCpus, Fin.exists_fin_two]
  by_cases h1 : id = ⟨1⟩
  · subst h1
    decide
  · by_cases h2 : id = ⟨2⟩
    · subst h2
      decide
    · simp [h1, h2, eq_comm]

-- Tasks 3 and 4 made by `new_task` and switched to, task 3 on CPU 0 and task 4 on CPU 1.
def twoTasksRunning : SchedState 2 :=
  (do
    let (first, s) ← bootTwoCpus.newTaskTasks
    let (second, s) ← (s.newTaskQueue first).newTaskTasks
    let (_, s) ← (s.newTaskQueue second).taskSwapParameters 0
    let (_, s) ← s.taskSwapParameters 1
    some s).getD bootTwoCpus

theorem twoTasksRunning_reachable : Relation.ReflTransGen SchedStep bootTwoCpus twoTasksRunning :=
  have created := (Relation.ReflTransGen.single (.newTaskTasks rfl)).tail
    (.newTaskQueue List.mem_cons_self)
  have createdBoth := (created.tail (.newTaskTasks rfl)).tail (.newTaskQueue List.mem_cons_self)
  (createdBoth.tail (.taskSwapParameters 0 rfl)).tail (.taskSwapParameters 1 rfl)

/-! ## Every run from a fresh mutex -/

/-- The tasks 3 and 4 are made and put on the CPUs. Task 3 takes the mutex on CPU 0 and drops
its guard as far as `wake_tasks`; task 4 on CPU 1 queues itself and fails `try_lock`; task 3's
`inner` is released; task 4 runs the scheduler, which switches it out. The mutex is free, and
task 4 sleeps in `waiting_tasks`. -/
theorem mutex_lost_wakeup :
    ∃ s0, SchedInit bootTwoCpus ∧ Relation.ReflTransGen SchedStep bootTwoCpus s0 ∧
      ∃ m, Relation.ReflTransGen MutexStep ⟨s0, Mutex.new, fun _ => .outside⟩ m ∧
        m.mutex.locked = false ∧ m.SwitchedOutInLock ⟨4⟩ ∧ m.sched.tasks.isSleeping ⟨4⟩ = true ∧
        ⟨4⟩ ∈ m.mutex.waitingTasks :=
  have locked : Relation.ReflTransGen MutexStep ⟨twoTasksRunning, Mutex.new, fun _ => .outside⟩ _ :=
    (((Relation.ReflTransGen.single (.prepareToSleep 0 (Or.inl (by decide +kernel)) rfl)).tail
      (.pushWaiting 0 (by decide +kernel))).tail (.tryLock 0 (by decide +kernel) rfl)).tail
      (.awakenSelf 0 (by decide +kernel) rfl)
  -- task 4 fails `try_lock` between task 3's `wake_tasks` and its release of `inner`
  have failed := (((locked.tail (.wakeTasks 0 (by decide +kernel) rfl)).tail
    (.prepareToSleep 1 (Or.inl (by decide +kernel)) rfl)).tail
    (.pushWaiting 1 (by decide +kernel))).tail
    (.tryLockFailed 1 (by decide +kernel) (by decide +kernel))
  have run := (failed.tail (.release 0 (by decide +kernel))).tail
    (.runScheduler 1 (by decide +kernel) rfl)
  ⟨twoTasksRunning, schedInit_bootTwoCpus, twoTasksRunning_reachable, _, run, rfl, ⟨rfl, by decide⟩,
    rfl, by decide⟩

end RustOs.Sync
