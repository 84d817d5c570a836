import Mathlib.Data.List.Count
import Mathlib.Data.Fin.Basic

/-!
# The scheduler

`sched/task.rs` and `sched/schedcore.rs`: the table `TASKS` of all tasks, the run queue of
pending task ids, and on every CPU the id of the task it runs and of its idle task. A task is
reduced to the two atomics the scheduler reads and writes, its desired state and its remaining
time slice. Every operation takes the state of all CPUs and returns the new one, `none` being a
panic (`get_task_assert` of an id that is not in `TASKS`, or a failed `assert!`).

`SchedStep` is one atomic step of some CPU. `task_swap_parameters` runs whole under the
`RUN_QUEUE` lock; `new_task` takes the `TASKS` lock and then the `RUN_QUEUE` lock, so it is two
steps, and between them the new id is recorded in `creating`, where the calling CPU holds it.
-/

namespace RustOs.Sched

/-- `TaskId(u32)`. -/
structure TaskId where
  val : UInt32
  deriving DecidableEq, Repr

inductive DesiredTaskState where
  | readyToRun
  | sleeping
  | killed
  deriving DecidableEq, Repr

/-- The atomics of a `Task` the scheduler uses; `remainingSlice` is in milliseconds. -/
structure Task where
  desiredState : DesiredTaskState
  remainingSlice : Nat
  deriving DecidableEq, Repr

/-- The fields `Task::new` gives the atomics. -/
def Task.new : Task := ⟨.readyToRun, 0⟩

/-- `DEFAULT_TIME_SLICE`. -/
def defaultTimeSlice : Nat := 100

structure Tasks where
  nextTaskId : TaskId
  tasks : TaskId → Option Task

namespace Tasks

def new : Tasks := ⟨⟨1⟩, fun _ => none⟩

/-- `Tasks::new_task`: the next id, asserted to be free; `next_task_id.0 += 1` on the `u32`
panics on overflow. -/
def newTask (self : Tasks) : Option (TaskId × Tasks) :=
  let id := self.nextTaskId
  if id.val.toNat + 1 < UInt32.size then
    let nextTaskId : TaskId := ⟨id.val + 1⟩
    if (self.tasks id).isSome then none
    else some (id, ⟨nextTaskId, Function.update self.tasks id (some Task.new)⟩)
  else none

theorem newTask_eq_some {self : Tasks} {id : TaskId} {tasks : Tasks} :
    self.newTask = some (id, tasks) ↔
      id = self.nextTaskId ∧ self.nextTaskId.val.toNat + 1 < UInt32.size ∧ self.tasks id = none ∧
        tasks = ⟨⟨id.val + 1⟩, Function.update self.tasks id (some Task.new)⟩ := by
  unfold newTask
  dsimp only
  by_cases fits : self.nextTaskId.val.toNat + 1 < UInt32.size
  · rw [if_pos fits]
    by_cases used : (self.tasks self.nextTaskId).isSome
    · rw [if_pos used]
      simp only [reduceCtorEq, false_iff]
      rintro ⟨rfl, -, free, -⟩
      simp [free] at used
    · rw [if_neg used]
      simp only [Option.some.injEq, Prod.mk.injEq]
      constructor
      · rintro ⟨rfl, rfl⟩
        exact ⟨rfl, fits, Option.not_isSome_iff_eq_none.mp used, rfl⟩
      · rintro ⟨rfl, -, -, rfl⟩
        exact ⟨rfl, rfl⟩
  · rw [if_neg fits]
    simp only [reduceCtorEq, false_iff]
    rintro ⟨-, tooLarge, -⟩
    exact fits tooLarge

def getTask (self : Tasks) (id : TaskId) : Option Task := self.tasks id

/-- `get_task_assert`: `none` is its panic. -/
def getTaskAssert (self : Tasks) (id : TaskId) : Option Task := self.getTask id

def deleteTask (self : Tasks) (id : TaskId) : Option Tasks :=
  if (self.tasks id).isSome then some { self with tasks := Function.update self.tasks id none }
  else none

def setTask (self : Tasks) (id : TaskId) (task : Task) : Tasks :=
  { self with tasks := Function.update self.tasks id (some task) }

end Tasks

structure RunQueue where
  pendingTasks : List TaskId

namespace RunQueue

/-- The `for` loop of `remove_killed_pending_tasks`. -/
def removeKilledLoop : Tasks → List TaskId → List TaskId → Option (Tasks × List TaskId)
  | tasks, [], remaining => some (tasks, remaining)
  | tasks, id :: ids, remaining => do
      let task ← tasks.getTaskAssert id
      if task.desiredState = .killed then
        let tasks ← tasks.deleteTask id
        removeKilledLoop tasks ids remaining
      else removeKilledLoop tasks ids (remaining ++ [id])

def removeKilledPendingTasks (self : RunQueue) (tasks : Tasks) : Option (Tasks × RunQueue) := do
  let (tasks, remaining) ← removeKilledLoop tasks self.pendingTasks []
  some (tasks, ⟨remaining⟩)

/-- The `loop` of `pop_next_ready_pending_task`, followed by the `append` of the tasks it
skipped. -/
def popLoop (tasks : Tasks) : List TaskId → List TaskId → Option (Option TaskId × List TaskId)
  | [], nonReady => some (none, nonReady)
  | id :: pending, nonReady => do
      let task ← tasks.getTaskAssert id
      if task.desiredState = .readyToRun then some (some id, pending ++ nonReady)
      else popLoop tasks pending (nonReady ++ [id])

def popNextReadyPendingTask (self : RunQueue) (tasks : Tasks) :
    Option (Option TaskId × RunQueue) := do
  let (next, pending) ← popLoop tasks self.pendingTasks []
  some (next, ⟨pending⟩)

end RunQueue

/-- The scheduler's state on `numCpus` CPUs: the globals `TASKS` and `RUN_QUEUE`, and the
per-CPU `CURRENT_TASK_ID` and `IDLE_TASK_ID`. -/
structure SchedState (numCpus : Nat) where
  tasks : Tasks
  runQueue : RunQueue
  currentTaskId : Fin numCpus → TaskId
  idleTaskId : Fin numCpus → TaskId
  /-- ids that a `new_task` call has put in `TASKS` and not yet on the run queue -/
  creating : List TaskId

namespace SchedState

variable {n : Nat}

/-- `schedcore::new_task`, first critical section: `TASKS.new_task`. -/
def newTaskTasks (s : SchedState n) : Option (TaskId × SchedState n) := do
  let (id, tasks) ← s.tasks.newTask
  some (id, { s with tasks, creating := id :: s.creating })

/-- `schedcore::new_task`, second critical section: `pending_tasks.push_back(id)`. -/
def newTaskQueue (s : SchedState n) (id : TaskId) : SchedState n :=
  { s with runQueue := ⟨s.runQueue.pendingTasks ++ [id]⟩, creating := s.creating.erase id }

/-- `task_swap_parameters` from `set_per_cpu_CURRENT_TASK_ID(next_task_id)` on, once the next
task is chosen. The result is `true` when it returns the parameters of a switch. -/
def swapTo (s : SchedState n) (cpu : Fin n) (prevTaskId nextTaskId : TaskId) :
    Option (Bool × SchedState n) := do
  let idleTaskId := s.idleTaskId cpu
  let s := { s with currentTaskId := Function.update s.currentTaskId cpu nextTaskId }
  let s := if prevTaskId ≠ idleTaskId then
      { s with runQueue := ⟨s.runQueue.pendingTasks ++ [prevTaskId]⟩ }
    else s
  let _prevTask ← s.tasks.getTaskAssert prevTaskId
  let nextTask ← s.tasks.getTaskAssert nextTaskId
  let s := { s with
    tasks := s.tasks.setTask nextTaskId { nextTask with remainingSlice := defaultTimeSlice } }
  if prevTaskId = nextTaskId then some (false, s) else some (true, s)

def taskSwapParameters (s : SchedState n) (cpu : Fin n) : Option (Bool × SchedState n) := do
  let idleTaskId := s.idleTaskId cpu
  let (tasks, runQueue) ← s.runQueue.removeKilledPendingTasks s.tasks
  let prevTaskId := s.currentTaskId cpu
  let prevTask ← tasks.getTaskAssert prevTaskId
  let prevTaskState := prevTask.desiredState
  let (next, runQueue) ← runQueue.popNextReadyPendingTask tasks
  let s := { s with tasks, runQueue }
  match next with
  | some id => swapTo s cpu prevTaskId id
  | none =>
      -- no other task to switch to: stay on the idle task or on a task that is ready
      if prevTaskId = idleTaskId ∨ prevTaskState = .readyToRun then some (false, s)
      else swapTo s cpu prevTaskId idleTaskId

def checkCurrentTaskNeedsPreemption (s : SchedState n) (cpu : Fin n) (preemptCount : Int) :
    Option Bool := do
  let idleTaskId := s.idleTaskId cpu
  let currentTask ← s.tasks.getTaskAssert (s.currentTaskId cpu)
  if preemptCount < 0 then none
  else if preemptCount > 0 then some false
  else
    let isIdle := s.currentTaskId cpu = idleTaskId
    let isReady := currentTask.desiredState = .readyToRun
    let isExpired := currentTask.remainingSlice = 0
    if !isIdle ∧ isReady ∧ !isExpired then some false else some true

/-- `run_scheduler` on `cpu`, whose preempt count is `preemptCount`. -/
def runScheduler (s : SchedState n) (cpu : Fin n) (preemptCount : Int) :
    Option (SchedState n) := do
  let needsPreemption ← s.checkCurrentTaskNeedsPreemption cpu preemptCount
  if !needsPreemption then some s
  else
    let (_, s) ← s.taskSwapParameters cpu
    some s

def setCurrentState (s : SchedState n) (cpu : Fin n) (state : DesiredTaskState) :
    Option (TaskId × SchedState n) := do
  let id := s.currentTaskId cpu
  let task ← s.tasks.getTaskAssert id
  some (id, { s with tasks := s.tasks.setTask id { task with desiredState := state } })

def prepareToSleep (s : SchedState n) (cpu : Fin n) : Option (TaskId × SchedState n) :=
  s.setCurrentState cpu .sleeping

/-- `kill_current_task` up to its call of `run_scheduler`, which is a step of its own. -/
def killCurrentTask (s : SchedState n) (cpu : Fin n) : Option (SchedState n) :=
  (s.setCurrentState cpu .killed).map Prod.snd

def awakenTask (s : SchedState n) (id : TaskId) : Option (SchedState n) := do
  let task ← s.tasks.getTaskAssert id
  some { s with tasks := s.tasks.setTask id { task with desiredState := .readyToRun } }

/-- `scheduler_tick`: the slice is deducted with `saturating_sub`. -/
def schedulerTick (s : SchedState n) (cpu : Fin n) (timeBetweenTicks : Nat) :
    Option (SchedState n) := do
  let id := s.currentTaskId cpu
  let task ← s.tasks.getTaskAssert id
  let task := { task with remainingSlice := task.remainingSlice - timeBetweenTicks }
  some { s with tasks := s.tasks.setTask id task }

end SchedState

/-- One atomic step of one CPU. -/
inductive SchedStep {n : Nat} : SchedState n → SchedState n → Prop
  | newTaskTasks {s s' : SchedState n} {id : TaskId} (h : s.newTaskTasks = some (id, s')) :
      SchedStep s s'
  | newTaskQueue {s : SchedState n} {id : TaskId} (h : id ∈ s.creating) :
      SchedStep s (s.newTaskQueue id)
  /-- `run_scheduler` once its check chose to preempt. The check reads only atomics, outside
  the `RUN_QUEUE` lock, so any earlier state may have passed it. -/
  | taskSwapParameters {s s' : SchedState n} {switched : Bool} (cpu : Fin n)
      (h : s.taskSwapParameters cpu = some (switched, s')) : SchedStep s s'
  | prepareToSleep {s s' : SchedState n} {id : TaskId} (cpu : Fin n)
      (h : s.prepareToSleep cpu = some (id, s')) : SchedStep s s'
  | awakenTask {s s' : SchedState n} (id : TaskId) (h : s.awakenTask id = some s') :
      SchedStep s s'
  | killCurrentTask {s s' : SchedState n} (cpu : Fin n) (h : s.killCurrentTask cpu = some s') :
      SchedStep s s'
  | schedulerTick {s s' : SchedState n} (cpu : Fin n) (ms : Nat)
      (h : s.schedulerTick cpu ms = some s') : SchedStep s s'

/-- After `per_cpu_init` on every CPU: `TASKS` holds the idle tasks, one per CPU, each CPU runs
its own, and the run queue is empty. -/
structure SchedInit {n : Nat} (s : SchedState n) : Prop where
  idleInjective : Function.Injective s.idleTaskId
  current : s.currentTaskId = s.idleTaskId
  tasks : ∀ id, (s.tasks.tasks id).isSome ↔ ∃ c, s.idleTaskId c = id
  pending : s.runQueue.pendingTasks = []
  creating : s.creating = []

end RustOs.Sched
