import RustOs.Sched.Run

/-!
# Which steps put a task to sleep

A task is `Sleeping` from its own `prepare_to_sleep` until an `awaken_task` of its id. The
scheduler's steps move tasks between the run queue and the CPUs, refill time slices and delete
killed tasks, and leave whether any task is sleeping as it was; `run_scheduler` on one CPU
leaves the task of every other CPU where it is.
-/

namespace RustOs.Sched
open RunQueue

namespace Tasks

def isSleeping (tasks : Tasks) (id : TaskId) : Bool :=
  match tasks.tasks id with
  | some task => task.desiredState = .sleeping
  | none => false

theorem isSleeping_setTask (tasks : Tasks) (id : TaskId) (task : Task) (x : TaskId) :
    (tasks.setTask id task).isSleeping x =
      if x = id then decide (task.desiredState = .sleeping) else tasks.isSleeping x := by
  by_cases h : x = id
  · subst h
    simp [isSleeping, setTask]
  · simp [isSleeping, setTask, h]

theorem isSleeping_setSlice {tasks : Tasks} {id : TaskId} {task : Task}
    (h : tasks.tasks id = some task) (slice : Nat) (x : TaskId) :
    (tasks.setTask id { task with remainingSlice := slice }).isSleeping x = tasks.isSleeping x := by
  rw [isSleeping_setTask]
  split
  · rename_i hx
    subst hx
    simp [isSleeping, h]
  · rfl

end Tasks

theorem removeKilledLoop_isSleeping :
    ∀ (ids : List TaskId) (tasks : Tasks) (remaining : List TaskId) {tasks' : Tasks}
      {remaining' : List TaskId}, removeKilledLoop tasks ids remaining = some (tasks', remaining') →
      ∀ x, tasks'.isSleeping x = tasks.isSleeping x
  | [], tasks, remaining, _, _, h, x => by
      simp only [removeKilledLoop, Option.some.injEq, Prod.mk.injEq] at h
      rw [h.1]
  | id :: ids, tasks, remaining, _, _, h, x => by
      simp only [removeKilledLoop, Tasks.getTaskAssert, Tasks.getTask, Option.bind_eq_bind,
        Option.bind_eq_some_iff] at h
      obtain ⟨task, htask, h⟩ := h
      split at h
      · rename_i hkilled
        simp only [Tasks.deleteTask, htask, Option.isSome_some, if_true, Option.bind_some] at h
        rw [removeKilledLoop_isSleeping ids _ remaining h x]
        -- the deleted task was killed, so it was not sleeping either
        by_cases hx : x = id
        · subst hx
          simp [Tasks.isSleeping, htask, hkilled]
        · simp [Tasks.isSleeping, Function.update_of_ne hx]
      · exact removeKilledLoop_isSleeping ids tasks _ h x

section Steps

variable {n : Nat} {s s' : SchedState n}

theorem swapTo_isSleeping {cpu : Fin n} {prevTaskId nextTaskId : TaskId} {b : Bool}
    (h : s.swapTo cpu prevTaskId nextTaskId = some (b, s')) (x : TaskId) :
    s'.tasks.isSleeping x = s.tasks.isSleeping x := by
  unfold SchedState.swapTo at h
  simp only [Tasks.getTaskAssert, Tasks.getTask, Option.bind_eq_bind, Option.bind_eq_some_iff] at h
  obtain ⟨-, -, nextTask, hnext, h⟩ := h
  -- the queue update leaves `tasks`, so the next task is looked up in `s.tasks`
  have hnext' : s.tasks.tasks nextTaskId = some nextTask := by
    split at hnext <;> exact hnext
  split at h <;>
  · simp only [Option.some.injEq, Prod.mk.injEq] at h
    obtain ⟨-, rfl⟩ := h
    split <;> exact Tasks.isSleeping_setSlice hnext' _ x

theorem taskSwapParameters_isSleeping {cpu : Fin n} {b : Bool}
    (h : s.taskSwapParameters cpu = some (b, s')) (x : TaskId) :
    s'.tasks.isSleeping x = s.tasks.isSleeping x := by
  unfold SchedState.taskSwapParameters at h
  simp only [RunQueue.removeKilledPendingTasks, RunQueue.popNextReadyPendingTask,
    Option.bind_eq_bind, Option.bind_eq_some_iff] at h
  obtain ⟨⟨tasks, runQueue⟩, ⟨⟨tasks', remaining⟩, hloop, hrk⟩, prevTask, -, ⟨next, rq⟩,
    ⟨⟨next', pending⟩, -, hpop⟩, h⟩ := h
  simp only [Option.some.injEq, Prod.mk.injEq] at hrk hpop
  obtain ⟨rfl, rfl⟩ := hrk
  obtain ⟨rfl, rfl⟩ := hpop
  have htasks := removeKilledLoop_isSleeping _ _ _ hloop x
  -- either the CPU keeps its task, or `swap_to` puts another one on it
  cases next' with
  | some id => rw [swapTo_isSleeping h x, ← htasks]
  | none =>
      dsimp only at h
      split at h
      · simp only [Option.some.injEq, Prod.mk.injEq] at h
        obtain ⟨-, rfl⟩ := h
        exact htasks
      · rw [swapTo_isSleeping h x, ← htasks]

theorem runScheduler_isSleeping {cpu : Fin n} {preemptCount : Int}
    (h : s.runScheduler cpu preemptCount = some s') (x : TaskId) :
    s'.tasks.isSleeping x = s.tasks.isSleeping x := by
  obtain rfl | ⟨b, hswap⟩ := runScheduler_cases h
  · rfl
  · exact taskSwapParameters_isSleeping hswap x

theorem schedulerTick_isSleeping {cpu : Fin n} {ms : Nat} (h : s.schedulerTick cpu ms = some s')
    (x : TaskId) : s'.tasks.isSleeping x = s.tasks.isSleeping x := by
  obtain ⟨task, htask, rfl⟩ := schedulerTick_eq_some h
  exact Tasks.isSleeping_setSlice htask _ x

theorem prepareToSleep_isSleeping {cpu : Fin n} {id : TaskId}
    (h : s.prepareToSleep cpu = some (id, s')) (x : TaskId) :
    id = s.currentTaskId cpu ∧
      s'.tasks.isSleeping x = if x = id then true else s.tasks.isSleeping x := by
  obtain ⟨task, -, rfl, rfl⟩ := setCurrentState_eq_some h
  refine ⟨rfl, ?_⟩
  rw [Tasks.isSleeping_setTask]
  simp

theorem awakenTask_isSleeping {id : TaskId} (h : s.awakenTask id = some s') (x : TaskId) :
    s'.tasks.isSleeping x = if x = id then false else s.tasks.isSleeping x := by
  obtain ⟨task, -, rfl⟩ := awakenTask_eq_some h
  rw [Tasks.isSleeping_setTask]
  simp

/-! ### The tasks of the other CPUs -/

theorem swapTo_currentTaskId {cpu : Fin n} {prevTaskId nextTaskId : TaskId} {b : Bool}
    (h : s.swapTo cpu prevTaskId nextTaskId = some (b, s')) {c : Fin n} (hc : c ≠ cpu) :
    s'.currentTaskId c = s.currentTaskId c := by
  unfold SchedState.swapTo at h
  simp only [Tasks.getTaskAssert, Tasks.getTask, Option.bind_eq_bind, Option.bind_eq_some_iff] at h
  obtain ⟨-, -, nextTask, -, h⟩ := h
  split at h <;>
  · simp only [Option.some.injEq, Prod.mk.injEq] at h
    obtain ⟨-, rfl⟩ := h
    split <;> exact Function.update_of_ne hc _ _

theorem taskSwapParameters_currentTaskId {cpu : Fin n} {b : Bool}
    (h : s.taskSwapParameters cpu = some (b, s')) {c : Fin n} (hc : c ≠ cpu) :
    s'.currentTaskId c = s.currentTaskId c := by
  unfold SchedState.taskSwapParameters at h
  simp only [RunQueue.removeKilledPendingTasks, RunQueue.popNextReadyPendingTask,
    Option.bind_eq_bind, Option.bind_eq_some_iff] at h
  obtain ⟨⟨tasks, runQueue⟩, -, prevTask, -, ⟨_ | id, rq⟩, -, h⟩ := h
  · -- no ready task: the CPU keeps its task or takes its idle task
    dsimp only at h
    split at h
    · simp only [Option.some.injEq, Prod.mk.injEq] at h
      obtain ⟨-, rfl⟩ := h
      rfl
    · exact swapTo_currentTaskId h hc
  · exact swapTo_currentTaskId h hc

theorem runScheduler_currentTaskId {cpu : Fin n} {preemptCount : Int}
    (h : s.runScheduler cpu preemptCount = some s') {c : Fin n} (hc : c ≠ cpu) :
    s'.currentTaskId c = s.currentTaskId c := by
  obtain rfl | ⟨b, hswap⟩ := runScheduler_cases h
  · rfl
  · exact taskSwapParameters_currentTaskId hswap hc

theorem prepareToSleep_currentTaskId {cpu : Fin n} {id : TaskId}
    (h : s.prepareToSleep cpu = some (id, s')) : s'.currentTaskId = s.currentTaskId := by
  obtain ⟨-, -, -, rfl⟩ := setCurrentState_eq_some h
  rfl

theorem awakenTask_currentTaskId {id : TaskId} (h : s.awakenTask id = some s') :
    s'.currentTaskId = s.currentTaskId := by
  obtain ⟨-, -, rfl⟩ := awakenTask_eq_some h
  rfl

theorem schedulerTick_currentTaskId {cpu : Fin n} {ms : Nat}
    (h : s.schedulerTick cpu ms = some s') : s'.currentTaskId = s.currentTaskId := by
  obtain ⟨-, -, rfl⟩ := schedulerTick_eq_some h
  rfl

end Steps

end RustOs.Sched
