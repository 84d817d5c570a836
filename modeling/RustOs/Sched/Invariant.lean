import RustOs.Sched.Queue
import RustOs.Lib.Reach
import Mathlib.Data.List.FinRange

/-!
# Every task is in one place

`SchedInv` is what every reachable state keeps. Read the run queue, the current tasks of all
CPUs and the ids of the `new_task` calls between their two critical sections as one multiset:
each task in `TASKS` that is no CPU's idle task occurs in it exactly once, every id in it is in
`TASKS`, and the idle tasks are in `TASKS`, never queued, and each runs on its own CPU only.
This module reads the invariant and shows that the steps which move no task, the two halves
of `new_task` and `remove_killed_pending_tasks` keep it; `Sched.Run` does the rest of
`task_swap_parameters`.
-/

namespace RustOs.Sched
open RunQueue

def countCpus {n : Nat} (current : Fin n → TaskId) (id : TaskId) : Nat :=
  (List.finRange n).countP fun c => current c = id

namespace SchedState

variable {n : Nat}

def occurrences (s : SchedState n) (id : TaskId) : Nat :=
  s.runQueue.pendingTasks.count id + countCpus s.currentTaskId id + s.creating.count id

end SchedState

structure SchedInv {n : Nat} (s : SchedState n) : Prop where
  idleInjective : Function.Injective s.idleTaskId
  idlePresent : ∀ c, (s.tasks.tasks (s.idleTaskId c)).isSome
  idleNotPending : ∀ c, s.idleTaskId c ∉ s.runQueue.pendingTasks
  idleNotCreating : ∀ c, s.idleTaskId c ∉ s.creating
  idleCurrent : ∀ c c', s.currentTaskId c' = s.idleTaskId c → c' = c
  once : ∀ id, (s.tasks.tasks id).isSome → (∀ c, s.idleTaskId c ≠ id) → s.occurrences id = 1
  present : ∀ id, 0 < s.occurrences id → (s.tasks.tasks id).isSome

/-! ## Counting CPUs -/

section Count

variable {n : Nat}

theorem countP_update {l : List (Fin n)} (hl : l.Nodup) {cpu : Fin n} (hc : cpu ∈ l)
    (f : Fin n → TaskId) (v id : TaskId) :
    l.countP (fun c => Function.update f cpu v c = id) + (if f cpu = id then 1 else 0) =
      l.countP (fun c => f c = id) + (if v = id then 1 else 0) := by
  induction l with
  | nil => cases hc
  | cons c l ih =>
      obtain ⟨hcl, hl'⟩ := List.nodup_cons.mp hl
      by_cases hcpu : c = cpu
      · -- the updated CPU: the rest of the list does not hold it
        subst hcpu
        have hrest : l.countP (fun c' => Function.update f c v c' = id) =
            l.countP (fun c' => f c' = id) := by
          apply List.countP_congr
          intro c' hc'
          have hne : c' ≠ c := fun h => hcl (h ▸ hc')
          simp only [Function.update_of_ne hne]
        simp only [List.countP_cons, Function.update_self, hrest, decide_eq_true_eq]
        omega
      · have hc' : cpu ∈ l := by
          rcases List.mem_cons.mp hc with h | h
          · exact absurd h.symm hcpu
          · exact h
        have := ih hl' hc'
        rw [List.countP_cons, List.countP_cons, Function.update_of_ne hcpu]
        omega

theorem countCpus_update (f : Fin n → TaskId) (cpu : Fin n) (v id : TaskId) :
    countCpus (Function.update f cpu v) id + (if f cpu = id then 1 else 0) =
      countCpus f id + (if v = id then 1 else 0) :=
  countP_update (List.nodup_finRange n) (List.mem_finRange cpu) f v id

theorem countCpus_pos (f : Fin n → TaskId) (cpu : Fin n) : 0 < countCpus f (f cpu) :=
  List.countP_pos_iff.mpr ⟨cpu, List.mem_finRange cpu, by simp⟩

end Count

/-! ## Reading the invariant -/

section Read

variable {n : Nat} {s : SchedState n} (hinv : SchedInv s)
include hinv

theorem SchedInv.current_present (cpu : Fin n) : (s.tasks.tasks (s.currentTaskId cpu)).isSome := by
  apply hinv.present
  have := countCpus_pos s.currentTaskId cpu
  unfold SchedState.occurrences
  omega

theorem SchedInv.pending_present {id : TaskId} (h : id ∈ s.runQueue.pendingTasks) :
    (s.tasks.tasks id).isSome := by
  apply hinv.present
  have := List.count_pos_iff.mpr h
  unfold SchedState.occurrences
  omega

theorem SchedInv.occurrences_le_one (id : TaskId) : s.occurrences id ≤ 1 := by
  by_cases hidle : ∃ c, s.idleTaskId c = id
  · -- an idle task is at most current, and on its own CPU only
    obtain ⟨c, rfl⟩ := hidle
    have hpend := List.count_eq_zero_of_not_mem (hinv.idleNotPending c)
    have hcreat := List.count_eq_zero_of_not_mem (hinv.idleNotCreating c)
    have hcpus : countCpus s.currentTaskId (s.idleTaskId c) ≤ (List.finRange n).count c := by
      unfold countCpus
      rw [List.count_eq_countP]
      apply List.countP_mono_left
      intro c' _ hc'
      have := hinv.idleCurrent c c' (by simpa using hc')
      simp [this]
    have hone := List.count_eq_one_of_mem (List.nodup_finRange n) (List.mem_finRange c)
    unfold SchedState.occurrences
    omega
  · by_cases hp : (s.tasks.tasks id).isSome
    · exact (hinv.once id hp fun c h => hidle ⟨c, h⟩).le
    · by_contra hlt
      exact hp (hinv.present id (by omega))

theorem SchedInv.pending_nodup : s.runQueue.pendingTasks.Nodup := by
  rw [List.nodup_iff_count_le_one]
  intro id
  have := hinv.occurrences_le_one id
  unfold SchedState.occurrences at this
  omega

theorem SchedInv.pending_not_current {id : TaskId} (h : id ∈ s.runQueue.pendingTasks) (c : Fin n) :
    s.currentTaskId c ≠ id := by
  rintro rfl
  have h1 := List.count_pos_iff.mpr h
  have h2 := countCpus_pos s.currentTaskId c
  have := hinv.occurrences_le_one (s.currentTaskId c)
  unfold SchedState.occurrences at this
  omega

end Read

/-! ## Steps that move no task -/

section Frame

variable {n : Nat}

theorem Tasks.setTask_isSome {tasks : Tasks} {id : TaskId} (h : (tasks.tasks id).isSome)
    (task : Task) (id' : TaskId) :
    ((tasks.setTask id task).tasks id').isSome = (tasks.tasks id').isSome := by
  by_cases hid : id' = id
  · subst hid
    simp [Tasks.setTask, h]
  · simp [Tasks.setTask, Function.update_of_ne hid]

theorem SchedInv.of_present {s s' : SchedState n} (hinv : SchedInv s)
    (htasks : ∀ id, (s'.tasks.tasks id).isSome = (s.tasks.tasks id).isSome)
    (hqueue : s'.runQueue = s.runQueue) (hcurrent : s'.currentTaskId = s.currentTaskId)
    (hidle : s'.idleTaskId = s.idleTaskId) (hcreating : s'.creating = s.creating) :
    SchedInv s' := by
  have hocc : ∀ id, s'.occurrences id = s.occurrences id := by
    intro id
    simp only [SchedState.occurrences, hqueue, hcurrent, hcreating]
  refine ⟨?_, ?_, ?_, ?_, ?_, ?_, ?_⟩
  · rw [hidle]
    exact hinv.idleInjective
  · intro c
    rw [hidle, htasks]
    exact hinv.idlePresent c
  · intro c
    rw [hidle, hqueue]
    exact hinv.idleNotPending c
  · intro c
    rw [hidle, hcreating]
    exact hinv.idleNotCreating c
  · intro c c'
    rw [hidle, hcurrent]
    exact hinv.idleCurrent c c'
  · intro id hp hnot
    rw [hocc]
    rw [htasks] at hp
    exact hinv.once id hp (by rwa [hidle] at hnot)
  · intro id hpos
    rw [htasks]
    exact hinv.present id (by rwa [hocc] at hpos)

theorem setCurrentState_eq_some {s s' : SchedState n} {cpu : Fin n} {state : DesiredTaskState}
    {id : TaskId} (h : s.setCurrentState cpu state = some (id, s')) :
    ∃ task, s.tasks.tasks (s.currentTaskId cpu) = some task ∧ id = s.currentTaskId cpu ∧
      s' = { s with tasks := s.tasks.setTask id { task with desiredState := state } } := by
  unfold SchedState.setCurrentState at h
  simp only [Tasks.getTaskAssert, Tasks.getTask, Option.bind_eq_bind, Option.bind_eq_some_iff,
    Option.some.injEq, Prod.mk.injEq] at h
  obtain ⟨task, htask, rfl, rfl⟩ := h
  exact ⟨task, htask, rfl, rfl⟩

theorem awakenTask_eq_some {s s' : SchedState n} {id : TaskId} (h : s.awakenTask id = some s') :
    ∃ task, s.tasks.tasks id = some task ∧
      s' = { s with tasks := s.tasks.setTask id { task with desiredState := .readyToRun } } := by
  unfold SchedState.awakenTask at h
  simp only [Tasks.getTaskAssert, Tasks.getTask, Option.bind_eq_bind, Option.bind_eq_some_iff,
    Option.some.injEq] at h
  obtain ⟨task, htask, rfl⟩ := h
  exact ⟨task, htask, rfl⟩

theorem schedulerTick_eq_some {s s' : SchedState n} {cpu : Fin n} {ms : Nat}
    (h : s.schedulerTick cpu ms = some s') :
    ∃ task, s.tasks.tasks (s.currentTaskId cpu) = some task ∧
      s' = { s with
        tasks := s.tasks.setTask (s.currentTaskId cpu)
          { task with remainingSlice := task.remainingSlice - ms } } := by
  unfold SchedState.schedulerTick at h
  simp only [Tasks.getTaskAssert, Tasks.getTask, Option.bind_eq_bind, Option.bind_eq_some_iff,
    Option.some.injEq] at h
  obtain ⟨task, htask, rfl⟩ := h
  exact ⟨task, htask, rfl⟩

theorem SchedInv.setCurrentState {s s' : SchedState n} (hinv : SchedInv s) {cpu : Fin n}
    {state : DesiredTaskState} {id : TaskId} (h : s.setCurrentState cpu state = some (id, s')) :
    SchedInv s' := by
  obtain ⟨task, -, rfl, rfl⟩ := setCurrentState_eq_some h
  exact hinv.of_present (Tasks.setTask_isSome (hinv.current_present cpu) _) rfl rfl rfl rfl

theorem SchedInv.awakenTask {s s' : SchedState n} (hinv : SchedInv s) {id : TaskId}
    (h : s.awakenTask id = some s') : SchedInv s' := by
  obtain ⟨task, htask, rfl⟩ := awakenTask_eq_some h
  exact hinv.of_present (Tasks.setTask_isSome (by simp [htask]) _) rfl rfl rfl rfl

theorem SchedInv.schedulerTick {s s' : SchedState n} (hinv : SchedInv s) {cpu : Fin n}
    {ms : Nat} (h : s.schedulerTick cpu ms = some s') : SchedInv s' := by
  obtain ⟨task, -, rfl⟩ := schedulerTick_eq_some h
  exact hinv.of_present (Tasks.setTask_isSome (hinv.current_present cpu) _) rfl rfl rfl rfl

end Frame

/-! ## `new_task` -/

section NewTask

variable {n : Nat} {s : SchedState n} (hinv : SchedInv s)
include hinv

theorem SchedInv.newTaskTasks {s' : SchedState n} {id : TaskId}
    (h : s.newTaskTasks = some (id, s')) : SchedInv s' := by
  simp only [SchedState.newTaskTasks, Option.bind_eq_bind, Option.bind_eq_some_iff,
    Option.some.injEq, Prod.mk.injEq] at h
  obtain ⟨⟨_, tasks⟩, made, rfl, rfl⟩ := h
  obtain ⟨rfl, -, free, rfl⟩ := Tasks.newTask_eq_some.mp made
  have hfresh : ¬ (s.tasks.tasks s.tasks.nextTaskId).isSome := by simp [free]
  -- the new id was nowhere, and now it is being created
  have hzero : s.occurrences s.tasks.nextTaskId = 0 := by
    by_contra hne
    exact hfresh (hinv.present _ (Nat.pos_of_ne_zero hne))
  have hocc : ∀ id', SchedState.occurrences { s with
      tasks := ⟨⟨s.tasks.nextTaskId.val + 1⟩,
        Function.update s.tasks.tasks s.tasks.nextTaskId (some Task.new)⟩,
      creating := s.tasks.nextTaskId :: s.creating } id' =
      s.occurrences id' + (if id' = s.tasks.nextTaskId then 1 else 0) := by
    intro id'
    by_cases hid : id' = s.tasks.nextTaskId
    · subst hid
      simp only [SchedState.occurrences, List.count_cons_self, ↓reduceIte]
      omega
    · simp only [SchedState.occurrences, List.count_cons_of_ne (Ne.symm hid), if_neg hid]
      omega
  have hpresent : ∀ id', (Function.update s.tasks.tasks s.tasks.nextTaskId (some Task.new)
      id').isSome = ((s.tasks.tasks id').isSome || decide (id' = s.tasks.nextTaskId)) := by
    intro id'
    by_cases hid : id' = s.tasks.nextTaskId
    · subst hid
      simp
    · simp [hid]
  have hidle : ∀ c, s.idleTaskId c ≠ s.tasks.nextTaskId := fun c h =>
    hfresh (h ▸ hinv.idlePresent c)
  refine ⟨hinv.idleInjective, fun c => ?_, hinv.idleNotPending, fun c => ?_, hinv.idleCurrent,
    fun id' hp hnot => ?_, fun id' hpos => ?_⟩
  · simp only [hpresent, hinv.idlePresent c, Bool.true_or]
  · simp only [List.mem_cons, not_or]
    exact ⟨hidle c, hinv.idleNotCreating c⟩
  · rw [hocc]
    simp only [hpresent, Bool.or_eq_true, decide_eq_true_eq] at hp
    by_cases hid : id' = s.tasks.nextTaskId
    · subst hid
      rw [hzero, if_pos rfl]
    · rw [if_neg hid, hinv.once id' (hp.resolve_right hid) hnot]
  · rw [hocc] at hpos
    simp only [hpresent, Bool.or_eq_true, decide_eq_true_eq]
    by_cases hid : id' = s.tasks.nextTaskId
    · exact .inr hid
    · rw [if_neg hid] at hpos
      exact .inl (hinv.present id' (by omega))

theorem SchedInv.newTaskQueue {id : TaskId} (h : id ∈ s.creating) :
    SchedInv (s.newTaskQueue id) := by
  -- one occurrence moves from `creating` to the queue
  have hocc : ∀ id', (s.newTaskQueue id).occurrences id' = s.occurrences id' := by
    intro id'
    by_cases hid : id' = id
    · subst hid
      have hpos := List.count_pos_iff.mpr h
      simp only [SchedState.occurrences, SchedState.newTaskQueue, List.count_append,
        List.count_singleton_self, List.count_erase_self]
      omega
    · simp only [SchedState.occurrences, SchedState.newTaskQueue, List.count_append,
        List.count_erase_of_ne hid, List.count_eq_zero_of_not_mem (a := id') (l := [id])
          (by simpa using hid), Nat.add_zero]
  have hidle : ∀ c, s.idleTaskId c ≠ id := fun c hc => hinv.idleNotCreating c (hc ▸ h)
  refine ⟨hinv.idleInjective, hinv.idlePresent, fun c => ?_, fun c hc => ?_, hinv.idleCurrent,
    fun id' hp hnot => ?_, fun id' hpos => ?_⟩
  · simp only [SchedState.newTaskQueue, List.mem_append, List.mem_singleton, not_or]
    exact ⟨hinv.idleNotPending c, hidle c⟩
  · exact hinv.idleNotCreating c (List.mem_of_mem_erase hc)
  · rw [hocc]
    exact hinv.once id' hp hnot
  · rw [hocc] at hpos
    exact hinv.present id' hpos

end NewTask

/-! ## `remove_killed_pending_tasks` -/

section RemoveKilled

variable {n : Nat}

/-- The state `remove_killed_pending_tasks` leaves. -/
def SchedState.afterRemoveKilled (s : SchedState n) : SchedState n :=
  { s with
    tasks := s.tasks.deleteKilled s.runQueue.pendingTasks
    runQueue := ⟨s.runQueue.pendingTasks.filter fun id => !s.tasks.isKilled id⟩ }

theorem afterRemoveKilled_tasks (s : SchedState n) (id : TaskId) :
    s.afterRemoveKilled.tasks.tasks id =
      if id ∈ s.runQueue.pendingTasks ∧ s.tasks.isKilled id = true then none
      else s.tasks.tasks id := rfl

@[simp] theorem SchedState.afterRemoveKilled_currentTaskId (s : SchedState n) :
    s.afterRemoveKilled.currentTaskId = s.currentTaskId := rfl

@[simp] theorem SchedState.afterRemoveKilled_idleTaskId (s : SchedState n) :
    s.afterRemoveKilled.idleTaskId = s.idleTaskId := rfl

theorem afterRemoveKilled_occurrences (s : SchedState n) (id : TaskId) :
    s.afterRemoveKilled.occurrences id =
      if s.tasks.isKilled id then s.occurrences id - s.runQueue.pendingTasks.count id
      else s.occurrences id := by
  simp only [SchedState.occurrences, SchedState.afterRemoveKilled, count_filter_eq]
  cases s.tasks.isKilled id with
  | false => simp
  | true =>
      simp only [Bool.not_true, Bool.false_eq_true, if_false, if_true]
      omega

variable {s : SchedState n} (hinv : SchedInv s)
include hinv

theorem SchedInv.removeKilledPendingTasks_eq :
    s.runQueue.removeKilledPendingTasks s.tasks =
      some (s.afterRemoveKilled.tasks, s.afterRemoveKilled.runQueue) := by
  unfold RunQueue.removeKilledPendingTasks
  rw [removeKilledLoop_eq _ _ _ hinv.pending_nodup (fun id h => hinv.pending_present h)]
  rfl

theorem SchedInv.afterRemoveKilled : SchedInv s.afterRemoveKilled := by
  have htasks := afterRemoveKilled_tasks s
  refine ⟨hinv.idleInjective, fun c => ?_, fun c hc => ?_, hinv.idleNotCreating, hinv.idleCurrent,
    fun id hp hnot => ?_, fun id hpos => ?_⟩
  · rw [htasks, if_neg (fun h => hinv.idleNotPending c h.1)]
    exact hinv.idlePresent c
  · exact hinv.idleNotPending c (List.mem_filter.mp hc).1
  · -- a task that survives is not both pending and killed
    rw [htasks] at hp
    by_cases hdel : id ∈ s.runQueue.pendingTasks ∧ s.tasks.isKilled id = true
    · rw [if_pos hdel] at hp
      cases hp
    · rw [if_neg hdel] at hp
      have hone := hinv.once id hp hnot
      rw [afterRemoveKilled_occurrences s]
      split
      · have : s.runQueue.pendingTasks.count id = 0 :=
          List.count_eq_zero_of_not_mem fun hm => hdel ⟨hm, by assumption⟩
        omega
      · exact hone
  · rw [htasks]
    rw [afterRemoveKilled_occurrences s] at hpos
    by_cases hdel : id ∈ s.runQueue.pendingTasks ∧ s.tasks.isKilled id = true
    · -- a deleted task was only pending, so nothing is left of it
      rw [if_pos hdel.2] at hpos
      have hle := hinv.occurrences_le_one id
      have hcount := List.count_pos_iff.mpr hdel.1
      omega
    · rw [if_neg hdel]
      apply hinv.present
      by_cases hk : s.tasks.isKilled id = true
      · rw [if_pos hk] at hpos
        omega
      · rw [if_neg hk] at hpos
        exact hpos

end RemoveKilled

end RustOs.Sched
