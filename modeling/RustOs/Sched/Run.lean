import RustOs.Sched.Invariant

/-!
# The scheduler keeps every task in one place

`task_swap_parameters` takes the first ready pending task, or the CPU's idle task, puts it on
the CPU and sends the task it replaces to the back of the queue, the idle task excepted. Under
`SchedInv` it never panics and keeps `SchedInv`, and so does every other step: every state
reachable from `per_cpu_init` on all CPUs satisfies it. Each task that is in `TASKS` and is no
idle task is then pending once, current on one CPU, or between the two critical sections of the
`new_task` call that made it; it is not "pending or current" alone, since a state inside that
call is reachable as well.
-/

namespace RustOs.Sched
open RunQueue

variable {n : Nat}

/-! ## Putting the next task on a CPU -/

section Swap

theorem swapTo_eq {s : SchedState n} {cpu : Fin n} {prevTaskId nextTaskId : TaskId}
    (hprev : (s.tasks.tasks prevTaskId).isSome) {task : Task}
    (hnext : s.tasks.tasks nextTaskId = some task) :
    s.swapTo cpu prevTaskId nextTaskId = some (!decide (prevTaskId = nextTaskId),
      { s with
        currentTaskId := Function.update s.currentTaskId cpu nextTaskId
        runQueue := ⟨s.runQueue.pendingTasks ++
          if prevTaskId = s.idleTaskId cpu then [] else [prevTaskId]⟩
        tasks := s.tasks.setTask nextTaskId { task with remainingSlice := defaultTimeSlice } }) := by
  unfold SchedState.swapTo
  by_cases heq : prevTaskId = nextTaskId
  · subst heq
    by_cases hidle : prevTaskId = s.idleTaskId cpu
    · subst hidle
      simp [Tasks.getTaskAssert, Tasks.getTask, hnext]
    · simp [hidle, Tasks.getTaskAssert, Tasks.getTask, hnext]
  · obtain ⟨prevTask, hprevTask⟩ := Option.isSome_iff_exists.mp hprev
    by_cases hidle : prevTaskId = s.idleTaskId cpu
    · subst hidle
      simp [heq, Tasks.getTaskAssert, Tasks.getTask, hprevTask, hnext]
    · simp [hidle, heq, Tasks.getTaskAssert, Tasks.getTask, hprevTask, hnext]

theorem count_requeue (l : List TaskId) (prev idle id : TaskId) :
    (l ++ if prev = idle then [] else [prev]).count id =
      l.count id + if prev = idle then 0 else if prev = id then 1 else 0 := by
  by_cases h1 : prev = idle
  · simp [h1]
  · by_cases h2 : prev = id
    · subst h2
      simp [h1]
    · simp [h1, h2]

theorem count_of_pop {l pending pre post : List TaskId} {x : TaskId}
    (hl : l = pre ++ x :: post) (hpending : pending = post ++ ([] ++ pre)) (id : TaskId) :
    l.count id = pending.count id + if x = id then 1 else 0 := by
  subst hl hpending
  simp only [List.count_append, List.count_cons, List.nil_append, beq_iff_eq]
  omega
theorem SchedInv.swap {s s' : SchedState n} (hinv : SchedInv s) {cpu : Fin n} (queued : Bool)
    (next : TaskId)
    (hnext : if queued then next ∈ s.runQueue.pendingTasks
      else next = s.idleTaskId cpu ∧ s.currentTaskId cpu ≠ s.idleTaskId cpu)
    (htasks : ∀ id, (s'.tasks.tasks id).isSome = (s.tasks.tasks id).isSome)
    (hcurrent : s'.currentTaskId = Function.update s.currentTaskId cpu next)
    (hqueue : ∀ id, s'.runQueue.pendingTasks.count id +
        (if queued then (if next = id then 1 else 0) else 0) =
      s.runQueue.pendingTasks.count id +
        (if s.currentTaskId cpu = s.idleTaskId cpu then 0
          else if s.currentTaskId cpu = id then 1 else 0))
    (hidle : s'.idleTaskId = s.idleTaskId) (hcreating : s'.creating = s.creating) :
    SchedInv s' := by
  -- the multiset gains `next` and loses the replaced task, which the queue takes back
  have hocc : ∀ id, s'.occurrences id + (if queued then (if next = id then 1 else 0) else 0) +
      (if s.currentTaskId cpu = s.idleTaskId cpu then
        (if s.currentTaskId cpu = id then 1 else 0) else 0) =
      s.occurrences id + (if next = id then 1 else 0) := by
    intro id
    have h1 := countCpus_update s.currentTaskId cpu next id
    have h2 := hqueue id
    unfold SchedState.occurrences
    rw [hcurrent, hcreating]
    split_ifs at h1 h2 ⊢ <;> omega
  have hnextPresent : (s.tasks.tasks next).isSome := by
    cases queued with
    | true => exact hinv.pending_present (by simpa using hnext)
    | false =>
        simp only [Bool.false_eq_true, if_false] at hnext
        rw [hnext.1]
        exact hinv.idlePresent cpu
  refine ⟨?_, fun c => ?_, fun c hc => ?_, fun c => ?_, fun c c' h => ?_, fun id hp hnot => ?_,
    fun id hpos => ?_⟩
  · rw [hidle]
    exact hinv.idleInjective
  · rw [hidle, htasks]
    exact hinv.idlePresent c
  · -- the replaced task is `c`'s idle task only if it is `cpu`'s
    rw [hidle] at hc
    have hq := hqueue (s.idleTaskId c)
    have hz := List.count_eq_zero_of_not_mem (hinv.idleNotPending c)
    have hpos := List.count_pos_iff.mpr hc
    have hcpu : s.currentTaskId cpu = s.idleTaskId c → s.currentTaskId cpu = s.idleTaskId cpu :=
      fun h => by
        have hc := hinv.idleCurrent c cpu h
        rw [← hc] at h
        exact h
    by_cases h1 : s.currentTaskId cpu = s.idleTaskId cpu
    · rw [if_pos h1] at hq
      omega
    · rw [if_neg h1, if_neg (fun h => h1 (hcpu h))] at hq
      omega
  · rw [hidle, hcreating]
    exact hinv.idleNotCreating c
  · rw [hcurrent, hidle] at h
    by_cases hc' : c' = cpu
    · subst hc'
      rw [Function.update_self] at h
      cases queued with
      | true => exact absurd (h ▸ (by simpa using hnext)) (hinv.idleNotPending c)
      | false =>
          simp only [Bool.false_eq_true, if_false] at hnext
          exact hinv.idleInjective (hnext.1.symm.trans h)
    · rw [Function.update_of_ne hc'] at h
      exact hinv.idleCurrent c c' h
  · rw [htasks] at hp
    rw [hidle] at hnot
    have hone := hinv.once id hp hnot
    have h := hocc id
    -- a task that is no idle task is not the idle task leaving the CPU
    have hz : (if s.currentTaskId cpu = s.idleTaskId cpu then
        (if s.currentTaskId cpu = id then 1 else 0) else 0) = 0 := by
      split_ifs with h1 h2
      · exact absurd (h1 ▸ h2) (hnot cpu)
      · rfl
      · rfl
    rw [hz] at h
    cases queued with
    | true =>
        rw [if_pos rfl] at h
        omega
    | false =>
        simp only [Bool.false_eq_true, if_false] at hnext h
        have hne : next ≠ id := fun h' => hnot cpu (hnext.1 ▸ h')
        rw [if_neg hne] at h
        omega
  · rw [htasks]
    by_cases hold : 0 < s.occurrences id
    · exact hinv.present id hold
    · have h := hocc id
      by_cases hni : next = id
      · exact hni ▸ hnextPresent
      · rw [if_neg hni] at h
        omega

end Swap

/-! ## `task_swap_parameters` and `run_scheduler` -/

section Scheduler

variable {s : SchedState n} (hinv : SchedInv s)
include hinv

theorem SchedInv.taskSwapParameters (cpu : Fin n) :
    ∃ b s', s.taskSwapParameters cpu = some (b, s') ∧ SchedInv s' := by
  have hinv1 := hinv.afterRemoveKilled
  obtain ⟨prevTask, hprev⟩ := Option.isSome_iff_exists.mp (hinv1.current_present cpu)
  rw [SchedState.afterRemoveKilled_currentTaskId] at hprev
  obtain ⟨r, hpop, hres⟩ := popLoop_spec s.afterRemoveKilled.tasks
    s.afterRemoveKilled.runQueue.pendingTasks [] (fun id h => hinv1.pending_present h)
  unfold SchedState.taskSwapParameters
  rw [hinv.removeKilledPendingTasks_eq]
  simp only [Option.bind_eq_bind, Option.bind_some, Tasks.getTaskAssert, Tasks.getTask, hprev,
    RunQueue.popNextReadyPendingTask, hpop]
  rcases r with ⟨_ | next, pending⟩
  · -- no ready task: the queue is as `remove_killed_pending_tasks` left it
    obtain ⟨hpending, -⟩ := hres
    rw [List.nil_append] at hpending
    subst hpending
    dsimp only
    split
    · exact ⟨_, _, rfl, hinv1.of_present (fun _ => rfl) rfl rfl rfl rfl⟩
    · -- a task that is not ready leaves the CPU to the idle task
      rename_i hstay
      rw [not_or] at hstay
      obtain ⟨idleTask, hidleTask⟩ := Option.isSome_iff_exists.mp (hinv1.idlePresent cpu)
      refine ⟨_, _, swapTo_eq (by simp [hprev]) hidleTask, ?_⟩
      refine hinv1.swap false (s.idleTaskId cpu) ⟨rfl, hstay.1⟩
        (Tasks.setTask_isSome (hinv1.idlePresent cpu) _) rfl (fun id => ?_) rfl rfl
      -- the fields of the state read through `afterRemoveKilled`, instances included
      rw [SchedState.afterRemoveKilled_currentTaskId, SchedState.afterRemoveKilled_idleTaskId,
        count_requeue, if_neg Bool.false_ne_true, Nat.add_zero]
  · -- a ready task goes onto the CPU
    obtain ⟨pre, post, hl, -, -, hpending⟩ := hres
    have hmem : next ∈ s.afterRemoveKilled.runQueue.pendingTasks := by simp [hl]
    obtain ⟨task, htask⟩ := Option.isSome_iff_exists.mp (hinv1.pending_present hmem)
    dsimp only
    refine ⟨_, _, swapTo_eq (by simp [hprev]) htask, ?_⟩
    refine hinv1.swap true next hmem
      (Tasks.setTask_isSome (hinv1.pending_present hmem) _) rfl (fun id => ?_) rfl rfl
    have hcount := count_of_pop hl hpending id
    dsimp only
    rw [SchedState.afterRemoveKilled_currentTaskId, SchedState.afterRemoveKilled_idleTaskId,
      count_requeue, if_pos rfl]
    omega

theorem SchedInv.checkCurrentTaskNeedsPreemption_isSome (cpu : Fin n) (preemptCount : Int) :
    (s.checkCurrentTaskNeedsPreemption cpu preemptCount).isSome = decide (0 ≤ preemptCount) := by
  obtain ⟨task, htask⟩ := Option.isSome_iff_exists.mp (hinv.current_present cpu)
  unfold SchedState.checkCurrentTaskNeedsPreemption
  simp only [Tasks.getTaskAssert, Tasks.getTask, htask, Option.bind_eq_bind, Option.bind_some]
  by_cases hneg : preemptCount < 0
  · simp [hneg]
  · have hpos : 0 ≤ preemptCount := by omega
    simp only [if_neg hneg, hpos, decide_true]
    split_ifs <;> rfl

theorem SchedInv.runScheduler_isSome (cpu : Fin n) {preemptCount : Int}
    (hpc : 0 ≤ preemptCount) :
    ∃ s', s.runScheduler cpu preemptCount = some s' ∧ SchedInv s' := by
  obtain ⟨needs, hneeds⟩ := Option.isSome_iff_exists.mp
    (by rw [hinv.checkCurrentTaskNeedsPreemption_isSome cpu preemptCount]; simpa using hpc)
  unfold SchedState.runScheduler
  rw [hneeds, Option.bind_eq_bind, Option.bind_some]
  cases needs with
  | false => exact ⟨s, rfl, hinv⟩
  | true =>
      obtain ⟨b, s', hswap, hinv'⟩ := hinv.taskSwapParameters cpu
      exact ⟨s', by simp [hswap], hinv'⟩

end Scheduler

theorem runScheduler_cases {s s' : SchedState n} {cpu : Fin n} {preemptCount : Int}
    (h : s.runScheduler cpu preemptCount = some s') :
    s' = s ∨ ∃ b, s.taskSwapParameters cpu = some (b, s') := by
  unfold SchedState.runScheduler at h
  simp only [Option.bind_eq_bind, Option.bind_eq_some_iff] at h
  obtain ⟨needs, -, h⟩ := h
  split at h
  · exact .inl (Option.some.inj h).symm
  · obtain ⟨⟨b, s''⟩, hswap, h⟩ := Option.bind_eq_some_iff.mp h
    cases h
    exact .inr ⟨b, hswap⟩

/-! ## Every reachable state -/

section Reachable

theorem SchedInv.step {s s' : SchedState n} (hinv : SchedInv s) (h : SchedStep s s') :
    SchedInv s' := by
  cases h with
  | newTaskTasks h => exact hinv.newTaskTasks h
  | newTaskQueue h => exact hinv.newTaskQueue h
  | taskSwapParameters cpu h =>
      obtain ⟨b, s'', h', hinv'⟩ := hinv.taskSwapParameters cpu
      rw [h] at h'
      cases h'
      exact hinv'
  | prepareToSleep cpu h => exact hinv.setCurrentState h
  | awakenTask id h => exact hinv.awakenTask h
  | killCurrentTask cpu h =>
      obtain ⟨⟨id, s''⟩, h', rfl⟩ := Option.map_eq_some_iff.mp h
      exact hinv.setCurrentState h'
  | schedulerTick cpu ms h => exact hinv.schedulerTick h

theorem SchedInit.schedInv {s : SchedState n} (h : SchedInit s) : SchedInv s := by
  have hpending : ∀ id, s.runQueue.pendingTasks.count id = 0 := by simp [h.pending]
  have hcreating : ∀ id, s.creating.count id = 0 := by simp [h.creating]
  refine ⟨h.idleInjective, fun c => (h.tasks _).mpr ⟨c, rfl⟩, fun c => by simp [h.pending],
    fun c => by simp [h.creating], fun c c' hc => ?_, fun id hp hnot => ?_, fun id hpos => ?_⟩
  · rw [h.current] at hc
    exact h.idleInjective hc
  · -- every task is an idle task
    obtain ⟨c, hc⟩ := (h.tasks id).mp hp
    exact absurd hc (hnot c)
  · -- only the CPUs count, and each runs its idle task
    have hcpus : 0 < countCpus s.currentTaskId id := by
      have := hpending id
      have := hcreating id
      unfold SchedState.occurrences at hpos
      omega
    obtain ⟨c, -, hc⟩ := List.countP_pos_iff.mp hcpus
    rw [h.current] at hc
    exact (h.tasks id).mpr ⟨c, by simpa using hc⟩

theorem schedInv_reachable {s0 s : SchedState n} (hinit : SchedInit s0)
    (hreach : Relation.ReflTransGen SchedStep s0 s) : SchedInv s :=
  Reach.invariant (I := SchedInv) hinit.schedInv (fun _ _ hinv hstep => hinv.step hstep) hreach

/-- In every state reachable from `per_cpu_init` on every CPU, by any interleaving of the steps
of all CPUs: each task in `TASKS` that is no idle task is once in the run queue, the current
tasks of the CPUs and the `new_task` calls between their two critical sections; no idle task is
pending or current on another CPU; every pending and every current task is in `TASKS`;
`remove_killed_pending_tasks` deletes only killed tasks that no CPU runs; and `run_scheduler`,
`prepare_to_sleep` and `kill_current_task` never panic. -/
theorem sched_tasks_once {s0 s : SchedState n} (hinit : SchedInit s0)
    (hreach : Relation.ReflTransGen SchedStep s0 s) :
    (∀ id, (s.tasks.tasks id).isSome → (∀ c, s.idleTaskId c ≠ id) →
      s.runQueue.pendingTasks.count id + countCpus s.currentTaskId id + s.creating.count id = 1) ∧
    (∀ c, s.idleTaskId c ∉ s.runQueue.pendingTasks) ∧
    (∀ c c', s.currentTaskId c' = s.idleTaskId c → c' = c) ∧
    (∀ id ∈ s.runQueue.pendingTasks, (s.tasks.tasks id).isSome) ∧
    (∀ c, (s.tasks.tasks (s.currentTaskId c)).isSome) ∧
    (∃ tasks runQueue, s.runQueue.removeKilledPendingTasks s.tasks = some (tasks, runQueue) ∧
      ∀ id, (s.tasks.tasks id).isSome → tasks.tasks id = none →
        s.tasks.isKilled id = true ∧ ∀ c, s.currentTaskId c ≠ id) ∧
    (∀ cpu preemptCount, 0 ≤ preemptCount → (s.runScheduler cpu preemptCount).isSome) ∧
    (∀ cpu, (s.prepareToSleep cpu).isSome ∧ (s.killCurrentTask cpu).isSome) := by
  have hinv := schedInv_reachable hinit hreach
  have hsome : ∀ cpu state, (s.setCurrentState cpu state).isSome := by
    intro cpu state
    obtain ⟨task, htask⟩ := Option.isSome_iff_exists.mp (hinv.current_present cpu)
    simp [SchedState.setCurrentState, Tasks.getTaskAssert, Tasks.getTask, htask]
  refine ⟨hinv.once, hinv.idleNotPending, hinv.idleCurrent, fun id h => hinv.pending_present h,
    hinv.current_present, ⟨_, _, hinv.removeKilledPendingTasks_eq, fun id hp hdel => ?_⟩,
    fun cpu pc hpc => ?_, fun cpu => ⟨hsome cpu _, by simp [SchedState.killCurrentTask, hsome]⟩⟩
  · -- a deleted task was pending and killed, and no pending task runs
    rw [afterRemoveKilled_tasks] at hdel
    by_cases hk : id ∈ s.runQueue.pendingTasks ∧ s.tasks.isKilled id = true
    · exact ⟨hk.2, fun c => hinv.pending_not_current hk.1 c⟩
    · rw [if_neg hk] at hdel
      rw [hdel] at hp
      cases hp
  · obtain ⟨s', h, -⟩ := hinv.runScheduler_isSome cpu hpc
    simp [h]

end Reachable

/-! ## One CPU

`per_cpu_init` on one CPU leaves the idle task 1 in `TASKS`, running, and the next id 2. -/

def bootOneCpu : SchedState 1 where
  tasks := ⟨⟨2⟩, fun id => if id = ⟨1⟩ then some Task.new else none⟩
  runQueue := ⟨[]⟩
  currentTaskId := fun _ => ⟨1⟩
  idleTaskId := fun _ => ⟨1⟩
  creating := []

-- `bootOneCpu` after the first critical section of a `new_task`.
def bootOneCpuCreating : SchedState 1 :=
  { bootOneCpu with
    tasks := ⟨⟨3⟩, Function.update bootOneCpu.tasks.tasks ⟨2⟩ (some Task.new)⟩
    creating := [⟨2⟩] }

theorem newTaskTasks_bootOneCpu : bootOneCpu.newTaskTasks = some (⟨2⟩, bootOneCpuCreating) :=
  rfl

theorem schedInit_bootOneCpu : SchedInit bootOneCpu := by
  refine ⟨fun c c' _ => Subsingleton.elim c c', rfl, fun id => ?_, rfl, rfl⟩
  by_cases hid : id = ⟨1⟩
  · subst hid
    simp [bootOneCpu]
  · simp [bootOneCpu, hid, eq_comm]

/-- The first critical section of a `new_task` on one CPU: task 2 is in `TASKS` and no idle
task, but neither pending nor current. -/
theorem newTask_between_sections :
    SchedInit bootOneCpu ∧
    ∃ s, SchedStep bootOneCpu s ∧ (s.tasks.tasks ⟨2⟩).isSome ∧ (∀ c, s.idleTaskId c ≠ ⟨2⟩) ∧
      s.runQueue.pendingTasks.count ⟨2⟩ + countCpus s.currentTaskId ⟨2⟩ = 0 :=
  ⟨schedInit_bootOneCpu, bootOneCpuCreating, .newTaskTasks newTaskTasks_bootOneCpu, by decide,
    by decide, by decide⟩

/-- In that state task 2 is counted once, by its `new_task` call. -/
theorem sched_tasks_once_newTask :
    SchedInit bootOneCpu ∧
    ∃ s, Relation.ReflTransGen SchedStep bootOneCpu s ∧ s.creating = [⟨2⟩] ∧
      s.runQueue.pendingTasks.count ⟨2⟩ + countCpus s.currentTaskId ⟨2⟩ + s.creating.count ⟨2⟩ = 1 :=
  have hstep : SchedStep bootOneCpu bootOneCpuCreating := .newTaskTasks newTaskTasks_bootOneCpu
  ⟨schedInit_bootOneCpu, _, .single hstep, rfl,
    (sched_tasks_once schedInit_bootOneCpu (.single hstep)).1 ⟨2⟩ (by decide) (by decide)⟩

end RustOs.Sched
