import RustOs.Sched.Basic
import Mathlib.Data.List.Nodup

/-!
# The two loops over the run queue

`remove_killed_pending_tasks` deletes from `TASKS` exactly the pending tasks that are killed and
keeps the others in order; `pop_next_ready_pending_task` takes the first ready task and moves
the tasks it skipped to the back. Both never panic while every pending id is in `TASKS`, and
the first needs the pending ids to be distinct, or it would look up an id it has just deleted.
-/

namespace RustOs.Sched
open RunQueue

namespace Tasks

def isKilled (tasks : Tasks) (id : TaskId) : Bool :=
  match tasks.tasks id with
  | some task => task.desiredState = .killed
  | none => false

def isReady (tasks : Tasks) (id : TaskId) : Bool :=
  match tasks.tasks id with
  | some task => task.desiredState = .readyToRun
  | none => false

/-- `TASKS` once every killed task among `ids` is deleted. -/
def deleteKilled (tasks : Tasks) (ids : List TaskId) : Tasks :=
  { tasks with tasks := fun id => if id ∈ ids ∧ tasks.isKilled id = true then none else tasks.tasks id }

theorem isKilled_of_get {tasks : Tasks} {id : TaskId} {task : Task} (h : tasks.tasks id = some task) :
    tasks.isKilled id = decide (task.desiredState = .killed) := by
  simp only [isKilled, h]

theorem isReady_of_get {tasks : Tasks} {id : TaskId} {task : Task} (h : tasks.tasks id = some task) :
    tasks.isReady id = decide (task.desiredState = .readyToRun) := by
  simp only [isReady, h]

end Tasks

theorem count_filter_eq (l : List TaskId) (p : TaskId → Bool) (a : TaskId) :
    (l.filter p).count a = if p a then l.count a else 0 := by
  split
  · exact List.count_filter (by assumption)
  · exact List.count_eq_zero_of_not_mem fun h => by simp_all [List.mem_filter]

theorem removeKilledLoop_eq : ∀ (ids : List TaskId) (tasks : Tasks) (remaining : List TaskId),
    ids.Nodup → (∀ id ∈ ids, (tasks.tasks id).isSome) →
    removeKilledLoop tasks ids remaining =
      some (tasks.deleteKilled ids, remaining ++ ids.filter fun id => !tasks.isKilled id)
  | [], tasks, remaining, _, _ => by
      simp only [removeKilledLoop, List.filter_nil, List.append_nil]
      congr
  | id :: ids, tasks, remaining, hnodup, hpresent => by
      obtain ⟨hid, hnodup'⟩ := List.nodup_cons.mp hnodup
      obtain ⟨task, htask⟩ := Option.isSome_iff_exists.mp (hpresent id (by simp))
      have hkilled := Tasks.isKilled_of_get htask
      simp only [removeKilledLoop, Tasks.getTaskAssert, Tasks.getTask, htask, Option.bind_eq_bind,
        Option.bind_some]
      by_cases hk : task.desiredState = .killed
      · -- the task is deleted, and the rest of the loop sees the same states
        rw [if_pos hk]
        have hdel : tasks.deleteTask id =
            some { tasks with tasks := Function.update tasks.tasks id none } := by
          simp [Tasks.deleteTask, htask]
        rw [hdel, Option.bind_some]
        have hsame : ∀ id' ∈ ids, ({ tasks with tasks := Function.update tasks.tasks id none } :
            Tasks).isKilled id' = tasks.isKilled id' := by
          intro id' hid'
          have hne : id' ≠ id := fun h => hid (h ▸ hid')
          simp only [Tasks.isKilled, Function.update_of_ne hne]
        rw [removeKilledLoop_eq ids _ remaining hnodup' (fun id' hid' => by
          have hne : id' ≠ id := fun h => hid (h ▸ hid')
          simpa [Function.update_of_ne hne] using hpresent id' (by simp [hid']))]
        congr 2
        · simp only [Tasks.deleteKilled]
          congr 1
          funext id'
          by_cases hid' : id' = id
          · subst hid'
            simp [hid, hkilled, hk]
          · simp only [Function.update_of_ne hid', List.mem_cons, hid', false_or]
            by_cases hm : id' ∈ ids
            · rw [hsame id' hm]
            · simp [hm]
        · rw [List.filter_cons_of_neg (by simp [hkilled, hk]), List.filter_congr
            (fun id' hid' => by rw [hsame id' hid'])]
      · -- the task stays pending
        rw [if_neg hk, removeKilledLoop_eq ids tasks _ hnodup'
          (fun id' hid' => hpresent id' (by simp [hid']))]
        congr 2
        · simp only [Tasks.deleteKilled]
          congr 1
          funext id'
          by_cases hid' : id' = id
          · subst hid'
            simp [hid, hkilled, hk]
          · simp [hid']
        · rw [List.filter_cons_of_pos (by simp [hkilled, hk]), List.append_assoc,
            List.singleton_append]

/-- What `pop_next_ready_pending_task` returns: no ready task and the queue as it was, or the
first ready task, with the tasks before it moved to the back. -/
def PopResult (tasks : Tasks) (ids nonReady : List TaskId) :
    Option TaskId × List TaskId → Prop
  | (none, pending) => pending = nonReady ++ ids ∧ ∀ id ∈ ids, tasks.isReady id = false
  | (some next, pending) => ∃ pre post, ids = pre ++ next :: post ∧ tasks.isReady next = true ∧
      (∀ id ∈ pre, tasks.isReady id = false) ∧ pending = post ++ (nonReady ++ pre)

theorem popLoop_spec (tasks : Tasks) : ∀ (ids nonReady : List TaskId),
    (∀ id ∈ ids, (tasks.tasks id).isSome) →
    ∃ r, popLoop tasks ids nonReady = some r ∧ PopResult tasks ids nonReady r
  | [], nonReady, _ => ⟨_, rfl, by simp [PopResult]⟩
  | id :: ids, nonReady, hpresent => by
      obtain ⟨task, htask⟩ := Option.isSome_iff_exists.mp (hpresent id (by simp))
      have hready := Tasks.isReady_of_get htask
      simp only [popLoop, Tasks.getTaskAssert, Tasks.getTask, htask, Option.bind_eq_bind,
        Option.bind_some]
      by_cases hr : task.desiredState = .readyToRun
      · rw [if_pos hr]
        exact ⟨_, rfl, [], ids, rfl, by simp [hready, hr], by simp, by simp⟩
      · rw [if_neg hr]
        obtain ⟨r, hrun, hres⟩ := popLoop_spec tasks ids (nonReady ++ [id])
          (fun id' hid' => hpresent id' (by simp [hid']))
        refine ⟨r, hrun, ?_⟩
        -- the skipped task joins the ones moved to the back
        match r, hres with
        | (none, pending), ⟨hp, hall⟩ =>
            refine ⟨by simp [hp], ?_⟩
            intro id' hid'
            rcases List.mem_cons.mp hid' with rfl | hid'
            · simp [hready, hr]
            · exact hall id' hid'
        | (some next, pending), ⟨pre, post, hids, hnext, hpre, hp⟩ =>
            refine ⟨id :: pre, post, by simp [hids], hnext, ?_, by simp [hp]⟩
            intro id' hid'
            rcases List.mem_cons.mp hid' with rfl | hid'
            · simp [hready, hr]
            · exact hpre id' hid'

end RustOs.Sched
