import RustOs.Sync.Mutex

/-!
# Sleeping until a value or a timer

`sync/once_cell.rs`, `sync/wait_cell.rs`, `sync/once_channel.rs` and `sleep_timeout`: a waiter
marks itself sleeping, makes itself known (it queues its id in the `WaitCell`, the `OnceSender`
holds it already, or a timer will wake it), checks for the value, and runs the scheduler when
there is none. `prepare_to_sleep` also sets `NEEDS_RESCHEDULE`, and every external interrupt
ends with `run_scheduler_if_needed`: an interrupt between `prepare_to_sleep` and the check
switches the waiter out as a sleeping task, which the scheduler never picks. If no one wakes it
afterwards, it sleeps for good.

A run interleaves the steps of the tasks on all CPUs, the expiry of timers, the CPU ticks and
the interrupts. Every value a waiter returns is the value sent, the once channel's receiver
returns at most once, and a wait cell's waiter that has queued itself and sleeps is in
`waiting_tasks`.
-/

namespace RustOs.Sync

open RustOs.Sched

/-- `OnceCell<T>`: the message and the flag `ready`. -/
structure OnceCell (T : Type) where
  message : Option T
  ready : Bool
  deriving DecidableEq, Repr

namespace OnceCell

variable {T : Type}

def new : OnceCell T := ⟨none, false⟩

def set (self : OnceCell T) (message : T) : Option (OnceCell T) :=
  if self.ready then none else some ⟨some message, true⟩

def getOnce (self : OnceCell T) : Option T × OnceCell T :=
  if self.ready then (self.message, ⟨none, false⟩) else (none, self)

def getClone (self : OnceCell T) : Option T :=
  if self.ready then self.message else none

theorem set_eq_some {self cell : OnceCell T} {message : T} (h : self.set message = some cell) :
    self.ready = false ∧ cell = ⟨some message, true⟩ := by
  unfold set at h
  split at h
  · cases h
  · rename_i hready
    simp only [Option.some.injEq] at h
    exact ⟨by simpa using hready, h.symm⟩

theorem getClone_eq_some {self : OnceCell T} {message : T} (h : self.getClone = some message) :
    self = ⟨some message, true⟩ := by
  obtain ⟨m, ready⟩ := self
  cases ready <;> simp_all [getClone]

theorem getOnce_fst_eq_some {self : OnceCell T} {message : T}
    (h : self.getOnce.1 = some message) : self.ready = true ∧ self.message = some message := by
  obtain ⟨m, ready⟩ := self
  cases ready <;> simp_all [getOnce]

theorem getOnce_snd_of_ready {self : OnceCell T} (h : self.getOnce.2.ready = true) :
    self.getOnce.2 = self := by
  obtain ⟨m, ready⟩ := self
  cases ready <;> simp_all [getOnce]

end OnceCell

/-- `awaken_task` on `cpu`, with the `NEEDS_RESCHEDULE` flags of the CPUs. -/
def awakenTaskNr {n : Nat} (s : SchedState n) (needsReschedule : Fin n → Bool) (cpu : Fin n)
    (taskId : TaskId) : Option (SchedState n × (Fin n → Bool)) := do
  let task ← s.tasks.getTaskAssert taskId
  let s ← s.awakenTask taskId
  let needsReschedule := if task.desiredState ≠ .readyToRun then
      Function.update needsReschedule cpu true
    else needsReschedule
  some (s, needsReschedule)

/-- `awaken_task` of each task, in order. -/
def awakenAllNr {n : Nat} : SchedState n → (Fin n → Bool) → Fin n → List TaskId →
    Option (SchedState n × (Fin n → Bool))
  | s, nr, _, [] => some (s, nr)
  | s, nr, cpu, taskId :: taskIds => do
      let (s, nr) ← awakenTaskNr s nr cpu taskId
      awakenAllNr s nr cpu taskIds

/-- `WaitCell<T>`. -/
structure WaitCell (T : Type) where
  cell : OnceCell T
  waitingTasks : List TaskId
  deriving DecidableEq, Repr

def WaitCell.new {T : Type} : WaitCell T := ⟨OnceCell.new, []⟩

/-- Where a task is in `WaitCell::wait_sleep`, in `OnceReceiver::wait_sleep`, in
`sleep_timeout`, or between the two parts of a send. -/
inductive WaitPc (T : Type) where
  | outside
  | cellPrepared
  | cellPushed
  /-- `get_clone` found the message: the `awaken_task` of itself is next. -/
  | cellGot (message : T)
  | cellFailed
  /-- In `run_scheduler`, or back from it: the loop starts again. -/
  | cellRescheduled
  | oncePrepared
  | onceGot (message : T)
  | onceFailed
  | onceRescheduled
  | timeoutPrepared
  | timeoutArmed
  | timeoutScheduled
  /-- `send_all_consumers` after `cell.set`, before the drain of `waiting_tasks`. -/
  | cellSending
  /-- `OnceSender::send` after `cell.set`, before the `awaken_task` of the receiver. -/
  | onceSending
  deriving DecidableEq, Repr

namespace WaitPc

variable {T : Type}

/-- The task is in one of the two `wait_sleep` loops or in `sleep_timeout`. -/
def waits : WaitPc T → Bool
  | cellPrepared | cellPushed | cellFailed | cellRescheduled
  | oncePrepared | onceFailed | onceRescheduled
  | timeoutPrepared | timeoutArmed | timeoutScheduled => true
  | _ => false

@[simp] def cellQueued : WaitPc T → Bool
  | cellPushed | cellFailed | cellRescheduled => true
  | _ => false

/-- The task is in `OnceReceiver::wait_sleep`. -/
@[simp] def inOnce : WaitPc T → Bool
  | oncePrepared | onceGot _ | onceFailed | onceRescheduled => true
  | _ => false

end WaitPc

/-- The scheduler with the CPUs' `NEEDS_RESCHEDULE`, one wait cell, one once channel, the
timers, and where each task is. `cellReturned` and `onceReturned` are what the calls of
`wait_sleep` returned, and `onceSent` what the sender sent. -/
structure WaitSys (n : Nat) (T : Type) where
  sched : SchedState n
  needsReschedule : Fin n → Bool
  waitCell : WaitCell T
  once : OnceCell T
  /-- `OnceSender::receiver_task_id`. -/
  receiver : TaskId
  /-- The tasks whose `sleep_timeout` timer has not fired. -/
  timers : List TaskId
  pc : TaskId → WaitPc T
  cellReturned : List T
  onceReturned : List T
  onceSent : Option T

namespace WaitSys

variable {n : Nat} {T : Type}

def running (w : WaitSys n T) (cpu : Fin n) : TaskId := w.sched.currentTaskId cpu

def moveTo (w : WaitSys n T) (cpu : Fin n) (pc : WaitPc T) : TaskId → WaitPc T :=
  Function.update w.pc (w.running cpu) pc

@[simp] theorem moveTo_apply (w : WaitSys n T) (cpu : Fin n) (pc : WaitPc T) (x : TaskId) :
    w.moveTo cpu pc x = if x = w.running cpu then pc else w.pc x := by
  simp only [moveTo, Function.update_apply]

def SwitchedOutWaiting (w : WaitSys n T) (x : TaskId) : Prop :=
  (w.pc x).waits = true ∧ ∀ cpu, w.sched.currentTaskId cpu ≠ x

end WaitSys

/-- One step of the task on `cpu`, of a timer, or of an interrupt on `cpu`. -/
inductive WaitStep {n : Nat} {T : Type} : WaitSys n T → WaitSys n T → Prop
  | cellPrepare {w : WaitSys n T} {s : SchedState n} {id : TaskId} (cpu : Fin n)
      (hpc : w.pc (w.running cpu) = .outside ∨ w.pc (w.running cpu) = .cellRescheduled)
      (h : w.sched.prepareToSleep cpu = some (id, s)) :
      WaitStep w { w with
        sched := s
        needsReschedule := Function.update w.needsReschedule cpu true
        pc := w.moveTo cpu .cellPrepared }
  | cellPush {w : WaitSys n T} (cpu : Fin n) (hpc : w.pc (w.running cpu) = .cellPrepared) :
      WaitStep w { w with
        waitCell := { w.waitCell with waitingTasks := w.waitCell.waitingTasks ++ [w.running cpu] }
        pc := w.moveTo cpu .cellPushed }
  | cellCheck {w : WaitSys n T} (cpu : Fin n) (hpc : w.pc (w.running cpu) = .cellPushed) :
      WaitStep w { w with
        pc := w.moveTo cpu (match w.waitCell.cell.getClone with
          | some message => .cellGot message
          | none => .cellFailed) }
  | cellReturn {w : WaitSys n T} {s : SchedState n} {nr : Fin n → Bool} {message : T}
      (cpu : Fin n) (hpc : w.pc (w.running cpu) = .cellGot message)
      (h : awakenTaskNr w.sched w.needsReschedule cpu (w.running cpu) = some (s, nr)) :
      WaitStep w { w with
        sched := s
        needsReschedule := nr
        pc := w.moveTo cpu .outside
        cellReturned := w.cellReturned ++ [message] }
  | cellRunScheduler {w : WaitSys n T} {s : SchedState n} (cpu : Fin n)
      (hpc : w.pc (w.running cpu) = .cellFailed) (h : w.sched.runScheduler cpu 0 = some s) :
      WaitStep w { w with
        sched := s
        needsReschedule := Function.update w.needsReschedule cpu false
        pc := w.moveTo cpu .cellRescheduled }
  /-- `send_all_consumers`: `cell.set`. -/
  | cellSendSet {w : WaitSys n T} {cell : OnceCell T} (cpu : Fin n) (message : T)
      (hpc : w.pc (w.running cpu) = .outside) (h : w.waitCell.cell.set message = some cell) :
      WaitStep w { w with
        waitCell := { w.waitCell with cell }
        pc := w.moveTo cpu .cellSending }
  /-- `send_all_consumers`: the drain of `waiting_tasks`. -/
  | cellSendDrain {w : WaitSys n T} {s : SchedState n} {nr : Fin n → Bool} (cpu : Fin n)
      (hpc : w.pc (w.running cpu) = .cellSending)
      (h : awakenAllNr w.sched w.needsReschedule cpu w.waitCell.waitingTasks = some (s, nr)) :
      WaitStep w { w with
        sched := s
        needsReschedule := nr
        waitCell := { w.waitCell with waitingTasks := [] }
        pc := w.moveTo cpu .outside }
  /-- `OnceReceiver::wait_sleep`, which consumes the receiver: it is called once. -/
  | oncePrepare {w : WaitSys n T} {s : SchedState n} {id : TaskId} (cpu : Fin n)
      (hrecv : w.running cpu = w.receiver) (hnew : w.onceReturned = [])
      (hpc : w.pc (w.running cpu) = .outside ∨ w.pc (w.running cpu) = .onceRescheduled)
      (h : w.sched.prepareToSleep cpu = some (id, s)) :
      WaitStep w { w with
        sched := s
        needsReschedule := Function.update w.needsReschedule cpu true
        pc := w.moveTo cpu .oncePrepared }
  | onceCheck {w : WaitSys n T} (cpu : Fin n) (hpc : w.pc (w.running cpu) = .oncePrepared) :
      WaitStep w { w with
        once := w.once.getOnce.2
        pc := w.moveTo cpu (match w.once.getOnce.1 with
          | some message => .onceGot message
          | none => .onceFailed) }
  | onceReturn {w : WaitSys n T} {s : SchedState n} {nr : Fin n → Bool} {message : T}
      (cpu : Fin n) (hpc : w.pc (w.running cpu) = .onceGot message)
      (h : awakenTaskNr w.sched w.needsReschedule cpu (w.running cpu) = some (s, nr)) :
      WaitStep w { w with
        sched := s
        needsReschedule := nr
        pc := w.moveTo cpu .outside
        onceReturned := w.onceReturned ++ [message] }
  | onceRunScheduler {w : WaitSys n T} {s : SchedState n} (cpu : Fin n)
      (hpc : w.pc (w.running cpu) = .onceFailed) (h : w.sched.runScheduler cpu 0 = some s) :
      WaitStep w { w with
        sched := s
        needsReschedule := Function.update w.needsReschedule cpu false
        pc := w.moveTo cpu .onceRescheduled }
  /-- `OnceSender::send`, which consumes the sender: `cell.set`. -/
  | onceSendSet {w : WaitSys n T} {cell : OnceCell T} (cpu : Fin n) (message : T)
      (hpc : w.pc (w.running cpu) = .outside) (hnew : w.onceSent = none)
      (h : w.once.set message = some cell) :
      WaitStep w { w with
        once := cell
        onceSent := some message
        pc := w.moveTo cpu .onceSending }
  | onceSendAwaken {w : WaitSys n T} {s : SchedState n} {nr : Fin n → Bool} (cpu : Fin n)
      (hpc : w.pc (w.running cpu) = .onceSending)
      (h : awakenTaskNr w.sched w.needsReschedule cpu w.receiver = some (s, nr)) :
      WaitStep w { w with
        sched := s
        needsReschedule := nr
        pc := w.moveTo cpu .outside }
  | timeoutPrepare {w : WaitSys n T} {s : SchedState n} {id : TaskId} (cpu : Fin n)
      (hpc : w.pc (w.running cpu) = .outside) (h : w.sched.prepareToSleep cpu = some (id, s)) :
      WaitStep w { w with
        sched := s
        needsReschedule := Function.update w.needsReschedule cpu true
        pc := w.moveTo cpu .timeoutPrepared }
  /-- `add_relative_timer` with the callback that wakes the task. -/
  | timeoutArm {w : WaitSys n T} (cpu : Fin n) (hpc : w.pc (w.running cpu) = .timeoutPrepared) :
      WaitStep w { w with
        timers := w.timers ++ [w.running cpu]
        pc := w.moveTo cpu .timeoutArmed }
  | timeoutRunScheduler {w : WaitSys n T} {s : SchedState n} (cpu : Fin n)
      (hpc : w.pc (w.running cpu) = .timeoutArmed) (h : w.sched.runScheduler cpu 0 = some s) :
      WaitStep w { w with
        sched := s
        needsReschedule := Function.update w.needsReschedule cpu false
        pc := w.moveTo cpu .timeoutScheduled }
  | timeoutReturn {w : WaitSys n T} (cpu : Fin n)
      (hpc : w.pc (w.running cpu) = .timeoutScheduled) :
      WaitStep w { w with pc := w.moveTo cpu .outside }
  | timerFires {w : WaitSys n T} {s : SchedState n} {nr : Fin n → Bool} (cpu : Fin n)
      (id : TaskId) (hid : id ∈ w.timers)
      (h : awakenTaskNr w.sched w.needsReschedule cpu id = some (s, nr)) :
      WaitStep w { w with
        sched := s
        needsReschedule := nr
        timers := w.timers.erase id }
  /-- `cpu_tick_handler`: `scheduler_tick`, which asks for the scheduler once the slice is used
  up. -/
  | schedulerTick {w : WaitSys n T} {s : SchedState n} (cpu : Fin n) (ms : Nat)
      (h : w.sched.schedulerTick cpu ms = some s) :
      WaitStep w { w with
        sched := s
        needsReschedule :=
          if (s.tasks.tasks (s.currentTaskId cpu)).map Task.remainingSlice = some 0 then
            Function.update w.needsReschedule cpu true
          else w.needsReschedule }
  /-- `run_scheduler_if_needed` at the end of an external interrupt on `cpu`. -/
  | interrupt {w : WaitSys n T} {s : SchedState n} (cpu : Fin n)
      (hnr : w.needsReschedule cpu = true) (h : w.sched.runScheduler cpu 0 = some s) :
      WaitStep w { w with
        sched := s
        needsReschedule := Function.update w.needsReschedule cpu false }

/-! ## Waking several tasks -/

section Awaken

variable {n : Nat} {s s' : SchedState n} {nr nr' : Fin n → Bool} {cpu : Fin n}

theorem awakenTaskNr_isSleeping {id : TaskId} (h : awakenTaskNr s nr cpu id = some (s', nr'))
    (x : TaskId) : s'.tasks.isSleeping x = if x = id then false else s.tasks.isSleeping x := by
  simp only [awakenTaskNr, Option.bind_eq_bind, Option.bind_eq_some_iff, Option.some.injEq,
    Prod.mk.injEq] at h
  obtain ⟨-, -, s1, h1, rfl, -⟩ := h
  exact awakenTask_isSleeping h1 x

theorem awakenAllNr_isSleeping :
    ∀ (ids : List TaskId) (s : SchedState n) (nr : Fin n → Bool) {s' : SchedState n}
      {nr' : Fin n → Bool}, awakenAllNr s nr cpu ids = some (s', nr') →
      ∀ x, s'.tasks.isSleeping x = if x ∈ ids then false else s.tasks.isSleeping x
  | [], s, nr, _, _, h, x => by
      simp only [awakenAllNr, Option.some.injEq, Prod.mk.injEq] at h
      simp [h.1]
  | id :: ids, s, nr, _, _, h, x => by
      simp only [awakenAllNr, Option.bind_eq_bind, Option.bind_eq_some_iff] at h
      obtain ⟨⟨s1, nr1⟩, h1, h⟩ := h
      rw [awakenAllNr_isSleeping ids s1 nr1 h x, awakenTaskNr_isSleeping h1 x]
      by_cases hx : x = id
      · simp [hx]
      · simp [hx]

theorem isSleeping_of_awakenTaskNr {id : TaskId} (h : awakenTaskNr s nr cpu id = some (s', nr'))
    {x : TaskId} (hs : s'.tasks.isSleeping x = true) : s.tasks.isSleeping x = true := by
  rw [awakenTaskNr_isSleeping h x] at hs
  split at hs
  · cases hs
  · exact hs

theorem isSleeping_of_awakenAllNr {ids : List TaskId} (h : awakenAllNr s nr cpu ids = some (s', nr'))
    {x : TaskId} (hs : s'.tasks.isSleeping x = true) : x ∉ ids ∧ s.tasks.isSleeping x = true := by
  rw [awakenAllNr_isSleeping ids s nr h x] at hs
  split at hs
  · cases hs
  · exact ⟨by assumption, hs⟩

theorem isSleeping_of_prepareToSleep {id : TaskId} (h : s.prepareToSleep cpu = some (id, s'))
    {x : TaskId} (hx : x ≠ s.currentTaskId cpu) (hs : s'.tasks.isSleeping x = true) :
    s.tasks.isSleeping x = true := by
  obtain ⟨rfl, hsleep⟩ := prepareToSleep_isSleeping h x
  rwa [hsleep, if_neg hx] at hs

end Awaken

/-! ## The invariant -/

section Invariant

variable {n : Nat} {T : Type}

def CellValues (w : WaitSys n T) : Prop :=
  ∀ v, (v ∈ w.cellReturned ∨ ∃ x, w.pc x = .cellGot v) → w.waitCell.cell = ⟨some v, true⟩

structure OnceValues (w : WaitSys n T) : Prop where
  onceReady : w.once.ready = true → w.once.message = w.onceSent
  onceValue : ∀ v, (v ∈ w.onceReturned ∨ ∃ x, w.pc x = .onceGot v) → w.onceSent = some v
  onceReceiver : ∀ x, (w.pc x).inOnce = true → x = w.receiver
  onceReturnedLe : w.onceReturned.length ≤ 1
  onceDone : w.onceReturned ≠ [] → (w.pc w.receiver).inOnce = false

def CellQueued (w : WaitSys n T) : Prop :=
  ∀ x, (w.pc x).cellQueued = true → w.sched.tasks.isSleeping x = true →
    x ∈ w.waitCell.waitingTasks

structure WaitInv (w : WaitSys n T) : Prop where
  cell : CellValues w
  once : OnceValues w
  queued : CellQueued w

variable {w w' : WaitSys n T}

theorem CellValues.moveTo (hinv : CellValues w) {cpu : Fin n} {pc : WaitPc T}
    (hcellGot : ∀ v, pc = .cellGot v → w.waitCell.cell = ⟨some v, true⟩)
    (hpc : w'.pc = w.moveTo cpu pc)
    (hcr : ∀ v ∈ w'.cellReturned, v ∈ w.cellReturned ∨ ∃ x, w.pc x = .cellGot v)
    (hcell : ∀ v, w.waitCell.cell = ⟨some v, true⟩ → w'.waitCell.cell = w.waitCell.cell) :
    CellValues w' := by
  intro v hv
  have hheld : w.waitCell.cell = ⟨some v, true⟩ := by
    rcases hv with hv | ⟨x, hx⟩
    · exact hinv v (hcr v hv)
    · rw [hpc, WaitSys.moveTo_apply] at hx
      split at hx
      · exact hcellGot v hx
      · exact hinv v (.inr ⟨x, hx⟩)
  rw [hcell v hheld, hheld]

theorem OnceValues.moveTo (hinv : OnceValues w) {cpu : Fin n} {pc : WaitPc T}
    (honceGot : ∀ v, pc = .onceGot v → w.onceSent = some v)
    (hrecv : pc.inOnce = true → w.running cpu = w.receiver ∧ w.onceReturned = [])
    (hpc : w'.pc = w.moveTo cpu pc)
    (honceReady : w'.once.ready = true → w'.once.message = w'.onceSent)
    (hsent : ∀ v, w.onceSent = some v → w'.onceSent = w.onceSent)
    (hor : w'.onceReturned = w.onceReturned) (hreceiver : w'.receiver = w.receiver) :
    OnceValues w' := by
  have hold : ∀ x, x ≠ w.running cpu → w'.pc x = w.pc x := by
    intro x hx
    rw [hpc, WaitSys.moveTo_apply, if_neg hx]
  have hnew : w'.pc (w.running cpu) = pc := by
    rw [hpc, WaitSys.moveTo_apply, if_pos rfl]
  refine ⟨honceReady, fun v hv => ?_, fun x hx => ?_, ?_, fun hne => ?_⟩
  · have hsome : w.onceSent = some v := by
      rw [hor] at hv
      rcases hv with hv | ⟨x, hx⟩
      · exact hinv.onceValue v (.inl hv)
      · by_cases hxr : x = w.running cpu
        · rw [hxr, hnew] at hx
          exact honceGot v hx
        · exact hinv.onceValue v (.inr ⟨x, by rwa [← hold x hxr]⟩)
    rw [hsent v hsome, hsome]
  · rw [hreceiver]
    by_cases hxr : x = w.running cpu
    · rw [hxr, hnew] at hx
      rw [hxr]
      exact (hrecv hx).1
    · exact hinv.onceReceiver x (by rwa [← hold x hxr])
  · rw [hor]
    exact hinv.onceReturnedLe
  · rw [hor] at hne
    rw [hreceiver]
    by_cases hxr : w.receiver = w.running cpu
    · rw [hxr, hnew]
      cases hp : pc.inOnce
      · rfl
      · exact absurd (hrecv hp).2 hne
    · rw [hold _ hxr]
      exact hinv.onceDone hne

theorem OnceValues.receiver_of_inOnce (hinv : OnceValues w) {x : TaskId}
    (hx : (w.pc x).inOnce = true) : x = w.receiver ∧ w.onceReturned = [] := by
  have hrecv := hinv.onceReceiver x hx
  refine ⟨hrecv, ?_⟩
  by_contra hne
  have hdone := hinv.onceDone hne
  rw [← hrecv, hx] at hdone
  cases hdone

theorem OnceValues.onceReturn (hinv : OnceValues w) {cpu : Fin n} {message : T}
    (hpc : w.pc (w.running cpu) = .onceGot message)
    (hpc' : w'.pc = w.moveTo cpu .outside)
    (honce : w'.once = w.once) (hsent : w'.onceSent = w.onceSent)
    (hor : w'.onceReturned = w.onceReturned ++ [message]) (hreceiver : w'.receiver = w.receiver) :
    OnceValues w' := by
  obtain ⟨hrecv, hnil⟩ := hinv.receiver_of_inOnce (x := w.running cpu) (by rw [hpc]; rfl)
  have hold : ∀ x, x ≠ w.running cpu → w'.pc x = w.pc x := by
    intro x hx
    rw [hpc', WaitSys.moveTo_apply, if_neg hx]
  refine ⟨by rw [honce, hsent]; exact hinv.onceReady, fun v hv => ?_, fun x hx => ?_, ?_,
    fun _ => ?_⟩
  · rw [hsent]
    rw [hor, hnil, List.nil_append, List.mem_singleton] at hv
    rcases hv with rfl | ⟨x, hx⟩
    · exact hinv.onceValue v (.inr ⟨_, hpc⟩)
    · by_cases hxr : x = w.running cpu
      · rw [hxr, hpc', WaitSys.moveTo_apply, if_pos rfl] at hx
        cases hx
      · exact hinv.onceValue v (.inr ⟨x, by rwa [← hold x hxr]⟩)
  · rw [hreceiver]
    by_cases hxr : x = w.running cpu
    · rw [hxr, hpc', WaitSys.moveTo_apply, if_pos rfl] at hx
      cases hx
    · exact hinv.onceReceiver x (by rwa [← hold x hxr])
  · rw [hor, hnil]
    rfl
  · rw [hreceiver, ← hrecv, hpc', WaitSys.moveTo_apply, if_pos rfl]
    rfl

theorem CellQueued.moveTo (hinv : CellQueued w) {cpu : Fin n} {pc : WaitPc T}
    (hpc : w'.pc = w.moveTo cpu pc)
    (hsub : ∀ x ∈ w.waitCell.waitingTasks, w'.sched.tasks.isSleeping x = true →
      x ∈ w'.waitCell.waitingTasks)
    (hself : pc.cellQueued = true → w'.sched.tasks.isSleeping (w.running cpu) = true →
      w.running cpu ∈ w'.waitCell.waitingTasks)
    (hother : ∀ x ≠ w.running cpu, w'.sched.tasks.isSleeping x = true →
      w.sched.tasks.isSleeping x = true) : CellQueued w' := by
  intro x hq hsleep
  rw [hpc, WaitSys.moveTo_apply] at hq
  split at hq
  · rename_i hx
    subst hx
    exact hself hq hsleep
  · rename_i hx
    exact hsub x (hinv x hq (hother x hx hsleep)) hsleep

theorem CellQueued.of_sched (hinv : CellQueued w) (hpc : w'.pc = w.pc)
    (hwait : w'.waitCell.waitingTasks = w.waitCell.waitingTasks)
    (hsleep : ∀ x, w'.sched.tasks.isSleeping x = true → w.sched.tasks.isSleeping x = true) :
    CellQueued w' := by
  intro x hq hs
  rw [hpc] at hq
  rw [hwait]
  exact hinv x hq (hsleep x hs)

theorem CellValues.step (hinv : CellValues w) (hstep : WaitStep w w') : CellValues w' := by
  cases hstep with
  | cellCheck cpu hpc =>
      -- the waiter holds what the cell holds
      refine hinv.moveTo (fun v hv => ?_) rfl (fun _ hv => .inl hv) (fun _ _ => rfl)
      cases hg : w.waitCell.cell.getClone with
      | none => simp [hg] at hv
      | some m =>
          simp only [hg, WaitPc.cellGot.injEq] at hv
          rw [← hv]
          exact OnceCell.getClone_eq_some hg
  | cellReturn cpu hpc h =>
      refine hinv.moveTo (by simp) rfl (fun v hv => ?_) (fun _ _ => rfl)
      rcases List.mem_append.mp hv with hv | hv
      · exact .inl hv
      · rw [List.mem_singleton.mp hv]
        exact .inr ⟨_, hpc⟩
  | cellSendSet cpu message hpc h =>
      -- the set succeeds only on a cell that is not ready, so no one held a message
      refine hinv.moveTo (by simp) rfl (fun _ hv => .inl hv) (fun v hv => ?_)
      rw [hv] at h
      simp [OnceCell.set] at h
  | timerFires cpu id hid h => exact hinv
  | onceCheck cpu hpc =>
      refine hinv.moveTo (fun v => ?_) rfl (fun _ hv => .inl hv) (fun _ _ => rfl)
      cases w.once.getOnce.1 <;> simp
  | schedulerTick cpu ms h => exact hinv
  | interrupt cpu hnr h => exact hinv
  | _ => exact hinv.moveTo (by simp) rfl (fun _ hv => .inl hv) (fun _ _ => rfl)

theorem OnceValues.step (hinv : OnceValues w) (hstep : WaitStep w w') : OnceValues w' := by
  cases hstep with
  | oncePrepare cpu hrecv hnew hpc h =>
      exact hinv.moveTo (by simp) (fun _ => ⟨hrecv, hnew⟩) rfl hinv.onceReady (fun _ _ => rfl) rfl rfl
  | onceCheck cpu hpc =>
      have hin := hinv.receiver_of_inOnce (x := w.running cpu) (by rw [hpc]; rfl)
      refine hinv.moveTo (fun v hv => ?_) (fun _ => hin) rfl (fun hready => ?_) (fun _ _ => rfl)
        rfl rfl
      · -- the receiver takes what the sender put in the cell
        cases hg : w.once.getOnce.1 with
        | none => simp [hg] at hv
        | some m =>
            simp only [hg, WaitPc.onceGot.injEq] at hv
            obtain ⟨hready, hmsg⟩ := OnceCell.getOnce_fst_eq_some hg
            rw [← hinv.onceReady hready, hmsg, hv]
      · simp only [OnceCell.getOnce_snd_of_ready hready] at hready ⊢
        exact hinv.onceReady hready
  | onceReturn cpu hpc h => exact hinv.onceReturn hpc rfl rfl rfl rfl rfl
  | onceRunScheduler cpu hpc h =>
      exact hinv.moveTo (by simp) (fun _ => hinv.receiver_of_inOnce (by rw [hpc]; rfl)) rfl
        hinv.onceReady (fun _ _ => rfl) rfl rfl
  | onceSendSet cpu message hpc hnew h =>
      -- the sender sends once: no one held a message before
      refine hinv.moveTo (by simp) (by simp) rfl (fun _ => ?_) (fun v hv => ?_) rfl rfl
      · simp [(OnceCell.set_eq_some h).2]
      · simp [hnew] at hv
  | timerFires cpu id hid h =>
      exact ⟨hinv.onceReady, hinv.onceValue, hinv.onceReceiver, hinv.onceReturnedLe, hinv.onceDone⟩
  | schedulerTick cpu ms h =>
      exact ⟨hinv.onceReady, hinv.onceValue, hinv.onceReceiver, hinv.onceReturnedLe, hinv.onceDone⟩
  | interrupt cpu hnr h =>
      exact ⟨hinv.onceReady, hinv.onceValue, hinv.onceReceiver, hinv.onceReturnedLe, hinv.onceDone⟩
  | cellCheck cpu hpc =>
      refine hinv.moveTo (fun v => ?_) ?_ rfl hinv.onceReady (fun _ _ => rfl) rfl rfl <;>
      · cases w.waitCell.cell.getClone <;> simp
  | _ => exact hinv.moveTo (by simp) (by simp) rfl hinv.onceReady (fun _ _ => rfl) rfl rfl

theorem CellQueued.step (hinv : CellQueued w) (hstep : WaitStep w w') : CellQueued w' := by
  cases hstep with
  | cellPrepare cpu hpc h =>
      exact hinv.moveTo rfl (fun _ hx _ => hx) (by simp)
        (fun _ hx hs => isSleeping_of_prepareToSleep h hx hs)
  | cellPush cpu hpc =>
      exact hinv.moveTo rfl (fun _ hx _ => List.mem_append_left _ hx)
        (fun _ _ => List.mem_append_right _ (List.mem_singleton_self _)) (fun _ _ hs => hs)
  | cellCheck cpu hpc =>
      exact hinv.moveTo rfl (fun _ hx _ => hx) (fun _ hs => hinv _ (by rw [hpc]; rfl) hs)
        (fun _ _ hs => hs)
  | cellReturn cpu hpc h =>
      exact hinv.moveTo rfl (fun _ hx _ => hx) (by simp)
        (fun _ _ hs => isSleeping_of_awakenTaskNr h hs)
  | cellRunScheduler cpu hpc h =>
      exact hinv.moveTo rfl (fun _ hx _ => hx)
        (fun _ hs => hinv _ (by rw [hpc]; rfl) (by rwa [runScheduler_isSleeping h] at hs))
        (fun x _ hs => by rwa [runScheduler_isSleeping h] at hs)
  | cellSendDrain cpu hpc h =>
      -- every queued waiter is woken, so the queue may be emptied
      exact hinv.moveTo rfl (fun _ hx hs => absurd hx (isSleeping_of_awakenAllNr h hs).1) (by simp)
        (fun _ _ hs => (isSleeping_of_awakenAllNr h hs).2)
  | oncePrepare cpu hrecv hnew hpc h =>
      exact hinv.moveTo rfl (fun _ hx _ => hx) (by simp)
        (fun _ hx hs => isSleeping_of_prepareToSleep h hx hs)
  | onceReturn cpu hpc h =>
      exact hinv.moveTo rfl (fun _ hx _ => hx) (by simp)
        (fun _ _ hs => isSleeping_of_awakenTaskNr h hs)
  | onceRunScheduler cpu hpc h =>
      exact hinv.moveTo rfl (fun _ hx _ => hx) (by simp)
        (fun x _ hs => by rwa [runScheduler_isSleeping h] at hs)
  | onceSendAwaken cpu hpc h =>
      exact hinv.moveTo rfl (fun _ hx _ => hx) (by simp)
        (fun _ _ hs => isSleeping_of_awakenTaskNr h hs)
  | timeoutPrepare cpu hpc h =>
      exact hinv.moveTo rfl (fun _ hx _ => hx) (by simp)
        (fun _ hx hs => isSleeping_of_prepareToSleep h hx hs)
  | timeoutRunScheduler cpu hpc h =>
      exact hinv.moveTo rfl (fun _ hx _ => hx) (by simp)
        (fun x _ hs => by rwa [runScheduler_isSleeping h] at hs)
  | timerFires cpu id hid h =>
      exact hinv.of_sched rfl rfl (fun _ hs => isSleeping_of_awakenTaskNr h hs)
  | schedulerTick cpu ms h =>
      exact hinv.of_sched rfl rfl (fun x hs => by rwa [schedulerTick_isSleeping h] at hs)
  | interrupt cpu hnr h =>
      exact hinv.of_sched rfl rfl (fun x hs => by rwa [runScheduler_isSleeping h] at hs)
  | onceCheck cpu hpc =>
      refine hinv.moveTo rfl (fun _ hx _ => hx) ?_ (fun _ _ hs => hs)
      cases w.once.getOnce.1 <;> simp
  | _ => exact hinv.moveTo rfl (fun _ hx _ => hx) (by simp) (fun _ _ hs => hs)

theorem WaitInv.step (hinv : WaitInv w) (hstep : WaitStep w w') : WaitInv w' :=
  ⟨hinv.cell.step hstep, hinv.once.step hstep, hinv.queued.step hstep⟩

structure WaitInit (w : WaitSys n T) : Prop where
  waitCell : w.waitCell = WaitCell.new
  once : w.once = OnceCell.new
  pc : ∀ x, w.pc x = .outside
  cellReturned : w.cellReturned = []
  onceReturned : w.onceReturned = []
  onceSent : w.onceSent = none

theorem WaitInit.waitInv (h : WaitInit w) : WaitInv w := by
  have hpc := h.pc
  refine ⟨fun v hv => ?_, ⟨fun hready => ?_, fun v hv => ?_, fun x hx => ?_, ?_, fun hne => ?_⟩,
    fun x hx _ => ?_⟩
  · simp [h.cellReturned, hpc] at hv
  · simp [h.once, OnceCell.new] at hready
  · simp [h.onceReturned, hpc] at hv
  · simp [hpc] at hx
  · simp [h.onceReturned]
  · simp [h.onceReturned] at hne
  · simp [hpc] at hx

theorem waitInv_reachable {w0 w : WaitSys n T} (hinit : WaitInit w0)
    (hreach : Relation.ReflTransGen WaitStep w0 w) : WaitInv w :=
  Reach.invariant (I := WaitInv) hinit.waitInv (fun _ _ hinv hstep => hinv.step hstep) hreach

/-- In every run from a fresh wait cell and once channel: each value a wait cell's waiter
returned is the cell's message, the once channel's receiver returned what was sent and did so at
most once, and a wait cell's waiter that has queued itself and sleeps is in `waiting_tasks`. -/
theorem waiters_get_sent_value {w0 w : WaitSys n T} (hinit : WaitInit w0)
    (hreach : Relation.ReflTransGen WaitStep w0 w) :
    (∀ v ∈ w.cellReturned, w.waitCell.cell = ⟨some v, true⟩) ∧
    (∀ v ∈ w.onceReturned, w.onceSent = some v) ∧ w.onceReturned.length ≤ 1 ∧
    ∀ x, (w.pc x).cellQueued = true → w.sched.tasks.isSleeping x = true →
      x ∈ w.waitCell.waitingTasks := by
  have hinv := waitInv_reachable hinit hreach
  exact ⟨fun v hv => hinv.cell v (.inl hv), fun v hv => hinv.once.onceValue v (.inl hv),
    hinv.once.onceReturnedLe, hinv.queued⟩

def twoTasksFresh : WaitSys 2 Nat :=
  ⟨twoTasksRunning, fun _ => false, WaitCell.new, OnceCell.new, ⟨4⟩, [], fun _ => .outside, [], [],
    none⟩

theorem waiters_get_sent_value_twoTasks :
    WaitInit twoTasksFresh ∧
    ∃ w, Relation.ReflTransGen WaitStep twoTasksFresh w ∧ w.cellReturned = [7] ∧
      w.onceReturned = [5] ∧ (w.pc ⟨3⟩).cellQueued = true ∧ w.sched.tasks.isSleeping ⟨3⟩ = true ∧
      ((∀ v ∈ w.cellReturned, w.waitCell.cell = ⟨some v, true⟩) ∧
        (∀ v ∈ w.onceReturned, w.onceSent = some v) ∧ w.onceReturned.length ≤ 1 ∧
        ∀ x, (w.pc x).cellQueued = true → w.sched.tasks.isSleeping x = true →
          x ∈ w.waitCell.waitingTasks) := by
  have init : WaitInit twoTasksFresh := ⟨rfl, rfl, fun _ => rfl, rfl, rfl, rfl⟩
  -- the guards on where a task is are checked by the kernel: the elaborator's unfolding of the
  -- state's program points grows with the run; the steps' results stay rfl, which computes them
  -- task 3 sends 7 through the cell, to no waiter yet
  have sent : Relation.ReflTransGen WaitStep twoTasksFresh _ :=
    (Relation.ReflTransGen.single (.cellSendSet 0 7 rfl rfl)).tail (.cellSendDrain 0 rfl rfl)
  -- task 4 waits on the cell and gets the message at once
  have gotCell := (((sent.tail (.cellPrepare 1 (Or.inl (by decide +kernel)) rfl)).tail
    (.cellPush 1 (by decide +kernel))).tail (.cellCheck 1 (by decide +kernel))).tail
    (.cellReturn 1 rfl rfl)
  -- task 3 sends 5 through the once channel, and task 4 receives it
  have onceSent := (gotCell.tail (.onceSendSet 0 5 rfl rfl rfl)).tail (.onceSendAwaken 0 rfl rfl)
  have received := ((onceSent.tail (.oncePrepare 1 (by decide +kernel) rfl
    (Or.inl (by decide +kernel)) rfl)).tail (.onceCheck 1 (by decide +kernel))).tail
    (.onceReturn 1 rfl rfl)
  -- task 3 starts to wait on the cell and sleeps, queued
  have run := (received.tail (.cellPrepare 0 (Or.inl (by decide +kernel)) rfl)).tail
    (.cellPush 0 (by decide +kernel))
  exact ⟨init, _, run, rfl, rfl, rfl, rfl, waiters_get_sent_value init run⟩

end Invariant

/-- Tasks 3 and 4 are made and put on CPUs 0 and 1. Task 3 sends 7 through the wait cell, to no
waiter; task 4 enters `wait_sleep`, and an interrupt on CPU 1 comes after its
`prepare_to_sleep`: task 4 is switched out as a sleeping task before it queues itself, after
the send. -/
theorem waitCell_lost_wakeup :
    ∃ s0, SchedInit bootTwoCpus ∧ Relation.ReflTransGen SchedStep bootTwoCpus s0 ∧
      ∃ w, Relation.ReflTransGen WaitStep
          (⟨s0, fun _ => false, WaitCell.new, OnceCell.new, ⟨4⟩, [], fun _ => .outside, [], [],
            none⟩ : WaitSys 2 Nat) w ∧
        w.pc ⟨3⟩ = .outside ∧ w.waitCell.cell = ⟨some 7, true⟩ ∧ w.SwitchedOutWaiting ⟨4⟩ ∧
        w.sched.tasks.isSleeping ⟨4⟩ = true ∧ ⟨4⟩ ∉ w.waitCell.waitingTasks :=
  ⟨twoTasksRunning, schedInit_bootTwoCpus, twoTasksRunning_reachable,
    _, (.tail (.tail (.tail (.single (.cellSendSet 0 7 rfl rfl)) (.cellSendDrain 0 rfl rfl))
      (.cellPrepare 1 (Or.inl rfl) rfl)) (.interrupt 1 rfl rfl)),
    rfl, rfl, ⟨rfl, by decide⟩, rfl, List.not_mem_nil⟩

end RustOs.Sync
