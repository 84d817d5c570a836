import RustOs.Lib.X86
import RustOs.Sched.Run

/-!
# System calls

`sched/syscall.rs` and `jump_to_userspace` of `sched/userspace.rs`. `syscall_init` points
`LSTAR` at `syscall_handler` and masks the interrupt flag with `SFMASK`. `syscall_handler` swaps
to the kernel GS base, saves the user stack pointer in the per-CPU `USER_STACK_SCRATCH`, loads
the stack pointer from `TOP_OF_KERNEL_STACK`, pushes a `TaskRegisters` and calls
`syscall_handler_inner` with its address; on return it pops the registers, stores the stack
pointer back into `TOP_OF_KERNEL_STACK` and returns to user mode with `sysretq`.

The two halves are `syscallHandlerEntry` and `syscallHandlerExit`; the call between them is left open: any
kernel code that returns with the stack pointer, the pushed registers and the user GS base as it
found them (`syscall_round_trip`).
-/

namespace RustOs.Sched
open X86

/-- `TaskRegisters`, `#[repr(packed)]`, its fields from the lowest address up. -/
structure TaskRegisters where
  r15 : UInt64
  r14 : UInt64
  r13 : UInt64
  r12 : UInt64
  rbp : UInt64
  rbx : UInt64
  r11 : UInt64
  r10 : UInt64
  r9 : UInt64
  r8 : UInt64
  rax : UInt64
  rcx : UInt64
  rdx : UInt64
  rsi : UInt64
  rdi : UInt64
  syscallNumberOrIrqOrErrorCode : UInt64
  rip : UInt64
  cs : UInt64
  rflags : UInt64
  rsp : UInt64
  ss : UInt64
  deriving DecidableEq, Repr

namespace TaskRegisters

/-- The `TaskRegisters` at `base`. -/
def read (mem : UInt64 → UInt64) (base : UInt64) : TaskRegisters :=
  ⟨mem (slot base 0), mem (slot base 1), mem (slot base 2), mem (slot base 3), mem (slot base 4),
    mem (slot base 5), mem (slot base 6), mem (slot base 7), mem (slot base 8), mem (slot base 9),
    mem (slot base 10), mem (slot base 11), mem (slot base 12), mem (slot base 13),
    mem (slot base 14), mem (slot base 15), mem (slot base 16), mem (slot base 17),
    mem (slot base 18), mem (slot base 19), mem (slot base 20)⟩

def words (r : TaskRegisters) : List UInt64 :=
  [r.r15, r.r14, r.r13, r.r12, r.rbp, r.rbx, r.r11, r.r10, r.r9, r.r8, r.rax, r.rcx, r.rdx, r.rsi,
    r.rdi, r.syscallNumberOrIrqOrErrorCode, r.rip, r.cs, r.rflags, r.rsp, r.ss]

end TaskRegisters

/-- `USER_DATA_SELECTOR`: entry 3 of the GDT, privilege level 3. -/
def userDataSelector : UInt64 := 3 * 8 + 3

/-- `USER_CODE_SELECTOR`: entry 4 of the GDT, privilege level 3. -/
def userCodeSelector : UInt64 := 4 * 8 + 3

/-- `RFlags::INTERRUPT_FLAG`. -/
def interruptFlag : UInt64 := 0x200

/-- Where the per-CPU variables `TOP_OF_KERNEL_STACK` and `USER_STACK_SCRATCH` are in the GS
segment. -/
structure PerCpu where
  kernelStack : UInt64
  userStackScratch : UInt64

/-- `syscall_handler` up to the call of `syscall_handler_inner`. -/
def syscallHandlerEntry (p : PerCpu) : List Instr :=
  [.swapgs,
    .storeGs p.userStackScratch .rsp,
    .mov .rsp (.gs p.kernelStack),
    .push (.imm userDataSelector),
    .push (.gs p.userStackScratch),
    .push (.reg .r11),
    .push (.imm userCodeSelector),
    .push (.reg .rcx),
    .push (.reg .rdi),
    .push (.reg .rdi), .push (.reg .rsi), .push (.reg .rdx), .push (.reg .rcx), .push (.reg .rax),
    .push (.reg .r8), .push (.reg .r9), .push (.reg .r10), .push (.reg .r11),
    .push (.reg .rbx), .push (.reg .rbp), .push (.reg .r12), .push (.reg .r13), .push (.reg .r14),
    .push (.reg .r15),
    .mov .rdi (.reg .rsp)]

/-- `syscall_handler` after `syscall_handler_inner` returns. -/
def syscallHandlerExit (p : PerCpu) : List Instr :=
  [.pop .r15, .pop .r14, .pop .r13, .pop .r12, .pop .rbp, .pop .rbx,
    .pop .r11, .pop .r10, .pop .r9, .pop .r8, .pop .rax, .pop .rcx, .pop .rdx, .pop .rsi, .pop .rdi,
    .pop .rdi,
    .pop .rcx,
    .add .rsp 8,
    .pop .r11,
    .pop .rax,
    .add .rsp 8,
    .storeGs p.kernelStack .rsp,
    .mov .rsp (.reg .rax),
    .swapgs,
    .sysretq]

/-- `jump_to_userspace(user_instruction_pointer, user_stack_pointer)`. -/
def jumpToUserspace (p : PerCpu) : List Instr :=
  [.storeGs p.kernelStack .rsp,
    .mov .rsp (.reg .rsi),
    .mov .rcx (.reg .rdi),
    .mov .r11 (.imm interruptFlag),
    .swapgs,
    .sysretq]

/-- The operands `syscall_handler` pushes, `ss` first. -/
def entryPushes (p : PerCpu) : List Operand :=
  [.imm userDataSelector, .gs p.userStackScratch, .reg .r11, .imm userCodeSelector, .reg .rcx,
    .reg .rdi, .reg .rdi, .reg .rsi, .reg .rdx, .reg .rcx, .reg .rax, .reg .r8, .reg .r9,
    .reg .r10, .reg .r11, .reg .rbx, .reg .rbp, .reg .r12, .reg .r13, .reg .r14, .reg .r15]

theorem syscallHandlerEntry_eq (p : PerCpu) :
    syscallHandlerEntry p = [.swapgs, .storeGs p.userStackScratch .rsp, .mov .rsp (.gs p.kernelStack)] ++
      (entryPushes p).map .push ++ [.mov .rdi (.reg .rsp)] := rfl

/-- The `TaskRegisters` that `syscall_handler` pushes when it is entered with `regs`. -/
def entryFrame (regs : Reg → UInt64) : TaskRegisters :=
  ⟨regs .r15, regs .r14, regs .r13, regs .r12, regs .rbp, regs .rbx, regs .r11, regs .r10,
    regs .r9, regs .r8, regs .rax, regs .rcx, regs .rdx, regs .rsi, regs .rdi, regs .rdi,
    regs .rcx, userCodeSelector, regs .r11, regs .rsp, userDataSelector⟩

theorem TaskRegisters.read_storeWords (f : TaskRegisters) (mem : UInt64 → UInt64) (base : UInt64) :
    TaskRegisters.read (storeWords mem base f.words) base = f := by
  have stored : ∀ i < 21, storeWords mem base f.words (slot base i) = f.words.getD i 0 := by
    intro i hi
    rw [storeWords_slot (by simpa [TaskRegisters.words] using hi) (by simp [TaskRegisters.words]),
      List.getD_eq_getElem]
  simp (disch := decide) only [TaskRegisters.read, stored]
  rfl

def PerCpu.Apart (p : PerCpu) : Prop := p.userStackScratch ≠ p.kernelStack

instance : DecidablePred PerCpu.Apart := fun p =>
  inferInstanceAs (Decidable (p.userStackScratch ≠ p.kernelStack))

theorem syscallHandlerEntry_spec (p : PerCpu) (m : Machine) (apart : p.Apart)
    (scratch : ∀ i < 21, m.kernelGsBase + p.userStackScratch ≠
      slot (below (m.mem (m.kernelGsBase + p.kernelStack)) 21) i) :
    m.run (syscallHandlerEntry p) =
      { m with
        regs := Function.update (Function.update m.regs .rsp
          (below (m.mem (m.kernelGsBase + p.kernelStack)) 21)) .rdi
          (below (m.mem (m.kernelGsBase + p.kernelStack)) 21)
        gsBase := m.kernelGsBase
        kernelGsBase := m.gsBase
        mem := storeWords (Function.update m.mem (m.kernelGsBase + p.userStackScratch) (m.regs .rsp))
          (below (m.mem (m.kernelGsBase + p.kernelStack)) 21) (entryFrame m.regs).words } := by
  have kernelStack : m.kernelGsBase + p.userStackScratch ≠ m.kernelGsBase + p.kernelStack :=
    fun same => apart (add_left_cancel same)
  rw [syscallHandlerEntry_eq, run_append, run_append]
  simp only [run_cons, run_nil, exec, Machine.setReg, Machine.write, Machine.operand,
    Function.update_of_ne kernelStack.symm]
  rw [run_pushes _ _ (by simp [entryPushes]) ?gs (by simp [entryPushes])]
  case gs =>
    intro offset hoff i hi
    have hoff : offset = p.userStackScratch := by simpa [entryPushes] using hoff
    subst hoff
    exact scratch i hi
  have len : (entryPushes p).length = 21 := rfl
  dsimp only
  simp only [len, Function.update_self, Function.update_idem, Machine.mk.injEq, true_and]
  -- the pushed operands, read after the stack pointer is loaded, are the words of the frame
  congr 1
  simp [entryPushes, entryFrame, TaskRegisters.words, Machine.operand]

def exitRegs (f : TaskRegisters) : Reg → UInt64
  | .rax => f.rsp
  | .rbx => f.rbx
  | .rcx => f.rip
  | .rdx => f.rdx
  | .rsi => f.rsi
  | .rdi => f.syscallNumberOrIrqOrErrorCode
  | .rbp => f.rbp
  | .rsp => f.rsp
  | .r8 => f.r8
  | .r9 => f.r9
  | .r10 => f.r10
  | .r11 => f.rflags
  | .r12 => f.r12
  | .r13 => f.r13
  | .r14 => f.r14
  | .r15 => f.r15

/-- The registers `syscall_handler` pops up to the return address. -/
def exitPops : List Reg :=
  [.r15, .r14, .r13, .r12, .rbp, .rbx, .r11, .r10, .r9, .r8, .rax, .rcx, .rdx, .rsi, .rdi, .rdi, .rcx]

theorem syscallHandlerExit_eq (p : PerCpu) :
    syscallHandlerExit p = exitPops.map .pop ++ [.add .rsp 8] ++ [Reg.r11, .rax].map .pop ++
      [.add .rsp 8, .storeGs p.kernelStack .rsp, .mov .rsp (.reg .rax), .swapgs, .sysretq] := rfl

theorem syscallHandlerExit_spec (p : PerCpu) (m : Machine) :
    m.run (syscallHandlerExit p) =
      { m with
        regs := exitRegs (TaskRegisters.read m.mem (m.regs .rsp))
        rip := (TaskRegisters.read m.mem (m.regs .rsp)).rip
        rflags := ((TaskRegisters.read m.mem (m.regs .rsp)).rflags &&& 0x3C7FD7) ||| 2
        gsBase := m.kernelGsBase
        kernelGsBase := m.gsBase
        mode := .user
        mem := Function.update m.mem (m.gsBase + p.kernelStack) (slot (m.regs .rsp) 21) } := by
  have len : exitPops.length = 17 := rfl
  -- the pops up to the return address, then those of the flags and the user stack pointer
  rw [syscallHandlerExit_eq, run_append, run_append, run_append, run_pops _ _ (by decide)]
  simp only [run_cons, run_nil, exec, Machine.setReg, Function.update_self, Function.update_idem]
  rw [run_pops _ _ (by decide)]
  simp only [Machine.write, Machine.operand, Function.update_self, Function.update_idem,
    List.length_cons, List.length_nil]
  rw [len]
  simp only [slot_add_eight, slot_slot, Machine.mk.injEq, Core.mk.injEq, and_true]
  refine ⟨?regs, ?rip, ?rflags⟩
  case regs =>
    funext r
    cases r <;> simp [loadRegs_cons_slot, slot_slot, exitPops, exitRegs, TaskRegisters.read]
  all_goals simp [loadRegs_cons_slot, slot_slot, exitPops, TaskRegisters.read]

theorem exitRegs_entryFrame (regs : Reg → UInt64) :
    exitRegs (entryFrame regs) = Function.update regs .rax (regs .rsp) := by
  funext r
  cases r <;> rfl

/-- What `syscall_handler_inner` is taken to keep: it returns with the stack pointer, the words of
the frame and both GS bases as they were at its call. -/
structure KeepsFrame (m m' : Machine) : Prop where
  rsp : m'.regs .rsp = m.regs .rsp
  frame : TaskRegisters.read m'.mem (m'.regs .rsp) = TaskRegisters.read m.mem (m.regs .rsp)
  gsBase : m'.gsBase = m.gsBase
  kernelGsBase : m'.kernelGsBase = m.kernelGsBase

section RoundTrip

variable (p : PerCpu) (lstar sfmask : UInt64) (u : Machine)

/-- The top of the kernel stack that a system call from `u` runs on. -/
def topOfKernelStack : UInt64 := u.mem (u.kernelGsBase + p.kernelStack)

/-- The machine at the call of `syscall_handler_inner` when `u` executes `syscall`. -/
def entered : Machine := (syscall lstar sfmask u).run (syscallHandlerEntry p)

variable {p lstar sfmask u}
  (apart : p.Apart)
  (scratch : ∀ i < 21, u.kernelGsBase + p.userStackScratch ≠ slot (below (topOfKernelStack p u) 21) i)
include apart scratch

theorem entered_eq :
    entered p lstar sfmask u =
      { syscall lstar sfmask u with
        regs := Function.update (Function.update (syscall lstar sfmask u).regs .rsp
          (below (topOfKernelStack p u) 21)) .rdi (below (topOfKernelStack p u) 21)
        gsBase := u.kernelGsBase
        kernelGsBase := u.gsBase
        mem := storeWords (Function.update u.mem (u.kernelGsBase + p.userStackScratch) (u.regs .rsp))
          (below (topOfKernelStack p u) 21) (entryFrame (syscall lstar sfmask u).regs).words } :=
  syscallHandlerEntry_spec p _ apart scratch

theorem entered_rsp : (entered p lstar sfmask u).regs .rsp = below (topOfKernelStack p u) 21 := by
  rw [entered_eq apart scratch]
  simp

theorem entered_rdi : (entered p lstar sfmask u).regs .rdi = below (topOfKernelStack p u) 21 := by
  rw [entered_eq apart scratch]
  simp

theorem entered_frame :
    TaskRegisters.read (entered p lstar sfmask u).mem (below (topOfKernelStack p u) 21) =
      entryFrame (syscall lstar sfmask u).regs := by
  rw [entered_eq apart scratch]
  dsimp only
  rw [TaskRegisters.read_storeWords]

theorem syscall_round_trip {m : Machine} (inner : KeepsFrame (entered p lstar sfmask u) m) :
    (m.run (syscallHandlerExit p)).regs =
      Function.update (Function.update (Function.update u.regs .rcx u.rip) .r11 u.rflags) .rax
        (u.regs .rsp) ∧
    (m.run (syscallHandlerExit p)).rip = u.rip ∧
    (m.run (syscallHandlerExit p)).rflags = (u.rflags &&& 0x3C7FD7) ||| 2 ∧
    (m.run (syscallHandlerExit p)).mode = .user ∧
    (m.run (syscallHandlerExit p)).gsBase = u.gsBase ∧
    (m.run (syscallHandlerExit p)).kernelGsBase = u.kernelGsBase ∧
    (m.run (syscallHandlerExit p)).mem (u.kernelGsBase + p.kernelStack) = topOfKernelStack p u := by
  have rsp : m.regs .rsp = below (topOfKernelStack p u) 21 := by
    rw [inner.rsp, entered_rsp apart scratch]
  have frame : TaskRegisters.read m.mem (m.regs .rsp) = entryFrame (syscall lstar sfmask u).regs := by
    rw [inner.frame, entered_rsp apart scratch, entered_frame apart scratch]
  have gsBase : m.gsBase = u.kernelGsBase := by
    rw [inner.gsBase, entered_eq apart scratch]
  have kernelGsBase : m.kernelGsBase = u.gsBase := by
    rw [inner.kernelGsBase, entered_eq apart scratch]
  rw [syscallHandlerExit_spec, frame, exitRegs_entryFrame, rsp, gsBase, kernelGsBase, slot_below_self]
  refine ⟨?regs, ?rip, ?rflags, rfl, rfl, rfl, Function.update_self ..⟩
  all_goals simp [syscall, entryFrame]

end RoundTrip

def bootPerCpu : PerCpu := ⟨0, 8⟩

theorem bootPerCpu_apart : bootPerCpu.Apart := by
  decide

def exitingUser : Machine where
  regs := fun _ => 0
  rip := 0x40_0000
  rflags := 0x202
  cr3 := 0
  gsBase := 0
  kernelGsBase := 0x1000
  mode := .user
  mem := fun _ => 0x8000

theorem exitingUser_scratch :
    ∀ i < 21, exitingUser.kernelGsBase + bootPerCpu.userStackScratch ≠
      slot (below (topOfKernelStack bootPerCpu exitingUser) 21) i := by
  decide

/-- `LSTAR` as `syscall_init` sets it: the address of `syscall_handler`. -/
def handlerAddr : UInt64 := 0xffff_8000_0010_0000

theorem syscall_round_trip_exitingUser :
    KeepsFrame (entered bootPerCpu handlerAddr interruptFlag exitingUser)
      (entered bootPerCpu handlerAddr interruptFlag exitingUser) ∧
    ((entered bootPerCpu handlerAddr interruptFlag exitingUser).run (syscallHandlerExit bootPerCpu)).regs =
      Function.update (Function.update (Function.update exitingUser.regs .rcx exitingUser.rip) .r11
        exitingUser.rflags) .rax (exitingUser.regs .rsp) ∧
    ((entered bootPerCpu handlerAddr interruptFlag exitingUser).run (syscallHandlerExit bootPerCpu)).rip =
      exitingUser.rip ∧
    ((entered bootPerCpu handlerAddr interruptFlag exitingUser).run (syscallHandlerExit bootPerCpu)).rflags =
      (exitingUser.rflags &&& 0x3C7FD7) ||| 2 ∧
    ((entered bootPerCpu handlerAddr interruptFlag exitingUser).run (syscallHandlerExit bootPerCpu)).mode =
      .user ∧
    ((entered bootPerCpu handlerAddr interruptFlag exitingUser).run (syscallHandlerExit bootPerCpu)).gsBase =
      exitingUser.gsBase ∧
    ((entered bootPerCpu handlerAddr interruptFlag exitingUser).run (syscallHandlerExit bootPerCpu)).kernelGsBase =
      exitingUser.kernelGsBase ∧
    ((entered bootPerCpu handlerAddr interruptFlag exitingUser).run (syscallHandlerExit bootPerCpu)).mem
      (exitingUser.kernelGsBase + bootPerCpu.kernelStack) = topOfKernelStack bootPerCpu exitingUser :=
  have keeps : KeepsFrame (entered bootPerCpu handlerAddr interruptFlag exitingUser)
      (entered bootPerCpu handlerAddr interruptFlag exitingUser) := ⟨rfl, rfl, rfl, rfl⟩
  ⟨keeps, syscall_round_trip bootPerCpu_apart exitingUser_scratch keeps⟩


/-! ## The handlers -/

/-- `TaskExitCode`. -/
inductive TaskExitCode where
  | exitSuccess
  | exitFailure (code : UInt64)
  deriving DecidableEq, Repr

/-- `impl From<u64> for TaskExitCode`. -/
def TaskExitCode.from (value : UInt64) : TaskExitCode :=
  if value = 0 then .exitSuccess else .exitFailure value

/-- The functions in `SYSCALL_HANDLERS`. -/
inductive SyscallHandler where
  | syscallExit
  | syscallPrint
  deriving DecidableEq, Repr

def syscallHandlers : List (Option SyscallHandler) := [some .syscallExit, some .syscallPrint]

/-- `SYSCALL_HANDLERS.get(syscall_num as usize).into_iter().flatten().next()`. -/
def handlerFor (syscallNum : UInt64) : Option SyscallHandler :=
  (syscallHandlers[syscallNum.toNat]?).join

namespace SchedState

variable {n : Nat}

/-- `run_scheduler`, with whether it switched to another task: it returns to its caller only
when it did not. -/
def runSchedulerSwitch (s : SchedState n) (cpu : Fin n) (preemptCount : Int) :
    Option (Bool × SchedState n) := do
  let needsPreemption ← s.checkCurrentTaskNeedsPreemption cpu preemptCount
  if !needsPreemption then some (false, s) else s.taskSwapParameters cpu

/-- `syscall_exit(exit_code, ..)`, that is `kill_current_task(TaskExitCode::from(exit_code))`:
the task is marked killed, the exit code goes to its waiters, and `run_scheduler` must not
return, or `kill_current_task` panics (`none`). -/
def syscallExit (s : SchedState n) (cpu : Fin n) (preemptCount : Int) (exitCode : UInt64) :
    Option (TaskExitCode × SchedState n) := do
  let s ← s.killCurrentTask cpu
  let (switched, s) ← s.runSchedulerSwitch cpu preemptCount
  if switched then some (TaskExitCode.from exitCode, s) else none

/-- `syscall_handler_inner` on the frame `registers`: the handler its number picks, with the
frame's `rsi`, `rdx`, `r10`, `r8` and `r9` as arguments, then `run_scheduler`. `syscall_print`
only logs, and its read of the string is left out. -/
def syscallHandlerInner (s : SchedState n) (cpu : Fin n) (preemptCount : Int)
    (registers : TaskRegisters) : Option (SchedState n) :=
  match handlerFor registers.syscallNumberOrIrqOrErrorCode with
  | some .syscallExit =>
      -- does not return: the scheduler has switched away from the killed task
      (s.syscallExit cpu preemptCount registers.rsi).map Prod.snd
  | some .syscallPrint => s.runScheduler cpu preemptCount
  | none => s.runScheduler cpu preemptCount

end SchedState

/-! ## A task that is not ready leaves its CPU -/

section Leave

variable {n : Nat}

theorem swapTo_switches {s : SchedState n} (cpu : Fin n) {prevTaskId nextTaskId : TaskId}
    (hprev : (s.tasks.tasks prevTaskId).isSome) {task : Task}
    (hnext : s.tasks.tasks nextTaskId = some task) (hne : prevTaskId ≠ nextTaskId) :
    ∃ s', s.swapTo cpu prevTaskId nextTaskId = some (true, s') ∧
      s'.currentTaskId cpu = nextTaskId := by
  rw [swapTo_eq hprev hnext]
  exact ⟨_, congrArg some (Prod.ext (by simp [hne]) rfl), Function.update_self ..⟩

theorem checkCurrentTaskNeedsPreemption_leaves {s : SchedState n} {cpu : Fin n}
    (hidle : s.currentTaskId cpu ≠ s.idleTaskId cpu) {task : Task}
    (htask : s.tasks.tasks (s.currentTaskId cpu) = some task)
    (hready : task.desiredState ≠ .readyToRun) :
    s.checkCurrentTaskNeedsPreemption cpu 0 = some true := by
  simp [SchedState.checkCurrentTaskNeedsPreemption, Tasks.getTaskAssert, Tasks.getTask, htask,
    hidle, hready]

variable {s : SchedState n} (hinv : SchedInv s)
include hinv

theorem SchedInv.taskSwapParameters_leaves {cpu : Fin n}
    (hidle : s.currentTaskId cpu ≠ s.idleTaskId cpu) {task : Task}
    (htask : s.tasks.tasks (s.currentTaskId cpu) = some task)
    (hready : task.desiredState ≠ .readyToRun) :
    ∃ s', s.taskSwapParameters cpu = some (true, s') ∧
      s'.currentTaskId cpu ≠ s.currentTaskId cpu := by
  have hinv1 := hinv.afterRemoveKilled
  -- the current task is not pending, so `remove_killed_pending_tasks` keeps it
  have hprev : s.afterRemoveKilled.tasks.tasks (s.currentTaskId cpu) = some task := by
    rw [afterRemoveKilled_tasks, if_neg fun h => hinv.pending_not_current h.1 cpu rfl]
    exact htask
  obtain ⟨r, hpop, hres⟩ := popLoop_spec s.afterRemoveKilled.tasks
    s.afterRemoveKilled.runQueue.pendingTasks [] (fun id h => hinv1.pending_present h)
  unfold SchedState.taskSwapParameters
  rw [hinv.removeKilledPendingTasks_eq]
  simp only [Option.bind_eq_bind, Option.bind_some, Tasks.getTaskAssert, Tasks.getTask, hprev,
    RunQueue.popNextReadyPendingTask, hpop]
  rcases r with ⟨_ | next, pending⟩
  · -- no ready task: the idle task takes the CPU
    obtain ⟨idleTask, hidleTask⟩ := Option.isSome_iff_exists.mp (hinv1.idlePresent cpu)
    dsimp only
    rw [if_neg fun h => h.elim hidle hready]
    obtain ⟨s', hswap, hcur⟩ := swapTo_switches (s := { s.afterRemoveKilled with runQueue := ⟨pending⟩ })
      cpu (by simp [hprev]) hidleTask hidle
    exact ⟨s', hswap, hcur ▸ hidle.symm⟩
  · -- the first ready pending task, which runs on no CPU
    obtain ⟨pre, post, hl, -, -, -⟩ := hres
    have hmem : next ∈ s.afterRemoveKilled.runQueue.pendingTasks := by simp [hl]
    obtain ⟨nextTask, hnext⟩ := Option.isSome_iff_exists.mp (hinv1.pending_present hmem)
    have hne := hinv1.pending_not_current hmem cpu
    obtain ⟨s', hswap, hcur⟩ := swapTo_switches (s := { s.afterRemoveKilled with runQueue := ⟨pending⟩ })
      cpu (by simp [hprev]) hnext hne
    exact ⟨s', hswap, hcur ▸ hne.symm⟩

theorem SchedInv.setCurrentState_eq (cpu : Fin n) (state : DesiredTaskState) :
    ∃ task, s.tasks.tasks (s.currentTaskId cpu) = some task ∧
      s.setCurrentState cpu state = some (s.currentTaskId cpu,
        { s with tasks := s.tasks.setTask (s.currentTaskId cpu) { task with desiredState := state } }) := by
  obtain ⟨task, htask⟩ := Option.isSome_iff_exists.mp (hinv.current_present cpu)
  exact ⟨task, htask, by simp [SchedState.setCurrentState, Tasks.getTaskAssert, Tasks.getTask, htask]⟩

theorem SchedInv.syscallExit_leaves {cpu : Fin n} (hidle : s.currentTaskId cpu ≠ s.idleTaskId cpu)
    (preemptCount : Int) (exitCode : UInt64) :
    ((s.syscallExit cpu preemptCount exitCode).isSome ↔ preemptCount = 0) ∧
    ∃ s', s.syscallExit cpu 0 exitCode = some (TaskExitCode.from exitCode, s') ∧
      s'.currentTaskId cpu ≠ s.currentTaskId cpu ∧ Relation.ReflTransGen SchedStep s s' := by
  obtain ⟨task, htask, hset⟩ := hinv.setCurrentState_eq cpu .killed
  set killed := { s with tasks := s.tasks.setTask (s.currentTaskId cpu) { task with desiredState := .killed } }
  have hkill : s.killCurrentTask cpu = some killed := by
    simp [SchedState.killCurrentTask, hset]
  have hkilledTask : killed.tasks.tasks (killed.currentTaskId cpu) =
      some { task with desiredState := .killed } := by
    simp [killed, Tasks.setTask]
  have hidleKilled : killed.currentTaskId cpu ≠ killed.idleTaskId cpu := hidle
  have hneeds := checkCurrentTaskNeedsPreemption_leaves hidleKilled hkilledTask (by simp)
  obtain ⟨s', hswap, hcur⟩ :=
    (hinv.setCurrentState hset).taskSwapParameters_leaves hidleKilled hkilledTask (by simp)
  have hexit : s.syscallExit cpu 0 exitCode = some (TaskExitCode.from exitCode, s') := by
    simp [SchedState.syscallExit, hkill, SchedState.runSchedulerSwitch, hneeds, hswap]
  refine ⟨?returns, s', hexit, hcur, ?steps⟩
  case steps =>
    -- `kill_current_task`, then the `task_swap_parameters` of its `run_scheduler`
    exact .tail (.single (.killCurrentTask cpu hkill)) (.taskSwapParameters cpu hswap)
  case returns =>
    rcases lt_trichotomy preemptCount 0 with hneg | rfl | hpos
    · simp [SchedState.syscallExit, hkill, SchedState.runSchedulerSwitch,
        SchedState.checkCurrentTaskNeedsPreemption, Tasks.getTaskAssert, Tasks.getTask, hneg,
        hneg.ne]
    · simp [hexit]
    · simp [SchedState.syscallExit, hkill, SchedState.runSchedulerSwitch,
        SchedState.checkCurrentTaskNeedsPreemption, Tasks.getTaskAssert, Tasks.getTask,
        hkilledTask, hpos, hpos.ne', not_lt.mpr hpos.le]

end Leave

/-! ## An exit system call from user space -/

-- The `TaskRegisters` that `syscall_handler_inner` gets, through `rdi`, when `u` executes
-- `syscall`.
def enteredRegisters (p : PerCpu) (lstar sfmask : UInt64) (u : Machine) : TaskRegisters :=
  TaskRegisters.read (entered p lstar sfmask u).mem ((entered p lstar sfmask u).regs .rdi)

theorem enteredRegisters_eq {p : PerCpu} {lstar sfmask : UInt64} {u : Machine} (apart : p.Apart)
    (scratch : ∀ i < 21, u.kernelGsBase + p.userStackScratch ≠ slot (below (topOfKernelStack p u) 21) i) :
    enteredRegisters p lstar sfmask u = entryFrame (syscall lstar sfmask u).regs := by
  rw [enteredRegisters, entered_rdi apart scratch, entered_frame apart scratch]

/-- A user task that executes `syscall` with `rdi = 0` reaches `syscall_exit` with its `rsi` as
the exit code. From any reachable state of the scheduler, with the task current on its CPU and no
idle task, the call returns only at preempt count zero, and then the task is killed and the CPU
switched to another task, in steps of the scheduler. -/
theorem syscall_exit_leaves_cpu {n : Nat} {s0 s : SchedState n} (hinit : SchedInit s0)
    (hreach : Relation.ReflTransGen SchedStep s0 s) {cpu : Fin n}
    (hidle : s.currentTaskId cpu ≠ s.idleTaskId cpu) {p : PerCpu} {lstar sfmask : UInt64}
    {u : Machine} (apart : p.Apart)
    (scratch : ∀ i < 21, u.kernelGsBase + p.userStackScratch ≠ slot (below (topOfKernelStack p u) 21) i)
    (hexit : u.regs .rdi = 0) (preemptCount : Int) :
    ((s.syscallHandlerInner cpu preemptCount (enteredRegisters p lstar sfmask u)).isSome ↔
      preemptCount = 0) ∧
    ∃ s', s.syscallExit cpu 0 (u.regs .rsi) = some (TaskExitCode.from (u.regs .rsi), s') ∧
      s.syscallHandlerInner cpu 0 (enteredRegisters p lstar sfmask u) = some s' ∧
      s'.currentTaskId cpu ≠ s.currentTaskId cpu ∧ Relation.ReflTransGen SchedStep s0 s' := by
  -- the frame holds the user's `rdi` as the number and its `rsi` as the first argument
  have hinner : ∀ pc, s.syscallHandlerInner cpu pc (enteredRegisters p lstar sfmask u) =
      (s.syscallExit cpu pc (u.regs .rsi)).map Prod.snd := by
    intro pc
    rw [enteredRegisters_eq apart scratch]
    simp [SchedState.syscallHandlerInner, entryFrame, syscall, hexit, handlerFor, syscallHandlers]
  obtain ⟨hiff, s', hs', hcur, hsteps⟩ :=
    (schedInv_reachable hinit hreach).syscallExit_leaves hidle preemptCount (u.regs .rsi)
  refine ⟨by simpa [hinner] using hiff, s', hs', by rw [hinner, hs']; rfl, hcur,
    hreach.trans hsteps⟩

-- On one CPU, after the first `new_task` and a switch to it, task 2 runs.
def bootOneCpuRunning : SchedState 1 :=
  match (bootOneCpuCreating.newTaskQueue ⟨2⟩).taskSwapParameters ⟨0, Nat.one_pos⟩ with
  | some (_, s) => s
  | none => bootOneCpu

theorem taskSwapParameters_bootOneCpuQueued :
    (bootOneCpuCreating.newTaskQueue ⟨2⟩).taskSwapParameters 0 = some (true, bootOneCpuRunning) :=
  rfl

theorem reach_bootOneCpuRunning : Relation.ReflTransGen SchedStep bootOneCpu bootOneCpuRunning :=
  .tail (.tail (.single (.newTaskTasks newTaskTasks_bootOneCpu)) (.newTaskQueue (by decide)))
    (.taskSwapParameters 0 taskSwapParameters_bootOneCpuQueued)

theorem syscall_exit_leaves_cpu_first :
    bootOneCpuRunning.currentTaskId 0 ≠ bootOneCpuRunning.idleTaskId 0 ∧
    exitingUser.regs .rdi = 0 ∧
    ((bootOneCpuRunning.syscallHandlerInner 0 0 (enteredRegisters bootPerCpu handlerAddr interruptFlag
      exitingUser)).isSome ↔ (0 : Int) = 0) ∧
    ∃ s', bootOneCpuRunning.syscallExit 0 0 (exitingUser.regs .rsi) =
        some (TaskExitCode.from (exitingUser.regs .rsi), s') ∧
      bootOneCpuRunning.syscallHandlerInner 0 0
        (enteredRegisters bootPerCpu handlerAddr interruptFlag exitingUser) = some s' ∧
      s'.currentTaskId 0 ≠ bootOneCpuRunning.currentTaskId 0 ∧
      Relation.ReflTransGen SchedStep bootOneCpu s' :=
  have hidle : bootOneCpuRunning.currentTaskId 0 ≠ bootOneCpuRunning.idleTaskId 0 := by decide
  ⟨hidle, rfl, syscall_exit_leaves_cpu schedInit_bootOneCpu reach_bootOneCpuRunning hidle
    bootPerCpu_apart exitingUser_scratch rfl 0⟩

end RustOs.Sched
