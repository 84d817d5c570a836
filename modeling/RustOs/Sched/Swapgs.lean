import RustOs.Memory.Address
import RustOs.Sched.Syscall
import RustOs.Lib.Reach

/-!
# The GS base on the paths into and out of the kernel

Kernel code reaches its per-CPU variables through the GS segment, so it must run with the GS base
holding its processor's per-CPU area, and user code must neither find that area there nor put
anything in its place. Three paths exchange the GS base with `IA32_KERNEL_GS_BASE`:
`syscall_handler` on entry and again right before its `sysretq`, `jump_to_userspace` right before
its `sysretq`, and every interrupt and exception handler through `with_swapgs_accounting`, which
swaps on entry only when `gsbase_is_kernel` finds the GS base below `HIGHER_HALF_START`, and
swaps back after the handler exactly when it swapped on entry.

A run (`GsStep`) is any interleaving over the processors of user code, kernel code, these paths,
interrupts at any point (inside each other and inside the entry and exit paths) and switches of
tasks, so that a task can leave a handler on another processor than the one it entered it on.
`kernel_gs_is_percpu`: in every reachable state a processor in kernel code holds its own per-CPU
area in the GS base, and one anywhere else holds it in `IA32_KERNEL_GS_BASE` and a GS base below
the higher half; every handler a task is inside of swaps back on its way out exactly when it
interrupted code that was not kernel code.
-/

namespace RustOs.Sched
open X86 Memory

/-- `gsbase_is_kernel`. -/
def gsbaseIsKernel (m : Machine) : Bool := higherHalfStart ≤ m.gsBase

/-- `with_swapgs_accounting` up to the call of its closure: `came_from_kernel`, and the machine
after the `swapgs` it runs when that is false. -/
def withSwapgsAccountingEnter (m : Machine) : Bool × Machine :=
  let cameFromKernel := gsbaseIsKernel m
  (cameFromKernel, if !cameFromKernel then exec m .swapgs else m)

/-- `with_swapgs_accounting` after its closure returns. -/
def withSwapgsAccountingLeave (cameFromKernel : Bool) (m : Machine) : Machine :=
  if !cameFromKernel then exec m .swapgs else m

inductive GsPoint
  | user
  | kernel
  /-- after `syscall`, before `syscall_handler` -/
  | syscallEntry
  /-- in `syscall_handler` after its second `swapgs` -/
  | syscallExit
  /-- in `jump_to_userspace` after its `swapgs` -/
  | jumpExit
  deriving DecidableEq

def GsPoint.mode : GsPoint → Mode
  | .user => .user
  | _ => .kernel

/-- A system call, or an interrupt handler with the `came_from_kernel` of its
`with_swapgs_accounting` and the point it interrupted. -/
inductive GsFrame
  | syscall
  | interrupt (cameFromKernel : Bool) (resume : GsPoint)
  deriving DecidableEq

structure GsTask where
  point : GsPoint
  frames : List GsFrame

structure GsSystem (n : Nat) (τ : Type) where
  mem : UInt64 → UInt64
  cores : Fin n → Core
  running : Fin n → τ
  tasks : τ → GsTask

namespace GsSystem

variable {n : Nat} {τ : Type}

def machine (s : GsSystem n τ) (c : Fin n) : Machine := ⟨s.cores c, s.mem⟩

def current (s : GsSystem n τ) (c : Fin n) : GsTask := s.tasks (s.running c)

def boot (percpu : Fin n → UInt64) (mem : UInt64 → UInt64) (cores : Fin n → Core)
    (first : Fin n → τ) : GsSystem n τ :=
  ⟨mem, fun c => { cores c with gsBase := percpu c, kernelGsBase := 0, mode := .kernel }, first,
    fun _ => ⟨.kernel, []⟩⟩

def switchTo (s : GsSystem n τ) (c : Fin n) (t : τ) : GsSystem n τ :=
  { s with running := Function.update s.running c t }

@[simp] theorem running_switchTo (s : GsSystem n τ) (c : Fin n) (t : τ) :
    (s.switchTo c t).running = Function.update s.running c t := rfl

@[simp] theorem tasks_switchTo (s : GsSystem n τ) (c : Fin n) (t : τ) :
    (s.switchTo c t).tasks = s.tasks := rfl

@[simp] theorem machine_toCore (s : GsSystem n τ) (c : Fin n) : (s.machine c).toCore = s.cores c :=
  rfl

variable [DecidableEq τ]

def set (s : GsSystem n τ) (c : Fin n) (m : Machine) (task : GsTask) : GsSystem n τ :=
  { s with mem := m.mem, cores := Function.update s.cores c m.toCore,
           tasks := Function.update s.tasks (s.running c) task }

@[simp] theorem running_set (s : GsSystem n τ) (c : Fin n) (m : Machine) (task : GsTask) :
    (s.set c m task).running = s.running := rfl

@[simp] theorem cores_set_self (s : GsSystem n τ) (c : Fin n) (m : Machine) (task : GsTask) :
    (s.set c m task).cores c = m.toCore := Function.update_self _ _ _

theorem cores_set_of_ne (s : GsSystem n τ) {c c' : Fin n} (m : Machine) (task : GsTask)
    (h : c' ≠ c) : (s.set c m task).cores c' = s.cores c' := Function.update_of_ne h _ _

@[simp] theorem tasks_set_self (s : GsSystem n τ) (c : Fin n) (m : Machine) (task : GsTask) :
    (s.set c m task).tasks (s.running c) = task := Function.update_self _ _ _

@[simp] theorem current_set_self (s : GsSystem n τ) (c : Fin n) (m : Machine) (task : GsTask) :
    (s.set c m task).current c = task := s.tasks_set_self c m task

theorem tasks_set_of_ne (s : GsSystem n τ) (c : Fin n) (m : Machine) (task : GsTask) {t : τ}
    (h : t ≠ s.running c) : (s.set c m task).tasks t = s.tasks t := Function.update_of_ne h _ _

end GsSystem

def GsBases (percpu gsBase kernelGsBase : UInt64) : GsPoint → Prop
  | .kernel => gsBase = percpu ∧ kernelGsBase < higherHalfStart
  | _ => gsBase < higherHalfStart ∧ kernelGsBase = percpu

/-- A handler swaps back on its way out exactly when it did not interrupt kernel code. -/
def GsFrame.Ok : GsFrame → Prop
  | .syscall => True
  | .interrupt cameFromKernel resume => (cameFromKernel = true ↔ resume = .kernel)

theorem gsBases_of_ne {p g k : UInt64} {q : GsPoint} (hq : q ≠ .kernel) :
    GsBases p g k q ↔ g < higherHalfStart ∧ k = p := by
  cases q
  case kernel => exact absurd rfl hq
  all_goals exact Iff.rfl

theorem gsBases_swap {p g k : UInt64} {q : GsPoint} (hq : q ≠ .kernel) :
    GsBases p k g q ↔ GsBases p g k .kernel := by
  rw [gsBases_of_ne hq, GsBases, and_comm]

theorem gsbaseIsKernel_iff {p : UInt64} {m : Machine} {q : GsPoint} (hp : higherHalfStart ≤ p)
    (h : GsBases p m.gsBase m.kernelGsBase q) : gsbaseIsKernel m = true ↔ q = .kernel := by
  by_cases kernel : q = .kernel
  · subst kernel
    have here : m.gsBase = p := h.1
    simpa [gsbaseIsKernel, here] using hp
  · have low : m.gsBase < higherHalfStart := ((gsBases_of_ne kernel).mp h).1
    simpa [gsbaseIsKernel, kernel, UInt64.not_le] using low

section Step

variable {n : Nat} {τ : Type} [DecidableEq τ]

/-- The steps of the processors that touch the GS bases, the mode or the point of a task. The
system call entry is one step, as `SFMASK` masks interrupts on it; the exit up to its `swapgs`
is one step, as an interrupt before the `swapgs` comes at a point of kernel code. -/
inductive GsStep (lstar : UInt64) (p : PerCpu) : GsSystem n τ → GsSystem n τ → Prop
  | user {s : GsSystem n τ} (c : Fin n) (m : Machine) (here : (s.current c).point = .user)
      (gsBase : m.gsBase < higherHalfStart)
      (kernelGsBase : m.kernelGsBase = (s.cores c).kernelGsBase) (mode : m.mode = .user) :
      GsStep lstar p s (s.set c m (s.current c))
  | kernel {s : GsSystem n τ} (c : Fin n) (m : Machine) (here : (s.current c).point = .kernel)
      (gsBase : m.gsBase = (s.cores c).gsBase)
      (kernelGsBase : m.kernelGsBase = (s.cores c).kernelGsBase) (mode : m.mode = .kernel) :
      GsStep lstar p s (s.set c m (s.current c))
  | syscall {s : GsSystem n τ} (c : Fin n) (here : (s.current c).point = .user) :
      GsStep lstar p s
        (s.set c (X86.syscall lstar interruptFlag (s.machine c)) ⟨.syscallEntry, (s.current c).frames⟩)
  | syscallHandlerEntry {s : GsSystem n τ} (c : Fin n) (here : (s.current c).point = .syscallEntry) :
      GsStep lstar p s
        (s.set c ((s.machine c).run (syscallHandlerEntry p)) ⟨.kernel, .syscall :: (s.current c).frames⟩)
  | syscallHandlerExit {s : GsSystem n τ} (c : Fin n) {rest : List GsFrame}
      (here : (s.current c).point = .kernel) (inside : (s.current c).frames = .syscall :: rest) :
      GsStep lstar p s (s.set c ((s.machine c).run (syscallHandlerExit p).dropLast) ⟨.syscallExit, rest⟩)
  /-- The end of `task_setup` of a user task, outside any handler. -/
  | jumpToUserspace {s : GsSystem n τ} (c : Fin n) (here : (s.current c).point = .kernel)
      (outside : (s.current c).frames = []) :
      GsStep lstar p s (s.set c ((s.machine c).run (jumpToUserspace p).dropLast) ⟨.jumpExit, []⟩)
  | sysretq {s : GsSystem n τ} (c : Fin n)
      (here : (s.current c).point = .syscallExit ∨ (s.current c).point = .jumpExit) :
      GsStep lstar p s (s.set c (exec (s.machine c) .sysretq) ⟨.user, (s.current c).frames⟩)
  /-- An interrupt or exception at any point: the processor enters kernel mode and the handler
  starts with `with_swapgs_accounting`. -/
  | interrupt {s : GsSystem n τ} (c : Fin n) :
      GsStep lstar p s
        (s.set c (withSwapgsAccountingEnter { s.machine c with mode := .kernel }).2
          ⟨.kernel, .interrupt (withSwapgsAccountingEnter { s.machine c with mode := .kernel }).1
            (s.current c).point :: (s.current c).frames⟩)
  /-- The handler's closure returns: `with_swapgs_accounting` ends, and `iretq` resumes the
  interrupted code in its mode. -/
  | iretq {s : GsSystem n τ} (c : Fin n) {cameFromKernel : Bool} {resume : GsPoint}
      {rest : List GsFrame} (here : (s.current c).point = .kernel)
      (inside : (s.current c).frames = .interrupt cameFromKernel resume :: rest) :
      GsStep lstar p s
        (s.set c { withSwapgsAccountingLeave cameFromKernel (s.machine c) with mode := resume.mode }
          ⟨resume, rest⟩)
  | switch {s : GsSystem n τ} (c : Fin n) (t : τ) (here : (s.current c).point = .kernel)
      (idle : ∀ c', s.running c' ≠ t) :
      GsStep lstar p s (s.switchTo c t)

end Step

structure GsInv {n : Nat} {τ : Type} (percpu : Fin n → UInt64) (s : GsSystem n τ) : Prop where
  bases : ∀ c, GsBases (percpu c) (s.cores c).gsBase (s.cores c).kernelGsBase (s.current c).point
  mode : ∀ c, (s.cores c).mode = (s.current c).point.mode
  frames : ∀ t, ∀ f ∈ (s.tasks t).frames, f.Ok
  suspended : ∀ t, (∀ c, s.running c ≠ t) → (s.tasks t).point = .kernel
  distinct : Function.Injective s.running

theorem gsState_syscallHandlerEntry (p : PerCpu) (m : Machine) :
    gsState (m.run (syscallHandlerEntry p)) = (m.kernelGsBase, m.gsBase, m.mode) :=
  @gsState_run_swapgs [] (syscallHandlerEntry p).tail (by simp) (by simp [syscallHandlerEntry]) m

theorem gsState_syscallHandlerExit (p : PerCpu) (m : Machine) :
    gsState (m.run (syscallHandlerExit p).dropLast) = (m.kernelGsBase, m.gsBase, m.mode) :=
  @gsState_run_swapgs (syscallHandlerExit p).dropLast.dropLast [] (by simp [syscallHandlerExit])
    (by simp) m

theorem gsState_jumpToUserspace (p : PerCpu) (m : Machine) :
    gsState (m.run (jumpToUserspace p).dropLast) = (m.kernelGsBase, m.gsBase, m.mode) :=
  @gsState_run_swapgs (jumpToUserspace p).dropLast.dropLast [] (by simp [jumpToUserspace])
    (by simp) m

section Invariant

variable {n : Nat} {τ : Type} [DecidableEq τ] {percpu : Fin n → UInt64} {s : GsSystem n τ}

theorem GsInv.set (inv : GsInv percpu s) {c : Fin n} {m : Machine} {task : GsTask}
    (bases : GsBases (percpu c) m.gsBase m.kernelGsBase task.point)
    (mode : m.mode = task.point.mode) (frames : ∀ f ∈ task.frames, f.Ok) :
    GsInv percpu (s.set c m task) where
  bases c' := by
    by_cases same : c' = c
    · subst same
      simpa using bases
    · have other : (s.set c m task).current c' = s.current c' :=
        s.tasks_set_of_ne c m task (inv.distinct.ne same)
      rw [other, s.cores_set_of_ne m task same]
      exact inv.bases c'
  mode c' := by
    by_cases same : c' = c
    · subst same
      simpa using mode
    · have other : (s.set c m task).current c' = s.current c' :=
        s.tasks_set_of_ne c m task (inv.distinct.ne same)
      rw [other, s.cores_set_of_ne m task same]
      exact inv.mode c'
  frames t := by
    by_cases same : t = s.running c
    · subst same
      rw [s.tasks_set_self]
      exact frames
    · rw [s.tasks_set_of_ne c m task same]
      exact inv.frames t
  suspended t idle := by
    have notHere : t ≠ s.running c := (idle c).symm
    rw [s.tasks_set_of_ne c m task notHere]
    exact inv.suspended t idle
  distinct := inv.distinct

omit [DecidableEq τ] in
theorem GsInv.current_frames (inv : GsInv percpu s) (c : Fin n) : ∀ f ∈ (s.current c).frames, f.Ok :=
  inv.frames (s.running c)

theorem GsInv.keep (inv : GsInv percpu s) {c : Fin n} {m : Machine} {task : GsTask}
    (side : (s.current c).point = .kernel ↔ task.point = .kernel)
    (gs : m.gsBase = (s.cores c).gsBase) (kgs : m.kernelGsBase = (s.cores c).kernelGsBase)
    (mode : m.mode = task.point.mode) (frames : ∀ f ∈ task.frames, f.Ok) :
    GsInv percpu (s.set c m task) := by
  have before := inv.bases c
  refine inv.set ?_ mode frames
  rw [gs, kgs]
  by_cases kernel : (s.current c).point = .kernel
  · rw [side.mp kernel]
    rwa [kernel] at before
  · rw [gsBases_of_ne (mt side.mpr kernel)]
    exact (gsBases_of_ne kernel).mp before

theorem GsInv.swapIn (inv : GsInv percpu s) {c : Fin n} {m : Machine} {task : GsTask}
    (outside : (s.current c).point ≠ .kernel) (inside : task.point = .kernel)
    (gs : m.gsBase = (s.cores c).kernelGsBase) (kgs : m.kernelGsBase = (s.cores c).gsBase)
    (mode : m.mode = task.point.mode) (frames : ∀ f ∈ task.frames, f.Ok) :
    GsInv percpu (s.set c m task) := by
  have before := (gsBases_swap outside).mp (inv.bases c)
  refine inv.set ?_ mode frames
  rw [inside, gs, kgs]
  exact before

theorem GsInv.swapOut (inv : GsInv percpu s) {c : Fin n} {m : Machine} {task : GsTask}
    (inside : (s.current c).point = .kernel) (outside : task.point ≠ .kernel)
    (gs : m.gsBase = (s.cores c).kernelGsBase) (kgs : m.kernelGsBase = (s.cores c).gsBase)
    (mode : m.mode = task.point.mode) (frames : ∀ f ∈ task.frames, f.Ok) :
    GsInv percpu (s.set c m task) := by
  have before := inv.bases c
  rw [inside] at before
  refine inv.set ?_ mode frames
  rw [gs, kgs]
  exact (gsBases_swap outside).mpr before

omit [DecidableEq τ] in
theorem GsInv.frames_of_cons (inv : GsInv percpu s) {c : Fin n} {f : GsFrame} {rest : List GsFrame}
    (inside : (s.current c).frames = f :: rest) : f.Ok ∧ ∀ g ∈ rest, g.Ok := by
  have frames := inv.current_frames c
  rw [inside] at frames
  exact List.forall_mem_cons.mp frames

theorem GsInv.user (inv : GsInv percpu s) {c : Fin n} {m : Machine}
    (here : (s.current c).point = .user) (gsBase : m.gsBase < higherHalfStart)
    (kgs : m.kernelGsBase = (s.cores c).kernelGsBase) (mode : m.mode = .user) :
    GsInv percpu (s.set c m (s.current c)) := by
  have before := inv.bases c
  rw [here, gsBases_of_ne (by decide)] at before
  refine inv.set ?_ (by rw [mode, here]; rfl) (inv.current_frames c)
  rw [here, gsBases_of_ne (by decide), kgs]
  exact ⟨gsBase, before.2⟩

theorem GsInv.syscallHandlerEntry (inv : GsInv percpu s) {c : Fin n} (p : PerCpu)
    (here : (s.current c).point = .syscallEntry) :
    GsInv percpu (s.set c ((s.machine c).run (syscallHandlerEntry p))
      ⟨.kernel, .syscall :: (s.current c).frames⟩) := by
  have ran := gsState_syscallHandlerEntry p (s.machine c)
  simp only [gsState, Prod.mk.injEq] at ran
  obtain ⟨gs, kgs, mode⟩ := ran
  refine inv.swapIn (by rw [here]; decide) rfl gs kgs ?_ ?_
  · rw [mode]
    exact (inv.mode c).trans (by rw [here]; rfl)
  · simpa [GsFrame.Ok] using inv.current_frames c

theorem GsInv.syscallHandlerExit (inv : GsInv percpu s) {c : Fin n} (p : PerCpu)
    {rest : List GsFrame} (here : (s.current c).point = .kernel)
    (inside : (s.current c).frames = .syscall :: rest) :
    GsInv percpu (s.set c ((s.machine c).run (syscallHandlerExit p).dropLast) ⟨.syscallExit, rest⟩) := by
  have ran := gsState_syscallHandlerExit p (s.machine c)
  simp only [gsState, Prod.mk.injEq] at ran
  obtain ⟨gs, kgs, mode⟩ := ran
  refine inv.swapOut here (by simp) gs kgs ?_ (inv.frames_of_cons inside).2
  rw [mode]
  exact (inv.mode c).trans (by rw [here]; rfl)

theorem GsInv.jumpToUserspace (inv : GsInv percpu s) {c : Fin n} (p : PerCpu)
    (here : (s.current c).point = .kernel) :
    GsInv percpu (s.set c ((s.machine c).run (jumpToUserspace p).dropLast) ⟨.jumpExit, []⟩) := by
  have ran := gsState_jumpToUserspace p (s.machine c)
  simp only [gsState, Prod.mk.injEq] at ran
  obtain ⟨gs, kgs, mode⟩ := ran
  refine inv.swapOut here (by simp) gs kgs ?_ (by simp)
  rw [mode]
  exact (inv.mode c).trans (by rw [here]; rfl)

theorem withSwapgsAccountingEnter_eq (m : Machine) :
    withSwapgsAccountingEnter m = (gsbaseIsKernel m, withSwapgsAccountingLeave (gsbaseIsKernel m) m) :=
  rfl

theorem GsInv.interrupt (inv : GsInv percpu s) (hpercpu : ∀ c, higherHalfStart ≤ percpu c)
    (c : Fin n) :
    GsInv percpu (s.set c (withSwapgsAccountingEnter { s.machine c with mode := .kernel }).2
      ⟨.kernel, .interrupt (withSwapgsAccountingEnter { s.machine c with mode := .kernel }).1
        (s.current c).point :: (s.current c).frames⟩) := by
  have check := gsbaseIsKernel_iff (m := { s.machine c with mode := .kernel }) (hpercpu c) (inv.bases c)
  rw [withSwapgsAccountingEnter_eq]
  by_cases kernel : (s.current c).point = .kernel
  · -- an interrupt in kernel code leaves the GS base alone
    rw [check.mpr kernel]
    refine inv.keep (by simpa using kernel) rfl rfl rfl ?_
    simpa [GsFrame.Ok, kernel] using inv.current_frames c
  · -- an interrupt anywhere else swaps to the kernel's GS base
    rw [Bool.eq_false_iff.mpr (mt check.mp kernel)]
    refine inv.swapIn kernel rfl rfl rfl rfl ?_
    simpa [GsFrame.Ok, kernel] using inv.current_frames c

theorem GsInv.iretq (inv : GsInv percpu s) {c : Fin n} {cameFromKernel : Bool} {resume : GsPoint}
    {rest : List GsFrame} (here : (s.current c).point = .kernel)
    (inside : (s.current c).frames = .interrupt cameFromKernel resume :: rest) :
    GsInv percpu (s.set c { withSwapgsAccountingLeave cameFromKernel (s.machine c) with
      mode := resume.mode } ⟨resume, rest⟩) := by
  obtain ⟨top, frames⟩ := inv.frames_of_cons inside
  cases cameFromKernel with
  | true =>
      have kernel : resume = .kernel := top.mp rfl
      exact inv.keep (by rw [here, kernel]) rfl rfl rfl frames
  | false =>
      have user : resume ≠ .kernel := fun kernel => Bool.false_ne_true (top.mpr kernel)
      exact inv.swapOut here user rfl rfl rfl frames

omit [DecidableEq τ] in
theorem GsInv.switchTo (inv : GsInv percpu s) {c : Fin n} {t : τ}
    (here : (s.current c).point = .kernel) (idle : ∀ c', s.running c' ≠ t) :
    GsInv percpu (s.switchTo c t) := by
  have resumed : (s.tasks t).point = .kernel := inv.suspended t idle
  have current : ∀ c', ((s.switchTo c t).current c').point = (s.current c').point := by
    intro c'
    by_cases same : c' = c
    · subst same
      rw [GsSystem.current, GsSystem.running_switchTo, Function.update_self, GsSystem.tasks_switchTo,
        resumed, here]
    · rw [GsSystem.current, GsSystem.running_switchTo, Function.update_of_ne same]
      rfl
  refine ⟨fun c' => ?bases, fun c' => ?mode, inv.frames, ?suspended, ?distinct⟩
  case bases =>
    rw [current c']
    exact inv.bases c'
  case mode =>
    rw [current c']
    exact inv.mode c'
  case suspended =>
    intro u notRunning
    by_cases prev : u = s.running c
    · rw [prev]
      exact here
    · refine inv.suspended u fun c' same => ?_
      by_cases mine : c' = c
      · exact prev (same ▸ mine ▸ rfl)
      · exact notRunning c' (by rwa [GsSystem.running_switchTo, Function.update_of_ne mine])
  case distinct =>
    intro c₁ c₂ same
    simp only [GsSystem.running_switchTo] at same
    by_cases h₁ : c₁ = c <;> by_cases h₂ : c₂ = c
    · rw [h₁, h₂]
    · rw [h₁, Function.update_self, Function.update_of_ne h₂] at same
      exact absurd same.symm (idle c₂)
    · rw [h₂, Function.update_self, Function.update_of_ne h₁] at same
      exact absurd same (idle c₁)
    · rw [Function.update_of_ne h₁, Function.update_of_ne h₂] at same
      exact inv.distinct same

theorem GsInv.step (hpercpu : ∀ c, higherHalfStart ≤ percpu c) {lstar : UInt64} {p : PerCpu}
    {s' : GsSystem n τ} (inv : GsInv percpu s) (step : GsStep lstar p s s') : GsInv percpu s' := by
  cases step with
  | user c m here gsBase kgs mode => exact inv.user here gsBase kgs mode
  | kernel c m here gs kgs mode =>
      exact inv.keep Iff.rfl gs kgs (by rw [mode, here]; rfl) (inv.current_frames c)
  | syscall c here => exact inv.keep (by rw [here]; simp) rfl rfl rfl (inv.current_frames c)
  | syscallHandlerEntry c here => exact inv.syscallHandlerEntry p here
  | syscallHandlerExit c here inside => exact inv.syscallHandlerExit p here inside
  | jumpToUserspace c here outside => exact inv.jumpToUserspace p here
  | sysretq c here =>
      have outside : (s.current c).point ≠ .kernel := by
        rcases here with exit | exit <;> rw [exit] <;> decide
      exact inv.keep (by simpa using outside) rfl rfl rfl (inv.current_frames c)
  | interrupt c => exact inv.interrupt hpercpu c
  | iretq c here inside => exact inv.iretq here inside
  | switch c t here idle => exact inv.switchTo here idle

theorem zero_lt_higherHalfStart : (0 : UInt64) < higherHalfStart := by decide

omit [DecidableEq τ] in
theorem gsInv_boot {mem : UInt64 → UInt64} {cores : Fin n → Core} {first : Fin n → τ}
    (distinct : Function.Injective first) : GsInv percpu (GsSystem.boot percpu mem cores first) where
  bases _ := ⟨rfl, zero_lt_higherHalfStart⟩
  mode _ := rfl
  frames _ := by simp [GsSystem.boot]
  suspended _ _ := rfl
  distinct := distinct

theorem gsInv_reachable (hpercpu : ∀ c, higherHalfStart ≤ percpu c) {lstar : UInt64} {p : PerCpu}
    {mem : UInt64 → UInt64} {cores : Fin n → Core} {first : Fin n → τ}
    (distinct : Function.Injective first)
    (reach : Relation.ReflTransGen (GsStep lstar p) (GsSystem.boot percpu mem cores first) s) :
    GsInv percpu s :=
  Reach.invariant (gsInv_boot distinct) (fun _ _ inv step => inv.step hpercpu step) reach

/-- In every reachable state a processor in kernel code runs in kernel mode with its own per-CPU
area in the GS base; a processor anywhere else holds that area in `IA32_KERNEL_GS_BASE` and a GS
base below the higher half; and every handler a task is inside of swaps back on its way out
exactly when it interrupted code that was not kernel code. -/
theorem kernel_gs_is_percpu (hpercpu : ∀ c, higherHalfStart ≤ percpu c) {lstar : UInt64}
    {p : PerCpu} {mem : UInt64 → UInt64} {cores : Fin n → Core} {first : Fin n → τ}
    (distinct : Function.Injective first)
    (reach : Relation.ReflTransGen (GsStep lstar p) (GsSystem.boot percpu mem cores first) s) :
    (∀ c, (s.current c).point = .kernel → (s.cores c).gsBase = percpu c ∧ (s.cores c).mode = .kernel) ∧
    (∀ c, (s.current c).point ≠ .kernel →
      (s.cores c).kernelGsBase = percpu c ∧ (s.cores c).gsBase < higherHalfStart) ∧
    (∀ t cameFromKernel resume, .interrupt cameFromKernel resume ∈ (s.tasks t).frames →
      (cameFromKernel = false ↔ resume ≠ .kernel)) := by
  have inv := gsInv_reachable hpercpu distinct reach
  refine ⟨fun c kernel => ?_, fun c outside => ?_, fun t cameFromKernel resume pending => ?_⟩
  · have bases := inv.bases c
    rw [kernel] at bases
    exact ⟨bases.1, (inv.mode c).trans (by rw [kernel]; rfl)⟩
  · have bases := (gsBases_of_ne outside).mp (inv.bases c)
    exact ⟨bases.2, bases.1⟩
  · have ok : cameFromKernel = true ↔ resume = .kernel := inv.frames t _ pending
    rw [← Bool.not_eq_true, ok]

end Invariant

/-! A run on two processors: task 0 goes to user code on processor 0 and makes a system call,
while processor 1 takes an interrupt in task 1 and its handler switches to task 2. -/

def cpu0 : Fin 2 := ⟨0, Nat.two_pos⟩

def cpu1 : Fin 2 := ⟨1, Nat.one_lt_two⟩

def twoCpuPercpu (c : Fin 2) : UInt64 := 0xffff_8000_0010_0000 + 0x1000 * c.val.toUInt64

def twoCpuPerCpu : PerCpu := ⟨0, 8⟩

def twoCpuBoot : GsSystem 2 Nat :=
  GsSystem.boot twoCpuPercpu (fun _ => 0) (fun _ => ⟨fun _ => 0, 0, 0, 0, 0, 0, .kernel⟩) Fin.val

def twoCpuJumped : GsSystem 2 Nat :=
  twoCpuBoot.set cpu0 ((twoCpuBoot.machine cpu0).run (jumpToUserspace twoCpuPerCpu).dropLast)
    ⟨.jumpExit, []⟩

def twoCpuUser : GsSystem 2 Nat :=
  twoCpuJumped.set cpu0 (exec (twoCpuJumped.machine cpu0) .sysretq)
    ⟨.user, (twoCpuJumped.current cpu0).frames⟩

def twoCpuSyscall : GsSystem 2 Nat :=
  twoCpuUser.set cpu0 (X86.syscall 0 interruptFlag (twoCpuUser.machine cpu0))
    ⟨.syscallEntry, (twoCpuUser.current cpu0).frames⟩

def twoCpuInSyscall : GsSystem 2 Nat :=
  twoCpuSyscall.set cpu0 ((twoCpuSyscall.machine cpu0).run (syscallHandlerEntry twoCpuPerCpu))
    ⟨.kernel, .syscall :: (twoCpuSyscall.current cpu0).frames⟩

def twoCpuInterrupted : GsSystem 2 Nat :=
  twoCpuInSyscall.set cpu1
    (withSwapgsAccountingEnter { twoCpuInSyscall.machine cpu1 with mode := .kernel }).2
    ⟨.kernel, .interrupt (withSwapgsAccountingEnter { twoCpuInSyscall.machine cpu1 with mode := .kernel }).1
      (twoCpuInSyscall.current cpu1).point :: (twoCpuInSyscall.current cpu1).frames⟩

def twoCpuSwitched : GsSystem 2 Nat := twoCpuInterrupted.switchTo cpu1 2

theorem twoCpuSwitched_reachable :
    Relation.ReflTransGen (@GsStep 2 Nat _ 0 twoCpuPerCpu) twoCpuBoot twoCpuSwitched := by
  have jumped : Relation.ReflTransGen (GsStep 0 twoCpuPerCpu) twoCpuBoot twoCpuJumped :=
    .single (.jumpToUserspace cpu0 rfl rfl)
  have user : Relation.ReflTransGen (GsStep 0 twoCpuPerCpu) twoCpuBoot twoCpuUser :=
    jumped.tail (.sysretq cpu0 (.inr rfl))
  have called : Relation.ReflTransGen (GsStep 0 twoCpuPerCpu) twoCpuBoot twoCpuSyscall :=
    user.tail (.syscall cpu0 rfl)
  have entered : Relation.ReflTransGen (GsStep 0 twoCpuPerCpu) twoCpuBoot twoCpuInSyscall :=
    called.tail (.syscallHandlerEntry cpu0 rfl)
  have interrupted : Relation.ReflTransGen (GsStep 0 twoCpuPerCpu) twoCpuBoot twoCpuInterrupted :=
    entered.tail (.interrupt cpu1)
  exact interrupted.tail (.switch cpu1 2 rfl (by decide))

theorem kernel_gs_is_percpu_twoCpus :
    (∀ c, higherHalfStart ≤ twoCpuPercpu c) ∧ Function.Injective (Fin.val : Fin 2 → Nat) ∧
      Relation.ReflTransGen (@GsStep 2 Nat _ 0 twoCpuPerCpu) twoCpuBoot twoCpuSwitched ∧
      (twoCpuSwitched.cores cpu0).gsBase = twoCpuPercpu cpu0 ∧
      (twoCpuSwitched.cores cpu1).gsBase = twoCpuPercpu cpu1 :=
  have high : ∀ c, higherHalfStart ≤ twoCpuPercpu c := by decide
  have conclusion := kernel_gs_is_percpu high Fin.val_injective twoCpuSwitched_reachable
  ⟨high, Fin.val_injective, twoCpuSwitched_reachable, (conclusion.1 cpu0 rfl).1, (conclusion.1 cpu1 rfl).1⟩

end RustOs.Sched
