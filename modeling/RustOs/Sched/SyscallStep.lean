import RustOs.Sched.Kernel
import RustOs.Sched.Syscall

/-!
# System calls on the processors

`syscall_handler` runs on the stack whose top is in `TOP_OF_KERNEL_STACK`, which
`task_swap_parameters` sets to the top of the kernel stack of the task it switches to. From
there, the 21 words the entry pushes are in the running task's own stack, and the only other
word it writes is `USER_STACK_SCRATCH`; the exit writes `TOP_OF_KERNEL_STACK` alone. Neither
writes anything of a suspended task, so each is a `compute` step of the kernel
(`syscall_entry_step`).
-/

namespace RustOs.Sched
open X86 BitmapAlloc Memory Kernel

theorem stackAt_contains_below {i : Nat} (hi : i < maxKernelStacks) {top : VirtAddr}
    (htop : (stackAt i hi).topAddr = some top) {k j : Nat}
    (hk : 8 * k ≤ kernelStackSizeBytes - 4096) (hj : j < k) :
    (stackAt i hi).contains (slot (below top.val k) j) = true := by
  obtain ⟨top', htop', hval⟩ := topAddr_stackAt hi
  rw [htop, Option.some.injEq] at htop'
  subst htop'
  have room : 8 * k ≤ top.val.toNat := by
    rw [hval]
    omega
  rw [contains_stackAt, slot_below_toNat room hj.le, hval]
  unfold kernelStackSizeBytes kernelStackSizePages at hk ⊢
  omega

variable {n : Nat} {τ : Type}

section Entry

variable {s : Kernel n τ} (inv : KernelInv s) {c : Fin n} {t : τ} {r : TaskRecord}
  (hc : s.current c = some t) (ht : s.tasks t = some r) {p : PerCpu} {top : VirtAddr}
  (htop : r.kernelStack.topAddr = some top) (hK : topOfKernelStack p (s.machine c) = top.val)
include inv ht htop hK

theorem KernelInv.syscallFrame_contains :
    ∀ j < 21, r.kernelStack.contains (slot (below (topOfKernelStack p (s.machine c)) 21) j) = true := by
  intro j hj
  obtain ⟨hi, hstack⟩ := inv.stackAt_eq ht
  rw [hstack] at htop ⊢
  rw [hK]
  exact stackAt_contains_below hi htop (by decide) hj

include hc

theorem KernelInv.syscallEntry_rely (apart : p.Apart) (lstar sfmask : UInt64)
    (scratchOutside : ¬ InStackRegion ((s.cores c).kernelGsBase + p.userStackScratch))
    (scratchPrivate : ¬ s.OfSuspended ((s.cores c).kernelGsBase + p.userStackScratch)) :
    ∀ a, s.OfSuspended a → (entered p lstar sfmask (s.machine c)).mem a = s.mem a := by
  have frameIn := inv.syscallFrame_contains ht htop hK
  -- the scratch word is outside the stacks, so not in the frame
  have scratch : ∀ j < 21, (s.machine c).kernelGsBase + p.userStackScratch ≠
      slot (below (topOfKernelStack p (s.machine c)) 21) j := fun j hj same =>
    scratchOutside (same ▸ inv.inStackRegion ht (frameIn j hj))
  intro a ha
  have notFrame : ∀ j < (entryFrame (syscall lstar sfmask (s.machine c)).regs).words.length,
      a ≠ slot (below (topOfKernelStack p (s.machine c)) 21) j := fun j hj same =>
    inv.not_ofSuspended_of_running hc ht (.inr (same ▸ frameIn j hj)) ha
  have notScratch : a ≠ (s.machine c).kernelGsBase + p.userStackScratch := fun same =>
    scratchPrivate (same ▸ ha)
  rw [entered_eq apart scratch]
  dsimp only
  rw [storeWords_of_ne notFrame, Function.update_of_ne notScratch]
  rfl

end Entry

section Reachable

variable [DecidableEq τ] {taskSetup : UInt64} {mem : UInt64 → UInt64} {cores : Fin n → Core}
  {s : Kernel n τ}

/-- In every state a run reaches, a system call on a processor whose `TOP_OF_KERNEL_STACK` is
the top of the kernel stack of the task it runs pushes the task's registers into the top 21
words of that stack and writes nothing of a suspended task, so the state it leaves is reached as
well. -/
theorem syscall_entry_step
    (reach : Relation.ReflTransGen (KernelStep taskSetup) (Kernel.init mem cores) s)
    {c : Fin n} {t : τ} {r : TaskRecord} (hc : s.current c = some t) (ht : s.tasks t = some r)
    {p : PerCpu} (apart : p.Apart) (lstar sfmask : UInt64) {top : VirtAddr}
    (htop : r.kernelStack.topAddr = some top) (hK : topOfKernelStack p (s.machine c) = top.val)
    (scratchOutside : ¬ InStackRegion ((s.cores c).kernelGsBase + p.userStackScratch))
    (scratchPrivate : ¬ s.OfSuspended ((s.cores c).kernelGsBase + p.userStackScratch)) :
    (∀ j < 21, r.kernelStack.contains (slot (below top.val 21) j) = true) ∧
    TaskRegisters.read (entered p lstar sfmask (s.machine c)).mem (below top.val 21) =
      entryFrame (syscall lstar sfmask (s.machine c)).regs ∧
    (∀ a, s.OfSuspended a → (entered p lstar sfmask (s.machine c)).mem a = s.mem a) ∧
    Relation.ReflTransGen (KernelStep taskSetup) (Kernel.init mem cores)
      { s with
        cores := Function.update s.cores c (entered p lstar sfmask (s.machine c)).toCore
        mem := (entered p lstar sfmask (s.machine c)).mem } := by
  have inv := kernelInv_reachable reach
  have frameIn := inv.syscallFrame_contains ht htop hK
  have scratch : ∀ j < 21, (s.machine c).kernelGsBase + p.userStackScratch ≠
      slot (below (topOfKernelStack p (s.machine c)) 21) j := fun j hj same =>
    scratchOutside (same ▸ inv.inStackRegion ht (frameIn j hj))
  have rely := inv.syscallEntry_rely hc ht htop hK apart lstar sfmask scratchOutside scratchPrivate
  rw [hK] at frameIn
  refine ⟨frameIn, ?frame, rely, reach.tail (.compute c _ _ rely)⟩
  rw [← hK]
  exact entered_frame apart scratch

/-- The exit of a system call writes `TOP_OF_KERNEL_STACK` alone: where that word holds nothing
of a suspended task, it is a `compute` step. -/
theorem syscall_exit_step
    (reach : Relation.ReflTransGen (KernelStep taskSetup) (Kernel.init mem cores) s) (c : Fin n)
    (p : PerCpu) (topPrivate : ¬ s.OfSuspended ((s.cores c).gsBase + p.kernelStack)) :
    Relation.ReflTransGen (KernelStep taskSetup) (Kernel.init mem cores)
      { s with
        cores := Function.update s.cores c ((s.machine c).run (syscallHandlerExit p)).toCore
        mem := ((s.machine c).run (syscallHandlerExit p)).mem } := by
  refine reach.tail (.compute c _ _ fun a ha => ?_)
  have notTop : a ≠ (s.machine c).gsBase + p.kernelStack := fun same => topPrivate (same ▸ ha)
  rw [syscallHandlerExit_spec]
  exact Function.update_of_ne notTop _ _

theorem firstRunning_ofSuspended {s : Kernel 1 Nat} {a : UInt64} (h : s.OfSuspended a)
    (tasks : s.tasks = twoTaskKernel.tasks) (saved : s.saved = (twoTaskKernel.switchTo 0 0).saved) :
    a = 0x1100 ∨ secondRecord.kernelStack.contains a = true := by
  obtain ⟨t, r, susp, ht, hs, ha⟩ := h
  rw [tasks] at ht
  rw [saved] at hs
  rcases twoTaskKernel_tasks ht with ⟨rfl, rfl⟩ | ⟨rfl, rfl⟩
  · simp [Kernel.switchTo, twoTaskKernel, firstKernel, Kernel.spawn, Kernel.init] at hs
  · exact ha

theorem firstRunning_not_ofSuspended {s : Kernel 1 Nat} {a : UInt64}
    (tasks : s.tasks = twoTaskKernel.tasks) (saved : s.saved = (twoTaskKernel.switchTo 0 0).saved)
    (ne : a ≠ 0x1100) (outside : secondRecord.kernelStack.contains a = false) :
    ¬ s.OfSuspended a := by
  intro h
  rcases firstRunning_ofSuspended h tasks saved with same | hin
  · exact ne same
  · rw [outside] at hin
    exact Bool.false_ne_true hin

def firstInUser : Kernel 1 Nat :=
  { twoTaskKernel.switchTo ⟨0, Nat.one_pos⟩ 0 with
    cores := Function.update (twoTaskKernel.switchTo ⟨0, Nat.one_pos⟩ 0).cores ⟨0, Nat.one_pos⟩
      { (twoTaskKernel.switchTo ⟨0, Nat.one_pos⟩ 0).cores ⟨0, Nat.one_pos⟩ with
        kernelGsBase := 0x100, mode := .user }
    mem := Function.update (twoTaskKernel.switchTo ⟨0, Nat.one_pos⟩ 0).mem 0x100
      0xffff_d000_0001_0000 }

theorem firstInUser_reachable :
    Relation.ReflTransGen (KernelStep 0x4000) (Kernel.init 0 fun _ => bootCore) firstInUser :=
  (twoTaskKernel_reachable.tail (.switch 0 0 twoTaskKernel_switchOk)).tail
    (.compute 0 _ _ fun a ha => Function.update_of_ne (by
      rintro rfl
      exact absurd ha (firstRunning_not_ofSuspended rfl rfl (by decide) (by decide))) _ _)

theorem firstInUser_scratch_outside :
    ¬ InStackRegion ((firstInUser.cores 0).kernelGsBase + bootPerCpu.userStackScratch) := by
  simp only [firstInUser, bootPerCpu, InStackRegion]
  decide

theorem firstInUser_scratch_private :
    ¬ firstInUser.OfSuspended ((firstInUser.cores 0).kernelGsBase + bootPerCpu.userStackScratch) :=
  firstRunning_not_ofSuspended rfl rfl (by decide) (by decide)

theorem syscall_entry_step_suspended :
    firstInUser.OfSuspended 0x1100 ∧
    (∀ j < 21, firstRecord.kernelStack.contains (slot (below 0xffff_d000_0001_0000 21) j) = true) ∧
    TaskRegisters.read (entered bootPerCpu handlerAddr interruptFlag (firstInUser.machine 0)).mem
        (below 0xffff_d000_0001_0000 21) =
      entryFrame (syscall handlerAddr interruptFlag (firstInUser.machine 0)).regs ∧
    (∀ a, firstInUser.OfSuspended a →
      (entered bootPerCpu handlerAddr interruptFlag (firstInUser.machine 0)).mem a =
        firstInUser.mem a) ∧
    Relation.ReflTransGen (KernelStep 0x4000) (Kernel.init 0 fun _ => bootCore)
      { firstInUser with
        cores := Function.update firstInUser.cores 0
          (entered bootPerCpu handlerAddr interruptFlag (firstInUser.machine 0)).toCore
        mem := (entered bootPerCpu handlerAddr interruptFlag (firstInUser.machine 0)).mem } := by
  have suspended : firstInUser.OfSuspended 0x1100 := ⟨1, secondRecord, _, rfl, rfl, .inl rfl⟩
  have hc : firstInUser.current 0 = some 0 := rfl
  have ht : firstInUser.tasks 0 = some firstRecord := rfl
  have hK : topOfKernelStack bootPerCpu (firstInUser.machine 0) = 0xffff_d000_0001_0000 := rfl
  have step := syscall_entry_step firstInUser_reachable hc ht bootPerCpu_apart handlerAddr
    interruptFlag firstRecord_topAddr hK firstInUser_scratch_outside firstInUser_scratch_private
  -- the record update in the statement binds the state with a `let`
  dsimp only
  exact ⟨suspended, step⟩

-- Task 0 at the call of `syscall_handler_inner`, task 1 still suspended.
def firstEntered : Kernel 1 Nat :=
  { firstInUser with
    cores := Function.update firstInUser.cores ⟨0, Nat.one_pos⟩
      (entered bootPerCpu handlerAddr interruptFlag (firstInUser.machine ⟨0, Nat.one_pos⟩)).toCore
    mem := (entered bootPerCpu handlerAddr interruptFlag (firstInUser.machine ⟨0, Nat.one_pos⟩)).mem }

theorem firstEntered_reachable :
    Relation.ReflTransGen (KernelStep 0x4000) (Kernel.init 0 fun _ => bootCore) firstEntered :=
  firstInUser_reachable.tail (.compute 0 _ _
    ((kernelInv_reachable firstInUser_reachable).syscallEntry_rely rfl rfl firstRecord_topAddr rfl
      bootPerCpu_apart handlerAddr interruptFlag firstInUser_scratch_outside
      firstInUser_scratch_private))

theorem syscall_exit_step_entered :
    ¬ firstEntered.OfSuspended ((firstEntered.cores 0).gsBase + bootPerCpu.kernelStack) ∧
    Relation.ReflTransGen (KernelStep 0x4000) (Kernel.init 0 fun _ => bootCore)
      { firstEntered with
        cores := Function.update firstEntered.cores 0
          ((firstEntered.machine 0).run (syscallHandlerExit bootPerCpu)).toCore
        mem := ((firstEntered.machine 0).run (syscallHandlerExit bootPerCpu)).mem } := by
  -- after `swapgs` the GS base is the per-CPU area, and `TOP_OF_KERNEL_STACK` is `0x100`
  have topPrivate :
      ¬ firstEntered.OfSuspended ((firstEntered.cores 0).gsBase + bootPerCpu.kernelStack) :=
    firstRunning_not_ofSuspended rfl rfl (by decide) (by decide)
  have step := syscall_exit_step firstEntered_reachable 0 bootPerCpu topPrivate
  dsimp only
  exact ⟨topPrivate, step⟩

end Reachable

end RustOs.Sched
