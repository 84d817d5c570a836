import RustOs.Sched.Switch
import RustOs.Sched.Stack

/-!
# Tasks on the processors

The kernel's tasks as the processors run them. A task that exists has a `Task` record on the
heap, whose `registers.rsp` holds its stack pointer while it is suspended, a page table, and a
kernel stack from the stack allocator. A processor runs one task, or the bootstrap code until
`start_scheduler` switches it to its first task.

A run is any interleaving of four kinds of steps (`KernelStep`): `new_task` makes a task
(`allocate_stack`, then `Task::new`); `switch_to_task` moves a processor from the task it runs,
or from the bootstrap code, to a suspended task; a processor computes, writing nothing of a
suspended task (its stack and its `registers.rsp`); and a suspended task is deleted, which frees
its stack. Beside what the code keeps, `Kernel` has two ghost fields: the blocks of the stack
allocator's client, and for each suspended task what it resumes with and the memory it left.

`kernelInv_reachable`: in every reachable state the live tasks have distinct stacks, that the
allocator holds as used, and each suspended task's stack is as the task left it, with a frame
that resumes it. `kernel_switch_resumes`: switching to a suspended task resumes it with the
registers and return address it had when it was switched away, or in `task_setup` if it never
ran.
-/

namespace RustOs.Sched
open X86 BitmapAlloc Memory

/-- What a switch needs of a `Task`: where its `registers.rsp` is, its page table and its
kernel stack. -/
structure TaskRecord where
  rspField : UInt64
  pageTable : UInt64
  kernelStack : KernelStack

structure Suspended where
  context : Context
  stack : UInt64 → UInt64

structure Kernel (n : Nat) (τ : Type) where
  mem : UInt64 → UInt64
  cores : Fin n → Core
  /-- the task each processor runs; `none` before `start_scheduler` -/
  current : Fin n → Option τ
  tasks : τ → Option TaskRecord
  stackAllocator : BitmapAllocator
  liveStacks : List (Nat × Nat)
  saved : τ → Option Suspended

/-- The addresses `switch_to_task` writes: the fifteen pushed words and the word through
`rdi`. -/
def SwitchWrites (m : Machine) (a : UInt64) : Prop :=
  a = m.regs .rdi ∨ ∃ j < 15, a = slot (below (m.regs .rsp) 15) j

namespace Kernel

variable {n : Nat} {τ : Type}

def machine (s : Kernel n τ) (c : Fin n) : Machine := ⟨s.cores c, s.mem⟩

def OfSuspended (s : Kernel n τ) (a : UInt64) : Prop :=
  ∃ t r susp, s.tasks t = some r ∧ s.saved t = some susp ∧
    (a = r.rspField ∨ r.kernelStack.contains a = true)

/-- What `run_scheduler` passes to `switch_to_task` on `c`: in `rsi` the saved stack pointer of a
suspended task and in `rdx` its page table; in `rdi` the `registers.rsp` of the running task,
whose stack has room for the frame, or, from `start_scheduler`, addresses that hold nothing of a
suspended task. -/
structure SwitchOk (s : Kernel n τ) (c : Fin n) (next : τ) : Prop where
  suspended : ∃ r susp, s.tasks next = some r ∧ s.saved next = some susp ∧
    (s.machine c).regs .rsi = s.mem r.rspField ∧ (s.machine c).regs .rdx = r.pageTable
  running : ∀ prev, s.current c = some prev → ∃ rp, s.tasks prev = some rp ∧
    (s.machine c).regs .rdi = rp.rspField ∧
    ∀ k < 16, rp.kernelStack.contains (slot (below ((s.machine c).regs .rsp) 15) k) = true
  bootstrap : s.current c = none → ∀ a, SwitchWrites (s.machine c) a → ¬ s.OfSuspended a

variable [DecidableEq τ]

/-- After `new_task`: `allocate_stack` gave `record.kernelStack`, whose top is `top`, with the
allocator left as `allocator`; `Task::new` wrote the frame that enters `task_setup`, and the
record holding its stack pointer is at `record.rspField`. -/
def spawn (s : Kernel n τ) (taskSetup : UInt64) (t : τ) (record : TaskRecord) (top : UInt64)
    (startFn arg : UInt64) (allocator : BitmapAllocator) : Kernel n τ :=
  let mem := Function.update
    (taskNewStack (zeroStack s.mem record.kernelStack) top taskSetup startFn arg)
    record.rspField (taskNewRsp top)
  { s with
    mem
    tasks := Function.update s.tasks t (some record)
    stackAllocator := allocator
    liveStacks := (record.kernelStack.index, 1) :: s.liveStacks
    saved := Function.update s.saved t (some ⟨entryContext top taskSetup startFn arg, mem⟩) }

/-- After `switch_to_task` on `c` to `next`: the task it ran is suspended, resuming as if the
call had returned. -/
def switchTo (s : Kernel n τ) (c : Fin n) (next : τ) : Kernel n τ :=
  let m := s.machine c
  let m' := m.run switchToTask
  { s with
    cores := Function.update s.cores c m'.toCore
    mem := m'.mem
    current := Function.update s.current c (some next)
    saved := match s.current c with
      | some prev =>
          Function.update (Function.update s.saved next none) prev (some ⟨returnContext m, m'.mem⟩)
      | none => Function.update s.saved next none }

/-- After the last reference to a deleted task is dropped: its stack is freed. -/
def exit (s : Kernel n τ) (t : τ) (record : TaskRecord) (allocator : BitmapAllocator) :
    Kernel n τ :=
  { s with
    tasks := Function.update s.tasks t none
    stackAllocator := allocator
    liveStacks := s.liveStacks.erase (record.kernelStack.index, 1)
    saved := Function.update s.saved t none }

/-- Before any task: the stack allocator as `stack_init` makes it. -/
def init (mem : UInt64 → UInt64) (cores : Fin n → Core) : Kernel n τ :=
  ⟨mem, cores, fun _ => none, fun _ => none, KernelStackAllocator.new, [], fun _ => none⟩

end Kernel

open Kernel

variable {n : Nat} {τ : Type}

/-- One step of one processor. -/
inductive KernelStep [DecidableEq τ] (taskSetup : UInt64) : Kernel n τ → Kernel n τ → Prop
  | spawn {s : Kernel n τ} {t : τ} {record : TaskRecord} {top : VirtAddr}
      {allocator : BitmapAllocator} (startFn arg : UInt64)
      (fresh : s.tasks t = none)
      (allocate : KernelStackAllocator.allocate s.stackAllocator =
        some (some record.kernelStack, allocator))
      (hTop : record.kernelStack.topAddr = some top)
      (heap : ¬ InStackRegion record.rspField)
      (distinct : ∀ u r, s.tasks u = some r → r.rspField ≠ record.rspField) :
      KernelStep taskSetup s (s.spawn taskSetup t record top.val startFn arg allocator)
  | switch {s : Kernel n τ} (c : Fin n) (next : τ) (ok : s.SwitchOk c next) :
      KernelStep taskSetup s (s.switchTo c next)
  | compute {s : Kernel n τ} (c : Fin n) (core : Core) (mem : UInt64 → UInt64)
      (rely : ∀ a, s.OfSuspended a → mem a = s.mem a) :
      KernelStep taskSetup s { s with cores := Function.update s.cores c core, mem }
  | exit {s : Kernel n τ} {t : τ} {record : TaskRecord} {susp : Suspended}
      {allocator : BitmapAllocator}
      (htask : s.tasks t = some record) (hsaved : s.saved t = some susp)
      (free : KernelStackAllocator.free s.stackAllocator record.kernelStack = some allocator) :
      KernelStep taskSetup s (s.exit t record allocator)

def stackBitmapInit : List UInt64 := List.replicate maxKernelAllocBitChunks 0

structure KernelInv (s : Kernel n τ) : Prop where
  client : ClientInv stackBitmapInit ⟨s.stackAllocator, s.liveStacks⟩
  stackOf : ∀ t r, s.tasks t = some r → ∃ hi : r.kernelStack.index < maxKernelStacks,
    r.kernelStack = stackAt _ hi ∧ (r.kernelStack.index, 1) ∈ s.liveStacks
  liveOf : ∀ b ∈ s.liveStacks, ∃ t r, s.tasks t = some r ∧ b = (r.kernelStack.index, 1)
  stackInj : ∀ t u rt ru, s.tasks t = some rt → s.tasks u = some ru →
    rt.kernelStack.index = ru.kernelStack.index → t = u
  rspFieldInj : ∀ t u rt ru, s.tasks t = some rt → s.tasks u = some ru →
    rt.rspField = ru.rspField → t = u
  rspOutside : ∀ t r, s.tasks t = some r → ¬ InStackRegion r.rspField
  currentLive : ∀ c t, s.current c = some t → (s.tasks t).isSome
  currentInj : ∀ c c' t, s.current c = some t → s.current c' = some t → c = c'
  savedIff : ∀ t, (s.saved t).isSome ↔ (s.tasks t).isSome ∧ ∀ c, s.current c ≠ some t
  frame : ∀ t r susp, s.tasks t = some r → s.saved t = some susp →
    (∀ k < 16, r.kernelStack.contains (slot (susp.stack r.rspField) k) = true) ∧
      Frame susp.stack (susp.stack r.rspField) susp.context
  kept : ∀ t r susp, s.tasks t = some r → s.saved t = some susp →
    ∀ a, (a = r.rspField ∨ r.kernelStack.contains a = true) → s.mem a = susp.stack a

/-! ## Reading the invariant -/

section Read

variable {s : Kernel n τ} (inv : KernelInv s)
include inv

theorem KernelInv.stackAt_eq {t : τ} {r : TaskRecord} (htask : s.tasks t = some r) :
    ∃ hi : r.kernelStack.index < maxKernelStacks, r.kernelStack = stackAt _ hi := by
  obtain ⟨hi, hstack, -⟩ := inv.stackOf t r htask
  exact ⟨hi, hstack⟩

theorem KernelInv.inStackRegion {t : τ} {r : TaskRecord} (htask : s.tasks t = some r) {a : UInt64}
    (hin : r.kernelStack.contains a = true) : InStackRegion a := by
  obtain ⟨hi, hstack⟩ := inv.stackAt_eq htask
  rw [hstack] at hin
  exact inStackRegion_of_contains hi hin

theorem KernelInv.contains_apart {t u : τ} {rt ru : TaskRecord} (ht : s.tasks t = some rt)
    (hu : s.tasks u = some ru) (hne : t ≠ u) {a : UInt64} (hin : rt.kernelStack.contains a = true) :
    ru.kernelStack.contains a = false := by
  obtain ⟨hit, hst⟩ := inv.stackAt_eq ht
  obtain ⟨hiu, hsu⟩ := inv.stackAt_eq hu
  have index : rt.kernelStack.index ≠ ru.kernelStack.index := fun same =>
    hne (inv.stackInj t u rt ru ht hu same)
  rw [hst] at hin
  rw [hsu]
  exact contains_stackAt_apart hit hiu index hin

theorem KernelInv.saved_eq_none_of_current {c : Fin n} {t : τ} (hc : s.current c = some t) :
    s.saved t = none := by
  rw [← Option.not_isSome_iff_eq_none, inv.savedIff]
  exact fun ⟨_, never⟩ => never c hc

theorem KernelInv.not_ofSuspended_of_running {c : Fin n} {t : τ} {r : TaskRecord}
    (hc : s.current c = some t) (ht : s.tasks t = some r) {a : UInt64}
    (mine : a = r.rspField ∨ r.kernelStack.contains a = true) : ¬ s.OfSuspended a := by
  rintro ⟨u, ru, susp, hu, hsu, hin⟩
  have hne : t ≠ u := by
    rintro rfl
    rw [inv.saved_eq_none_of_current hc] at hsu
    cases hsu
  rcases mine with rfl | mine
  · -- the `registers.rsp` of the running task is outside every stack
    rcases hin with same | inside
    · exact hne (inv.rspFieldInj t u r ru ht hu same)
    · exact inv.rspOutside t r ht (inv.inStackRegion hu inside)
  · rcases hin with same | inside
    · exact inv.rspOutside u ru hu (same ▸ inv.inStackRegion ht mine)
    · rw [inv.contains_apart ht hu hne mine] at inside
      cases inside

theorem KernelInv.not_ofSuspended {c : Fin n} {next : τ} (ok : s.SwitchOk c next) {a : UInt64}
    (hw : SwitchWrites (s.machine c) a) : ¬ s.OfSuspended a := by
  cases hc : s.current c with
  | none => exact ok.bootstrap hc a hw
  | some prev =>
      obtain ⟨rp, hp, hrdi, room⟩ := ok.running prev hc
      -- the word through `rdi` is the running task's `registers.rsp`, the pushed words are in
      -- its stack
      rcases hw with rfl | ⟨j, hj, rfl⟩
      · exact inv.not_ofSuspended_of_running hc hp (.inl hrdi)
      · exact inv.not_ofSuspended_of_running hc hp (.inr (room j (by omega)))

theorem KernelInv.liveStacks_nodup : s.liveStacks.Nodup := by
  refine (inv.client.apart.imp_of_mem fun {b b'} hb hb' apart same => ?_)
  subst same
  have := (inv.client.inside b hb).1
  unfold Apart at apart
  omega

theorem KernelInv.compute (c : Fin n) (core : Core) {mem : UInt64 → UInt64}
    (rely : ∀ a, s.OfSuspended a → mem a = s.mem a) :
    KernelInv { s with cores := Function.update s.cores c core, mem } :=
  { inv with
    kept := fun t r susp ht hs a ha =>
      (rely a ⟨t, r, susp, ht, hs, ha⟩).trans (inv.kept t r susp ht hs a ha) }

end Read

/-! ## Every step keeps the invariant -/

section Steps

variable [DecidableEq τ] {s : Kernel n τ}

theorem exit_tasks_of_ne {t u : τ} {record : TaskRecord} {allocator : BitmapAllocator}
    (hne : u ≠ t) : (s.exit t record allocator).tasks u = s.tasks u :=
  Function.update_of_ne hne _ _

theorem exit_tasks_sub {t u : τ} {record r : TaskRecord} {allocator : BitmapAllocator}
    (hu : (s.exit t record allocator).tasks u = some r) : u ≠ t ∧ s.tasks u = some r := by
  have hne : u ≠ t := by
    rintro rfl
    simp [Kernel.exit] at hu
  exact ⟨hne, (exit_tasks_of_ne hne).symm.trans hu⟩

theorem KernelInv.exit (inv : KernelInv s) {t : τ} {record : TaskRecord} {susp : Suspended}
    {allocator : BitmapAllocator} (htask : s.tasks t = some record) (hsaved : s.saved t = some susp)
    (free : KernelStackAllocator.free s.stackAllocator record.kernelStack = some allocator) :
    KernelInv (s.exit t record allocator) := by
  obtain ⟨hi, hstack, hlive⟩ := inv.stackOf t record htask
  have hfree : s.stackAllocator.freeContiguous record.kernelStack.index 1 = some allocator := by
    rw [← free_stackAt s.stackAllocator hi, ← hstack]
    exact free
  have notCur : ∀ c, s.current c ≠ some t := ((inv.savedIff t).mp (by simp [hsaved])).2
  have otherIndex : ∀ u ru, u ≠ t → s.tasks u = some ru →
      (ru.kernelStack.index, 1) ≠ (record.kernelStack.index, 1) := fun u ru hne hu same =>
    hne (inv.stackInj u t ru record hu htask (Prod.mk.inj same).1)
  refine ⟨clientInv_free inv.client hlive hfree, fun u ru hu => ?_, fun b hb => ?_,
    fun u v ru rv hu hv => inv.stackInj u v ru rv (exit_tasks_sub hu).2 (exit_tasks_sub hv).2,
    fun u v ru rv hu hv => inv.rspFieldInj u v ru rv (exit_tasks_sub hu).2 (exit_tasks_sub hv).2,
    fun u ru hu => inv.rspOutside u ru (exit_tasks_sub hu).2, fun c u hc => ?_, inv.currentInj,
    fun u => ?_, fun u ru sp hu hsp => ?_, fun u ru sp hu hsp => ?_⟩
  · obtain ⟨hne, hu⟩ := exit_tasks_sub hu
    obtain ⟨hiu, hsu, hlu⟩ := inv.stackOf u ru hu
    exact ⟨hiu, hsu, (List.mem_erase_of_ne (otherIndex u ru hne hu)).mpr hlu⟩
  · obtain ⟨other, live⟩ := (inv.liveStacks_nodup.mem_erase_iff).mp hb
    obtain ⟨u, ru, hu, rfl⟩ := inv.liveOf b live
    have hne : u ≠ t := by
      rintro rfl
      rw [htask] at hu
      cases hu
      exact other rfl
    exact ⟨u, ru, (exit_tasks_of_ne hne).trans hu, rfl⟩
  · have hne : u ≠ t := fun same => notCur c (same ▸ hc)
    rw [exit_tasks_of_ne hne]
    exact inv.currentLive c u hc
  · by_cases hne : u = t
    · subst hne
      simp [Kernel.exit]
    · have hs : (s.exit t record allocator).saved u = s.saved u := Function.update_of_ne hne _ _
      rw [hs, exit_tasks_of_ne hne]
      exact inv.savedIff u
  · obtain ⟨hne, hu⟩ := exit_tasks_sub hu
    exact inv.frame u ru sp hu ((Function.update_of_ne hne _ _).symm.trans hsp)
  · obtain ⟨hne, hu⟩ := exit_tasks_sub hu
    exact inv.kept u ru sp hu ((Function.update_of_ne hne _ _).symm.trans hsp)

theorem switchTo_mem_of_not_writes {c : Fin n} {next : τ} {a : UInt64}
    (hw : ¬ SwitchWrites (s.machine c) a) : (s.switchTo c next).mem a = s.mem a := by
  show ((s.machine c).run switchToTask).mem a = s.mem a
  rw [run_switchToTask_mem, switchedMem_of_ne (fun h => hw (.inl h))
    (fun j hj h => hw (.inr ⟨j, hj, h⟩))]
  rfl

theorem switchTo_current_apply {c c' : Fin n} {next : τ} :
    (s.switchTo c next).current c' = if c' = c then some next else s.current c' :=
  Function.update_apply _ _ _ _

theorem switchTo_saved_next {c : Fin n} {next : τ} (notCur : s.current c ≠ some next) :
    (s.switchTo c next).saved next = none := by
  unfold Kernel.switchTo
  cases hc : s.current c with
  | none => exact Function.update_self _ _ _
  | some prev =>
      have hne : next ≠ prev := fun same => notCur (same ▸ hc)
      simp only [Function.update_of_ne hne, Function.update_self]

theorem switchTo_saved_prev {c : Fin n} {next prev : τ} (hc : s.current c = some prev) :
    (s.switchTo c next).saved prev =
      some ⟨returnContext (s.machine c), ((s.machine c).run switchToTask).mem⟩ := by
  unfold Kernel.switchTo
  simp only [hc, Function.update_self]

theorem switchTo_saved_of_ne {c : Fin n} {next u : τ} (hne : u ≠ next)
    (hprev : s.current c ≠ some u) : (s.switchTo c next).saved u = s.saved u := by
  unfold Kernel.switchTo
  cases hc : s.current c with
  | none => exact Function.update_of_ne hne _ _
  | some prev =>
      have hp : u ≠ prev := fun same => hprev (same ▸ hc)
      simp only [Function.update_of_ne hp, Function.update_of_ne hne]

theorem KernelInv.switchTo (inv : KernelInv s) {c : Fin n} {next : τ} (ok : s.SwitchOk c next) :
    KernelInv (s.switchTo c next) := by
  obtain ⟨r, susp, hr, hsusp, -, -⟩ := ok.suspended
  have notCur : ∀ c', s.current c' ≠ some next := ((inv.savedIff next).mp (by simp [hsusp])).2
  refine ⟨inv.client, inv.stackOf, inv.liveOf, inv.stackInj, inv.rspFieldInj, inv.rspOutside,
    fun c' u hc' => ?_, fun c1 c2 u h1 h2 => ?_, fun u => ?_, fun u ru sp hu hsp => ?_,
    fun u ru sp hu hsp => ?_⟩
  · rw [switchTo_current_apply] at hc'
    split at hc'
    · cases hc'
      show (s.tasks next).isSome = true
      rw [hr]
      rfl
    · exact inv.currentLive c' u hc'
  · rw [switchTo_current_apply] at h1 h2
    split at h1 <;> split at h2
    · subst_vars
      rfl
    · cases h1
      exact absurd h2 (notCur c2)
    · cases h2
      exact absurd h1 (notCur c1)
    · exact inv.currentInj c1 c2 u h1 h2
  · by_cases hun : u = next
    · -- the task switched to runs on `c`
      subst hun
      rw [switchTo_saved_next (notCur c)]
      simp only [Option.isSome_none, Bool.false_eq_true, false_iff, not_and, not_forall,
        not_not]
      exact fun _ => ⟨c, by simp [switchTo_current_apply]⟩
    · by_cases hup : s.current c = some u
      · -- the task switched away from runs nowhere now
        rw [switchTo_saved_prev hup]
        simp only [Option.isSome_some, true_iff]
        refine ⟨inv.currentLive c u hup, fun c' h => ?_⟩
        rw [switchTo_current_apply] at h
        split at h
        · exact hun (Option.some.inj h).symm
        · exact ‹¬ c' = c› (inv.currentInj c' c u h hup)
      · rw [switchTo_saved_of_ne hun hup, inv.savedIff u]
        refine and_congr_right fun _ => forall_congr' fun c' => ?_
        rw [switchTo_current_apply]
        split
        · subst_vars
          exact ⟨fun _ h => hun (Option.some.inj h).symm, fun _ => hup⟩
        · rfl
  · by_cases hup : s.current c = some u
    · rw [switchTo_saved_prev hup] at hsp
      cases hsp
      obtain ⟨rp, hp, hrdi, room⟩ := ok.running u hup
      have hu : s.tasks u = some ru := hu
      rw [hu] at hp
      cases hp
      have outside : ∀ j < 16, (s.machine c).regs .rdi ≠ slot (below ((s.machine c).regs .rsp) 15) j :=
        fun j hj same => inv.rspOutside u ru hu (hrdi ▸ same ▸ inv.inStackRegion hu (room j hj))
      obtain ⟨frame, stored⟩ := switchToTask_suspends outside
      rw [hrdi] at stored
      dsimp only
      rw [stored]
      exact ⟨room, frame⟩
    · have hun : u ≠ next := by
        rintro rfl
        rw [switchTo_saved_next (notCur c)] at hsp
        cases hsp
      rw [switchTo_saved_of_ne hun hup] at hsp
      exact inv.frame u ru sp hu hsp
  · by_cases hup : s.current c = some u
    · rw [switchTo_saved_prev hup] at hsp
      cases hsp
      intro a _
      rfl
    · have hun : u ≠ next := by
        rintro rfl
        rw [switchTo_saved_next (notCur c)] at hsp
        cases hsp
      rw [switchTo_saved_of_ne hun hup] at hsp
      intro a ha
      rw [switchTo_mem_of_not_writes fun hw => inv.not_ofSuspended ok hw ⟨u, ru, sp, hu, hsp, ha⟩]
      exact inv.kept u ru sp hu hsp a ha

theorem spawn_tasks_apply {taskSetup : UInt64} {t u : τ} {record : TaskRecord}
    {top startFn arg : UInt64} {allocator : BitmapAllocator} :
    (s.spawn taskSetup t record top startFn arg allocator).tasks u =
      if u = t then some record else s.tasks u :=
  Function.update_apply _ _ _ _

theorem spawn_saved_self {taskSetup : UInt64} {t : τ} {record : TaskRecord}
    {top startFn arg : UInt64} {allocator : BitmapAllocator} :
    (s.spawn taskSetup t record top startFn arg allocator).saved t =
      some ⟨entryContext top taskSetup startFn arg,
        (s.spawn taskSetup t record top startFn arg allocator).mem⟩ :=
  Function.update_self _ _ _

theorem spawn_saved_of_ne {taskSetup : UInt64} {t u : τ} {record : TaskRecord}
    {top startFn arg : UInt64} {allocator : BitmapAllocator} (hne : u ≠ t) :
    (s.spawn taskSetup t record top startFn arg allocator).saved u = s.saved u :=
  Function.update_of_ne hne _ _

theorem spawn_mem_of_ne {taskSetup : UInt64} {t : τ} {record : TaskRecord}
    {top startFn arg : UInt64} {allocator : BitmapAllocator} {a : UInt64}
    (hrsp : a ≠ record.rspField) (outside : record.kernelStack.contains a = false)
    (frame : ∀ k < 16, record.kernelStack.contains (slot (taskNewRsp top) k) = true) :
    (s.spawn taskSetup t record top startFn arg allocator).mem a = s.mem a := by
  show Function.update (taskNewStack (zeroStack s.mem record.kernelStack) top taskSetup startFn arg)
    record.rspField (taskNewRsp top) a = s.mem a
  rw [Function.update_of_ne hrsp,
    taskNewStack_of_ne _ _ _ fun k hk same => by rw [same, frame k hk] at outside; cases outside]
  simp [zeroStack, outside]

theorem KernelInv.spawn (inv : KernelInv s) {taskSetup : UInt64} {t : τ} {record : TaskRecord}
    {top : Memory.VirtAddr} {allocator : BitmapAllocator} (startFn arg : UInt64)
    (fresh : s.tasks t = none)
    (allocate : KernelStackAllocator.allocate s.stackAllocator =
      some (some record.kernelStack, allocator))
    (hTop : record.kernelStack.topAddr = some top) (heap : ¬ InStackRegion record.rspField)
    (distinct : ∀ u r, s.tasks u = some r → r.rspField ≠ record.rspField) :
    KernelInv (s.spawn taskSetup t record top.val startFn arg allocator) := by
  obtain ⟨i, halloc, hstackAt⟩ := allocate_eq_some allocate
  have client := clientInv_allocate inv.client Nat.one_pos halloc
  have hi : i < maxKernelStacks := by
    have := (client.inside (i, 1) List.mem_cons_self).2
    simpa [stackBitmapInit, maxKernelAllocBitChunks, maxKernelStacks] using this
  have hstack := hstackAt hi
  have hidx : record.kernelStack.index = i := by rw [hstack, index_stackAt]
  subst hidx
  -- the new bit is apart from every live block, so from every live task's stack
  have newIndex : ∀ u ru, s.tasks u = some ru → ru.kernelStack.index ≠ record.kernelStack.index := by
    intro u ru hu same
    obtain ⟨-, -, hlu⟩ := inv.stackOf u ru hu
    have apart := (List.pairwise_cons.mp client.apart).1 _ hlu
    unfold Apart at apart
    simp only at apart
    omega
  have notCur : ∀ c, s.current c ≠ some t := fun c hc => by
    have := inv.currentLive c t hc
    rw [fresh] at this
    cases this
  obtain ⟨top', hTop', htop⟩ := topAddr_stackAt hi
  rw [← hstack, hTop] at hTop'
  cases hTop'
  have frameIn : ∀ k < 16, record.kernelStack.contains (slot (taskNewRsp top.val) k) = true := by
    intro k hk
    have room : 136 ≤ top.val.toNat := by
      rw [htop]
      unfold stackStart kernelStackStartVirtAddr
      omega
    rw [hstack, contains_stackAt, slot_taskNewRsp_toNat room (by omega), htop]
    unfold kernelStackSizeBytes kernelStackSizePages
    omega
  -- what a live task holds is outside the new stack
  have apartNew : ∀ u ru a, s.tasks u = some ru → (a = ru.rspField ∨ ru.kernelStack.contains a) →
      record.kernelStack.contains a = false := by
    intro u ru a hu ha
    rcases ha with rfl | inside
    · rw [← Bool.not_eq_true]
      exact fun inNew => inv.rspOutside u ru hu (inStackRegion_of_contains hi (hstack ▸ inNew))
    · obtain ⟨hiu, hsu⟩ := inv.stackAt_eq hu
      rw [hsu] at inside
      rw [hstack]
      exact contains_stackAt_apart hiu hi (newIndex u ru hu) inside
  have memKept : ∀ u ru a, s.tasks u = some ru → (a = ru.rspField ∨ ru.kernelStack.contains a) →
      (s.spawn taskSetup t record top.val startFn arg allocator).mem a = s.mem a := by
    intro u ru a hu ha
    refine spawn_mem_of_ne ?_ (apartNew u ru a hu ha) frameIn
    rcases ha with rfl | inside
    · exact distinct u ru hu
    · rintro rfl
      exact heap (inv.inStackRegion hu inside)
  have newFrame : Frame (s.spawn taskSetup t record top.val startFn arg allocator).mem
      (taskNewRsp top.val) (entryContext top.val taskSetup startFn arg) := by
    have base : Frame (taskNewStack (zeroStack s.mem record.kernelStack) top.val taskSetup startFn arg)
        (taskNewRsp top.val) (entryContext top.val taskSetup startFn arg) :=
      taskNew_frame taskSetup startFn arg fun k hk => by simp [zeroStack, frameIn k hk]
    refine base.congr fun k hk => ?_
    show Function.update _ record.rspField _ _ = _
    refine Function.update_of_ne (fun same => heap ?_) _ _
    rw [← same]
    exact inStackRegion_of_contains hi (hstack ▸ frameIn k hk)
  have stored : (s.spawn taskSetup t record top.val startFn arg allocator).mem record.rspField =
      taskNewRsp top.val := Function.update_self _ _ _
  refine ⟨client, fun u ru hu => ?_, fun b hb => ?_, fun u v ru rv hu hv same => ?_,
    fun u v ru rv hu hv same => ?_, fun u ru hu => ?_, fun c u hc => ?_, inv.currentInj,
    fun u => ?_, fun u ru sp hu hsp => ?_, fun u ru sp hu hsp => ?_⟩
  · rw [spawn_tasks_apply] at hu
    split at hu
    · cases hu
      exact ⟨hi, hstack, List.mem_cons_self⟩
    · obtain ⟨hiu, hsu, hlu⟩ := inv.stackOf u ru hu
      exact ⟨hiu, hsu, List.mem_cons_of_mem _ hlu⟩
  · rcases List.mem_cons.mp hb with rfl | hb
    · exact ⟨t, record, by simp [spawn_tasks_apply], rfl⟩
    · obtain ⟨u, ru, hu, rfl⟩ := inv.liveOf b hb
      have hne : u ≠ t := by
        rintro rfl
        rw [fresh] at hu
        cases hu
      exact ⟨u, ru, by rw [spawn_tasks_apply, if_neg hne, hu], rfl⟩
  · rw [spawn_tasks_apply] at hu hv
    split at hu <;> split at hv
    · rename_i hut hvt
      exact hut.trans hvt.symm
    · cases hu
      exact absurd same.symm (newIndex v rv hv)
    · cases hv
      exact absurd same (newIndex u ru hu)
    · exact inv.stackInj u v ru rv hu hv same
  · rw [spawn_tasks_apply] at hu hv
    split at hu <;> split at hv
    · rename_i hut hvt
      exact hut.trans hvt.symm
    · cases hu
      exact absurd same.symm (distinct v rv hv)
    · cases hv
      exact absurd same (distinct u ru hu)
    · exact inv.rspFieldInj u v ru rv hu hv same
  · rw [spawn_tasks_apply] at hu
    split at hu
    · cases hu
      exact heap
    · exact inv.rspOutside u ru hu
  · rw [spawn_tasks_apply]
    split
    · rfl
    · exact inv.currentLive c u hc
  · by_cases hne : u = t
    · subst hne
      simp only [spawn_saved_self, spawn_tasks_apply, if_pos, Option.isSome_some, true_iff,
        true_and]
      exact notCur
    · rw [spawn_saved_of_ne hne, spawn_tasks_apply, if_neg hne]
      exact inv.savedIff u
  · by_cases hne : u = t
    · subst hne
      rw [spawn_saved_self] at hsp
      rw [spawn_tasks_apply, if_pos rfl] at hu
      cases hsp
      cases hu
      dsimp only
      rw [stored]
      exact ⟨frameIn, newFrame⟩
    · rw [spawn_saved_of_ne hne] at hsp
      rw [spawn_tasks_apply, if_neg hne] at hu
      exact inv.frame u ru sp hu hsp
  · by_cases hne : u = t
    · subst hne
      rw [spawn_saved_self] at hsp
      cases hsp
      intro a _
      rfl
    · rw [spawn_saved_of_ne hne] at hsp
      rw [spawn_tasks_apply, if_neg hne] at hu
      intro a ha
      rw [memKept u ru a hu ha]
      exact inv.kept u ru sp hu hsp a ha

end Steps

/-! ## Every reachable state -/

section Reachable

theorem kernelInv_init (mem : UInt64 → UInt64) (cores : Fin n → Core) :
    KernelInv (Kernel.init mem cores : Kernel n τ) where
  client := clientInv_init stackBitmapInit
  stackOf _ _ h := by cases h
  liveOf _ h := by cases h
  stackInj _ _ _ _ h := by cases h
  rspFieldInj _ _ _ _ h := by cases h
  rspOutside _ _ h := by cases h
  currentLive _ _ h := by cases h
  currentInj _ _ _ h := by cases h
  savedIff _ := by simp [Kernel.init]
  frame _ _ _ h := by cases h
  kept _ _ _ h := by cases h

variable [DecidableEq τ]

theorem KernelInv.step {taskSetup : UInt64} {s s' : Kernel n τ} (inv : KernelInv s)
    (h : KernelStep taskSetup s s') : KernelInv s' := by
  cases h with
  | spawn startFn arg fresh allocate hTop heap distinct =>
      exact inv.spawn startFn arg fresh allocate hTop heap distinct
  | switch c next ok => exact inv.switchTo ok
  | compute c core mem rely => exact inv.compute c core rely
  | exit htask hsaved free => exact inv.exit htask hsaved free

theorem kernelInv_reachable {taskSetup : UInt64} {mem : UInt64 → UInt64} {cores : Fin n → Core}
    {s : Kernel n τ} (reach : Relation.ReflTransGen (KernelStep taskSetup) (Kernel.init mem cores) s) :
    KernelInv s :=
  Reach.invariant (kernelInv_init mem cores) (fun _ _ inv step => inv.step step) reach

/-- In every state a run reaches, switching processor `c` to a suspended task resumes that task
with the registers and the return address it had when it was switched away, or the entry of
`task_setup` if it never ran, on its own page table, and with its stack as it left it. -/
theorem kernel_switch_resumes {taskSetup : UInt64} {mem : UInt64 → UInt64} {cores : Fin n → Core}
    {s : Kernel n τ} (reach : Relation.ReflTransGen (KernelStep taskSetup) (Kernel.init mem cores) s)
    {c : Fin n} {next : τ} (ok : s.SwitchOk c next) {r : TaskRecord} {susp : Suspended}
    (htask : s.tasks next = some r) (hsaved : s.saved next = some susp) :
    ((s.switchTo c next).cores c).regs = susp.context.regs ∧
      ((s.switchTo c next).cores c).rip = susp.context.rip ∧
      ((s.switchTo c next).cores c).cr3 = r.pageTable ∧
      ∀ a, r.kernelStack.contains a = true → (s.switchTo c next).mem a = susp.stack a := by
  have inv := kernelInv_reachable reach
  obtain ⟨r', susp', hr', hs', hrsi, hrdx⟩ := ok.suspended
  rw [htask] at hr'
  rw [hsaved] at hs'
  cases hr'
  cases hs'
  obtain ⟨frameIn, frame⟩ := inv.frame next r susp htask hsaved
  have kept := inv.kept next r susp htask hsaved
  -- the words of the frame belong to the suspended task, so the switch writes none of them
  have mine : ∀ a, r.kernelStack.contains a = true → ¬ SwitchWrites (s.machine c) a :=
    fun a ha hw => inv.not_ofSuspended ok hw ⟨next, r, susp, htask, hsaved, .inr ha⟩
  have sp : (s.machine c).regs .rsi = susp.stack r.rspField := hrsi.trans (kept _ (.inl rfl))
  have live : Frame (s.machine c).mem ((s.machine c).regs .rsi) susp.context := by
    rw [sp]
    exact frame.congr fun k hk => kept _ (.inr (frameIn k hk))
  have apart : ∀ i < 16, slot ((s.machine c).regs .rsi) i ≠ (s.machine c).regs .rdi ∧
      ∀ j < 15, slot ((s.machine c).regs .rsi) i ≠ slot (below ((s.machine c).regs .rsp) 15) j := by
    intro i hi
    rw [sp]
    exact ⟨fun same => mine _ (frameIn i hi) (.inl same),
      fun j hj same => mine _ (frameIn i hi) (.inr ⟨j, hj, same⟩)⟩
  obtain ⟨regs, rip, cr3⟩ := switchToTask_resumes live apart
  have core : (s.switchTo c next).cores c = ((s.machine c).run switchToTask).toCore :=
    Function.update_self _ _ _
  refine ⟨core ▸ regs, core ▸ rip, core ▸ cr3.trans hrdx, fun a ha => ?_⟩
  rw [switchTo_mem_of_not_writes (mine a ha)]
  exact kept a (.inr ha)

/-- In every state a run reaches, each task's stack is the stack of a bit the stack allocator
holds as used, none of its addresses is in a guard page, and the stacks of two tasks share no
address. -/
theorem kernel_stacks_apart {taskSetup : UInt64} {mem : UInt64 → UInt64} {cores : Fin n → Core}
    {s : Kernel n τ} (reach : Relation.ReflTransGen (KernelStep taskSetup) (Kernel.init mem cores) s) :
    (∀ t r, s.tasks t = some r → ∃ hi : r.kernelStack.index < maxKernelStacks,
      r.kernelStack = stackAt _ hi ∧ s.stackAllocator.isUsed r.kernelStack.index = true ∧
      ∀ a : Memory.VirtAddr, r.kernelStack.contains a.val = true → isKernelGuardPage a = false) ∧
    ∀ t u rt ru a, s.tasks t = some rt → s.tasks u = some ru → t ≠ u →
      rt.kernelStack.contains a = true → ru.kernelStack.contains a = false := by
  have inv := kernelInv_reachable reach
  refine ⟨fun t r htask => ?_, fun t u rt ru a ht hu hne hin => inv.contains_apart ht hu hne hin⟩
  obtain ⟨hi, hstack, hlive⟩ := inv.stackOf t r htask
  have used : s.stackAllocator.isUsed r.kernelStack.index = true := by
    rw [inv.client.bits, covers_iff.mpr ⟨_, hlive, by simp [inRange]⟩, Bool.or_true]
  refine ⟨hi, hstack, used, fun a hin => ?_⟩
  rw [hstack] at hin
  exact (isKernelGuardPage_stackAt hi a).1 hin

-- The spawn step with the stack top as the number the state stores, so that a step to a state
-- written with that number unifies without unfolding it.
theorem KernelStep.spawn_at {taskSetup : UInt64} {s : Kernel n τ} {t : τ} {record : TaskRecord}
    {top : UInt64} {allocator : BitmapAllocator} (startFn arg : UInt64) (fresh : s.tasks t = none)
    (allocate : KernelStackAllocator.allocate s.stackAllocator =
      some (some record.kernelStack, allocator))
    (hTop : ∃ v : VirtAddr, record.kernelStack.topAddr = some v ∧ v.val = top)
    (heap : ¬ InStackRegion record.rspField)
    (distinct : ∀ u r, s.tasks u = some r → r.rspField ≠ record.rspField) :
    KernelStep taskSetup s (s.spawn taskSetup t record top startFn arg allocator) := by
  obtain ⟨v, hv, rfl⟩ := hTop
  exact .spawn startFn arg fresh allocate hv heap distinct

theorem zero_lt_maxKernelStacks : 0 < maxKernelStacks := by decide

-- One processor, at `start_scheduler`: `rdi` points at the dummy on the boot stack at `0x3000`,
-- `rsi` holds the stack pointer `Task::new` gave the first task, `rdx` its page table.
def bootCore : Core :=
  ⟨Function.update (Function.update (Function.update (Function.update 0 .rdi 0x2000) .rsi
    0xffff_d000_0000_ff78) .rdx 0x5000) .rsp 0x3000, 0, 0, 0, 0, 0, .kernel⟩

-- The first task: its `Task` at `0x1000`, its stack from bit 0.
def firstRecord : TaskRecord := ⟨0x1000, 0x5000, stackAt 0 zero_lt_maxKernelStacks⟩

def firstKernel : Kernel 1 Nat :=
  (Kernel.init 0 fun _ => bootCore).spawn 0x4000 0 firstRecord 0xffff_d000_0001_0000 0x6000 0x7000
    ⟨[1, 0, 0, 0], some 0⟩

theorem allocate_new :
    KernelStackAllocator.allocate KernelStackAllocator.new =
      some (some firstRecord.kernelStack, ⟨[1, 0, 0, 0], some 0⟩) := by
  decide

theorem firstTop_canonical :
    (0xffff_d000_0001_0000 : UInt64).toNat < 2 ^ 47 ∨ 2 ^ 64 - 2 ^ 47 ≤ (0xffff_d000_0001_0000 : UInt64).toNat := by
  decide

theorem firstRecord_topAddr :
    firstRecord.kernelStack.topAddr = some ⟨0xffff_d000_0001_0000, firstTop_canonical⟩ := by
  decide

theorem firstKernel_reachable :
    Relation.ReflTransGen (KernelStep 0x4000) (Kernel.init 0 fun _ => bootCore) firstKernel := by
  refine Relation.ReflTransGen.single (KernelStep.spawn_at 0x6000 0x7000 rfl allocate_new
    ⟨_, firstRecord_topAddr, rfl⟩ ?_ (fun u r h => by cases h))
  unfold InStackRegion
  decide

theorem one_lt_maxKernelStacks : 1 < maxKernelStacks := by decide

-- The second task: its `Task` at `0x1100`, its page table at `0x8000`, its stack from bit 1.
def secondRecord : TaskRecord := ⟨0x1100, 0x8000, stackAt 1 one_lt_maxKernelStacks⟩

def twoTaskKernel : Kernel 1 Nat :=
  firstKernel.spawn 0x4000 1 secondRecord 0xffff_d000_0002_0000 0x6000 0x7001 ⟨[3, 0, 0, 0], some 1⟩

theorem secondTop_canonical :
    (0xffff_d000_0002_0000 : UInt64).toNat < 2 ^ 47 ∨ 2 ^ 64 - 2 ^ 47 ≤ (0xffff_d000_0002_0000 : UInt64).toNat := by
  decide

theorem secondRecord_topAddr :
    secondRecord.kernelStack.topAddr = some ⟨0xffff_d000_0002_0000, secondTop_canonical⟩ := by
  decide

theorem twoTaskKernel_reachable :
    Relation.ReflTransGen (KernelStep 0x4000) (Kernel.init 0 fun _ => bootCore) twoTaskKernel := by
  refine firstKernel_reachable.tail (KernelStep.spawn_at 0x6000 0x7001 rfl (by decide)
    ⟨_, secondRecord_topAddr, rfl⟩ ?_ fun u r h => ?_)
  · unfold InStackRegion
    decide
  · have first : u = 0 ∧ firstRecord = r := by
      simpa [firstKernel, Kernel.spawn, Kernel.init, Function.update_apply] using h
    obtain ⟨rfl, rfl⟩ := first
    decide

theorem twoTaskKernel_tasks {t : Nat} {r : TaskRecord} (h : twoTaskKernel.tasks t = some r) :
    (t = 0 ∧ r = firstRecord) ∨ (t = 1 ∧ r = secondRecord) := by
  by_cases second : t = 1
  · subst second
    have same : secondRecord = r := by simpa [twoTaskKernel, Kernel.spawn] using h
    exact .inr ⟨rfl, same.symm⟩
  · have first : t = 0 ∧ firstRecord = r := by
      simpa [twoTaskKernel, firstKernel, Kernel.spawn, Kernel.init, Function.update_apply, second]
        using h
    exact .inl ⟨first.1, first.2.symm⟩

theorem twoTaskKernel_switchOk : twoTaskKernel.SwitchOk 0 0 := by
  refine ⟨⟨firstRecord, _, rfl, rfl, by decide, rfl⟩, (fun prev h => by cases h), fun _ a hw => ?_⟩
  rintro ⟨t, r, susp, ht, -, ha⟩
  rcases twoTaskKernel_tasks ht with ⟨rfl, rfl⟩ | ⟨rfl, rfl⟩ <;>
  rcases hw with rfl | ⟨j, hj, rfl⟩ <;> revert ha
  · decide
  · interval_cases j <;> decide
  · decide
  · interval_cases j <;> decide

-- The registers `run_scheduler` passes to `switch_to_task`: the running task's `registers.rsp`
-- in `rdi`, the next task's saved stack pointer in `rsi` and its page table in `rdx`.
def switchArgs (s : Kernel 1 Nat) (prev next : TaskRecord) : Kernel 1 Nat :=
  { s with
    cores := Function.update s.cores ⟨0, Nat.one_pos⟩
      { s.cores ⟨0, Nat.one_pos⟩ with
        regs := Function.update (Function.update (Function.update (s.cores ⟨0, Nat.one_pos⟩).regs
          .rdi prev.rspField) .rsi (s.mem next.rspField)) .rdx next.pageTable } }

theorem switchArgs_step {s : Kernel 1 Nat} (prev next : TaskRecord) :
    KernelStep 0x4000 s (switchArgs s prev next) :=
  .compute 0 _ s.mem fun _ _ => rfl

def firstYielding : Kernel 1 Nat :=
  switchArgs (twoTaskKernel.switchTo ⟨0, Nat.one_pos⟩ 0) firstRecord secondRecord

def secondYielding : Kernel 1 Nat :=
  switchArgs (firstYielding.switchTo ⟨0, Nat.one_pos⟩ 1) secondRecord firstRecord

theorem firstYielding_switchOk : firstYielding.SwitchOk 0 1 := by
  refine ⟨⟨secondRecord, _, rfl, rfl, rfl, rfl⟩, fun prev h => ?_, fun h => by cases h⟩
  cases h
  refine ⟨firstRecord, rfl, rfl, fun k hk => ?_⟩
  interval_cases k <;> decide

theorem secondYielding_switchOk : secondYielding.SwitchOk 0 0 := by
  refine ⟨⟨firstRecord, _, rfl, rfl, rfl, rfl⟩, fun prev h => ?_, fun h => by cases h⟩
  cases h
  refine ⟨secondRecord, rfl, rfl, fun k hk => ?_⟩
  interval_cases k <;> decide

theorem secondYielding_reachable :
    Relation.ReflTransGen (KernelStep 0x4000) (Kernel.init 0 fun _ => bootCore) secondYielding :=
  have first := (twoTaskKernel_reachable.tail (.switch 0 0 twoTaskKernel_switchOk)).tail
    (switchArgs_step firstRecord secondRecord)
  (first.tail (.switch 0 1 firstYielding_switchOk)).tail (switchArgs_step secondRecord firstRecord)

/-- Switching back to task 0 resumes it as it was when it switched to task 1. -/
theorem kernel_switch_resumes_back :
    ((secondYielding.switchTo 0 0).cores 0).regs = (returnContext (firstYielding.machine 0)).regs ∧
      ((secondYielding.switchTo 0 0).cores 0).rip = (returnContext (firstYielding.machine 0)).rip ∧
      ((secondYielding.switchTo 0 0).cores 0).cr3 = 0x5000 ∧
      ∀ a, firstRecord.kernelStack.contains a = true →
        (secondYielding.switchTo 0 0).mem a = (firstYielding.switchTo 0 1).mem a :=
  kernel_switch_resumes secondYielding_reachable secondYielding_switchOk rfl rfl

theorem kernel_stacks_apart_two :
    (∀ t r, secondYielding.tasks t = some r → ∃ hi : r.kernelStack.index < maxKernelStacks,
      r.kernelStack = stackAt _ hi ∧ secondYielding.stackAllocator.isUsed r.kernelStack.index = true ∧
      ∀ a : Memory.VirtAddr, r.kernelStack.contains a.val = true → isKernelGuardPage a = false) ∧
    ∀ t u rt ru a, secondYielding.tasks t = some rt → secondYielding.tasks u = some ru → t ≠ u →
      rt.kernelStack.contains a = true → ru.kernelStack.contains a = false :=
  kernel_stacks_apart secondYielding_reachable

end Reachable

end RustOs.Sched
