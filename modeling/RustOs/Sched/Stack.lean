import Mathlib
import RustOs.BitmapAlloc.Invariant
import RustOs.Memory.Address

/-!
# Kernel stacks

`sched/stack.rs`: 256 kernel stacks of 16 pages each from `KERNEL_STACK_REGION_START` on, handed
out by a bitmap allocator of four chunks, one bit per stack. The first page of a stack is its
guard page, left unmapped; the fifteen above it are mapped and zeroed (`KernelStack.contains`,
`zeroStack`). `is_kernel_guard_page` tells a page fault in a guard page.

Mapping and unmapping the pages in the kernel page table is not modelled here. A stack the
allocator hands out sits at the address of its bit (`allocate_eq_some`), `free` returns that
bit (`free_stackAt`), and stacks of distinct bits share no address (`contains_stackAt_apart`).
-/

namespace RustOs.Sched
open Memory BitmapAlloc

def kernelStackSizePages : Nat := 16

/-- `KERNEL_STACK_SIZE_BYTES`, with a `PAGE_SIZE` of 4 KiB. -/
def kernelStackSizeBytes : Nat := kernelStackSizePages * 4096

/-- `KERNEL_STACK_START_VIRT_ADDR`, the `KERNEL_STACK_REGION_START` of `memory/mapping.rs`. -/
def kernelStackStartVirtAddr : Nat := 0xffff_d000_0000_0000

def maxKernelStacks : Nat := 256

/-- `MAX_KERNEL_ALLOC_BIT_CHUNKS`: `MAX_KERNEL_STACKS.div_ceil(u64::BITS)`. -/
def maxKernelAllocBitChunks : Nat := (maxKernelStacks + 63) / 64

structure KernelStack where
  startAddr : VirtAddr
  deriving DecidableEq

namespace KernelStack

/-- `top_addr`: the addition of `VirtAddr` panics on overflow. -/
def topAddr (s : KernelStack) : Option VirtAddr :=
  if s.startAddr.val.toNat + kernelStackSizeBytes < 2 ^ 64 then
    VirtAddr.new (s.startAddr.val + kernelStackSizeBytes.toUInt64)
  else none

/-- The bit of the stack allocator a kernel stack comes from, as `free` computes it. -/
def index (s : KernelStack) : Nat :=
  (s.startAddr.val.toNat - kernelStackStartVirtAddr) / kernelStackSizeBytes

/-- Whether `a` is in the pages `physically_mapped_pages` names, the fifteen above the guard
page. -/
def contains (s : KernelStack) (a : UInt64) : Bool :=
  s.startAddr.val.toNat + 4096 ≤ a.toNat && a.toNat < s.startAddr.val.toNat + kernelStackSizeBytes

end KernelStack

/-- The zeroing at the end of `allocate`: `write_bytes(0, KERNEL_STACK_SIZE_BYTES - PAGE_SIZE)`
from the page above the guard page. -/
def zeroStack (mem : UInt64 → UInt64) (s : KernelStack) : UInt64 → UInt64 :=
  fun a => if s.contains a then 0 else mem a

namespace KernelStackAllocator

/-- `KernelStackAllocator::new` over `KERNEL_ALLOC_BIT_CHUNKS`, all zero. -/
def new : BitmapAllocator := BitmapAllocator.new (List.replicate maxKernelAllocBitChunks 0)

/-- `allocate`: `none` in the first component when every bit is used. -/
def allocate (a : BitmapAllocator) : Option (Option KernelStack × BitmapAllocator) := do
  let (stackIndex, a) ← a.allocateContiguous 1
  match stackIndex with
  | none => some (none, a)
  | some stackIndex =>
      let startAddr ← VirtAddr.new
        (kernelStackStartVirtAddr + stackIndex * kernelStackSizeBytes).toUInt64
      some (some ⟨startAddr⟩, a)

/-- `free`: the subtraction of `u64`s panics below the region. -/
def free (a : BitmapAllocator) (stack : KernelStack) : Option BitmapAllocator :=
  if stack.startAddr.val.toNat < kernelStackStartVirtAddr then none
  else
    let stackIndex := stack.index
    a.freeContiguous stackIndex 1

end KernelStackAllocator

def isKernelGuardPage (addr : VirtAddr) : Bool :=
  let aboveKernelStack := kernelStackStartVirtAddr ≤ addr.val.toNat
  let kernelStackSize := kernelStackSizeBytes * maxKernelStacks
  let withinKernelStack := addr.val.toNat < kernelStackStartVirtAddr + kernelStackSize
  if !(aboveKernelStack && withinKernelStack) then false
  else
    -- the guard page is the first page in each stack
    let relativeStart := addr.val.toNat - kernelStackStartVirtAddr
    let stackPageIndex := relativeStart / 4096
    stackPageIndex % kernelStackSizePages == 0

def InStackRegion (a : UInt64) : Prop :=
  kernelStackStartVirtAddr ≤ a.toNat ∧
    a.toNat < kernelStackStartVirtAddr + kernelStackSizeBytes * maxKernelStacks

/-! ## Stacks by index -/

def stackStart (i : Nat) : Nat := kernelStackStartVirtAddr + i * kernelStackSizeBytes

theorem stackStart_add_lt {i : Nat} (hi : i < maxKernelStacks) :
    stackStart i + kernelStackSizeBytes < 2 ^ 64 := by
  unfold stackStart kernelStackStartVirtAddr kernelStackSizeBytes kernelStackSizePages
  unfold maxKernelStacks at hi
  omega

theorem stackStart_toUInt64_toNat {i : Nat} (hi : i < maxKernelStacks) :
    (stackStart i).toUInt64.toNat = stackStart i := by
  have bound := stackStart_add_lt hi
  rw [Nat.toUInt64_eq, UInt64.toNat_ofNat', Nat.mod_eq_of_lt (by omega)]

theorem stackStart_canonical {i : Nat} (hi : i < maxKernelStacks) :
    (stackStart i).toUInt64.toNat < 2 ^ 47 ∨ 2 ^ 64 - 2 ^ 47 ≤ (stackStart i).toUInt64.toNat := by
  rw [stackStart_toUInt64_toNat hi]
  unfold stackStart kernelStackStartVirtAddr
  omega

def stackAt (i : Nat) (hi : i < maxKernelStacks) : KernelStack :=
  ⟨⟨(stackStart i).toUInt64, stackStart_canonical hi⟩⟩

theorem stackAt_toNat {i : Nat} (hi : i < maxKernelStacks) :
    (stackAt i hi).startAddr.val.toNat = stackStart i :=
  stackStart_toUInt64_toNat hi

theorem allocate_eq (a : BitmapAllocator) :
    KernelStackAllocator.allocate a = (a.allocateContiguous 1).bind fun (r, a') =>
      match r with
      | none => some (none, a')
      | some i => (VirtAddr.new (stackStart i).toUInt64).map fun startAddr => (some ⟨startAddr⟩, a') := by
  unfold KernelStackAllocator.allocate stackStart
  cases a.allocateContiguous 1 with
  | none => rfl
  | some p =>
      obtain ⟨r, a'⟩ := p
      cases r with
      | none => rfl
      | some i =>
          show (VirtAddr.new _).bind _ = (VirtAddr.new _).map _
          cases VirtAddr.new (kernelStackStartVirtAddr + i * kernelStackSizeBytes).toUInt64 <;> rfl

theorem allocate_eq_some {a a' : BitmapAllocator} {s : KernelStack}
    (h : KernelStackAllocator.allocate a = some (some s, a')) :
    ∃ i, a.allocateContiguous 1 = some (some i, a') ∧
      ∀ hi : i < maxKernelStacks, s = stackAt i hi := by
  rw [allocate_eq, Option.bind_eq_some_iff] at h
  obtain ⟨⟨r, a''⟩, halloc, h⟩ := h
  cases r with
  | none => simp at h
  | some i =>
      simp only [Option.map_eq_some_iff, Prod.mk.injEq, Option.some.injEq] at h
      obtain ⟨startAddr, hnew, rfl, rfl⟩ := h
      refine ⟨i, halloc, fun hi => ?_⟩
      simp only [VirtAddr.new, stackStart_canonical hi, dite_true, Option.some.injEq] at hnew
      rw [← hnew]
      rfl

theorem allocate_eq_none {a a' : BitmapAllocator}
    (h : KernelStackAllocator.allocate a = some (none, a')) :
    a.allocateContiguous 1 = some (none, a') := by
  rw [allocate_eq, Option.bind_eq_some_iff] at h
  obtain ⟨⟨r, a''⟩, halloc, h⟩ := h
  cases r with
  | none =>
      simp only [Option.some.injEq, Prod.mk.injEq, true_and] at h
      rw [halloc, h]
  | some i => simp [Option.map_eq_some_iff] at h

theorem index_stackAt {i : Nat} (hi : i < maxKernelStacks) : (stackAt i hi).index = i := by
  rw [KernelStack.index, stackAt_toNat hi]
  unfold stackStart kernelStackSizeBytes kernelStackSizePages
  rw [Nat.add_sub_cancel_left, Nat.mul_div_cancel _ (by omega)]

theorem free_stackAt (a : BitmapAllocator) {i : Nat} (hi : i < maxKernelStacks) :
    KernelStackAllocator.free a (stackAt i hi) = a.freeContiguous i 1 := by
  have above : ¬ (stackAt i hi).startAddr.val.toNat < kernelStackStartVirtAddr := by
    rw [stackAt_toNat hi]
    unfold stackStart
    omega
  simp only [KernelStackAllocator.free, above, index_stackAt hi, if_false]

theorem topAddr_stackAt {i : Nat} (hi : i < maxKernelStacks) :
    ∃ top, (stackAt i hi).topAddr = some top ∧ top.val.toNat = stackStart i + kernelStackSizeBytes := by
  have start := stackAt_toNat hi
  have bound := stackStart_add_lt hi
  have sum : ((stackAt i hi).startAddr.val + kernelStackSizeBytes.toUInt64).toNat =
      stackStart i + kernelStackSizeBytes := by
    rw [UInt64.toNat_add, start, Nat.toUInt64_eq, UInt64.toNat_ofNat']
    unfold kernelStackSizeBytes kernelStackSizePages at bound ⊢
    omega
  have canonical : 2 ^ 64 - 2 ^ 47 ≤
      ((stackAt i hi).startAddr.val + kernelStackSizeBytes.toUInt64).toNat := by
    rw [sum]
    unfold stackStart kernelStackStartVirtAddr
    omega
  refine ⟨⟨_, Or.inr canonical⟩, ?_, sum⟩
  simp only [KernelStack.topAddr, start, bound, if_true, VirtAddr.new, Or.inr canonical, dite_true]

theorem contains_stackAt {i : Nat} (hi : i < maxKernelStacks) (a : UInt64) :
    (stackAt i hi).contains a = true ↔
      stackStart i + 4096 ≤ a.toNat ∧ a.toNat < stackStart i + kernelStackSizeBytes := by
  simp [KernelStack.contains, stackAt_toNat hi]

theorem stackStart_add_le {i j : Nat} (hij : i < j) :
    stackStart i + kernelStackSizeBytes ≤ stackStart j := by
  have step : (i + 1) * kernelStackSizeBytes ≤ j * kernelStackSizeBytes := Nat.mul_le_mul_right _ hij
  unfold stackStart
  rw [Nat.succ_mul] at step
  omega

theorem contains_stackAt_apart {i j : Nat} (hi : i < maxKernelStacks) (hj : j < maxKernelStacks)
    (hij : i ≠ j) {a : UInt64} (hin : (stackAt i hi).contains a = true) :
    (stackAt j hj).contains a = false := by
  rw [contains_stackAt] at hin
  rw [← Bool.not_eq_true, contains_stackAt]
  rcases Nat.lt_or_gt_of_ne hij with lt | gt
  · have := stackStart_add_le lt
    omega
  · have := stackStart_add_le gt
    omega

theorem inStackRegion_of_contains {i : Nat} (hi : i < maxKernelStacks) {a : UInt64}
    (hin : (stackAt i hi).contains a = true) : InStackRegion a := by
  rw [contains_stackAt] at hin
  have top : stackStart i + kernelStackSizeBytes ≤ stackStart maxKernelStacks := by
    have step : (i + 1) * kernelStackSizeBytes ≤ maxKernelStacks * kernelStackSizeBytes :=
      Nat.mul_le_mul_right _ hi
    unfold stackStart
    rw [Nat.succ_mul] at step
    omega
  unfold InStackRegion
  unfold stackStart at hin top
  rw [Nat.mul_comm kernelStackSizeBytes]
  omega

/-! ## Guard pages -/

theorem isKernelGuardPage_iff (addr : VirtAddr) :
    isKernelGuardPage addr = true ↔
      ∃ i < maxKernelStacks, stackStart i ≤ addr.val.toNat ∧ addr.val.toNat < stackStart i + 4096 := by
  unfold isKernelGuardPage
  dsimp only
  by_cases inside : kernelStackStartVirtAddr ≤ addr.val.toNat ∧
      addr.val.toNat < kernelStackStartVirtAddr + kernelStackSizeBytes * maxKernelStacks
  · have flag : (!(decide (kernelStackStartVirtAddr ≤ addr.val.toNat) &&
        decide (addr.val.toNat < kernelStackStartVirtAddr + kernelStackSizeBytes * maxKernelStacks))) =
        false := by
      rw [decide_eq_true inside.1, decide_eq_true inside.2]
      rfl
    rw [flag, if_neg Bool.false_ne_true, beq_iff_eq]
    -- the page index counts pages from the region start; the stack is that index over sixteen
    unfold stackStart kernelStackSizeBytes kernelStackSizePages maxKernelStacks at *
    constructor
    · intro first
      exact ⟨(addr.val.toNat - kernelStackStartVirtAddr) / 4096 / 16, by omega, by omega, by omega⟩
    · rintro ⟨i, hi, low, high⟩
      omega
  · have flag : (!(decide (kernelStackStartVirtAddr ≤ addr.val.toNat) &&
        decide (addr.val.toNat < kernelStackStartVirtAddr + kernelStackSizeBytes * maxKernelStacks))) =
        true := by
      rw [Bool.not_eq_true', Bool.and_eq_false_iff, decide_eq_false_iff_not, decide_eq_false_iff_not]
      omega
    rw [flag, if_pos rfl]
    simp only [Bool.false_eq_true, false_iff, not_exists, not_and]
    intro i hi low high
    unfold stackStart kernelStackSizeBytes kernelStackSizePages maxKernelStacks at *
    omega

theorem isKernelGuardPage_stackAt {i : Nat} (hi : i < maxKernelStacks) (addr : VirtAddr) :
    ((stackAt i hi).contains addr.val = true → isKernelGuardPage addr = false) ∧
      (stackStart i ≤ addr.val.toNat → addr.val.toNat < stackStart i + 4096 →
        isKernelGuardPage addr = true) := by
  refine ⟨fun hin => ?_, fun low high => (isKernelGuardPage_iff addr).mpr ⟨i, hi, low, high⟩⟩
  rw [contains_stackAt] at hin
  rw [← Bool.not_eq_true, isKernelGuardPage_iff]
  rintro ⟨j, hj, low, high⟩
  rcases Nat.lt_trichotomy i j with lt | rfl | gt
  · have := stackStart_add_le lt
    omega
  · unfold kernelStackSizeBytes kernelStackSizePages at hin
    omega
  · have := stackStart_add_le gt
    unfold kernelStackSizeBytes kernelStackSizePages at this
    omega

end RustOs.Sched
