import RustOs.Elf
import RustOs.Memory.Mapping
import RustOs.Memory.Physical

/-!
# Loading a userspace program

`sched/userspace.rs`: `set_up_elf_segments` runs in the new task, on the task's own page
table, a clone of the kernel's. For each loadable segment it asserts a 4 KiB alignment, maps
fresh pages for its `mem_size` bytes, copies the segment's bytes into them and sets the
segment's flags; it then maps four stack pages at `0x2_1000_0000`, copies the arguments onto
the stack and returns the stack pointer. Only the page tables, the frame allocator and the
stack pointer are modelled, not the bytes written. A panic (a failed `assert!`, an `expect`
on an error, a slice index out of range) is `none`.
-/

namespace RustOs.Sched
open RustOs.Memory RustOs.Memory.PageTable RustOs.Elf RustOs.BitmapAlloc
open PageTableEntryFlags Level4PageTable

/-- `ExecParams`: the components of the program's path and its arguments. -/
structure ExecParams where
  pathComponents : List String
  args : List String

/-- The stack pointer handed to userspace, from the top of the stack pages: each argument is
copied below the previous one as a nul-terminated string, the pointer is aligned down to 8
bytes, and `argv` and then `argc` are pushed, one word each. -/
def userStackPointer (stackTop : UInt64) (allArgs : List String) : Option VirtAddr := do
  -- arg_ptr = stack_ptr.wrapping_sub(arg.len() + 1)
  let argsBottom := allArgs.foldl
    (fun stackPtr arg => stackPtr - (arg.utf8ByteSize + 1).toUInt64) stackTop
  -- stack_ptr.sub(8).add(stack_ptr.align_offset(8))
  let aligned := argsBottom - 8 + (8 - argsBottom % 8) % 8
  guard (aligned % 8 = 0)
  VirtAddr.new (aligned - 8 * (allArgs.length + 1).toUInt64)

/-- The loop of `set_up_elf_segments` over the loadable segments. -/
def setUpElfSegmentsLoop (elfExe : ElfExecutableHeader) (table : Level4PageTable) :
    List LoadableSegment → KernelMemory → Option KernelMemory
  | [], m => some m
  | segment :: segments, m => do
      guard (segment.alignment.toNat = PageSize.size4KiB.sizeBytes)
      -- .expect("failed to get segment data")
      let segmentData ← elfExe.parsed.segmentData segment.rawHeader
      let startPage ← Page.fromStartAddr segment.vaddr .size4KiB
      let numPages ← divCeil segment.memSize.toNat startPage.size.sizeBytes
      let userPages ← pageRangeIter startPage numPages
      let (mapped, m) ← table.allocateAndMapPages m userPages
        (present ||| writable ||| userAccessible)
      let .ok () := mapped | none
      -- user_pages.as_byte_slice()[..segment_data.len()].copy_from_slice(segment_data)
      guard (segmentData.length ≤ numPages * startPage.size.sizeBytes)
      let userFlags := segment.flags.pageTableEntryFlags ||| userAccessible
      let (flagged, memory) ← table.setPageFlags m.memory userPages userFlags
      let .ok () := flagged | none
      setUpElfSegmentsLoop elfExe table segments { m with memory }

def setUpElfSegments (elfExe : ElfExecutableHeader) (params : ExecParams)
    (table : Level4PageTable) (m : KernelMemory) : Option (VirtAddr × KernelMemory) := do
  let m ← setUpElfSegmentsLoop elfExe table elfExe.loadableSegments m
  let stackStart ← VirtAddr.new 0x2_1000_0000
  let stackPage ← Page.fromStartAddr stackStart .size4KiB
  let stackPages ← pageRangeIter stackPage 4
  let (mapped, m) ← table.allocateAndMapPages m stackPages
    (present ||| writable ||| userAccessible)
  let .ok () := mapped | none
  -- the first argument is the program's name
  let firstArg := params.pathComponents.getLast?.getD ""
  let stackTop := stackStart.val + (4 * PageSize.size4KiB.sizeBytes).toUInt64
  let stackPtr ← userStackPointer stackTop (firstArg :: params.args)
  some (stackPtr, m)

/-! ## The stack pointer -/

theorem foldl_sub_arg (top : UInt64) : ∀ (args : List String),
    (args.map fun arg => arg.utf8ByteSize + 1).sum ≤ top.toNat →
    (args.foldl (fun stackPtr arg => stackPtr - (arg.utf8ByteSize + 1).toUInt64) top).toNat =
      top.toNat - (args.map fun arg => arg.utf8ByteSize + 1).sum
  | [], _ => by simp
  | arg :: args, fits => by
      rw [List.map_cons, List.sum_cons] at fits
      have size : (arg.utf8ByteSize + 1).toUInt64.toNat = arg.utf8ByteSize + 1 := by
        have := top.toNat_lt
        simp
        omega
      have step : (top - (arg.utf8ByteSize + 1).toUInt64).toNat =
          top.toNat - (arg.utf8ByteSize + 1) := by
        rw [UInt64.toNat_sub_of_le _ _ (UInt64.le_iff_toNat_le.mpr (by rw [size]; omega)), size]
      rw [List.foldl_cons, foldl_sub_arg _ args (by rw [step]; omega), step, List.map_cons,
        List.sum_cons]
      omega

theorem userStackPointer_eq {top : UInt64} {allArgs : List String} {bottom : Nat}
    (argsBottom : (allArgs.foldl (fun stackPtr arg => stackPtr - (arg.utf8ByteSize + 1).toUInt64)
      top).toNat = bottom)
    (room : 8 * (allArgs.length + 2) ≤ bottom) (low : bottom < 2 ^ 47) :
    ∃ sp, userStackPointer top allArgs = some sp ∧
      sp.val.toNat = 8 * ((bottom - 1) / 8) - 8 * (allArgs.length + 1) := by
  unfold userStackPointer
  generalize allArgs.foldl (fun stackPtr arg => stackPtr - (arg.utf8ByteSize + 1).toUInt64) top = b
    at argsBottom ⊢
  have words : (8 * (allArgs.length + 1).toUInt64).toNat = 8 * (allArgs.length + 1) := by
    have count : (allArgs.length + 1).toUInt64.toNat = allArgs.length + 1 := by
      simp
      omega
    rw [UInt64.toNat_mul, count]
    simp
    omega
  have aligned : (b - 8 + (8 - b % 8) % 8).toNat = 8 * ((bottom - 1) / 8) := by
    have rest : (b % 8).toNat = bottom % 8 := by rw [UInt64.toNat_mod, argsBottom]; rfl
    have below : (b - 8).toNat = bottom - 8 := by
      rw [UInt64.toNat_sub_of_le _ _
        (UInt64.le_iff_toNat_le.mpr (by rw [argsBottom]; simp; omega)), argsBottom]
      rfl
    have up : ((8 - b % 8) % 8).toNat = (8 - bottom % 8) % 8 := by
      rw [UInt64.toNat_mod, UInt64.toNat_sub_of_le _ _
        (UInt64.le_iff_toNat_le.mpr (by rw [rest]; simp; omega)), rest]
      rfl
    rw [UInt64.toNat_add, below, up, Nat.mod_eq_of_lt (by omega)]
    omega
  have divides : (b - 8 + (8 - b % 8) % 8) % 8 = 0 := by
    apply UInt64.toNat_inj.mp
    rw [UInt64.toNat_mod, aligned]
    simp
  have sp : (b - 8 + (8 - b % 8) % 8 - 8 * (allArgs.length + 1).toUInt64).toNat =
      8 * ((bottom - 1) / 8) - 8 * (allArgs.length + 1) := by
    rw [UInt64.toNat_sub_of_le _ _ (UInt64.le_iff_toNat_le.mpr (by rw [aligned, words]; omega)),
      aligned, words]
  simp only [bind, guard, Option.bind, if_pos divides]
  exact ⟨_, dif_pos (Or.inl (by rw [sp]; omega)), sp⟩

theorem setUpElfSegments_stackPointer {elfExe : ElfExecutableHeader} {params : ExecParams}
    {table : Level4PageTable} {m m' : KernelMemory} {stackPtr : VirtAddr}
    (returned : setUpElfSegments elfExe params table m = some (stackPtr, m')) :
    userStackPointer 0x2_1000_4000 (params.pathComponents.getLast?.getD "" :: params.args) =
      some stackPtr := by
  simp only [setUpElfSegments, bind, Option.bind_eq_some_iff] at returned
  obtain ⟨-, -, stackStart, started, -, -, -, -, ⟨mapped, m2⟩, -, rest⟩ := returned
  have start : stackStart.val = 0x2_1000_0000 := by
    have known : VirtAddr.new 0x2_1000_0000 = some ⟨0x2_1000_0000, by decide⟩ := rfl
    rw [known, Option.some.injEq] at started
    rw [← started]
  cases mapped with
  | error e => simp at rest
  | ok u =>
      simp only [Option.bind_eq_some_iff, Option.some.injEq, Prod.mk.injEq] at rest
      obtain ⟨sp, computed, rfl, -⟩ := rest
      rw [start] at computed
      exact computed

/-- For arguments that fit in the four stack pages, the stack pointer, which is the one
`set_up_elf_segments` returns for a program whose name and arguments they are, lies in them,
8-byte aligned; the words of `argc` and `argv` end at the greatest multiple of 8 below the
strings, so the word after `argv` reaches the first string: it is either the 8 bytes right below
the strings, which nothing writes, or overlaps them; and the pointer is 16-byte aligned only when
that multiple of 8, in words, and the number of arguments plus one have the same parity. -/
theorem userStackPointer_layout (allArgs : List String)
    (fits : (allArgs.map fun arg => arg.utf8ByteSize + 1).sum + 8 * (allArgs.length + 2) ≤
      4 * 4096) :
    ∃ sp, userStackPointer 0x2_1000_4000 allArgs = some sp ∧
      (∀ (elfExe : ElfExecutableHeader) (params : ExecParams) (table : Level4PageTable)
        (m m' : KernelMemory) (stackPtr : VirtAddr),
        params.pathComponents.getLast?.getD "" :: params.args = allArgs →
        setUpElfSegments elfExe params table m = some (stackPtr, m') → stackPtr = sp) ∧
      sp.val.toNat + 8 * (allArgs.length + 1) =
        8 * ((0x2_1000_4000 - (allArgs.map fun arg => arg.utf8ByteSize + 1).sum - 1) / 8) ∧
      0x2_1000_4000 - (allArgs.map fun arg => arg.utf8ByteSize + 1).sum ≤
        sp.val.toNat + 8 * (allArgs.length + 1) + 8 ∧
      0x2_1000_0000 ≤ sp.val.toNat ∧ sp.val.toNat % 8 = 0 ∧
      (sp.val.toNat % 16 = 0 ↔
        ((0x2_1000_4000 - (allArgs.map fun arg => arg.utf8ByteSize + 1).sum - 1) / 8 +
          allArgs.length + 1) % 2 = 0) := by
  have top : (0x2_1000_4000 : UInt64).toNat = 0x2_1000_4000 := rfl
  have argsBottom := foldl_sub_arg 0x2_1000_4000 allArgs (by rw [top]; omega)
  rw [top] at argsBottom
  obtain ⟨sp, returned, value⟩ := userStackPointer_eq argsBottom (by omega) (by omega)
  -- the loader computes the pointer from the same arguments
  have loaded : ∀ (elfExe : ElfExecutableHeader) (params : ExecParams) (table : Level4PageTable)
      (m m' : KernelMemory) (stackPtr : VirtAddr),
      params.pathComponents.getLast?.getD "" :: params.args = allArgs →
      setUpElfSegments elfExe params table m = some (stackPtr, m') → stackPtr = sp := by
    intro elfExe params table m m' stackPtr named set
    have computed := setUpElfSegments_stackPointer set
    rw [named, returned, Option.some.injEq] at computed
    exact computed.symm
  refine ⟨sp, returned, loaded, ?_, ?_, ?_, ?_, ⟨fun aligned => ?_, fun even => ?_⟩⟩ <;> omega

/-- `init` with no arguments: five bytes of string, and the pointer is `0x2_1000_3FE8`, 8 bytes off
a 16-byte boundary. -/
theorem userStackPointer_layout_init :
    (["init"].map fun arg => arg.utf8ByteSize + 1).sum + 8 * (["init"].length + 2) ≤ 4 * 4096 ∧
    ∃ sp, userStackPointer 0x2_1000_4000 ["init"] = some sp ∧
      (∀ (elfExe : ElfExecutableHeader) (params : ExecParams) (table : Level4PageTable)
        (m m' : KernelMemory) (stackPtr : VirtAddr),
        params.pathComponents.getLast?.getD "" :: params.args = ["init"] →
        setUpElfSegments elfExe params table m = some (stackPtr, m') → stackPtr = sp) ∧
      sp.val.toNat + 8 * (["init"].length + 1) =
        8 * ((0x2_1000_4000 - (["init"].map fun arg => arg.utf8ByteSize + 1).sum - 1) / 8) ∧
      0x2_1000_4000 - (["init"].map fun arg => arg.utf8ByteSize + 1).sum ≤
        sp.val.toNat + 8 * (["init"].length + 1) + 8 ∧
      0x2_1000_0000 ≤ sp.val.toNat ∧ sp.val.toNat % 8 = 0 ∧
      (sp.val.toNat % 16 = 0 ↔
        ((0x2_1000_4000 - (["init"].map fun arg => arg.utf8ByteSize + 1).sum - 1) / 8 +
          ["init"].length + 1) % 2 = 0) :=
  ⟨by decide, userStackPointer_layout ["init"] (by decide)⟩

-- The kernel's level 4 table as `clean_up_kernel_page_table` leaves it: the lower half unmapped
-- and every higher-half entry `i` pointing at an empty level 3 table, here the one in frame
-- `0x1000 + i`.
def kernelTableEntries : PageTable :=
  ⟨fun i => if 256 ≤ i.val then ⟨((0x1000 + i.val) * 4096).toUInt64 ||| 0x3⟩ else ⟨0⟩⟩

def kernelTable : Level4PageTable := ⟨1⟩

def bootMemory : KernelMemory :=
  ⟨fun frame => if frame = 1 then kernelTableEntries else PageTable.zero, ⟨⟨[0x3], none⟩⟩⟩

def higherHalfElf : ElfBytes :=
  ⟨[], ⟨2, 62, 0xFFFF_9600_0000_0000⟩,
    some [⟨1, 0, 0xFFFF_9600_0000_0000, 0, 0, 0x1000, 4, 0x1000⟩]⟩

def higherHalfAddr : VirtAddr := ⟨0xFFFF_9600_0000_0000, by decide⟩

/-- Two tasks get clones of the kernel's table; the second loads `higherHalfElf`, which `parse`
accepts. Loading does not panic and maps the segment's page below the level 3 table that all
three tables share: the first task's table and the kernel's now translate the address, which
neither mapped before. -/
theorem setUpElfSegments_maps_shared_half :
    ∃ exe other m1 task m2 stackPtr m3 mapping mapping',
      ElfExecutableHeader.parse higherHalfElf = some (.ok exe) ∧
      kernelTable.allocateClone bootMemory = some (other, m1) ∧
      kernelTable.allocateClone m1 = some (task, m2) ∧
      setUpElfSegments exe ⟨["init"], []⟩ task m2 = some (stackPtr, m3) ∧
      other.translateAddress m2.memory higherHalfAddr = some .unmapped ∧
      kernelTable.translateAddress m2.memory higherHalfAddr = some .unmapped ∧
      other.translateAddress m3.memory higherHalfAddr = some (.mapped mapping) ∧
      kernelTable.translateAddress m3.memory higherHalfAddr = some (.mapped mapping') :=
  ⟨_, _, _, _, _, _, _, _, _, rfl, rfl, rfl, rfl, rfl, rfl, rfl, rfl⟩

end RustOs.Sched
