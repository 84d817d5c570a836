import RustOs.Memory.Physical
import RustOs.Memory.PageTable.Entry

/-!
# Walking and editing the four-level page table

`Level4PageTable::translate_address`, `map_to`, `set_flags` and `unmap` of
`memory/page_table.rs`. Tables live in physical frames: `memory f` is frame `f` read as a page
table, and a table is reached through the address in its parent's entry. Each `loop` of the
source is a recursion on `fuel`, started at 4: every round either returns or goes one level
down, so four rounds suffice (`translateLoop` and the others return `none`, a panic, only if
they run out). An entry is written through the `&mut` the loop holds, so every write is a
`writeEntry` of the frame and index the entry was read from.
-/

namespace RustOs.Memory

structure PageTable where
  entries : Fin 512 → PageTable.PageTableEntry

namespace PageTable
open PageTableEntryFlags

def addressEntry (t : PageTable) (level : PageTableLevel) (addr : VirtAddr) : PageTableEntry :=
  t.entries (PageTableIndex.fromAddress level addr)

/-- The table in a frame after `Page::zero`. -/
def zero : PageTable := ⟨fun _ => ⟨0⟩⟩

structure KernelMemory where
  memory : Nat → PageTable
  allocator : PhysicalMemoryAllocator

def writeEntry (memory : Nat → PageTable) (t : Nat) (i : Fin 512) (e : PageTableEntry) :
    Nat → PageTable :=
  Function.update memory t ⟨Function.update (memory t).entries i e⟩

/-- `Level4PageTable(&'static mut PageTable)`: the frame of the level 4 table. -/
structure Level4PageTable where
  frame : Nat

structure AddressPageMapping where
  page : Page KernPhysAddr
  flags : PageTableEntryFlags
  offset : UInt64
  deriving DecidableEq

inductive TranslateResult where
  | unmapped
  | mapped (mapping : AddressPageMapping)
  deriving DecidableEq

inductive MapTarget where
  | existingPhysPage (page : Page KernPhysAddr)
  | newPhysPage

inductive MapError where
  | physicalPageAllocationFailed (e : AllocError)
  | pageAlreadyMapped (existingTarget : Page KernPhysAddr) (flags : PageTableEntryFlags)
  deriving DecidableEq

inductive UnmapError where
  | pageNotMapped
  | pageWrongSize (expectedSize actualSize : PageSize)
  deriving DecidableEq

inductive SetFlagsError where
  | pageNotMapped
  deriving DecidableEq

/-- `MapTarget::get_target_page`, with its two assertions. -/
def MapTarget.getTargetPage (target : MapTarget) (allocator : PhysicalMemoryAllocator)
    (targetPageSize : PageSize) :
    Option (Except AllocError (Page KernPhysAddr) × PhysicalMemoryAllocator) :=
  match target with
  | .existingPhysPage page => if page.size = targetPageSize then some (.ok page, allocator) else none
  | .newPhysPage => if targetPageSize.sizeBytes = pageSize then allocator.allocatePage else none

/-- `PageTableEntry::allocate_and_map_child_table` on entry `i` of the table in frame `t`:
allocate a frame, zero it, then point the entry (as it reads after the zeroing) at it. The
result is the frame of the child table. -/
def allocateAndMapChildTable (m : KernelMemory) (t : Nat) (i : Fin 512)
    (flags : PageTableEntryFlags) : Option (Except AllocError Nat × KernelMemory) := do
  let (r, allocator) ← m.allocator.allocatePage
  match r with
  | .error e => some (.error e, { m with allocator })
  | .ok newTablePage =>
      let memory := Function.update m.memory newTablePage.frame PageTable.zero
      let newTableAddr ← newTablePage.startAddr.toPhysAddr
      let entry ← ((memory t).entries i).setAddress newTableAddr
      let entry := entry.setFlags (flags ||| present)
      some (.ok newTablePage.frame, ⟨writeEntry memory t i entry, allocator⟩)

namespace Level4PageTable

def translateLoop (memory : Nat → PageTable) (addr : VirtAddr) :
    Nat → PageTable → PageTableLevel → Option TranslateResult
  | 0, _, _ => none
  | fuel + 1, currentTable, currentLevel =>
      match (currentTable.addressEntry currentLevel addr).targetInner currentLevel with
      | none => none
      | some .unmapped => some .unmapped
      | some (.page page flags) =>
          some (.mapped ⟨page, flags, addr.val % page.size.sizeBytes.toUInt64⟩)
      | some (.nextTable level table) => translateLoop memory addr fuel (memory table.frame) level

def translateAddress (self : Level4PageTable) (memory : Nat → PageTable) (addr : VirtAddr) :
    Option TranslateResult :=
  translateLoop memory addr 4 (memory self.frame) .level4

def mapToLoop (page : Page VirtAddr) (mapTarget : MapTarget)
    (flags parentFlags : PageTableEntryFlags) :
    Nat → Nat → PageTableLevel → KernelMemory →
      Option (Except MapError (Page KernPhysAddr) × KernelMemory)
  | 0, _, _, _ => none
  | fuel + 1, currentTable, currentLevel, m =>
      let i := PageTableIndex.fromAddress currentLevel page.startAddr
      let entry := (m.memory currentTable).entries i
      match entry.targetInner currentLevel with
      | none => none
      | some .unmapped =>
          match currentLevel.nextLowerLevel with
          | none => do
              -- the lowest level: map the page here
              let (r, allocator) ← mapTarget.getTargetPage m.allocator page.size
              match r with
              | .error e => some (.error (.physicalPageAllocationFailed e), { m with allocator })
              | .ok targetPage => do
                  let entry ← entry.setTargetPage targetPage flags
                  some (.ok targetPage, ⟨writeEntry m.memory currentTable i entry, allocator⟩)
          | some nextLevel => do
              let (r, m) ← allocateAndMapChildTable m currentTable i parentFlags
              match r with
              | .error e => some (.error (.physicalPageAllocationFailed e), m)
              | .ok table => mapToLoop page mapTarget flags parentFlags fuel table nextLevel m
      | some (.page page flags) => some (.error (.pageAlreadyMapped page flags), m)
      | some (.nextTable level table) =>
          mapToLoop page mapTarget flags parentFlags fuel table.frame level m

def mapTo (self : Level4PageTable) (m : KernelMemory) (page : Page VirtAddr)
    (mapTarget : MapTarget) (flags : PageTableEntryFlags) :
    Option (Except MapError (Page KernPhysAddr) × KernelMemory) :=
  let parentFlags := flags &&& (present ||| writable ||| userAccessible)
  mapToLoop page mapTarget flags parentFlags 4 self.frame .level4 m

def setFlagsLoop (page : Page VirtAddr) (flags : PageTableEntryFlags) :
    Nat → Nat → PageTableLevel → (Nat → PageTable) →
      Option (Except SetFlagsError Unit × (Nat → PageTable))
  | 0, _, _, _ => none
  | fuel + 1, currentTable, currentLevel, memory =>
      let i := PageTableIndex.fromAddress currentLevel page.startAddr
      let entry := (memory currentTable).entries i
      match entry.targetInner currentLevel with
      | none => none
      | some .unmapped => some (.error .pageNotMapped, memory)
      | some (.page _ _) => some (.ok (), writeEntry memory currentTable i (entry.setFlags flags))
      | some (.nextTable level table) => setFlagsLoop page flags fuel table.frame level memory

def setFlags (self : Level4PageTable) (memory : Nat → PageTable) (page : Page VirtAddr)
    (flags : PageTableEntryFlags) : Option (Except SetFlagsError Unit × (Nat → PageTable)) :=
  setFlagsLoop page flags 4 self.frame .level4 memory

def unmapLoop (page : Page VirtAddr) (freePhysicalPage : Bool) :
    Nat → Nat → PageTableLevel → KernelMemory →
      Option (Except UnmapError (Page KernPhysAddr) × KernelMemory)
  | 0, _, _, _ => none
  | fuel + 1, currentTable, currentLevel, m =>
      let i := PageTableIndex.fromAddress currentLevel page.startAddr
      let entry := (m.memory currentTable).entries i
      match entry.targetInner currentLevel with
      | none => none
      | some .unmapped => some (.error .pageNotMapped, m)
      | some (.page targetPage _) =>
          if targetPage.size ≠ page.size then
            some (.error (.pageWrongSize page.size targetPage.size), m)
          else
            let memory := writeEntry m.memory currentTable i entry.clear
            if freePhysicalPage then do
              let allocator ← m.allocator.freePage targetPage
              some (.ok targetPage, ⟨memory, allocator⟩)
            else some (.ok targetPage, { m with memory })
      | some (.nextTable level table) =>
          unmapLoop page freePhysicalPage fuel table.frame level m

def unmap (self : Level4PageTable) (m : KernelMemory) (page : Page VirtAddr)
    (freePhysicalPage : Bool) : Option (Except UnmapError (Page KernPhysAddr) × KernelMemory) :=
  unmapLoop page freePhysicalPage 4 self.frame .level4 m

end Level4PageTable

end PageTable

end RustOs.Memory
