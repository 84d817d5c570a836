import RustOs.Memory.PageTable.Edit
import RustOs.Lib.Reach

/-!
# The page table refines a map from pages to pages

The kernel starts from an empty level 4 table and then calls `map_to`, `set_flags` and
`unmap` on it. `PtStep` is one such call, with what the kernel must respect: 4 KiB pages for
`map_to`, flags without `HUGE_PAGE`, `map_to` never on a page whose entry `set_flags` left
non-present with its address (`set_address` ORs the new address into it), and `unmap` frees
only a frame that is used, not frame 0 and holds no table. Over every run of such calls the
tree keeps `TreeInv`, so every further call does to `absOf` what the specifications of
`Walk` and `Edit` say, and `translate_address` reads `absOf`.
-/

namespace RustOs.Memory.PageTable
open PageTableEntryFlags

/-- One call of the kernel on the page table of `table`, with the result dropped. -/
inductive PtStep (table : Level4PageTable) : KernelMemory → KernelMemory → Prop
  | mapTo {m m' : KernelMemory} {page : Page VirtAddr} {target : MapTarget}
      {flags : PageTableEntryFlags} {r : Except MapError (Page KernPhysAddr)}
      (hsize : page.size = .size4KiB) (htarget : target.Valid)
      (hflags : flags.contains hugePage = false)
      (hdrop : (absOf m.memory table.frame page.startAddr.vpn).isDropped = false)
      (h : table.mapTo m page target flags = some (r, m')) : PtStep table m m'
  | setFlags {m : KernelMemory} {memory' : Nat → PageTable} {page : Page VirtAddr}
      {flags : PageTableEntryFlags} {r : Except SetFlagsError Unit}
      (hflags : flags.contains hugePage = false)
      (h : table.setFlags m.memory page flags = some (r, memory')) :
      PtStep table m ⟨memory', m.allocator⟩
  | unmap {m m' : KernelMemory} {page : Page VirtAddr} {freePhysicalPage : Bool}
      {r : Except UnmapError (Page KernPhysAddr)}
      (hfree : freePhysicalPage = true → ∀ p g,
        absOf m.memory table.frame page.startAddr.vpn = .mapped p g →
        m.allocator.isUsed p.frame = true ∧ p.frame ≠ 0 ∧ ¬IsTable m table.frame p.frame)
      (h : table.unmap m page freePhysicalPage = some (r, m')) : PtStep table m m'

structure PtInit (table : Level4PageTable) (m : KernelMemory) : Prop where
  empty : m.memory table.frame = PageTable.zero
  rootUsed : m.allocator.isUsed table.frame = true
  healthy : m.allocator.Healthy

theorem tableAt_of_empty {memory : Nat → PageTable} {root : Nat}
    (h : memory root = PageTable.zero) :
    ∀ p : List (Fin 512), p ≠ [] → tableAt memory root p = none := by
  intro p hp
  induction p with
  | nil => exact absurd rfl hp
  | cons i q ih =>
      rw [tableAt_cons]
      cases q with
      | nil =>
          have hz : ((memory root).entries i).isPresent = false := by
            rw [h]
            exact PageTableEntry.isPresent_zero
          simp only [tableAt, Option.bind_some, hz, Bool.false_eq_true, if_false]
      | cons j q => rw [ih (by simp), Option.bind_none]

theorem treeInv_init {table : Level4PageTable} {m : KernelMemory} (h : PtInit table m) :
    TreeInv m table.frame := by
  have hroot : ∀ p t, tableAt m.memory table.frame p = some t → p = [] ∧ t = table.frame := by
    intro p t ht
    by_cases hp : p = []
    · subst hp
      exact ⟨rfl, (Option.some.inj ht).symm⟩
    · rw [tableAt_of_empty h.empty p hp] at ht
      cases ht
  refine ⟨?_, ?_, ?_, ?_, h.healthy⟩
  · intro p q t _ _ hp hq
    rw [(hroot p t hp).1, (hroot q t hq).1]
  · intro p t _ ht
    rw [(hroot p t ht).2]
    exact h.rootUsed
  · intro p t _ ht i
    rw [(hroot p t ht).2, h.empty]
    exact .inr rfl
  · intro p t hp ht
    have := (hroot p t ht).1
    subst this
    cases hp

theorem treeInv_step {table : Level4PageTable} {m m' : KernelMemory}
    (hinv : TreeInv m table.frame) (hstep : PtStep table m m') : TreeInv m' table.frame := by
  cases hstep with
  | mapTo hsize htarget hflags hdrop h =>
      obtain ⟨r, m'', h', hinv', -⟩ := mapTo_spec hinv hsize htarget hflags hdrop
      rw [h] at h'
      cases h'
      exact hinv'
  | setFlags hflags h =>
      obtain ⟨r, memory'', h', hinv', -⟩ := setFlags_spec hinv _ hflags
      rw [h] at h'
      cases h'
      exact hinv'
  | unmap hfree h =>
      obtain ⟨r, m'', h', hinv', -⟩ := unmap_spec hinv _ hfree
      rw [h] at h'
      cases h'
      exact hinv'

theorem treeInv_reachable {table : Level4PageTable} {m0 m : KernelMemory} (hinit : PtInit table m0)
    (hreach : Relation.ReflTransGen (PtStep table) m0 m) : TreeInv m table.frame :=
  Reach.invariant (I := fun m => TreeInv m table.frame) (treeInv_init hinit)
    (fun _ _ hinv hstep => treeInv_step hinv hstep) hreach

theorem pageTable_refines {table : Level4PageTable} {m0 m : KernelMemory}
    (hinit : PtInit table m0) (hreach : Relation.ReflTransGen (PtStep table) m0 m) :
    (∀ addr, table.translateAddress m.memory addr =
        some (absTranslate (absOf m.memory table.frame) addr)) ∧
    (∀ page target flags, page.size = .size4KiB → target.Valid →
      flags.contains hugePage = false →
      (absOf m.memory table.frame page.startAddr.vpn).isDropped = false →
      ∃ r m', table.mapTo m page target flags = some (r, m') ∧
        MapToSpec (absOf m.memory table.frame) (absOf m'.memory table.frame) page.startAddr.vpn
          target flags m.allocator.isUsed r) ∧
    (∀ page flags, flags.contains hugePage = false →
      ∃ r memory', table.setFlags m.memory page flags = some (r, memory') ∧
        SetFlagsSpec (absOf m.memory table.frame) (absOf memory' table.frame) page.startAddr.vpn
          flags r) ∧
    (∀ page freePhysicalPage, (freePhysicalPage = true → ∀ p g,
        absOf m.memory table.frame page.startAddr.vpn = .mapped p g →
        m.allocator.isUsed p.frame = true ∧ p.frame ≠ 0 ∧ ¬IsTable m table.frame p.frame) →
      ∃ r m', table.unmap m page freePhysicalPage = some (r, m') ∧
        UnmapSpec (absOf m.memory table.frame) (absOf m'.memory table.frame) m.allocator.isUsed
          m'.allocator.isUsed page.startAddr.vpn page.size freePhysicalPage r) := by
  have hinv := treeInv_reachable hinit hreach
  refine ⟨translateAddress_spec hinv, ?_, ?_, ?_⟩
  · intro page target flags hsize htarget hflags hdrop
    obtain ⟨r, m', h, -, -, hspec⟩ := mapTo_spec hinv hsize htarget hflags hdrop
    exact ⟨r, m', h, hspec⟩
  · intro page flags hflags
    obtain ⟨r, memory', h, -, hspec⟩ := setFlags_spec hinv page hflags
    exact ⟨r, memory', h, hspec⟩
  · intro page freePhysicalPage hfree
    obtain ⟨r, m', h, -, hspec⟩ := unmap_spec hinv page hfree
    exact ⟨r, m', h, hspec⟩

/-! ## A run from an empty table

The level 4 table in frame 1, frames 0 and 1 used in a bitmap of 64 frames, and the page at
virtual address 0.
-/

def emptyMemory : KernelMemory := ⟨fun _ => PageTable.zero, ⟨⟨[3], none⟩⟩⟩

theorem absOf_emptyMemory (n : Fin (2 ^ 36)) : absOf emptyMemory.memory 1 n = .unmapped := by
  unfold absOf
  rw [tableAt_of_empty rfl (pathOf n 3) (List.cons_ne_nil _ _)]

def pageZero : Page VirtAddr := ⟨⟨0, by decide⟩, .size4KiB, by decide⟩

theorem physPage_inRange (frame : Fin 0x3_7777_7778) :
    kernelPhysicalMappingStart ≤ (0xffff_8000_0000_0000 + 0x1000 * frame.val).toUInt64 ∧
      (0xffff_8000_0000_0000 + 0x1000 * frame.val).toUInt64 ≤ kernelPhysicalMappingEnd := by
  have hf := frame.isLt
  rw [inKernelPhysicalMapping_iff, Nat.toUInt64_eq, UInt64.toNat_ofNat']
  omega

theorem physPage_aligned (frame : Fin 0x3_7777_7778) :
    (Address.asU64 (⟨(0xffff_8000_0000_0000 + 0x1000 * frame.val).toUInt64,
      physPage_inRange frame⟩ : KernPhysAddr)).toNat % PageSize.size4KiB.sizeBytes = 0 := by
  have hf := frame.isLt
  simp only [Address.asU64, PageSize.sizeBytes, Nat.toUInt64_eq, UInt64.toNat_ofNat']
  omega

def physPage (frame : Fin 0x3_7777_7778) : Page KernPhysAddr :=
  ⟨⟨(0xffff_8000_0000_0000 + 0x1000 * frame.val).toUInt64, physPage_inRange frame⟩,
    .size4KiB, physPage_aligned frame⟩

theorem ptInit_emptyMemory : PtInit ⟨1⟩ emptyMemory :=
  ⟨rfl, by decide, ⟨by decide, (fun _ h => by cases h),
    by rw [PhysicalMemoryAllocator.maxFrames_eq]; decide⟩⟩

-- Map page 0 to frame 16, take `PRESENT` away with `set_flags`, map it to frame 32: the second
-- `map_to` reports frame 32, but the entry now holds `0x10000 ||| 0x20000`, and the page
-- translates to frame 48.
def remapAfterSetFlags : Option (Except MapError (Page KernPhysAddr) × Except SetFlagsError Unit ×
    Except MapError (Page KernPhysAddr) × TranslateResult) := do
  let table : Level4PageTable := ⟨1⟩
  let (r1, m1) ← table.mapTo emptyMemory pageZero (.existingPhysPage (physPage 16)) writable
  let (r2, memory2) ← table.setFlags m1.memory pageZero .empty
  let (r3, m3) ← table.mapTo ⟨memory2, m1.allocator⟩ pageZero (.existingPhysPage (physPage 32))
    writable
  let t ← table.translateAddress m3.memory pageZero.startAddr
  some (r1, r2, r3, t)

theorem remapAfterSetFlags_eq :
    remapAfterSetFlags = some (.ok (physPage 16), .ok (), .ok (physPage 32),
      .mapped ⟨physPage 48, writable ||| present, 0⟩) ∧ physPage 48 ≠ physPage 32 :=
  ⟨by decide, by decide⟩

/-! ## A `map_to` that fails

`map_to` links each table it allocates before it goes down into it, so a call that fails has
already changed memory. The tables it linked are empty, so the map and every translation are as
before.
-/

/-- In every state the kernel can reach, a `map_to` that returns an error, for any page, target
and flags, leaves `translate_address` as it was at every address. -/
theorem mapTo_error_translations {table : Level4PageTable} {m0 m m' : KernelMemory}
    (hinit : PtInit table m0) (hreach : Relation.ReflTransGen (PtStep table) m0 m)
    {page : Page VirtAddr} {target : MapTarget} {flags : PageTableEntryFlags} {e : MapError}
    (hfail : table.mapTo m page target flags = some (.error e, m')) :
    ∀ addr, table.translateAddress m'.memory addr = table.translateAddress m.memory addr := by
  have hinv := treeInv_reachable hinit hreach
  obtain ⟨hinv', habs⟩ :=
    mapToLoop_error (contains_hugePage_parent flags) 3 0 table.frame m m' rfl hinv rfl hfail
  intro addr
  rw [translateAddress_spec hinv', translateAddress_spec hinv, habs]

-- An empty level 4 table in frame 1 with one free frame, frame 2: `map_to` of page 0 links
-- frame 2 as its level 3 table and then finds no frame for the level 2 table.
def oneFreeFrameMemory : KernelMemory := ⟨fun _ => PageTable.zero, ⟨⟨[0xFFFF_FFFF_FFFF_FFFB], none⟩⟩⟩

theorem ptInit_oneFreeFrameMemory : PtInit ⟨1⟩ oneFreeFrameMemory :=
  ⟨rfl, by decide, ⟨by decide, (fun _ h => by cases h),
    by rw [PhysicalMemoryAllocator.maxFrames_eq]; decide⟩⟩

theorem mapTo_error_translations_oneFreeFrame :
    ∃ e m', (⟨1⟩ : Level4PageTable).mapTo oneFreeFrameMemory pageZero .newPhysPage writable =
        some (.error e, m') ∧
      ∀ addr, (⟨1⟩ : Level4PageTable).translateAddress m'.memory addr =
        (⟨1⟩ : Level4PageTable).translateAddress oneFreeFrameMemory.memory addr := by
  obtain ⟨e, m', hfail⟩ : ∃ e m', (⟨1⟩ : Level4PageTable).mapTo oneFreeFrameMemory pageZero
      .newPhysPage writable = some (.error e, m') := ⟨_, _, rfl⟩
  exact ⟨e, m', hfail,
    mapTo_error_translations ptInit_oneFreeFrameMemory Relation.ReflTransGen.refl hfail⟩

end RustOs.Memory.PageTable
