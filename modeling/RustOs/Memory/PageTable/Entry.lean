import RustOs.Lib.Words
import RustOs.Memory.Address

/-!
# Page table entries

`memory/page_table.rs`: a page table entry is a raw `u64` holding a physical address in bits
12 to 51 and flags in the other bits. `set_flags` keeps the address bits and replaces the
rest; `set_address` ORs an address in without clearing the old one. `target_inner` decodes
an entry at a level into "unmapped", a mapped page, or the next table; its two `panic!`s
(a huge page at level 4 or level 1) and the alignment assertion of `Page::from_start_addr`
are `none`.
-/

namespace RustOs.Memory.PageTable
open WordBits

def addressMask : UInt64 := 0x000f_ffff_ffff_f000

def flagMask : UInt64 := 0xfff0_0000_0000_0fff

theorem flagMask_and_addressMask : flagMask &&& addressMask = 0 := by decide

theorem not_addressMask : ~~~addressMask = flagMask := by decide

/-- A `bitflags!` value: only named flags are set, so no address bit. -/
structure PageTableEntryFlags where
  bits : UInt64
  noAddress : bits &&& addressMask = 0
  deriving DecidableEq

namespace PageTableEntryFlags

@[ext] theorem ext {f g : PageTableEntryFlags} (h : f.bits = g.bits) : f = g := by
  cases f
  cases g
  cases h
  rfl

def present : PageTableEntryFlags := ⟨1, by decide⟩
def writable : PageTableEntryFlags := ⟨(1 : UInt64) <<< 1, by decide⟩
def userAccessible : PageTableEntryFlags := ⟨(1 : UInt64) <<< 2, by decide⟩
def hugePage : PageTableEntryFlags := ⟨(1 : UInt64) <<< 7, by decide⟩
def noExecute : PageTableEntryFlags := ⟨(1 : UInt64) <<< 63, by decide⟩

def empty : PageTableEntryFlags := ⟨0, by decide⟩

/-- `from_bits_truncate`: drop the bits no flag names. -/
def fromBitsTruncate (bits : UInt64) : PageTableEntryFlags :=
  ⟨bits &&& flagMask, and_and_of_and_eq_zero bits flagMask_and_addressMask⟩

instance : OrOp PageTableEntryFlags :=
  ⟨fun f g => ⟨f.bits ||| g.bits, by rw [or_and_of_and_eq_zero g.noAddress, f.noAddress]⟩⟩

instance : AndOp PageTableEntryFlags :=
  ⟨fun f g => ⟨f.bits &&& g.bits, by
    rw [UInt64.and_assoc, UInt64.and_comm g.bits, ← UInt64.and_assoc, f.noAddress,
      UInt64.zero_and]⟩⟩

@[simp] theorem or_bits (f g : PageTableEntryFlags) : (f ||| g).bits = f.bits ||| g.bits := rfl

@[simp] theorem and_bits (f g : PageTableEntryFlags) : (f &&& g).bits = f.bits &&& g.bits := rfl

def contains (f g : PageTableEntryFlags) : Bool := f.bits &&& g.bits == g.bits

theorem bits_and_flagMask (f : PageTableEntryFlags) : f.bits &&& flagMask = f.bits := by
  rw [← not_addressMask]
  exact and_not_of_and_eq_zero f.noAddress

end PageTableEntryFlags

open PageTableEntryFlags

inductive PageTableLevel where
  | level1
  | level2
  | level3
  | level4
  deriving Repr, DecidableEq

namespace PageTableLevel

def toNat : PageTableLevel → Nat
  | .level1 => 1
  | .level2 => 2
  | .level3 => 3
  | .level4 => 4

def nextLowerLevel : PageTableLevel → Option PageTableLevel
  | .level4 => some .level3
  | .level3 => some .level2
  | .level2 => some .level1
  | .level1 => none

end PageTableLevel

/-- `PageTableIndex::from_address`; the mask keeps the index below 512, so the assertion of
`PageTableIndex::new` holds and the index is a `Fin 512`. -/
def PageTableIndex.fromAddress (level : PageTableLevel) (address : VirtAddr) : Fin 512 :=
  let shift : UInt64 := 12 + (level.toNat.toUInt64 - 1) * 9
  ⟨((address.val >>> shift) &&& 0x1FF).toNat, by
    rw [UInt64.toNat_and]; exact Nat.lt_of_le_of_lt Nat.and_le_right (by decide)⟩

structure PageTableEntry where
  bits : UInt64
  deriving Repr, DecidableEq

/-- What an entry points to; the next table is given by its direct-map address, the memory
behind it is read by the walk. -/
inductive PageTableTarget where
  | unmapped
  | page (page : Page KernPhysAddr) (flags : PageTableEntryFlags)
  | nextTable (level : PageTableLevel) (table : KernPhysAddr)

namespace PageTableEntry

def flags (e : PageTableEntry) : PageTableEntryFlags := fromBitsTruncate e.bits

def rawAddress (e : PageTableEntry) : UInt64 := e.bits &&& addressMask

def setFlags (e : PageTableEntry) (flags : PageTableEntryFlags) : PageTableEntry :=
  ⟨e.rawAddress ||| flags.bits⟩

def address (e : PageTableEntry) : Option KernPhysAddr := do
  let phys ← PhysAddr.new e.rawAddress
  KernPhysAddr.fromPhysAddr phys

/-- `assert_eq!(addr & !0x000f_ffff_ffff_f000, 0)`, then `self.0 |= addr`. -/
def setAddress (e : PageTableEntry) (addr : PhysAddr) : Option PageTableEntry :=
  if addr.val &&& ~~~addressMask = 0 then some ⟨e.bits ||| addr.val⟩ else none

def isPresent (e : PageTableEntry) : Bool := e.flags.contains present

def targetInner (e : PageTableEntry) (level : PageTableLevel) : Option PageTableTarget :=
  if !e.isPresent then some .unmapped
  else
    let flags := e.flags
    if flags.contains hugePage then
      match level with
      | .level4 => none
      | .level3 => do
          let addr ← e.address
          let page ← Page.fromStartAddr addr .size1GiB
          some (.page page flags)
      | .level2 => do
          let addr ← e.address
          let page ← Page.fromStartAddr addr .size2MiB
          some (.page page flags)
      | .level1 => none
    else
      match level.nextLowerLevel with
      | none => do
          let addr ← e.address
          let page ← Page.fromStartAddr addr .size4KiB
          some (.page page flags)
      | some level => do
          let addr ← e.address
          some (.nextTable level addr)

def clear (_ : PageTableEntry) : PageTableEntry := ⟨0⟩

def setTargetPage (e : PageTableEntry) (page : Page KernPhysAddr)
    (flags : PageTableEntryFlags) : Option PageTableEntry := do
  let phys ← page.startAddr.toPhysAddr
  let e ← e.setAddress phys
  some (e.setFlags (flags ||| present))

/-! ## Fields after an update -/

@[simp] theorem rawAddress_setFlags (e : PageTableEntry) (f : PageTableEntryFlags) :
    (e.setFlags f).rawAddress = e.rawAddress := by
  simp only [setFlags, rawAddress]
  rw [or_and_of_and_eq_zero f.noAddress, UInt64.and_assoc, UInt64.and_self]

@[simp] theorem flags_setFlags (e : PageTableEntry) (f : PageTableEntryFlags) :
    (e.setFlags f).flags = f := by
  ext
  simp only [setFlags, flags, fromBitsTruncate, rawAddress]
  rw [UInt64.or_comm, or_and_of_and_eq_zero, bits_and_flagMask]
  rw [UInt64.and_assoc, UInt64.and_comm addressMask, flagMask_and_addressMask, UInt64.and_zero]

theorem setAddress_eq {e e' : PageTableEntry} {addr : PhysAddr}
    (h : e.setAddress addr = some e') :
    addr.val &&& ~~~addressMask = 0 ∧ e'.rawAddress = e.rawAddress ||| addr.val ∧
      e'.flags = e.flags := by
  unfold setAddress at h
  split at h
  · rename_i hmask
    cases h
    have hin : addr.val &&& addressMask = addr.val := and_of_and_not_eq_zero hmask
    have hflag : addr.val &&& flagMask = 0 := by
      rw [← not_addressMask]
      exact hmask
    refine ⟨hmask, ?_, ?_⟩
    · simp only [rawAddress]
      exact or_and_of_and_eq_self hin
    · ext
      simp only [flags, fromBitsTruncate]
      rw [or_and_of_and_eq_zero hflag]
  · cases h

@[simp] theorem rawAddress_clear (e : PageTableEntry) : e.clear.rawAddress = 0 := by
  unfold clear rawAddress
  decide

@[simp] theorem isPresent_clear (e : PageTableEntry) : e.clear.isPresent = false := by
  unfold clear isPresent
  decide

end PageTableEntry

end RustOs.Memory.PageTable
