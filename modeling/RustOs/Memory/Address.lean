import Mathlib.Data.Nat.Bitwise
import Mathlib.Data.UInt

/-!
# Addresses and pages

`memory/address.rs`, `memory/page.rs` and the two address types of the `x86_64` crate the
kernel uses. Every type keeps the check its constructor asserts as a field: a `VirtAddr` is
canonical, a `PhysAddr` has no bit at or above 52, a `KernPhysAddr` lies in the kernel's
direct map of physical memory, and a `Page` starts at a multiple of its size. A constructor
whose `assert!` can fail returns an `Option`, `none` being the panic.
-/

namespace RustOs.Memory

/-! ## The direct map (`memory/mapping.rs`) -/

def higherHalfStart : UInt64 := 0xffff_8000_0000_0000

def kernelPhysicalMappingStart : UInt64 := higherHalfStart

def kernelPhysicalMappingEnd : UInt64 := 0xffff_b777_7777_7777

/-! ## Address types -/

/-- A physical address of the `x86_64` crate: bits 52 to 63 are clear. -/
structure PhysAddr where
  val : UInt64
  valid : val.toNat < 2 ^ 52
  deriving DecidableEq

/-- `PhysAddr::new` panics when a bit at or above 52 is set. -/
def PhysAddr.new (addr : UInt64) : Option PhysAddr :=
  if h : addr.toNat < 2 ^ 52 then some ⟨addr, h⟩ else none

/-- A virtual address of the `x86_64` crate: bits 48 to 63 copy bit 47. -/
structure VirtAddr where
  val : UInt64
  canonical : val.toNat < 2 ^ 47 ∨ 2 ^ 64 - 2 ^ 47 ≤ val.toNat
  deriving DecidableEq

/-- `VirtAddr::new` of `x86_64` 0.14, `try_new(addr).expect(..)`: bits 47 to 63 all clear or
all set keep the address, only bit 47 of them set sign-extends it (`new_truncate`), anything
else panics. -/
def VirtAddr.new (addr : UInt64) : Option VirtAddr :=
  if h : addr.toNat < 2 ^ 47 ∨ 2 ^ 64 - 2 ^ 47 ≤ addr.toNat then some ⟨addr, h⟩
  else if low : addr.toNat / 2 ^ 47 = 1 then
    some ⟨addr + 0xFFFF_0000_0000_0000, Or.inr (by
      have sum : (addr + 0xFFFF_0000_0000_0000).toNat = addr.toNat + 0xFFFF_0000_0000_0000 := by
        rw [UInt64.toNat_add]
        simp only [UInt64.reduceToNat]
        omega
      omega)⟩
  else none

/-- A physical address seen through the kernel's direct map. -/
structure KernPhysAddr where
  val : UInt64
  inRange : kernelPhysicalMappingStart ≤ val ∧ val ≤ kernelPhysicalMappingEnd
  deriving DecidableEq

namespace KernPhysAddr

def new (addr : UInt64) : Option KernPhysAddr :=
  if h : kernelPhysicalMappingStart ≤ addr ∧ addr ≤ kernelPhysicalMappingEnd then
    some ⟨addr, h⟩
  else none

def toPhysAddr (k : KernPhysAddr) : Option PhysAddr :=
  PhysAddr.new (k.val - kernelPhysicalMappingStart)

def fromPhysAddr (addr : PhysAddr) : Option KernPhysAddr :=
  new (addr.val + kernelPhysicalMappingStart)

/-- `Add<u64>`: the `u64` sum, which panics on overflow, then the range check of `new`. -/
def add (self : KernPhysAddr) (rhs : UInt64) : Option KernPhysAddr :=
  if self.val.toNat + rhs.toNat < 2 ^ 64 then new (self.val + rhs) else none

def frame (k : KernPhysAddr) : Nat := (k.val - kernelPhysicalMappingStart).toNat / 4096

end KernPhysAddr

/-! ## Pages -/

inductive PageSize where
  | size4KiB
  | size2MiB
  | size1GiB
  deriving Repr, DecidableEq

def PageSize.sizeBytes : PageSize → Nat
  | .size4KiB => 4096
  | .size2MiB => 2 * 1024 * 1024
  | .size1GiB => 1024 * 1024 * 1024

/-- The `Address` trait of `page.rs`, reduced to what pages read: the raw value. -/
class Address (A : Type) where
  asU64 : A → UInt64

instance : Address VirtAddr := ⟨VirtAddr.val⟩
instance : Address KernPhysAddr := ⟨KernPhysAddr.val⟩

/-- A page of addresses `A`: its start is aligned to its size, which `from_start_addr`
asserts and `containing_address` establishes. -/
structure Page (A : Type) [Address A] where
  startAddr : A
  size : PageSize
  aligned : (Address.asU64 startAddr).toNat % size.sizeBytes = 0

deriving instance DecidableEq for Page

/-- `Page::from_start_addr`: `is_aligned` is `align_down(addr) == addr`, that is the address
is a multiple of the (power of two) size. -/
def Page.fromStartAddr {A : Type} [Address A] (startAddr : A) (size : PageSize) :
    Option (Page A) :=
  if h : (Address.asU64 startAddr).toNat % size.sizeBytes = 0 then some ⟨startAddr, size, h⟩
  else none

/-! ## Direct-map arithmetic -/

theorem kernelPhysicalMappingStart_toNat :
    kernelPhysicalMappingStart.toNat = 2 ^ 64 - 2 ^ 47 := rfl

theorem kernelPhysicalMappingEnd_toNat :
    kernelPhysicalMappingEnd.toNat = 2 ^ 64 - 2 ^ 47 + 0x3777_7777_7777 := rfl

theorem inKernelPhysicalMapping_iff (v : UInt64) :
    (kernelPhysicalMappingStart ≤ v ∧ v ≤ kernelPhysicalMappingEnd) ↔
      2 ^ 64 - 2 ^ 47 ≤ v.toNat ∧ v.toNat ≤ 2 ^ 64 - 2 ^ 47 + 0x3777_7777_7777 := by
  rw [UInt64.le_iff_toNat_le, UInt64.le_iff_toNat_le, kernelPhysicalMappingStart_toNat,
    kernelPhysicalMappingEnd_toNat]

theorem KernPhysAddr.val_toNat (k : KernPhysAddr) :
    2 ^ 64 - 2 ^ 47 ≤ k.val.toNat ∧ k.val.toNat ≤ 2 ^ 64 - 2 ^ 47 + 0x3777_7777_7777 :=
  (inKernelPhysicalMapping_iff k.val).mp k.inRange

theorem KernPhysAddr.sub_start_toNat (k : KernPhysAddr) :
    (k.val - kernelPhysicalMappingStart).toNat = k.val.toNat - (2 ^ 64 - 2 ^ 47) := by
  have hk := k.val_toNat
  rw [UInt64.toNat_sub_of_le _ _ k.inRange.1, kernelPhysicalMappingStart_toNat]

theorem KernPhysAddr.toPhysAddr_val {k : KernPhysAddr} {p : PhysAddr}
    (h : k.toPhysAddr = some p) : p.val.toNat = k.val.toNat - (2 ^ 64 - 2 ^ 47) := by
  unfold toPhysAddr PhysAddr.new at h
  split at h
  · cases h
    exact k.sub_start_toNat
  · cases h

theorem KernPhysAddr.toPhysAddr_isSome (k : KernPhysAddr) : k.toPhysAddr.isSome := by
  have hk := k.val_toNat
  have hsub := k.sub_start_toNat
  simp only [toPhysAddr, PhysAddr.new]
  rw [dif_pos (by omega)]
  rfl

theorem KernPhysAddr.add_eq (k : KernPhysAddr) {rhs : UInt64}
    (inMap : k.val.toNat + rhs.toNat ≤ kernelPhysicalMappingEnd.toNat) :
    ∃ k', k.add rhs = some k' ∧ k'.val.toNat = k.val.toNat + rhs.toNat := by
  have hk := k.val_toNat
  rw [kernelPhysicalMappingEnd_toNat] at inMap
  have hsum : (k.val + rhs).toNat = k.val.toNat + rhs.toNat := by
    rw [UInt64.toNat_add]
    omega
  have hin : kernelPhysicalMappingStart ≤ k.val + rhs ∧ k.val + rhs ≤ kernelPhysicalMappingEnd := by
    rw [inKernelPhysicalMapping_iff, hsum]
    omega
  refine ⟨⟨_, hin⟩, ?_, hsum⟩
  unfold add new
  rw [if_pos (by omega), dif_pos hin]

theorem KernPhysAddr.toPhysAddr_eq (k : KernPhysAddr) :
    ∃ p, k.toPhysAddr = some p ∧ p.val = k.val - kernelPhysicalMappingStart := by
  have hk := k.val_toNat
  have hsub := k.sub_start_toNat
  refine ⟨⟨k.val - kernelPhysicalMappingStart, by omega⟩, ?_, rfl⟩
  simp only [toPhysAddr, PhysAddr.new]
  rw [dif_pos (by omega)]

theorem KernPhysAddr.toPhysAddr_add (k : KernPhysAddr) {offset : Nat}
    (inMap : k.val.toNat + offset ≤ kernelPhysicalMappingEnd.toNat) :
    ∃ k' p, k.add offset.toUInt64 = some k' ∧ k'.toPhysAddr = some p ∧
      p.val = k.val - kernelPhysicalMappingStart + offset.toUInt64 := by
  have hk := k.val_toNat
  have small : offset.toUInt64.toNat = offset := by
    rw [kernelPhysicalMappingEnd_toNat] at inMap
    simp only [Nat.toUInt64_eq, UInt64.toNat_ofNat']
    omega
  obtain ⟨k', added, moved⟩ := @KernPhysAddr.add_eq k offset.toUInt64 (by rw [small]; exact inMap)
  obtain ⟨p, converted, hp⟩ := k'.toPhysAddr_eq
  have hval : k'.val = k.val + offset.toUInt64 := by
    apply UInt64.toNat_inj.mp
    rw [moved, UInt64.toNat_add, small]
    rw [kernelPhysicalMappingEnd_toNat] at inMap
    omega
  refine ⟨k', p, added, converted, ?_⟩
  rw [hp, hval, add_sub_right_comm]

theorem KernPhysAddr.fromPhysAddr_eq (p : PhysAddr) (hp : p.val.toNat ≤ 0x3777_7777_7777) :
    ∃ k, fromPhysAddr p = some k ∧ k.val.toNat = p.val.toNat + (2 ^ 64 - 2 ^ 47) := by
  have hsum : (p.val + kernelPhysicalMappingStart).toNat = p.val.toNat + (2 ^ 64 - 2 ^ 47) := by
    rw [UInt64.toNat_add, kernelPhysicalMappingStart_toNat]
    omega
  have hin : kernelPhysicalMappingStart ≤ p.val + kernelPhysicalMappingStart ∧
      p.val + kernelPhysicalMappingStart ≤ kernelPhysicalMappingEnd := by
    rw [inKernelPhysicalMapping_iff, hsum]
    omega
  refine ⟨⟨_, hin⟩, ?_, hsum⟩
  unfold fromPhysAddr new
  rw [dif_pos hin]

/-! ## Virtual page numbers -/

def VirtAddr.vpn (a : VirtAddr) : Fin (2 ^ 36) := ⟨a.val.toNat / 4096 % 2 ^ 36, Nat.mod_lt _ (by decide)⟩

theorem VirtAddr.eq_of_vpn_eq {v w : VirtAddr} (hv : v.val.toNat % 4096 = 0)
    (hw : w.val.toNat % 4096 = 0) (h : v.vpn = w.vpn) : v = w := by
  have hvlt := v.val.toNat_lt
  have hwlt := w.val.toNat_lt
  have hvc := v.canonical
  have hwc := w.canonical
  have h' := congrArg Fin.val h
  simp only [vpn] at h'
  have hval : v.val.toNat = w.val.toNat := by omega
  cases v
  cases w
  simp only [VirtAddr.mk.injEq]
  exact UInt64.toNat_inj.mp hval

end RustOs.Memory
