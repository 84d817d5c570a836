import RustOs.Memory.Mapping

/-!
# PCI devices: BARs and the regions behind them

`pci/device.rs`: `BARAddresses::interpreted` reads the six base address registers of a type 0
header, a 64-bit BAR taking two of them; `bar_region_physical_address` finds a structure at an
offset into a memory BAR and identity maps the pages of the region it is given; `MSIXConfig::new`
does so for the MSI-X table and pending bit array.

`bar_region_physical_address` maps `region_size.div_ceil(4096)` pages counted from the page that
holds the start, so a region that starts inside a page and runs past the end of the last of them
is only partly mapped (`barRegionPhysicalAddress_spec`). `MSIXConfig::new` sizes the table with
`size_of::<MSIXTableEntry>()`, which is the 8 bytes of the register struct's address and not the
16 bytes of an entry.
-/

namespace RustOs.Pci

open Memory PageTable PageTableEntryFlags

inductive BARAddress where
  | mem32Bit (address : UInt32) (prefetchable : Bool)
  | mem64Bit (address : UInt64) (prefetchable : Bool)
  | io (address : UInt32)
  deriving DecidableEq, Repr

/-- `BARAddresses::interpreted`, from the BAR in hand to the last: a BAR that is not implemented
(zero) is `None`, a 64-bit BAR takes the next register as its upper half and leaves that one
`None`, and a 64-bit BAR in the last register or the reserved types `0b01` and `0b11` panic. -/
def BARAddresses.interpreted : List UInt32 → Option (List (Option BARAddress))
  | [] => some []
  | bar :: bars =>
    if bar = 0 then (none :: ·) <$> interpreted bars
    else
      let bit0 := bar &&& 0b1
      let bit12 := (bar >>> 1) &&& 0b11
      let bit3 := (bar >>> 3) &&& 0b1
      if bit0 = 0b0 ∧ bit12 = 0b00 then
        (some (.mem32Bit (bar &&& 0xffff_fff0) (bit3 == 0b1)) :: ·) <$> interpreted bars
      else if bit0 = 0b0 ∧ bit12 = 0b10 then
        match bars with
        | [] => none
        | nextBar :: bars =>
            (fun addresses => some (.mem64Bit ((nextBar.toUInt64 <<< 32) |||
              (bar.toUInt64 &&& 0xffff_fff0)) (bit3 == 0b1)) :: none :: addresses) <$>
              interpreted bars
      else if bit0 = 0b1 then (some (.io (bar &&& 0xffff_fffc)) :: ·) <$> interpreted bars
      else none

/-- The match of `bar_region_physical_address` on the BAR: the address of a memory BAR, and a
panic for an I/O BAR. -/
def BARAddress.physAddr : BARAddress → Option PhysAddr
  | .mem32Bit address _ => PhysAddr.new address.toUInt64
  | .mem64Bit address _ => PhysAddr.new address
  | .io _ => none

/-- The type 0 configuration header, as far as the BARs: the six registers `raw_bar0` to
`raw_bar5`. -/
structure PCIDeviceConfigType0 where
  bars : List UInt32
  length_bars : bars.length = 6

namespace PCIDeviceConfigType0

/-- `bar`: the BAR as `interpreted` reads it, which panics past the sixth and for a BAR that is
not implemented or is the upper half of a 64-bit one. -/
def bar (config : PCIDeviceConfigType0) (barIdx : UInt8) : Option BARAddress := do
  let barAddresses ← BARAddresses.interpreted config.bars
  let barAddress ← barAddresses[barIdx.toNat]?
  barAddress

/-- `bar_region_physical_address`: the direct-map address `region_size` bytes of structure start
at, `physical_offset` into memory BAR `bar_idx`, after identity mapping
`region_size.div_ceil(4096)` pages from the page that holds it in the kernel page table `table`;
an I/O BAR and a mapping error panic. -/
def barRegionPhysicalAddress (config : PCIDeviceConfigType0) (table : Level4PageTable)
    (m : KernelMemory) (barIdx : UInt8) (physicalOffset : UInt32) (regionSize : UInt64) :
    Option (KernPhysAddr × KernelMemory) := do
  let barPhysAddr ← (← config.bar barIdx).physAddr
  let barPhysAddr ← KernPhysAddr.fromPhysAddr barPhysAddr
  let configStartAddr ← barPhysAddr.add physicalOffset.toUInt64
  let startPage := Page.containingAddress configStartAddr .size4KiB
  let pages := PageRange.fromNumBytes startPage regionSize.toNat
  let flags := present ||| writable
  let physPages ← pages.iter
  let (result, m) ← table.identityMapPhysicalPages m physPages flags
  -- .expect("failed to identity map PCI BAR frame")
  let .ok () := result | none
  some (configStartAddr, m)

end PCIDeviceConfigType0

/-! ## The pages a BAR region maps -/

theorem alignDown_add_div (a i : Nat) : (a - a % 4096 + i * 4096) / 4096 = a / 4096 + i := by
  omega

namespace PCIDeviceConfigType0

theorem barRegionPhysicalAddress_spec {config : PCIDeviceConfigType0} {table : Level4PageTable}
    {m m' : KernelMemory} {barIdx : UInt8} {physicalOffset : UInt32} {regionSize : UInt64}
    {configStartAddr : KernPhysAddr} (hinv : TreeInv m table.frame)
    (noDropped : NoDropped (absOf m.memory table.frame))
    (returned : config.barRegionPhysicalAddress table m barIdx physicalOffset regionSize =
      some (configStartAddr, m')) :
    (∃ barPhysAddr, (config.bar barIdx).bind BARAddress.physAddr = some barPhysAddr ∧
      configStartAddr.val.toNat = 2 ^ 64 - 2 ^ 47 + barPhysAddr.val.toNat + physicalOffset.toNat) ∧
    MapsPages table m m' fun n =>
      ∃ i < (regionSize.toNat + 4095) / 4096, n.val = (configStartAddr.val.toNat / 4096 + i) % 2 ^ 36 := by
  unfold barRegionPhysicalAddress at returned
  simp only [bind, Option.bind_eq_some_iff] at returned
  obtain ⟨b, hb, barPhysAddr, hbar, k, hk, c, hc, pages, hpages, ⟨r, m1⟩, hmap, hres⟩ := returned
  cases r with
  | error e => cases hres
  | ok u =>
      simp only [Option.some.injEq, Prod.mk.injEq] at hres
      obtain ⟨rfl, rfl⟩ := hres
      have maps := Level4PageTable.identityMapPhysicalPages_iter (by decide) hinv noDropped rfl
        hpages hmap
      have start : (PageRange.fromNumBytes (Page.containingAddress c .size4KiB)
          regionSize.toNat).start.startAddr.val.toNat = c.val.toNat - c.val.toNat % 4096 :=
        alignDown_toNat c .size4KiB
      refine ⟨⟨barPhysAddr, by rw [hb]; exact hbar, ?_⟩, maps.congr fun n => ?_⟩
      · rw [KernPhysAddr.add_val hc, KernPhysAddr.fromPhysAddr_val hk, UInt32.toNat_toUInt64]
        omega
      · -- page `i` of the range is page `i` after the one that holds the address
        refine ⟨fun ⟨i, hi, hn⟩ => ⟨i, hi, ?_⟩, fun ⟨i, hi, hn⟩ => ⟨i, hi, ?_⟩⟩
        · rw [hn, start, alignDown_add_div]
        · rw [hn, start, alignDown_add_div]

end PCIDeviceConfigType0

/-! ## MSI-X -/

/-- The registers of an MSI-X capability that `MSIXConfig::new` reads: the 11-bit table size field
of the message control register, which holds the number of entries less one, and the table and
pending bit array offset registers. -/
structure MSIXCapability where
  tableSize : UInt16
  tableSize_lt : tableSize.toNat < 2 ^ 11
  tableOffset : UInt32
  pendingBitArrayOffset : UInt32

/-- `PCIDeviceCapability`, with a vendor-specific capability given as the registers `R` that a
driver reads there. -/
inductive PCIDeviceCapability (R : Type) where
  | msix (capability : MSIXCapability)
  | vendorSpecific (registers : R)
  | other

inductive PCIDeviceConfigTypes where
  | generalDevice (body : PCIDeviceConfigType0)
  | pciToPciBridge

/-- `PCIDeviceConfig` as a driver reads it: the vendor, `config_type` (`None` for a header layout
it does not know) and the capabilities `iter_capabilities` walks. -/
structure PCIDeviceConfig (R : Type) where
  vendorId : UInt16
  configType : Option PCIDeviceConfigTypes
  capabilities : List (PCIDeviceCapability R)

/-- `MSIXTableOffset::bar_indicator_register`: the BAR index in bits 0 to 2. -/
def MSIXTableOffset.barIndicatorRegister (bits : UInt32) : UInt8 := (bits &&& 0b111).toUInt8

/-- `MSIXTableOffset::table_offset`: the offset with the BAR index masked off. -/
def MSIXTableOffset.tableOffset (bits : UInt32) : UInt32 :=
  bits &&& 0b1111_1111_1111_1111_1111_1111_1111_1000

def MSIXPendingBitArrayOffset.barIndicatorRegister (bits : UInt32) : UInt8 :=
  MSIXTableOffset.barIndicatorRegister bits

def MSIXPendingBitArrayOffset.pbaOffset (bits : UInt32) : UInt32 :=
  MSIXTableOffset.tableOffset bits

/-- `core::mem::size_of::<MSIXTableEntry>()`: the entry wraps a struct of `register_struct!`,
whose one field is the `KernPhysAddr` of the entry, so it is 8 bytes, while an entry of the
MSI-X table the device lays out is 16. -/
def msixTableEntrySize : Nat := 8

structure MSIXConfig where
  tableAddress : KernPhysAddr
  tableSize : UInt16
  pbaAddress : KernPhysAddr

/-- `MSIXConfig::new`: map the table and then the pending bit array, each sized from the table
size. -/
def MSIXConfig.new (deviceConfig : PCIDeviceConfigType0) (pageTable : Level4PageTable)
    (m : KernelMemory) (capability : MSIXCapability) : Option (MSIXConfig × KernelMemory) := do
  let tableSize := capability.tableSize + 1
  let tableOffsetBits := capability.tableOffset
  let tableBarIdx := MSIXTableOffset.barIndicatorRegister tableOffsetBits
  let tableOffset := MSIXTableOffset.tableOffset tableOffsetBits
  let tableRegionSize := tableSize.toNat * msixTableEntrySize
  let (tableAddress, m) ← deviceConfig.barRegionPhysicalAddress pageTable m tableBarIdx
    tableOffset tableRegionSize.toUInt64
  let pbaOffsetBits := capability.pendingBitArrayOffset
  let pbaBarIdx := MSIXPendingBitArrayOffset.barIndicatorRegister pbaOffsetBits
  let pbaOffset := MSIXPendingBitArrayOffset.pbaOffset pbaOffsetBits
  let pbaRegionSize := tableSize.toNat * 8
  let (pbaAddress, m) ← deviceConfig.barRegionPhysicalAddress pageTable m pbaBarIdx pbaOffset
    pbaRegionSize.toUInt64
  some (⟨tableAddress, tableSize, pbaAddress⟩, m)

/-- `MSIXTable::entry`: the address of entry `index`, 16 bytes each, after the assertion that the
index is below the table size. -/
def MSIXConfig.tableEntry (config : MSIXConfig) (index : Nat) : Option KernPhysAddr :=
  if index < config.tableSize.toNat then config.tableAddress.add (index * 16).toUInt64 else none

theorem tableSize_toNat (capability : MSIXCapability) :
    (capability.tableSize + 1).toNat = capability.tableSize.toNat + 1 := by
  have := capability.tableSize_lt
  rw [UInt16.toNat_add, UInt16.toNat_one]
  omega

/-- When `MSIXConfig::new` returns, in a kernel page table with no dropped entry, the pages mapped
are those mapped before, the `(8 * entries).div_ceil(4096)` pages from the one that holds the
table, and as many from the one that holds the pending bit array. -/
theorem MSIXConfig.new_spec {deviceConfig : PCIDeviceConfigType0} {table : Level4PageTable}
    {m m' : KernelMemory} {capability : MSIXCapability} {config : MSIXConfig}
    (hinv : TreeInv m table.frame) (noDropped : NoDropped (absOf m.memory table.frame))
    (returned : MSIXConfig.new deviceConfig table m capability = some (config, m')) :
    config.tableSize.toNat = capability.tableSize.toNat + 1 ∧
    MapsPages table m m' fun n => ∃ i < (config.tableSize.toNat * 8 + 4095) / 4096,
      n.val = (config.tableAddress.val.toNat / 4096 + i) % 2 ^ 36 ∨
        n.val = (config.pbaAddress.val.toNat / 4096 + i) % 2 ^ 36 := by
  have size := tableSize_toNat capability
  have small : (capability.tableSize.toNat + 1) * 8 < 2 ^ 64 := by
    have := capability.tableSize_lt
    omega
  unfold MSIXConfig.new at returned
  simp only [bind, Option.bind_eq_some_iff] at returned
  obtain ⟨⟨tableAddress, m1⟩, mappedTable, ⟨pbaAddress, m2⟩, mappedPba, hres⟩ := returned
  simp only [Option.some.injEq, Prod.mk.injEq] at hres
  obtain ⟨rfl, rfl⟩ := hres
  obtain ⟨-, first⟩ := PCIDeviceConfigType0.barRegionPhysicalAddress_spec hinv noDropped
    mappedTable
  obtain ⟨-, second⟩ := PCIDeviceConfigType0.barRegionPhysicalAddress_spec first.inv
    first.noDropped mappedPba
  refine ⟨size, (first.trans second).congr fun n => ?_⟩
  -- both regions are `8 * entries` bytes
  have regionSize : ((capability.tableSize + 1).toNat * 8).toUInt64.toNat =
      (capability.tableSize + 1).toNat * 8 := by
    rw [Nat.toUInt64_eq, UInt64.toNat_ofNat', Nat.mod_eq_of_lt (by rw [size]; exact small)]
  simp only [msixTableEntrySize, regionSize]
  constructor
  · rintro (⟨i, hi, hn⟩ | ⟨i, hi, hn⟩)
    · exact ⟨i, hi, Or.inl hn⟩
    · exact ⟨i, hi, Or.inr hn⟩
  · rintro ⟨i, hi, hn | hn⟩
    · exact Or.inl ⟨i, hi, hn⟩
    · exact Or.inr ⟨i, hi, hn⟩

def msixBody : PCIDeviceConfigType0 := ⟨[0xFE00_0004, 0, 0, 0, 0, 0], rfl⟩

theorem three_lt_tableSizeBound : (3 : UInt16).toNat < 2 ^ 11 := by decide

def fourEntries : MSIXCapability := ⟨3, three_lt_tableSizeBound, 0x2000, 0x3000⟩

theorem MSIXConfig.new_spec_fourEntries :
    ∃ config m', MSIXConfig.new msixBody ⟨1⟩ emptyMemory fourEntries = some (config, m') ∧
      config.tableAddress.val = 0xFFFF_8000_FE00_2000 ∧ config.pbaAddress.val = 0xFFFF_8000_FE00_3000 ∧
      (config.tableSize.toNat = fourEntries.tableSize.toNat + 1 ∧
        MapsPages ⟨1⟩ emptyMemory m' fun n => ∃ i < (config.tableSize.toNat * 8 + 4095) / 4096,
          n.val = (config.tableAddress.val.toNat / 4096 + i) % 2 ^ 36 ∨
            n.val = (config.pbaAddress.val.toNat / 4096 + i) % 2 ^ 36) := by
  refine ⟨_, _, rfl, rfl, rfl, ?_⟩
  exact @MSIXConfig.new_spec msixBody ⟨1⟩ emptyMemory _ fourEntries _
    (treeInv_init ptInit_emptyMemory) noDropped_emptyMemory rfl

end RustOs.Pci
