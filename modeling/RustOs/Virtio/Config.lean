import RustOs.Pci.Device
import RustOs.Memory.PageTable.Refinement

/-!
# The VirtIO PCI capabilities

`virtio/config.rs`: `VirtIODeviceConfig::from_pci_config` walks the capabilities of a VirtIO
device; for each vendor-specific one (but the PCI configuration access one) it builds the
configuration through `VirtIOPCICapabilityHeader::config`, which for the common, notify, ISR and
device structures identity maps them through `compute_and_map_config_address`, and it keeps the
first of each kind.

`compute_and_map_config_address` passes `cap_len`, the length of the capability in configuration
space, as the size of the region, not the `length` of the structure. So exactly one page is
mapped for a structure, the one that holds its first byte (none for a `cap_len` of zero), and the
bytes of a structure that runs into the next page are not mapped (`fromPciConfig_mapped`).
-/

namespace RustOs.Virtio

open Memory PageTable Pci

structure VirtIOPCICapabilityHeaderRegisters where
  capLen : UInt8
  cfgType : UInt8
  bar : UInt8
  offset : UInt32
  length : UInt32
  notifyOffMultiplier : UInt32
  deriving DecidableEq, Repr

inductive VirtIOPCIConfigType where
  | common
  | notify
  | isr
  | device
  | pci
  | sharedMemory
  | vendor
  deriving DecidableEq, Repr

def VirtIOPCIConfigType.fromCfgType (cfgType : UInt8) : Option VirtIOPCIConfigType :=
  if cfgType = 1 then some .common
  else if cfgType = 2 then some .notify
  else if cfgType = 3 then some .isr
  else if cfgType = 4 then some .device
  else if cfgType = 5 then some .pci
  else if cfgType = 8 then some .sharedMemory
  else if cfgType = 9 then some .vendor
  else none

def VirtIOPCIConfigType.isMapped : VirtIOPCIConfigType → Bool
  | .common | .notify | .isr | .device => true
  | .pci | .sharedMemory | .vendor => false

structure VirtIONotifyConfig where
  configAddr : KernPhysAddr
  notifyOffMultiplier : UInt32
  deriving DecidableEq

/-- `queue_notify_address`: `config_addr + queue_notify_off * notify_off_multiplier`. -/
def VirtIONotifyConfig.queueNotifyAddress (config : VirtIONotifyConfig)
    (queueNotifyOffset : UInt16) : Option KernPhysAddr :=
  let offset := queueNotifyOffset.toUInt64 * config.notifyOffMultiplier.toUInt64
  config.configAddr.add offset

/-- `VirtIOConfig`; the registers of the common and ISR structures are kept as their address. -/
inductive VirtIOConfig where
  | common (configAddr : KernPhysAddr)
  | notify (config : VirtIONotifyConfig)
  | isr (configAddr : KernPhysAddr)
  | device (configAddr : KernPhysAddr)
  | pci
  | sharedMemory
  | vendor

structure VirtIOPCICapabilityHeader where
  deviceConfigBody : PCIDeviceConfigType0
  registers : VirtIOPCICapabilityHeaderRegisters

namespace VirtIOPCICapabilityHeader

variable (capability : VirtIOPCICapabilityHeader) (table : Level4PageTable) (m : KernelMemory)

/-- `config_type`, before its `expect("invalid VirtIO config type")`. -/
def configType : Option VirtIOPCIConfigType :=
  VirtIOPCIConfigType.fromCfgType capability.registers.cfgType

def computeAndMapConfigAddress : Option (KernPhysAddr × KernelMemory) :=
  let barIdx := capability.registers.bar
  let physicalOffset := capability.registers.offset
  let regionSize := capability.registers.capLen.toUInt64
  capability.deviceConfigBody.barRegionPhysicalAddress table m barIdx physicalOffset regionSize

def config : Option (VirtIOConfig × KernelMemory) := do
  match ← capability.configType with
  | .common =>
      let (configAddr, m) ← capability.computeAndMapConfigAddress table m
      some (.common configAddr, m)
  | .notify =>
      let (configAddr, m) ← capability.computeAndMapConfigAddress table m
      let notifyOffMultiplier := capability.registers.notifyOffMultiplier
      some (.notify ⟨configAddr, notifyOffMultiplier⟩, m)
  | .isr =>
      let (configAddr, m) ← capability.computeAndMapConfigAddress table m
      some (.isr configAddr, m)
  | .device =>
      let (configAddr, m) ← capability.computeAndMapConfigAddress table m
      some (.device configAddr, m)
  | .pci => some (.pci, m)
  | .sharedMemory => some (.sharedMemory, m)
  | .vendor => some (.vendor, m)

def ConfigPage (n : Fin (2 ^ 36)) : Prop :=
  ∃ configType barPhysAddr, capability.configType = some configType ∧
    configType.isMapped = true ∧ capability.registers.capLen ≠ 0 ∧
    (capability.deviceConfigBody.bar capability.registers.bar).bind BARAddress.physAddr =
      some barPhysAddr ∧
    n.val = (2 ^ 64 - 2 ^ 47 + barPhysAddr.val.toNat + capability.registers.offset.toNat) / 4096 %
      2 ^ 36

variable {capability table m}

theorem computeAndMapConfigAddress_spec {m' : KernelMemory} {configAddr : KernPhysAddr}
    (hinv : TreeInv m table.frame) (noDropped : NoDropped (absOf m.memory table.frame))
    (returned : capability.computeAndMapConfigAddress table m = some (configAddr, m')) :
    (∃ barPhysAddr, (capability.deviceConfigBody.bar capability.registers.bar).bind
        BARAddress.physAddr = some barPhysAddr ∧
      configAddr.val.toNat =
        2 ^ 64 - 2 ^ 47 + barPhysAddr.val.toNat + capability.registers.offset.toNat) ∧
    MapsPages table m m' fun n =>
      capability.registers.capLen ≠ 0 ∧ n.val = configAddr.val.toNat / 4096 % 2 ^ 36 := by
  obtain ⟨address, maps⟩ :=
    PCIDeviceConfigType0.barRegionPhysicalAddress_spec hinv noDropped returned
  refine ⟨address, maps.congr fun n => ?_⟩
  have byte := capability.registers.capLen.toNat_lt
  have nonzero : capability.registers.capLen ≠ 0 ↔ capability.registers.capLen.toNat ≠ 0 := by
    simp [← UInt8.toNat_inj]
  rw [UInt8.toNat_toUInt64, nonzero]
  constructor
  · rintro ⟨i, hi, hn⟩
    have first : i = 0 := by omega
    subst first
    exact ⟨by omega, hn⟩
  · rintro ⟨hlen, hn⟩
    exact ⟨0, by omega, hn⟩

theorem config_eq_some_of_isMapped {configType : VirtIOPCIConfigType} {config : VirtIOConfig}
    {m' : KernelMemory} (typed : capability.configType = some configType)
    (mapped : configType.isMapped = true) (returned : capability.config table m = some (config, m')) :
    ∃ configAddr, capability.computeAndMapConfigAddress table m = some (configAddr, m') := by
  unfold VirtIOPCICapabilityHeader.config at returned
  simp only [typed, bind, Option.bind_some] at returned
  -- each kind it maps wraps the address `compute_and_map_config_address` returns
  have wrapped : ∀ {f : KernPhysAddr → VirtIOConfig},
      ((capability.computeAndMapConfigAddress table m).bind fun a => some (f a.1, a.2)) =
        some (config, m') →
      ∃ configAddr, capability.computeAndMapConfigAddress table m = some (configAddr, m') := by
    intro f h
    obtain ⟨⟨configAddr, m1⟩, computed, h⟩ := Option.bind_eq_some_iff.mp h
    rw [Option.some.injEq, Prod.mk.injEq] at h
    exact ⟨configAddr, h.2 ▸ computed⟩
  cases configType with
  | common => exact wrapped returned
  | notify => exact wrapped (f := fun c => .notify ⟨c, _⟩) returned
  | isr => exact wrapped returned
  | device => exact wrapped returned
  | pci => cases mapped
  | sharedMemory => cases mapped
  | vendor => cases mapped

theorem config_eq_of_not_isMapped {configType : VirtIOPCIConfigType} {config : VirtIOConfig}
    {m' : KernelMemory} (typed : capability.configType = some configType)
    (unmapped : configType.isMapped = false)
    (returned : capability.config table m = some (config, m')) : m' = m := by
  unfold VirtIOPCICapabilityHeader.config at returned
  simp only [typed, bind, Option.bind_some] at returned
  cases configType with
  | pci => exact (Prod.mk.inj (Option.some.inj returned)).2.symm
  | sharedMemory => exact (Prod.mk.inj (Option.some.inj returned)).2.symm
  | vendor => exact (Prod.mk.inj (Option.some.inj returned)).2.symm
  | common => cases unmapped
  | notify => cases unmapped
  | isr => cases unmapped
  | device => cases unmapped

theorem configPage_iff {configType : VirtIOPCIConfigType}
    (typed : capability.configType = some configType) (n : Fin (2 ^ 36)) :
    capability.ConfigPage n ↔ configType.isMapped = true ∧ capability.registers.capLen ≠ 0 ∧
      ∃ barPhysAddr, (capability.deviceConfigBody.bar capability.registers.bar).bind
        BARAddress.physAddr = some barPhysAddr ∧
      n.val = (2 ^ 64 - 2 ^ 47 + barPhysAddr.val.toNat + capability.registers.offset.toNat) /
        4096 % 2 ^ 36 := by
  constructor
  · rintro ⟨configType', barPhysAddr, typed', mapped, hlen, hbar, hn⟩
    rw [typed, Option.some.injEq] at typed'
    subst typed'
    exact ⟨mapped, hlen, barPhysAddr, hbar, hn⟩
  · rintro ⟨mapped, hlen, barPhysAddr, hbar, hn⟩
    exact ⟨configType, barPhysAddr, typed, mapped, hlen, hbar, hn⟩

theorem config_spec {config : VirtIOConfig} {m' : KernelMemory} (hinv : TreeInv m table.frame)
    (noDropped : NoDropped (absOf m.memory table.frame))
    (returned : capability.config table m = some (config, m')) :
    MapsPages table m m' capability.ConfigPage := by
  obtain ⟨configType, typed⟩ : ∃ configType, capability.configType = some configType := by
    unfold VirtIOPCICapabilityHeader.config at returned
    simp only [bind, Option.bind_eq_some_iff] at returned
    obtain ⟨configType, typed, -⟩ := returned
    exact ⟨configType, typed⟩
  cases mapped : configType.isMapped with
  | true =>
      obtain ⟨configAddr, computed⟩ := config_eq_some_of_isMapped typed mapped returned
      obtain ⟨⟨barPhysAddr, hbar, haddr⟩, maps⟩ :=
        computeAndMapConfigAddress_spec hinv noDropped computed
      refine maps.congr fun n => ?_
      rw [configPage_iff typed, haddr]
      constructor
      · rintro ⟨hlen, hn⟩
        exact ⟨mapped, hlen, barPhysAddr, hbar, hn⟩
      · rintro ⟨-, hlen, barPhysAddr', hbar', hn⟩
        rw [hbar, Option.some.injEq] at hbar'
        subst hbar'
        exact ⟨hlen, hn⟩
  | false =>
      rw [config_eq_of_not_isMapped typed mapped returned]
      refine (MapsPages.refl hinv noDropped).congr fun n => ?_
      rw [configPage_iff typed, mapped]
      simp

end VirtIOPCICapabilityHeader

/-- The configurations `from_pci_config` has found so far, the first of each kind. -/
structure ConfigScan where
  commonVirtioConfig : Option KernPhysAddr
  isr : Option KernPhysAddr
  notifyConfig : Option VirtIONotifyConfig
  deviceConfigPhysAddr : Option KernPhysAddr

def ConfigScan.record (scan : ConfigScan) : VirtIOConfig → ConfigScan
  | .common cfg => { scan with commonVirtioConfig := scan.commonVirtioConfig.or (some cfg) }
  | .notify cfg => { scan with notifyConfig := scan.notifyConfig.or (some cfg) }
  | .isr isrRegs => { scan with isr := scan.isr.or (some isrRegs) }
  | .device addr => { scan with deviceConfigPhysAddr := scan.deviceConfigPhysAddr.or (some addr) }
  | .pci | .sharedMemory | .vendor => scan

/-- One round of the loop of `from_pci_config` over the capabilities: `from_pci_capability` keeps
the vendor-specific ones, and a PCI configuration access capability is skipped. -/
def scanCapability (pciType0Config : PCIDeviceConfigType0) (table : Level4PageTable) :
    ConfigScan × KernelMemory → PCIDeviceCapability VirtIOPCICapabilityHeaderRegisters →
      Option (ConfigScan × KernelMemory)
  | (scan, m), .vendorSpecific registers => do
      let capability : VirtIOPCICapabilityHeader := ⟨pciType0Config, registers⟩
      if (← capability.configType) = .pci then some (scan, m)
      else
        let (config, m) ← capability.config table m
        some (scan.record config, m)
  | (scan, m), _ => some (scan, m)

structure VirtIODeviceConfig where
  pciType0Config : PCIDeviceConfigType0
  commonVirtioConfig : KernPhysAddr
  isr : KernPhysAddr
  notifyConfig : VirtIONotifyConfig
  deviceConfigPhysAddr : KernPhysAddr

/-- `VirtIODeviceConfig::from_pci_config`: `None` for a device that is not VirtIO, and a panic for
one without a type 0 header or without one of the four structures. -/
def VirtIODeviceConfig.fromPciConfig
    (pciConfig : PCIDeviceConfig VirtIOPCICapabilityHeaderRegisters) (table : Level4PageTable)
    (m : KernelMemory) : Option (Option VirtIODeviceConfig × KernelMemory) := do
  if pciConfig.vendorId ≠ 0x1af4 then some (none, m)
  else
    let configType ← pciConfig.configType
    let .generalDevice pciType0Config := configType | none
    let (scan, m) ← pciConfig.capabilities.foldlM (scanCapability pciType0Config table)
      (⟨none, none, none, none⟩, m)
    let commonVirtioConfig ← scan.commonVirtioConfig
    let isr ← scan.isr
    let notifyConfig ← scan.notifyConfig
    let deviceConfigPhysAddr ← scan.deviceConfigPhysAddr
    some (some ⟨pciType0Config, commonVirtioConfig, isr, notifyConfig, deviceConfigPhysAddr⟩, m)

/-! ## What `from_pci_config` maps -/

section Scan

variable {pciType0Config : PCIDeviceConfigType0} {table : Level4PageTable}

theorem scanCapability_spec {scan scan' : ConfigScan} {m m' : KernelMemory}
    {capability : PCIDeviceCapability VirtIOPCICapabilityHeaderRegisters}
    (hinv : TreeInv m table.frame) (noDropped : NoDropped (absOf m.memory table.frame))
    (returned : scanCapability pciType0Config table (scan, m) capability = some (scan', m')) :
    MapsPages table m m' fun n => ∃ registers, capability = .vendorSpecific registers ∧
      (⟨pciType0Config, registers⟩ : VirtIOPCICapabilityHeader).ConfigPage n := by
  cases capability with
  | vendorSpecific registers =>
      simp only [scanCapability, bind, Option.bind_eq_some_iff] at returned
      obtain ⟨configType, typed, returned⟩ := returned
      split at returned
      · -- a PCI configuration access capability is skipped, and maps nothing
        rename_i pci
        subst pci
        obtain ⟨-, rfl⟩ := Prod.mk.inj (Option.some.inj returned)
        refine (MapsPages.refl hinv noDropped).congr fun n => ⟨False.elim, ?_⟩
        rintro ⟨registers', same, page⟩
        cases same
        exact absurd ((VirtIOPCICapabilityHeader.configPage_iff typed n).mp page).1 (by decide)
      · obtain ⟨⟨config, m1⟩, configured, returned⟩ := Option.bind_eq_some_iff.mp returned
        obtain ⟨-, rfl⟩ := Prod.mk.inj (Option.some.inj returned)
        refine (VirtIOPCICapabilityHeader.config_spec hinv noDropped configured).congr fun n =>
          ⟨fun page => ⟨registers, rfl, page⟩, ?_⟩
        rintro ⟨registers', same, page⟩
        cases same
        exact page
  | msix capability =>
      obtain ⟨-, rfl⟩ := Prod.mk.inj (Option.some.inj returned)
      exact (MapsPages.refl hinv noDropped).congr fun n => by simp
  | other =>
      obtain ⟨-, rfl⟩ := Prod.mk.inj (Option.some.inj returned)
      exact (MapsPages.refl hinv noDropped).congr fun n => by simp

theorem foldlM_scanCapability_spec :
    ∀ (capabilities : List (PCIDeviceCapability VirtIOPCICapabilityHeaderRegisters))
      (scan scan' : ConfigScan) (m m' : KernelMemory), TreeInv m table.frame →
      NoDropped (absOf m.memory table.frame) →
      capabilities.foldlM (scanCapability pciType0Config table) (scan, m) = some (scan', m') →
      MapsPages table m m' fun n => ∃ registers, .vendorSpecific registers ∈ capabilities ∧
        (⟨pciType0Config, registers⟩ : VirtIOPCICapabilityHeader).ConfigPage n := by
  intro capabilities
  induction capabilities with
  | nil =>
      intro scan scan' m m' hinv noDropped returned
      obtain ⟨-, rfl⟩ := Prod.mk.inj (Option.some.inj returned)
      exact (MapsPages.refl hinv noDropped).congr fun n => by simp
  | cons capability capabilities ih =>
      intro scan scan' m m' hinv noDropped returned
      rw [List.foldlM_cons] at returned
      obtain ⟨⟨scan1, m1⟩, first, rest⟩ := Option.bind_eq_some_iff.mp returned
      have step := scanCapability_spec hinv noDropped first
      refine (step.trans (ih scan1 scan' m1 m' step.inv step.noDropped rest)).congr fun n => ?_
      constructor
      · rintro (⟨registers, rfl, page⟩ | ⟨registers, mem, page⟩)
        · exact ⟨registers, List.mem_cons_self, page⟩
        · exact ⟨registers, List.mem_cons_of_mem _ mem, page⟩
      · rintro ⟨registers, mem, page⟩
        rcases List.mem_cons.mp mem with same | later
        · exact Or.inl ⟨registers, same.symm, page⟩
        · exact Or.inr ⟨registers, later, page⟩

end Scan

/-- After `from_pci_config` has found a VirtIO device, in a kernel page table with no dropped
entry, an address translates exactly when it did before or it lies in the page that holds the
first byte of one of the device's common, notify, ISR or device structures with a `cap_len` that is
not zero. Nothing past that page is mapped, whatever the structure's `length`. -/
theorem fromPciConfig_mapped
    {pciConfig : PCIDeviceConfig VirtIOPCICapabilityHeaderRegisters} {table : Level4PageTable}
    {m m' : KernelMemory} {deviceConfig : VirtIODeviceConfig} (hinv : TreeInv m table.frame)
    (noDropped : NoDropped (absOf m.memory table.frame))
    (returned : VirtIODeviceConfig.fromPciConfig pciConfig table m = some (some deviceConfig, m'))
    (v : VirtAddr) :
    (∃ mapping, absTranslate (absOf m'.memory table.frame) v = .mapped mapping) ↔
      (∃ mapping, absTranslate (absOf m.memory table.frame) v = .mapped mapping) ∨
        ∃ registers, .vendorSpecific registers ∈ pciConfig.capabilities ∧
          (⟨deviceConfig.pciType0Config, registers⟩ : VirtIOPCICapabilityHeader).ConfigPage
            v.vpn := by
  unfold VirtIODeviceConfig.fromPciConfig at returned
  split at returned
  · cases returned
  · simp only [bind, Option.bind_eq_some_iff] at returned
    obtain ⟨configType, -, returned⟩ := returned
    cases configType with
    | generalDevice pciType0Config =>
        simp only [Option.bind_eq_some_iff] at returned
        obtain ⟨⟨scan, m1⟩, scanned, common, -, isr, -, notify, -, device, -, returned⟩ := returned
        obtain ⟨same, rfl⟩ := Prod.mk.inj (Option.some.inj returned)
        cases Option.some.inj same
        have maps := foldlM_scanCapability_spec pciConfig.capabilities _ scan m m1 hinv noDropped
          scanned
        rw [absTranslate_mapped_iff, absTranslate_mapped_iff, maps.mapped]
    | pciToPciBridge => cases returned

def offPageBody : PCIDeviceConfigType0 := ⟨[0xFE00_0000, 0, 0, 0, 0, 0], rfl⟩

def offPageDevice : PCIDeviceConfig VirtIOPCICapabilityHeaderRegisters :=
  ⟨0x1af4, some (.generalDevice offPageBody),
    [.vendorSpecific ⟨16, 1, 0, 0x000, 0x38, 0⟩,
     .vendorSpecific ⟨16, 3, 0, 0x800, 0x4, 0⟩,
     .vendorSpecific ⟨20, 2, 0, 0x900, 0x4, 4⟩,
     .vendorSpecific ⟨16, 4, 0, 0xFF0, 0x38, 0⟩]⟩

theorem directMap_inRange (physical : Nat) (h : physical ≤ 0x3777_7777_7777) :
    kernelPhysicalMappingStart ≤ (2 ^ 64 - 2 ^ 47 + physical).toUInt64 ∧
      (2 ^ 64 - 2 ^ 47 + physical).toUInt64 ≤ kernelPhysicalMappingEnd := by
  rw [inKernelPhysicalMapping_iff, Nat.toUInt64_eq, UInt64.toNat_ofNat']
  omega

def directMap (physical : Nat) (h : physical ≤ 0x3777_7777_7777) : KernPhysAddr :=
  ⟨(2 ^ 64 - 2 ^ 47 + physical).toUInt64, directMap_inRange physical h⟩

-- What `from_pci_config` finds for `offPageDevice`: each structure `offset` past BAR 0.
def offPageConfig : VirtIODeviceConfig :=
  ⟨offPageBody, directMap 0xFE00_0000 (by decide), directMap 0xFE00_0800 (by decide),
    ⟨directMap 0xFE00_0900 (by decide), 4⟩, directMap 0xFE00_0FF0 (by decide)⟩

/-- On an empty kernel page table `from_pci_config` returns the device structure at
`0xFFFF_8000_FE00_0FF0`, and its byte 16, at `0xFFFF_8000_FE00_1000`, does not translate: an access
to it faults. -/
theorem fromPciConfig_mapped_offPage :
    ∃ m', VirtIODeviceConfig.fromPciConfig offPageDevice ⟨1⟩ emptyMemory =
        some (some offPageConfig, m') ∧
      ¬∃ mapping, absTranslate (absOf m'.memory 1) ⟨0xFFFF_8000_FE00_1000, by decide⟩ =
        .mapped mapping := by
  obtain ⟨m', returned⟩ : ∃ m', VirtIODeviceConfig.fromPciConfig offPageDevice ⟨1⟩ emptyMemory =
      some (some offPageConfig, m') := ⟨_, rfl⟩
  refine ⟨m', returned, ?_⟩
  rw [fromPciConfig_mapped (treeInv_init ptInit_emptyMemory) noDropped_emptyMemory returned]
  have bar0 : (offPageBody.bar 0).bind BARAddress.physAddr = some ⟨0xFE00_0000, by decide⟩ := rfl
  rintro (⟨mapping, before⟩ | ⟨registers, mem, page⟩)
  · rw [absTranslate, absOf_emptyMemory] at before
    cases before
  · -- each structure's page is `0xFE000`, and the byte is in page `0xFE001`
    simp only [offPageDevice, List.mem_cons, List.not_mem_nil, or_false,
      PCIDeviceCapability.vendorSpecific.injEq] at mem
    obtain ⟨configType, barPhysAddr, -, -, -, hbar, hn⟩ := page
    change (offPageBody.bar registers.bar).bind BARAddress.physAddr = some barPhysAddr at hbar
    rcases mem with rfl | rfl | rfl | rfl <;>
      · rw [bar0, Option.some.injEq] at hbar
        subst hbar
        exact absurd hn (by decide)

end RustOs.Virtio
