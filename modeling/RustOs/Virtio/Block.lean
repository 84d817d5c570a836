import RustOs.Virtio.Chains
import RustOs.Lib.Bytes
import RustOs.Memory.Address

/-!
# Block requests

`virtio/block.rs`. A request becomes a `RawBlockRequest` (`to_raw`), whose
`to_descriptor_chain` lays the data, the 16-byte header and the status byte out in one zeroed
buffer and describes them by three descriptors: header, data, status. When the device is done,
`from_descriptor_chain` reads the header and the status back through the descriptors and
`from_raw` rebuilds the request.

The header goes at `data_len + data_len % 8`, a multiple of 8 only for lengths of `0` or `4`
modulo 8; every request the driver builds has one. The buffer lies at the address
`PhysicalBuffer::allocate_zeroed` returned, and memory is what the kernel sees through its
direct map, byte by byte.
-/

namespace RustOs.Virtio

open Memory Splice

/-- `VIRTIO_BLOCK_SECTOR_SIZE_BYTES`. -/
def virtioBlockSectorSizeBytes : UInt32 := 512

/-- `BlockRequestType`; `In` is `in_` here. -/
inductive BlockRequestType where
  | in_
  | out
  | flush
  | getID
  | getLifetime
  | discard
  | writeZeroes
  | secureErase
  deriving DecidableEq, Repr

namespace BlockRequestType

/-- The discriminant, `as u32`. -/
def toU32 : BlockRequestType → UInt32
  | in_ => 0
  | out => 1
  | flush => 4
  | getID => 8
  | getLifetime => 10
  | discard => 11
  | writeZeroes => 13
  | secureErase => 14

/-- `from_u32`: the first variant whose discriminant is the value. -/
def fromU32 (value : UInt32) : Option BlockRequestType :=
  [in_, out, flush, getID, getLifetime, discard, writeZeroes, secureErase].find? (·.toU32 == value)

@[simp] theorem fromU32_toU32 (t : BlockRequestType) : fromU32 t.toU32 = some t := by
  cases t <;> rfl

end BlockRequestType

/-- `BlockRequestStatus`, a `u8`; `Unset` is no status a device writes. -/
inductive BlockRequestStatus where
  | ok
  | ioErr
  | unsupported
  | unset
  deriving DecidableEq, Repr

namespace BlockRequestStatus

def toU8 : BlockRequestStatus → UInt8
  | ok => 0
  | ioErr => 1
  | unsupported => 2
  | unset => 0b111

def fromU8 (value : UInt8) : Option BlockRequestStatus :=
  if value = 0 then some ok
  else if value = 1 then some ioErr
  else if value = 2 then some unsupported
  else if value = 0b111 then some unset
  else none

@[simp] theorem fromU8_toU8 (s : BlockRequestStatus) : fromU8 s.toU8 = some s := by
  cases s <;> rfl

end BlockRequestStatus

inductive BlockRequest where
  | read (sector : UInt64) (numSectors : UInt32)
  | write (sector : UInt64) (dataLen : UInt32)
  | getID
  deriving DecidableEq, Repr

structure RawBlockRequest where
  requestType : BlockRequestType
  sector : UInt64
  dataLen : UInt32
  status : BlockRequestStatus
  deriving DecidableEq, Repr

/-- `RawBlockRequest::new`: the status starts `Unset`. -/
def RawBlockRequest.new (requestType : BlockRequestType) (sector : UInt64) (dataLen : UInt32) :
    RawBlockRequest :=
  ⟨requestType, sector, dataLen, .unset⟩

namespace BlockRequest

/-- `GET_ID_DATA_LEN`. -/
def getIdDataLen : UInt32 := 20

/-- `to_raw`; `num_sectors * 512` panics on a `u32` overflow. -/
def toRaw : BlockRequest → Option RawBlockRequest
  | read sector numSectors =>
      if numSectors.toNat * virtioBlockSectorSizeBytes.toNat < 2 ^ 32 then
        some (.new .in_ sector (numSectors * virtioBlockSectorSizeBytes))
      else none
  | write sector dataLen => some (.new .out sector dataLen)
  | getID => some (.new .getID 0 getIdDataLen)

/-- `from_raw`, whose `assert!`s and `panic!` are `none`. -/
def fromRaw (raw : RawBlockRequest) : Option BlockRequest :=
  match raw.requestType with
  | .in_ =>
      if raw.dataLen % virtioBlockSectorSizeBytes = 0 then
        some (read raw.sector (raw.dataLen / virtioBlockSectorSizeBytes))
      else none
  | .out =>
      if raw.dataLen % virtioBlockSectorSizeBytes = 0 then some (write raw.sector raw.dataLen)
      else none
  | .getID => some getID
  | _ => none

/-- The requests `virtio_block_read`, `virtio_block_write` and `virtio_block_get_id` build: a
read whose bytes fit a `u32`, a write of whole sectors. -/
def Buildable : BlockRequest → Prop
  | read _ numSectors => numSectors.toNat * 512 < 2 ^ 32
  | write _ dataLen => dataLen.toNat % 512 = 0
  | getID => True

instance (request : BlockRequest) : Decidable request.Buildable :=
  match request with
  | read _ numSectors => inferInstanceAs (Decidable (numSectors.toNat * 512 < 2 ^ 32))
  | write _ dataLen => inferInstanceAs (Decidable (dataLen.toNat % 512 = 0))
  | getID => isTrue trivial

end BlockRequest

/-- `RawBlockRequestHeader`, `#[repr(C)]`: 16 bytes, aligned to 8. -/
structure RawBlockRequestHeader where
  requestType : UInt32
  reserved : UInt32
  sector : UInt64
  deriving DecidableEq, Repr

namespace RawBlockRequestHeader

def codec : Codec RawBlockRequestHeader :=
  (Codec.u32.prod (Codec.u32.prod Codec.u64)).map (fun p => ⟨p.1, p.2.1, p.2.2⟩)
    (fun h => (h.requestType, h.reserved, h.sector)) (fun _ => rfl)

/-- `align_of::<RawBlockRequestHeader>()`. -/
def align : Nat := 8

@[simp] theorem size_codec : codec.size = 16 := rfl

end RawBlockRequestHeader

/-- The bytes of a buffer from `PhysicalBuffer::allocate_zeroed min_bytes`: whole zeroed
pages. -/
def zeroedPages (minBytes : Nat) : List UInt8 := List.replicate ((minBytes + 4095) / 4096 * 4096) 0

/-- `KernPhysAddr::from` of a descriptor's address, a `PhysAddr` and so below `2 ^ 52`. -/
def kernAddr (addr : UInt64) : Option KernPhysAddr := do
  KernPhysAddr.fromPhysAddr (← PhysAddr.new addr)

namespace RawBlockRequest

variable (self : RawBlockRequest)

/-- `header_offset`: `data_len + data_len % align`. -/
def headerOffset : Nat := self.dataLen.toNat + self.dataLen.toNat % RawBlockRequestHeader.align

/-- `status_offset`: after the header, aligned to the 1 of a `u8`. -/
def statusOffset : Nat :=
  let statusRawOffset := self.headerOffset + RawBlockRequestHeader.codec.size
  statusRawOffset + statusRawOffset % 1

def totalSize : Nat := self.statusOffset + 1

/-- The copy of the data in `to_descriptor_chain`: `assert!(request_data.len() <= data_len)`,
then `buffer_bytes[i] = *byte` for each byte. -/
def copyRequestData (buffer : List UInt8) (dataLen : UInt32) :
    Option (List UInt8) → Option (List UInt8)
  | some requestData =>
      if requestData.length ≤ dataLen.toNat then
        if requestData.length ≤ buffer.length then some (splice buffer 0 requestData) else none
      else none
  | none => some buffer

/-- `to_descriptor_chain`, for the buffer `allocate_zeroed` returned at `address`: the chain,
header first, and the bytes of the buffer. -/
def toDescriptorChain (requestData : Option (List UInt8)) (address : KernPhysAddr) :
    Option (List ChainedVirtQueueDescriptorElem × List UInt8) := do
  -- the `u32` sums only grow, so the last one is the first to overflow
  if 2 ^ 32 ≤ self.totalSize then none
  else
    let buffer ← copyRequestData (zeroedPages self.totalSize) self.dataLen requestData
    -- `try_write_bytes_offset` checks that the header fits and that its address is aligned
    if (address.val.toNat + self.headerOffset) % RawBlockRequestHeader.align ≠ 0 then none
    else
      let buffer ← RawBlockRequestHeader.codec.setAt buffer self.headerOffset
        ⟨self.requestType.toU32, 0, self.sector⟩
      let headerAddr ← address.add self.headerOffset.toUInt64
      let headerPhys ← headerAddr.toPhysAddr
      let headerDesc : ChainedVirtQueueDescriptorElem :=
        ⟨headerPhys.val, RawBlockRequestHeader.codec.size.toUInt32, ⟨false, false, false⟩⟩
      let bufferPhys ← address.toPhysAddr
      let writeable := self.requestType != .out
      let bufferDesc : ChainedVirtQueueDescriptorElem :=
        ⟨bufferPhys.val, self.dataLen, ⟨false, writeable, false⟩⟩
      let buffer ← Codec.u8.setAt buffer self.statusOffset self.status.toU8
      let statusAddr ← address.add self.statusOffset.toUInt64
      let statusPhys ← statusAddr.toPhysAddr
      let statusDesc : ChainedVirtQueueDescriptorElem := ⟨statusPhys.val, 1, ⟨false, true, false⟩⟩
      some ([headerDesc, bufferDesc, statusDesc], buffer)

/-- The reads of `from_descriptor_chain` once it has its three descriptors: the header and the
status through the direct map `memory`, the length of the data from its descriptor. -/
def readDescriptors (memory : Nat → UInt8) (headerDesc bufferDesc statusDesc : ChainedVirtQueueDescriptorElem) :
    Option RawBlockRequest :=
  if headerDesc.len ≠ RawBlockRequestHeader.codec.size.toUInt32 then none
  else do
    let headerAddr ← kernAddr headerDesc.addr
    let header := RawBlockRequestHeader.codec.decode
      (ByteStore.read memory headerAddr.val.toNat RawBlockRequestHeader.codec.size)
    let requestType ← BlockRequestType.fromU32 header.requestType
    if statusDesc.len ≠ 1 then none
    else
      let statusAddr ← kernAddr statusDesc.addr
      let status ← BlockRequestStatus.fromU8 (memory statusAddr.val.toNat)
      some ⟨requestType, header.sector, bufferDesc.len, status⟩

/-- `from_descriptor_chain` over any iterator `next` of descriptors, whose outer `none` is a
panic: exactly three descriptors, then the reads. -/
def fromDescriptorChain {ι : Type} (next : ι → Option (Option (ChainedVirtQueueDescriptorElem × ι)))
    (memory : Nat → UInt8) (chain : ι) : Option RawBlockRequest := do
  let some (headerDesc, chain) ← next chain | none
  let some (bufferDesc, chain) ← next chain | none
  let some (statusDesc, chain) ← next chain | none
  let last ← next chain
  if last.isSome then none else readDescriptors memory headerDesc bufferDesc statusDesc

end RawBlockRequest

/-! ## What `to_raw` gives -/

namespace BlockRequest

theorem toNat_sectors_mul {numSectors : UInt32} (fits : numSectors.toNat * 512 < 2 ^ 32) :
    (numSectors * virtioBlockSectorSizeBytes).toNat = numSectors.toNat * 512 := by
  have sector : virtioBlockSectorSizeBytes.toNat = 512 := rfl
  rw [UInt32.toNat_mul, sector, Nat.mod_eq_of_lt fits]

theorem toRaw_of_buildable {request : BlockRequest} (buildable : request.Buildable) :
    ∃ raw, request.toRaw = some raw ∧ raw.status = .unset ∧
      (raw.dataLen.toNat % 512 = 0 ∨ raw.dataLen.toNat = 20) ∧ fromRaw raw = some request := by
  cases request with
  | read sector numSectors =>
      have fits : numSectors.toNat * 512 < 2 ^ 32 := buildable
      have len := toNat_sectors_mul fits
      have whole : numSectors * virtioBlockSectorSizeBytes % virtioBlockSectorSizeBytes = 0 := by
        apply UInt32.toNat_inj.mp
        rw [UInt32.toNat_mod, len]
        simp [virtioBlockSectorSizeBytes]
      have back : numSectors * virtioBlockSectorSizeBytes / virtioBlockSectorSizeBytes =
          numSectors := by
        apply UInt32.toNat_inj.mp
        rw [UInt32.toNat_div, len]
        simp [virtioBlockSectorSizeBytes]
      have raw : (read sector numSectors).toRaw =
          some (.new .in_ sector (numSectors * virtioBlockSectorSizeBytes)) := if_pos fits
      refine ⟨_, raw, rfl, Or.inl ?_, ?_⟩
      · show (numSectors * virtioBlockSectorSizeBytes).toNat % 512 = 0
        rw [len]
        omega
      · simp [fromRaw, RawBlockRequest.new, whole, back]
  | write sector dataLen =>
      have whole : dataLen.toNat % 512 = 0 := buildable
      have whole' : dataLen % virtioBlockSectorSizeBytes = 0 := by
        apply UInt32.toNat_inj.mp
        rw [UInt32.toNat_mod]
        exact whole
      exact ⟨_, rfl, rfl, Or.inl whole, by simp [fromRaw, RawBlockRequest.new, whole']⟩
  | getID => exact ⟨_, rfl, rfl, Or.inr rfl, rfl⟩

end BlockRequest

/-! ## The layout of `to_descriptor_chain` -/

namespace RawBlockRequest

variable {self : RawBlockRequest}

theorem statusOffset_eq (self : RawBlockRequest) : self.statusOffset = self.headerOffset + 16 := by
  simp only [statusOffset, RawBlockRequestHeader.size_codec, Nat.mod_one, Nat.add_zero]

theorem totalSize_eq (self : RawBlockRequest) : self.totalSize = self.headerOffset + 17 := by
  rw [totalSize, statusOffset_eq]

/-- The buffer and the chain `to_descriptor_chain` lays out for `raw` at `address`: the data
from offset `0` with zeros after it, the header at `header_offset` on an address aligned to 8,
the status at `status_offset`, the three apart and inside the buffer; and the descriptors of the
header, the data and the status at their physical addresses. -/
structure Laid (raw : RawBlockRequest) (requestData : List UInt8) (address : KernPhysAddr)
    (descs : List ChainedVirtQueueDescriptorElem) (buffer : List UInt8) : Prop where
  apart : raw.dataLen.toNat ≤ raw.headerOffset ∧ raw.headerOffset + 16 ≤ raw.statusOffset ∧
    raw.statusOffset < buffer.length
  aligned : (address.val.toNat + raw.headerOffset) % 8 = 0
  data : slice buffer 0 raw.dataLen.toNat =
    requestData ++ List.replicate (raw.dataLen.toNat - requestData.length) 0
  header : slice buffer raw.headerOffset 16 =
    RawBlockRequestHeader.codec.encode ⟨raw.requestType.toU32, 0, raw.sector⟩
  status : slice buffer raw.statusOffset 1 = [raw.status.toU8]
  descs : descs =
    [⟨address.val - kernelPhysicalMappingStart + raw.headerOffset.toUInt64, 16,
        ⟨false, false, false⟩⟩,
      ⟨address.val - kernelPhysicalMappingStart, raw.dataLen,
        ⟨false, raw.requestType != .out, false⟩⟩,
      ⟨address.val - kernelPhysicalMappingStart + raw.statusOffset.toUInt64, 1,
        ⟨false, true, false⟩⟩]

theorem length_zeroedPages (minBytes : Nat) :
    (zeroedPages minBytes).length = (minBytes + 4095) / 4096 * 4096 := by
  simp [zeroedPages]

theorem le_length_zeroedPages (minBytes : Nat) : minBytes ≤ (zeroedPages minBytes).length := by
  rw [length_zeroedPages]
  omega

theorem slice_splice_zeroedPages {minBytes n : Nat} {requestData : List UInt8}
    (short : requestData.length ≤ n) (inside : n ≤ (zeroedPages minBytes).length) :
    slice (splice (zeroedPages minBytes) 0 requestData) 0 n =
      requestData ++ List.replicate (n - requestData.length) 0 := by
  have zeros : splice (zeroedPages minBytes) 0 requestData =
      requestData ++ List.replicate ((zeroedPages minBytes).length - requestData.length) 0 := by
    simp only [splice, zeroedPages, List.take_zero, List.nil_append, Nat.zero_add,
      List.drop_replicate, List.length_replicate]
  rw [zeros, slice, List.drop_zero, List.take_append, List.take_of_length_le short,
    List.take_replicate, Nat.min_eq_left (by omega)]

theorem copyRequestData_eq {buffer : List UInt8} {dataLen : UInt32}
    {requestData : Option (List UInt8)} (short : (requestData.getD []).length ≤ dataLen.toNat)
    (room : dataLen.toNat ≤ buffer.length) :
    copyRequestData buffer dataLen requestData = some (splice buffer 0 (requestData.getD [])) := by
  cases requestData with
  | none => simp [copyRequestData]
  | some requestData =>
      simp only [Option.getD_some] at short
      simp only [copyRequestData, Option.getD_some]
      rw [if_pos short, if_pos (by omega)]

theorem toDescriptorChain_laid {requestData : Option (List UInt8)} {address : KernPhysAddr}
    (short : (requestData.getD []).length ≤ self.dataLen.toNat)
    (lengthMod : self.dataLen.toNat % 8 = 0 ∨ self.dataLen.toNat % 8 = 4)
    (pageAligned : address.val.toNat % 4096 = 0)
    (inMap : address.val.toNat + self.totalSize ≤ kernelPhysicalMappingEnd.toNat + 1)
    (fits : self.totalSize < 2 ^ 32) :
    ∃ descs buffer, self.toDescriptorChain requestData address = some (descs, buffer) ∧
      Laid self (requestData.getD []) address descs buffer := by
  have total := self.totalSize_eq
  have status := self.statusOffset_eq
  have room := le_length_zeroedPages self.totalSize
  have offset : self.headerOffset % 8 = 0 := by
    simp only [headerOffset, RawBlockRequestHeader.align]
    omega
  have dataBefore : self.dataLen.toNat ≤ self.headerOffset := by
    simp only [headerOffset]
    omega
  -- the three writes into the zeroed pages: the data, the header, the status byte
  obtain ⟨buffer1, copied, buffer1_eq⟩ : ∃ buffer1,
      copyRequestData (zeroedPages self.totalSize) self.dataLen requestData = some buffer1 ∧
      buffer1 = splice (zeroedPages self.totalSize) 0 (requestData.getD []) :=
    ⟨_, copyRequestData_eq short (by omega), rfl⟩
  have len1 : buffer1.length = (zeroedPages self.totalSize).length := by
    rw [buffer1_eq, length_splice (by omega)]
  obtain ⟨buffer2, wroteHeader, buffer2_eq⟩ : ∃ buffer2,
      RawBlockRequestHeader.codec.setAt buffer1 self.headerOffset
        ⟨self.requestType.toU32, 0, self.sector⟩ = some buffer2 ∧
      buffer2 = splice buffer1 self.headerOffset
        (RawBlockRequestHeader.codec.encode ⟨self.requestType.toU32, 0, self.sector⟩) :=
    ⟨_, if_pos (by simp only [RawBlockRequestHeader.size_codec]; omega), rfl⟩
  have len2 : buffer2.length = (zeroedPages self.totalSize).length := by
    rw [buffer2_eq, length_splice (by rw [Codec.length_encode]; simp only [RawBlockRequestHeader.size_codec]; omega), len1]
  obtain ⟨buffer3, wroteStatus, buffer3_eq⟩ : ∃ buffer3,
      Codec.u8.setAt buffer2 self.statusOffset self.status.toU8 = some buffer3 ∧
      buffer3 = splice buffer2 self.statusOffset [self.status.toU8] :=
    ⟨_, if_pos (by show self.statusOffset + 1 ≤ buffer2.length; omega), by rw [Codec.encode_u8]⟩
  obtain ⟨headerAddr, headerPhys, addedHeader, convertedHeader, headerVal⟩ :=
    @KernPhysAddr.toPhysAddr_add address self.headerOffset (by omega)
  obtain ⟨statusAddr, statusPhys, addedStatus, convertedStatus, statusVal⟩ :=
    @KernPhysAddr.toPhysAddr_add address self.statusOffset (by omega)
  obtain ⟨bufferPhys, convertedBuffer, bufferVal⟩ := address.toPhysAddr_eq
  have alignedHeader :
      (address.val.toNat + self.headerOffset) % RawBlockRequestHeader.align = 0 := by
    simp only [RawBlockRequestHeader.align]
    omega
  have chain : self.toDescriptorChain requestData address = some
      ([⟨address.val - kernelPhysicalMappingStart + self.headerOffset.toUInt64, 16,
          ⟨false, false, false⟩⟩,
        ⟨address.val - kernelPhysicalMappingStart, self.dataLen,
          ⟨false, self.requestType != .out, false⟩⟩,
        ⟨address.val - kernelPhysicalMappingStart + self.statusOffset.toUInt64, 1,
          ⟨false, true, false⟩⟩], buffer3) := by
    simp only [toDescriptorChain, if_neg (Nat.not_le.mpr fits), copied, alignedHeader, ne_eq,
      not_true_eq_false, if_false, wroteHeader, addedHeader, convertedHeader, convertedBuffer,
      wroteStatus, addedStatus, convertedStatus, bind, Option.bind_some, headerVal, statusVal,
      bufferVal, RawBlockRequestHeader.size_codec]
    rfl
  refine ⟨_, buffer3, chain, ⟨⟨dataBefore, by omega, ?_⟩, alignedHeader, ?_, ?_, ?_, rfl⟩⟩
  · rw [buffer3_eq, length_splice (by simp only [List.length_singleton]; omega)]
    omega
  · rw [buffer3_eq, slice_splice_of_disjoint (by simp only [List.length_singleton]; omega)
      (by omega), buffer2_eq, slice_splice_of_disjoint
      (by rw [Codec.length_encode]; simp only [RawBlockRequestHeader.size_codec]; omega)
      (by omega), buffer1_eq]
    exact slice_splice_zeroedPages short (by omega)
  · have header := @slice_splice_self buffer1
      (RawBlockRequestHeader.codec.encode ⟨self.requestType.toU32, 0, self.sector⟩) self.headerOffset
      (by rw [Codec.length_encode]; simp only [RawBlockRequestHeader.size_codec]; omega)
    rw [Codec.length_encode, RawBlockRequestHeader.size_codec, ← buffer2_eq] at header
    rw [buffer3_eq, slice_splice_of_disjoint (by simp only [List.length_singleton]; omega)
      (by omega), header]
  · rw [buffer3_eq]
    exact slice_splice_self (by simp only [List.length_singleton]; omega)

/-! ## Reading a request back -/

theorem kernAddr_offset (address : KernPhysAddr) {offset : Nat}
    (inMap : address.val.toNat + offset ≤ kernelPhysicalMappingEnd.toNat) :
    ∃ k, kernAddr (address.val - kernelPhysicalMappingStart + offset.toUInt64) = some k ∧
      k.val.toNat = address.val.toNat + offset := by
  have hk := address.val_toNat
  have hsub := address.sub_start_toNat
  rw [kernelPhysicalMappingEnd_toNat] at inMap
  have phys : (address.val - kernelPhysicalMappingStart + offset.toUInt64).toNat =
      address.val.toNat - (2 ^ 64 - 2 ^ 47) + offset := by
    rw [UInt64.toNat_add, hsub]
    simp only [Nat.toUInt64_eq, UInt64.toNat_ofNat']
    omega
  have valid : (address.val - kernelPhysicalMappingStart + offset.toUInt64).toNat < 2 ^ 52 := by
    rw [phys]
    omega
  obtain ⟨k, converted, moved⟩ := KernPhysAddr.fromPhysAddr_eq ⟨_, valid⟩
    (by show (address.val - kernelPhysicalMappingStart + offset.toUInt64).toNat ≤ _; omega)
  have known : PhysAddr.new (address.val - kernelPhysicalMappingStart + offset.toUInt64) =
      some ⟨_, valid⟩ := by
    unfold PhysAddr.new
    rw [dif_pos valid]
  refine ⟨k, ?_, ?_⟩
  · rw [kernAddr, known, Option.bind_eq_bind, Option.bind_some]
    exact converted
  · rw [moved]
    show (address.val - kernelPhysicalMappingStart + offset.toUInt64).toNat + _ = _
    omega

theorem readDescriptors_eq {address : KernPhysAddr}
    (inMap : address.val.toNat + self.totalSize ≤ kernelPhysicalMappingEnd.toNat + 1)
    {memory : Nat → UInt8}
    (header : ByteStore.read memory (address.val.toNat + self.headerOffset) 16 =
      RawBlockRequestHeader.codec.encode ⟨self.requestType.toU32, 0, self.sector⟩)
    {headerDesc bufferDesc statusDesc : ChainedVirtQueueDescriptorElem}
    (headerAt : headerDesc.addr =
      address.val - kernelPhysicalMappingStart + self.headerOffset.toUInt64)
    (headerLen : headerDesc.len = 16) (bufferLen : bufferDesc.len = self.dataLen)
    (statusAt : statusDesc.addr =
      address.val - kernelPhysicalMappingStart + self.statusOffset.toUInt64)
    (statusLen : statusDesc.len = 1) :
    readDescriptors memory headerDesc bufferDesc statusDesc =
      (BlockRequestStatus.fromU8 (memory (address.val.toNat + self.statusOffset))).map
        fun status => { self with status } := by
  have total := self.totalSize_eq
  have status := self.statusOffset_eq
  obtain ⟨headerAddr, headerConverted, headerVal⟩ :=
    @kernAddr_offset address self.headerOffset (by omega)
  obtain ⟨statusAddr, statusConverted, statusVal⟩ :=
    @kernAddr_offset address self.statusOffset (by omega)
  have decoded : RawBlockRequestHeader.codec.decode (ByteStore.read memory headerAddr.val.toNat 16) =
      ⟨self.requestType.toU32, 0, self.sector⟩ := by
    rw [headerVal, header, Codec.decode_encode]
  have sixteen : (16 : Nat).toUInt32 = 16 := rfl
  simp only [readDescriptors, headerLen, bufferLen, statusLen, headerAt, statusAt,
    headerConverted, statusConverted, RawBlockRequestHeader.size_codec, sixteen, decoded,
    statusVal, BlockRequestType.fromU32_toU32, ne_eq, not_true_eq_false, if_false, bind,
    Option.bind_some]
  cases BlockRequestStatus.fromU8 (memory (address.val.toNat + self.statusOffset)) <;> rfl

theorem fromDescriptorChain_eq {ι : Type}
    {next : ι → Option (Option (ChainedVirtQueueDescriptorElem × ι))} {memory : Nat → UInt8}
    {c0 c1 c2 c3 : ι} {headerDesc bufferDesc statusDesc : ChainedVirtQueueDescriptorElem}
    (first : next c0 = some (some (headerDesc, c1)))
    (second : next c1 = some (some (bufferDesc, c2)))
    (third : next c2 = some (some (statusDesc, c3))) (last : next c3 = some none) :
    fromDescriptorChain next memory c0 = readDescriptors memory headerDesc bufferDesc statusDesc := by
  simp only [fromDescriptorChain, first, second, third, last, bind, Option.bind_some,
    Option.isSome_none, Bool.false_eq_true, if_false]

theorem fromDescriptorChain_of_collect {table : VirtQueueDescriptorTable}
    {it : VirtQueueDescriptorChainIterator} {memory : Nat → UInt8}
    {headerDesc bufferDesc statusDesc : ChainedVirtQueueDescriptorElem}
    (collected : VirtQueueDescriptorChainIterator.collect table 4 it =
      some [headerDesc, bufferDesc, statusDesc]) :
    fromDescriptorChain (VirtQueueDescriptorChainIterator.next table) memory it =
      readDescriptors memory headerDesc bufferDesc statusDesc := by
  obtain ⟨c1, first, rest1⟩ := VirtQueueDescriptorChainIterator.next_of_collect_cons collected
  obtain ⟨c2, second, rest2⟩ := VirtQueueDescriptorChainIterator.next_of_collect_cons rest1
  obtain ⟨c3, third, rest3⟩ := VirtQueueDescriptorChainIterator.next_of_collect_cons rest2
  exact fromDescriptorChain_eq first second third
    (VirtQueueDescriptorChainIterator.next_of_collect_nil rest3)

end RawBlockRequest

/-! ## The round trip -/

/-- A request the driver builds goes through `to_raw` and `to_descriptor_chain` into a buffer
laid out as `Laid` says; `add_descriptor` writes its chain to a table of at least three
descriptors, and from the head it returns `from_descriptor_chain` and `from_raw` give the request
back, its status still `Unset`. -/
theorem toDescriptorChain_round_trip (request : BlockRequest) (buildable : request.Buildable) :
    ∃ raw, request.toRaw = some raw ∧ raw.status = .unset ∧ BlockRequest.fromRaw raw = some request ∧
      ∀ (requestData : Option (List UInt8)) (address : KernPhysAddr) (Q : UInt16)
        (table : VirtQueueDescriptorTable) (memory : Nat → UInt8),
        (requestData.getD []).length ≤ raw.dataLen.toNat → address.val.toNat % 4096 = 0 →
        address.val.toNat + raw.totalSize ≤ kernelPhysicalMappingEnd.toNat + 1 →
        isPowerOfTwo Q = true → 3 ≤ Q.toNat → table.descriptors.len = Q.toNat →
        ∃ descs buffer head table',
          raw.toDescriptorChain requestData address = some (descs, buffer) ∧
          RawBlockRequest.Laid raw (requestData.getD []) address descs buffer ∧
          table.addDescriptor descs = some (head, table') ∧
          RawBlockRequest.fromDescriptorChain (VirtQueueDescriptorChainIterator.next table')
            (ByteStore.write memory address.val.toNat buffer) ⟨some head⟩ = some raw := by
  obtain ⟨raw, made, unset, size, back⟩ := BlockRequest.toRaw_of_buildable buildable
  refine ⟨raw, made, unset, back, ?_⟩
  intro requestData address Q table memory short pageAligned inMap hQ three sized
  have total := raw.totalSize_eq
  have status := raw.statusOffset_eq
  -- whole sectors, or the 20 bytes of an id: the header lands on a multiple of 8, and the
  -- offsets fit a `u32`
  have lengthMod : raw.dataLen.toNat % 8 = 0 ∨ raw.dataLen.toNat % 8 = 4 := by omega
  have fits : raw.totalSize < 2 ^ 32 := by
    have := raw.dataLen.toNat_lt
    rw [total]
    simp only [RawBlockRequest.headerOffset, RawBlockRequestHeader.align]
    omega
  obtain ⟨descs, buffer, chain, laid⟩ :=
    raw.toDescriptorChain_laid short lengthMod pageAligned inMap fits
  have apart := laid.apart
  obtain ⟨cells, added, -, laidOut, -⟩ := @addDescriptor_chain Q hQ table sized descs
    (by rw [laid.descs]; simp) (by rw [laid.descs]; simp) (by rw [laid.descs]; simpa using three)
  -- the chain reads back from the slot of `raw_next_index`, the head `add_descriptor` returned
  have collected := @collect_of_chainAt Q hQ
    ⟨table.rawNextIndex + descs.length.toUInt16, ⟨cells⟩⟩ descs table.rawNextIndex.toNat
    (by rw [laid.descs]; simp) (by rw [laid.descs]; simp) laidOut
  rw [toUInt16_mod_toNat hQ] at collected
  refine ⟨descs, buffer, _, _, chain, laid, added, ?_⟩
  rw [laid.descs] at collected ⊢
  rw [RawBlockRequest.fromDescriptorChain_of_collect collected]
  -- the header and the status byte, as the buffer holds them in memory
  have header : ByteStore.read (ByteStore.write memory address.val.toNat buffer)
      (address.val.toNat + raw.headerOffset) 16 =
        RawBlockRequestHeader.codec.encode ⟨raw.requestType.toU32, 0, raw.sector⟩ := by
    rw [ByteStore.read_write_inside (by omega) (by omega), Nat.add_sub_cancel_left]
    exact laid.header
  have statusByte : ByteStore.write memory address.val.toNat buffer
      (address.val.toNat + raw.statusOffset) = raw.status.toU8 := by
    have read : ByteStore.read (ByteStore.write memory address.val.toNat buffer)
        (address.val.toNat + raw.statusOffset) 1 = slice buffer raw.statusOffset 1 := by
      rw [ByteStore.read_write_inside (Nat.le_add_right _ _) (by omega), Nat.add_sub_cancel_left]
      rfl
    rw [laid.status] at read
    simpa [ByteStore.read] using read
  rw [RawBlockRequest.readDescriptors_eq inMap header rfl rfl rfl rfl rfl, statusByte,
    BlockRequestStatus.fromU8_toU8]
  rfl

theorem requestBuffer_inRange : kernelPhysicalMappingStart ≤ (0xFFFF_8000_0010_0000 : UInt64) ∧
    (0xFFFF_8000_0010_0000 : UInt64) ≤ kernelPhysicalMappingEnd := by
  decide

def requestBuffer : KernPhysAddr := ⟨0xFFFF_8000_0010_0000, requestBuffer_inRange⟩

def fourDescriptors : VirtQueueDescriptorTable :=
  ⟨0, ⟨List.replicate 4 RawVirtQueueDescriptor.zero⟩⟩

/-- A read of one sector into the page at `0x10_0000`, through a fresh table of four
descriptors, over zeroed memory. -/
theorem toDescriptorChain_round_trip_read :
    (BlockRequest.read 0 1).Buildable ∧
    (BlockRequest.read 0 1).toRaw = some (.new .in_ 0 512) ∧
    BlockRequest.fromRaw (.new .in_ 0 512) = some (.read 0 1) ∧
    ∃ descs buffer head table',
      (RawBlockRequest.new .in_ 0 512).toDescriptorChain none requestBuffer = some (descs, buffer) ∧
      RawBlockRequest.Laid (.new .in_ 0 512) [] requestBuffer descs buffer ∧
      fourDescriptors.addDescriptor descs = some (head, table') ∧
      RawBlockRequest.fromDescriptorChain (VirtQueueDescriptorChainIterator.next table')
        (ByteStore.write (fun _ => 0) requestBuffer.val.toNat buffer) ⟨some head⟩ =
          some (.new .in_ 0 512) := by
  have buildable : (BlockRequest.read 0 1).Buildable := by decide
  obtain ⟨raw, made, -, back, chain⟩ := toDescriptorChain_round_trip (.read 0 1) buildable
  have same : raw = .new .in_ 0 512 := Option.some.inj (made.symm.trans rfl)
  subst same
  exact ⟨buildable, made, back, chain none requestBuffer 4 fourDescriptors (fun _ => 0)
    (Nat.zero_le _) (by decide) (by decide) (by decide) (by decide) rfl⟩

end RustOs.Virtio
