import RustOs.Ext2.Layout
import RustOs.Lib.FirstFit
import Mathlib.Data.Nat.Bitwise

/-!
# The mounted file system

`FileSystem` of `fs/ext2/file_system.rs` over the block device of `block.rs`, with the bitmaps
of `block_group.rs`. The device is a byte store: `read_blocks` of one block of `block_size`
bytes reads the sectors from byte `addr * block_size`, and `flush` writes the buffer back
there. The superblock and the group descriptors are kept as the views the file system holds;
their own sectors are not part of the model. A panic (an `expect`, an `assert!`, an overflow)
is `none`.
-/

namespace RustOs.Ext2

open Splice

/-- `VIRTIO_BLOCK_SECTOR_SIZE_BYTES`, the device's block size. -/
def sectorSize : Nat := 512

/-- `BlockBuffer`: the bytes read and where `flush` puts them back. -/
structure BlockBuffer where
  start : Nat
  data : List UInt8
  deriving DecidableEq, Repr

/-- `BlockDevice::read_blocks` of one block. -/
def readBlocks (device : Nat → UInt8) (blockSize address : Nat) : BlockBuffer :=
  let deviceStartBlock := address * (blockSize / sectorSize)
  let deviceNumBlocks := (blockSize + sectorSize - 1) / sectorSize
  ⟨deviceStartBlock * sectorSize, ByteStore.read device (deviceStartBlock * sectorSize)
    (deviceNumBlocks * sectorSize)⟩

def BlockBuffer.flush (buf : BlockBuffer) (device : Nat → UInt8) : Nat → UInt8 :=
  ByteStore.write device buf.start buf.data

theorem readBlocks_eq (device : Nat → UInt8) {blockSize : Nat} (h : 512 ∣ blockSize)
    (address : Nat) :
    readBlocks device blockSize address =
      ⟨address * blockSize, ByteStore.read device (address * blockSize) blockSize⟩ := by
  obtain ⟨k, rfl⟩ := h
  have hnum : (512 * k + sectorSize - 1) / sectorSize * sectorSize = 512 * k := by
    simp only [sectorSize]
    omega
  have hstart : address * (512 * k / sectorSize) * sectorSize = address * (512 * k) := by
    simp only [sectorSize]
    rw [Nat.mul_div_cancel_left k (by decide), Nat.mul_assoc, Nat.mul_comm k]
  simp only [readBlocks, hnum, hstart]

/-! ## Bitmaps -/

namespace Bitmap

def mask (bit : Nat) : UInt8 := (1 : UInt8) <<< bit.toUInt8

def isUsed (bytes : List UInt8) (index : Nat) : Option Bool :=
  bytes[index / 8]?.map fun byte => byte &&& mask (index % 8) != 0

def firstFreeBit (byte : UInt8) : Option Nat :=
  (List.range 8).find? fun bit => byte &&& mask bit == 0

/-- `reserve_next_free` from byte `index` on: the first clear bit is set, and its index is
returned with the bytes. -/
def reserveLoop : List UInt8 → Nat → Option (Nat × List UInt8)
  | [], _ => none
  | byte :: bytes, index =>
      match (if byte = 0xFF then none else firstFreeBit byte) with
      | some bit => some (index * 8 + bit, (byte ||| mask bit) :: bytes)
      | none => (reserveLoop bytes (index + 1)).map fun (i, rest) => (i, byte :: rest)

def reserveNextFree (bytes : List UInt8) : Option (Nat × List UInt8) := reserveLoop bytes 0

def setBit (bytes : List UInt8) (i : Nat) : List UInt8 :=
  bytes.set (i / 8) (bytes.getD (i / 8) 0 ||| mask (i % 8))

theorem mask_toNat {bit : Nat} (hb : bit < 8) : (mask bit).toNat = 2 ^ bit := by
  rw [mask, UInt8.toNat_shiftLeft]
  have h : bit.toUInt8.toNat = bit := by simp; omega
  rw [h, Nat.mod_eq_of_lt hb, UInt8.toNat_one, Nat.one_shiftLeft]
  exact Nat.mod_eq_of_lt (Nat.pow_lt_pow_right (by decide) hb)

theorem and_mask_ne_zero (byte : UInt8) {bit : Nat} (hb : bit < 8) :
    (byte &&& mask bit != 0) = byte.toNat.testBit bit := by
  have key : byte &&& mask bit = 0 ↔ byte.toNat.testBit bit = false := by
    rw [← UInt8.toNat_inj, UInt8.toNat_and, mask_toNat hb, UInt8.toNat_zero, Nat.and_comm,
      Nat.two_pow_and]
    cases byte.toNat.testBit bit <;> simp
  by_cases h : byte.toNat.testBit bit <;> simp_all

theorem testBit_or_mask (byte : UInt8) {bit : Nat} (hb : bit < 8) (c : Nat) :
    (byte ||| mask bit).toNat.testBit c = (byte.toNat.testBit c || decide (bit = c)) := by
  rw [UInt8.toNat_or, mask_toNat hb, Nat.testBit_or, Nat.testBit_two_pow]

theorem isUsed_cons (byte : UInt8) (bytes : List UInt8) (j : Nat) :
    isUsed (byte :: bytes) j =
      if j < 8 then some (byte.toNat.testBit j) else isUsed bytes (j - 8) := by
  unfold isUsed
  split
  · rename_i hj
    rw [Nat.div_eq_of_lt hj, Nat.mod_eq_of_lt hj]
    simp [and_mask_ne_zero byte hj]
  · rename_i hj
    have h1 : j / 8 = (j - 8) / 8 + 1 := by omega
    have h2 : j % 8 = (j - 8) % 8 := by omega
    rw [h1, h2]
    rfl

theorem setBit_cons_lt (byte : UInt8) (bytes : List UInt8) {i : Nat} (hi : i < 8) :
    setBit (byte :: bytes) i = (byte ||| mask i) :: bytes := by
  simp [setBit, Nat.div_eq_of_lt hi, Nat.mod_eq_of_lt hi]

theorem setBit_cons_add (byte : UInt8) (bytes : List UInt8) (i : Nat) :
    setBit (byte :: bytes) (8 + i) = byte :: setBit bytes i := by
  have h1 : (8 + i) / 8 = i / 8 + 1 := by omega
  have h2 : (8 + i) % 8 = i % 8 := by omega
  simp [setBit, h1, h2]

theorem length_setBit (bytes : List UInt8) (i : Nat) : (setBit bytes i).length = bytes.length := by
  simp [setBit]

theorem isUsed_setBit : ∀ (bytes : List UInt8) {i : Nat}, i < 8 * bytes.length → ∀ j,
    isUsed (setBit bytes i) j = if j = i then some true else isUsed bytes j
  | [], _, hi, _ => by simp at hi
  | byte :: bytes, i, hi, j => by
      by_cases hi8 : i < 8
      · rw [setBit_cons_lt _ _ hi8, isUsed_cons, isUsed_cons, testBit_or_mask _ hi8]
        by_cases hj : j < 8
        · by_cases hji : j = i
          · subst hji
            simp [hj]
          · simp [hj, hji, Ne.symm hji]
        · simp only [hj, if_false]
          rw [if_neg (by omega)]
      · obtain ⟨i', rfl⟩ : ∃ i', i = 8 + i' := ⟨i - 8, by omega⟩
        rw [setBit_cons_add, isUsed_cons, isUsed_cons,
          isUsed_setBit bytes (by simp at hi; omega) (j - 8)]
        by_cases hj : j < 8
        · simp only [hj, if_true]
          rw [if_neg (by omega)]
        · simp only [hj, if_false]
          by_cases hji : j = 8 + i'
          · simp [hji]
          · rw [if_neg (by omega), if_neg hji]

theorem firstFreeBit_spec {byte : UInt8} {bit : Nat} (h : firstFreeBit byte = some bit) :
    bit < 8 ∧ byte.toNat.testBit bit = false ∧ ∀ c < bit, byte.toNat.testBit c = true := by
  obtain ⟨hbit, i, hi, hget, hbefore⟩ := List.find?_eq_some_iff_getElem.mp h
  simp only [List.getElem_range, List.length_range] at hget hi
  subst hget
  refine ⟨hi, ?_, fun c hc => ?_⟩
  · have := and_mask_ne_zero byte hi
    simp_all
  · rw [← and_mask_ne_zero byte (show c < 8 by omega)]
    simpa using hbefore c hc

theorem firstFreeBit_eq_none {byte : UInt8} (h : firstFreeBit byte = none) :
    ∀ c < 8, byte.toNat.testBit c = true := by
  intro c hc
  rw [← and_mask_ne_zero byte hc]
  simpa using List.find?_eq_none.mp h c (List.mem_range.mpr hc)

theorem testBit_of_skip {byte : UInt8} (h : (if byte = 0xFF then none else firstFreeBit byte) = none) :
    ∀ c < 8, byte.toNat.testBit c = true := by
  split at h
  · rename_i hff
    subst hff
    decide
  · exact firstFreeBit_eq_none h

theorem reserveLoop_spec : ∀ (bytes : List UInt8) (index : Nat) {r : Nat} {bytes' : List UInt8},
    reserveLoop bytes index = some (r, bytes') →
    ∃ i, r = index * 8 + i ∧ i < 8 * bytes.length ∧ isUsed bytes i = some false ∧
      bytes' = setBit bytes i ∧ ∀ j < i, isUsed bytes j = some true
  | [], _, _, _, h => by simp [reserveLoop] at h
  | byte :: bytes, index, r, bytes', h => by
      unfold reserveLoop at h
      split at h
      · rename_i bit hbit
        simp only [Option.some.injEq, Prod.mk.injEq] at h
        obtain ⟨rfl, rfl⟩ := h
        have hfree : firstFreeBit byte = some bit := by
          split at hbit
          · cases hbit
          · exact hbit
        obtain ⟨hb8, hclear, hbefore⟩ := firstFreeBit_spec hfree
        refine ⟨bit, rfl, by simp; omega, ?_, (setBit_cons_lt _ _ hb8).symm, fun j hj => ?_⟩
        · rw [isUsed_cons, if_pos hb8, hclear]
        · rw [isUsed_cons, if_pos (by omega), hbefore j hj]
      · rename_i hskip
        obtain ⟨⟨r', rest⟩, hrest, hr⟩ := Option.map_eq_some_iff.mp h
        simp only [Prod.mk.injEq] at hr
        obtain ⟨rfl, rfl⟩ := hr
        obtain ⟨i, rfl, hi, hclear, rfl, hbefore⟩ := reserveLoop_spec bytes (index + 1) hrest
        have hfull := testBit_of_skip hskip
        refine ⟨8 + i, by omega, by simp; omega, ?_, (setBit_cons_add _ _ _).symm, fun j hj => ?_⟩
        · rw [isUsed_cons, if_neg (by omega), show 8 + i - 8 = i by omega, hclear]
        · rw [isUsed_cons]
          split
          · rename_i hj8
            rw [hfull j hj8]
          · exact hbefore (j - 8) (by omega)

theorem reserveNextFree_spec {bytes bytes' : List UInt8} {i : Nat}
    (h : reserveNextFree bytes = some (i, bytes')) :
    i < 8 * bytes.length ∧ isUsed bytes i = some false ∧ bytes' = setBit bytes i ∧
      ∀ j < i, isUsed bytes j = some true := by
  obtain ⟨i', hi, hspec⟩ := reserveLoop_spec bytes 0 h
  rw [Nat.zero_mul, Nat.zero_add] at hi
  subst hi
  exact hspec

theorem length_of_reserveNextFree {bytes bytes' : List UInt8} {i : Nat}
    (h : reserveNextFree bytes = some (i, bytes')) : bytes'.length = bytes.length := by
  rw [(reserveNextFree_spec h).2.2.1, length_setBit]

theorem reserveLoop_eq_none : ∀ (bytes : List UInt8) (index : Nat),
    reserveLoop bytes index = none → ∀ i < 8 * bytes.length, isUsed bytes i = some true
  | [], _, _ => by simp
  | byte :: bytes, index, h => by
      unfold reserveLoop at h
      split at h
      · cases h
      · rename_i hskip
        have rest := reserveLoop_eq_none bytes (index + 1) (Option.map_eq_none_iff.mp h)
        intro i hi
        rw [isUsed_cons]
        split
        · rename_i hi8
          rw [testBit_of_skip hskip i hi8]
        · exact rest (i - 8) (by simp at hi; omega)

/-! ### The byte shortcut is a bit-by-bit first fit -/

/-- A bit is taken unless `is_used` says it is free: past the end there is nothing to take. -/
def usedBit (bytes : List UInt8) (i : Nat) : Bool := (isUsed bytes i).getD true

/-- The plain scan: the first index, bit by bit in the order `is_used` reads them, that is
free. -/
def firstFit (bytes : List UInt8) : Option Nat :=
  (List.range (8 * bytes.length)).find? fun i => isUsed bytes i == some false

theorem usedBit_eq_false_iff {bytes : List UInt8} {i : Nat} (hi : i < 8 * bytes.length) :
    usedBit bytes i = false ↔ isUsed bytes i = some false := by
  have inside : i / 8 < bytes.length := by omega
  unfold usedBit isUsed
  rw [List.getElem?_eq_getElem inside]
  simp

open FirstFit in
theorem freeRun_one_usedBit {bytes : List UInt8} {s : Nat} (hs : s + 1 ≤ 8 * bytes.length) :
    FreeRun (usedBit bytes) 1 s ↔ isUsed bytes s = some false :=
  freeRun_one_iff.trans (usedBit_eq_false_iff hs)

open FirstFit in
theorem firstFit_fitResult (bytes : List UInt8) :
    FitResult (usedBit bytes) 1 0 (8 * bytes.length) (firstFit bytes) := by
  cases h : firstFit bytes with
  | none =>
      have used := List.find?_range_eq_none.mp h
      intro s _ hs hrun
      simpa [(freeRun_one_usedBit hs).mp hrun] using used s (by omega)
  | some i =>
      obtain ⟨free, mem, before⟩ := List.find?_range_eq_some.mp h
      have hi := List.mem_range.mp mem
      refine ⟨Nat.zero_le i, hi, (freeRun_one_usedBit hi).mpr (by simpa using free),
        fun t _ ht hrun => ?_⟩
      simpa [(freeRun_one_usedBit (by omega)).mp hrun] using before t ht

open FirstFit in
theorem reserveNextFree_fitResult (bytes : List UInt8) :
    FitResult (usedBit bytes) 1 0 (8 * bytes.length) ((reserveNextFree bytes).map Prod.fst) := by
  cases h : reserveNextFree bytes with
  | none =>
      have full := reserveLoop_eq_none bytes 0 h
      intro s _ hs hrun
      have free := (freeRun_one_usedBit hs).mp hrun
      rw [full s (by omega)] at free
      cases free
  | some r =>
      obtain ⟨i, bytes'⟩ := r
      obtain ⟨hi, free, -, before⟩ := reserveNextFree_spec h
      refine ⟨Nat.zero_le i, hi, (freeRun_one_usedBit hi).mpr free, fun t _ ht hrun => ?_⟩
      have freeT := (freeRun_one_usedBit (by omega)).mp hrun
      rw [before t ht] at freeT
      cases freeT

theorem reserveNextFree_eq_firstFit (bytes : List UInt8) :
    reserveNextFree bytes = (firstFit bytes).map fun i => (i, setBit bytes i) := by
  have same := FirstFit.fitResult_unique (reserveNextFree_fitResult bytes) (firstFit_fitResult bytes)
  cases h : reserveNextFree bytes with
  | none =>
      rw [h] at same
      rw [← same]
      rfl
  | some r =>
      obtain ⟨i, bytes'⟩ := r
      rw [h] at same
      rw [← same, (reserveNextFree_spec h).2.2.1]
      rfl

theorem reserveNextFree_eq_none_iff (bytes : List UInt8) :
    reserveNextFree bytes = none ↔ ∀ i < 8 * bytes.length, isUsed bytes i = some true := by
  constructor
  · exact reserveLoop_eq_none bytes 0
  · intro full
    cases h : reserveNextFree bytes with
    | none => rfl
    | some r =>
        obtain ⟨hi, free, -, -⟩ := reserveNextFree_spec h
        rw [full r.1 hi] at free
        cases free

/-- `reserve_next_free` takes the first free bit, as a bit-by-bit scan in the order of `is_used`
would, sets it and nothing else, and finds none exactly when every bit is set. -/
theorem reserveNextFree_first_fit (bytes : List UInt8) :
    reserveNextFree bytes = (firstFit bytes).map (fun i => (i, setBit bytes i)) ∧
    (∀ i bytes', reserveNextFree bytes = some (i, bytes') →
      isUsed bytes i = some false ∧ (∀ j < i, isUsed bytes j ≠ some false) ∧
      isUsed bytes' i = some true ∧ ∀ j, j ≠ i → isUsed bytes' j = isUsed bytes j) ∧
    (reserveNextFree bytes = none ↔ ∀ i < 8 * bytes.length, isUsed bytes i = some true) := by
  refine ⟨reserveNextFree_eq_firstFit bytes, fun i bytes' h => ?_, reserveNextFree_eq_none_iff bytes⟩
  obtain ⟨hi, free, rfl, before⟩ := reserveNextFree_spec h
  refine ⟨free, fun j hj => by simp [before j hj], ?_, fun j hj => ?_⟩
  · rw [isUsed_setBit bytes hi i, if_pos rfl]
  · rw [isUsed_setBit bytes hi j, if_neg hj]

/-- In `[0xFF, 0x0B]` the first free bit is bit 2 of byte 1, index 10. -/
theorem reserveNextFree_first_fit_sample :
    reserveNextFree [0xFF, 0x0B] = some (10, [0xFF, 0x0F]) ∧ isUsed [0xFF, 0x0B] 10 = some false ∧
      isUsed [0xFF, 0x0F] 10 = some true :=
  have taken := (reserveNextFree_first_fit [0xFF, 0x0B]).2.1 10 [0xFF, 0x0F] (by decide)
  ⟨by decide, taken.1, taken.2.2.1⟩

end Bitmap

/-- `FileSystem<D>`: a mounted ext2 file system. `FileSystem::read` has divided by the block
size, so it is not zero. -/
structure FileSystem where
  superblock : Superblock
  blockGroupDescriptors : List BlockGroupDescriptor
  device : Nat → UInt8
  blockSize_pos : 0 < superblock.blockSize

def sampleSuperblock : Superblock := ⟨32, 64, 50, 20, 1, 0, 64, 32, 1, 128⟩

theorem sampleRoot_firstBlock_lt : 0 < 12 := by decide

def sampleRoot : Inode :=
  ⟨0x41ED, 0, 1024, 0, 0, 0, 0, 0, 2, 2, 0, 0,
    (Vector.replicate 12 0).set 0 20 sampleRoot_firstBlock_lt, 0, 0, 0, 0, 0, 0, 0,
    Vector.replicate 12 0⟩

def sampleDevice : Nat → UInt8 :=
  ByteStore.write (ByteStore.write (ByteStore.write (ByteStore.write (fun _ => 0)
    (3 * 1024) [0xFF, 0x03]) (4 * 1024) [0x03]) (5 * 1024 + 128) (Inode.codec.encode sampleRoot))
    (20 * 1024) [2, 0, 0, 0, 0x00, 0x04, 1, 2, 46]

theorem sampleSuperblock_blockSize_pos : 0 < sampleSuperblock.blockSize := by decide

def sample : FileSystem :=
  ⟨sampleSuperblock, [⟨3, 4, 5, 40, 20⟩], sampleDevice, sampleSuperblock_blockSize_pos⟩

namespace FileSystem

variable (fs : FileSystem)

def blockSize : Nat := fs.superblock.blockSize

theorem zero_lt_blockSize : 0 < fs.blockSize := fs.blockSize_pos

def withDevice (device : Nat → UInt8) : FileSystem := { fs with device }

def read (address : Nat) : BlockBuffer := readBlocks fs.device fs.blockSize address

theorem read_eq (address : Nat) :
    fs.read address = ⟨address * fs.blockSize,
      ByteStore.read fs.device (address * fs.blockSize) fs.blockSize⟩ :=
  readBlocks_eq _ fs.superblock.blockSize_dvd address

@[simp] theorem read_start (address : Nat) : (fs.read address).start = address * fs.blockSize := by
  rw [read_eq]

@[simp] theorem length_read_data (address : Nat) : (fs.read address).data.length = fs.blockSize := by
  rw [read_eq, ByteStore.length_read]

@[simp] theorem blockSize_withDevice (device : Nat → UInt8) :
    (fs.withDevice device).blockSize = fs.blockSize := rfl

@[simp] theorem superblock_withDevice (device : Nat → UInt8) :
    (fs.withDevice device).superblock = fs.superblock := rfl

@[simp] theorem blockGroupDescriptors_withDevice (device : Nat → UInt8) :
    (fs.withDevice device).blockGroupDescriptors = fs.blockGroupDescriptors := rfl

@[simp] theorem device_withDevice (device : Nat → UInt8) : (fs.withDevice device).device = device :=
  rfl

theorem flush_read (address : Nat) (data : List UInt8) (device : Nat → UInt8) :
    ({ fs.read address with data } : BlockBuffer).flush device =
      ByteStore.write device (address * fs.blockSize) data := by
  simp [BlockBuffer.flush]

theorem block_disjoint {a b : Nat} (hab : a ≠ b) :
    b * fs.blockSize + fs.blockSize ≤ a * fs.blockSize ∨
      a * fs.blockSize + fs.blockSize ≤ b * fs.blockSize := by
  rcases Nat.lt_or_gt_of_ne hab with h | h
  · right
    have := Nat.mul_le_mul_right fs.blockSize (show a + 1 ≤ b by omega)
    rwa [Nat.add_mul, Nat.one_mul] at this
  · left
    have := Nat.mul_le_mul_right fs.blockSize (show b + 1 ≤ a by omega)
    rwa [Nat.add_mul, Nat.one_mul] at this

theorem write_block_apply_of_ne (device : Nat → UInt8) {b a : Nat} {data : List UInt8}
    (h : data.length = fs.blockSize) (other : a / fs.blockSize ≠ b) :
    ByteStore.write device (b * fs.blockSize) data a = device a := by
  rcases Nat.lt_or_gt_of_ne other with lt | gt
  · exact ByteStore.write_apply_of_lt ((Nat.div_lt_iff_lt_mul fs.blockSize_pos).mp lt)
  · have above : (b + 1) * fs.blockSize ≤ a := (Nat.le_div_iff_mul_le fs.blockSize_pos).mp gt
    rw [Nat.add_mul, Nat.one_mul] at above
    exact ByteStore.write_apply_of_le (by rw [h]; exact above)

/-- The file system with block `address` written back whole with `data`, as `flush` of a block
read from there does. -/
def putBlock (address : Nat) (data : List UInt8) : FileSystem :=
  fs.withDevice (ByteStore.write fs.device (address * fs.blockSize) data)

@[simp] theorem superblock_putBlock (address : Nat) (data : List UInt8) :
    (fs.putBlock address data).superblock = fs.superblock := rfl

@[simp] theorem blockGroupDescriptors_putBlock (address : Nat) (data : List UInt8) :
    (fs.putBlock address data).blockGroupDescriptors = fs.blockGroupDescriptors := rfl

@[simp] theorem blockSize_putBlock (address : Nat) (data : List UInt8) :
    (fs.putBlock address data).blockSize = fs.blockSize := rfl

theorem device_putBlock (address : Nat) (data : List UInt8) :
    (fs.putBlock address data).device = ByteStore.write fs.device (address * fs.blockSize) data := rfl

theorem withDevice_flush_read (address : Nat) (data : List UInt8) :
    fs.withDevice (({ fs.read address with data } : BlockBuffer).flush fs.device) =
      fs.putBlock address data := by
  rw [flush_read]
  rfl

theorem read_putBlock_self {address : Nat} {data : List UInt8} (h : data.length = fs.blockSize) :
    (fs.putBlock address data).read address = ⟨address * fs.blockSize, data⟩ := by
  rw [read_eq]
  simp only [blockSize_putBlock, device_putBlock, ← h, ByteStore.read_write_self]

theorem read_putBlock_of_ne {a b : Nat} {data : List UInt8} (h : data.length = fs.blockSize)
    (hab : a ≠ b) : (fs.putBlock a data).read b = fs.read b := by
  rw [read_eq, read_eq]
  simp only [blockSize_putBlock, device_putBlock]
  rw [ByteStore.read_write_of_disjoint (by rw [h]; exact fs.block_disjoint hab)]

theorem length_of_reserve_read {address i : Nat} {bits : List UInt8}
    (reserved : Bitmap.reserveNextFree (fs.read address).data = some (i, bits)) :
    bits.length = fs.blockSize := by
  rw [Bitmap.length_of_reserveNextFree reserved, length_read_data]

/-- `BlockGroupDescriptorBlocks::get`. -/
def descriptor (index : Nat) : Option BlockGroupDescriptor := fs.blockGroupDescriptors[index]?

@[simp] theorem descriptor_withDevice (device : Nat → UInt8) :
    (fs.withDevice device).descriptor = fs.descriptor := rfl

@[simp] theorem descriptor_putBlock (address : Nat) (data : List UInt8) :
    (fs.putBlock address data).descriptor = fs.descriptor := rfl

def inodeBitmapBlock (d : BlockGroupDescriptor) : BlockBuffer := fs.read d.inodeBitmap.toNat

def blockBitmapBlock (d : BlockGroupDescriptor) : BlockBuffer := fs.read d.blockBitmap.toNat

theorem withDevice_flush_inodeBitmapBlock (d : BlockGroupDescriptor) (data : List UInt8) :
    fs.withDevice (({ fs.inodeBitmapBlock d with data } : BlockBuffer).flush fs.device) =
      fs.putBlock d.inodeBitmap.toNat data :=
  fs.withDevice_flush_read _ data

theorem withDevice_flush_blockBitmapBlock (d : BlockGroupDescriptor) (data : List UInt8) :
    fs.withDevice (({ fs.blockBitmapBlock d with data } : BlockBuffer).flush fs.device) =
      fs.putBlock d.blockBitmap.toNat data :=
  fs.withDevice_flush_read _ data

/-- `inode_block`: the block of the inode table with the inode, and its offset there. -/
def inodeBlock (d : BlockGroupDescriptor) (localInodeIndex : Nat) : Option (BlockBuffer × Nat) :=
  (fs.superblock.inodeBlockAndOffset d.inodeTable localInodeIndex).map fun (block, offset) =>
    (fs.read block, offset)

/-- `read_inode`: `some none` for an inode of no group or not marked used. -/
def readInode (inodeNumber : UInt32) : Option (Option Inode) := do
  let (blockGroupIndex, localInodeIndex) ← fs.superblock.inodeLocation inodeNumber
  match fs.descriptor blockGroupIndex with
  | none => some none
  | some d =>
      match Bitmap.isUsed (fs.inodeBitmapBlock d).data localInodeIndex with
      | some true =>
          let (inodes, inodeOffset) ← fs.inodeBlock d localInodeIndex
          let inode ← Inode.codec.getAt inodes.data inodeOffset
          some (some inode)
      | _ => some none

/-- `write_inode`, which asserts that the inode is marked used. -/
def writeInode (inode : Inode) (inodeNumber : UInt32) : Option FileSystem := do
  let (blockGroupIndex, localInodeIndex) ← fs.superblock.inodeLocation inodeNumber
  let d ← fs.descriptor blockGroupIndex
  let inodeUsed ← Bitmap.isUsed (fs.inodeBitmapBlock d).data localInodeIndex
  if inodeUsed then
    let (inodes, inodeOffset) ← fs.inodeBlock d localInodeIndex
    let data ← Inode.codec.setAt inodes.data inodeOffset inode
    some (fs.withDevice ({ inodes with data }.flush fs.device))
  else none

/-- `read_inode_block`: a direct block, or else the entry `block_size / 8 - 12` of the singly
indirect block, whatever the index. -/
def readInodeBlock (inode : Inode) (index : Nat) : Option BlockBuffer :=
  match inode.directBlocks[index]? with
  | some blockAddr => some (fs.read blockAddr.toNat)
  | none =>
      -- `block_size / size_of::<BlockIndex>()`, a `u64` of 8 bytes
      let blockIndexesPerIndirect := fs.blockSize / 8
      if blockIndexesPerIndirect < 12 then none
      else
        let indirectBlockIndex := blockIndexesPerIndirect - 12
        if indirectBlockIndex < blockIndexesPerIndirect ∧ 0 < inode.singlyIndirectBlock then do
          let indirectBlock := fs.read inode.singlyIndirectBlock.toNat
          let blockAddr ← Codec.u32.getAt indirectBlock.data indirectBlockIndex
          some (fs.read blockAddr.toNat)
        else none

theorem readInodeBlock_of_direct (inode : Inode) {index : Nat} (direct : index < 12) :
    fs.readInodeBlock inode index = some (fs.read (inode.directBlock index).toNat) := by
  rw [readInodeBlock, inode.getElem?_directBlocks direct]

theorem readInodeBlock_of_indirect (inode : Inode) {index : Nat} (h : 12 ≤ index) :
    fs.readInodeBlock inode index =
      if 12 ≤ fs.blockSize / 8 ∧ 0 < inode.singlyIndirectBlock then
        (Codec.u32.getAt (fs.read inode.singlyIndirectBlock.toNat).data (fs.blockSize / 8 - 12)).map
          fun blockAddr => fs.read blockAddr.toNat
      else none := by
  unfold readInodeBlock
  rw [Vector.getElem?_eq_none h]
  by_cases hsize : fs.blockSize / 8 < 12
  · simp only [hsize, if_true]
    rw [if_neg (by omega)]
  · simp only [hsize, if_false]
    have hidx : fs.blockSize / 8 - 12 < fs.blockSize / 8 := by omega
    simp only [hidx, true_and]
    split
    · rename_i hind
      rw [if_pos ⟨by omega, hind⟩]
      cases Codec.u32.getAt (fs.read inode.singlyIndirectBlock.toNat).data (fs.blockSize / 8 - 12) <;>
        rfl
    · rename_i hind
      rw [if_neg (fun h => hind h.2)]

def indirectEntry (inode : Inode) (k : Nat) : UInt32 :=
  (Codec.u32.getAt (fs.read inode.singlyIndirectBlock.toNat).data (4 * k)).getD 0

/-- Every index past the direct blocks reads one and the same block: the block that entry
`block_size / 32 - 3` of the singly indirect block names, whatever the index, where entry
`index - 12` is the block of that index. With no indirect block the assertion panics. -/
theorem readInodeBlock_indirect_entry (inode : Inode) {index : Nat} (past : 12 ≤ index) :
    fs.readInodeBlock inode index =
      if 0 < inode.singlyIndirectBlock then
        some (fs.read (fs.indirectEntry inode (fs.blockSize / 32 - 3)).toNat)
      else none := by
  have large : 1024 ≤ fs.blockSize := fs.superblock.le_blockSize fs.blockSize_pos
  obtain ⟨k, sectors⟩ := fs.superblock.blockSize_dvd
  have sectors : fs.blockSize = 512 * k := sectors
  -- the byte offset `block_size / 8 - 12` that `get` takes is entry `block_size / 32 - 3`
  have offset : fs.blockSize / 8 - 12 = 4 * (fs.blockSize / 32 - 3) := by omega
  rw [readInodeBlock_of_indirect fs inode past, if_congr (and_iff_right (by omega)) rfl rfl]
  split
  · have fits : 4 * (fs.blockSize / 32 - 3) + Codec.u32.size ≤
        (fs.read inode.singlyIndirectBlock.toNat).data.length := by
      rw [length_read_data]
      change 4 * (fs.blockSize / 32 - 3) + 4 ≤ fs.blockSize
      omega
    obtain ⟨entry, found⟩ := Option.isSome_iff_exists.mp (Codec.u32.getAt_isSome_iff.mpr fits)
    rw [offset, found, Option.map_some, indirectEntry, found, Option.getD_some]
  · rfl

def sampleIndirectInode : Inode := { sampleRoot with singlyIndirectBlock := 21 }

def sampleIndirect : FileSystem :=
  sample.withDevice
    (ByteStore.write (ByteStore.write sample.device (21 * 1024) [22, 0, 0, 0]) (21 * 1024 + 116)
      [23, 0, 0, 0])

theorem readInodeBlock_indirect_entry_sample :
    12 ≤ 12 ∧ sampleIndirect.indirectEntry sampleIndirectInode 0 = 22 ∧
      sampleIndirect.indirectEntry sampleIndirectInode 29 = 23 ∧
      sampleIndirect.readInodeBlock sampleIndirectInode 12 = some (sampleIndirect.read 23) := by
  have reads := readInodeBlock_indirect_entry sampleIndirect sampleIndirectInode (le_refl 12)
  have entry : sampleIndirect.indirectEntry sampleIndirectInode (sampleIndirect.blockSize / 32 - 3) =
      23 := by decide +kernel
  refine ⟨le_refl 12, by decide +kernel, by decide +kernel, ?_⟩
  rw [reads, if_pos (by decide), entry]
  rfl

/-- The `for` loop of `iter_file_blocks`: each block is read from the device as it is when its
turn comes, and `func` may write the device. -/
def iterFileBlocksLoop {σ : Type}
    (func : σ → (Nat → UInt8) → Nat → BlockBuffer → Option (Bool × σ × (Nat → UInt8))) :
    Nat → InodeBlockIterator → σ → (Nat → UInt8) → Option (σ × (Nat → UInt8))
  | 0, _, _, _ => none
  | fuel + 1, it, s, device => do
      match ← it.next with
      | none => some (s, device)
      | some ((offset, blockAddr), it) =>
          let blockBuf := readBlocks device fs.blockSize blockAddr.toNat
          let (goOn, s, device) ← func s device offset blockBuf
          if goOn then iterFileBlocksLoop func fuel it s device else some (s, device)

/-- `iter_file_blocks` with a closure of state `σ`; at most 12 blocks come before the end or
the `todo!`. -/
def iterFileBlocks {σ : Type} (inode : Inode)
    (func : σ → (Nat → UInt8) → Nat → BlockBuffer → Option (Bool × σ × (Nat → UInt8))) (s : σ) :
    Option (σ × FileSystem) :=
  (fs.iterFileBlocksLoop func 13 (fs.superblock.iterInodeBlocks inode) s fs.device).map
    fun (s, device) => (s, fs.withDevice device)

@[simp] theorem withDevice_self : fs.withDevice fs.device = fs := rfl

@[simp] theorem withDevice_withDevice (device device' : Nat → UInt8) :
    (fs.withDevice device).withDevice device' = fs.withDevice device' := rfl

section Invariant

variable {σ : Type} {func : σ → (Nat → UInt8) → Nat → BlockBuffer → Option (Bool × σ × (Nat → UInt8))}
  (keeps : σ → (Nat → UInt8) → Prop)

theorem iterFileBlocksLoop_invariant
    (step : ∀ s device offset buf goOn s' device', keeps s device →
      func s device offset buf = some (goOn, s', device') → keeps s' device') :
    ∀ {fuel it s device s' device'}, keeps s device →
      fs.iterFileBlocksLoop func fuel it s device = some (s', device') → keeps s' device'
  | 0, _, _, _, _, _, _, returned => by simp [iterFileBlocksLoop] at returned
  | fuel + 1, it, s, device, s', device', holds, returned => by
      simp only [iterFileBlocksLoop, bind, Option.bind_eq_some_iff] at returned
      obtain ⟨next, -, rest⟩ := returned
      cases next with
      | none =>
          simp only [Option.some.injEq, Prod.mk.injEq] at rest
          obtain ⟨rfl, rfl⟩ := rest
          exact holds
      | some item =>
          obtain ⟨⟨offset, blockAddr⟩, it'⟩ := item
          simp only [Option.bind_eq_some_iff] at rest
          obtain ⟨⟨goOn, s₁, device₁⟩, called, rest⟩ := rest
          have kept := step s device offset _ goOn s₁ device₁ holds called
          cases goOn with
          | true => exact iterFileBlocksLoop_invariant step kept rest
          | false =>
              simp only [Bool.false_eq_true, if_false, Option.some.injEq, Prod.mk.injEq] at rest
              obtain ⟨rfl, rfl⟩ := rest
              exact kept

theorem iterFileBlocks_invariant {inode : Inode} {s s' : σ} {fs' : FileSystem}
    (step : ∀ s device offset buf goOn s' device', keeps s device →
      func s device offset buf = some (goOn, s', device') → keeps s' device')
    (holds : keeps s fs.device) (returned : fs.iterFileBlocks inode func s = some (s', fs')) :
    keeps s' fs'.device ∧ fs' = fs.withDevice fs'.device := by
  obtain ⟨⟨s₁, device⟩, loop, result⟩ := Option.map_eq_some_iff.mp returned
  simp only [Prod.mk.injEq] at result
  obtain ⟨rfl, rfl⟩ := result
  exact ⟨iterFileBlocksLoop_invariant fs keeps step holds loop, rfl⟩

end Invariant

end FileSystem

end RustOs.Ext2
