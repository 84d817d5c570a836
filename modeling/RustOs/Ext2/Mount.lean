import RustOs.Ext2.FileSystem

/-!
# Reading the block group descriptors

The part of `FileSystem::read` in `fs/ext2/file_system.rs` that reads the block group descriptor
table: after the superblock's magic is checked, it reads
`num_block_groups.div_ceil(block_size)` blocks from the block after `first_data_block`, and
`BlockGroupDescriptorBlocks::new` asserts that they hold a 32-byte descriptor for each group.
`get` then finds descriptor `i` at byte `32 * i`.

The count divides the number of groups by the block size in bytes, not by the number of
descriptors in a block, so the assertion fails as soon as there are more groups than fit in
the blocks read (`readDescriptorBlocks_eq_none_iff`). Before that, `block_size` shifts a `u16`:
it panics from a shift of 16, and from a shift of 6 its zero makes `div_ceil` panic.
-/

namespace RustOs.Ext2

open Splice

/-- `BlockDevice::read_blocks` of `numBlocks` blocks from block `start`. -/
def readBlocksN (device : Nat → UInt8) (blockSize start numBlocks : Nat) : BlockBuffer :=
  let deviceStartBlock := start * (blockSize / sectorSize)
  let deviceNumBlocks := numBlocks * ((blockSize + sectorSize - 1) / sectorSize)
  ⟨deviceStartBlock * sectorSize,
    ByteStore.read device (deviceStartBlock * sectorSize) (deviceNumBlocks * sectorSize)⟩

theorem readBlocks_eq_readBlocksN (device : Nat → UInt8) (blockSize address : Nat) :
    readBlocks device blockSize address = readBlocksN device blockSize address 1 := by
  simp only [readBlocks, readBlocksN, Nat.one_mul]

theorem length_readBlocksN (device : Nat → UInt8) {blockSize : Nat} (h : 512 ∣ blockSize)
    (start numBlocks : Nat) :
    (readBlocksN device blockSize start numBlocks).data.length = numBlocks * blockSize := by
  obtain ⟨k, rfl⟩ := h
  have sectors : (512 * k + sectorSize - 1) / sectorSize = k := by
    simp only [sectorSize]
    omega
  simp only [readBlocksN, ByteStore.length_read, sectors]
  rw [sectorSize, Nat.mul_assoc, Nat.mul_comm k 512]

namespace Superblock

/-- `Superblock::MAGIC`. -/
def magic : UInt16 := 0xEF53

/-- `num_block_groups`: `blocks_count.div_ceil(blocks_per_group)`, which panics on a zero
`blocks_per_group`. -/
def numBlockGroups (sb : Superblock) : Option Nat :=
  if sb.blocksPerGroup.toNat = 0 then none
  else some ((sb.blocksCount.toNat + sb.blocksPerGroup.toNat - 1) / sb.blocksPerGroup.toNat)

def blockDescriptorTableStartBlock (sb : Superblock) : Nat := sb.firstDataBlock.toNat + 1

end Superblock

/-- `BlockGroupDescriptorBlocks`: the blocks of the table and the number of groups. -/
structure BlockGroupDescriptorBlocks where
  descriptors : BlockBuffer
  numBlockGroups : Nat
  deriving DecidableEq, Repr

namespace BlockGroupDescriptorBlocks

/-- `new`, which asserts that the blocks hold a descriptor of 32 bytes for each group. -/
def new (blocks : BlockBuffer) (numBlockGroups : Nat) : Option BlockGroupDescriptorBlocks :=
  if numBlockGroups * 32 ≤ blocks.data.length then some ⟨blocks, numBlockGroups⟩ else none

variable (self : BlockGroupDescriptorBlocks)

def offset (index : UInt32) : Option Nat :=
  if self.numBlockGroups ≤ index.toNat then none else some (index.toNat * 32)

/-- `get`: the 32 bytes of the descriptor, which `try_cast_bytes_ref_offset` finds only when they
lie in the buffer. -/
def get (index : UInt32) : Option (List UInt8) := do
  let offset ← self.offset index
  if offset + 32 ≤ self.descriptors.data.length then some (slice self.descriptors.data offset 32)
  else none

theorem get_of_lt {blocks : BlockBuffer} {numBlockGroups : Nat} {d : BlockGroupDescriptorBlocks}
    (made : new blocks numBlockGroups = some d) (index : UInt32)
    (lt : index.toNat < numBlockGroups) :
    d.get index = some (slice blocks.data (index.toNat * 32) 32) := by
  unfold new at made
  split at made
  · rename_i room
    cases made
    have fits : index.toNat * 32 + 32 ≤ blocks.data.length := by
      have := Nat.mul_le_mul_right 32 lt
      omega
    simp only [get, offset, if_neg (Nat.not_le.mpr lt), bind, Option.bind_some, if_pos fits]
  · cases made

end BlockGroupDescriptorBlocks

namespace FileSystem

/-- `FileSystem::read` from the superblock it read, as far as `BlockGroupDescriptorBlocks::new`:
`some none` for a bad magic; `block_size` panics on a shift of 16 or more, and the division of
`div_ceil` on a zero block size. -/
def readDescriptorBlocks (device : Nat → UInt8) (sb : Superblock) (magic : UInt16) :
    Option (Option BlockGroupDescriptorBlocks) := do
  if magic ≠ Superblock.magic then some none
  else
    let blockSize ← sb.blockSize?
    let numBlockGroups ← sb.numBlockGroups
    if blockSize = 0 then none
    else
      let numDescriptorBlocks := (numBlockGroups + blockSize - 1) / blockSize
      let blocks := readBlocksN device blockSize sb.blockDescriptorTableStartBlock
        numDescriptorBlocks
      (BlockGroupDescriptorBlocks.new blocks numBlockGroups).map some

theorem readDescriptorBlocks_of_zero (device : Nat → UInt8) {sb : Superblock}
    (zero : sb.blockSize = 0) {numBlockGroups : Nat} (counted : sb.numBlockGroups = some numBlockGroups) :
    readDescriptorBlocks device sb Superblock.magic = none := by
  cases returned : sb.blockSize? with
  | none => simp [readDescriptorBlocks, returned]
  | some size =>
      have sizeZero : size = 0 := by simpa [Superblock.blockSize, returned] using zero
      subst sizeZero
      simp [readDescriptorBlocks, returned, counted]

/-- With a valid magic, reading the descriptor table panics exactly when `block_size` panics or
gives zero, from a shift of 6 on, or when the `ceil(groups / block_size)` blocks it reads have
less room than 32 bytes for each group; when it returns, each group below the count has its
descriptor at `32 * i` in the blocks read. -/
theorem readDescriptorBlocks_eq_none_iff (device : Nat → UInt8) (sb : Superblock)
    {numBlockGroups : Nat} (counted : sb.numBlockGroups = some numBlockGroups) :
    (readDescriptorBlocks device sb Superblock.magic = none ↔
      6 ≤ sb.logBlockSize.toNat ∨
        (numBlockGroups + sb.blockSize - 1) / sb.blockSize * sb.blockSize < numBlockGroups * 32) ∧
    ∀ d, readDescriptorBlocks device sb Superblock.magic = some (some d) →
      ∀ index : UInt32, index.toNat < numBlockGroups → d.get index =
        some (slice (readBlocksN device sb.blockSize sb.blockDescriptorTableStartBlock
          ((numBlockGroups + sb.blockSize - 1) / sb.blockSize)).data (index.toNat * 32) 32) := by
  by_cases zero : sb.blockSize = 0
  · -- `block_size` panics, or the `u16` shift lost every bit and `div_ceil` divides by zero
    have panics := readDescriptorBlocks_of_zero device zero counted
    refine ⟨iff_of_true panics (Or.inl (sb.blockSize_eq_zero_iff.mp zero)), ?_⟩
    intro d returned
    rw [panics] at returned
    cases returned
  have pos : 0 < sb.blockSize := Nat.pos_of_ne_zero zero
  have small : ¬6 ≤ sb.logBlockSize.toNat := fun large => zero (sb.blockSize_eq_zero_iff.mpr large)
  have length := length_readBlocksN device sb.blockSize_dvd sb.blockDescriptorTableStartBlock
    ((numBlockGroups + sb.blockSize - 1) / sb.blockSize)
  have read : readDescriptorBlocks device sb Superblock.magic =
      (BlockGroupDescriptorBlocks.new (readBlocksN device sb.blockSize
        sb.blockDescriptorTableStartBlock ((numBlockGroups + sb.blockSize - 1) / sb.blockSize))
        numBlockGroups).map some := by
    simp only [readDescriptorBlocks, ne_eq, not_true_eq_false, if_false, counted, bind,
      Superblock.blockSize?_of_pos pos, Option.bind_some, if_neg zero]
  refine ⟨?_, fun d returned index lt => ?_⟩
  · rw [read, Option.map_eq_none_iff, BlockGroupDescriptorBlocks.new, length]
    split
    · rename_i room
      exact iff_of_false (by simp) (by omega)
    · rename_i short
      exact iff_of_true rfl (Or.inr (by omega))
  · rw [read] at returned
    obtain ⟨d', made, same⟩ := Option.map_eq_some_iff.mp returned
    cases same
    exact BlockGroupDescriptorBlocks.get_of_lt made index lt

/-- 1 KiB blocks in 33 groups of 8192 blocks: one descriptor block is read, with room for 32
descriptors, and the assertion fails. -/
theorem readDescriptorBlocks_33_groups :
    (⟨67584, 270336, 0, 0, 1, 0, 8192, 2048, 1, 128⟩ : Superblock).numBlockGroups = some 33 ∧
      readDescriptorBlocks (fun _ => 0) ⟨67584, 270336, 0, 0, 1, 0, 8192, 2048, 1, 128⟩
        Superblock.magic = none :=
  ⟨by decide,
    ((@readDescriptorBlocks_eq_none_iff (fun _ => 0)
      ⟨67584, 270336, 0, 0, 1, 0, 8192, 2048, 1, 128⟩ 33 (by decide)).1).mpr
      (Or.inr (by decide))⟩

-- a shift of 16: `block_size` panics before anything is read
example : readDescriptorBlocks (fun _ => 0) ⟨8192, 8192, 0, 0, 0, 16, 8192, 2048, 1, 128⟩
    Superblock.magic = none := by decide

end FileSystem

end RustOs.Ext2
