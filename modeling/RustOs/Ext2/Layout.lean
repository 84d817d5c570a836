import Mathlib.Data.Nat.Bitwise
import RustOs.Lib.Bytes

/-!
# ext2 on-disk structures

`fs/ext2/superblock.rs`, `inode.rs` and `block_group.rs`: the fields of the superblock and of
a block group descriptor that the file system reads, the 128-byte inode with its layout, and
the superblock's arithmetic from an inode number to its group, its table block and its offset
there. Numbers keep the source's widths where an overflow or a wrap shows: the `u32` of an
inode number, the `u16` of `BlockSize`. A computation that panics in the source (`n - 1` at
inode 0, a division by a zero `inodes_per_group`) returns `none`.
-/

namespace RustOs.Ext2

/-- `Superblock`, the fields that the modelled functions read or write. -/
structure Superblock where
  inodesCount : UInt32
  blocksCount : UInt32
  freeBlocksCount : UInt32
  freeInodesCount : UInt32
  firstDataBlock : UInt32
  logBlockSize : UInt32
  blocksPerGroup : UInt32
  inodesPerGroup : UInt32
  revLevel : UInt32
  /-- The field `inode_size` (`s_inode_size`), apart from the method `inode_size`. -/
  sInodeSize : UInt16
  deriving DecidableEq, Repr

/-- `BlockGroupDescriptor`, without `used_dirs_count` and the padding. -/
structure BlockGroupDescriptor where
  blockBitmap : UInt32
  inodeBitmap : UInt32
  inodeTable : UInt32
  freeBlocksCount : UInt16
  freeInodesCount : UInt16
  deriving DecidableEq, Repr

/-- The inode of `inode.rs`, all of its fields in their order on disk. `direct_blocks` is
`InodeDirectBlocks([BlockAddress; 12])`. -/
structure Inode where
  mode : UInt16
  uid : UInt16
  sizeLow : UInt32
  atime : UInt32
  ctime : UInt32
  mtime : UInt32
  dtime : UInt32
  gid : UInt16
  linksCount : UInt16
  blocks : UInt32
  flags : UInt32
  osd1 : UInt32
  directBlocks : Vector UInt32 12
  singlyIndirectBlock : UInt32
  doublyIndirectBlock : UInt32
  triplyIndirectBlock : UInt32
  generation : UInt32
  fileAcl : UInt32
  sizeHigh : UInt32
  faddr : UInt32
  osd2 : Vector UInt8 12
  deriving DecidableEq, Repr

namespace InodeMode

def iroth : UInt16 := 0x004
def irgrp : UInt16 := 0x020
def iwusr : UInt16 := 0x080
def irusr : UInt16 := 0x100
def ifdir : UInt16 := 0x4000
def ifreg : UInt16 := 0x8000

def contains (mode flag : UInt16) : Bool := mode &&& flag == flag

theorem contains_iff_testBit {mode flag : UInt16} {i : Nat} (single : flag.toNat = 2 ^ i) :
    contains mode flag = true ↔ mode.toNat.testBit i = true := by
  rw [contains, beq_iff_eq, ← UInt16.toNat_inj, UInt16.toNat_and, single, Nat.and_two_pow]
  cases mode.toNat.testBit i
  · simp [(Nat.two_pow_pos i).ne]
  · simp

theorem testBit_format (mode : UInt16) {i : Nat} (low : 12 ≤ i) (high : i < 16) :
    (mode &&& 0xF000).toNat.testBit i = mode.toNat.testBit i := by
  have mask : (0xF000 : UInt16).toNat.testBit i = true := by
    have bits : i = 12 ∨ i = 13 ∨ i = 14 ∨ i = 15 := by omega
    rcases bits with rfl | rfl | rfl | rfl <;> decide
  rw [UInt16.toNat_and, Nat.testBit_and, mask, Bool.and_true]

theorem contains_ifreg_iff (mode : UInt16) :
    contains mode ifreg = true ↔ 0x8000 ≤ (mode &&& 0xF000).toNat := by
  have format := (mode &&& 0xF000).toNat_lt
  rw [contains_iff_testBit (i := 15) rfl, ← testBit_format mode (by omega) (by omega),
    Nat.testBit_eq_decide_div_mod_eq, decide_eq_true_iff]
  omega

theorem contains_ifdir_iff (mode : UInt16) :
    contains mode ifreg = false ∧ contains mode ifdir = true ↔
      0x4000 ≤ (mode &&& 0xF000).toNat ∧ (mode &&& 0xF000).toNat < 0x8000 := by
  have format := (mode &&& 0xF000).toNat_lt
  rw [← Bool.not_eq_true, contains_iff_testBit (i := 15) rfl, contains_iff_testBit (i := 14) rfl,
    ← testBit_format mode (i := 15) (by omega) (by omega),
    ← testBit_format mode (i := 14) (by omega) (by omega),
    Nat.testBit_eq_decide_div_mod_eq, Nat.testBit_eq_decide_div_mod_eq, decide_eq_true_iff,
    decide_eq_true_iff]
  omega

end InodeMode

namespace Inode

def isDir (inode : Inode) : Bool := InodeMode.contains inode.mode InodeMode.ifdir

def isFile (inode : Inode) : Bool := InodeMode.contains inode.mode InodeMode.ifreg

/-- The byte layout of `#[repr(C, packed)] struct Inode`. -/
def codec : Codec Inode :=
  (Codec.u16.prod <| Codec.u16.prod <| Codec.u32.prod <| Codec.u32.prod <| Codec.u32.prod <|
    Codec.u32.prod <| Codec.u32.prod <| Codec.u16.prod <| Codec.u16.prod <| Codec.u32.prod <|
    Codec.u32.prod <| Codec.u32.prod <| (Codec.u32.vector 12).prod <| Codec.u32.prod <|
    Codec.u32.prod <| Codec.u32.prod <| Codec.u32.prod <| Codec.u32.prod <| Codec.u32.prod <|
    Codec.u32.prod <| Codec.u8.vector 12).map
    (fun ⟨a, b, c, d, e, f, g, h, i, j, k, l, m, n, o, p, q, r, s, t, u⟩ =>
      ⟨a, b, c, d, e, f, g, h, i, j, k, l, m, n, o, p, q, r, s, t, u⟩)
    (fun ⟨a, b, c, d, e, f, g, h, i, j, k, l, m, n, o, p, q, r, s, t, u⟩ =>
      ⟨a, b, c, d, e, f, g, h, i, j, k, l, m, n, o, p, q, r, s, t, u⟩)
    (fun _ => rfl)

theorem codec_size : codec.size = 128 := rfl

def directBlock (inode : Inode) (j : Nat) : UInt32 := inode.directBlocks[j]?.getD 0

theorem getElem?_directBlocks (inode : Inode) {j : Nat} (small : j < 12) :
    inode.directBlocks[j]? = some (inode.directBlock j) := by
  simp [directBlock, small]

end Inode

namespace Superblock

/-- `block_size`: `BlockSize::from(1024 << s_log_block_size)`, a shift of a `u16`, which the
debug build stops with a panic when it shifts by 16 or more. -/
def blockSize? (sb : Superblock) : Option Nat :=
  if sb.logBlockSize < 16 then some ((1024 : UInt16) <<< sb.logBlockSize.toUInt16).toNat else none

/-- The size `block_size` returns, and zero where it panics: no file system has a zero block size,
and a division by it panics as well. -/
def blockSize (sb : Superblock) : Nat := sb.blockSize?.getD 0

theorem blockSize?_of_pos {sb : Superblock} (pos : 0 < sb.blockSize) :
    sb.blockSize? = some sb.blockSize := by
  unfold blockSize at pos ⊢
  cases returned : sb.blockSize? with
  | none =>
      rw [returned] at pos
      exact absurd pos (Nat.lt_irrefl 0)
  | some size => rfl

theorem blockSize_eq_shift (sb : Superblock) :
    sb.blockSize = 0 ∨ ∃ j < 16, sb.blockSize = 1024 * 2 ^ j % 2 ^ 16 := by
  unfold blockSize blockSize?
  split
  · have h1024 : (1024 : UInt16).toNat = 1024 := rfl
    right
    refine ⟨sb.logBlockSize.toUInt16.toNat % 16, Nat.mod_lt _ (by decide), ?_⟩
    rw [Option.getD_some, UInt16.toNat_shiftLeft, h1024, Nat.shiftLeft_eq]
  · left
    rfl

theorem blockSize_dvd (sb : Superblock) : 512 ∣ sb.blockSize := by
  have shifts : ∀ j < 16, 512 ∣ 1024 * 2 ^ j % 2 ^ 16 := by decide
  rcases sb.blockSize_eq_shift with zero | ⟨j, hj, shifted⟩
  · rw [zero]
    exact Nat.dvd_zero 512
  · rw [shifted]
    exact shifts j hj

theorem le_blockSize (sb : Superblock) (pos : 0 < sb.blockSize) : 1024 ≤ sb.blockSize := by
  have shifts : ∀ j < 16, 1024 * 2 ^ j % 2 ^ 16 = 0 ∨ 1024 ≤ 1024 * 2 ^ j % 2 ^ 16 := by decide
  rcases sb.blockSize_eq_shift with zero | ⟨j, hj, shifted⟩
  · omega
  · rw [shifted] at pos ⊢
    rcases shifts j hj with zero | big
    · omega
    · exact big

theorem blockSize_dvd_4096 (sb : Superblock) (pos : 0 < sb.blockSize) (small : sb.blockSize ≤ 4096) :
    sb.blockSize ∣ 4096 := by
  have shifts : ∀ j < 16, 0 < 1024 * 2 ^ j % 2 ^ 16 → 1024 * 2 ^ j % 2 ^ 16 ≤ 4096 →
      1024 * 2 ^ j % 2 ^ 16 ∣ 4096 := by decide
  rcases sb.blockSize_eq_shift with zero | ⟨j, hj, shifted⟩
  · omega
  · rw [shifted] at pos small ⊢
    exact shifts j hj pos small

theorem blockSize_eq_zero_iff (sb : Superblock) : sb.blockSize = 0 ↔ 6 ≤ sb.logBlockSize.toNat := by
  unfold blockSize blockSize?
  split
  · rename_i small
    have sixteen : (16 : UInt32).toNat = 16 := rfl
    rw [UInt32.lt_iff_toNat_lt, sixteen] at small
    have shift : sb.logBlockSize.toUInt16.toNat % 16 = sb.logBlockSize.toNat := by
      simp only [UInt32.toNat_toUInt16]
      omega
    have h1024 : (1024 : UInt16).toNat = 1024 := rfl
    have shifts : ∀ j < 16, (1024 * 2 ^ j % 2 ^ 16 = 0 ↔ 6 ≤ j) := by decide
    rw [Option.getD_some, UInt16.toNat_shiftLeft, h1024, Nat.shiftLeft_eq, shift]
    exact shifts _ small
  · rename_i large
    have sixteen : (16 : UInt32).toNat = 16 := rfl
    rw [UInt32.lt_iff_toNat_lt, sixteen, Nat.not_lt] at large
    exact iff_of_true rfl (le_trans (by decide) large)

/-- `inode_location`: the block group of an inode and its index there. -/
def inodeLocation (sb : Superblock) (inodeNumber : UInt32) : Option (Nat × Nat) :=
  if inodeNumber = 0 ∨ sb.inodesPerGroup = 0 then none
  else
    let inodeIndex := inodeNumber.toNat - 1
    some (inodeIndex / sb.inodesPerGroup.toNat, inodeIndex % sb.inodesPerGroup.toNat)

/-- `inode_number`: from a group and an index there back to the inode number, which overflows
its `u32` for groups past the last. -/
def inodeNumber (sb : Superblock) (blockGroupIndex localInodeIndex : Nat) : Option UInt32 :=
  let inodeIndex := blockGroupIndex * sb.inodesPerGroup.toNat + localInodeIndex
  if inodeIndex + 1 < 2 ^ 32 then some (UInt32.ofNat (inodeIndex + 1)) else none

/-- `inode_block_and_offset`: the block that holds an inode of a table, and its offset there.
Every inode is `s_inode_size` bytes. -/
def inodeBlockAndOffset (sb : Superblock) (tableAddress : UInt32) (localInodeIndex : Nat) :
    Option (Nat × Nat) :=
  let byteOffset := sb.sInodeSize.toNat * localInodeIndex
  let blockSize := sb.blockSize
  if blockSize = 0 then none
  else some (tableAddress.toNat + byteOffset / blockSize, byteOffset % blockSize)

theorem inodeLocation_eq_some {sb : Superblock} {inodeNumber : UInt32} {g i : Nat} :
    sb.inodeLocation inodeNumber = some (g, i) ↔ inodeNumber ≠ 0 ∧ sb.inodesPerGroup ≠ 0 ∧
      g = (inodeNumber.toNat - 1) / sb.inodesPerGroup.toNat ∧
      i = (inodeNumber.toNat - 1) % sb.inodesPerGroup.toNat := by
  unfold inodeLocation
  split
  · rename_i zero
    simp only [reduceCtorEq, false_iff]
    tauto
  · rename_i nonzero
    simp only [Option.some.injEq, Prod.mk.injEq]
    constructor
    · rintro ⟨rfl, rfl⟩
      exact ⟨fun h => nonzero (Or.inl h), fun h => nonzero (Or.inr h), rfl, rfl⟩
    · rintro ⟨-, -, rfl, rfl⟩
      exact ⟨rfl, rfl⟩

theorem inodeLocation_inj {sb : Superblock} {n m : UInt32} {p : Nat × Nat}
    (hn : sb.inodeLocation n = some p) (hm : sb.inodeLocation m = some p) : n = m := by
  obtain ⟨g, i⟩ := p
  obtain ⟨n0, -, gn, iN⟩ := inodeLocation_eq_some.mp hn
  obtain ⟨m0, -, gm, im⟩ := inodeLocation_eq_some.mp hm
  have hn1 : 0 < n.toNat := by
    rcases Nat.eq_zero_or_pos n.toNat with h | h
    · exact absurd (UInt32.toNat_inj.mp (h.trans UInt32.toNat_zero.symm)) n0
    · exact h
  have hm1 : 0 < m.toNat := by
    rcases Nat.eq_zero_or_pos m.toNat with h | h
    · exact absurd (UInt32.toNat_inj.mp (h.trans UInt32.toNat_zero.symm)) m0
    · exact h
  have same : n.toNat - 1 = m.toNat - 1 := by
    rw [← Nat.div_add_mod (n.toNat - 1) sb.inodesPerGroup.toNat,
      ← Nat.div_add_mod (m.toNat - 1) sb.inodesPerGroup.toNat, ← gn, ← gm, ← iN, ← im]
  exact UInt32.toNat_inj.mp (by omega)

theorem inodeBlockAndOffset_eq (sb : Superblock) (pos : 0 < sb.blockSize) (tableAddress : UInt32)
    (localInodeIndex : Nat) :
    sb.inodeBlockAndOffset tableAddress localInodeIndex =
      some (tableAddress.toNat + sb.sInodeSize.toNat * localInodeIndex / sb.blockSize,
        sb.sInodeSize.toNat * localInodeIndex % sb.blockSize) := by
  unfold inodeBlockAndOffset
  rw [if_neg (by omega)]

theorem slot_start (blockSize table byteOffset : Nat) :
    (table + byteOffset / blockSize) * blockSize + byteOffset % blockSize =
      table * blockSize + byteOffset := by
  rw [Nat.add_mul, Nat.add_assoc, Nat.div_add_mod']

/-- `inode_size`: a file's size in bytes; only revision 0 has no `size_high`. -/
def inodeSize (sb : Superblock) (inode : Inode) : Nat :=
  if sb.revLevel = 0 then inode.sizeLow.toNat
  else inode.sizeHigh.toNat * 2 ^ 32 + inode.sizeLow.toNat

end Superblock

/-! ## The blocks of a file -/

/-- `InodeBlockIterator`. -/
structure InodeBlockIterator where
  directBlocks : Vector UInt32 12
  blockSize : Nat
  numBlocks : Nat
  seenBlocks : Nat
  index : Nat
  deriving DecidableEq, Repr

/-- `iter_inode_blocks`: `inode.blocks` counts 512-byte units. -/
def Superblock.iterInodeBlocks (sb : Superblock) (inode : Inode) : InodeBlockIterator :=
  ⟨inode.directBlocks, sb.blockSize, (inode.blocks.toNat * 512 + sb.blockSize - 1) / sb.blockSize,
    0, 0⟩

namespace InodeBlockIterator

/-- The `while` loop of `next`, which skips zero block pointers. At most 13 rounds, since the
index reaches 12 and hits the `todo!` (`none`). -/
def nextLoop (it : InodeBlockIterator) :
    Nat → Option (Option ((Nat × UInt32) × InodeBlockIterator))
  | 0 => none
  | fuel + 1 =>
      if it.seenBlocks < it.numBlocks then
        if it.index = 12 then none
        else
          let index := it.index
          let it := { it with index := it.index + 1 }
          match it.directBlocks[index]? with
          | none => some none
          | some block =>
              if block = 0 then nextLoop it fuel
              else some (some ((index * it.blockSize, block), { it with seenBlocks := it.seenBlocks + 1 }))
      else some none

/-- `Iterator::next`: the next block of the file with its byte offset, `some none` at the end,
and `none` for the `todo!` of indirect blocks. -/
def next (it : InodeBlockIterator) : Option (Option ((Nat × UInt32) × InodeBlockIterator)) :=
  it.nextLoop 13

theorem nextLoop_of_nonzero (it : InodeBlockIterator) (fuel : Nat) {block : UInt32}
    (seen : it.seenBlocks < it.numBlocks) (small : it.index < 12)
    (found : it.directBlocks[it.index]? = some block) (nonzero : block ≠ 0) :
    it.nextLoop (fuel + 1) = some (some ((it.index * it.blockSize, block),
      { it with index := it.index + 1, seenBlocks := it.seenBlocks + 1 })) := by
  simp only [nextLoop, seen, if_true, Nat.ne_of_lt small, if_false, found, nonzero]

theorem nextLoop_of_done (it : InodeBlockIterator) (fuel : Nat) (done : it.numBlocks ≤ it.seenBlocks) :
    it.nextLoop (fuel + 1) = some none := by
  simp only [nextLoop, show ¬it.seenBlocks < it.numBlocks by omega, if_false]

end InodeBlockIterator

end RustOs.Ext2
