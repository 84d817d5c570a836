import RustOs.Ext2.Vfs

/-!
# Reading a file back

What `VFSInode::read` copies, and what `write` followed by `read_all` gives. `read` starts each
block's slice at `current_offset % block_size` but ends it at `min(block_size, end -
current_offset)`, a length taken for an index: from an offset inside a block it copies too
little, or panics when the rest of the read is shorter than the offset into the block. From a
block boundary the two agree, and the whole file comes back.
-/

namespace RustOs.Ext2

open Splice

namespace VFSInode

theorem readLoop_of_short_slice (fs : FileSystem) (inode : Inode) {blockSize end_ block : Nat}
    {blocks : List Nat} {currentOffset bytesRead : Nat} {buffer : List UInt8}
    (short : min blockSize (end_ - currentOffset) < currentOffset % blockSize) :
    readLoop fs inode blockSize end_ (block :: blocks) currentOffset bytesRead buffer = none := by
  simp only [readLoop]
  cases fs.readInodeBlock inode block with
  | none => rfl
  | some blockBuffer =>
      simp only [bind, Option.bind]
      split
      · rfl
      · rw [if_pos (Or.inl short)]

theorem read_of_short_first_slice (fs : FileSystem) (self : VFSInode) (buffer : List UInt8)
    (offset : Nat) (file : self.inode.isFile)
    (covers : offset / fs.blockSize <
      (min (fs.superblock.inodeSize self.inode) (offset + buffer.length) + fs.blockSize - 1) /
        fs.blockSize)
    (short : min fs.blockSize
      (min (fs.superblock.inodeSize self.inode) (offset + buffer.length) - offset) <
        offset % fs.blockSize) :
    self.read fs buffer offset = none := by
  obtain ⟨rest, restEq⟩ : ∃ rest,
      (min (fs.superblock.inodeSize self.inode) (offset + buffer.length) + fs.blockSize - 1) /
        fs.blockSize - offset / fs.blockSize = rest + 1 :=
    ⟨_, (Nat.succ_pred_eq_of_pos (by omega)).symm⟩
  unfold read
  rw [if_neg (by simpa using file)]
  simp only
  rw [show fs.superblock.blockSize = fs.blockSize from rfl, restEq, List.range'_succ,
    readLoop_of_short_slice fs self.inode short]
  rfl

/-- A read that starts inside a block and ends before that block's slice would: `slice_end`
falls below `slice_start` and the slice panics. -/
theorem read_unaligned_panics (fs : FileSystem) (self : VFSInode) (buffer : List UInt8)
    (offset : Nat) (file : self.inode.isFile) (nonempty : 0 < buffer.length)
    (inside : offset + buffer.length ≤ fs.superblock.inodeSize self.inode)
    (short : buffer.length < offset % fs.blockSize) :
    self.read fs buffer offset = none := by
  have blockPos := fs.blockSize_pos
  have endEq : min (fs.superblock.inodeSize self.inode) (offset + buffer.length) =
      offset + buffer.length := Nat.min_eq_right inside
  apply read_of_short_first_slice fs self buffer offset file
  · -- the read covers at least the block of `offset`
    have step : offset / fs.blockSize + 1 = (offset + fs.blockSize) / fs.blockSize :=
      (Nat.add_div_right offset blockPos).symm
    have mono : (offset + fs.blockSize) / fs.blockSize ≤
        (offset + buffer.length + fs.blockSize - 1) / fs.blockSize :=
      Nat.div_le_div_right (by omega)
    rw [endEq]
    omega
  · have := Nat.mod_lt offset blockPos
    rw [endEq]
    omega

def sampleFile : Inode := { sampleRoot with mode := 0x81A4, sizeLow := 10 }

theorem read_unaligned_sample :
    sampleFile.isFile ∧ 0 < [0, 0].length ∧ 3 + [0, 0].length ≤ sample.superblock.inodeSize sampleFile ∧
      [0, 0].length < 3 % sample.blockSize ∧
      (⟨3, sampleFile⟩ : VFSInode).read sample [0, 0] 3 = none :=
  ⟨by decide, by decide, by decide, by decide,
    read_unaligned_panics sample ⟨3, sampleFile⟩ [0, 0] 3 (by decide) (by decide) (by decide)
      (by decide)⟩

/-! ## Writing a file -/

theorem fillBytes_eq (data : List UInt8) : ∀ (bytes : List UInt8) {writtenBytes : Nat},
    writtenBytes ≤ data.length →
    fillBytes data bytes writtenBytes =
      ((List.range bytes.length).map fun i => data.getD (writtenBytes + i) 0,
        min data.length (writtenBytes + bytes.length))
  | [], writtenBytes, _ => by
      simp only [fillBytes, List.length_nil, List.range_zero, List.map_nil, Nat.add_zero,
        Prod.mk.injEq, true_and]
      omega
  | byte :: bytes, writtenBytes, within => by
      by_cases more : writtenBytes < data.length
      · simp only [fillBytes, more, dif_pos,
          fillBytes_eq data bytes (show writtenBytes + 1 ≤ data.length by omega), List.length_cons,
          List.range_succ_eq_map, List.map_cons, List.map_map, Prod.mk.injEq, List.cons.injEq]
        refine ⟨⟨by simp [more], List.map_congr_left fun i _ => ?_⟩, by omega⟩
        simp only [Function.comp, Nat.succ_eq_add_one, Nat.add_assoc, Nat.add_comm 1 i]
      · simp only [fillBytes, more, dif_neg, not_false_eq_true, fillBytes_eq data bytes within,
          List.length_cons, List.range_succ_eq_map, List.map_cons, List.map_map, Prod.mk.injEq,
          List.cons.injEq]
        refine ⟨⟨by rw [Nat.add_zero, List.getD_eq_default _ _ (by omega)],
          List.map_congr_left fun i _ => ?_⟩, by omega⟩
        simp only [Function.comp]
        rw [List.getD_eq_default _ _ (by omega), List.getD_eq_default _ _ (by omega)]

/-- What `write` puts in the `j`-th block of the file: the data from `j * block_size` on, then
zeros. -/
def blockData (data : List UInt8) (blockSize j : Nat) : List UInt8 :=
  (List.range blockSize).map fun i => data.getD (j * blockSize + i) 0

@[simp] theorem length_blockData (data : List UInt8) (blockSize j : Nat) :
    (blockData data blockSize j).length = blockSize := by
  simp [blockData]

def WrittenUpTo (fs : FileSystem) (inode : Inode) (data : List UInt8) (j : Nat)
    (device : Nat → UInt8) : Prop :=
  (∀ j' < j, ByteStore.read device ((inode.directBlock j').toNat * fs.blockSize) fs.blockSize =
    blockData data fs.blockSize j') ∧
  ∀ a, (∀ j' < j, a / fs.blockSize ≠ (inode.directBlock j').toNat) → device a = fs.device a

structure DirectRun (inode : Inode) (count : Nat) : Prop where
  count_le : count ≤ 12
  nonzero : ∀ j < count, inode.directBlock j ≠ 0
  distinct : ∀ j < count, ∀ j' < count, j ≠ j' → inode.directBlock j ≠ inode.directBlock j'

section Write

variable {fs : FileSystem} {inode : Inode} {data : List UInt8} {count : Nat}

theorem WrittenUpTo.step {j : Nat} {device : Nat → UInt8} (run : DirectRun inode count)
    (below : j < count) (written : WrittenUpTo fs inode data j device) :
    WrittenUpTo fs inode data (j + 1) (ByteStore.write device
      ((inode.directBlock j).toNat * fs.blockSize) (blockData data fs.blockSize j)) := by
  obtain ⟨blocks, frame⟩ := written
  constructor
  · intro j' earlier
    rcases Nat.lt_succ_iff_lt_or_eq.mp earlier with before | rfl
    · have other : (inode.directBlock j).toNat ≠ (inode.directBlock j').toNat := fun same =>
        run.distinct j below j' (by omega) (by omega) (UInt32.toNat_inj.mp same)
      rw [ByteStore.read_write_of_disjoint (by rw [length_blockData]; exact fs.block_disjoint other),
        blocks j' before]
    · have := ByteStore.read_write_self device ((inode.directBlock j').toNat * fs.blockSize)
        (blockData data fs.blockSize j')
      rwa [length_blockData] at this
  · intro a outside
    rw [fs.write_block_apply_of_ne device (length_blockData ..) (outside j (by omega)),
      frame a fun j' earlier => outside j' (by omega)]

theorem blocks_needed_spec (length : Nat) {blockSize : Nat} (pos : 0 < blockSize) :
    length ≤ (length + blockSize - 1) / blockSize * blockSize ∧
      ∀ j, j < (length + blockSize - 1) / blockSize → j * blockSize < length := by
  constructor
  · have split := Nat.div_add_mod (length + blockSize - 1) blockSize
    have small := Nat.mod_lt (length + blockSize - 1) pos
    rw [Nat.mul_comm]
    omega
  · intro j below
    have := (Nat.le_div_iff_mul_le pos).mp below
    rw [Nat.succ_mul] at this
    omega

theorem next_of_run (run : DirectRun inode count) {numBlocks j : Nat} (blockSize : Nat)
    (more : j < numBlocks) (inRun : j < count) :
    (⟨inode.directBlocks, blockSize, numBlocks, j, j⟩ : InodeBlockIterator).next =
      some (some ((j * blockSize, inode.directBlock j),
        ⟨inode.directBlocks, blockSize, numBlocks, j + 1, j + 1⟩)) :=
  InodeBlockIterator.nextLoop_of_nonzero _ 12 more (by have := run.count_le; show j < 12; omega)
    (inode.getElem?_directBlocks (j := j) (by have := run.count_le; omega)) (run.nonzero j inRun)

theorem next_of_seen {numBlocks j blockSize : Nat} (done : numBlocks ≤ j) :
    (⟨inode.directBlocks, blockSize, numBlocks, j, j⟩ : InodeBlockIterator).next = some none :=
  InodeBlockIterator.nextLoop_of_done _ 12 done

theorem iterFileBlocksLoop_writeBlock (run : DirectRun inode count) {numBlocks : Nat}
    (enough : (data.length + fs.blockSize - 1) / fs.blockSize ≤ numBlocks) (within : numBlocks ≤ count) :
    ∀ (t j fuel : Nat) (device : Nat → UInt8), j + t = (data.length + fs.blockSize - 1) / fs.blockSize →
      t < fuel → WrittenUpTo fs inode data j device →
      ∃ device', fs.iterFileBlocksLoop (VFSInode.writeBlock data) fuel
          ⟨inode.directBlocks, fs.blockSize, numBlocks, j, j⟩ (min data.length (j * fs.blockSize))
          device = some (data.length, device') ∧
        WrittenUpTo fs inode data ((data.length + fs.blockSize - 1) / fs.blockSize) device'
  | _, _, 0, _, _, impossible, _ => absurd impossible (Nat.not_lt_zero _)
  | 0, j, fuel + 1, device, last, _, written => by
      obtain ⟨covers, -⟩ := blocks_needed_spec data.length fs.zero_lt_blockSize
      rw [Nat.add_zero] at last
      subst last
      have filled : min data.length ((data.length + fs.blockSize - 1) / fs.blockSize * fs.blockSize) =
          data.length := Nat.min_eq_left covers
      refine ⟨device, ?_, written⟩
      simp only [FileSystem.iterFileBlocksLoop, filled]
      by_cases more : (data.length + fs.blockSize - 1) / fs.blockSize < numBlocks
      · rw [next_of_run run _ more (by omega)]
        simp [VFSInode.writeBlock]
      · rw [next_of_seen (by omega)]
        rfl
  | t + 1, j, fuel + 1, device, remaining, bounded, written => by
      obtain ⟨-, early⟩ := blocks_needed_spec data.length fs.zero_lt_blockSize
      have short := early j (by omega)
      have notDone : min data.length (j * fs.blockSize) = j * fs.blockSize := Nat.min_eq_right (by omega)
      have nextWritten : min data.length (j * fs.blockSize + fs.blockSize) =
          min data.length ((j + 1) * fs.blockSize) := by rw [Nat.succ_mul]
      have blockLength := ByteStore.length_read device
        ((inode.directBlock j).toNat * fs.blockSize) fs.blockSize
      obtain ⟨device', loop, final⟩ := iterFileBlocksLoop_writeBlock run enough within t (j + 1) fuel _
        (by omega) (by omega) (written.step run (by omega))
      refine ⟨device', ?_, final⟩
      simp only [FileSystem.iterFileBlocksLoop]
      rw [next_of_run run _ (by omega) (by omega)]
      have sectors : 512 ∣ fs.blockSize := fs.superblock.blockSize_dvd
      simp only [bind, Option.bind_some, readBlocks_eq device sectors,
        VFSInode.writeBlock, notDone, show ¬data.length ≤ j * fs.blockSize by omega, if_false,
        fillBytes_eq data _ (show j * fs.blockSize ≤ data.length by omega), blockLength]
      simp only [BlockBuffer.flush, if_true]
      rw [← loop, nextWritten]
      rfl

theorem writtenUpTo_zero : WrittenUpTo fs inode data 0 fs.device :=
  ⟨fun _ none => absurd none (Nat.not_lt_zero _), fun _ _ => rfl⟩

theorem WrittenUpTo.read_of_apart {j b : Nat} {device : Nat → UInt8}
    (written : WrittenUpTo fs inode data j device)
    (apart : ∀ j' < j, (inode.directBlock j').toNat ≠ b) :
    (fs.withDevice device).read b = fs.read b := by
  rw [FileSystem.read_eq, FileSystem.read_eq]
  simp only [FileSystem.blockSize_withDevice, FileSystem.device_withDevice]
  congr 1
  apply ByteStore.read_ext
  intro k inBlock
  apply written.2
  intro j' earlier same
  apply apart j' earlier
  rw [← same, Nat.add_comm, Nat.add_mul_div_right _ _ fs.zero_lt_blockSize,
    Nat.div_eq_of_lt inBlock, Nat.zero_add]

theorem WrittenUpTo.read_written {j j' : Nat} {device : Nat → UInt8}
    (written : WrittenUpTo fs inode data j device) (earlier : j' < j) :
    (fs.withDevice device).read (inode.directBlock j').toNat =
      ⟨(inode.directBlock j').toNat * fs.blockSize, blockData data fs.blockSize j'⟩ := by
  rw [FileSystem.read_eq]
  simp only [FileSystem.blockSize_withDevice, FileSystem.device_withDevice, written.1 j' earlier]

end Write

/-- What `write` and `read_all` need of a file: its inode in use at a slot that fits in its
block, and its first `count` direct blocks a run that holds every block `iter_inode_blocks`
counts, none of them the inode bitmap or the inode's own table block. -/
structure FileLayout (fs : FileSystem) (file : VFSInode) (count g i : Nat)
    (d : BlockGroupDescriptor) : Prop where
  run : DirectRun file.inode count
  location : fs.superblock.inodeLocation file.inodeNumber = some (g, i)
  descriptor : fs.descriptor g = some d
  used : Bitmap.isUsed (fs.inodeBitmapBlock d).data i = some true
  fits : fs.slotOffset i + 128 ≤ fs.blockSize
  counted : (fs.superblock.iterInodeBlocks file.inode).numBlocks ≤ count
  bitmapApart : d.inodeBitmap.toNat ≠ fs.slotBlock d.inodeTable i
  dataApart : ∀ j < count, (file.inode.directBlock j).toNat ≠ d.inodeBitmap.toNat ∧
    (file.inode.directBlock j).toNat ≠ fs.slotBlock d.inodeTable i

theorem inodeSize_sizeLow (sb : Superblock) (inode : Inode) {length : Nat} (fits : length < 2 ^ 32)
    (sizeLowOnly : sb.revLevel = 0 ∨ inode.sizeHigh = 0) :
    sb.inodeSize { inode with sizeLow := UInt32.ofNat length } = length := by
  have low : (UInt32.ofNat length).toNat = length := by
    rw [UInt32.toNat_ofNat', Nat.mod_eq_of_lt fits]
  unfold Superblock.inodeSize
  rcases sizeLowOnly with rev0 | high0
  · simp only [rev0, if_true, low]
  · split
    · exact low
    · simp only [high0, UInt32.toNat_zero, Nat.zero_mul, Nat.zero_add, low]

theorem write_spec {fs : FileSystem} {file : VFSInode} {data : List UInt8} {count g i : Nat}
    {d : BlockGroupDescriptor} (regular : file.inode.isFile) (layout : FileLayout fs file count g i d)
    (enough : (data.length + fs.blockSize - 1) / fs.blockSize ≤
      (fs.superblock.iterInodeBlocks file.inode).numBlocks) :
    ∃ device slotData,
      WrittenUpTo fs file.inode data ((data.length + fs.blockSize - 1) / fs.blockSize) device ∧
      slotData.length = fs.blockSize ∧
      (fs.withDevice device).writeInode { file.inode with sizeLow := UInt32.ofNat data.length }
        file.inodeNumber = some ((fs.withDevice device).putBlock (fs.slotBlock d.inodeTable i) slotData) ∧
      file.write fs data = some ((fs.withDevice device).putBlock (fs.slotBlock d.inodeTable i) slotData,
        { file with inode := { file.inode with sizeLow := UInt32.ofNat data.length } }) := by
  have := layout.run.count_le
  have := layout.counted
  obtain ⟨device, loop, written⟩ := iterFileBlocksLoop_writeBlock layout.run enough layout.counted
    ((data.length + fs.blockSize - 1) / fs.blockSize) 0 13 fs.device (by omega) (by omega)
    writtenUpTo_zero
  rw [Nat.zero_mul, Nat.min_zero] at loop
  have bitmapSame : (fs.withDevice device).inodeBitmapBlock d = fs.inodeBitmapBlock d :=
    written.read_of_apart fun j' earlier => (layout.dataApart j' (by omega)).1
  obtain ⟨slotData, setOk, inodeWritten⟩ := @FileSystem.writeInode_of_used (fs.withDevice device)
    { file.inode with sizeLow := UInt32.ofNat data.length } _ _ _ _ layout.location
    layout.descriptor (by rw [bitmapSame]; exact layout.used) layout.fits
  simp only [FileSystem.slotBlock_withDevice] at inodeWritten
  have slotLength : slotData.length = fs.blockSize := by
    rw [Inode.codec.length_setAt setOk, FileSystem.length_read_data, FileSystem.blockSize_withDevice]
  refine ⟨device, slotData, written, slotLength, inodeWritten, ?_⟩
  have start : fs.superblock.iterInodeBlocks file.inode =
      ⟨file.inode.directBlocks, fs.blockSize, (fs.superblock.iterInodeBlocks file.inode).numBlocks,
        0, 0⟩ := rfl
  have iterated : fs.iterFileBlocks file.inode (writeBlock data) 0 =
      some (data.length, fs.withDevice device) := by
    rw [FileSystem.iterFileBlocks, start, loop]
    rfl
  simp only [write, regular, not_true_eq_false, if_false, iterated, bind, Option.bind_some, ne_eq,
    if_false, inodeWritten]

theorem write_stores {fs : FileSystem} {file : VFSInode} {data : List UInt8} {count g i : Nat}
    {d : BlockGroupDescriptor} (regular : file.inode.isFile) (layout : FileLayout fs file count g i d)
    (needed : (data.length + fs.blockSize - 1) / fs.blockSize ≤
      (fs.superblock.iterInodeBlocks file.inode).numBlocks) :
    ∃ fs', file.write fs data =
        some (fs', { file with inode := { file.inode with sizeLow := UInt32.ofNat data.length } }) ∧
      fs'.superblock = fs.superblock ∧
      fs'.readInode file.inodeNumber =
        some (some { file.inode with sizeLow := UInt32.ofNat data.length }) ∧
      ∀ j, j * fs.blockSize < data.length →
        (fs'.readInodeBlock { file.inode with sizeLow := UInt32.ofNat data.length } j).map (·.data) =
          some (blockData data fs.blockSize j) := by
  have blockPos := fs.zero_lt_blockSize
  have short := layout.run.count_le
  have counted := layout.counted
  obtain ⟨device, slotData, written, slotLength, inodeWritten, wrote⟩ :=
    write_spec regular layout needed
  refine ⟨_, wrote, rfl, FileSystem.readInode_writeInode_self inodeWritten layout.location
    layout.descriptor layout.bitmapApart, fun j inFile => ?_⟩
  have sameBlock : ({ file.inode with sizeLow := UInt32.ofNat data.length } : Inode).directBlock j =
      file.inode.directBlock j := rfl
  -- block `j` is one `write` filled
  have filled : j < (data.length + fs.blockSize - 1) / fs.blockSize :=
    (Nat.le_div_iff_mul_le blockPos).mpr (by rw [Nat.succ_mul]; omega)
  rw [FileSystem.readInodeBlock_of_direct _ _ (by omega), sameBlock,
    FileSystem.read_putBlock_of_ne (fs.withDevice device) slotLength
      (layout.dataApart j (by omega)).2.symm]
  simp only [written.read_written filled, Option.map_some]

/-! ## Reading back from block boundaries -/

def dataBytes (data : List UInt8) (start len : Nat) : List UInt8 :=
  (List.range len).map fun i => data.getD (start + i) 0

@[simp] theorem length_dataBytes (data : List UInt8) (start len : Nat) :
    (dataBytes data start len).length = len := by
  simp [dataBytes]

theorem dataBytes_add (data : List UInt8) (start a b : Nat) :
    dataBytes data start (a + b) = dataBytes data start a ++ dataBytes data (start + a) b := by
  simp only [dataBytes, List.range_add, List.map_append, List.map_map, Function.comp_def,
    Nat.add_assoc]

theorem take_blockData {data : List UInt8} {blockSize len : Nat} (j : Nat)
    (short : len ≤ blockSize) :
    (blockData data blockSize j).take len = dataBytes data (j * blockSize) len := by
  simp only [blockData, dataBytes, ← List.map_take, List.take_range, Nat.min_eq_left short]

theorem dataBytes_eq_take {data : List UInt8} {start len : Nat} (inside : start + len ≤ data.length) :
    dataBytes data start len = (data.drop start).take len := by
  apply List.ext_getElem
  · simp only [length_dataBytes, List.length_take, List.length_drop]
    omega
  · intro k inRange _
    simp only [length_dataBytes] at inRange
    simp only [dataBytes, List.getElem_map, List.getElem_range, List.getElem_take,
      List.getElem_drop]
    exact List.getD_eq_getElem _ _ _

section Read

variable {fs : FileSystem} {inode : Inode} {data : List UInt8} {end_ : Nat}

theorem readLoop_block {j bytesRead : Nat} {blocks : List Nat} {buffer : List UInt8}
    (stored : (fs.readInodeBlock inode j).map (·.data) = some (blockData data fs.blockSize j))
    (before : j * fs.blockSize ≤ end_)
    (fits : bytesRead + min fs.blockSize (end_ - j * fs.blockSize) ≤ buffer.length) :
    readLoop fs inode fs.blockSize end_ (j :: blocks) (j * fs.blockSize) bytesRead buffer =
      readLoop fs inode fs.blockSize end_ blocks
        (j * fs.blockSize + min fs.blockSize (end_ - j * fs.blockSize))
        (bytesRead + min fs.blockSize (end_ - j * fs.blockSize))
        (splice buffer bytesRead
          (dataBytes data (j * fs.blockSize) (min fs.blockSize (end_ - j * fs.blockSize)))) := by
  obtain ⟨blockBuffer, read, readData⟩ := Option.map_eq_some_iff.mp stored
  simp only [readLoop, read, bind, Option.bind_some, Nat.mul_mod_left, Nat.sub_zero, readData,
    length_blockData]
  rw [if_neg (by omega), if_neg (by omega), if_neg (by omega)]
  simp only [slice, List.drop_zero, take_blockData j (Nat.min_le_left _ _)]

theorem readLoop_aligned
    (stored : ∀ j, j * fs.blockSize < end_ →
      (fs.readInodeBlock inode j).map (·.data) = some (blockData data fs.blockSize j)) :
    ∀ t j bytesRead (buffer : List UInt8), j * fs.blockSize ≤ end_ →
      end_ ≤ (j + t) * fs.blockSize → (j + t) * fs.blockSize < end_ + fs.blockSize →
      bytesRead + (end_ - j * fs.blockSize) ≤ buffer.length →
      readLoop fs inode fs.blockSize end_ (List.range' j t) (j * fs.blockSize) bytesRead buffer =
        some (bytesRead + (end_ - j * fs.blockSize),
          splice buffer bytesRead (dataBytes data (j * fs.blockSize) (end_ - j * fs.blockSize)))
  | 0, j, bytesRead, buffer, before, covered, _, _ => by
      have nothingLeft : end_ - j * fs.blockSize = 0 := by
        rw [Nat.add_zero] at covered
        omega
      simp [readLoop, nothingLeft, dataBytes]
  | t + 1, j, bytesRead, buffer, before, covered, tight, fits => by
      have spread : (j + (t + 1)) * fs.blockSize =
          j * fs.blockSize + t * fs.blockSize + fs.blockSize := by
        rw [Nat.add_mul, Nat.add_mul, Nat.one_mul, Nat.add_assoc]
      have inFile : j * fs.blockSize < end_ := by omega
      rw [List.range'_succ, readLoop_block (stored j inFile) before (by omega)]
      by_cases full : fs.blockSize ≤ end_ - j * fs.blockSize
      · -- a whole block: the rest of the read starts at the next boundary
        have next : j * fs.blockSize + fs.blockSize = (j + 1) * fs.blockSize :=
          (Nat.succ_mul j _).symm
        have shifted : (j + 1 + t) * fs.blockSize = (j + (t + 1)) * fs.blockSize := by
          rw [Nat.add_right_comm, Nat.add_assoc]
        have whole : end_ - j * fs.blockSize =
            fs.blockSize + (end_ - (j * fs.blockSize + fs.blockSize)) := by
          omega
        have joined : splice (splice buffer bytesRead (dataBytes data (j * fs.blockSize) fs.blockSize))
            (bytesRead + (dataBytes data (j * fs.blockSize) fs.blockSize).length)
            (dataBytes data ((j + 1) * fs.blockSize) (end_ - (j + 1) * fs.blockSize)) =
            splice buffer bytesRead (dataBytes data (j * fs.blockSize) fs.blockSize ++
              dataBytes data ((j + 1) * fs.blockSize) (end_ - (j + 1) * fs.blockSize)) :=
          splice_splice_append (by simp only [length_dataBytes]; omega)
        rw [length_dataBytes] at joined
        rw [Nat.min_eq_left full, next,
          readLoop_aligned stored t (j + 1) _ _ (by omega) (by rw [shifted]; exact covered)
            (by rw [shifted]; exact tight)
            (by rw [length_splice (by simp only [length_dataBytes]; omega)]; omega),
          joined, ← next, ← dataBytes_add, ← whole]
        simp only [Option.some.injEq, Prod.mk.injEq, and_true]
        omega
      · -- the last block, part of it: no block is left
        have noMore : t = 0 := by
          have below : t * fs.blockSize < 1 * fs.blockSize := by omega
          have := Nat.lt_of_mul_lt_mul_right below
          omega
        subst noMore
        rw [Nat.min_eq_right (by omega), List.range'_zero]
        rfl

theorem read_aligned (self : VFSInode) (buffer : List UInt8) {offset : Nat}
    (file : self.inode.isFile) (sized : fs.superblock.inodeSize self.inode = data.length)
    (aligned : fs.blockSize ∣ offset) (within : offset ≤ data.length)
    (stored : ∀ j, j * fs.blockSize < data.length →
      (fs.readInodeBlock self.inode j).map (·.data) = some (blockData data fs.blockSize j)) :
    self.read fs buffer offset = some
      (if min data.length (offset + buffer.length) = data.length then
          .done (min data.length (offset + buffer.length) - offset)
        else .success,
        splice buffer 0 (dataBytes data offset (min data.length (offset + buffer.length) - offset))) := by
  have blockPos := fs.zero_lt_blockSize
  have start : offset / fs.blockSize * fs.blockSize = offset := Nat.div_mul_cancel aligned
  -- the blocks from the one of `offset` to the last one the read reaches
  obtain ⟨covered, -⟩ := blocks_needed_spec (min data.length (offset + buffer.length)) blockPos
  have tight := Nat.div_mul_le_self
    (min data.length (offset + buffer.length) + fs.blockSize - 1) fs.blockSize
  have ordered : offset / fs.blockSize ≤
      (min data.length (offset + buffer.length) + fs.blockSize - 1) / fs.blockSize :=
    Nat.div_le_div_right (by omega)
  have blocks : offset / fs.blockSize +
      ((min data.length (offset + buffer.length) + fs.blockSize - 1) / fs.blockSize -
        offset / fs.blockSize) =
      (min data.length (offset + buffer.length) + fs.blockSize - 1) / fs.blockSize :=
    Nat.add_sub_cancel' ordered
  have copied := readLoop_aligned
    (fun j (inFile : j * fs.blockSize < min data.length (offset + buffer.length)) =>
      stored j (by omega))
    ((min data.length (offset + buffer.length) + fs.blockSize - 1) / fs.blockSize -
      offset / fs.blockSize) (offset / fs.blockSize) 0 buffer (by omega)
    (by rw [blocks]; exact covered) (by rw [blocks]; omega) (by omega)
  rw [start, Nat.zero_add] at copied
  unfold read
  rw [if_neg (by simpa using file)]
  simp only [sized]
  rw [show fs.superblock.blockSize = fs.blockSize from rfl, copied]
  rfl

theorem readAllLoop_aligned (self : VFSInode) (file : self.inode.isFile)
    (sized : fs.superblock.inodeSize self.inode = data.length) (divides : fs.blockSize ∣ 4096)
    (stored : ∀ j, j * fs.blockSize < data.length →
      (fs.readInodeBlock self.inode j).map (·.data) = some (blockData data fs.blockSize j)) :
    ∀ fuel r, 4096 * r ≤ data.length → data.length < 4096 * (r + fuel) →
      self.readAllLoop fs fuel (4096 * r) (data.take (4096 * r)) = some data
  | 0, r, within, enough => by omega
  | fuel + 1, r, within, enough => by
      have round := read_aligned self (List.replicate 4096 0) file sized
        (Nat.dvd_mul_right_of_dvd divides r) within stored
      rw [List.length_replicate] at round
      by_cases last : data.length ≤ 4096 * r + 4096
      · -- the read reaches the end of the file and adds the rest of it
        have rest : (splice (List.replicate 4096 0) 0
            (dataBytes data (4096 * r) (data.length - 4096 * r))).take
              (data.length - 4096 * r) = dataBytes data (4096 * r) (data.length - 4096 * r) := by
          have copied : slice (splice (List.replicate 4096 0) 0
              (dataBytes data (4096 * r) (data.length - 4096 * r))) 0
                (dataBytes data (4096 * r) (data.length - 4096 * r)).length =
              dataBytes data (4096 * r) (data.length - 4096 * r) :=
            slice_splice_self (by simp only [length_dataBytes, List.length_replicate]; omega)
          simpa only [slice, List.drop_zero, length_dataBytes] using copied
        rw [Nat.min_eq_left last, if_pos rfl] at round
        simp only [readAllLoop, round, bind, Option.bind_some]
        rw [if_pos (by omega), rest, dataBytes_eq_take (by omega), ← List.take_add,
          Nat.add_sub_cancel' within, List.take_length]
      · -- a whole 4096 bytes, and more of the file after them
        have whole : splice (List.replicate 4096 0) 0 (dataBytes data (4096 * r) 4096) =
            dataBytes data (4096 * r) 4096 :=
          splice_zero_of_length (by simp only [length_dataBytes, List.length_replicate])
        rw [Nat.min_eq_right (by omega), if_neg (by omega), Nat.add_sub_cancel_left, whole]
          at round
        have next := readAllLoop_aligned self file sized divides stored fuel (r + 1) (by omega)
          (by omega)
        rw [Nat.mul_succ] at next
        simp only [readAllLoop, round, bind, Option.bind_some]
        rw [dataBytes_eq_take (by omega), ← List.take_add]
        exact next

theorem readAll_aligned (self : VFSInode) (file : self.inode.isFile)
    (sized : fs.superblock.inodeSize self.inode = data.length) (divides : fs.blockSize ∣ 4096)
    (stored : ∀ j, j * fs.blockSize < data.length →
      (fs.readInodeBlock self.inode j).map (·.data) = some (blockData data fs.blockSize j)) :
    self.readAll fs = some data := by
  have loop := readAllLoop_aligned self file sized divides stored (data.length / 4096 + 1) 0
    (by omega) (by omega)
  rw [Nat.mul_zero, List.take_zero] at loop
  rw [readAll, sized]
  exact loop

end Read

/-- `write` followed by `read_all` gives the data back, and a fresh `get_inode` reads the inode
`write` wrote: for a file laid out as `FileLayout` says, whose blocks counted by `i_blocks` have
room for the data, when blocks are at most 4 KiB and `size_low` alone is the size. -/
theorem write_readAll {fs : FileSystem} {file : VFSInode} {data : List UInt8} {count g i : Nat}
    {d : BlockGroupDescriptor} (regular : file.inode.isFile)
    (layout : FileLayout fs file count g i d) (small : fs.blockSize ≤ 4096)
    (sizeLowOnly : fs.superblock.revLevel = 0 ∨ file.inode.sizeHigh = 0)
    (enough : data.length ≤ (fs.superblock.iterInodeBlocks file.inode).numBlocks * fs.blockSize) :
    ∃ fs' file', file.write fs data = some (fs', file') ∧ file'.readAll fs' = some data ∧
      fs'.readInode file.inodeNumber = some (some file'.inode) := by
  have blockPos := fs.zero_lt_blockSize
  have short := layout.run.count_le
  have counted := layout.counted
  have needed : (data.length + fs.blockSize - 1) / fs.blockSize ≤
      (fs.superblock.iterInodeBlocks file.inode).numBlocks :=
    Nat.le_of_lt_succ ((Nat.div_lt_iff_lt_mul blockPos).mpr (by rw [Nat.succ_mul]; omega))
  obtain ⟨fs', wrote, sameSuperblock, readBack, stored⟩ := write_stores regular layout needed
  have sameSize : fs'.blockSize = fs.blockSize := congrArg Superblock.blockSize sameSuperblock
  -- twelve blocks of at most 4 KiB: `size_low` holds the length
  have lengthFits : data.length < 2 ^ 32 := by
    have := Nat.mul_le_mul (show (fs.superblock.iterInodeBlocks file.inode).numBlocks ≤ 12 by omega)
      small
    omega
  refine ⟨fs', _, wrote, ?_, readBack⟩
  apply readAll_aligned
  · exact regular
  · rw [sameSuperblock]
    exact inodeSize_sizeLow _ _ lengthFits sizeLowOnly
  · rw [sameSize]
    exact fs.superblock.blockSize_dvd_4096 fs.blockSize_pos small
  · rw [sameSize]
    exact stored

theorem write_readAll_sample :
    ∃ fs' file', (⟨2, sampleFile⟩ : VFSInode).write sample [1, 2, 3] = some (fs', file') ∧
      file'.readAll fs' = some [1, 2, 3] ∧ fs'.readInode 2 = some (some file'.inode) :=
  @write_readAll sample ⟨2, sampleFile⟩ [1, 2, 3] 1 0 1 ⟨3, 4, 5, 40, 20⟩ (by decide)
    ⟨⟨by decide, by decide, by decide⟩, by decide, by decide, by decide +kernel, by decide,
      by decide, by decide, by decide⟩
    (by decide) (Or.inr (by decide)) (by decide)

def sample8KiB : FileSystem :=
  ⟨{ sampleSuperblock with logBlockSize := 3 }, [⟨3, 4, 5, 40, 20⟩],
    fun a => if a = 4 * 8192 then 0x03 else 0, by decide⟩

def sampleFile8KiB : Inode := { sampleFile with blocks := 16 }

/-- With 8 KiB blocks the second 4096-byte step of `read_all` starts in the middle of block 0
and reads one byte, so its slice ends before it starts: a file of 4097 bytes that `write`
stores is never read back. -/
theorem write_readAll_8KiB_panics :
    ∃ fs' file', (⟨2, sampleFile8KiB⟩ : VFSInode).write sample8KiB (List.replicate 4097 7) =
      some (fs', file') ∧ file'.readAll fs' = none := by
  have length : (List.replicate 4097 (7 : UInt8)).length = 4097 := List.length_replicate
  obtain ⟨fs', wrote, sameSuperblock, -, stored⟩ :=
    @write_stores sample8KiB ⟨2, sampleFile8KiB⟩ (List.replicate 4097 7) 1 0 1 ⟨3, 4, 5, 40, 20⟩
      (by decide)
      ⟨⟨by decide, by decide, by decide⟩, by decide, by decide, by decide +kernel, by decide,
        by decide, by decide, by decide⟩
      (by rw [length]; decide)
  refine ⟨fs', _, wrote, ?_⟩
  have sameSize : fs'.blockSize = 8192 := by
    rw [show fs'.blockSize = sample8KiB.blockSize from congrArg Superblock.blockSize sameSuperblock]
    decide
  have fileSize : fs'.superblock.inodeSize
      { sampleFile8KiB with sizeLow := UInt32.ofNat (List.replicate 4097 (7 : UInt8)).length } =
        (List.replicate 4097 (7 : UInt8)).length := by
    rw [sameSuperblock, length]
    decide
  -- the first step reads bytes `[0, 4096)` and says `Success`
  have first := read_aligned
    ⟨2, { sampleFile8KiB with sizeLow := UInt32.ofNat (List.replicate 4097 (7 : UInt8)).length }⟩
    (List.replicate 4096 0) (by decide) fileSize (by rw [sameSize]; decide) (Nat.zero_le _)
    (by rw [sameSize]; exact stored)
  simp only [List.length_replicate] at first
  rw [if_neg (by decide)] at first
  -- the second starts at byte 4096 of block 0 and ends at byte 4097
  have second := read_of_short_first_slice fs'
    ⟨2, { sampleFile8KiB with sizeLow := UInt32.ofNat (List.replicate 4097 (7 : UInt8)).length }⟩
    (List.replicate 4096 0) 4096 (by decide)
    (by rw [sameSize, fileSize, length, List.length_replicate]; decide)
    (by rw [sameSize, fileSize, length, List.length_replicate]; decide)
  simp only [length] at first second
  rw [readAll, fileSize, length]
  simp only [readAllLoop, first, bind, Option.bind_some, Nat.zero_add, second, Option.bind_none]

end VFSInode

end RustOs.Ext2
