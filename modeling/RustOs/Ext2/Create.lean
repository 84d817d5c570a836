import RustOs.Ext2.Directory
import RustOs.Ext2.InodeTable

/-!
# Creating a file

`iter_directory_blocks` and `create_file` of `fs/ext2/file_system.rs`. `create_file` reserves an
inode in the parent's group and one block for the contents, writing each bitmap block back at
once, writes the new inode, and only then looks for room in the parent's directory blocks. The
group's and the superblock's free inode counts go down by one; nothing counts the block.
-/

namespace RustOs.Ext2

namespace FileSystem

variable (fs : FileSystem)

/-- `iter_directory_blocks`, with a closure on each directory block. -/
def iterDirectoryBlocks {σ : Type} (inode : Inode)
    (func : σ → (Nat → UInt8) → DirectoryBlock → Option (Bool × σ × (Nat → UInt8))) (s : σ) :
    Option (σ × FileSystem) :=
  if inode.isDir ∧ fs.superblock.inodeSize inode % fs.blockSize = 0 then
    fs.iterFileBlocks inode (fun s device _ buf => do
      let dirBlock ← DirectoryBlock.fromExistingBlock buf
      func s device dirBlock) s
  else none

/-- The inode `create_file` writes: a regular file, `rw-r--r--`, of size 0 with one block. -/
def newFileInode (parent : Inode) (blockAddress : UInt32) : Inode where
  mode := InodeMode.iroth ||| InodeMode.irgrp ||| InodeMode.iwusr ||| InodeMode.irusr |||
    InodeMode.ifreg
  uid := parent.uid
  sizeLow := 0
  atime := 0
  ctime := 0
  mtime := 0
  dtime := 0
  gid := parent.gid
  linksCount := 1
  -- `blocks` counts 512-byte units
  blocks := UInt32.ofNat fs.blockSize / 512
  flags := 0
  osd1 := 0
  directBlocks := (Vector.replicate 12 0).set 0 blockAddress
  singlyIndirectBlock := 0
  doublyIndirectBlock := 0
  triplyIndirectBlock := 0
  generation := 0
  fileAcl := 0
  sizeHigh := 0
  faddr := 0
  osd2 := Vector.replicate 12 0

/-- The closure of `create_file` over the parent's directory blocks: the first block with room
takes the entry and is written back. -/
def insertIntoBlock (name : List UInt8) (inodeNumber : UInt32) :
    Bool → (Nat → UInt8) → DirectoryBlock → Option (Bool × Bool × (Nat → UInt8)) :=
  fun foundFreeEntry device dirBlock => do
    match ← dirBlock.insertEntry name inodeNumber .regularFile with
    | some (_, dirBlock) => some (false, true, dirBlock.flush device)
    | none => some (true, foundFreeEntry, device)

/-- `create_file`: `some (none, fs')` is a `None` return, after which `fs'` holds what was
already written. -/
def createFile (parent : Inode) (parentNumber : UInt32) (name : List UInt8) :
    Option (Option (Inode × UInt32) × FileSystem) := do
  if ¬parent.isDir then none
  let (blockGroupIndex, _) ← fs.superblock.inodeLocation parentNumber
  match fs.descriptor blockGroupIndex with
  | none => some (none, fs)
  | some d =>
      let inodeBitmapBlock := fs.inodeBitmapBlock d
      match Bitmap.reserveNextFree inodeBitmapBlock.data with
      | none => some (none, fs)
      | some (localInodeIndex, data) =>
          let fs := fs.withDevice ({ inodeBitmapBlock with data }.flush fs.device)
          let blockBitmapBlock := fs.blockBitmapBlock d
          match Bitmap.reserveNextFree blockBitmapBlock.data with
          | none => some (none, fs)
          | some (blockAddress, data) =>
              let fs := fs.withDevice ({ blockBitmapBlock with data }.flush fs.device)
              -- the bit's index in the group's bitmap becomes the block's address
              let inode := fs.newFileInode parent (UInt32.ofNat blockAddress)
              let inodeNumber ← fs.superblock.inodeNumber blockGroupIndex localInodeIndex
              let fs ← fs.writeInode inode inodeNumber
              let (foundFreeEntry, fs) ←
                fs.iterDirectoryBlocks parent (insertIntoBlock name inodeNumber) false
              if ¬foundFreeEntry then some (none, fs)
              else
                match fs.descriptor blockGroupIndex with
                | none => some (none, fs)
                | some d =>
                    -- `free_inodes_count -= 1`, which panics at zero
                    if d.freeInodesCount = 0 ∨ fs.superblock.freeInodesCount = 0 then none
                    else
                      let d := { d with freeInodesCount := d.freeInodesCount - 1 }
                      let fs : FileSystem :=
                        { fs with
                          blockGroupDescriptors := fs.blockGroupDescriptors.set blockGroupIndex d
                          superblock :=
                            { fs.superblock with freeInodesCount := fs.superblock.freeInodesCount - 1 }
                          blockSize_pos := fs.blockSize_pos }
                      some (some (inode, inodeNumber), fs)

@[simp] theorem newFileInode_withDevice (device : Nat → UInt8) :
    (fs.withDevice device).newFileInode = fs.newFileInode := rfl

@[simp] theorem newFileInode_putBlock (address : Nat) (data : List UInt8) :
    (fs.putBlock address data).newFileInode = fs.newFileInode := rfl

/-! ## What the directory search does -/

section Search

variable {fs} {σ : Type} {inode : Inode}

theorem iterDirectoryBlocks_invariant
    {func : σ → (Nat → UInt8) → DirectoryBlock → Option (Bool × σ × (Nat → UInt8))}
    (keeps : σ → (Nat → UInt8) → Prop)
    (step : ∀ s device block goOn s' device', keeps s device →
      func s device block = some (goOn, s', device') → keeps s' device')
    {s s' : σ} {fs' : FileSystem} (holds : keeps s fs.device)
    (returned : fs.iterDirectoryBlocks inode func s = some (s', fs')) :
    keeps s' fs'.device ∧ fs' = fs.withDevice fs'.device := by
  unfold iterDirectoryBlocks at returned
  split at returned
  · refine fs.iterFileBlocks_invariant keeps ?_ holds returned
    intro s device offset buf goOn s' device' kept called
    simp only [bind, Option.bind_eq_some_iff] at called
    obtain ⟨dirBlock, -, called⟩ := called
    exact step s device dirBlock goOn s' device' kept called
  · cases returned

theorem iterDirectoryBlocks_not_found {name : List UInt8} {inodeNumber : UInt32} {fs' : FileSystem}
    (returned : fs.iterDirectoryBlocks inode (insertIntoBlock name inodeNumber) false =
      some (false, fs')) :
    fs' = fs := by
  -- until an entry is inserted, nothing is flushed
  have step : ∀ found device block goOn found' device',
      (found = false → device = fs.device) →
      insertIntoBlock name inodeNumber found device block = some (goOn, found', device') →
      found' = false → device' = fs.device := by
    intro found device block goOn found' device' kept called
    simp only [insertIntoBlock, bind, Option.bind_eq_some_iff] at called
    obtain ⟨inserted, -, rest⟩ := called
    cases inserted with
    | none =>
        simp only [Option.some.injEq, Prod.mk.injEq] at rest
        obtain ⟨-, rfl, rfl⟩ := rest
        exact kept
    | some pair =>
        simp only [Option.some.injEq, Prod.mk.injEq] at rest
        obtain ⟨-, rfl, -⟩ := rest
        intro impossible
        cases impossible
  obtain ⟨unchanged, shape⟩ := iterDirectoryBlocks_invariant
    (fun found device => found = false → device = fs.device) step (fun _ => rfl) returned
  rw [shape, unchanged rfl, withDevice_self]

theorem iterDirectoryBlocks_withDevice
    {func : σ → (Nat → UInt8) → DirectoryBlock → Option (Bool × σ × (Nat → UInt8))}
    {s s' : σ} {fs' : FileSystem} (returned : fs.iterDirectoryBlocks inode func s = some (s', fs')) :
    fs' = fs.withDevice fs'.device :=
  (iterDirectoryBlocks_invariant (fun _ _ => True) (fun _ _ _ _ _ _ _ _ => trivial) trivial
    returned).2

end Search

/-! ## The ways `create_file` returns -/

/-- Each way out of `create_file`, with what it found and wrote before. The bitmaps are written
back one after the other, so the block bitmap is read after the inode bitmap's flush. -/
inductive CreateOutcome (fs : FileSystem) (parent : Inode) (parentNumber : UInt32)
    (name : List UInt8) : Option (Inode × UInt32) → FileSystem → Prop
  | noDescriptor {g i₀ : Nat}
      (location : fs.superblock.inodeLocation parentNumber = some (g, i₀))
      (missing : fs.descriptor g = none) :
      CreateOutcome fs parent parentNumber name none fs
  | noFreeInode {g i₀ : Nat} {d : BlockGroupDescriptor}
      (location : fs.superblock.inodeLocation parentNumber = some (g, i₀))
      (descriptor : fs.descriptor g = some d)
      (full : Bitmap.reserveNextFree (fs.inodeBitmapBlock d).data = none) :
      CreateOutcome fs parent parentNumber name none fs
  | noFreeBlock {g i₀ localInodeIndex : Nat} {d : BlockGroupDescriptor} {inodeBits : List UInt8}
      (location : fs.superblock.inodeLocation parentNumber = some (g, i₀))
      (descriptor : fs.descriptor g = some d)
      (inodeReserved : Bitmap.reserveNextFree (fs.inodeBitmapBlock d).data =
        some (localInodeIndex, inodeBits))
      (full : Bitmap.reserveNextFree
        ((fs.putBlock d.inodeBitmap.toNat inodeBits).blockBitmapBlock d).data = none) :
      CreateOutcome fs parent parentNumber name none (fs.putBlock d.inodeBitmap.toNat inodeBits)
  | noRoom {g i₀ localInodeIndex blockAddress : Nat} {d : BlockGroupDescriptor}
      {inodeBits blockBits : List UInt8} {inodeNumber : UInt32} {written : FileSystem}
      (location : fs.superblock.inodeLocation parentNumber = some (g, i₀))
      (descriptor : fs.descriptor g = some d)
      (inodeReserved : Bitmap.reserveNextFree (fs.inodeBitmapBlock d).data =
        some (localInodeIndex, inodeBits))
      (blockReserved : Bitmap.reserveNextFree
        ((fs.putBlock d.inodeBitmap.toNat inodeBits).blockBitmapBlock d).data =
          some (blockAddress, blockBits))
      (numbered : fs.superblock.inodeNumber g localInodeIndex = some inodeNumber)
      (inodeWritten : ((fs.putBlock d.inodeBitmap.toNat inodeBits).putBlock d.blockBitmap.toNat
        blockBits).writeInode (fs.newFileInode parent (UInt32.ofNat blockAddress)) inodeNumber =
          some written)
      (noEntry : written.iterDirectoryBlocks parent (insertIntoBlock name inodeNumber) false =
        some (false, written)) :
      CreateOutcome fs parent parentNumber name none written
  | created {g i₀ localInodeIndex blockAddress : Nat} {d : BlockGroupDescriptor}
      {inodeBits blockBits : List UInt8} {inodeNumber : UInt32} {written inserted : FileSystem}
      (location : fs.superblock.inodeLocation parentNumber = some (g, i₀))
      (descriptor : fs.descriptor g = some d)
      (inodeReserved : Bitmap.reserveNextFree (fs.inodeBitmapBlock d).data =
        some (localInodeIndex, inodeBits))
      (blockReserved : Bitmap.reserveNextFree
        ((fs.putBlock d.inodeBitmap.toNat inodeBits).blockBitmapBlock d).data =
          some (blockAddress, blockBits))
      (numbered : fs.superblock.inodeNumber g localInodeIndex = some inodeNumber)
      (inodeWritten : ((fs.putBlock d.inodeBitmap.toNat inodeBits).putBlock d.blockBitmap.toNat
        blockBits).writeInode (fs.newFileInode parent (UInt32.ofNat blockAddress)) inodeNumber =
          some written)
      (entry : written.iterDirectoryBlocks parent (insertIntoBlock name inodeNumber) false =
        some (true, inserted))
      (groupCount : d.freeInodesCount ≠ 0) (totalCount : fs.superblock.freeInodesCount ≠ 0) :
      CreateOutcome fs parent parentNumber name
        (some (fs.newFileInode parent (UInt32.ofNat blockAddress), inodeNumber))
        ⟨{ fs.superblock with freeInodesCount := fs.superblock.freeInodesCount - 1 },
          fs.blockGroupDescriptors.set g { d with freeInodesCount := d.freeInodesCount - 1 },
          inserted.device, fs.blockSize_pos⟩

theorem createFile_outcome {parent : Inode} {parentNumber : UInt32} {name : List UInt8}
    {result : Option (Inode × UInt32)} {fs' : FileSystem}
    (returned : fs.createFile parent parentNumber name = some (result, fs')) :
    parent.isDir ∧ CreateOutcome fs parent parentNumber name result fs' := by
  unfold createFile at returned
  by_cases dir : parent.isDir
  swap
  · simp [dir] at returned
  refine ⟨dir, ?_⟩
  simp only [dir, not_true_eq_false, if_false, bind, Option.bind_eq_some_iff] at returned
  obtain ⟨⟨g, i₀⟩, location, returned⟩ := returned
  split at returned
  · rename_i missing
    simp only [Option.some.injEq, Prod.mk.injEq] at returned
    obtain ⟨rfl, rfl⟩ := returned
    exact .noDescriptor location missing
  rename_i d descriptor
  split at returned
  · rename_i full
    simp only [Option.some.injEq, Prod.mk.injEq] at returned
    obtain ⟨rfl, rfl⟩ := returned
    exact .noFreeInode location descriptor full
  rename_i localInodeIndex inodeBits inodeReserved
  simp only [withDevice_flush_inodeBitmapBlock] at returned
  split at returned
  · rename_i full
    simp only [Option.some.injEq, Prod.mk.injEq] at returned
    obtain ⟨rfl, rfl⟩ := returned
    exact .noFreeBlock location descriptor inodeReserved full
  rename_i blockAddress blockBits blockReserved
  simp only [withDevice_flush_blockBitmapBlock, superblock_putBlock, newFileInode_putBlock,
    Option.bind_eq_some_iff] at returned
  obtain ⟨inodeNumber, numbered, written, inodeWritten, ⟨found, inserted⟩, search, rest⟩ := returned
  cases found with
  | false =>
      simp only [Bool.false_eq_true, not_false_eq_true, if_true, Option.some.injEq,
        Prod.mk.injEq] at rest
      obtain ⟨rfl, rfl⟩ := rest
      have same := iterDirectoryBlocks_not_found search
      subst same
      exact .noRoom location descriptor inodeReserved blockReserved numbered inodeWritten search
  | true =>
      -- the descriptors and the superblock are those of `fs` all along
      obtain ⟨g', i', d', data, -, -, -, -, writtenEq⟩ := writeInode_eq_some inodeWritten
      have insertedShape := iterDirectoryBlocks_withDevice search
      have sameDescriptor : inserted.descriptor g = some d := by
        rw [insertedShape, writtenEq, descriptor_withDevice, descriptor_putBlock, descriptor_putBlock,
          descriptor_putBlock, descriptor]
      have sameSuperblock : inserted.superblock = fs.superblock := by
        rw [insertedShape, writtenEq]
        rfl
      have sameDescriptors : inserted.blockGroupDescriptors = fs.blockGroupDescriptors := by
        rw [insertedShape, writtenEq]
        rfl
      simp only [if_false, not_true_eq_false, sameDescriptor] at rest
      split at rest
      · cases rest
      rename_i counts
      rw [sameSuperblock] at counts
      simp only [Option.some.injEq, Prod.mk.injEq] at rest
      obtain ⟨rfl, rfl⟩ := rest
      simp only [sameSuperblock, sameDescriptors]
      exact .created location descriptor inodeReserved blockReserved numbered inodeWritten search
        (fun zero => counts (Or.inl zero)) (fun zero => counts (Or.inr zero))

/-- A file that `create_file` made records as its block the index of the bit it reserved in the
group's block bitmap, and neither free block count goes down. -/
theorem createFile_records_bit_index {parent : Inode} {parentNumber : UInt32} {name : List UInt8}
    {inode : Inode} {inodeNumber : UInt32} {fs' : FileSystem}
    (apart : ∀ d ∈ fs.blockGroupDescriptors, d.inodeBitmap ≠ d.blockBitmap)
    (returned : fs.createFile parent parentNumber name = some (some (inode, inodeNumber), fs')) :
    ∃ g d blockAddress, fs.descriptor g = some d ∧
      Bitmap.isUsed (fs.blockBitmapBlock d).data blockAddress = some false ∧
      inode.directBlocks[0] = UInt32.ofNat blockAddress ∧
      fs'.superblock.freeBlocksCount = fs.superblock.freeBlocksCount ∧
      (fs'.descriptor g).map (·.freeBlocksCount) = some d.freeBlocksCount := by
  obtain ⟨-, outcome⟩ := fs.createFile_outcome returned
  cases outcome with
  | @created g i₀ localInodeIndex blockAddress d inodeBits blockBits inodeNumber written inserted
      location descriptor inodeReserved blockReserved numbered inodeWritten entry groupCount
      totalCount =>
      have inodeLength := fs.length_of_reserve_read inodeReserved
      have separate : d.inodeBitmap.toNat ≠ d.blockBitmap.toNat := fun same =>
        apart d (List.mem_of_getElem? descriptor) (UInt32.toNat_inj.mp same)
      have sameBitmap : (fs.putBlock d.inodeBitmap.toNat inodeBits).blockBitmapBlock d =
          fs.blockBitmapBlock d :=
        fs.read_putBlock_of_ne inodeLength separate
      rw [sameBitmap] at blockReserved
      obtain ⟨-, free, -, -⟩ := Bitmap.reserveNextFree_spec blockReserved
      have inBounds : g < fs.blockGroupDescriptors.length :=
        (List.getElem?_eq_some_iff.mp descriptor).1
      refine ⟨g, d, blockAddress, descriptor, free, by simp [newFileInode], rfl, ?_⟩
      show (fs.blockGroupDescriptors.set g { d with freeInodesCount := d.freeInodesCount - 1 })[g]?.map
        (·.freeBlocksCount) = some d.freeBlocksCount
      rw [List.getElem?_set_self inBounds]
      rfl

/-- On the sample image, whose first data block is 1, `create_file` reserves bit 10, which stands
for block 11, and records block 10. -/
theorem createFile_records_bit_index_sample :
    ∃ inode inodeNumber fs', sample.createFile sampleRoot 2 [97] =
        some (some (inode, inodeNumber), fs') ∧ inode.directBlocks[0] = 10 ∧
      ∃ g d blockAddress, sample.descriptor g = some d ∧
        Bitmap.isUsed (sample.blockBitmapBlock d).data blockAddress = some false ∧
        inode.directBlocks[0] = UInt32.ofNat blockAddress ∧
        fs'.superblock.freeBlocksCount = sample.superblock.freeBlocksCount ∧
        (fs'.descriptor g).map (·.freeBlocksCount) = some d.freeBlocksCount := by
  have computed : (sample.createFile sampleRoot 2 [97]).map
      (fun r => r.1.map (·.1.directBlocks[0])) = some (some 10) := by
    decide +kernel
  have apart : ∀ d ∈ sample.blockGroupDescriptors, d.inodeBitmap ≠ d.blockBitmap := by
    decide
  cases returned : sample.createFile sampleRoot 2 [97] with
  | none => simp [returned] at computed
  | some r =>
      obtain ⟨result, fs'⟩ := r
      cases result with
      | none => simp [returned] at computed
      | some created =>
          obtain ⟨inode, inodeNumber⟩ := created
          simp only [returned, Option.map_some, Option.some.injEq] at computed
          exact ⟨inode, inodeNumber, fs', rfl, computed,
            createFile_records_bit_index _ apart returned⟩

end FileSystem

end RustOs.Ext2
