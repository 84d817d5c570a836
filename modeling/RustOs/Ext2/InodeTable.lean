import RustOs.Ext2.FileSystem

/-!
# The inode table

Where `read_inode` and `write_inode` find an inode: group `(n - 1) / inodes_per_group`, index
`(n - 1) % inodes_per_group` there, and byte `s_inode_size * index` of the group's inode table,
split into a block and an offset in it. `write_inode` writes the whole block back with the
inode's 128 bytes spliced in, so only those bytes change. The slot size is the superblock's
`s_inode_size` in every revision; on a revision-0 disk that field is zero, so every inode of a
group is at the same place.
-/

namespace RustOs.Ext2

open Splice

namespace FileSystem

variable (fs : FileSystem)

def slotBlock (tableAddress : UInt32) (localInodeIndex : Nat) : Nat :=
  tableAddress.toNat + fs.superblock.sInodeSize.toNat * localInodeIndex / fs.blockSize

def slotOffset (localInodeIndex : Nat) : Nat :=
  fs.superblock.sInodeSize.toNat * localInodeIndex % fs.blockSize

theorem inodeBlock_eq (d : BlockGroupDescriptor) (localInodeIndex : Nat) :
    fs.inodeBlock d localInodeIndex =
      some (fs.read (fs.slotBlock d.inodeTable localInodeIndex), fs.slotOffset localInodeIndex) := by
  simp only [inodeBlock, Superblock.inodeBlockAndOffset_eq _ fs.blockSize_pos]
  rfl

def slotStart (tableAddress : UInt32) (localInodeIndex : Nat) : Nat :=
  tableAddress.toNat * fs.blockSize + fs.superblock.sInodeSize.toNat * localInodeIndex

theorem slot_start_eq (tableAddress : UInt32) (localInodeIndex : Nat) :
    fs.slotBlock tableAddress localInodeIndex * fs.blockSize + fs.slotOffset localInodeIndex =
      fs.slotStart tableAddress localInodeIndex :=
  Superblock.slot_start _ _ _

@[simp] theorem slotBlock_withDevice (device : Nat → UInt8) :
    (fs.withDevice device).slotBlock = fs.slotBlock := rfl

@[simp] theorem slotOffset_withDevice (device : Nat → UInt8) :
    (fs.withDevice device).slotOffset = fs.slotOffset := rfl

@[simp] theorem slotBlock_putBlock (address : Nat) (data : List UInt8) :
    (fs.putBlock address data).slotBlock = fs.slotBlock := rfl

@[simp] theorem slotOffset_putBlock (address : Nat) (data : List UInt8) :
    (fs.putBlock address data).slotOffset = fs.slotOffset := rfl

section Write

variable {fs} {inode : Inode} {inodeNumber : UInt32} {g i : Nat} {d : BlockGroupDescriptor}

theorem writeInode_of_used (location : fs.superblock.inodeLocation inodeNumber = some (g, i))
    (descriptor : fs.descriptor g = some d)
    (used : Bitmap.isUsed (fs.inodeBitmapBlock d).data i = some true)
    (fits : fs.slotOffset i + 128 ≤ fs.blockSize) :
    ∃ data, Inode.codec.setAt (fs.read (fs.slotBlock d.inodeTable i)).data (fs.slotOffset i) inode =
        some data ∧
      fs.writeInode inode inodeNumber = some (fs.putBlock (fs.slotBlock d.inodeTable i) data) := by
  have setOk : Inode.codec.setAt (fs.read (fs.slotBlock d.inodeTable i)).data (fs.slotOffset i) inode =
      some (splice (fs.read (fs.slotBlock d.inodeTable i)).data (fs.slotOffset i)
        (Inode.codec.encode inode)) := by
    unfold Codec.setAt
    rw [if_pos (by rw [length_read_data, Inode.codec_size]; exact fits)]
  refine ⟨_, setOk, ?_⟩
  simp only [writeInode, location, descriptor, used, inodeBlock_eq, setOk, bind, Option.bind_some,
    if_true, withDevice_flush_read]

theorem writeInode_eq_some {fs' : FileSystem} (written : fs.writeInode inode inodeNumber = some fs') :
    ∃ g i d data, fs.superblock.inodeLocation inodeNumber = some (g, i) ∧
      fs.descriptor g = some d ∧ Bitmap.isUsed (fs.inodeBitmapBlock d).data i = some true ∧
      Inode.codec.setAt (fs.read (fs.slotBlock d.inodeTable i)).data (fs.slotOffset i) inode =
        some data ∧
      fs' = fs.putBlock (fs.slotBlock d.inodeTable i) data := by
  unfold writeInode at written
  simp only [bind, Option.bind_eq_some_iff, inodeBlock_eq] at written
  obtain ⟨⟨g, i⟩, location, d, descriptor, used, usedEq, rest⟩ := written
  cases used with
  | false => simp at rest
  | true =>
      simp only [if_true, Option.bind_some, Option.bind_eq_some_iff, Option.some.injEq] at rest
      obtain ⟨data, setOk, rfl⟩ := rest
      exact ⟨g, i, d, data, location, descriptor, usedEq, setOk, withDevice_flush_read ..⟩

theorem writeInode_at {fs' : FileSystem} (written : fs.writeInode inode inodeNumber = some fs')
    (location : fs.superblock.inodeLocation inodeNumber = some (g, i))
    (descriptor : fs.descriptor g = some d) :
    Bitmap.isUsed (fs.inodeBitmapBlock d).data i = some true ∧
      ∃ data, Inode.codec.setAt (fs.read (fs.slotBlock d.inodeTable i)).data (fs.slotOffset i)
        inode = some data ∧ fs' = fs.putBlock (fs.slotBlock d.inodeTable i) data := by
  obtain ⟨g', i', d', data, location', descriptor', used, setOk, rfl⟩ := writeInode_eq_some written
  obtain ⟨rfl, rfl⟩ : g = g' ∧ i = i' := by simpa [location'] using location.symm
  obtain rfl : d = d' := by simpa [descriptor'] using descriptor.symm
  exact ⟨used, data, setOk, rfl⟩

theorem device_writeInode_of_outside {fs' : FileSystem}
    (written : fs.writeInode inode inodeNumber = some fs')
    (location : fs.superblock.inodeLocation inodeNumber = some (g, i))
    (descriptor : fs.descriptor g = some d) {a : Nat}
    (outside : a < fs.slotStart d.inodeTable i ∨ fs.slotStart d.inodeTable i + 128 ≤ a) :
    fs'.device a = fs.device a := by
  obtain ⟨-, data, setOk, rfl⟩ := writeInode_at written location descriptor
  obtain ⟨fits, rfl⟩ := Inode.codec.setAt_eq_some setOk
  rw [length_read_data, Inode.codec_size] at fits
  rw [device_putBlock, read_eq]
  apply ByteStore.write_splice_read_apply (by rw [Inode.codec.length_encode, Inode.codec_size]; exact fits)
  rw [Inode.codec.length_encode, Inode.codec_size, slot_start_eq]
  exact outside

theorem readInode_writeInode_of_slot {fs' : FileSystem} {other : UInt32} {j : Nat}
    (written : fs.writeInode inode inodeNumber = some fs')
    (location : fs.superblock.inodeLocation inodeNumber = some (g, i))
    (otherLocation : fs.superblock.inodeLocation other = some (g, j))
    (descriptor : fs.descriptor g = some d)
    (otherUsed : Bitmap.isUsed (fs.inodeBitmapBlock d).data j = some true)
    (sameSlot : fs.superblock.sInodeSize.toNat * j = fs.superblock.sInodeSize.toNat * i)
    (apart : d.inodeBitmap.toNat ≠ fs.slotBlock d.inodeTable i) :
    fs'.readInode other = some (some inode) := by
  obtain ⟨-, data, setOk, rfl⟩ := writeInode_at written location descriptor
  have length : data.length = fs.blockSize := by
    rw [Inode.codec.length_setAt setOk, length_read_data]
  have blockEq : fs.slotBlock d.inodeTable j = fs.slotBlock d.inodeTable i := by
    simp only [slotBlock, sameSlot]
  have offsetEq : fs.slotOffset j = fs.slotOffset i := by
    simp only [slotOffset, sameSlot]
  have bitmap : (fs.putBlock (fs.slotBlock d.inodeTable i) data).inodeBitmapBlock d =
      fs.inodeBitmapBlock d :=
    read_putBlock_of_ne fs length (Ne.symm apart)
  simp only [readInode, superblock_putBlock, otherLocation, descriptor_putBlock, descriptor, bitmap,
    otherUsed, inodeBlock_eq, slotBlock_putBlock, slotOffset_putBlock, blockEq, offsetEq,
    read_putBlock_self fs length, Inode.codec.getAt_setAt_self setOk, bind, Option.bind_some]

theorem readInode_writeInode_self {fs' : FileSystem} (written : fs.writeInode inode inodeNumber = some fs')
    (location : fs.superblock.inodeLocation inodeNumber = some (g, i))
    (descriptor : fs.descriptor g = some d)
    (apart : d.inodeBitmap.toNat ≠ fs.slotBlock d.inodeTable i) :
    fs'.readInode inodeNumber = some (some inode) := by
  obtain ⟨used, -⟩ := writeInode_at written location descriptor
  exact readInode_writeInode_of_slot written location location descriptor used rfl apart

theorem slots_disjoint (tableAddress : UInt32) {j : Nat} (large : 128 ≤ fs.superblock.sInodeSize.toNat)
    (other : j ≠ i) :
    fs.slotStart tableAddress i + 128 ≤ fs.slotStart tableAddress j ∨
      fs.slotStart tableAddress j + 128 ≤ fs.slotStart tableAddress i := by
  unfold slotStart
  rcases Nat.lt_or_gt_of_ne other with lt | gt
  · right
    have := Nat.mul_le_mul_left fs.superblock.sInodeSize.toNat (show j + 1 ≤ i by omega)
    rw [Nat.mul_add, Nat.mul_one] at this
    omega
  · left
    have := Nat.mul_le_mul_left fs.superblock.sInodeSize.toNat (show i + 1 ≤ j by omega)
    rw [Nat.mul_add, Nat.mul_one] at this
    omega

theorem read_slot_writeInode_of_ne {fs' : FileSystem} {j : Nat}
    (written : fs.writeInode inode inodeNumber = some fs')
    (location : fs.superblock.inodeLocation inodeNumber = some (g, i))
    (descriptor : fs.descriptor g = some d) (large : 128 ≤ fs.superblock.sInodeSize.toNat)
    (other : j ≠ i) :
    ByteStore.read fs'.device (fs.slotStart d.inodeTable j) 128 =
      ByteStore.read fs.device (fs.slotStart d.inodeTable j) 128 := by
  apply ByteStore.read_ext
  intro k hk
  apply device_writeInode_of_outside written location descriptor
  rcases fs.slots_disjoint d.inodeTable large other with before | after
  · right
    omega
  · left
    omega

end Write

/-! ## Revision 0 -/

/-- On a revision-0 disk `s_inode_size` reads as zero, and every inode of a group is at the
start of the group's inode table: writing one inode changes what every other used inode of the
group reads. -/
theorem writeInode_rev0_aliases (fs : FileSystem) (inode : Inode) {inodeNumber other : UInt32}
    {g i j : Nat} {d : BlockGroupDescriptor} (zeroSize : fs.superblock.sInodeSize = 0)
    (location : fs.superblock.inodeLocation inodeNumber = some (g, i))
    (otherLocation : fs.superblock.inodeLocation other = some (g, j))
    (descriptor : fs.descriptor g = some d)
    (used : Bitmap.isUsed (fs.inodeBitmapBlock d).data i = some true)
    (otherUsed : Bitmap.isUsed (fs.inodeBitmapBlock d).data j = some true)
    (apart : d.inodeBitmap ≠ d.inodeTable) :
    ∃ fs', fs.writeInode inode inodeNumber = some fs' ∧ fs'.readInode other = some (some inode) := by
  have fits : fs.slotOffset i + 128 ≤ fs.blockSize := by
    have := fs.superblock.le_blockSize fs.blockSize_pos
    simp only [slotOffset, zeroSize, UInt16.toNat_zero, Nat.zero_mul, Nat.zero_mod, Nat.zero_add]
    exact le_trans (by decide) this
  obtain ⟨data, -, written⟩ := writeInode_of_used location descriptor used fits
  refine ⟨_, written, readInode_writeInode_of_slot written location otherLocation descriptor
    otherUsed (by simp [zeroSize]) ?_⟩
  simp only [slotBlock, zeroSize, UInt16.toNat_zero, Nat.zero_mul, Nat.zero_div, Nat.add_zero]
  exact fun same => apart (UInt32.toNat_inj.mp same)

def sampleRev0 : FileSystem :=
  ⟨{ sampleSuperblock with revLevel := 0, sInodeSize := 0 }, [⟨3, 4, 5, 40, 20⟩], sampleDevice,
    by decide⟩

theorem writeInode_rev0_aliases_sample :
    ∃ fs', sampleRev0.writeInode sampleRoot 1 = some fs' ∧ fs'.readInode 2 = some (some sampleRoot) :=
  writeInode_rev0_aliases sampleRev0 sampleRoot (g := 0) (i := 0) (j := 1) (d := ⟨3, 4, 5, 40, 20⟩)
    rfl (by decide) (by decide) rfl (by decide +kernel) (by decide +kernel) (by decide)

end FileSystem

end RustOs.Ext2
