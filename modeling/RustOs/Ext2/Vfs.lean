import RustOs.Ext2.Create

/-!
# Files and paths through the VFS

`VFSInode` of `fs/ext2/vfs.rs` with `read`, `write` and `read_all` of `vfs/fs.rs`, the walk of
`traverse_path` and `get_path_inode`, and the shell's `WriteToFile`. `read` copies block by
block: from the block of `offset` to the block of `end`, the slice
`[current_offset % block_size, min(block_size, end - current_offset))` of each. `write` fills
the blocks that `iter_file_blocks` yields, in order, with the data and then zeros, and records
the length in `size_low`. Every file and directory shares the one mounted file system.
-/

namespace RustOs.Ext2

open Splice

/-- `VFSInode<D>`. -/
structure VFSInode where
  inodeNumber : UInt32
  inode : Inode
  deriving DecidableEq, Repr

inductive FileInodeReadResult where
  | success
  | done (bytesRead : Nat)
  deriving DecidableEq, Repr

namespace VFSInode

/-- The `for` loop of `read` over its blocks. Each slice is copied to
`buffer[bytes_read..bytes_read + slice.len()]`; a slice whose ends are out of order or past the
block, or a copy past the buffer, panics. -/
def readLoop (fs : FileSystem) (inode : Inode) (blockSize end_ : Nat) :
    List Nat → Nat → Nat → List UInt8 → Option (Nat × List UInt8)
  | [], _, bytesRead, buffer => some (bytesRead, buffer)
  | block :: blocks, currentOffset, bytesRead, buffer => do
      let blockBuffer ← fs.readInodeBlock inode block
      let sliceStart := currentOffset % blockSize
      -- `end - current_offset` is a `usize` subtraction
      if end_ < currentOffset then none
      else
        let sliceEnd := min blockSize (end_ - currentOffset)
        if sliceEnd < sliceStart ∨ blockBuffer.data.length < sliceEnd then none
        else
          let len := sliceEnd - sliceStart
          if buffer.length < bytesRead + len then none
          else
            let buffer := splice buffer bytesRead (slice blockBuffer.data sliceStart len)
            readLoop fs inode blockSize end_ blocks (currentOffset + len) (bytesRead + len) buffer

/-- `FileInode::read`: the result and the buffer it filled. -/
def read (fs : FileSystem) (self : VFSInode) (buffer : List UInt8) (offset : Nat) :
    Option (FileInodeReadResult × List UInt8) :=
  if ¬self.inode.isFile then none
  else
    let blockSize := fs.superblock.blockSize
    let fileSize := fs.superblock.inodeSize self.inode
    let end_ := min fileSize (offset + buffer.length)
    let startBlock := offset / blockSize
    let endBlock := (end_ + blockSize - 1) / blockSize
    (readLoop fs self.inode blockSize end_ (List.range' startBlock (endBlock - startBlock)) offset 0
        buffer).map fun (bytesRead, buffer) =>
      (if end_ = fileSize then .done bytesRead else .success, buffer)

def fillBytes (data : List UInt8) : List UInt8 → Nat → List UInt8 × Nat
  | [], writtenBytes => ([], writtenBytes)
  | _ :: bytes, writtenBytes =>
      let (byte, writtenBytes) :=
        if h : writtenBytes < data.length then (data[writtenBytes], writtenBytes + 1)
        else (0, writtenBytes)
      let (rest, writtenBytes) := fillBytes data bytes writtenBytes
      (byte :: rest, writtenBytes)

/-- The closure of `write` on each block of the file; its state is `written_bytes`. -/
def writeBlock (data : List UInt8) :
    Nat → (Nat → UInt8) → Nat → BlockBuffer → Option (Bool × Nat × (Nat → UInt8)) :=
  fun writtenBytes device _ blockBuf =>
    if data.length ≤ writtenBytes then some (false, writtenBytes, device)
    else
      let (bytes, writtenBytes) := fillBytes data blockBuf.data writtenBytes
      some (true, writtenBytes, { blockBuf with data := bytes }.flush device)

/-- `FileInode::write`, which asserts that every byte found a block. -/
def write (fs : FileSystem) (self : VFSInode) (data : List UInt8) :
    Option (FileSystem × VFSInode) := do
  if ¬self.inode.isFile then none
  else
    let (writtenBytes, fs) ← fs.iterFileBlocks self.inode (writeBlock data) 0
    if writtenBytes ≠ data.length then none
    else
      let inode := { self.inode with sizeLow := UInt32.ofNat data.length }
      let fs ← fs.writeInode inode self.inodeNumber
      some (fs, { self with inode })

/-- The `loop` of `read_all`, in steps of 4096 bytes. -/
def readAllLoop (fs : FileSystem) (self : VFSInode) :
    Nat → Nat → List UInt8 → Option (List UInt8)
  | 0, _, _ => none
  | fuel + 1, offset, buffer => do
      match ← self.read fs (List.replicate 4096 0) offset with
      | (.success, readBuffer) => readAllLoop fs self fuel (offset + 4096) (buffer ++ readBuffer)
      | (.done bytesRead, readBuffer) =>
          if bytesRead ≤ 4096 then some (buffer ++ readBuffer.take bytesRead) else none

/-- `FileInode::read_all`. A `Success` comes only from a read that ends before the file does,
so `file_size / 4096 + 1` rounds are enough. -/
def readAll (fs : FileSystem) (self : VFSInode) : Option (List UInt8) :=
  self.readAllLoop fs (fs.superblock.inodeSize self.inode / 4096 + 1) 0 []

end VFSInode

/-! ## Directories and paths -/

inductive DirectoryEntryType where
  | file
  | directory
  deriving DecidableEq, Repr

/-- `vfs::InodeType` over ext2: both kinds are a `VFSInode`. -/
inductive InodeType where
  | file (inode : VFSInode)
  | directory (inode : VFSInode)
  deriving DecidableEq, Repr

/-- `EXT2DirectoryEntry`. -/
structure Ext2DirectoryEntry where
  inodeNumber : UInt32
  name : String
  entryType : DirectoryEntryType
  deriving DecidableEq, Repr

/-- The root directory of the file system is always inode 2. -/
def rootDirectory : UInt32 := 2

def InodeType.ofVFSInode (v : VFSInode) : Option InodeType :=
  if v.inode.isFile then some (.file v)
  else if v.inode.isDir then some (.directory v)
  else none

namespace FileSystem

variable (fs : FileSystem)

def readRoot : Option InodeType := do
  let inode ← (← fs.readInode rootDirectory)
  InodeType.ofVFSInode ⟨rootDirectory, inode⟩

/-- The entries of one directory block, for `subdirectories`. -/
def blockEntries (block : DirectoryBlock) : Option (List Ext2DirectoryEntry) := do
  let entries ← block.iter
  entries.mapM fun entry => do
    let isFile ← entry.isFile
    let isDir ← entry.isDir
    let entryType ← if isFile then some DirectoryEntryType.file
      else if isDir then some DirectoryEntryType.directory else none
    let inodeNumber ← entry.inodeNumber
    let name ← entry.name
    some ⟨inodeNumber, name, entryType⟩

/-- `DirectoryInode::subdirectories`. -/
def subdirectories (self : VFSInode) : Option (List Ext2DirectoryEntry) := do
  if ¬self.inode.isDir then none
  else
    let (entries, _) ← fs.iterDirectoryBlocks self.inode (fun entries device block => do
      let more ← blockEntries block
      some (true, entries ++ more, device)) []
    some entries

/-- `EXT2DirectoryEntry::get_inode`, which panics on an inode it cannot read. -/
def getInode (entry : Ext2DirectoryEntry) : Option InodeType := do
  let inode ← (← fs.readInode entry.inodeNumber)
  InodeType.ofVFSInode ⟨entry.inodeNumber, inode⟩

/-- `DirectoryInode::create_file` of a `VFSInode`. -/
def createFileAt (self : VFSInode) (name : String) : Option (Option VFSInode × FileSystem) := do
  if ¬self.inode.isDir then none
  else
    let (r, fs) ← fs.createFile self.inode self.inodeNumber name.toUTF8.toList
    some (r.map fun (inode, inodeNumber) => ⟨inodeNumber, inode⟩, fs)

end FileSystem

/-! ### What a listing and `get_inode` return -/

theorem mapM_eq_none_of_mem {α β : Type} {f : α → Option β} {a : α} (h : f a = none) :
    ∀ {l : List α}, a ∈ l → l.mapM f = none
  | _ :: _, .head _ => by simp [List.mapM_cons, h]
  | b :: _, .tail _ mem => by
      rw [List.mapM_cons, mapM_eq_none_of_mem h mem]
      cases f b <;> rfl

theorem mapM_of_follows {α β γ : Type} {f : α → Option β} {g : α → Option γ} {h : β → γ}
    (follows : ∀ a b, f a = some b → g a = some (h b)) :
    ∀ {l : List α} {r : List β}, l.mapM f = some r → l.mapM g = some (r.map h)
  | [], r, found => by
      simp only [List.mapM_nil, pure, Option.some.injEq] at found
      subst found
      rfl
  | a :: l, r, found => by
      rw [List.mapM_cons] at found ⊢
      simp only [bind, Option.bind_eq_some_iff, pure, Option.some.injEq] at found
      obtain ⟨b, first, rest, restFound, rfl⟩ := found
      simp only [follows a b first, mapM_of_follows follows restFound, bind, Option.bind_some,
        pure, List.map_cons]

theorem InodeType.ofVFSInode_format (v : VFSInode) :
    (InodeType.ofVFSInode v = some (.file v) ↔ 0x8000 ≤ (v.inode.mode &&& 0xF000).toNat) ∧
      (InodeType.ofVFSInode v = some (.directory v) ↔
        0x4000 ≤ (v.inode.mode &&& 0xF000).toNat ∧ (v.inode.mode &&& 0xF000).toNat < 0x8000) ∧
      (InodeType.ofVFSInode v = none ↔ (v.inode.mode &&& 0xF000).toNat < 0x4000) := by
  have file := InodeMode.contains_ifreg_iff v.inode.mode
  have dir := InodeMode.contains_ifdir_iff v.inode.mode
  unfold InodeType.ofVFSInode Inode.isFile Inode.isDir
  cases isFile : InodeMode.contains v.inode.mode InodeMode.ifreg with
  | true =>
      have high := file.mp isFile
      rw [if_pos rfl]
      refine ⟨iff_of_true rfl high, iff_of_false (by simp) ?_, iff_of_false (by simp) ?_⟩ <;>
        omega
  | false =>
      have low : ¬0x8000 ≤ (v.inode.mode &&& 0xF000).toNat := fun high => by
        simpa [isFile] using file.mpr high
      cases isDir : InodeMode.contains v.inode.mode InodeMode.ifdir with
      | true =>
          have middle := dir.mp ⟨isFile, isDir⟩
          rw [if_neg Bool.false_ne_true, if_pos rfl]
          refine ⟨iff_of_false (by simp) low, iff_of_true rfl middle, iff_of_false (by simp) ?_⟩
          omega
      | false =>
          have notMiddle : ¬(0x4000 ≤ (v.inode.mode &&& 0xF000).toNat ∧
              (v.inode.mode &&& 0xF000).toNat < 0x8000) := fun middle => by
            simpa [isDir] using (dir.mpr middle).2
          rw [if_neg Bool.false_ne_true, if_neg Bool.false_ne_true]
          refine ⟨iff_of_false (by simp) low, iff_of_false (by simp) notMiddle,
            iff_of_true rfl ?_⟩
          omega

namespace FileSystem

theorem blockEntries_of_other_type {block : DirectoryBlock} {entries : List DirectoryEntry}
    (iter : block.iter = some entries) {entry : DirectoryEntry} (mem : entry ∈ entries)
    {t : DirectoryEntryFileType} (typed : entry.fileType = some t) (notFile : t ≠ .regularFile)
    (notDir : t ≠ .directory) :
    blockEntries block = none := by
  unfold blockEntries
  rw [iter, Option.bind_eq_bind, Option.bind_some]
  apply mapM_eq_none_of_mem _ mem
  simp [DirectoryEntry.isFile, DirectoryEntry.isDir, typed, notFile, notDir]

theorem blockEntries_lists_all {block : DirectoryBlock} {listed : List Ext2DirectoryEntry}
    (found : blockEntries block = some listed) :
    ∃ entries, block.iter = some entries ∧
      entries.mapM (fun entry => do some (← entry.inodeNumber, ← entry.name)) =
        some (listed.map fun e => (e.inodeNumber, e.name)) := by
  unfold blockEntries at found
  simp only [bind, Option.bind_eq_some_iff] at found
  obtain ⟨entries, iter, listing⟩ := found
  refine ⟨entries, iter, mapM_of_follows ?_ listing⟩
  intro entry e made
  simp only [Option.bind_eq_some_iff] at made
  obtain ⟨isFile, -, isDir, -, typed⟩ := made
  -- whichever type the entry has, the inode number and the name are read the same way
  have reads : ∀ entryType, (entry.inodeNumber.bind fun n => entry.name.bind fun name =>
      some (⟨n, name, entryType⟩ : Ext2DirectoryEntry)) = some e →
      (entry.inodeNumber.bind fun n => entry.name.bind fun name => some (n, name)) =
        some (e.inodeNumber, e.name) := by
    intro entryType found
    simp only [Option.bind_eq_some_iff, Option.some.injEq] at found
    obtain ⟨n, numbered, name, named, rfl⟩ := found
    simp [numbered, named]
  by_cases file : isFile = true
  · rw [if_pos file, Option.bind_some] at typed
    exact reads _ typed
  by_cases dir : isDir = true
  · rw [if_neg file, if_pos dir, Option.bind_some] at typed
    exact reads _ typed
  · rw [if_neg file, if_neg dir, Option.bind_none] at typed
    cases typed

theorem getInode_of_readInode {fs : FileSystem} {entry : Ext2DirectoryEntry} {inode : Inode}
    (read : fs.readInode entry.inodeNumber = some (some inode)) :
    fs.getInode entry = InodeType.ofVFSInode ⟨entry.inodeNumber, inode⟩ := by
  simp only [getInode, read, bind, Option.bind_some]

end FileSystem

/-- A listing keeps every entry of a block, unused ones of inode number 0 too, and panics on an
entry of any type but a regular file and a directory; `get_inode` tells a file from a directory
by bits 15 and 14 of the mode alone. -/
theorem listing_and_getInode_by_format :
    (∀ (block : DirectoryBlock) (entries : List DirectoryEntry), block.iter = some entries →
      (∀ listed, FileSystem.blockEntries block = some listed →
        entries.mapM (fun entry => do some (← entry.inodeNumber, ← entry.name)) =
          some (listed.map fun e => (e.inodeNumber, e.name))) ∧
      ∀ entry ∈ entries, ∀ t, entry.fileType = some t → t ≠ .regularFile → t ≠ .directory →
        FileSystem.blockEntries block = none) ∧
    ∀ (fs : FileSystem) (entry : Ext2DirectoryEntry) (inode : Inode),
      fs.readInode entry.inodeNumber = some (some inode) →
      (fs.getInode entry = some (.file ⟨entry.inodeNumber, inode⟩) ↔
        0x8000 ≤ (inode.mode &&& 0xF000).toNat) ∧
      (fs.getInode entry = some (.directory ⟨entry.inodeNumber, inode⟩) ↔
        0x4000 ≤ (inode.mode &&& 0xF000).toNat ∧ (inode.mode &&& 0xF000).toNat < 0x8000) ∧
      (fs.getInode entry = none ↔ (inode.mode &&& 0xF000).toNat < 0x4000) := by
  refine ⟨fun block entries iter => ⟨fun listed found => ?_, ?_⟩, fun fs entry inode read => ?_⟩
  · obtain ⟨entries', iter', listing⟩ := FileSystem.blockEntries_lists_all found
    rw [iter] at iter'
    cases iter'
    exact listing
  · intro entry mem t typed notFile notDir
    exact FileSystem.blockEntries_of_other_type iter mem typed notFile notDir
  · rw [FileSystem.getInode_of_readInode read]
    exact InodeType.ofVFSInode_format _

/-- A block whose one entry is a symbolic link, `link`, panics the listing; the root directory of
the sample image, mode `0x41ED`, is a directory. -/
theorem listing_and_getInode_by_format_symlink :
    FileSystem.blockEntries
        ⟨⟨0, [12, 0, 0, 0, 16, 0, 4, 7, 108, 105, 110, 107, 0, 0, 0, 0]⟩, [0]⟩ = none ∧
      sample.getInode ⟨2, ".", .directory⟩ = some (.directory ⟨2, sampleRoot⟩) :=
  ⟨(listing_and_getInode_by_format.1 _ _ rfl).2 _ (List.mem_singleton_self _) _ rfl
      (by decide) (by decide),
    ((listing_and_getInode_by_format.2 sample ⟨2, ".", .directory⟩ sampleRoot
      (by decide +kernel)).2.1).mpr (by decide)⟩

/-- `FilePath`: its components are non-empty and have no `/`. -/
structure FilePath where
  absolute : Bool
  components : List String
  deriving DecidableEq, Repr

namespace FilePath

def asString (p : FilePath) : String :=
  (if p.absolute then "/" else "") ++ "/".intercalate p.components

def splitDirnameFilename (p : FilePath) : Option (FilePath × String) :=
  match p.components.getLast? with
  | none => none
  | some filename => some (⟨p.absolute, p.components.dropLast⟩, filename)

end FilePath

namespace FileSystem

variable (fs : FileSystem)

/-- One component of `traverse_path`: `some none` where the walk stops with `None`. -/
def traverseStep (inode : InodeType) (component : String) : Option (Option InodeType) :=
  match inode with
  | .file _ => some none
  | .directory dir => do
      let entries ← fs.subdirectories dir
      match entries.find? (·.name = component) with
      | none => some none
      | some entry => (fs.getInode entry).map some

def traverseFrom : InodeType → List String → Option (Option InodeType)
  | inode, [] => some (some inode)
  | inode, component :: components => do
      match ← fs.traverseStep inode component with
      | none => some none
      | some inode => traverseFrom inode components

/-- `FileSystem::traverse_path`. -/
def traversePath (path : FilePath) : Option (Option InodeType) := do
  fs.traverseFrom (← fs.readRoot) path.components

end FileSystem

/-- `get_path_inode` on the mounted root file system. -/
def getPathInode (mounted : Option FileSystem) (path : FilePath) :
    Option (Except String InodeType) :=
  match mounted with
  | none => some (.error "No filesystem mounted. Run 'mount <device_id>' first.")
  | some fs =>
      if ¬path.absolute then some (.error ("Path must be absolute. Got " ++ path.asString))
      else
        (fs.traversePath path).map fun
          | none => .error ("No such file or directory: " ++ path.asString)
          | some inode => .ok inode

/-- `file.write(content.as_bytes())` on the mounted file system. -/
def writeContent (mounted : Option FileSystem) (file : VFSInode) (content : String) :
    Option (Option FileSystem × Option String) :=
  match mounted with
  | none => none
  | some fs => (file.write fs content.toUTF8.toList).map fun (fs, _) => (some fs, none)

/-- The shell's `WriteToFile`: the mounted file system afterwards and the line printed. The
second lookup, of the parent directory, is of `path` itself. -/
def writeToFile (mounted : Option FileSystem) (path : FilePath) (content : String) :
    Option (Option FileSystem × Option String) := do
  match ← getPathInode mounted path with
  | .ok (.file file) => writeContent mounted file content
  | .ok (.directory _) => some (mounted, some "Not a file")
  | .error _ =>
      match path.splitDirnameFilename with
      | none => some (mounted,
          some "Parent directory path doesn't exist. Did you try to write to the root directory?")
      | some (parentPath, filename) =>
          match ← getPathInode mounted path with
          -- `log::warn!`, not a line of the shell
          | .error _ => some (mounted, none)
          | .ok (.file _) =>
              some (mounted, some ("Parent path '" ++ parentPath.asString ++ "' is not a directory"))
          | .ok (.directory parentDir) =>
              match mounted with
              | none => none
              | some fs =>
                  match ← fs.createFileAt parentDir filename with
                  | (none, fs) => some (some fs, some "Failed to create inode")
                  | (some file, fs) => writeContent (some fs) file content

/-- When the path does not resolve, the second lookup fails the same way, so `WriteToFile` never
reaches `create_file` and the mounted file system is left as it was. -/
theorem writeToFile_of_missing (mounted : Option FileSystem) (path : FilePath) (content : String)
    {e : String} (missing : getPathInode mounted path = some (.error e)) :
    ∃ line, writeToFile mounted path content = some (mounted, line) := by
  unfold writeToFile
  rw [missing]
  simp only [bind, Option.bind]
  cases path.splitDirnameFilename with
  | none => exact ⟨_, rfl⟩
  | some split =>
      obtain ⟨parentPath, filename⟩ := split
      exact ⟨none, rfl⟩

/-- On the sample image `/a` does not exist and its parent `/` is a directory, and `WriteToFile`
of `/a` leaves the image as it was. -/
theorem writeToFile_of_missing_sample :
    getPathInode (some sample) ⟨true, []⟩ = some (.ok (.directory ⟨2, sampleRoot⟩)) ∧
      getPathInode (some sample) ⟨true, ["a"]⟩ = some (.error "No such file or directory: /a") ∧
      ∃ line, writeToFile (some sample) ⟨true, ["a"]⟩ "hello" = some (some sample, line) :=
  have missing :
      getPathInode (some sample) ⟨true, ["a"]⟩ = some (.error "No such file or directory: /a") := by
    decide +kernel
  ⟨by decide +kernel, missing, writeToFile_of_missing _ _ _ missing⟩

end RustOs.Ext2
