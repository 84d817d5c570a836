import RustOs.Ext2.Vfs

/-!
# `read_all` and the files of sysfs

The default `FileInode::read_all` of `vfs/fs.rs` for any `read`, and `sysfs_read_file` of
`fs/sysfs.rs`, which every sysfs file reads through.

`FileInodeReadResult` documents what `read` returns: `Done` once the file has been fully read,
with the number of bytes this call read. `ReadsContent` states that contract for a file with
given contents, and a `read` that keeps it makes `read_all` return the contents
(`readAll_of_readsContent`). `sysfs_read_file` reports the length of the whole file in `Done`
instead, so it keeps the contract only for the empty file, and `read_all` of a sysfs file longer
than one 4096-byte chunk slices its chunk past the end.
-/

namespace RustOs

open Ext2 Splice

namespace FileInode

variable (read : List UInt8 → Nat → Option (FileInodeReadResult × List UInt8))

/-- The `loop` of the default `read_all`, in chunks of 4096 bytes. `read` returns its result and
the buffer it filled, and `none` where it panics; `read_buffer[..bytes_read]` panics past the
chunk. -/
def readAllLoop : Nat → Nat → List UInt8 → Option (List UInt8)
  | 0, _, _ => none
  | fuel + 1, offset, buffer => do
      match ← read (List.replicate 4096 0) offset with
      | (.success, readBuffer) => readAllLoop fuel (offset + 4096) (buffer ++ readBuffer)
      | (.done bytesRead, readBuffer) =>
          if bytesRead ≤ 4096 then some (buffer ++ readBuffer.take bytesRead) else none

/-- `FileInode::read_all`, with `fuel` rounds of its loop. -/
def readAll (fuel : Nat) : Option (List UInt8) := readAllLoop read fuel 0 []

/-- What `FileInodeReadResult` documents of `read` on a file with contents `content`: the bytes
from `offset` on that fit are copied to the front of the buffer, and `Done` reports how many
were copied once the end of the file is reached. -/
def ReadsContent (content : List UInt8) : Prop :=
  ∀ buffer offset, read buffer offset =
    some (if offset + buffer.length < content.length then .success
      else .done (slice content offset buffer.length).length,
      splice buffer 0 (slice content offset buffer.length))

variable {read}

theorem readAllLoop_success {fuel offset : Nat} {buffer readBuffer : List UInt8}
    (h : read (List.replicate 4096 0) offset = some (.success, readBuffer)) :
    readAllLoop read (fuel + 1) offset buffer =
      readAllLoop read fuel (offset + 4096) (buffer ++ readBuffer) := by
  simp only [readAllLoop, h, bind, Option.bind_some]

theorem readAllLoop_done {fuel offset bytesRead : Nat} {buffer readBuffer : List UInt8}
    (h : read (List.replicate 4096 0) offset = some (.done bytesRead, readBuffer)) :
    readAllLoop read (fuel + 1) offset buffer =
      if bytesRead ≤ 4096 then some (buffer ++ readBuffer.take bytesRead) else none := by
  simp only [readAllLoop, h, bind, Option.bind_some]

theorem splice_chunk {content : List UInt8} {offset : Nat}
    (inside : offset + 4096 ≤ content.length) :
    splice (List.replicate 4096 0) 0 (slice content offset 4096) = (content.drop offset).take 4096 := by
  apply splice_zero_of_length
  simp only [slice, List.length_take, List.length_drop, List.length_replicate]
  omega

theorem readAllLoop_of_chunks {content : List UInt8} {result : Option (List UInt8)}
    (chunk : ∀ r, 4096 * r + 4096 < content.length →
      read (List.replicate 4096 0) (4096 * r) = some (.success, slice content (4096 * r) 4096))
    (last : ∀ r, (r = 0 ∨ 4096 * r < content.length) → content.length ≤ 4096 * r + 4096 →
      ∃ bytesRead readBuffer, read (List.replicate 4096 0) (4096 * r) =
        some (.done bytesRead, readBuffer) ∧
        (if bytesRead ≤ 4096 then some (content.take (4096 * r) ++ readBuffer.take bytesRead)
          else none) = result) :
    ∀ fuel r, (r = 0 ∨ 4096 * r < content.length) → content.length / 4096 < r + fuel →
      readAllLoop read fuel (4096 * r) (content.take (4096 * r)) = result := by
  intro fuel
  induction fuel with
  | zero => intro r started enough; omega
  | succ fuel ih =>
      intro r started enough
      by_cases more : 4096 * r + 4096 < content.length
      · -- a whole chunk, and more of the file after it
        rw [readAllLoop_success (chunk r more), slice, ← List.take_add,
          show 4096 * r + 4096 = 4096 * (r + 1) by omega]
        exact ih (r + 1) (.inr (by omega)) (by omega)
      · obtain ⟨bytesRead, readBuffer, done, returns⟩ := last r started (by omega)
        rw [readAllLoop_done done]
        exact returns

theorem readAll_of_readsContent {content : List UInt8} (h : ReadsContent read content)
    (fuel : Nat) (enough : content.length / 4096 < fuel) :
    readAll read fuel = some content := by
  have chunk : ∀ r, 4096 * r + 4096 < content.length →
      read (List.replicate 4096 0) (4096 * r) = some (.success, slice content (4096 * r) 4096) := by
    intro r more
    have inside : 4096 * r + 4096 ≤ content.length := Nat.le_of_lt more
    rw [h, List.length_replicate, if_pos more, splice_chunk inside, slice]
  have last : ∀ r, (r = 0 ∨ 4096 * r < content.length) → content.length ≤ 4096 * r + 4096 →
      ∃ bytesRead readBuffer, read (List.replicate 4096 0) (4096 * r) =
        some (.done bytesRead, readBuffer) ∧
        (if bytesRead ≤ 4096 then some (content.take (4096 * r) ++ readBuffer.take bytesRead)
          else none) = some content := by
    intro r started ends
    refine ⟨_, _, by rw [h, List.length_replicate, if_neg (by omega)], ?_⟩
    set rest := slice content (4096 * r) 4096 with restEq
    -- the rest of the file, `content.length - 4096 * r` bytes, fits the chunk
    have restLength : rest.length = content.length - 4096 * r := by
      simp only [restEq, slice, List.length_take, List.length_drop]
      omega
    have copied : slice (splice (List.replicate 4096 0) 0 rest) 0 rest.length = rest :=
      slice_splice_self (by rw [restLength, List.length_replicate]; omega)
    rw [slice, List.drop_zero] at copied
    rw [if_pos (by omega), copied, restEq, slice, ← List.take_add,
      List.take_of_length_le (by omega)]
  have loop := readAllLoop_of_chunks chunk last fuel 0 (.inl rfl) (by omega)
  rw [Nat.mul_zero, List.take_zero] at loop
  exact loop

end FileInode

/-! ## sysfs -/

/-- `sysfs_read_file`, with `file_content` as its bytes (`as_bytes`, which `len` counts).
`data[start..end]` and `buffer[..copy_data.len()]` panic out of order or past the end. -/
def sysfsReadFile (fileContent : List UInt8) (buffer : List UInt8) (offset : Nat) :
    Option (FileInodeReadResult × List UInt8) :=
  let data := fileContent
  let start := min offset data.length
  let end_ := min (offset + buffer.length) data.length
  if end_ < start then none
  else
    let copyData := slice data start (end_ - start)
    if buffer.length < copyData.length then none
    else
      let buffer := splice buffer 0 copyData
      if end_ = data.length then some (.done fileContent.length, buffer)
      else some (.success, buffer)

theorem sysfsReadFile_eq (fileContent buffer : List UInt8) (offset : Nat) :
    sysfsReadFile fileContent buffer offset =
      some (if offset + buffer.length < fileContent.length then .success
        else .done fileContent.length,
        splice buffer 0 (slice fileContent offset buffer.length)) := by
  -- `data[start..end]` is the slice from `offset`, empty when `offset` is past the end
  have copy : slice fileContent (min offset fileContent.length)
      (min (offset + buffer.length) fileContent.length - min offset fileContent.length) =
      slice fileContent offset buffer.length := by
    simp only [slice]
    by_cases past : fileContent.length ≤ offset
    · rw [Nat.min_eq_right past, List.drop_of_length_le past, List.drop_length, List.take_nil,
        List.take_nil]
    · rw [Nat.min_eq_left (show offset ≤ fileContent.length by omega), List.take_eq_take_iff,
        List.length_drop]
      omega
  have fits : (slice fileContent offset buffer.length).length ≤ buffer.length := by
    simp only [slice, List.length_take]
    omega
  unfold sysfsReadFile
  dsimp only
  rw [if_neg (by omega), copy, if_neg (by omega)]
  by_cases reached : offset + buffer.length < fileContent.length
  · rw [if_neg (by omega), if_pos reached]
  · rw [if_pos (by omega), if_neg reached]

theorem readsContent_sysfsReadFile_iff (fileContent : List UInt8) :
    FileInode.ReadsContent (sysfsReadFile fileContent) fileContent ↔ fileContent = [] := by
  constructor
  · intro h
    have atEnd := h [] fileContent.length
    rw [sysfsReadFile_eq, List.length_nil, Nat.add_zero, if_neg (Nat.lt_irrefl _),
      if_neg (Nat.lt_irrefl _)] at atEnd
    simp only [slice, List.take_zero, List.length_nil, Option.some.injEq, Prod.mk.injEq,
      FileInodeReadResult.done.injEq] at atEnd
    exact List.length_eq_zero_iff.mp atEnd.1
  · rintro rfl buffer offset
    rw [sysfsReadFile_eq]
    simp [slice]

/-- `read_all` of a sysfs file returns its contents when they fit one chunk of 4096 bytes, and
panics on any longer file: the read that reaches the end reports the length of the whole file,
and `read_buffer[..bytes_read]` slices the chunk past its end. -/
theorem readAll_sysfsReadFile (fileContent : List UInt8) (fuel : Nat)
    (enough : fileContent.length / 4096 < fuel) :
    FileInode.readAll (sysfsReadFile fileContent) fuel =
      if fileContent.length ≤ 4096 then some fileContent else none := by
  have chunk : ∀ r, 4096 * r + 4096 < fileContent.length →
      sysfsReadFile fileContent (List.replicate 4096 0) (4096 * r) =
        some (.success, slice fileContent (4096 * r) 4096) := by
    intro r more
    have inside : 4096 * r + 4096 ≤ fileContent.length := Nat.le_of_lt more
    rw [sysfsReadFile_eq, List.length_replicate, if_pos more, FileInode.splice_chunk inside, slice]
  have last : ∀ r, (r = 0 ∨ 4096 * r < fileContent.length) →
      fileContent.length ≤ 4096 * r + 4096 →
      ∃ bytesRead readBuffer, sysfsReadFile fileContent (List.replicate 4096 0) (4096 * r) =
        some (.done bytesRead, readBuffer) ∧
        (if bytesRead ≤ 4096 then
          some (fileContent.take (4096 * r) ++ readBuffer.take bytesRead) else none) =
        if fileContent.length ≤ 4096 then some fileContent else none := by
    intro r started ends
    refine ⟨_, _, by rw [sysfsReadFile_eq, List.length_replicate, if_neg (by omega)], ?_⟩
    by_cases short : fileContent.length ≤ 4096
    · -- a file of one chunk ends in the first read, which copies all of it
      have first : r = 0 := by omega
      subst first
      have whole : (splice (List.replicate 4096 0) 0 (slice fileContent 0 4096)).take
          fileContent.length = fileContent := by
        have copied : slice (splice (List.replicate 4096 0) 0 fileContent) 0 fileContent.length =
            fileContent :=
          slice_splice_self (by simp only [List.length_replicate]; omega)
        simpa only [slice, List.drop_zero, List.take_of_length_le short] using copied
      rw [if_pos short, if_pos short, Nat.mul_zero, List.take_zero, List.nil_append, whole]
    · rw [if_neg short, if_neg short]
  have loop := FileInode.readAllLoop_of_chunks chunk last fuel 0 (.inl rfl) (by omega)
  rw [Nat.mul_zero, List.take_zero] at loop
  exact loop

theorem readAll_sysfsReadFile_4097 :
    (List.replicate 4097 (0x41 : UInt8)).length / 4096 < 2 ∧
      FileInode.readAll (sysfsReadFile (List.replicate 4097 0x41)) 2 = none ∧
      ¬ FileInode.ReadsContent (sysfsReadFile (List.replicate 4097 0x41))
        (List.replicate 4097 0x41) :=
  have long : (List.replicate 4097 (0x41 : UInt8)).length / 4096 < 2 := by
    rw [List.length_replicate]
    decide
  ⟨long, by rw [readAll_sysfsReadFile _ 2 long, List.length_replicate, if_neg (by decide)],
    by rw [readsContent_sysfsReadFile_iff]; simp⟩

end RustOs
