import RustOs.Ext2.FileSystem

/-!
# Directory blocks

`fs/ext2/directory.rs`. A directory block is a chain of entries, each an 8-byte header
(`inode`, `rec_len`, `name_len`, `file_type`) and its name, and `rec_len` leads to the next one.
`from_existing_block` walks the chain and records where each entry starts; it loops for ever on
a `rec_len` of zero, which here is running out of fuel. `insert_entry` takes the first entry
with room after its own name for the new one, shortens it to what it needs, and writes the new
header and name behind it through raw pointers: a write past the buffer is `none`.
-/

namespace RustOs.Ext2

open Splice

structure DirectoryEntryHeader where
  inode : UInt32
  recLen : UInt16
  nameLen : UInt8
  rawFileType : UInt8
  deriving DecidableEq, Repr

namespace DirectoryEntryHeader

def codec : Codec DirectoryEntryHeader :=
  (Codec.u32.prod <| Codec.u16.prod <| Codec.u8.prod Codec.u8).map
    (fun ⟨a, b, c, d⟩ => ⟨a, b, c, d⟩) (fun ⟨a, b, c, d⟩ => ⟨a, b, c, d⟩) (fun _ => rfl)

theorem codec_size : codec.size = 8 := rfl

/-- `required_space`: the header and the name, rounded up to 4 bytes. -/
def requiredSpace (h : DirectoryEntryHeader) : Nat := (8 + h.nameLen.toNat + 3) / 4 * 4

end DirectoryEntryHeader

inductive DirectoryEntryFileType where
  | unknown
  | regularFile
  | directory
  | characterDevice
  | blockDevice
  | fifo
  | socket
  | symbolicLink
  deriving DecidableEq, Repr

namespace DirectoryEntryFileType

def toU8 : DirectoryEntryFileType → UInt8
  | unknown => 0
  | regularFile => 1
  | directory => 2
  | characterDevice => 3
  | blockDevice => 4
  | fifo => 5
  | socket => 6
  | symbolicLink => 7

def ofU8 (raw : UInt8) : Option DirectoryEntryFileType :=
  [unknown, regularFile, directory, characterDevice, blockDevice, fifo, socket, symbolicLink].find?
    fun t => t.toU8 = raw

end DirectoryEntryFileType

/-- `DirectoryEntry`: the bytes of the block from where the entry starts. -/
structure DirectoryEntry where
  bytes : List UInt8
  deriving DecidableEq, Repr

namespace DirectoryEntry

variable (e : DirectoryEntry)

def header : Option DirectoryEntryHeader := DirectoryEntryHeader.codec.getAt e.bytes 0

def name : Option String := do
  let h ← e.header
  if 8 + h.nameLen.toNat ≤ e.bytes.length then
    some ((String.fromUTF8? ⟨(slice e.bytes 8 h.nameLen.toNat).toArray⟩).getD "<invalid utf8>")
  else none

def inodeNumber : Option UInt32 := e.header.map (·.inode)

def fileType : Option DirectoryEntryFileType := do
  let h ← e.header
  DirectoryEntryFileType.ofU8 h.rawFileType

def isFile : Option Bool := e.fileType.map (· = .regularFile)

def isDir : Option Bool := e.fileType.map (· = .directory)

end DirectoryEntry

def writeBytes (data : List UInt8) (offset : Nat) (bytes : List UInt8) : Option (List UInt8) :=
  if offset + bytes.length ≤ data.length then some (splice data offset bytes) else none

structure DirectoryBlock where
  block : BlockBuffer
  entryLocations : List Nat
  deriving DecidableEq, Repr

namespace DirectoryBlock

def headerAt (bytes : List UInt8) (offset : Nat) : Option DirectoryEntryHeader :=
  DirectoryEntryHeader.codec.getAt bytes offset

/-- The `while` loop of `from_existing_block`. -/
def locationsLoop (bytes : List UInt8) : Nat → Nat → Option (List Nat)
  | 0, _ => none
  | fuel + 1, offset =>
      if offset < bytes.length then do
        let entry ← headerAt bytes offset
        let rest ← locationsLoop bytes fuel (offset + entry.recLen.toNat)
        some (offset :: rest)
      else some []

/-- `from_existing_block`; a chain that does not end within `len + 1` entries has a zero
`rec_len` and does not return. -/
def fromExistingBlock (block : BlockBuffer) : Option DirectoryBlock :=
  (locationsLoop block.data (block.data.length + 1) 0).map fun entryLocations =>
    ⟨block, entryLocations⟩

variable (db : DirectoryBlock)

def loadEntryFromLocation (location : Nat) : Option DirectoryEntry :=
  if location ≤ db.block.data.length then some ⟨db.block.data.drop location⟩ else none

def iter : Option (List DirectoryEntry) := db.entryLocations.mapM db.loadEntryFromLocation

/-- The `find_map` of `insert_entry`: the first entry, with its index, whose `rec_len` leaves
room for `newRequired` bytes after its own; the subtraction panics on a short `rec_len`. -/
def findSlot (newRequired : Nat) : List Nat → Nat → Option (Option (Nat × Nat))
  | [], _ => some none
  | location :: locations, i => do
      let entry ← db.loadEntryFromLocation location
      let header ← entry.header
      if header.recLen.toNat < header.requiredSpace then none
      else if header.recLen.toNat - header.requiredSpace ≥ newRequired then some (some (i, location))
      else findSlot newRequired locations (i + 1)

/-- `insert_entry`. The name's length is cut to a `u8` in the header, and the name is copied
whole. The new location goes into `entry_locations` at the index of the entry it split. -/
def insertEntry (name : List UInt8) (inodeNumber : UInt32) (entryType : DirectoryEntryFileType) :
    Option (Option (DirectoryEntry × DirectoryBlock)) := do
  let newHeader : DirectoryEntryHeader := ⟨inodeNumber, 0, UInt8.ofNat name.length, entryType.toU8⟩
  match ← db.findSlot newHeader.requiredSpace db.entryLocations 0 with
  | none => some none
  | some (foundIndex, foundLocation) =>
      let data := db.block.data
      let foundHeader ← headerAt data foundLocation
      let prevRecLen := foundHeader.recLen
      let foundHeader := { foundHeader with recLen := UInt16.ofNat foundHeader.requiredSpace }
      let data ← DirectoryEntryHeader.codec.setAt data foundLocation foundHeader
      let newLocation := foundLocation + foundHeader.recLen.toNat
      let newHeader := { newHeader with recLen := prevRecLen - foundHeader.recLen }
      let data ← writeBytes data newLocation (DirectoryEntryHeader.codec.encode newHeader)
      let data ← writeBytes data (newLocation + 8) name
      let db : DirectoryBlock :=
        ⟨{ db.block with data }, db.entryLocations.insertIdx foundIndex newLocation⟩
      let entry ← db.loadEntryFromLocation newLocation
      some (some (entry, db))

def flush (device : Nat → UInt8) : Nat → UInt8 := db.block.flush device

/-! ### The entry locations -/

theorem locationsLoop_round_of_zero_recLen {bytes : List UInt8} {offset : Nat}
    {entry : DirectoryEntryHeader} (inside : offset < bytes.length)
    (header : headerAt bytes offset = some entry) (zero : entry.recLen.toNat = 0) (fuel : Nat) :
    locationsLoop bytes (fuel + 1) offset = (locationsLoop bytes fuel offset).map (offset :: ·) := by
  simp only [locationsLoop, inside, if_true, header, zero, Nat.add_zero, bind, Option.bind_some]
  cases locationsLoop bytes fuel offset <;> rfl

theorem locationsLoop_of_zero_recLen {bytes : List UInt8} {offset : Nat}
    {entry : DirectoryEntryHeader} (inside : offset < bytes.length)
    (header : headerAt bytes offset = some entry) (zero : entry.recLen.toNat = 0) :
    ∀ fuel, locationsLoop bytes fuel offset = none
  | 0 => rfl
  | fuel + 1 => by
      rw [locationsLoop_round_of_zero_recLen inside header zero,
        locationsLoop_of_zero_recLen inside header zero fuel, Option.map_none]

theorem locationsLoop_increasing {bytes : List UInt8} : ∀ {fuel offset : Nat} {locations : List Nat},
    locationsLoop bytes fuel offset = some locations →
      locations.Pairwise (· < ·) ∧ ∀ location ∈ locations, offset ≤ location
  | 0, _, _, found => by simp [locationsLoop] at found
  | fuel + 1, offset, locations, found => by
      unfold locationsLoop at found
      split at found
      · rename_i inside
        simp only [bind, Option.bind_eq_some_iff, Option.some.injEq] at found
        obtain ⟨entry, header, rest, restFound, rfl⟩ := found
        -- a zero `rec_len` would have run the loop out of fuel
        have moves : 0 < entry.recLen.toNat := by
          rcases Nat.eq_zero_or_pos entry.recLen.toNat with zero | pos
          · rw [zero, Nat.add_zero, locationsLoop_of_zero_recLen inside header zero] at restFound
            cases restFound
          · exact pos
        obtain ⟨sorted, above⟩ := locationsLoop_increasing restFound
        refine ⟨List.pairwise_cons.mpr ⟨fun later mem => ?_, sorted⟩, fun location mem => ?_⟩
        · have := above later mem
          omega
        · rcases List.mem_cons.mp mem with rfl | later
          · exact Nat.le_refl _
          · have := above location later
            omega
      · simp only [Option.some.injEq] at found
        subst found
        simp

theorem fromExistingBlock_increasing {block : BlockBuffer} {fresh : DirectoryBlock}
    (loaded : fromExistingBlock block = some fresh) : fresh.entryLocations.Pairwise (· < ·) := by
  obtain ⟨locations, found, rfl⟩ := Option.map_eq_some_iff.mp loaded
  exact (locationsLoop_increasing found).1

theorem findSlot_eq_some {newRequired : Nat} : ∀ {locations : List Nat} {i k location : Nat},
    db.findSlot newRequired locations i = some (some (k, location)) →
      ∃ p, k = i + p ∧ locations[p]? = some location
  | [], _, _, _, found => by simp [findSlot] at found
  | first :: rest, i, k, location, found => by
      simp only [findSlot, bind, Option.bind_eq_some_iff] at found
      obtain ⟨entry, -, header, -, decision⟩ := found
      split at decision
      · cases decision
      · split at decision
        · simp only [Option.some.injEq, Prod.mk.injEq] at decision
          obtain ⟨rfl, rfl⟩ := decision
          exact ⟨0, rfl, rfl⟩
        · obtain ⟨p, rfl, found⟩ := findSlot_eq_some decision
          exact ⟨p + 1, by omega, found⟩

theorem insertEntry_eq_some {name : List UInt8} {inodeNumber : UInt32}
    {entryType : DirectoryEntryFileType} {entry : DirectoryEntry} {db' : DirectoryBlock}
    (inserted : db.insertEntry name inodeNumber entryType = some (some (entry, db'))) :
    ∃ k location header, db.findSlot (DirectoryEntryHeader.requiredSpace
        ⟨inodeNumber, 0, UInt8.ofNat name.length, entryType.toU8⟩) db.entryLocations 0 =
          some (some (k, location)) ∧
      headerAt db.block.data location = some header ∧
      db'.entryLocations =
        db.entryLocations.insertIdx k (location + (UInt16.ofNat header.requiredSpace).toNat) := by
  unfold insertEntry at inserted
  simp only [bind, Option.bind_eq_some_iff] at inserted
  obtain ⟨found, slot, rest⟩ := inserted
  cases found with
  | none => simp at rest
  | some found =>
      obtain ⟨k, location⟩ := found
      simp only [Option.bind_eq_some_iff, Option.some.injEq] at rest
      obtain ⟨header, headerFound, data, -, data', -, data'', -, -, -, rfl, -⟩ := rest
      exact ⟨k, location, header, slot, headerFound, rfl⟩

end DirectoryBlock

namespace DirectoryEntryHeader

theorem requiredSpace_pos (h : DirectoryEntryHeader) : 0 < h.requiredSpace := by
  unfold requiredSpace
  omega

theorem requiredSpace_lt (h : DirectoryEntryHeader) : h.requiredSpace < 2 ^ 16 := by
  have := h.nameLen.toNat_lt
  unfold requiredSpace
  omega

end DirectoryEntryHeader

namespace DirectoryBlock

variable (db : DirectoryBlock)

/-- `insert_entry` puts the new location at the index of the entry it split, before it, though
the new entry lies after it in the block: the locations no longer go up, so they are never
those that `from_existing_block` computes on the new bytes. -/
theorem insertEntry_misorders {name : List UInt8} {inodeNumber : UInt32}
    {entryType : DirectoryEntryFileType} {entry : DirectoryEntry} {db' : DirectoryBlock}
    (inserted : db.insertEntry name inodeNumber entryType = some (some (entry, db')))
    (fresh : DirectoryBlock) (loaded : fromExistingBlock db'.block = some fresh) :
    fresh.entryLocations ≠ db'.entryLocations := by
  obtain ⟨k, location, header, slot, -, locations⟩ := db.insertEntry_eq_some inserted
  obtain ⟨p, rfl, atSlot⟩ := db.findSlot_eq_some slot
  rw [Nat.zero_add] at locations
  have inBounds : p < db.entryLocations.length := (List.getElem?_eq_some_iff.mp atSlot).1
  have newFirst : db'.entryLocations[p]? =
      some (location + (UInt16.ofNat header.requiredSpace).toNat) := by
    rw [locations, List.getElem?_insertIdx_self, if_pos (by omega)]
  have splitAfter : db'.entryLocations[p + 1]? = some location := by
    rw [locations, List.getElem?_insertIdx_of_gt (by omega), Nat.add_sub_cancel, atSlot]
  have grows : location < location + (UInt16.ofNat header.requiredSpace).toNat := by
    rw [UInt16.toNat_ofNat', Nat.mod_eq_of_lt header.requiredSpace_lt]
    have := header.requiredSpace_pos
    omega
  intro same
  have sorted := fromExistingBlock_increasing loaded
  rw [same] at sorted
  obtain ⟨first, firstAt⟩ := List.getElem?_eq_some_iff.mp newFirst
  obtain ⟨second, secondAt⟩ := List.getElem?_eq_some_iff.mp splitAfter
  have ordered := List.pairwise_iff_getElem.mp sorted p (p + 1) first second (by omega)
  rw [firstAt, secondAt] at ordered
  omega

/-- Inserting `a` into the sample root block, which holds only `.`: the locations become
`[12, 0]`, while the new bytes give `[0, 12]`. -/
theorem insertEntry_misorders_sample :
    ∃ entry db' fresh, (⟨sample.read 20, [0]⟩ : DirectoryBlock).insertEntry [97] 3 .regularFile =
        some (some (entry, db')) ∧ fromExistingBlock db'.block = some fresh ∧
      fresh.entryLocations = [0, 12] ∧ db'.entryLocations = [12, 0] ∧
      fresh.entryLocations ≠ db'.entryLocations := by
  have computed : ((⟨sample.read 20, [0]⟩ : DirectoryBlock).insertEntry [97] 3 .regularFile).map
      (·.map fun r => (r.2.entryLocations, (fromExistingBlock r.2.block).map (·.entryLocations))) =
      some (some ([12, 0], some [0, 12])) := by
    decide +kernel
  cases inserted : (⟨sample.read 20, [0]⟩ : DirectoryBlock).insertEntry [97] 3 .regularFile with
  | none => simp [inserted] at computed
  | some result =>
      cases result with
      | none => simp [inserted] at computed
      | some pair =>
          obtain ⟨entry, db'⟩ := pair
          cases loaded : fromExistingBlock db'.block with
          | none => simp [inserted, loaded] at computed
          | some fresh =>
              simp only [inserted, loaded, Option.map_some, Option.some.injEq,
                Prod.mk.injEq] at computed
              exact ⟨entry, db', fresh, rfl, loaded, computed.2, computed.1,
                insertEntry_misorders _ inserted fresh loaded⟩

end DirectoryBlock

end RustOs.Ext2
