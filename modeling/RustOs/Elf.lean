import RustOs.Memory.PageTable.Entry

/-!
# Executable ELF headers

`elf.rs`: `ElfExecutableHeader::parse` takes what the `elf` crate's `minimal_parse` read from
the file (its header, its program headers and its bytes), checks that the file is an `x86_64`
executable, and keeps every `PT_LOAD` segment, rejecting one whose physical address is neither
zero nor its virtual address or whose flags are not made of execute, write and read. The
crate's own decoding of the bytes is not modelled: an `ElfBytes` value stands for a file it
accepted. The messages `ElfExecutableHeaderError::Other` formats are kept as the values they
print. `VirtAddr::new` panics on an address that is not canonical; a panic is `none`.

`parse_accepted` says what an accepted file is: an `x86_64` executable whose loadable segments
are its `PT_LOAD` headers, in order, each with the canonical address `VirtAddr::new` makes of
its virtual address. Nothing checks where that address lies or how the segment is aligned.
-/

namespace RustOs.Elf
open RustOs.Memory RustOs.Memory.PageTable

/-- `elf::file::FileHeader`, the fields `parse` reads. -/
structure FileHeader where
  eType : UInt16
  eMachine : UInt16
  eEntry : UInt64
  deriving Repr, DecidableEq

/-- `elf::segment::ProgramHeader`. -/
structure ProgramHeader where
  pType : UInt32
  pOffset : UInt64
  pVaddr : UInt64
  pPaddr : UInt64
  pFilesz : UInt64
  pMemsz : UInt64
  pFlags : UInt32
  pAlign : UInt64
  deriving Repr, DecidableEq

/-- `ElfBytes<AnyEndian>` as `minimal_parse` returns it: the file's bytes, its header, and its
program headers (`segments()`, `None` when the file has none). -/
structure ElfBytes where
  data : List UInt8
  ehdr : FileHeader
  segments : Option (List ProgramHeader)

def etExec : UInt16 := 2

def emX86_64 : UInt16 := 62

def ptLoad : UInt32 := 1

/-- `ElfBytes::segment_data`: the `p_filesz` bytes at `p_offset`; `none` is the `ParseError`
for a range past the end of the file. -/
def ElfBytes.segmentData (parsed : ElfBytes) (phdr : ProgramHeader) : Option (List UInt8) :=
  if phdr.pOffset.toNat + phdr.pFilesz.toNat ≤ parsed.data.length then
    some ((parsed.data.drop phdr.pOffset.toNat).take phdr.pFilesz.toNat)
  else none

/-- `LoadableSegmentFlags`, a `bitflags!` over `u32` whose `from_bits` admits only the three
flags it names. -/
structure LoadableSegmentFlags where
  bits : UInt32
  known : bits &&& ~~~7 = 0
  deriving DecidableEq

namespace LoadableSegmentFlags

def executable : UInt32 := 1

def writable : UInt32 := 2

def readable : UInt32 := 4

def fromBits (bits : UInt32) : Option LoadableSegmentFlags :=
  if h : bits &&& ~~~7 = 0 then some ⟨bits, h⟩ else none

def contains (f : LoadableSegmentFlags) (flag : UInt32) : Bool := f.bits &&& flag == flag

def pageTableEntryFlags (f : LoadableSegmentFlags) : PageTableEntryFlags :=
  let flags := PageTableEntryFlags.empty
  let flags := if !f.contains executable then flags ||| PageTableEntryFlags.noExecute else flags
  let flags := if f.contains writable then flags ||| PageTableEntryFlags.writable else flags
  if f.contains readable then flags ||| PageTableEntryFlags.present else flags

end LoadableSegmentFlags

structure LoadableSegment where
  rawHeader : ProgramHeader
  fileOffset : UInt64
  vaddr : VirtAddr
  memSize : UInt64
  flags : LoadableSegmentFlags
  alignment : UInt64

/-- `ElfExecutableHeaderError`: `ParseError` comes from `minimal_parse`, which is not modelled;
each `Other` message is the value it formats. -/
inductive ElfExecutableHeaderError where
  | expectedExec (found : UInt16)
  | expectedX86_64 (found : UInt16)
  | noSegments
  | invalidPAddr (programHeader : ProgramHeader)
  | invalidFlags (programHeader : ProgramHeader)
  deriving Repr, DecidableEq

structure ElfExecutableHeader where
  parsed : ElfBytes
  entrypoint : VirtAddr
  loadableSegments : List LoadableSegment

namespace ElfExecutableHeader

/-- The loop of `parse` over the program headers. -/
def loadableSegmentsLoop :
    List ProgramHeader → Option (Except ElfExecutableHeaderError (List LoadableSegment))
  | [] => some (.ok [])
  | programHeader :: rest =>
      if programHeader.pType ≠ ptLoad then loadableSegmentsLoop rest
      else if programHeader.pPaddr > 0 ∧ programHeader.pPaddr ≠ programHeader.pVaddr then
        some (.error (.invalidPAddr programHeader))
      else do
        let vaddr ← VirtAddr.new programHeader.pVaddr
        match LoadableSegmentFlags.fromBits programHeader.pFlags with
        | none => some (.error (.invalidFlags programHeader))
        | some flags =>
            let segment : LoadableSegment := ⟨programHeader, programHeader.pOffset, vaddr,
              programHeader.pMemsz, flags, programHeader.pAlign⟩
            (loadableSegmentsLoop rest).map (·.map (segment :: ·))

def parse (parsed : ElfBytes) : Option (Except ElfExecutableHeaderError ElfExecutableHeader) :=
  if parsed.ehdr.eType ≠ etExec then some (.error (.expectedExec parsed.ehdr.eType))
  else if parsed.ehdr.eMachine ≠ emX86_64 then
    some (.error (.expectedX86_64 parsed.ehdr.eMachine))
  else do
    let entrypoint ← VirtAddr.new parsed.ehdr.eEntry
    match parsed.segments with
    | none => some (.error .noSegments)
    | some segments =>
        (loadableSegmentsLoop segments).map
          (·.map fun loadableSegments => ⟨parsed, entrypoint, loadableSegments⟩)

theorem loadableSegmentsLoop_ok {headers : List ProgramHeader} {segments : List LoadableSegment}
    (h : loadableSegmentsLoop headers = some (.ok segments)) :
    segments.map LoadableSegment.rawHeader = headers.filter (·.pType = ptLoad) ∧
      ∀ s ∈ segments, VirtAddr.new s.rawHeader.pVaddr = some s.vaddr ∧
        (s.rawHeader.pPaddr = 0 ∨ s.rawHeader.pPaddr = s.rawHeader.pVaddr) ∧
        LoadableSegmentFlags.fromBits s.rawHeader.pFlags = some s.flags ∧
        s.memSize = s.rawHeader.pMemsz ∧ s.alignment = s.rawHeader.pAlign := by
  induction headers generalizing segments with
  | nil =>
      cases h
      simp
  | cons programHeader rest ih =>
      unfold loadableSegmentsLoop at h
      by_cases skipped : programHeader.pType ≠ ptLoad
      · rw [if_pos skipped] at h
        obtain ⟨kept, facts⟩ := ih h
        exact ⟨by simpa [skipped] using kept, facts⟩
      · rw [if_neg skipped] at h
        by_cases badPAddr :
            programHeader.pPaddr > 0 ∧ programHeader.pPaddr ≠ programHeader.pVaddr
        · rw [if_pos badPAddr] at h
          cases h
        · rw [if_neg badPAddr] at h
          obtain ⟨vaddr, canonical, h⟩ := Option.bind_eq_some_iff.mp h
          cases known : LoadableSegmentFlags.fromBits programHeader.pFlags with
          | none => simp [known] at h
          | some flags =>
              simp only [known] at h
              obtain ⟨result, tailOk, hResult⟩ := Option.map_eq_some_iff.mp h
              cases result with
              | error e => cases hResult
              | ok tail =>
                  cases hResult
                  obtain ⟨kept, facts⟩ := ih tailOk
                  have paddr : programHeader.pPaddr = 0 ∨
                      programHeader.pPaddr = programHeader.pVaddr := by
                    by_cases zero : programHeader.pPaddr = 0
                    · exact .inl zero
                    · exact .inr (by
                        by_contra other
                        exact badPAddr ⟨UInt64.pos_iff_ne_zero.mpr zero, other⟩)
                  refine ⟨by simp [kept, Decidable.of_not_not skipped], ?_⟩
                  intro s mem
                  rcases List.mem_cons.mp mem with rfl | later
                  · exact ⟨canonical, paddr, known, rfl, rfl⟩
                  · exact facts s later

theorem parse_accepted {parsed : ElfBytes} {exe : ElfExecutableHeader}
    (h : parse parsed = some (.ok exe)) :
    exe.parsed = parsed ∧ parsed.ehdr.eType = etExec ∧ parsed.ehdr.eMachine = emX86_64 ∧
      VirtAddr.new parsed.ehdr.eEntry = some exe.entrypoint ∧
      ∃ headers, parsed.segments = some headers ∧
        loadableSegmentsLoop headers = some (.ok exe.loadableSegments) := by
  unfold parse at h
  by_cases exec : parsed.ehdr.eType ≠ etExec
  · rw [if_pos exec] at h
    cases h
  rw [if_neg exec] at h
  by_cases machine : parsed.ehdr.eMachine ≠ emX86_64
  · rw [if_pos machine] at h
    cases h
  rw [if_neg machine] at h
  obtain ⟨entrypoint, canonical, h⟩ := Option.bind_eq_some_iff.mp h
  cases segments : parsed.segments with
  | none => simp [segments] at h
  | some headers =>
      simp only [segments] at h
      obtain ⟨result, loopOk, hResult⟩ := Option.map_eq_some_iff.mp h
      cases result with
      | error e => cases hResult
      | ok loadable =>
          cases hResult
          exact ⟨rfl, Decidable.of_not_not exec, Decidable.of_not_not machine, canonical,
            headers, rfl, loopOk⟩

end ElfExecutableHeader

end RustOs.Elf
