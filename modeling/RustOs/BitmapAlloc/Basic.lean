import RustOs.Lib.Words
import RustOs.Lib.FirstFit

/-!
# The bitmap page allocator

`crates/bitmap-alloc/src/alloc.rs`: one bit per page, set while the page is used, kept in a
slice of `u64` chunks, and the hint `last_single_page_allocation` where single-page searches
start. A panic (a failed `assert!` or an index out of bounds) is `none`.
-/

namespace RustOs.BitmapAlloc
open WordBits

structure BitmapAllocator where
  bitmap : List UInt64
  lastSinglePageAllocation : Option Nat
  deriving Repr, DecidableEq

namespace BitmapAllocator

def bitsPerChunk : Nat := 64

def new (bitmap : List UInt64) : BitmapAllocator := ⟨bitmap, none⟩

def markUsed (a : BitmapAllocator) (page : Nat) : Option BitmapAllocator :=
  let index := page / bitsPerChunk
  let bit := page % bitsPerChunk
  match a.bitmap[index]? with
  | none => none
  | some word =>
      -- assert!(self.bitmap[index] & (1 << bit) == 0, "page {page} is already used")
      if word &&& mask bit == 0 then
        some { a with bitmap := a.bitmap.set index (word ||| mask bit) }
      else none

def markUnused (a : BitmapAllocator) (page : Nat) : Option BitmapAllocator :=
  let index := page / bitsPerChunk
  let bit := page % bitsPerChunk
  match a.bitmap[index]? with
  | none => none
  | some word =>
      -- assert!(self.bitmap[index] & (1 << bit) != 0, "page {page} is already unused")
      if word &&& mask bit != 0 then
        some { a with bitmap := a.bitmap.set index (word &&& ~~~mask bit) }
      else none

/-- Where the search loop of `find_next_contiguous` stands: still scanning with the current
`start` and `current_len`, or returned `Some(start)`. -/
inductive Scan where
  | next (start currentLen : Nat)
  | found (start : Nat)
  deriving Repr, DecidableEq

/-- The inner loop `for bit in 0..BITS_PER_CHUNK` over the chunk `byte` at index `i`. -/
def bitLoop (numPages i : Nat) (byte : UInt64) : List Nat → Nat → Nat → Scan
  | [], start, currentLen => .next start currentLen
  | bit :: bits, start, currentLen =>
      if byte &&& mask bit == 0 then
        if currentLen + 1 = numPages then .found start
        else bitLoop numPages i byte bits start (currentLen + 1)
      else bitLoop numPages i byte bits (i * bitsPerChunk + bit + 1) 0

def chunkLoop (numPages : Nat) (bitmap : List UInt64) : List Nat → Nat → Nat → Scan
  | [], start, currentLen => .next start currentLen
  | i :: is, start, currentLen =>
      match bitLoop numPages i (bitmap.getD i 0) (List.range bitsPerChunk) start currentLen with
      | .found s => .found s
      | .next start currentLen => chunkLoop numPages bitmap is start currentLen

def findNextContiguous (a : BitmapAllocator) (numPages : Nat) : Option Nat :=
  let start := if numPages = 1 then a.lastSinglePageAllocation.getD 0 else 0
  let byteIdx := start / bitsPerChunk
  match chunkLoop numPages a.bitmap (List.range' byteIdx (a.bitmap.length - byteIdx)) start 0 with
  | .found s => some s
  | .next _ _ => none

def allocateContiguous (a : BitmapAllocator) (numPages : Nat) :
    Option (Option Nat × BitmapAllocator) :=
  -- assert!(num_pages > 0, "cannot allocate 0 pages")
  if numPages = 0 then none
  else
    let start := a.findNextContiguous numPages
    let a := if numPages = 1 then { a with lastSinglePageAllocation := start } else a
    match start with
    | none => some (none, a)
    | some s => ((List.range' s numPages).foldlM markUsed a).map fun a => (some s, a)

def freeContiguous (a : BitmapAllocator) (startPage numPages : Nat) : Option BitmapAllocator :=
  -- assert!(num_pages > 0, "cannot free 0 pages")
  if numPages = 0 then none
  else
    ((List.range' startPage numPages).foldlM markUnused a).map fun a =>
      match a.lastSinglePageAllocation with
      | some lastSinglePageStart =>
          if startPage < lastSinglePageStart then
            { a with lastSinglePageAllocation := some startPage }
          else a
      | none => a

/-! ## One page -/

/-- The pages the allocator manages: `BITS_PER_CHUNK` per chunk. -/
def numPages (a : BitmapAllocator) : Nat := 64 * a.bitmap.length

/-- Whether `page` is marked used. -/
def isUsed (a : BitmapAllocator) (page : Nat) : Bool := bitAt a.bitmap page

theorem markUsed_of_lt {a : BitmapAllocator} {page : Nat} (hp : page < a.numPages) :
    a.markUsed page = if a.isUsed page then none else
      some { a with bitmap :=
        a.bitmap.set (page / 64) (a.bitmap.getD (page / 64) 0 ||| mask (page % 64)) } := by
  have hidx : page / 64 < a.bitmap.length := by unfold numPages at hp; omega
  simp only [markUsed, bitsPerChunk, List.getElem?_eq_getElem hidx, isUsed, bitAt,
    getD_eq_getElem hidx, and_mask_eq_zero _ (Nat.mod_lt _ (by decide : 0 < 64))]
  cases a.bitmap[page / 64].toNat.testBit (page % 64) <;> rfl

theorem markUnused_of_lt {a : BitmapAllocator} {page : Nat} (hp : page < a.numPages) :
    a.markUnused page = if a.isUsed page then
      some { a with bitmap :=
        a.bitmap.set (page / 64) (a.bitmap.getD (page / 64) 0 &&& ~~~mask (page % 64)) }
      else none := by
  have hidx : page / 64 < a.bitmap.length := by unfold numPages at hp; omega
  simp only [markUnused, bitsPerChunk, List.getElem?_eq_getElem hidx, isUsed, bitAt,
    getD_eq_getElem hidx, bne, and_mask_eq_zero _ (Nat.mod_lt _ (by decide : 0 < 64))]
  cases a.bitmap[page / 64].toNat.testBit (page % 64) <;> rfl

theorem markUsed_of_le {a : BitmapAllocator} {page : Nat} (hp : a.numPages ≤ page) :
    a.markUsed page = none := by
  have hidx : a.bitmap.length ≤ page / 64 := by unfold numPages at hp; omega
  simp [markUsed, bitsPerChunk, List.getElem?_eq_none hidx]

theorem markUnused_of_le {a : BitmapAllocator} {page : Nat} (hp : a.numPages ≤ page) :
    a.markUnused page = none := by
  have hidx : a.bitmap.length ≤ page / 64 := by unfold numPages at hp; omega
  simp [markUnused, bitsPerChunk, List.getElem?_eq_none hidx]

end BitmapAllocator
end RustOs.BitmapAlloc
