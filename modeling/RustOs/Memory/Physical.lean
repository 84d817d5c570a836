import RustOs.BitmapAlloc.Spec
import RustOs.BitmapAlloc.Bootstrap
import RustOs.Memory.Address

/-!
# The kernel's physical frame allocator

`memory/physical.rs`: `PhysicalMemoryAllocator` wraps the bitmap allocator with one bit per
4 KiB frame and hands out frames as pages of the direct map. `new` bootstraps the bitmap with
an `allocate_bitmap` that hands out `bitmap_len` words, which `bootstrap_allocator` counts as
bytes. `allocate_pages` asserts that frame 0 is never handed out and that the frame lies in the
direct map; `free_pages` gives the frames back to the bitmap. `allocatePage_spec` and
`freePage_spec` say what one call does to the bitmap when the allocator is `Healthy`, and that
it then never panics.
-/

namespace RustOs.Memory
open RustOs.BitmapAlloc BitmapAllocator

/-- `core::alloc::AllocError`. -/
structure AllocError where
  deriving Repr, DecidableEq

def pageSize : Nat := 4096

structure PageRange where
  start : Page KernPhysAddr
  numPages : Nat

structure PhysicalMemoryAllocator where
  allocator : BitmapAllocator

namespace PhysicalMemoryAllocator

/-- The `allocate_bitmap` closure of `PhysicalMemoryAllocator::new`: `bitmap_addr` must be a
physical address of the direct map, and `from_raw_parts_mut(ptr, bitmap_len)` hands out
`bitmap_len` words there, `8 * bitmap_len` bytes. What the words held before is not modelled:
`bootstrap_allocator` overwrites them. -/
def allocateBitmap (bitmapAddr bitmapLen : Nat) : Option (List UInt64) := do
  let physAddr ← PhysAddr.new bitmapAddr.toUInt64
  let _kernPhysAddr ← KernPhysAddr.fromPhysAddr physAddr
  some (List.replicate bitmapLen 0)

def new (memoryRegions : List MemoryRegion) : Option PhysicalMemoryAllocator :=
  (bootstrapAllocator pageSize memoryRegions allocateBitmap).map fun allocator => ⟨allocator⟩

/-- One free GiB from address 0: `new` puts a bitmap of 4096 words at address 0. The words take
32 KiB, frames 0 to 7, but `bootstrap_allocator` reserves the 4096 bytes it counts, frame 0
only, so frames 1 to 7 hold the bitmap and are free to hand out. -/
theorem new_leaves_bitmap_frames_free :
    ∃ a, new [⟨0, 0x4000_0000, true⟩] = some a ∧
      bitmapPlacement pageSize [⟨0, 0x4000_0000, true⟩] = some (0, 4096) ∧
      ∀ q, 0 < q → q * pageSize < 0 + 8 * 4096 → a.allocator.isUsed q = false := by
  have placed : bitmapPlacement pageSize [⟨0, 0x4000_0000, true⟩] = some (0, 4096) := by decide
  have allocated : allocateBitmap 0 4096 = some (List.replicate 4096 0) := rfl
  obtain ⟨alloc, boot, pages, -, -, free⟩ :=
    bootstrapAllocator_spec (by decide) (by simp) placed allocated List.length_replicate
  refine ⟨⟨alloc⟩, by simp [new, boot], placed, fun q later inside => ?_⟩
  unfold pageSize at inside
  -- frame `q` lies inside the free GiB and past the 4096 bytes reserved for the bitmap
  refine (free q (by omega)).mpr ⟨⟨⟨0, 0x4000_0000, true⟩, by simp, rfl, ?_, ?_⟩, ?_⟩ <;>
    dsimp only [pageSize] <;> omega

def allocatePages (a : PhysicalMemoryAllocator) (numPages : Nat) :
    Option (Except AllocError PageRange × PhysicalMemoryAllocator) :=
  match a.allocator.allocateContiguous numPages with
  | none => none
  | some (none, allocator) => some (.error ⟨⟩, ⟨allocator⟩)
  | some (some page, allocator) =>
      -- assert!(page > 0, "we allocated the zero page, ...")
      if page = 0 then none
      else do
        let physAddr ← PhysAddr.new (page * pageSize).toUInt64
        let startAddr ← KernPhysAddr.fromPhysAddr physAddr
        let startPage ← Page.fromStartAddr startAddr .size4KiB
        some (.ok ⟨startPage, numPages⟩, ⟨allocator⟩)

/-- `allocate_page`: the range of `allocate_pages(1)` yields exactly its start page. -/
def allocatePage (a : PhysicalMemoryAllocator) :
    Option (Except AllocError (Page KernPhysAddr) × PhysicalMemoryAllocator) :=
  (a.allocatePages 1).map fun (r, a) => (r.map PageRange.start, a)

def freePages (a : PhysicalMemoryAllocator) (pages : PageRange) :
    Option PhysicalMemoryAllocator := do
  let startAddr ← pages.start.startAddr.toPhysAddr
  let startPage := startAddr.val.toNat / pages.start.size.sizeBytes
  let allocator ← a.allocator.freeContiguous startPage pages.numPages
  some ⟨allocator⟩

def freePage (a : PhysicalMemoryAllocator) (page : Page KernPhysAddr) :
    Option PhysicalMemoryAllocator :=
  a.freePages ⟨page, 1⟩

/-! ## Specification -/

def isUsed (a : PhysicalMemoryAllocator) (frame : Nat) : Bool := a.allocator.isUsed frame

def maxFrames : Nat := (kernelPhysicalMappingEnd - kernelPhysicalMappingStart).toNat / pageSize + 1

/-- Frame 0 is reserved, the single-page hint is sound, and every frame of the bitmap lies in
the direct map: then no assertion of `allocate_page` can fail. -/
structure Healthy (a : PhysicalMemoryAllocator) : Prop where
  zeroUsed : a.isUsed 0 = true
  hint : HintBelowUsed a.allocator
  fits : a.allocator.numPages ≤ maxFrames

end PhysicalMemoryAllocator

def Page.frame (p : Page KernPhysAddr) : Nat := p.startAddr.frame

theorem Page.val_toNat {p : Page KernPhysAddr} (hp : p.size = .size4KiB) :
    p.startAddr.val.toNat = 2 ^ 64 - 2 ^ 47 + 4096 * p.frame := by
  have hal := p.aligned
  rw [hp] at hal
  have hk := p.startAddr.val_toNat
  have hsub := p.startAddr.sub_start_toNat
  simp only [Address.asU64, PageSize.sizeBytes] at hal
  simp only [Page.frame, KernPhysAddr.frame, hsub]
  omega

theorem Page.toPhysAddr_val {p : Page KernPhysAddr} (hp : p.size = .size4KiB) {q : PhysAddr}
    (h : p.startAddr.toPhysAddr = some q) : q.val.toNat = 4096 * p.frame := by
  rw [KernPhysAddr.toPhysAddr_val h, Page.val_toNat hp]
  omega

theorem Page.eq_of_frame {p q : Page KernPhysAddr} (hp : p.size = .size4KiB)
    (hq : q.size = .size4KiB) (h : p.frame = q.frame) : p = q := by
  have hval : p.startAddr.val = q.startAddr.val := by
    apply UInt64.toNat_inj.mp
    rw [Page.val_toNat hp, Page.val_toNat hq, h]
  obtain ⟨⟨pv, pr⟩, ps, pa⟩ := p
  obtain ⟨⟨qv, qr⟩, qs, qa⟩ := q
  simp only at hp hq hval
  subst hp hq hval
  rfl

def Page.physRaw (p : Page KernPhysAddr) : UInt64 := p.startAddr.val - kernelPhysicalMappingStart

theorem Page.physRaw_toNat {p : Page KernPhysAddr} (hp : p.size = .size4KiB) :
    p.physRaw.toNat = 4096 * p.frame := by
  rw [physRaw, p.startAddr.sub_start_toNat, Page.val_toNat hp]
  omega

theorem Page.frame_le {p : Page KernPhysAddr} (hp : p.size = .size4KiB) :
    4096 * p.frame ≤ 0x3777_7777_7777 := by
  have hval := Page.val_toNat hp
  have hk := p.startAddr.val_toNat
  omega

namespace PhysicalMemoryAllocator

theorem maxFrames_eq : maxFrames = 0x3_7777_7778 := by
  unfold maxFrames pageSize
  rw [UInt64.toNat_sub_of_le _ _ (by decide), kernelPhysicalMappingEnd_toNat,
    kernelPhysicalMappingStart_toNat]
  omega

theorem startPage_eq {s : Nat} (hs : s < maxFrames) :
    ∃ p : Page KernPhysAddr, p.size = .size4KiB ∧ p.frame = s ∧
      ∀ {β : Type} (f : Page KernPhysAddr → Option β),
        (do
          let physAddr ← PhysAddr.new (s * pageSize).toUInt64
          let startAddr ← KernPhysAddr.fromPhysAddr physAddr
          let startPage ← Page.fromStartAddr startAddr .size4KiB
          f startPage) = f p := by
  rw [maxFrames_eq] at hs
  have hval : (s * pageSize).toUInt64.toNat = 4096 * s := by
    simp only [pageSize, Nat.toUInt64_eq, UInt64.toNat_ofNat']
    omega
  have hlt : (s * pageSize).toUInt64.toNat < 2 ^ 52 := by rw [hval]; omega
  have hphys : PhysAddr.new (s * pageSize).toUInt64 = some ⟨_, hlt⟩ := by
    unfold PhysAddr.new
    rw [dif_pos hlt]
  have hle : (s * pageSize).toUInt64.toNat ≤ 0x3777_7777_7777 := by rw [hval]; omega
  obtain ⟨k, hk, hkval⟩ := KernPhysAddr.fromPhysAddr_eq ⟨(s * pageSize).toUInt64, hlt⟩ hle
  simp only [hval] at hkval
  have hal : (Address.asU64 k).toNat % PageSize.size4KiB.sizeBytes = 0 := by
    simp only [Address.asU64, PageSize.sizeBytes, hkval]
    omega
  have hpage : Page.fromStartAddr k .size4KiB = some ⟨k, .size4KiB, hal⟩ := by
    unfold Page.fromStartAddr
    rw [dif_pos hal]
  refine ⟨⟨k, .size4KiB, hal⟩, rfl, ?_, fun f => ?_⟩
  · simp only [Page.frame, KernPhysAddr.frame, k.sub_start_toNat, hkval]
    omega
  · rw [hphys]
    simp only [Option.bind_eq_bind]
    rw [Option.bind_some, hk, Option.bind_some, hpage, Option.bind_some]

theorem allocatePage_spec {a : PhysicalMemoryAllocator} (h : Healthy a) :
    ∃ r a', a.allocatePage = some (r, a') ∧ Healthy a' ∧
      a'.allocator.numPages = a.allocator.numPages ∧
      match r with
      | .error _ => ∀ q, a'.isUsed q = a.isUsed q
      | .ok p => p.size = .size4KiB ∧ a.isUsed p.frame = false ∧
          ∀ q, a'.isUsed q = (a.isUsed q || decide (q = p.frame)) := by
  obtain ⟨bm, hbm, hlen, -, hbits⟩ := allocateContiguous_spec h.hint Nat.one_pos
  have hhint := hintBelowUsed_allocate h.hint Nat.one_pos hbm
  have hnum : bm.numPages = a.allocator.numPages := by simp only [numPages, hlen]
  have h0 : a.allocator.isUsed 0 = true := h.zeroUsed
  have hhealthy : Healthy ⟨bm⟩ :=
    ⟨by simp only [isUsed, hbits, h0, Bool.true_or], hhint, hnum ▸ h.fits⟩
  have hfit := findNextContiguous_spec h.hint Nat.one_pos
  unfold allocatePage allocatePages
  rw [hbm]
  cases hfind : a.allocator.findNextContiguous 1 with
  | none =>
      refine ⟨.error ⟨⟩, ⟨bm⟩, rfl, hhealthy, hnum, fun q => ?_⟩
      simp only [isUsed, hbits, hfind, inBlock, Bool.or_false]
  | some s =>
      rw [hfind] at hfit
      obtain ⟨-, hs, hrun, -⟩ := hfit
      have hfree : a.isUsed s = false := hrun s le_rfl (by omega)
      have hs0 : s ≠ 0 := by
        rintro rfl
        rw [h.zeroUsed] at hfree
        exact Bool.noConfusion hfree
      obtain ⟨p, hsize, hframe, hp⟩ := startPage_eq (s := s) (by have := h.fits; omega)
      refine ⟨.ok p, ⟨bm⟩, ?_, hhealthy, hnum, hsize, hframe ▸ hfree, fun q => ?_⟩
      · simp only [if_neg hs0, hp, Option.map_some, Except.map]
      · simp only [isUsed, hbits, hfind, inBlock, hframe]
        congr 1
        simp only [decide_eq_decide]
        omega

theorem lt_numPages_of_isUsed {a : PhysicalMemoryAllocator} {q : Nat} (h : a.isUsed q = true) :
    q < a.allocator.numPages := by
  by_contra hq
  have hlen : 64 * a.allocator.bitmap.length ≤ q := by unfold numPages at hq; omega
  have hfalse := WordBits.bitAt_of_length_le hlen
  simp only [isUsed, BitmapAllocator.isUsed, hfalse] at h
  exact Bool.noConfusion h

theorem freePage_spec {a : PhysicalMemoryAllocator} (h : Healthy a) {p : Page KernPhysAddr}
    (hp : p.size = .size4KiB) (hused : a.isUsed p.frame = true) (hzero : p.frame ≠ 0) :
    ∃ a', a.freePage p = some a' ∧ Healthy a' ∧ a'.allocator.numPages = a.allocator.numPages ∧
      ∀ q, a'.isUsed q = (a.isUsed q && !decide (q = p.frame)) := by
  obtain ⟨phys, hphys⟩ := Option.isSome_iff_exists.mp p.startAddr.toPhysAddr_isSome
  have hstart : phys.val.toNat / p.size.sizeBytes = p.frame := by
    rw [Page.toPhysAddr_val hp hphys, hp]
    simp only [PageSize.sizeBytes]
    omega
  have hin := lt_numPages_of_isUsed hused
  obtain ⟨bm, hbm⟩ := freeContiguous_isSome (a := a.allocator) (s := p.frame) Nat.one_pos
    (by omega) (fun q hq1 hq2 => by rw [show q = p.frame by omega]; exact hused)
  obtain ⟨-, -, -, hlen, -, hbits⟩ := freeContiguous_eq hbm
  have hbits' : ∀ q, bm.isUsed q = (a.isUsed q && !decide (q = p.frame)) := by
    intro q
    rw [hbits]
    simp only [isUsed]
    congr 2
    simp only [decide_eq_decide]
    omega
  have h0 : a.allocator.isUsed 0 = true := h.zeroUsed
  refine ⟨⟨bm⟩, ?_, ⟨?_, hintBelowUsed_free h.hint hbm, ?_⟩, ?_, hbits'⟩
  · unfold freePage freePages
    rw [hphys]
    simp only [Option.bind_eq_bind]
    rw [Option.bind_some, hstart, hbm, Option.bind_some]
  · simp only [isUsed] at hbits' ⊢
    rw [hbits' 0, h0]
    simp only [Bool.true_and, Bool.not_eq_eq_eq_not, Bool.not_true, decide_eq_false_iff_not]
    omega
  · simp only [numPages, hlen]
    exact h.fits
  · simp only [numPages, hlen]

end PhysicalMemoryAllocator

end RustOs.Memory
