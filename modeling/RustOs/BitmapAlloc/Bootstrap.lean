import RustOs.BitmapAlloc.Spec

/-!
# Bootstrapping the bitmap allocator

`crates/bitmap-alloc/src/bootstrap.rs`: `bootstrap_allocator` sizes the bitmap from the highest
address any region reaches, puts it at the start of the first free region where it fits,
starts with every page used, frees the pages of every free region and then marks the pages of
the bitmap itself used again. A free region is rounded inwards to whole pages, any other
region outwards. A panic is `none`. Addresses are `Nat`: the `usize` additions of the source,
which panic in the debug build near `2 ^ 64`, are left unchecked, so the model returns where
such a memory map makes the code panic; bounds of real memory maps are far below that.

`bootstrapAllocator_spec` says which pages come out free: a page is free exactly when it lies
inside a free region and does not overlap the `bitmap_bytes` bytes at `bitmap_start`.
-/

namespace RustOs.BitmapAlloc
open WordBits BitmapAllocator

structure MemoryRegion where
  startAddress : Nat
  lenBytes : Nat
  free : Bool
  deriving Repr, DecidableEq

def shiftUpPageSize (value pageSize : Nat) : Nat :=
  let shift := if value % pageSize = 0 then 0 else pageSize - value % pageSize
  value + shift

def shiftDownPageSize (value pageSize : Nat) : Nat :=
  value - value % pageSize

def divCeil (a b : Nat) : Option Nat :=
  if b = 0 then none else some (a / b + if a % b = 0 then 0 else 1)

namespace MemoryRegion

def pageAlignedStartEndAddress (r : MemoryRegion) (pageSize : Nat) : Option (Nat × Nat) :=
  if r.free then
    let alignedStart := shiftUpPageSize r.startAddress pageSize
    let alignedEnd := shiftDownPageSize (r.startAddress + r.lenBytes) pageSize
    if alignedEnd ≤ alignedStart then none else some (alignedStart, alignedEnd)
  else
    some (shiftDownPageSize r.startAddress pageSize,
      shiftUpPageSize (r.startAddress + r.lenBytes) pageSize)

/-- Page `q` is one of the pages `mark_region` visits for `r`. -/
def holdsPage (r : MemoryRegion) (pageSize q : Nat) : Bool :=
  match r.pageAlignedStartEndAddress pageSize with
  | none => false
  | some (start, end_) => decide (start / pageSize ≤ q ∧ q < end_ / pageSize)

def Apart (r r' : MemoryRegion) : Prop :=
  r.startAddress + r.lenBytes ≤ r'.startAddress ∨ r'.startAddress + r'.lenBytes ≤ r.startAddress

end MemoryRegion

def markRegion (used : Bool) (region : MemoryRegion) (pageSize : Nat) (alloc : BitmapAllocator) :
    Option BitmapAllocator :=
  match region.pageAlignedStartEndAddress pageSize with
  | none => some alloc
  | some (startAddr, endAddr) =>
      let start := startAddr / pageSize
      let end_ := endAddr / pageSize
      (List.range' start (end_ - start)).foldlM
        (fun alloc page => if used then alloc.markUsed page else alloc.markUnused page) alloc

/-- The loop of `bootstrap_allocator` that frees the pages of every free region. -/
def markFreeRegions (pageSize : Nat) (regions : List MemoryRegion) (alloc : BitmapAllocator) :
    Option BitmapAllocator :=
  regions.foldlM (fun alloc region =>
    if !region.free then some alloc else markRegion false region pageSize alloc) alloc

/-- The first half of `bootstrap_allocator`: the arguments `(bitmap_start, bitmap_bytes)` it
hands to `allocate_bitmap`. -/
def bitmapPlacement (pageSize : Nat) (regions : List MemoryRegion) : Option (Nat × Nat) := do
  -- .max().expect("no memory regions found")
  let totalMemory ← (regions.map fun r => r.startAddress + r.lenBytes).max?
  let bitmapBits ← divCeil totalMemory pageSize
  let bitmapBytes ← divCeil bitmapBits 64
  -- .find_map(..).expect("couldn't find a free region large enough to store the allocator bitmap")
  let bitmapStart ← (regions.filter (·.free)).findSome? fun region => do
    let (start, end_) ← region.pageAlignedStartEndAddress pageSize
    if bitmapBytes ≤ end_ - start then some start else none
  return (bitmapStart, bitmapBytes)

/-- `allocate_bitmap` returns the slice the bitmap lives in, or panics; `fill(u64::MAX)`
overwrites whatever the slice held. -/
def bootstrapAllocator (pageSize : Nat) (regions : List MemoryRegion)
    (allocateBitmap : Nat → Nat → Option (List UInt64)) : Option BitmapAllocator := do
  let (bitmapStart, bitmapBytes) ← bitmapPlacement pageSize regions
  let bitmap ← allocateBitmap bitmapStart bitmapBytes
  let alloc ← markFreeRegions pageSize regions (new (bitmap.map fun _ => 0xFFFF_FFFF_FFFF_FFFF))
  markRegion true ⟨bitmapStart, bitmapBytes, false⟩ pageSize alloc

/-! ## Rounding to pages -/

section Rounding

variable {pageSize : Nat}

theorem add_pred_div_eq (pos : 0 < pageSize) (v : Nat) :
    (v + pageSize - 1) / pageSize = v / pageSize + if v % pageSize = 0 then 0 else 1 := by
  have split := Nat.div_add_mod v pageSize
  have rest : v + pageSize - 1 = (v % pageSize + pageSize - 1) + pageSize * (v / pageSize) := by
    omega
  rw [rest, Nat.add_mul_div_left _ _ pos, Nat.add_comm]
  congr 1
  split
  case isTrue aligned => exact Nat.div_eq_of_lt (by omega)
  case isFalse unaligned =>
    exact Nat.div_eq_of_lt_le (by omega) (by have := Nat.mod_lt v pos; omega)

theorem add_pred_div_le_iff (pos : 0 < pageSize) {v q : Nat} :
    (v + pageSize - 1) / pageSize ≤ q ↔ v ≤ q * pageSize := by
  rw [Nat.div_le_iff_le_mul_add_pred pos, Nat.mul_comm]
  omega

theorem divCeil_eq (pos : 0 < pageSize) (v : Nat) :
    divCeil v pageSize = some ((v + pageSize - 1) / pageSize) := by
  rw [divCeil, if_neg (Nat.ne_of_gt pos), add_pred_div_eq pos]

theorem shiftDownPageSize_eq (v : Nat) :
    shiftDownPageSize v pageSize = v / pageSize * pageSize := by
  have split := Nat.div_add_mod v pageSize
  rw [shiftDownPageSize, Nat.mul_comm]
  omega

theorem shiftUpPageSize_eq (pos : 0 < pageSize) (v : Nat) :
    shiftUpPageSize v pageSize = (v + pageSize - 1) / pageSize * pageSize := by
  have split := Nat.div_add_mod v pageSize
  have below := Nat.mod_lt v pos
  rw [shiftUpPageSize, add_pred_div_eq pos, Nat.add_mul]
  split <;> simp only [Nat.zero_mul, Nat.one_mul] <;> rw [Nat.mul_comm] <;> omega

end Rounding

/-! ## The pages `mark_region` visits -/

namespace MemoryRegion

section Pages

variable {pageSize : Nat}

theorem holdsPage_of_free (pos : 0 < pageSize) {r : MemoryRegion} (free : r.free = true)
    (q : Nat) : r.holdsPage pageSize q = decide (r.startAddress ≤ q * pageSize ∧
      (q + 1) * pageSize ≤ r.startAddress + r.lenBytes) := by
  have lower : (r.startAddress + pageSize - 1) / pageSize ≤ q ↔ r.startAddress ≤ q * pageSize :=
    add_pred_div_le_iff pos
  have upper : q < (r.startAddress + r.lenBytes) / pageSize ↔
      (q + 1) * pageSize ≤ r.startAddress + r.lenBytes := by
    rw [Nat.lt_iff_add_one_le, Nat.le_div_iff_mul_le pos]
  simp only [holdsPage, pageAlignedStartEndAddress, free, if_true, shiftUpPageSize_eq pos,
    shiftDownPageSize_eq]
  by_cases empty : (r.startAddress + r.lenBytes) / pageSize * pageSize ≤
      (r.startAddress + pageSize - 1) / pageSize * pageSize
  · -- no whole page fits between the rounded ends, so no page lies inside the region
    have noPage := Nat.le_of_mul_le_mul_right empty pos
    simp only [if_pos empty, Bool.false_eq, decide_eq_false_iff_not]
    omega
  · simp only [if_neg empty, Nat.mul_div_cancel _ pos, lower, upper]

theorem holdsPage_of_reserved (pos : 0 < pageSize) {r : MemoryRegion} (reserved : r.free = false)
    (q : Nat) : r.holdsPage pageSize q = decide (q * pageSize < r.startAddress + r.lenBytes ∧
      r.startAddress < (q + 1) * pageSize) := by
  have lower : r.startAddress / pageSize ≤ q ↔ r.startAddress < (q + 1) * pageSize := by
    rw [← Nat.lt_add_one_iff, Nat.div_lt_iff_lt_mul pos]
  have upper : q < (r.startAddress + r.lenBytes + pageSize - 1) / pageSize ↔
      q * pageSize < r.startAddress + r.lenBytes := by
    rw [← Nat.not_le, add_pred_div_le_iff pos, Nat.not_le]
  simp only [holdsPage, pageAlignedStartEndAddress, reserved, Bool.false_eq_true, if_false,
    shiftUpPageSize_eq pos, shiftDownPageSize_eq, Nat.mul_div_cancel _ pos, lower, upper,
    decide_eq_decide]
  exact and_comm

theorem Apart.symm {r r' : MemoryRegion} (apart : r.Apart r') : r'.Apart r := Or.symm apart

theorem Apart.holdsPage_eq_false (pos : 0 < pageSize) {r r' : MemoryRegion} (apart : r.Apart r')
    (free : r.free = true) (free' : r'.free = true) {q : Nat} (held : r.holdsPage pageSize q) :
    r'.holdsPage pageSize q = false := by
  have step : (q + 1) * pageSize = q * pageSize + pageSize := Nat.succ_mul q pageSize
  rw [holdsPage_of_free pos free, decide_eq_true_iff] at held
  rw [holdsPage_of_free pos free', decide_eq_false_iff_not]
  unfold Apart at apart
  omega

theorem holdsPage_of_aligned {r : MemoryRegion} {startAddr endAddr : Nat}
    (aligned : r.pageAlignedStartEndAddress pageSize = some (startAddr, endAddr)) (q : Nat) :
    r.holdsPage pageSize q = decide (startAddr / pageSize ≤ q ∧
      q < startAddr / pageSize + (endAddr / pageSize - startAddr / pageSize)) := by
  simp only [holdsPage, aligned, decide_eq_decide]
  omega

end Pages

end MemoryRegion

/-! ## Marking regions -/

section Marking

variable {pageSize : Nat}

theorem marksPage_mark (used : Bool) :
    MarksPage (fun alloc page => if used then alloc.markUsed page else alloc.markUnused page)
      used := by
  cases used with
  | true => exact marksPage_markUsed
  | false => exact marksPage_markUnused

theorem markRegion_spec {used : Bool} {r : MemoryRegion} {a a' : BitmapAllocator}
    (h : markRegion used r pageSize a = some a') :
    (∀ q, r.holdsPage pageSize q → q < a.numPages ∧ a.isUsed q = !used) ∧
      a'.bitmap.length = a.bitmap.length ∧
      a'.lastSinglePageAllocation = a.lastSinglePageAllocation ∧
      ∀ q, a'.isUsed q = if r.holdsPage pageSize q then used else a.isUsed q := by
  unfold markRegion at h
  cases aligned : r.pageAlignedStartEndAddress pageSize with
  | none =>
      simp only [aligned, Option.some.injEq] at h
      subst h
      simp [MemoryRegion.holdsPage, aligned]
  | some bounds =>
      obtain ⟨startAddr, endAddr⟩ := bounds
      have held := MemoryRegion.holdsPage_of_aligned aligned
      simp only [aligned] at h
      obtain ⟨inside, was, length, hint, marked⟩ := (marksPage_mark used).foldlM_spec _ h
      refine ⟨fun q hq => ?_, length, hint, fun q => ?_⟩
      · rw [held, decide_eq_true_iff] at hq
        exact ⟨by have := inside (by omega); omega, was q hq.1 hq.2⟩
      · simp only [marked, held, decide_eq_true_eq]

theorem markRegion_isSome {used : Bool} {r : MemoryRegion} {a : BitmapAllocator}
    (fits : ∀ q, r.holdsPage pageSize q → q < a.numPages ∧ a.isUsed q = !used) :
    ∃ a', markRegion used r pageSize a = some a' := by
  unfold markRegion
  cases aligned : r.pageAlignedStartEndAddress pageSize with
  | none => exact ⟨a, rfl⟩
  | some bounds =>
      obtain ⟨startAddr, endAddr⟩ := bounds
      have held := MemoryRegion.holdsPage_of_aligned aligned
      simp only
      generalize startAddr / pageSize = start at held ⊢
      generalize endAddr / pageSize - start = count at held ⊢
      rcases Nat.eq_zero_or_pos count with empty | nonempty
      · exact ⟨a, by simp [empty]⟩
      · -- the last page of the range is in the bitmap, so the whole range is
        have last := (fits (start + count - 1) (by rw [held, decide_eq_true_iff]; omega)).1
        exact (marksPage_mark used).foldlM_isSome _ (by omega) fun q lo hi =>
          (fits q (by rw [held, decide_eq_true_iff]; omega)).2

/-- Some free region of `regions` holds page `q`. -/
def freePage (pageSize : Nat) (regions : List MemoryRegion) (q : Nat) : Bool :=
  regions.any fun r => r.free && r.holdsPage pageSize q

theorem freePage_iff (pos : 0 < pageSize) {regions : List MemoryRegion} {q : Nat} :
    freePage pageSize regions q = true ↔ ∃ r ∈ regions, r.free = true ∧
      r.startAddress ≤ q * pageSize ∧ (q + 1) * pageSize ≤ r.startAddress + r.lenBytes := by
  simp only [freePage, List.any_eq_true, Bool.and_eq_true]
  constructor
  · rintro ⟨r, mem, free, held⟩
    rw [MemoryRegion.holdsPage_of_free pos free, decide_eq_true_iff] at held
    exact ⟨r, mem, free, held⟩
  · rintro ⟨r, mem, free, inside⟩
    refine ⟨r, mem, free, ?_⟩
    rw [MemoryRegion.holdsPage_of_free pos free]
    exact decide_eq_true inside

theorem markFreeRegions_spec {regions : List MemoryRegion} {a a' : BitmapAllocator}
    (h : markFreeRegions pageSize regions a = some a') :
    a'.bitmap.length = a.bitmap.length ∧
      a'.lastSinglePageAllocation = a.lastSinglePageAllocation ∧
      ∀ q, a'.isUsed q = (a.isUsed q && !freePage pageSize regions q) := by
  induction regions generalizing a with
  | nil =>
      simp only [markFreeRegions, List.foldlM_nil, Option.pure_def, Option.some.injEq] at h
      subst h
      simp [freePage]
  | cons r rs ih =>
      simp only [markFreeRegions, List.foldlM_cons, Option.bind_eq_bind] at h
      cases free : r.free with
      | false =>
          simp only [free, Bool.not_false, ↓reduceIte, Option.bind_some] at h
          obtain ⟨length, hint, marked⟩ := ih h
          exact ⟨length, hint, fun q => by simp [marked, freePage, free]⟩
      | true =>
          simp only [free, Bool.not_true, Bool.false_eq_true, ↓reduceIte] at h
          obtain ⟨a1, first, rest⟩ := Option.bind_eq_some_iff.mp h
          obtain ⟨-, length1, hint1, marked1⟩ := markRegion_spec first
          obtain ⟨length, hint, marked⟩ := ih rest
          refine ⟨length.trans length1, hint.trans hint1, fun q => ?_⟩
          rw [marked, marked1]
          by_cases held : r.holdsPage pageSize q <;> simp [freePage, free, held]

theorem markFreeRegions_isSome (pos : 0 < pageSize) {regions : List MemoryRegion}
    {a : BitmapAllocator} (apart : (regions.filter (·.free)).Pairwise MemoryRegion.Apart)
    (fits : ∀ q, freePage pageSize regions q → q < a.numPages ∧ a.isUsed q = true) :
    ∃ a', markFreeRegions pageSize regions a = some a' := by
  induction regions generalizing a with
  | nil => exact ⟨a, rfl⟩
  | cons r rs ih =>
      cases free : r.free with
      | false =>
          rw [List.filter_cons_of_neg (by simp [free])] at apart
          obtain ⟨a', rest⟩ := ih apart fun q held => fits q (by simp_all [freePage])
          exact ⟨a', by simpa [markFreeRegions, free] using rest⟩
      | true =>
          rw [List.filter_cons_of_pos (by simp [free]), List.pairwise_cons] at apart
          obtain ⟨first, later⟩ := apart
          obtain ⟨a1, marked⟩ := @markRegion_isSome pageSize false r a fun q held =>
            fits q (by simp [freePage, free, held])
          obtain ⟨-, length1, -, isUsed1⟩ := markRegion_spec marked
          obtain ⟨a', rest⟩ := ih (a := a1) later fun q held => by
            obtain ⟨r', mem', free', held'⟩ : ∃ r' ∈ rs, r'.free ∧ r'.holdsPage pageSize q := by
              simpa [freePage] using held
            -- `r` is apart from the later free region `r'`, so it does not hold `q`
            have notFirst : r.holdsPage pageSize q = false :=
              (first r' (List.mem_filter.mpr ⟨mem', free'⟩)).symm.holdsPage_eq_false pos free'
                free held'
            have earlier := fits q (by
              simp only [freePage, List.any_cons, Bool.or_eq_true, List.any_eq_true]
              exact Or.inr ⟨r', mem', by simp [free', held']⟩)
            refine ⟨by simpa [numPages, length1] using earlier.1, ?_⟩
            rw [isUsed1, notFirst]
            exact earlier.2
          exact ⟨a', by simpa [markFreeRegions, free, marked] using rest⟩

end Marking

/-! ## Where the bitmap goes -/

section Placement

variable {pageSize : Nat}

theorem bitmapPlacement_spec (pos : 0 < pageSize) {regions : List MemoryRegion} {start len : Nat}
    (h : bitmapPlacement pageSize regions = some (start, len)) :
    (∀ r ∈ regions, r.startAddress + r.lenBytes ≤ 64 * len * pageSize) ∧
      ∃ r ∈ regions, r.free = true ∧ ∃ e,
        r.pageAlignedStartEndAddress pageSize = some (start, e) ∧ len ≤ e - start := by
  simp only [bitmapPlacement, divCeil_eq pos, divCeil_eq (show 0 < 64 by decide),
    Option.bind_eq_bind, Option.bind_some] at h
  obtain ⟨total, maxEq, h⟩ := Option.bind_eq_some_iff.mp h
  obtain ⟨found, findEq, h⟩ := Option.bind_eq_some_iff.mp h
  simp only [Option.pure_def, Option.some.injEq, Prod.mk.injEq] at h
  obtain ⟨rfl, rfl⟩ := h
  constructor
  · -- the words cover `total` bytes of pages, and every region ends below `total`
    have pages := (add_pred_div_le_iff pos).mp (le_refl ((total + pageSize - 1) / pageSize))
    have words := (add_pred_div_le_iff (show 0 < 64 by decide)).mp
      (le_refl (((total + pageSize - 1) / pageSize + 64 - 1) / 64))
    have scaled := Nat.mul_le_mul_right pageSize words
    intro r mem
    have below := (List.max?_eq_some_iff.mp maxEq).2 _ (List.mem_map_of_mem mem)
    rw [Nat.mul_comm 64]
    omega
  · obtain ⟨r, mem, fits⟩ := List.exists_of_findSome?_eq_some findEq
    obtain ⟨⟨s, e⟩, aligned, fits⟩ := Option.bind_eq_some_iff.mp fits
    obtain ⟨inRegions, free⟩ := List.mem_filter.mp mem
    split at fits
    case isTrue room =>
      cases fits
      exact ⟨r, inRegions, free, e, aligned, room⟩
    case isFalse => cases fits

theorem holdsPage_of_room (pos : 0 < pageSize) {r : MemoryRegion} (free : r.free = true)
    {start e len : Nat} (aligned : r.pageAlignedStartEndAddress pageSize = some (start, e))
    (room : len ≤ e - start) {q : Nat}
    (held : (⟨start, len, false⟩ : MemoryRegion).holdsPage pageSize q) :
    r.holdsPage pageSize q := by
  have bounds : start = (r.startAddress + pageSize - 1) / pageSize * pageSize ∧
      e = (r.startAddress + r.lenBytes) / pageSize * pageSize := by
    simp only [MemoryRegion.pageAlignedStartEndAddress, free, if_true, shiftUpPageSize_eq pos,
      shiftDownPageSize_eq] at aligned
    split at aligned
    case isTrue => cases aligned
    case isFalse =>
      simp only [Option.some.injEq, Prod.mk.injEq] at aligned
      exact ⟨aligned.1.symm, aligned.2.symm⟩
  rw [MemoryRegion.holdsPage_of_reserved pos rfl, decide_eq_true_iff] at held
  dsimp only at held
  rw [MemoryRegion.holdsPage_of_aligned aligned, decide_eq_true_iff]
  obtain ⟨rfl, rfl⟩ := bounds
  generalize (r.startAddress + pageSize - 1) / pageSize = first at held room ⊢
  generalize (r.startAddress + r.lenBytes) / pageSize = last at held room ⊢
  simp only [Nat.mul_div_cancel _ pos]
  -- the bitmap starts on page `first` and ends at or before page `last`
  have fromFirst : first ≤ q := Nat.lt_add_one_iff.mp (Nat.lt_of_mul_lt_mul_right held.2)
  have scaled := Nat.mul_le_mul_right pageSize fromFirst
  have beforeLast : q < last :=
    Nat.lt_of_mul_lt_mul_right (by omega : q * pageSize < last * pageSize)
  omega

end Placement

/-! ## The allocator `bootstrap_allocator` builds -/

section Bootstrap

variable {pageSize : Nat}

theorem bootstrapAllocator_spec (pos : 0 < pageSize) {regions : List MemoryRegion}
    (apart : (regions.filter (·.free)).Pairwise MemoryRegion.Apart) {start len : Nat}
    (placed : bitmapPlacement pageSize regions = some (start, len))
    {allocateBitmap : Nat → Nat → Option (List UInt64)} {bitmap : List UInt64}
    (allocated : allocateBitmap start len = some bitmap) (sized : bitmap.length = len) :
    ∃ alloc, bootstrapAllocator pageSize regions allocateBitmap = some alloc ∧
      alloc.numPages = 64 * len ∧ alloc.lastSinglePageAllocation = none ∧
      (∀ q, ∀ r ∈ regions, r.free = true → r.startAddress ≤ q * pageSize →
        (q + 1) * pageSize ≤ r.startAddress + r.lenBytes → q < alloc.numPages) ∧
      ∀ q < alloc.numPages, (alloc.isUsed q = false ↔
        (∃ r ∈ regions, r.free = true ∧ r.startAddress ≤ q * pageSize ∧
          (q + 1) * pageSize ≤ r.startAddress + r.lenBytes) ∧
        ¬(q * pageSize < start + len ∧ start < (q + 1) * pageSize)) := by
  obtain ⟨ends, r0, mem0, free0, e, aligned0, room⟩ := bitmapPlacement_spec pos placed
  let initial := new (bitmap.map fun _ => 0xFFFF_FFFF_FFFF_FFFF)
  have initialLength : initial.bitmap.length = len := by simp [initial, new, sized]
  have initialUsed (q : Nat) : initial.isUsed q = decide (q < 64 * len) := by
    simp only [initial, new, isUsed]
    rw [List.map_const', sized, bitAt_replicate_max]
  -- every page inside a free region has a bit: the regions end below `64 * len` pages
  have freeInside (q : Nat) (held : freePage pageSize regions q) : q < 64 * len := by
    obtain ⟨r, mem, -, -, inside⟩ := (freePage_iff pos).mp held
    have ending := ends r mem
    exact Nat.le_of_mul_le_mul_right (by omega : (q + 1) * pageSize ≤ 64 * len * pageSize) pos
  obtain ⟨freed, freeing⟩ := markFreeRegions_isSome (a := initial) pos apart fun q held =>
    ⟨by simpa [numPages, initialLength] using freeInside q held,
      by rw [initialUsed, decide_eq_true_iff]; exact freeInside q held⟩
  obtain ⟨freedLength, freedHint, freedUsed⟩ := markFreeRegions_spec freeing
  -- the pages of the bitmap are pages of the free region it was placed in
  have bitmapPages (q : Nat) (held : (⟨start, len, false⟩ : MemoryRegion).holdsPage pageSize q) :
      freePage pageSize regions q :=
    List.any_eq_true.mpr ⟨r0, mem0, by simp [free0, holdsPage_of_room pos free0 aligned0 room held]⟩
  obtain ⟨alloc, marking⟩ :=
    @markRegion_isSome pageSize true ⟨start, len, false⟩ freed fun q held =>
      ⟨by simpa [numPages, freedLength, initialLength] using freeInside q (bitmapPages q held),
        by rw [freedUsed, bitmapPages q held, Bool.not_true, Bool.and_false]⟩
  obtain ⟨-, length, hint, used⟩ := markRegion_spec marking
  have pages : alloc.numPages = 64 * len := by
    simp only [numPages, length, freedLength, initialLength]
  refine ⟨alloc, ?_, pages, by rw [hint, freedHint]; rfl, ?_, ?_⟩
  · simp only [bootstrapAllocator, placed, allocated, Option.bind_eq_bind, Option.bind_some]
    rw [show markFreeRegions pageSize regions _ = some freed from freeing, Option.bind_some]
    exact marking
  · intro q r mem free lo hi
    rw [pages]
    exact freeInside q ((freePage_iff pos).mpr ⟨r, mem, free, lo, hi⟩)
  · intro q below
    rw [pages] at below
    rw [used, freedUsed, initialUsed, MemoryRegion.holdsPage_of_reserved pos rfl,
      ← freePage_iff pos]
    by_cases overlap : q * pageSize < start + len ∧ start < (q + 1) * pageSize <;>
      simp [overlap, below]

-- The regions of the crate's own test `bootstrap`: the bitmap lands at `0x100`, and the pages
-- free afterwards are those of the two free regions less the bitmap's page `0x10`.
example : bitmapPlacement 16 [⟨0, 0x100, false⟩, ⟨0x100, 0x100, true⟩, ⟨0x200, 0x200, false⟩,
    ⟨0x419, 0xd1, true⟩, ⟨0x500, 0x20, false⟩] = some (0x100, 2) := by decide
example : (bootstrapAllocator 16 [⟨0, 0x100, false⟩, ⟨0x100, 0x100, true⟩, ⟨0x200, 0x200, false⟩,
    ⟨0x419, 0xd1, true⟩, ⟨0x500, 0x20, false⟩] (fun _ n => some (List.replicate n 0))).map
    (fun a => (List.range 0x52).map a.isUsed) =
      some ((List.range 0x52).map fun p =>
        !(decide (0x11 ≤ p ∧ p < 0x20) || decide (0x42 ≤ p ∧ p < 0x4E))) := by
  decide

end Bootstrap

end RustOs.BitmapAlloc
