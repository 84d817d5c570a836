import RustOs.Memory.PageTable.Walk
import RustOs.Memory.PageTable.Refinement

/-!
# Mapping ranges of pages

`memory/mapping.rs`, with the parts of `memory/page.rs` and `memory/page_table.rs` that act
on a range of pages or on a whole table: the pages of a `PageRange` of virtual pages, mapping
each of them to a fresh frame (`allocate_and_map_pages`), setting their flags
(`set_page_flags`), and `Level4PageTable::allocate_clone`, which gives a new task a copy of the
kernel's level 4 table. The copy's higher-half entries point at the kernel's own level 3
tables, so the tables below them are shared by every task.
-/

namespace RustOs.Memory

/-! ## Pages of the direct map -/

section DirectMapPages

variable (addr : KernPhysAddr) (size : PageSize)

theorem sizeBytes_toUInt64_toNat : size.sizeBytes.toUInt64.toNat = size.sizeBytes := by
  cases size <;> rfl

theorem alignDown_toNat :
    (addr.val - addr.val % size.sizeBytes.toUInt64).toNat =
      addr.val.toNat - addr.val.toNat % size.sizeBytes := by
  have rest : (addr.val % size.sizeBytes.toUInt64).toNat = addr.val.toNat % size.sizeBytes := by
    rw [UInt64.toNat_mod, sizeBytes_toUInt64_toNat]
  rw [UInt64.toNat_sub_of_le _ _ (UInt64.le_iff_toNat_le.mpr (by rw [rest]; exact Nat.mod_le _ _)),
    rest]

theorem alignDown_inRange :
    kernelPhysicalMappingStart ≤ addr.val - addr.val % size.sizeBytes.toUInt64 ∧
      addr.val - addr.val % size.sizeBytes.toUInt64 ≤ kernelPhysicalMappingEnd := by
  have hk := addr.val_toNat
  rw [inKernelPhysicalMapping_iff, alignDown_toNat]
  cases size <;> simp only [PageSize.sizeBytes] <;> omega

theorem alignDown_aligned :
    (addr.val - addr.val % size.sizeBytes.toUInt64).toNat % size.sizeBytes = 0 := by
  rw [alignDown_toNat]
  exact Nat.sub_mod_eq_zero_of_mod_eq (Nat.mod_mod _ _).symm

end DirectMapPages

/-- `Page::containing_address` of a direct-map address: `align_down` to the size. -/
def Page.containingAddress (addr : KernPhysAddr) (size : PageSize) : Page KernPhysAddr :=
  ⟨⟨addr.val - addr.val % size.sizeBytes.toUInt64, alignDown_inRange addr size⟩, size,
    alignDown_aligned addr size⟩

/-- `PageRange::from_num_bytes`: the bytes rounded up to whole pages (`div_ceil`), counted from
the start page. -/
def PageRange.fromNumBytes (start : Page KernPhysAddr) (numBytes : Nat) : PageRange :=
  ⟨start, (numBytes + start.size.sizeBytes - 1) / start.size.sizeBytes⟩

/-- The page `PageRangeIter::next` yields at `current_page`: `start + current_page * size`, a
`usize` product and a `KernPhysAddr + usize` that panic on overflow and out of the map. The source
builds the page without `from_start_addr`, whose check passes as the start is aligned. -/
def PageRange.pageAt (range : PageRange) (currentPage : Nat) : Option (Page KernPhysAddr) := do
  let offset := currentPage * range.start.size.sizeBytes
  guard (offset < 2 ^ 64)
  let startAddr ← range.start.startAddr.add offset.toUInt64
  Page.fromStartAddr startAddr range.start.size

/-- `PageRange::iter` over pages of the direct map, run to its end. -/
def PageRange.iter (range : PageRange) : Option (List (Page KernPhysAddr)) :=
  (List.range range.numPages).mapM range.pageAt

theorem mem_of_mapM_eq_some {α β : Type} {f : α → Option β} :
    ∀ {l : List α} {r : List β}, l.mapM f = some r → ∀ b ∈ r, ∃ a ∈ l, f a = some b
  | [], r, found => by
      simp only [List.mapM_nil, pure, Option.some.injEq] at found
      subst found
      intro b hb
      cases hb
  | a :: l, r, found => by
      rw [List.mapM_cons] at found
      simp only [bind, Option.bind_eq_some_iff, pure, Option.some.injEq] at found
      obtain ⟨b, first, rest, restFound, rfl⟩ := found
      intro b' hb'
      rcases List.mem_cons.mp hb' with rfl | later
      · exact ⟨a, List.mem_cons_self, first⟩
      · obtain ⟨a', ha', h⟩ := mem_of_mapM_eq_some restFound b' later
        exact ⟨a', List.mem_cons_of_mem a ha', h⟩

theorem exists_of_mapM_eq_some {α β : Type} {f : α → Option β} :
    ∀ {l : List α} {r : List β}, l.mapM f = some r → ∀ a ∈ l, ∃ b ∈ r, f a = some b
  | [], _, _ => fun _ ha => by cases ha
  | a :: l, r, found => by
      rw [List.mapM_cons] at found
      simp only [bind, Option.bind_eq_some_iff, pure, Option.some.injEq] at found
      obtain ⟨b, first, rest, restFound, rfl⟩ := found
      intro a' ha'
      rcases List.mem_cons.mp ha' with rfl | later
      · exact ⟨b, List.mem_cons_self, first⟩
      · obtain ⟨b', hb', h⟩ := exists_of_mapM_eq_some restFound a' later
        exact ⟨b', List.mem_cons_of_mem b hb', h⟩

theorem KernPhysAddr.add_val {k k' : KernPhysAddr} {rhs : UInt64} (h : k.add rhs = some k') :
    k'.val.toNat = k.val.toNat + rhs.toNat := by
  unfold KernPhysAddr.add at h
  split at h
  · rename_i fits
    unfold KernPhysAddr.new at h
    split at h
    · cases h
      rw [UInt64.toNat_add, Nat.mod_eq_of_lt fits]
    · cases h
  · cases h

theorem KernPhysAddr.fromPhysAddr_val {p : PhysAddr} {k : KernPhysAddr}
    (h : KernPhysAddr.fromPhysAddr p = some k) : k.val.toNat = p.val.toNat + (2 ^ 64 - 2 ^ 47) := by
  unfold KernPhysAddr.fromPhysAddr KernPhysAddr.new at h
  split at h
  · rename_i inRange
    rw [← Option.some.inj h]
    have valid := p.valid
    have low := UInt64.le_iff_toNat_le.mp inRange.1
    rw [UInt64.toNat_add, kernelPhysicalMappingStart_toNat] at low ⊢
    omega
  · cases h

theorem PageRange.pageAt_eq_some {range : PageRange} {i : Nat} {p : Page KernPhysAddr}
    (h : range.pageAt i = some p) :
    p.startAddr.val.toNat = range.start.startAddr.val.toNat + i * range.start.size.sizeBytes ∧
      p.size = range.start.size := by
  unfold pageAt at h
  by_cases fits : i * range.start.size.sizeBytes < 2 ^ 64
  · simp only [guard, if_pos fits, pure, bind, Option.bind_some, Option.bind_eq_some_iff] at h
    obtain ⟨startAddr, added, built⟩ := h
    unfold Page.fromStartAddr at built
    split at built
    · cases built
      refine ⟨?_, rfl⟩
      rw [KernPhysAddr.add_val added, Nat.toUInt64_eq, UInt64.toNat_ofNat', Nat.mod_eq_of_lt fits]
    · cases built
  · simp only [guard, if_neg fits] at h
    cases h

/-- The virtual page `identity_map_physical_pages` maps a page of the direct map at: the one at
the same address, which lies in the higher half. -/
def Page.identityVirt (p : Page KernPhysAddr) : Page VirtAddr :=
  ⟨⟨p.startAddr.val, Or.inr p.startAddr.val_toNat.1⟩, p.size, p.aligned⟩

theorem virtAddr_new_kernPhysAddr (k : KernPhysAddr) :
    VirtAddr.new k.val = some ⟨k.val, Or.inr k.val_toNat.1⟩ := by
  unfold VirtAddr.new
  rw [dif_pos (Or.inr k.val_toNat.1)]

theorem fromStartAddr_identityVirt (p : Page KernPhysAddr) :
    Page.fromStartAddr (⟨p.startAddr.val, Or.inr p.startAddr.val_toNat.1⟩ : VirtAddr) p.size =
      some p.identityVirt := by
  unfold Page.fromStartAddr
  exact dif_pos p.aligned

end RustOs.Memory

namespace RustOs.Memory.PageTable
open RustOs.Memory PageTableEntryFlags

/-- `PageRange::iter` over `numPages` virtual pages from `start`: page `i` starts at
`start + i * size` (`VirtAddr + usize`, whose `u64` sum panics on overflow in the debug build
and whose `VirtAddr::new` panics on a non-canonical sum). The iterator builds the page without
the assertion of `from_start_addr`, which holds as the start is aligned. -/
def pageRangeIter (start : Page VirtAddr) (numPages : Nat) : Option (List (Page VirtAddr)) :=
  (List.range numPages).mapM fun i => do
    let sum := start.startAddr.val.toNat + i * start.size.sizeBytes
    guard (sum < 2 ^ 64)
    let startAddr ← VirtAddr.new sum.toUInt64
    Page.fromStartAddr startAddr start.size

namespace Level4PageTable

/-- `allocate_and_map_pages`: map each page to a newly allocated frame, stopping at the first
error. -/
def allocateAndMapPages (pageTable : Level4PageTable) (m : KernelMemory) :
    List (Page VirtAddr) → PageTableEntryFlags → Option (Except MapError Unit × KernelMemory)
  | [], _ => some (.ok (), m)
  | page :: pages, flags => do
      let (r, m) ← pageTable.mapTo m page .newPhysPage flags
      match r with
      | .error e => some (.error e, m)
      | .ok _ => allocateAndMapPages pageTable m pages flags

/-- `set_page_flags`: set the flags of each page, stopping at the first error. -/
def setPageFlags (pageTable : Level4PageTable) (memory : Nat → PageTable) :
    List (Page VirtAddr) → PageTableEntryFlags →
      Option (Except SetFlagsError Unit × (Nat → PageTable))
  | [], _ => some (.ok (), memory)
  | page :: pages, flags => do
      let (r, memory) ← pageTable.setFlags memory page flags
      match r with
      | .error e => some (.error e, memory)
      | .ok () => setPageFlags pageTable memory pages flags

/-- `allocate_clone`: a new frame whose 512 entries are those of this table. -/
def allocateClone (self : Level4PageTable) (m : KernelMemory) :
    Option (Level4PageTable × KernelMemory) := do
  let (r, allocator) ← m.allocator.allocatePage
  -- .expect("failed to allocate page for Level4PageTable clone")
  let .ok page := r | none
  some (⟨page.frame⟩, ⟨Function.update m.memory page.frame (m.memory self.frame), allocator⟩)

/-- `identity_map_physical_pages`: map each page of the direct map at its own address, going on
past a page that is already mapped and stopping at any other error. -/
def identityMapPhysicalPages (pageTable : Level4PageTable) (m : KernelMemory) :
    List (Page KernPhysAddr) → PageTableEntryFlags → Option (Except MapError Unit × KernelMemory)
  | [], _ => some (.ok (), m)
  | physPage :: physPages, flags => do
      let virtAddr ← VirtAddr.new physPage.startAddr.val
      let virtPage ← Page.fromStartAddr virtAddr physPage.size
      let (result, m) ← pageTable.mapTo m virtPage (.existingPhysPage physPage) flags
      match result with
      | .ok _ | .error (.pageAlreadyMapped _ _) =>
          identityMapPhysicalPages pageTable m physPages flags
      | .error e => some (.error e, m)

end Level4PageTable

/-! ## What identity mapping does to the pages of a table -/

/-- No entry of the map of pages is `dropped`: no flags were set without `PRESENT`. -/
def NoDropped (M : Fin (2 ^ 36) → AbsEntry) : Prop := ∀ n, (M n).isDropped = false

theorem noDropped_emptyMemory : NoDropped (absOf emptyMemory.memory 1) := by
  intro n
  rw [absOf_emptyMemory]
  rfl

structure MapsPages (table : Level4PageTable) (m m' : KernelMemory) (S : Fin (2 ^ 36) → Prop) :
    Prop where
  inv : TreeInv m' table.frame
  noDropped : NoDropped (absOf m'.memory table.frame)
  mapped : ∀ n, (∃ q g, absOf m'.memory table.frame n = .mapped q g) ↔
    (∃ q g, absOf m.memory table.frame n = .mapped q g) ∨ S n

namespace MapsPages

variable {table : Level4PageTable} {m m1 m2 : KernelMemory} {S S' : Fin (2 ^ 36) → Prop}

theorem refl (hinv : TreeInv m table.frame) (noDropped : NoDropped (absOf m.memory table.frame)) :
    MapsPages table m m fun _ => False :=
  ⟨hinv, noDropped, fun _ => iff_of_eq (or_false _).symm⟩

theorem trans (first : MapsPages table m m1 S) (second : MapsPages table m1 m2 S') :
    MapsPages table m m2 fun n => S n ∨ S' n :=
  ⟨second.inv, second.noDropped, fun n => by rw [second.mapped, first.mapped, or_assoc]⟩

theorem congr (maps : MapsPages table m m1 S) (same : ∀ n, S n ↔ S' n) :
    MapsPages table m m1 S' :=
  ⟨maps.inv, maps.noDropped, fun n => by rw [maps.mapped, same]⟩

end MapsPages

/-- What an `identity_map_physical_pages` that returns `Ok` does to the pages `M` of the table,
leaving `M'`: a page number no listed page is at keeps its entry, a mapped one stays, and an
unmapped one that a listed page is at becomes mapped to a listed page at that number. -/
structure IdentityMapped (M M' : Fin (2 ^ 36) → AbsEntry) (pages : List (Page KernPhysAddr))
    (flags : PageTableEntryFlags) : Prop where
  frame : ∀ n, (∀ p ∈ pages, p.identityVirt.startAddr.vpn ≠ n) → M' n = M n
  kept : ∀ n q g, M n = .mapped q g → M' n = M n
  added : ∀ n, M n = .unmapped → (∃ p ∈ pages, p.identityVirt.startAddr.vpn = n) →
    ∃ q ∈ pages, q.identityVirt.startAddr.vpn = n ∧ M' n = .mapped q (flags ||| present)

namespace IdentityMapped

variable {M M' : Fin (2 ^ 36) → AbsEntry} {p : Page KernPhysAddr} {ps : List (Page KernPhysAddr)}
  {flags : PageTableEntryFlags}

theorem nil (M : Fin (2 ^ 36) → AbsEntry) (flags : PageTableEntryFlags) :
    IdentityMapped M M [] flags :=
  ⟨fun _ _ => rfl, fun _ _ _ _ => rfl, fun _ _ ⟨_, hp, _⟩ => absurd hp List.not_mem_nil⟩

theorem mem_of_vpn_ne {p' : Page KernPhysAddr} {n : Fin (2 ^ 36)}
    (hp' : p' ∈ p :: ps) (hv : p'.identityVirt.startAddr.vpn = n)
    (ne : n ≠ p.identityVirt.startAddr.vpn) : p' ∈ ps := by
  rcases List.mem_cons.mp hp' with rfl | later
  · exact absurd hv.symm ne
  · exact later

theorem cons_of_update (unmapped : M p.identityVirt.startAddr.vpn = .unmapped)
    (rest : IdentityMapped (Function.update M p.identityVirt.startAddr.vpn
      (.mapped p (flags ||| present))) M' ps flags) :
    IdentityMapped M M' (p :: ps) flags := by
  constructor
  · intro n unlisted
    have ne : n ≠ p.identityVirt.startAddr.vpn := fun h => unlisted p List.mem_cons_self h.symm
    rw [rest.frame n (fun p' hp' => unlisted p' (List.mem_cons_of_mem p hp')),
      Function.update_of_ne ne]
  · intro n q g hm
    have ne : n ≠ p.identityVirt.startAddr.vpn := by
      rintro rfl
      rw [unmapped] at hm
      cases hm
    have same := Function.update_of_ne ne (.mapped p (flags ||| present)) M
    rw [rest.kept n q g (same.trans hm), same]
  · rintro n hu ⟨p', hp', hv⟩
    by_cases at_first : n = p.identityVirt.startAddr.vpn
    · subst at_first
      have first := Function.update_self p.identityVirt.startAddr.vpn
        (AbsEntry.mapped p (flags ||| present)) M
      exact ⟨p, List.mem_cons_self, rfl, (rest.kept _ _ _ first).trans first⟩
    · have same := Function.update_of_ne at_first (.mapped p (flags ||| present)) M
      obtain ⟨q, hq, hqv, h⟩ :=
        rest.added n (same.trans hu) ⟨p', mem_of_vpn_ne hp' hv at_first, hv⟩
      exact ⟨q, List.mem_cons_of_mem p hq, hqv, h⟩

theorem cons_of_mapped {q : Page KernPhysAddr} {g : PageTableEntryFlags}
    (mapped : M p.identityVirt.startAddr.vpn = .mapped q g) (rest : IdentityMapped M M' ps flags) :
    IdentityMapped M M' (p :: ps) flags := by
  constructor
  · intro n unlisted
    exact rest.frame n (fun p' hp' => unlisted p' (List.mem_cons_of_mem p hp'))
  · exact rest.kept
  · rintro n hu ⟨p', hp', hv⟩
    have ne : n ≠ p.identityVirt.startAddr.vpn := by
      rintro rfl
      rw [mapped] at hu
      cases hu
    obtain ⟨q', hq', hqv, h⟩ := rest.added n hu ⟨p', mem_of_vpn_ne hp' hv ne, hv⟩
    exact ⟨q', List.mem_cons_of_mem p hq', hqv, h⟩

theorem mapped_iff (effect : IdentityMapped M M' ps flags)
    (notDropped : ∀ p ∈ ps, (M p.identityVirt.startAddr.vpn).isDropped = false) (n : Fin (2 ^ 36)) :
    (∃ q g, M' n = .mapped q g) ↔
      (∃ q g, M n = .mapped q g) ∨ ∃ p ∈ ps, p.identityVirt.startAddr.vpn = n := by
  constructor
  · rintro ⟨q, g, h⟩
    by_cases listed : ∃ p ∈ ps, p.identityVirt.startAddr.vpn = n
    · exact Or.inr listed
    · simp only [not_exists, not_and] at listed
      rw [effect.frame n listed] at h
      exact Or.inl ⟨q, g, h⟩
  · rintro (⟨q, g, h⟩ | ⟨p, hp, hv⟩)
    · exact ⟨q, g, (effect.kept n q g h).trans h⟩
    · cases hM : M n with
      | mapped q g => exact ⟨q, g, (effect.kept n q g hM).trans hM⟩
      | unmapped =>
          obtain ⟨q, -, -, h⟩ := effect.added n hM ⟨p, hp, hv⟩
          exact ⟨q, _, h⟩
      | dropped raw =>
          have dropped := notDropped p hp
          rw [hv, hM] at dropped
          cases dropped

theorem noDropped (effect : IdentityMapped M M' ps flags) (h : NoDropped M) : NoDropped M' := by
  intro n
  by_cases listed : ∃ p ∈ ps, p.identityVirt.startAddr.vpn = n
  · cases hM : M n with
    | mapped q g => rw [effect.kept n q g hM, hM]; rfl
    | unmapped =>
        obtain ⟨q, -, -, h'⟩ := effect.added n hM listed
        rw [h']
        rfl
    | dropped raw =>
        have := h n
        rw [hM] at this
        cases this
  · simp only [not_exists, not_and] at listed
    rw [effect.frame n listed]
    exact h n

end IdentityMapped

theorem absTranslate_mapped_iff (M : Fin (2 ^ 36) → AbsEntry) (addr : VirtAddr) :
    (∃ mapping, absTranslate M addr = .mapped mapping) ↔ ∃ q g, M addr.vpn = .mapped q g := by
  unfold absTranslate
  cases M addr.vpn with
  | mapped q g => exact iff_of_true ⟨_, rfl⟩ ⟨q, g, rfl⟩
  | unmapped => exact iff_of_false (fun ⟨_, h⟩ => by cases h) (fun ⟨_, _, h⟩ => by cases h)
  | dropped raw => exact iff_of_false (fun ⟨_, h⟩ => by cases h) (fun ⟨_, _, h⟩ => by cases h)

namespace Level4PageTable

theorem identityMapPhysicalPages_spec {table : Level4PageTable} {flags : PageTableEntryFlags}
    (hflags : flags.contains hugePage = false) :
    ∀ (pages : List (Page KernPhysAddr)) (m m' : KernelMemory), TreeInv m table.frame →
      (∀ p ∈ pages, p.size = .size4KiB ∧
        (absOf m.memory table.frame p.identityVirt.startAddr.vpn).isDropped = false) →
      table.identityMapPhysicalPages m pages flags = some (.ok (), m') →
      TreeInv m' table.frame ∧
        IdentityMapped (absOf m.memory table.frame) (absOf m'.memory table.frame) pages flags := by
  intro pages
  induction pages with
  | nil =>
      intro m m' hinv _ returned
      simp only [identityMapPhysicalPages, Option.some.injEq, Prod.mk.injEq, true_and] at returned
      subst returned
      exact ⟨hinv, .nil _ _⟩
  | cons p ps ih =>
      intro m m' hinv pagesOk returned
      obtain ⟨hsize, hdrop⟩ := pagesOk p List.mem_cons_self
      obtain ⟨r, m1, mapped, hinv1, -, spec⟩ :=
        @mapTo_spec m table hinv p.identityVirt hsize (.existingPhysPage p) hsize flags hflags hdrop
      rw [identityMapPhysicalPages, virtAddr_new_kernPhysAddr] at returned
      simp only [bind, Option.bind_some, fromStartAddr_identityVirt, mapped] at returned
      cases r with
      | ok q =>
          obtain ⟨unmapped, update, -, target⟩ := spec
          cases target
          -- the rest starts from the table with this page mapped, where no later page is dropped
          have restOk : ∀ p' ∈ ps, p'.size = .size4KiB ∧
              (absOf m1.memory table.frame p'.identityVirt.startAddr.vpn).isDropped = false := by
            intro p' hp'
            refine ⟨(pagesOk p' (List.mem_cons_of_mem p hp')).1, ?_⟩
            rw [update]
            by_cases same : p'.identityVirt.startAddr.vpn = p.identityVirt.startAddr.vpn
            · rw [same, Function.update_self]
              rfl
            · rw [Function.update_of_ne same]
              exact (pagesOk p' (List.mem_cons_of_mem p hp')).2
          obtain ⟨hinv', effect⟩ := ih m1 m' hinv1 restOk returned
          rw [update] at effect
          exact ⟨hinv', .cons_of_update unmapped effect⟩
      | error e =>
          cases e with
          | pageAlreadyMapped q g =>
              obtain ⟨alreadyMapped, same⟩ := spec
              have restOk : ∀ p' ∈ ps, p'.size = .size4KiB ∧
                  (absOf m1.memory table.frame p'.identityVirt.startAddr.vpn).isDropped = false := by
                rw [same]
                exact fun p' hp' => pagesOk p' (List.mem_cons_of_mem p hp')
              obtain ⟨hinv', effect⟩ := ih m1 m' hinv1 restOk returned
              rw [same] at effect
              exact ⟨hinv', .cons_of_mapped alreadyMapped effect⟩
          | physicalPageAllocationFailed e => cases returned

theorem listed_iter_iff {range : PageRange} {pages : List (Page KernPhysAddr)}
    (iterated : range.iter = some pages) (n : Fin (2 ^ 36)) :
    (∃ p ∈ pages, p.identityVirt.startAddr.vpn = n) ↔
      ∃ i < range.numPages, n.val =
        (range.start.startAddr.val.toNat + i * range.start.size.sizeBytes) / 4096 % 2 ^ 36 := by
  constructor
  · rintro ⟨p, hp, rfl⟩
    obtain ⟨i, hi, at_i⟩ := mem_of_mapM_eq_some iterated p hp
    refine ⟨i, List.mem_range.mp hi, ?_⟩
    show p.startAddr.val.toNat / 4096 % 2 ^ 36 = _
    rw [(PageRange.pageAt_eq_some at_i).1]
  · rintro ⟨i, hi, hn⟩
    obtain ⟨p, hp, at_i⟩ := exists_of_mapM_eq_some iterated i (List.mem_range.mpr hi)
    refine ⟨p, hp, Fin.ext ?_⟩
    show p.startAddr.val.toNat / 4096 % 2 ^ 36 = n.val
    rw [(PageRange.pageAt_eq_some at_i).1, hn]

theorem identityMapPhysicalPages_iter {table : Level4PageTable} {m m' : KernelMemory}
    {range : PageRange} {pages : List (Page KernPhysAddr)} {flags : PageTableEntryFlags}
    (hflags : flags.contains hugePage = false) (hinv : TreeInv m table.frame)
    (noDropped : NoDropped (absOf m.memory table.frame)) (size4KiB : range.start.size = .size4KiB)
    (iterated : range.iter = some pages)
    (returned : table.identityMapPhysicalPages m pages flags = some (.ok (), m')) :
    MapsPages table m m' fun n =>
      ∃ i < range.numPages, n.val = (range.start.startAddr.val.toNat + i * 4096) / 4096 % 2 ^ 36 := by
  have pagesOk : ∀ p ∈ pages, p.size = .size4KiB ∧
      (absOf m.memory table.frame p.identityVirt.startAddr.vpn).isDropped = false := by
    intro p hp
    obtain ⟨i, -, at_i⟩ := mem_of_mapM_eq_some iterated p hp
    exact ⟨(PageRange.pageAt_eq_some at_i).2.trans size4KiB, noDropped _⟩
  obtain ⟨hinv', effect⟩ := identityMapPhysicalPages_spec hflags pages m m' hinv pagesOk returned
  refine ⟨hinv', effect.noDropped noDropped, fun n => ?_⟩
  rw [effect.mapped_iff (fun p _ => noDropped _) n, listed_iter_iff iterated n, size4KiB]
  rfl

end Level4PageTable

end RustOs.Memory.PageTable
