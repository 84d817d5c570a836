import RustOs.Memory.PageTable.Update

/-!
# The loops against the map

What each of `translate_address`, `map_to`, `set_flags` and `unmap` does to the map `absOf`
of a tree that keeps `TreeInv`, stated against the abstract operations of the first section.
Each loop is proved by induction on the levels left: at depth `k` the loop holds the table
`tableAt memory root (pathOf n k)`, and one round either answers from the entry it reads or
goes down to depth `k + 1`. Every result also says that the loop does not panic: four rounds
are enough, and no assertion fails.
-/

namespace RustOs.Memory.PageTable
open PageTableEntryFlags WordBits

/-! ## The abstract operations -/

/-- `translate_address` on the map: the page number's entry, with the offset in its page. -/
def absTranslate (M : Fin (2 ^ 36) → AbsEntry) (addr : VirtAddr) : TranslateResult :=
  match M addr.vpn with
  | .mapped page flags => .mapped ⟨page, flags, addr.val % 4096⟩
  | _ => .unmapped

/-- The targets `map_to` is called with for a 4 KiB page. -/
def MapTarget.Valid : MapTarget → Prop
  | .existingPhysPage page => page.size = .size4KiB
  | .newPhysPage => True

/-- The page `map_to` may map to: the one given, or a frame that was free. -/
def MapTarget.TargetOk (used : Nat → Bool) : MapTarget → Page KernPhysAddr → Prop
  | .existingPhysPage page, p => p = page
  | .newPhysPage, p => used p.frame = false

def MapToSpec (M M' : Fin (2 ^ 36) → AbsEntry) (n : Fin (2 ^ 36)) (target : MapTarget)
    (flags : PageTableEntryFlags) (used : Nat → Bool) :
    Except MapError (Page KernPhysAddr) → Prop
  | .ok p => M n = .unmapped ∧ M' = Function.update M n (.mapped p (flags ||| present)) ∧
      p.size = .size4KiB ∧ target.TargetOk used p
  | .error (.pageAlreadyMapped p f) => M n = .mapped p f ∧ M' = M
  | .error (.physicalPageAllocationFailed _) => M n = .unmapped ∧ M' = M

/-- Without `PRESENT` the entry keeps its address: the page leaves the map but is `dropped`. -/
def SetFlagsSpec (M M' : Fin (2 ^ 36) → AbsEntry) (n : Fin (2 ^ 36)) (flags : PageTableEntryFlags) :
    Except SetFlagsError Unit → Prop
  | .ok _ => ∃ p g, M n = .mapped p g ∧ M' = Function.update M n
      (if flags.contains present then .mapped p flags else .ofRaw p.physRaw)
  | .error .pageNotMapped => (∀ p g, M n ≠ .mapped p g) ∧ M' = M

def UnmapSpec (M M' : Fin (2 ^ 36) → AbsEntry) (used used' : Nat → Bool) (n : Fin (2 ^ 36))
    (size : PageSize) (freePhysicalPage : Bool) : Except UnmapError (Page KernPhysAddr) → Prop
  | .ok p => size = .size4KiB ∧ (∃ g, M n = .mapped p g) ∧ M' = Function.update M n .unmapped ∧
      ∀ q, used' q = (used q && !(freePhysicalPage && decide (q = p.frame)))
  | .error .pageNotMapped => (∀ p g, M n ≠ .mapped p g) ∧ M' = M ∧ used' = used
  | .error (.pageWrongSize expected actual) => expected = size ∧ actual = .size4KiB ∧
      size ≠ .size4KiB ∧ (∃ p g, M n = .mapped p g) ∧ M' = M ∧ used' = used

theorem absTranslate_ofRaw {M : Fin (2 ^ 36) → AbsEntry} {addr : VirtAddr} {raw : UInt64}
    (h : M addr.vpn = .ofRaw raw) : absTranslate M addr = .unmapped := by
  unfold absTranslate
  rw [h, AbsEntry.ofRaw]
  split_ifs <;> rfl

theorem ofRaw_ne_mapped (raw : UInt64) (p : Page KernPhysAddr) (g : PageTableEntryFlags) :
    AbsEntry.ofRaw raw ≠ .mapped p g := by
  unfold AbsEntry.ofRaw
  split <;> simp

/-! ## The entries the loops write -/

namespace PageTableEntryFlags

@[simp] theorem contains_or_present (f : PageTableEntryFlags) :
    (f ||| present).contains present = true := by
  simp only [contains, or_bits, or_and_self_right, beq_self_eq_true]

@[simp] theorem contains_hugePage_or_present (f : PageTableEntryFlags) :
    (f ||| present).contains hugePage = f.contains hugePage := by
  simp only [contains, or_bits]
  rw [or_and_of_and_eq_zero (show present.bits &&& hugePage.bits = 0 by decide)]

theorem contains_hugePage_parent (f : PageTableEntryFlags) :
    (f &&& (present ||| writable ||| userAccessible)).contains hugePage = false := by
  simp only [contains, and_bits, or_bits]
  rw [and_and_of_and_eq_zero f.bits
    (show (present.bits ||| writable.bits ||| userAccessible.bits) &&& hugePage.bits = 0 by decide)]
  decide

end PageTableEntryFlags

namespace PageTableEntry

theorem isPresent_of_bits {e : PageTableEntry} (h : e.bits = 0) : e.isPresent = false := by
  obtain ⟨b⟩ := e
  simp only at h
  subst h
  exact isPresent_zero

@[simp] theorem isPresent_setFlags (e : PageTableEntry) (f : PageTableEntryFlags) :
    (e.setFlags f).isPresent = f.contains present := by
  simp only [isPresent, flags_setFlags]

@[simp] theorem frame_setFlags (e : PageTableEntry) (f : PageTableEntryFlags) :
    (e.setFlags f).frame = e.frame := by
  simp only [frame, rawAddress_setFlags]

theorem rawAddress_of_bits {e : PageTableEntry} (h : e.bits = 0) : e.rawAddress = 0 := by
  simp only [rawAddress, h, UInt64.zero_and]

theorem setAddress_page (e : PageTableEntry) {q : Page KernPhysAddr} (hq : q.size = .size4KiB)
    {phys : PhysAddr} (hphys : q.startAddr.toPhysAddr = some phys) :
    e.setAddress phys = some ⟨e.bits ||| phys.val⟩ := by
  have hval := Page.toPhysAddr_val hq hphys
  unfold setAddress
  rw [if_pos (and_not_addressMask (by omega) phys.valid)]

theorem rawAddress_setAddress_page {e : PageTableEntry} (hraw : e.rawAddress = 0)
    {q : Page KernPhysAddr} (hq : q.size = .size4KiB) {phys : PhysAddr}
    (hphys : q.startAddr.toPhysAddr = some phys) (f : PageTableEntryFlags) :
    ((⟨e.bits ||| phys.val⟩ : PageTableEntry).setFlags f).rawAddress.toNat = 4096 * q.frame := by
  rw [rawAddress_setFlags, (setAddress_eq (e.setAddress_page hq hphys)).2.1, hraw, UInt64.zero_or]
  exact Page.toPhysAddr_val hq hphys

end PageTableEntry

open PageTableEntry

theorem absEntry_of_present {e : PageTableEntry} (hp : e.isPresent = true)
    (hh : e.flags.contains hugePage = false) (hr : e.rawAddress.toNat ≤ maxRaw) :
    ∃ p, absEntry e = .mapped p e.flags ∧ p.size = .size4KiB ∧ p.frame = e.frame := by
  obtain ⟨p, ht, hs, hf⟩ := targetInner_leaf hp hh hr
  refine ⟨p, ?_, hs, hf⟩
  unfold absEntry
  rw [ht]

theorem setTargetPage_leaf {e : PageTableEntry} (hraw : e.rawAddress = 0) {q : Page KernPhysAddr}
    (hq : q.size = .size4KiB) {flags : PageTableEntryFlags} (hflags : flags.contains hugePage = false) :
    ∃ E, e.setTargetPage q flags = some E ∧ absEntry E = .mapped q (flags ||| present) ∧
      LeafEntry E := by
  obtain ⟨phys, hphys⟩ := Option.isSome_iff_exists.mp q.startAddr.toPhysAddr_isSome
  obtain ⟨E, hE⟩ : ∃ E, E = (⟨e.bits ||| phys.val⟩ : PageTableEntry).setFlags (flags ||| present) :=
    ⟨_, rfl⟩
  have hrawE : E.rawAddress.toNat = 4096 * q.frame := by
    rw [hE]
    exact rawAddress_setAddress_page hraw hq hphys _
  have hpres : E.isPresent = true := by rw [hE, isPresent_setFlags, contains_or_present]
  have hflagsE : E.flags = flags ||| present := by rw [hE, flags_setFlags]
  have hhuge : E.flags.contains hugePage = false := by
    rw [hflagsE, contains_hugePage_or_present, hflags]
  have hle : E.rawAddress.toNat ≤ maxRaw := hrawE ▸ Page.frame_le hq
  obtain ⟨p, hp, hsize, hframe⟩ := absEntry_of_present hpres hhuge hle
  have hpq : p = q := Page.eq_of_frame hsize hq (by rw [hframe]; unfold frame; omega)
  refine ⟨E, ?_, ?_, fun _ => ⟨hhuge, hle⟩⟩
  · unfold setTargetPage
    rw [hphys]
    simp only [Option.bind_eq_bind]
    rw [Option.bind_some, e.setAddress_page hq hphys, Option.bind_some, hE]
  · rw [hp, hpq, hflagsE]

/-! ## One round of a walk

Every loop reads the entry for its page at its depth. In a tree that keeps `TreeInv` there are
two cases above the leaves and two at them; the loops differ only in what they do in each.
-/

section Round

variable {m : KernelMemory} {root : Nat} (hinv : TreeInv m root) {n : Fin (2 ^ 36)}
include hinv

theorem TreeInv.upper_cases {k t : Nat} (hk : k < 3)
    (ht : tableAt m.memory root (pathOf n k) = some t) :
    (∃ kaddr, ((m.memory t).entries (digit n (depthLevel k))).targetInner (depthLevel k) =
        some (.nextTable (depthLevel (k + 1)) kaddr) ∧
      tableAt m.memory root (pathOf n (k + 1)) = some kaddr.frame) ∨
    (((m.memory t).entries (digit n (depthLevel k))).targetInner (depthLevel k) = some .unmapped ∧
      ((m.memory t).entries (digit n (depthLevel k))).bits = 0 ∧
      tableAt m.memory root (pathOf n (k + 1)) = none ∧ absOf m.memory root n = .unmapped) := by
  rcases hinv.upper _ t (by simp; omega) ht (digit n (depthLevel k)) with ⟨hpres, hh⟩ | hzero
  · have hr := hinv.rawAddress_le (by simp; omega) ht hpres
    obtain ⟨kaddr, htgt, hframe⟩ := targetInner_upper hpres hh hr (nextLowerLevel_depthLevel hk)
    refine .inl ⟨kaddr, htgt, ?_⟩
    rw [hframe, tableAt_pathOf_succ, ht, Option.bind_some]
    simp only [hpres, if_true]
  · have hnot := isPresent_of_bits hzero
    have hnone : tableAt m.memory root (pathOf n (k + 1)) = none := by
      rw [tableAt_pathOf_succ, ht, Option.bind_some]
      simp only [hnot, Bool.false_eq_true, if_false]
    exact .inr ⟨targetInner_of_not_present hnot _, hzero, hnone,
      absOf_of_tableAt_none (tableAt_pathOf_none hnone 3 (by omega))⟩

theorem TreeInv.leaf_cases {t : Nat} (ht : tableAt m.memory root (pathOf n 3) = some t) :
    (∃ p, ((m.memory t).entries (digit n .level1)).targetInner .level1 =
        some (.page p ((m.memory t).entries (digit n .level1)).flags) ∧
      absOf m.memory root n = .mapped p ((m.memory t).entries (digit n .level1)).flags ∧
      p.size = .size4KiB ∧ p.frame = ((m.memory t).entries (digit n .level1)).frame ∧
      ((m.memory t).entries (digit n .level1)).isPresent = true ∧
      LeafEntry ((m.memory t).entries (digit n .level1))) ∨
    (((m.memory t).entries (digit n .level1)).targetInner .level1 = some .unmapped ∧
      ((m.memory t).entries (digit n .level1)).isPresent = false ∧
      absOf m.memory root n = .ofRaw ((m.memory t).entries (digit n .level1)).rawAddress) := by
  have habs := absOf_of_tableAt ht
  have hleaf := hinv.leaf _ t (by simp) ht (digit n .level1)
  cases hpres : ((m.memory t).entries (digit n .level1)).isPresent with
  | true =>
      obtain ⟨hh, hr⟩ := hleaf hpres
      obtain ⟨p, htgt, hsize, hframe⟩ := targetInner_leaf hpres hh hr
      refine .inl ⟨p, htgt, ?_, hsize, hframe, rfl, hleaf⟩
      rw [habs]
      unfold absEntry
      rw [htgt]
  | false =>
      exact .inr ⟨targetInner_of_not_present hpres _, rfl, habs.trans (absEntry_of_not_present hpres)⟩

end Round

/-! ## `translate_address` -/

section Translate

variable {m : KernelMemory} {root : Nat} (hinv : TreeInv m root) (addr : VirtAddr)
include hinv

theorem translateLoop_spec : ∀ j k t, k + j = 3 →
    tableAt m.memory root (pathOf addr.vpn k) = some t →
    Level4PageTable.translateLoop m.memory addr (j + 1) (m.memory t) (depthLevel k) =
      some (absTranslate (absOf m.memory root) addr) := by
  intro j
  induction j with
  | zero =>
      intro k t hk ht
      obtain rfl : k = 3 := by omega
      simp only [Level4PageTable.translateLoop, PageTable.addressEntry, depthLevel,
        fromAddress_eq_digit]
      rcases hinv.leaf_cases ht with ⟨p, htgt, habs, hsize, -⟩ | ⟨htgt, -, habs⟩
      · rw [htgt]
        unfold absTranslate
        rw [habs]
        dsimp only
        rw [hsize]
        rfl
      · rw [htgt, absTranslate_ofRaw habs]
  | succ j ih =>
      intro k t hk ht
      rw [Level4PageTable.translateLoop, PageTable.addressEntry, fromAddress_eq_digit]
      rcases hinv.upper_cases (by omega) ht with ⟨kaddr, htgt, hnext⟩ | ⟨htgt, -, -, habs⟩
      · -- a pointer to the next table: go down one level
        rw [htgt]
        exact ih (k + 1) _ (by omega) hnext
      · rw [htgt]
        unfold absTranslate
        rw [habs]

end Translate

theorem translateAddress_spec {m : KernelMemory} {table : Level4PageTable}
    (hinv : TreeInv m table.frame) (addr : VirtAddr) :
    table.translateAddress m.memory addr = some (absTranslate (absOf m.memory table.frame) addr) :=
  translateLoop_spec hinv addr 3 0 table.frame rfl rfl

/-! ## `map_to` -/

section MapTo

variable {m : KernelMemory} {root : Nat}

theorem childEntry_spec {e : PageTableEntry} (hbits : e.bits = 0) {q : Page KernPhysAddr}
    (hq : q.size = .size4KiB) {phys : PhysAddr} (hphys : q.startAddr.toPhysAddr = some phys)
    (flags : PageTableEntryFlags) :
    ((⟨e.bits ||| phys.val⟩ : PageTableEntry).setFlags (flags ||| present)).isPresent = true ∧
      ((⟨e.bits ||| phys.val⟩ : PageTableEntry).setFlags (flags ||| present)).frame = q.frame ∧
      ((⟨e.bits ||| phys.val⟩ : PageTableEntry).setFlags (flags ||| present)).flags.contains hugePage =
        flags.contains hugePage := by
  refine ⟨by simp, ?_, by simp⟩
  unfold frame
  rw [rawAddress_setAddress_page (rawAddress_of_bits hbits) hq hphys]
  omega

theorem allocateAndMapChildTable_spec (hinv : TreeInv m root) {p : List (Fin 512)} {t : Nat}
    (hp : p.length < 3) (ht : tableAt m.memory root p = some t) {i : Fin 512}
    (hi : ((m.memory t).entries i).bits = 0) {flags : PageTableEntryFlags}
    (hflags : flags.contains hugePage = false) :
    ∃ r m', allocateAndMapChildTable m t i flags = some (r, m') ∧ TreeInv m' root ∧
      (∀ q, m.allocator.isUsed q = true → m'.allocator.isUsed q = true) ∧
      absOf m'.memory root = absOf m.memory root ∧
      match r with
      | .error _ => True
      | .ok f => m.allocator.isUsed f = false ∧ tableAt m'.memory root (i :: p) = some f := by
  obtain ⟨r, a', halloc, hhealthy, -, hr⟩ := PhysicalMemoryAllocator.allocatePage_spec hinv.healthy
  unfold allocateAndMapChildTable
  rw [halloc]
  simp only [Option.bind_eq_bind]
  rw [Option.bind_some]
  cases r with
  | error e =>
      have hmono : ∀ q, m.allocator.isUsed q = true → a'.isUsed q = true := fun q hq => by
        rw [hr q]
        exact hq
      exact ⟨.error e, { m with allocator := a' }, rfl, treeInv_allocator hinv hmono hhealthy,
        hmono, rfl, trivial⟩
  | ok pg =>
      obtain ⟨hsize, hfree, hused⟩ := hr
      obtain ⟨phys, hphys⟩ := Option.isSome_iff_exists.mp pg.startAddr.toPhysAddr_isSome
      have htf : t ≠ pg.frame := hinv.ne_of_free (by omega) ht hfree
      obtain ⟨hpres, hframe, hhuge⟩ := childEntry_spec hi hsize hphys flags
      have hnot : ((m.memory t).entries i).isPresent = false := isPresent_of_bits hi
      have hmono : ∀ q, m.allocator.isUsed q = true → a'.isUsed q = true := fun q hq => by
        rw [hused q, hq, Bool.true_or]
      have hnew : a'.isUsed pg.frame = true := by
        rw [hused]
        simp
      refine ⟨.ok pg.frame, ⟨writeEntry (Function.update m.memory pg.frame PageTable.zero) t i
          ((⟨((m.memory t).entries i).bits ||| phys.val⟩ : PageTableEntry).setFlags
            (flags ||| present)), a'⟩, ?_,
        treeInv_allocChild hinv hp ht hnot hfree hpres hframe (hhuge.trans hflags) hmono hnew hhealthy,
        hmono, absOf_allocChild hinv hp ht hnot hfree hpres hframe, hfree, ?_⟩
      · dsimp only
        rw [hphys, Option.bind_some, Function.update_of_ne htf, setAddress_page _ hsize hphys,
          Option.bind_some]
      · rw [tableAt_allocChild hinv hp ht hnot hfree hpres hframe _ (by simp; omega), if_pos rfl]

theorem getTargetPage_spec {target : MapTarget} (htarget : target.Valid)
    {a : PhysicalMemoryAllocator} (ha : a.Healthy) :
    ∃ r a', target.getTargetPage a .size4KiB = some (r, a') ∧ a'.Healthy ∧
      (∀ q, a.isUsed q = true → a'.isUsed q = true) ∧
      match r with
      | .error _ => ∀ q, a'.isUsed q = a.isUsed q
      | .ok p => p.size = .size4KiB ∧ target.TargetOk a.isUsed p := by
  cases target with
  | existingPhysPage q =>
      refine ⟨.ok q, a, ?_, ha, fun _ h => h, htarget, rfl⟩
      simp only [MapTarget.getTargetPage]
      rw [if_pos (show q.size = .size4KiB from htarget)]
  | newPhysPage =>
      obtain ⟨r, a', halloc, hhealthy, -, hr⟩ := PhysicalMemoryAllocator.allocatePage_spec ha
      refine ⟨r, a', ?_, hhealthy, ?_, ?_⟩
      · simp only [MapTarget.getTargetPage]
        rw [if_pos (show PageSize.size4KiB.sizeBytes = pageSize from rfl), halloc]
      · intro q hq
        cases r with
        | error _ => rw [hr q]; exact hq
        | ok p => rw [hr.2.2 q, hq, Bool.true_or]
      · cases r with
        | error _ => exact hr
        | ok p => exact ⟨hr.1, hr.2.1⟩

theorem getTargetPage_error {target : MapTarget} {size : PageSize} {a a' : PhysicalMemoryAllocator}
    (ha : a.Healthy) {e : AllocError} (hget : target.getTargetPage a size = some (.error e, a')) :
    a'.Healthy ∧ ∀ q, a'.isUsed q = a.isUsed q := by
  cases target with
  | existingPhysPage q =>
      simp only [MapTarget.getTargetPage] at hget
      split at hget <;> simp at hget
  | newPhysPage =>
      simp only [MapTarget.getTargetPage] at hget
      split at hget
      · obtain ⟨r, a'', halloc, hhealthy, -, hr⟩ := PhysicalMemoryAllocator.allocatePage_spec ha
        rw [halloc] at hget
        obtain ⟨rfl, rfl⟩ := Prod.mk.inj (Option.some.inj hget)
        exact ⟨hhealthy, hr⟩
      · cases hget

variable {page : Page VirtAddr} {target : MapTarget} {flags parentFlags : PageTableEntryFlags}

theorem mapToLoop_leaf (hsize : page.size = .size4KiB) (htarget : target.Valid)
    (hflags : flags.contains hugePage = false) (fuel : Nat) (hinv : TreeInv m root) {t : Nat}
    (ht : tableAt m.memory root (pathOf page.startAddr.vpn 3) = some t)
    (hdrop : (absOf m.memory root page.startAddr.vpn).isDropped = false) :
    ∃ r m', Level4PageTable.mapToLoop page target flags parentFlags (fuel + 1) t .level1 m =
        some (r, m') ∧ TreeInv m' root ∧
      (∀ q, m.allocator.isUsed q = true → m'.allocator.isUsed q = true) ∧
      MapToSpec (absOf m.memory root) (absOf m'.memory root) page.startAddr.vpn target flags
        m.allocator.isUsed r := by
  rw [Level4PageTable.mapToLoop, fromAddress_eq_digit]
  rcases hinv.leaf_cases ht with ⟨p, htgt, habs, -⟩ | ⟨htgt, -, habs⟩
  · -- a mapped page: the error names it, and nothing changes
    rw [htgt]
    exact ⟨_, m, rfl, hinv, fun _ h => h, habs, rfl⟩
  · -- an entry that is neither present nor dropped holds no address
    have hraw : ((m.memory t).entries (digit page.startAddr.vpn .level1)).rawAddress = 0 := by
      rw [habs] at hdrop
      unfold AbsEntry.ofRaw at hdrop
      split_ifs at hdrop with h
      · exact h
      · cases hdrop
    have hM : absOf m.memory root page.startAddr.vpn = .unmapped := by
      rw [habs, hraw]
      rfl
    rw [htgt]
    dsimp only [PageTableLevel.nextLowerLevel]
    obtain ⟨r, a', hget, hhealthy, hmono, hr⟩ := getTargetPage_spec htarget hinv.healthy
    rw [hsize, hget]
    simp only [Option.bind_eq_bind]
    rw [Option.bind_some]
    cases r with
    | error e =>
        exact ⟨_, { m with allocator := a' }, rfl, treeInv_allocator hinv hmono hhealthy, hmono,
          hM, rfl⟩
    | ok q =>
        obtain ⟨hqsize, hok⟩ := hr
        obtain ⟨E, hset, hE, hleafE⟩ := setTargetPage_leaf hraw hqsize hflags
        dsimp only
        rw [hset, Option.bind_some]
        refine ⟨_, ⟨writeEntry m.memory t (digit page.startAddr.vpn .level1) E, a'⟩, rfl,
          treeInv_writeEntry_leaf hinv (by simp) ht _ hleafE
            (fun q t' hq ht' => hmono _ (hinv.used q t' hq ht')) hhealthy,
          hmono, hM, ?_, hqsize, hok⟩
        rw [absOf_writeEntry_leaf hinv (by simp) ht rfl, hE]

theorem MapToSpec.of_used_le {M M' : Fin (2 ^ 36) → AbsEntry} {n : Fin (2 ^ 36)}
    {used used' : Nat → Bool} (hle : ∀ q, used q = true → used' q = true)
    {r : Except MapError (Page KernPhysAddr)} (h : MapToSpec M M' n target flags used' r) :
    MapToSpec M M' n target flags used r := by
  match r, target, h with
  | .ok p, .existingPhysPage _, ⟨h1, h2, h3, h4⟩ => exact ⟨h1, h2, h3, h4⟩
  | .ok p, .newPhysPage, ⟨h1, h2, h3, h4⟩ =>
      refine ⟨h1, h2, h3, ?_⟩
      cases hq : used p.frame with
      | false => exact hq
      | true =>
          have := hle _ hq
          simp only [MapTarget.TargetOk] at h4
          rw [h4] at this
          cases this
  | .error (.pageAlreadyMapped _ _), _, h => exact h
  | .error (.physicalPageAllocationFailed _), _, h => exact h

theorem mapToLoop_spec (hsize : page.size = .size4KiB) (htarget : target.Valid)
    (hflags : flags.contains hugePage = false) (hparent : parentFlags.contains hugePage = false) :
    ∀ j k t (m : KernelMemory), k + j = 3 → TreeInv m root →
      tableAt m.memory root (pathOf page.startAddr.vpn k) = some t →
      (absOf m.memory root page.startAddr.vpn).isDropped = false →
      ∃ r m', Level4PageTable.mapToLoop page target flags parentFlags (j + 1) t (depthLevel k) m =
          some (r, m') ∧ TreeInv m' root ∧
        (∀ q, m.allocator.isUsed q = true → m'.allocator.isUsed q = true) ∧
        MapToSpec (absOf m.memory root) (absOf m'.memory root) page.startAddr.vpn target flags
          m.allocator.isUsed r := by
  intro j
  induction j with
  | zero =>
      intro k t m hk hinv ht hdrop
      obtain rfl : k = 3 := by omega
      exact mapToLoop_leaf hsize htarget hflags 0 hinv ht hdrop
  | succ j ih =>
      intro k t m hk hinv ht hdrop
      rw [Level4PageTable.mapToLoop, fromAddress_eq_digit]
      rcases hinv.upper_cases (by omega) ht with ⟨kaddr, htgt, hnext⟩ | ⟨htgt, hzero, hnone, hM⟩
      · -- a pointer to the next table: go down one level
        rw [htgt]
        exact ih (k + 1) _ m (by omega) hinv hnext hdrop
      · -- a zero entry: allocate the table below, then go down into it
        rw [htgt]
        dsimp only
        rw [nextLowerLevel_depthLevel (by omega)]
        dsimp only
        obtain ⟨r, m1, hchild, hinv1, hmono1, habs1, hr⟩ :=
          allocateAndMapChildTable_spec hinv (by simp; omega) ht hzero hparent
        rw [hchild]
        simp only [Option.bind_eq_bind]
        rw [Option.bind_some]
        cases r with
        | error e => exact ⟨_, m1, rfl, hinv1, hmono1, hM, habs1⟩
        | ok f =>
            obtain ⟨-, hf⟩ := hr
            obtain ⟨r', m', hrun, hinv', hmono', hspec⟩ :=
              ih (k + 1) f m1 (by omega) hinv1 hf (by rw [habs1]; exact hdrop)
            refine ⟨r', m', hrun, hinv', fun q hq => hmono' q (hmono1 q hq), ?_⟩
            rw [← habs1]
            exact hspec.of_used_le hmono1

theorem mapToLoop_error (hparent : parentFlags.contains hugePage = false) {e : MapError} :
    ∀ j k t (m m' : KernelMemory), k + j = 3 → TreeInv m root →
      tableAt m.memory root (pathOf page.startAddr.vpn k) = some t →
      Level4PageTable.mapToLoop page target flags parentFlags (j + 1) t (depthLevel k) m =
        some (.error e, m') →
      TreeInv m' root ∧ absOf m'.memory root = absOf m.memory root := by
  intro j
  induction j with
  | zero =>
      intro k t m m' hk hinv ht hrun
      obtain rfl : k = 3 := by omega
      rw [show depthLevel 3 = .level1 from rfl, Level4PageTable.mapToLoop, fromAddress_eq_digit]
        at hrun
      rcases hinv.leaf_cases ht with ⟨p, htgt, -⟩ | ⟨htgt, -⟩
      · -- a mapped page is reported, and nothing changes
        rw [htgt] at hrun
        obtain ⟨-, rfl⟩ := Prod.mk.inj (Option.some.inj hrun)
        exact ⟨hinv, rfl⟩
      · -- an empty entry fails only in the allocator, before anything is written
        rw [htgt] at hrun
        dsimp only [PageTableLevel.nextLowerLevel] at hrun
        simp only [Option.bind_eq_bind] at hrun
        obtain ⟨⟨r, a'⟩, hget, hrest⟩ := Option.bind_eq_some_iff.mp hrun
        cases r with
        | error e' =>
            obtain ⟨-, rfl⟩ := Prod.mk.inj (Option.some.inj hrest)
            obtain ⟨hhealthy, hsame⟩ := getTargetPage_error hinv.healthy hget
            exact ⟨treeInv_allocator hinv (fun q hq => by rw [hsame]; exact hq) hhealthy, rfl⟩
        | ok q =>
            obtain ⟨E, -, hok⟩ := Option.bind_eq_some_iff.mp hrest
            simp at hok
  | succ j ih =>
      intro k t m m' hk hinv ht hrun
      rw [Level4PageTable.mapToLoop, fromAddress_eq_digit] at hrun
      rcases hinv.upper_cases (by omega) ht with ⟨kaddr, htgt, hnext⟩ | ⟨htgt, hzero, -, -⟩
      · -- a pointer to the next table: the error comes from below
        rw [htgt] at hrun
        exact ih (k + 1) _ m m' (by omega) hinv hnext hrun
      · -- a zero entry: the new table is linked, and the error comes from the allocator here
        -- or from below
        rw [htgt] at hrun
        dsimp only at hrun
        rw [nextLowerLevel_depthLevel (by omega)] at hrun
        dsimp only at hrun
        obtain ⟨r, m1, hchild, hinv1, -, habs1, hr⟩ :=
          allocateAndMapChildTable_spec hinv (by simp; omega) ht hzero hparent
        rw [hchild] at hrun
        simp only [Option.bind_eq_bind] at hrun
        rw [Option.bind_some] at hrun
        cases r with
        | error e' =>
            obtain ⟨-, rfl⟩ := Prod.mk.inj (Option.some.inj hrun)
            exact ⟨hinv1, habs1⟩
        | ok f =>
            obtain ⟨-, hf⟩ := hr
            obtain ⟨hinv', habs'⟩ := ih (k + 1) f m1 m' (by omega) hinv1 hf hrun
            exact ⟨hinv', habs'.trans habs1⟩

end MapTo

theorem mapTo_spec {m : KernelMemory} {table : Level4PageTable} (hinv : TreeInv m table.frame)
    {page : Page VirtAddr} (hsize : page.size = .size4KiB) {target : MapTarget}
    (htarget : target.Valid) {flags : PageTableEntryFlags} (hflags : flags.contains hugePage = false)
    (hdrop : (absOf m.memory table.frame page.startAddr.vpn).isDropped = false) :
    ∃ r m', table.mapTo m page target flags = some (r, m') ∧ TreeInv m' table.frame ∧
      (∀ q, m.allocator.isUsed q = true → m'.allocator.isUsed q = true) ∧
      MapToSpec (absOf m.memory table.frame) (absOf m'.memory table.frame) page.startAddr.vpn
        target flags m.allocator.isUsed r :=
  mapToLoop_spec hsize htarget hflags (contains_hugePage_parent flags) 3 0 table.frame m rfl hinv
    rfl hdrop

end RustOs.Memory.PageTable
