import RustOs.Memory.PageTable.Walk

/-!
# `set_flags` and `unmap`

The two loops that edit the leaf entry of a mapped page in place. `set_flags` replaces the
flag bits and keeps the address, so without `PRESENT` the entry leaves the map with its
address still in it; `unmap` clears the entry and may give the frame back to the allocator.
Both walk down as `translate_address` does and report `PageNotMapped` at a missing entry.
-/

namespace RustOs.Memory.PageTable
open PageTableEntryFlags PageTableEntry

theorem absEntry_setFlags {e : PageTableEntry} {p : Page KernPhysAddr} (hsize : p.size = .size4KiB)
    (hframe : p.frame = e.frame) (hr : e.rawAddress.toNat ≤ maxRaw) {flags : PageTableEntryFlags}
    (hflags : flags.contains hugePage = false) :
    absEntry (e.setFlags flags) =
      if flags.contains present then .mapped p flags else .ofRaw p.physRaw := by
  cases hc : flags.contains present with
  | true =>
      obtain ⟨p', habs, hsize', hframe'⟩ := absEntry_of_present (e := e.setFlags flags)
        (by rw [isPresent_setFlags, hc]) (by rw [flags_setFlags, hflags])
        (by rw [rawAddress_setFlags]; exact hr)
      have hp' : p' = p := Page.eq_of_frame hsize' hsize (by rw [hframe', frame_setFlags, hframe])
      rw [if_pos rfl, habs, hp', flags_setFlags]
  | false =>
      have hraw : e.rawAddress = p.physRaw := by
        apply UInt64.toNat_inj.mp
        rw [rawAddress_eq, Page.physRaw_toNat hsize, hframe]
      rw [absEntry_of_not_present (by rw [isPresent_setFlags, hc]), rawAddress_setFlags, hraw]
      rfl

section Loops

variable {m : KernelMemory} {root : Nat} (hinv : TreeInv m root) {page : Page VirtAddr}
include hinv

theorem setFlagsLoop_spec {flags : PageTableEntryFlags} (hflags : flags.contains hugePage = false) :
    ∀ j k t, k + j = 3 → tableAt m.memory root (pathOf page.startAddr.vpn k) = some t →
      ∃ r memory', Level4PageTable.setFlagsLoop page flags (j + 1) t (depthLevel k) m.memory =
          some (r, memory') ∧ TreeInv ⟨memory', m.allocator⟩ root ∧
        SetFlagsSpec (absOf m.memory root) (absOf memory' root) page.startAddr.vpn flags r := by
  intro j
  induction j with
  | zero =>
      intro k t hk ht
      obtain rfl : k = 3 := by omega
      simp only [Level4PageTable.setFlagsLoop, depthLevel, fromAddress_eq_digit]
      rcases hinv.leaf_cases ht with ⟨p, htgt, habs, hsize, hframe, hpres, hleaf⟩ | ⟨htgt, -, habs⟩
      · -- a mapped page: rewrite its flags in place
        rw [htgt]
        have hr := (hleaf hpres).2
        have hleaf' : LeafEntry (((m.memory t).entries (digit page.startAddr.vpn .level1)).setFlags
            flags) := fun _ => ⟨by rw [flags_setFlags, hflags], by rw [rawAddress_setFlags]; exact hr⟩
        refine ⟨_, _, rfl, treeInv_writeEntry_leaf hinv (by simp) ht _ hleaf'
          (fun q t' hq ht' => hinv.used q t' hq ht') hinv.healthy, p, _, habs, ?_⟩
        rw [absOf_writeEntry_leaf hinv (by simp) ht rfl, absEntry_setFlags hsize hframe hr hflags]
      · rw [htgt]
        exact ⟨_, _, rfl, hinv, fun p g h => ofRaw_ne_mapped _ p g (habs.symm.trans h), rfl⟩
  | succ j ih =>
      intro k t hk ht
      rw [Level4PageTable.setFlagsLoop, fromAddress_eq_digit]
      rcases hinv.upper_cases (by omega) ht with ⟨kaddr, htgt, hnext⟩ | ⟨htgt, -, -, hM⟩
      · rw [htgt]
        exact ih (k + 1) _ (by omega) hnext
      · rw [htgt]
        refine ⟨_, _, rfl, hinv, fun p g h => ?_, rfl⟩
        rw [hM] at h
        cases h

theorem unmapLoop_spec {freePhysicalPage : Bool}
    (hfree : freePhysicalPage = true → ∀ p g, absOf m.memory root page.startAddr.vpn = .mapped p g →
      m.allocator.isUsed p.frame = true ∧ p.frame ≠ 0 ∧ ¬IsTable m root p.frame) :
    ∀ j k t, k + j = 3 → tableAt m.memory root (pathOf page.startAddr.vpn k) = some t →
      ∃ r m', Level4PageTable.unmapLoop page freePhysicalPage (j + 1) t (depthLevel k) m =
          some (r, m') ∧ TreeInv m' root ∧
        UnmapSpec (absOf m.memory root) (absOf m'.memory root) m.allocator.isUsed
          m'.allocator.isUsed page.startAddr.vpn page.size freePhysicalPage r := by
  intro j
  induction j with
  | zero =>
      intro k t hk ht
      obtain rfl : k = 3 := by omega
      simp only [Level4PageTable.unmapLoop, depthLevel, fromAddress_eq_digit]
      rcases hinv.leaf_cases ht with ⟨p, htgt, habs, hsize, -⟩ | ⟨htgt, -, habs⟩
      · rw [htgt]
        dsimp only
        by_cases hwrong : p.size ≠ page.size
        · -- a page of another size is reported and left alone
          rw [if_pos hwrong]
          exact ⟨_, m, rfl, hinv, rfl, hsize, fun h => hwrong (hsize.trans h.symm), ⟨p, _, habs⟩,
            rfl, rfl⟩
        · rw [if_neg hwrong]
          have hpage : page.size = .size4KiB := (not_not.mp hwrong).symm.trans hsize
          have hclear : LeafEntry ((m.memory t).entries (digit page.startAddr.vpn .level1)).clear :=
            fun h => by rw [isPresent_clear] at h; cases h
          have habs' : absOf (writeEntry m.memory t (digit page.startAddr.vpn .level1)
              ((m.memory t).entries (digit page.startAddr.vpn .level1)).clear) root =
              Function.update (absOf m.memory root) page.startAddr.vpn .unmapped := by
            rw [absOf_writeEntry_leaf hinv (by simp) ht rfl, clear, absEntry_zero]
          cases freePhysicalPage with
          | false =>
              refine ⟨_, _, rfl, treeInv_writeEntry_leaf hinv (by simp) ht _ hclear
                (fun q t' hq ht' => hinv.used q t' hq ht') hinv.healthy, hpage, ⟨_, habs⟩, habs',
                fun q => by simp⟩
          | true =>
              -- the frame goes back to the allocator; no table lives in it
              obtain ⟨hused, hzero, hnotTable⟩ := hfree rfl p _ habs
              obtain ⟨a', hfreePage, hhealthy, -, hbits⟩ :=
                PhysicalMemoryAllocator.freePage_spec hinv.healthy hsize hused hzero
              rw [if_pos rfl, hfreePage]
              have htables : ∀ q t', q.length ≤ 3 → tableAt m.memory root q = some t' →
                  a'.isUsed t' = true := by
                intro q t' hq ht'
                have hne : t' ≠ p.frame := fun h => hnotTable ⟨q, hq, h ▸ ht'⟩
                rw [hbits, hinv.used q t' hq ht']
                simp [hne]
              exact ⟨_, _, rfl, treeInv_writeEntry_leaf hinv (by simp) ht _ hclear htables hhealthy,
                hpage, ⟨_, habs⟩, habs', fun q => by rw [hbits]; simp⟩
      · rw [htgt]
        exact ⟨_, m, rfl, hinv, fun p g h => ofRaw_ne_mapped _ p g (habs.symm.trans h), rfl, rfl⟩
  | succ j ih =>
      intro k t hk ht
      rw [Level4PageTable.unmapLoop, fromAddress_eq_digit]
      rcases hinv.upper_cases (by omega) ht with ⟨kaddr, htgt, hnext⟩ | ⟨htgt, -, -, hM⟩
      · rw [htgt]
        exact ih (k + 1) _ (by omega) hnext
      · rw [htgt]
        refine ⟨_, m, rfl, hinv, fun p g h => ?_, rfl, rfl⟩
        rw [hM] at h
        cases h

end Loops

theorem setFlags_spec {m : KernelMemory} {table : Level4PageTable} (hinv : TreeInv m table.frame)
    (page : Page VirtAddr) {flags : PageTableEntryFlags} (hflags : flags.contains hugePage = false) :
    ∃ r memory', table.setFlags m.memory page flags = some (r, memory') ∧
      TreeInv ⟨memory', m.allocator⟩ table.frame ∧
      SetFlagsSpec (absOf m.memory table.frame) (absOf memory' table.frame) page.startAddr.vpn
        flags r :=
  setFlagsLoop_spec hinv hflags 3 0 table.frame rfl rfl

theorem unmap_spec {m : KernelMemory} {table : Level4PageTable} (hinv : TreeInv m table.frame)
    (page : Page VirtAddr) {freePhysicalPage : Bool}
    (hfree : freePhysicalPage = true → ∀ p g,
      absOf m.memory table.frame page.startAddr.vpn = .mapped p g →
      m.allocator.isUsed p.frame = true ∧ p.frame ≠ 0 ∧ ¬IsTable m table.frame p.frame) :
    ∃ r m', table.unmap m page freePhysicalPage = some (r, m') ∧ TreeInv m' table.frame ∧
      UnmapSpec (absOf m.memory table.frame) (absOf m'.memory table.frame) m.allocator.isUsed
        m'.allocator.isUsed page.startAddr.vpn page.size freePhysicalPage r :=
  unmapLoop_spec hinv hfree 3 0 table.frame rfl rfl

end RustOs.Memory.PageTable
