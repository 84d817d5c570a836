import RustOs.Memory.PageTable.Refinement

/-!
# `set_flags` on trees with huge pages

The bootloader's kernel table maps memory with 2 MiB and 1 GiB leaves: entries with `HUGE_PAGE`
at level 2 or 3, where `target_inner` stops. `TreeInv` rules these out, so here a tree is only
what the walks see: `walkTable` follows an entry where `target_inner` at its level reads a next
table, and in a tree distinct walks reach distinct frames.

`set_flags` overwrites every flag bit of the leaf it reaches, `HUGE_PAGE` among them. With
flags that keep `PRESENT` and the leaf's own `HUGE_PAGE` bit, the leaf maps the same page with the
new flags and no other translation changes. With any other `HUGE_PAGE` bit a 2 MiB or 1 GiB leaf
turns into a pointer to a table read from the page's first frame, and a 4 KiB leaf into an
entry `target_inner` panics on.
-/

namespace RustOs.Memory.PageTable
open PageTableEntryFlags

/-- What `target_inner` reads once the flag bits are `f`: a page keeps its frame and size and
takes the new flags. -/
def PageTableTarget.withFlags (f : PageTableEntryFlags) : PageTableTarget → PageTableTarget
  | .page p _ => .page p f
  | t => t

def leafDepth : PageSize → Nat
  | .size4KiB => 3
  | .size2MiB => 2
  | .size1GiB => 1

theorem Page.size_of_fromStartAddr {A : Type} [Address A] {a : A} {s : PageSize} {p : Page A}
    (h : Page.fromStartAddr a s = some p) : p.size = s := by
  unfold Page.fromStartAddr at h
  split at h
  · cases h
    rfl
  · cases h

namespace PageTableEntry

theorem address_setFlags (e : PageTableEntry) (f : PageTableEntryFlags) :
    (e.setFlags f).address = e.address := by
  simp only [address, rawAddress_setFlags]

theorem targetInner_setFlags {e : PageTableEntry} {f : PageTableEntryFlags}
    (hp : e.isPresent = true) (hfp : f.contains present = true)
    (hh : f.contains hugePage = e.flags.contains hugePage) (level : PageTableLevel) :
    (e.setFlags f).targetInner level = (e.targetInner level).map (PageTableTarget.withFlags f) := by
  unfold targetInner
  simp only [isPresent_setFlags, hfp, hp, Bool.not_true, Bool.false_eq_true, if_false,
    flags_setFlags, hh, address_setFlags]
  -- the same branch on both sides; the page in it differs only in its flags
  cases e.flags.contains hugePage <;> cases level <;>
    simp only [Bool.false_eq_true, if_false, if_true, PageTableLevel.nextLowerLevel] <;>
    simp only [Option.bind_eq_bind, Option.map_bind, Option.map_some, Option.map_none,
      PageTableTarget.withFlags, Function.comp_def]

theorem targetInner_nextTable {e : PageTableEntry} {level next : PageTableLevel}
    {table : KernPhysAddr} (h : e.targetInner level = some (.nextTable next table)) :
    level.nextLowerLevel = some next := by
  unfold targetInner at h
  simp only at h
  split at h
  · cases h
  · split at h
    · cases level <;> simp [Option.bind_eq_bind, Option.bind_eq_some_iff] at h
    · cases hl : level.nextLowerLevel with
      | none => simp [hl, Option.bind_eq_bind, Option.bind_eq_some_iff] at h
      | some l =>
          simp only [hl, Option.bind_eq_bind, Option.bind_eq_some_iff, Option.some.injEq,
            PageTableTarget.nextTable.injEq] at h
          obtain ⟨-, -, rfl, -⟩ := h
          rfl

theorem targetInner_nextTable_depth {e : PageTableEntry} {k : Nat} (hk : k < 3)
    {next : PageTableLevel} {table : KernPhysAddr}
    (h : e.targetInner (depthLevel k) = some (.nextTable next table)) :
    next = depthLevel (k + 1) := by
  have down := targetInner_nextTable h
  rw [nextLowerLevel_depthLevel hk] at down
  exact (Option.some.inj down).symm

theorem targetInner_page {e : PageTableEntry} {K : Nat} (hK : K ≤ 3) {p : Page KernPhysAddr}
    {g : PageTableEntryFlags} (h : e.targetInner (depthLevel K) = some (.page p g)) :
    e.isPresent = true ∧ g = e.flags ∧ K = leafDepth p.size ∧
      e.flags.contains hugePage = decide (p.size ≠ .size4KiB) := by
  unfold targetInner at h
  simp only at h
  split at h
  · cases h
  · rename_i hp
    simp only [Bool.not_eq_true', Bool.not_eq_false] at hp
    refine ⟨hp, ?_⟩
    -- a page is read only at level 1 without `HUGE_PAGE` and at levels 2 and 3 with it
    have depths : K = 0 ∨ K = 1 ∨ K = 2 ∨ K = 3 := by omega
    rcases depths with rfl | rfl | rfl | rfl <;> cases hh : e.flags.contains hugePage <;>
      simp only [hh, depthLevel, PageTableLevel.nextLowerLevel, Bool.false_eq_true, if_false,
        if_true, Option.bind_eq_bind, Option.bind_eq_some_iff, Option.some.injEq,
        PageTableTarget.page.injEq, reduceCtorEq, and_false, exists_false] at h
    all_goals
      obtain ⟨a, -, q, hq, rfl, rfl⟩ := h
      simp [leafDepth, Page.size_of_fromStartAddr hq]

end PageTableEntry

/-! ## The walks -/

/-- The frame of the table at the end of path `p` (the deepest index first) as the walks see it:
an entry leads on only where `target_inner` at its level reads a next table. -/
def walkTable (memory : Nat → PageTable) (root : Nat) : List (Fin 512) → Option Nat
  | [] => some root
  | i :: p => (walkTable memory root p).bind fun t =>
      match ((memory t).entries i).targetInner (depthLevel p.length) with
      | some (.nextTable _ table) => some table.frame
      | _ => none

def WalkInjective (memory : Nat → PageTable) (root : Nat) : Prop :=
  ∀ p q t, p.length ≤ 3 → q.length ≤ 3 → walkTable memory root p = some t →
    walkTable memory root q = some t → p = q

def InLeafOf (size : PageSize) (addr v : VirtAddr) : Prop :=
  pathOf addr.vpn (leafDepth size + 1) = pathOf v.vpn (leafDepth size + 1)

section Walks

variable {memory : Nat → PageTable} {root : Nat} {n : Nat}

theorem walkTable_succ (k : Nat) :
    walkTable memory root (pathOf n (k + 1)) = (walkTable memory root (pathOf n k)).bind fun t =>
      match ((memory t).entries (digit n (depthLevel k))).targetInner (depthLevel k) with
      | some (.nextTable _ table) => some table.frame
      | _ => none := by
  simp only [pathOf, walkTable, pathOf_length]

theorem walkTable_next {k t : Nat} (ht : walkTable memory root (pathOf n k) = some t)
    {next : PageTableLevel} {table : KernPhysAddr}
    (htgt : ((memory t).entries (digit n (depthLevel k))).targetInner (depthLevel k) =
      some (.nextTable next table)) :
    walkTable memory root (pathOf n (k + 1)) = some table.frame := by
  rw [walkTable_succ, ht, Option.bind_some, htgt]

theorem walkTable_prev {k t' : Nat} (ht' : walkTable memory root (pathOf n (k + 1)) = some t') :
    ∃ t next table, walkTable memory root (pathOf n k) = some t ∧
      ((memory t).entries (digit n (depthLevel k))).targetInner (depthLevel k) =
        some (.nextTable next table) ∧ table.frame = t' := by
  rw [walkTable_succ] at ht'
  obtain ⟨t, ht, hstep⟩ := Option.bind_eq_some_iff.mp ht'
  split at hstep
  · rename_i next table htgt
    exact ⟨t, next, table, ht, htgt, Option.some.inj hstep⟩
  · cases hstep

theorem walkTable_of_le {K t' : Nat} (ht' : walkTable memory root (pathOf n K) = some t') :
    ∀ k ≤ K, ∃ t, walkTable memory root (pathOf n k) = some t := by
  induction K generalizing t' with
  | zero =>
      intro k hk
      obtain rfl : k = 0 := by omega
      exact ⟨t', ht'⟩
  | succ K ih =>
      intro k hk
      obtain ⟨t, -, -, ht, -⟩ := walkTable_prev ht'
      rcases Nat.lt_or_ge k (K + 1) with above | below
      · exact ih ht k (by omega)
      · obtain rfl : k = K + 1 := by omega
        exact ⟨t', ht'⟩

end Walks

/-! ## The loops along the walks -/

section Loops

variable {memory : Nat → PageTable} {root : Nat}

theorem translateLoop_succ (memory : Nat → PageTable) (addr : VirtAddr) (fuel t : Nat)
    (level : PageTableLevel) :
    Level4PageTable.translateLoop memory addr (fuel + 1) (memory t) level =
      match ((memory t).entries (digit addr.vpn level)).targetInner level with
      | none => none
      | some .unmapped => some .unmapped
      | some (.page page flags) =>
          some (.mapped ⟨page, flags, addr.val % page.size.sizeBytes.toUInt64⟩)
      | some (.nextTable level table) =>
          Level4PageTable.translateLoop memory addr fuel (memory table.frame) level := by
  rw [← fromAddress_eq_digit]
  rfl

theorem translateLoop_mapped (addr : VirtAddr) {mapping : AddressPageMapping} :
    ∀ j k t, k + j = 3 → walkTable memory root (pathOf addr.vpn k) = some t →
      Level4PageTable.translateLoop memory addr (j + 1) (memory t) (depthLevel k) =
        some (.mapped mapping) →
      ∃ K t', K ≤ 3 ∧ walkTable memory root (pathOf addr.vpn K) = some t' ∧
        ((memory t').entries (digit addr.vpn (depthLevel K))).targetInner (depthLevel K) =
          some (.page mapping.page mapping.flags) := by
  intro j
  induction j with
  | zero =>
      intro k t hk ht hrun
      rw [translateLoop_succ] at hrun
      split at hrun
      · cases hrun
      · cases hrun
      · rename_i page flags htgt
        cases hrun
        exact ⟨k, t, by omega, ht, htgt⟩
      · -- no next table below level 1
        rename_i next table htgt
        have := PageTableEntry.targetInner_nextTable htgt
        obtain rfl : k = 3 := by omega
        cases this
  | succ j ih =>
      intro k t hk ht hrun
      rw [translateLoop_succ] at hrun
      split at hrun
      · cases hrun
      · cases hrun
      · rename_i page flags htgt
        cases hrun
        exact ⟨k, t, by omega, ht, htgt⟩
      · rename_i next table htgt
        have hnext := PageTableEntry.targetInner_nextTable_depth (by omega) htgt
        subst hnext
        exact ih (k + 1) table.frame (by omega) (walkTable_next ht htgt) hrun

theorem setFlagsLoop_of_leaf {page : Page VirtAddr} (flags : PageTableEntryFlags) {K t' : Nat}
    (hK : K ≤ 3) (hleaf : walkTable memory root (pathOf page.startAddr.vpn K) = some t')
    {p : Page KernPhysAddr} {g : PageTableEntryFlags}
    (hpage : ((memory t').entries (digit page.startAddr.vpn (depthLevel K))).targetInner
      (depthLevel K) = some (.page p g)) :
    ∀ j k t, k + j = 3 → k ≤ K → walkTable memory root (pathOf page.startAddr.vpn k) = some t →
      Level4PageTable.setFlagsLoop page flags (j + 1) t (depthLevel k) memory =
        some (.ok (), writeEntry memory t' (digit page.startAddr.vpn (depthLevel K))
          (((memory t').entries (digit page.startAddr.vpn (depthLevel K))).setFlags flags)) := by
  intro j
  induction j with
  | zero =>
      intro k t hk above ht
      obtain rfl : k = 3 := by omega
      obtain rfl : K = 3 := by omega
      obtain rfl : t = t' := Option.some.inj (ht.symm.trans hleaf)
      rw [Level4PageTable.setFlagsLoop, fromAddress_eq_digit, hpage]
  | succ j ih =>
      intro k t hk above ht
      rw [Level4PageTable.setFlagsLoop, fromAddress_eq_digit]
      rcases Nat.lt_or_ge k K with before | atLeaf
      · -- above the leaf the walk goes on through a next table
        obtain ⟨t'', hnext⟩ := walkTable_of_le hleaf (k + 1) before
        obtain ⟨t₀, next, table, ht₀, htgt, rfl⟩ := walkTable_prev hnext
        obtain rfl : t₀ = t := Option.some.inj (ht₀.symm.trans ht)
        have hlevel := PageTableEntry.targetInner_nextTable_depth (by omega) htgt
        subst hlevel
        rw [htgt]
        exact ih (k + 1) table.frame (by omega) (by omega) hnext
      · obtain rfl : k = K := by omega
        obtain rfl : t = t' := Option.some.inj (ht.symm.trans hleaf)
        rw [hpage]

theorem WalkInjective.same_walk (tree : WalkInjective memory root) {addr v : Nat} {k K t : Nat}
    (hk : k ≤ 3) (hK : K ≤ 3) (ht : walkTable memory root (pathOf addr k) = some t)
    (hleaf : walkTable memory root (pathOf v K) = some t) :
    pathOf addr k = pathOf v K ∧ k = K := by
  have same := tree _ _ t (by simp only [pathOf_length]; exact hk)
    (by simp only [pathOf_length]; exact hK) ht hleaf
  refine ⟨same, ?_⟩
  simpa only [pathOf_length] using congrArg List.length same

theorem translateLoop_writeLeaf_hit (tree : WalkInjective memory root) {v : VirtAddr} {K t' : Nat}
    (hK : K ≤ 3) (hleaf : walkTable memory root (pathOf v.vpn K) = some t')
    {p : Page KernPhysAddr} {g f : PageTableEntryFlags}
    (hold : ((memory t').entries (digit v.vpn (depthLevel K))).targetInner (depthLevel K) =
      some (.page p g))
    {e' : PageTableEntry} (hnew : e'.targetInner (depthLevel K) = some (.page p f))
    (addr : VirtAddr) (fuel : Nat) {k : Nat} (hk : k ≤ 3)
    (ht : walkTable memory root (pathOf addr.vpn k) = some t')
    (hdigit : digit addr.vpn (depthLevel k) = digit v.vpn (depthLevel K)) :
    pathOf addr.vpn (K + 1) = pathOf v.vpn (K + 1) ∧ ∃ q g' off,
      Level4PageTable.translateLoop memory addr (fuel + 1) (memory t') (depthLevel k) =
        some (.mapped ⟨q, g', off⟩) ∧
      Level4PageTable.translateLoop (writeEntry memory t' (digit v.vpn (depthLevel K)) e') addr
        (fuel + 1) (writeEntry memory t' (digit v.vpn (depthLevel K)) e' t') (depthLevel k) =
        some (.mapped ⟨q, f, off⟩) := by
  obtain ⟨hpath, rfl⟩ := tree.same_walk hk hK ht hleaf
  rw [translateLoop_succ, translateLoop_succ, hdigit, writeEntry_self, hold, hnew]
  refine ⟨?_, p, g, _, rfl, rfl⟩
  show digit addr.vpn (depthLevel k) :: pathOf addr.vpn k =
    digit v.vpn (depthLevel k) :: pathOf v.vpn k
  rw [hdigit, hpath]

theorem translateLoop_writeLeaf (tree : WalkInjective memory root) {v : VirtAddr} {K t' : Nat}
    (hK : K ≤ 3) (hleaf : walkTable memory root (pathOf v.vpn K) = some t')
    {p : Page KernPhysAddr} {g f : PageTableEntryFlags}
    (hold : ((memory t').entries (digit v.vpn (depthLevel K))).targetInner (depthLevel K) =
      some (.page p g))
    {e' : PageTableEntry} (hnew : e'.targetInner (depthLevel K) = some (.page p f))
    (addr : VirtAddr) :
    ∀ j k t, k + j = 3 → walkTable memory root (pathOf addr.vpn k) = some t →
      Level4PageTable.translateLoop (writeEntry memory t' (digit v.vpn (depthLevel K)) e') addr
          (j + 1) (writeEntry memory t' (digit v.vpn (depthLevel K)) e' t) (depthLevel k) =
        Level4PageTable.translateLoop memory addr (j + 1) (memory t) (depthLevel k) ∨
      (pathOf addr.vpn (K + 1) = pathOf v.vpn (K + 1) ∧ ∃ q g' off,
        Level4PageTable.translateLoop memory addr (j + 1) (memory t) (depthLevel k) =
          some (.mapped ⟨q, g', off⟩) ∧
        Level4PageTable.translateLoop (writeEntry memory t' (digit v.vpn (depthLevel K)) e') addr
          (j + 1) (writeEntry memory t' (digit v.vpn (depthLevel K)) e' t) (depthLevel k) =
          some (.mapped ⟨q, f, off⟩)) := by
  intro j
  induction j with
  | zero =>
      intro k t hk ht
      by_cases hit : t = t' ∧ digit addr.vpn (depthLevel k) = digit v.vpn (depthLevel K)
      · -- the walk reads the new leaf entry: the same page with the new flags
        obtain ⟨rfl, hdigit⟩ := hit
        exact .inr (translateLoop_writeLeaf_hit tree hK hleaf hold hnew addr 0 (by omega) ht hdigit)
      · -- any other entry is as before, and at level 1 none leads further
        rw [translateLoop_succ, translateLoop_succ, writeEntry_entries, if_neg hit]
        refine .inl ?_
        cases htgt : ((memory t).entries (digit addr.vpn (depthLevel k))).targetInner (depthLevel k) with
        | none => rfl
        | some target =>
            cases target with
            | unmapped => rfl
            | page q g' => rfl
            | nextTable next table =>
                have := PageTableEntry.targetInner_nextTable htgt
                obtain rfl : k = 3 := by omega
                cases this
  | succ j ih =>
      intro k t hk ht
      by_cases hit : t = t' ∧ digit addr.vpn (depthLevel k) = digit v.vpn (depthLevel K)
      · obtain ⟨rfl, hdigit⟩ := hit
        exact .inr (translateLoop_writeLeaf_hit tree hK hleaf hold hnew addr (j + 1) (by omega) ht
          hdigit)
      · rw [translateLoop_succ, translateLoop_succ, writeEntry_entries, if_neg hit]
        cases htgt : ((memory t).entries (digit addr.vpn (depthLevel k))).targetInner (depthLevel k) with
        | none => exact .inl rfl
        | some target =>
            cases target with
            | unmapped => exact .inl rfl
            | page q g' => exact .inl rfl
            | nextTable next table =>
                -- the next table is the one the old walk reaches
                have hnext := PageTableEntry.targetInner_nextTable_depth (by omega) htgt
                subst hnext
                exact ih (k + 1) table.frame (by omega) (walkTable_next ht htgt)

end Loops

/-! ## `set_flags` on a mapped page -/

/-- In a tree with huge pages, `set_flags` on a mapped page `v` with flags that hold `PRESENT`,
and `HUGE_PAGE` exactly when the leaf maps a page larger than 4 KiB, succeeds, and afterwards
every address translates as before, except that in the leaf mapping that holds `v` the same
page and offset come with the new flags. -/
theorem setFlags_leaf_translations {memory : Nat → PageTable} {table : Level4PageTable}
    (tree : WalkInjective memory table.frame) {v : Page VirtAddr} {mapping : AddressPageMapping}
    (mapped : table.translateAddress memory v.startAddr = some (.mapped mapping))
    {f : PageTableEntryFlags} (withPresent : f.contains present = true)
    (sameKind : f.contains hugePage = decide (mapping.page.size ≠ .size4KiB)) :
    ∃ memory', table.setFlags memory v f = some (.ok (), memory') ∧
      ∀ addr, table.translateAddress memory' addr = table.translateAddress memory addr ∨
        (InLeafOf mapping.page.size addr v.startAddr ∧ ∃ q g off,
          table.translateAddress memory addr = some (.mapped ⟨q, g, off⟩) ∧
          table.translateAddress memory' addr = some (.mapped ⟨q, f, off⟩)) := by
  -- the leaf the walk for `v` ends at, and what `set_flags` makes of it
  obtain ⟨K, t', hK, hleaf, hold⟩ :=
    translateLoop_mapped v.startAddr 3 0 table.frame rfl rfl mapped
  obtain ⟨hpresent, -, hdepth, hhuge⟩ := PageTableEntry.targetInner_page hK hold
  have hsame : f.contains hugePage =
      ((memory t').entries (digit v.startAddr.vpn (depthLevel K))).flags.contains hugePage := by
    rw [sameKind, hhuge]
  have hnew : (((memory t').entries (digit v.startAddr.vpn (depthLevel K))).setFlags f).targetInner
      (depthLevel K) = some (.page mapping.page f) := by
    rw [PageTableEntry.targetInner_setFlags hpresent withPresent hsame, hold]
    rfl
  refine ⟨_, setFlagsLoop_of_leaf f hK hleaf hold 3 0 table.frame rfl (Nat.zero_le _) rfl,
    fun addr => ?_⟩
  rcases translateLoop_writeLeaf tree hK hleaf hold hnew addr 3 0 table.frame rfl rfl with
    same | ⟨inLeaf, q, g, off, before, after⟩
  · exact .inl same
  · refine .inr ⟨?_, q, g, off, before, after⟩
    rw [InLeafOf, ← hdepth]
    exact inLeaf

/-! ## A 2 MiB page

The level 4 table in frame 1 points to a level 3 table in frame 2, whose entry 0 points to a
level 2 table in frame 3, whose entry 0 maps the 2 MiB page at physical address `0x20_0000`,
present and writable. Every other entry is zero.
-/

def oneEntryTable (bits : UInt64) : PageTable := ⟨fun i => if i = 0 then ⟨bits⟩ else ⟨0⟩⟩

def hugeMemory : Nat → PageTable := fun frame =>
  if frame = 1 then oneEntryTable 0x2003
  else if frame = 2 then oneEntryTable 0x3003
  else if frame = 3 then oneEntryTable 0x20_0083
  else PageTable.zero

theorem hugeMemory_entry_of_ne (t : Nat) {i : Fin 512} (hi : i ≠ 0) :
    (hugeMemory t).entries i = ⟨0⟩ := by
  unfold hugeMemory
  split_ifs <;> simp [oneEntryTable, hi, PageTable.zero]

theorem walkTable_hugeMemory : ∀ p t, p.length ≤ 3 → walkTable hugeMemory 1 p = some t →
    p = List.replicate p.length 0 ∧ t = p.length + 1 ∧ p.length < 3
  | [], t, _, h => by
      cases h
      exact ⟨rfl, rfl, by decide⟩
  | i :: q, t, hlen, h => by
      obtain ⟨t₀, h₀, hstep⟩ := Option.bind_eq_some_iff.mp h
      obtain ⟨hq, rfl, hshort⟩ := walkTable_hugeMemory q t₀ (by simp at hlen; omega) h₀
      by_cases hi : i = 0
      · -- entry 0 leads on from the tables in frames 1 and 2, and maps the page in frame 3
        subst hi
        rw [hq] at hstep ⊢
        simp only [List.length_cons, List.length_replicate] at hstep ⊢
        have lengths : q.length = 0 ∨ q.length = 1 ∨ q.length = 2 := by omega
        rcases lengths with h0 | h0 | h0 <;> rw [h0] at hstep ⊢ <;> cases hstep <;> decide
      · rw [hugeMemory_entry_of_ne _ hi, PageTableEntry.targetInner_of_not_present
          PageTableEntry.isPresent_zero] at hstep
        cases hstep

theorem walkInjective_hugeMemory : WalkInjective hugeMemory 1 := by
  intro p q t hp hq hpt hqt
  obtain ⟨hp', rfl, -⟩ := walkTable_hugeMemory p t hp hpt
  obtain ⟨hq', hlen, -⟩ := walkTable_hugeMemory q _ hq hqt
  calc p = List.replicate p.length 0 := hp'
    _ = List.replicate q.length 0 := by rw [show p.length = q.length by omega]
    _ = q := hq'.symm

theorem setFlags_leaf_translations_huge :
    ∃ memory', (⟨1⟩ : Level4PageTable).setFlags hugeMemory pageZero
        (present ||| writable ||| hugePage) = some (.ok (), memory') ∧
      ∀ addr, (⟨1⟩ : Level4PageTable).translateAddress memory' addr =
          (⟨1⟩ : Level4PageTable).translateAddress hugeMemory addr ∨
        (InLeafOf .size2MiB addr pageZero.startAddr ∧ ∃ q g off,
          (⟨1⟩ : Level4PageTable).translateAddress hugeMemory addr = some (.mapped ⟨q, g, off⟩) ∧
          (⟨1⟩ : Level4PageTable).translateAddress memory' addr =
            some (.mapped ⟨q, present ||| writable ||| hugePage, off⟩)) := by
  have mapped : (⟨1⟩ : Level4PageTable).translateAddress hugeMemory pageZero.startAddr =
      some (.mapped _) := rfl
  exact setFlags_leaf_translations walkInjective_hugeMemory mapped (by decide) (by decide)

/-- `set_flags` of page 0 with `PRESENT | WRITABLE` clears `HUGE_PAGE` in the level 2 entry,
which then reads as a pointer to a table in the page's first frame, 512, where every entry is
zero: page 0 was mapped to a 2 MiB page and is now unmapped. -/
theorem setFlags_drops_hugePage :
    ∃ memory' mapping,
      (⟨1⟩ : Level4PageTable).setFlags hugeMemory pageZero (present ||| writable) =
        some (.ok (), memory') ∧
      (⟨1⟩ : Level4PageTable).translateAddress hugeMemory pageZero.startAddr =
        some (.mapped mapping) ∧ mapping.page.size = .size2MiB ∧
      (⟨1⟩ : Level4PageTable).translateAddress memory' pageZero.startAddr = some .unmapped :=
  ⟨_, _, rfl, rfl, rfl, by decide⟩

end RustOs.Memory.PageTable
