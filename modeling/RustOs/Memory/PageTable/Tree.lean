import RustOs.Memory.PageTable.Ops

/-!
# The page table as a tree, and the map it stands for

The tables reachable from the level 4 table form a tree of depth 3: `tableAt memory root p`
follows the entries named by the path `p` (deepest index first) while they are present. The
walk of `translate_address` and the other loops for a 4 KiB page with number `n` visits the
tables `tableAt memory root (pathOf n k)`, `k = 0 … 3`, and ends at entry `digit n .level1` of
the last. `absOf` reads the map the tree stands for: for every page number, the page and flags
its leaf entry maps it to, or that it is unmapped, or that `set_flags` left its entry
non-present with the old address still in it (`dropped`).

`TreeInv` is what every table the kernel builds keeps: distinct paths lead to distinct frames,
every table frame is marked used, an intermediate entry is either zero or a present pointer
without `HUGE_PAGE`, and a present leaf entry has no `HUGE_PAGE` and an address inside the
direct map. The lemmas at the end say how one entry write changes `tableAt` and `absOf`.
-/

namespace RustOs.Memory.PageTable
open PageTableEntryFlags RustOs.BitmapAlloc

/-! ## Decoding entries -/

namespace PageTableEntry

def frame (e : PageTableEntry) : Nat := e.rawAddress.toNat / 4096

theorem rawAddress_mod (e : PageTableEntry) : e.rawAddress.toNat % 4096 = 0 := by
  rw [rawAddress, addressMask, UInt64.toNat_and, show (4096 : Nat) = 2 ^ 12 from rfl,
    Nat.and_mod_two_pow, show UInt64.toNat 0x000f_ffff_ffff_f000 % 2 ^ 12 = 0 from rfl,
    Nat.and_zero]

theorem rawAddress_lt (e : PageTableEntry) : e.rawAddress.toNat < 2 ^ 52 := by
  rw [rawAddress, UInt64.toNat_and]
  exact Nat.lt_of_le_of_lt Nat.and_le_right (by decide)

theorem rawAddress_eq (e : PageTableEntry) : e.rawAddress.toNat = 4096 * e.frame := by
  have := e.rawAddress_mod
  unfold frame
  omega

def maxRaw : Nat := 0x3777_7777_7777

theorem address_eq {e : PageTableEntry} (h : e.rawAddress.toNat ≤ maxRaw) :
    ∃ k, e.address = some k ∧ k.val.toNat = e.rawAddress.toNat + (2 ^ 64 - 2 ^ 47) ∧
      k.frame = e.frame := by
  have hlt := e.rawAddress_lt
  obtain ⟨k, hk, hkval⟩ := KernPhysAddr.fromPhysAddr_eq ⟨e.rawAddress, hlt⟩ h
  have hphys : PhysAddr.new e.rawAddress = some ⟨e.rawAddress, hlt⟩ := by
    unfold PhysAddr.new
    rw [dif_pos hlt]
  refine ⟨k, ?_, hkval, ?_⟩
  · unfold address
    rw [hphys]
    simp only [Option.bind_eq_bind]
    rw [Option.bind_some]
    exact hk
  · simp only [KernPhysAddr.frame, k.sub_start_toNat, hkval, frame]
    omega

theorem page_eq {e : PageTableEntry} (h : e.rawAddress.toNat ≤ maxRaw) :
    ∃ k p, e.address = some k ∧ Page.fromStartAddr k .size4KiB = some p ∧
      p.size = .size4KiB ∧ p.frame = e.frame := by
  obtain ⟨k, hk, hkval, hframe⟩ := address_eq h
  have hmod := e.rawAddress_mod
  have hal : (Address.asU64 k).toNat % PageSize.size4KiB.sizeBytes = 0 := by
    simp only [Address.asU64, PageSize.sizeBytes, hkval]
    omega
  refine ⟨k, ⟨k, .size4KiB, hal⟩, hk, ?_, rfl, hframe⟩
  unfold Page.fromStartAddr
  rw [dif_pos hal]

theorem targetInner_of_not_present {e : PageTableEntry} (h : e.isPresent = false)
    (level : PageTableLevel) : e.targetInner level = some .unmapped := by
  simp [targetInner, h]

theorem targetInner_upper {e : PageTableEntry} (hp : e.isPresent = true)
    (hh : e.flags.contains hugePage = false) (hr : e.rawAddress.toNat ≤ maxRaw)
    {level next : PageTableLevel} (hl : level.nextLowerLevel = some next) :
    ∃ k, e.targetInner level = some (.nextTable next k) ∧ k.frame = e.frame := by
  obtain ⟨k, hk, -, hframe⟩ := address_eq hr
  refine ⟨k, ?_, hframe⟩
  simp only [targetInner, hp, Bool.not_true, hh, hl, Bool.false_eq_true, ↓reduceIte, hk]
  rfl

theorem targetInner_leaf {e : PageTableEntry} (hp : e.isPresent = true)
    (hh : e.flags.contains hugePage = false) (hr : e.rawAddress.toNat ≤ maxRaw) :
    ∃ p, e.targetInner .level1 = some (.page p e.flags) ∧ p.size = .size4KiB ∧
      p.frame = e.frame := by
  obtain ⟨k, p, hk, hpage, hsize, hframe⟩ := page_eq hr
  refine ⟨p, ?_, hsize, hframe⟩
  simp only [targetInner, hp, Bool.not_true, hh, PageTableLevel.nextLowerLevel,
    Bool.false_eq_true, ↓reduceIte, hk]
  change (Page.fromStartAddr k .size4KiB).bind _ = _
  rw [hpage]
  rfl

theorem isPresent_zero : (⟨0⟩ : PageTableEntry).isPresent = false := by decide

theorem flagMask_toNat : flagMask.toNat = (2 ^ 12 - 1) ||| ((2 ^ 12 - 1) <<< 52) := by decide

theorem and_not_addressMask {x : UInt64} (h1 : x.toNat % 4096 = 0) (h2 : x.toNat < 2 ^ 52) :
    x &&& ~~~addressMask = 0 := by
  rw [not_addressMask, ← UInt64.toNat_inj, UInt64.toNat_and, flagMask_toNat, UInt64.toNat_zero]
  apply Nat.eq_of_testBit_eq
  intro i
  rw [Nat.testBit_and, Nat.testBit_or, Nat.testBit_two_pow_sub_one, Nat.testBit_shiftLeft,
    Nat.testBit_two_pow_sub_one, Nat.zero_testBit]
  by_cases hlo : i < 12
  · -- the offset bits of an aligned address are clear
    have hx : x.toNat.testBit i = false := by
      have := Nat.testBit_mod_two_pow x.toNat 12 i
      rw [show x.toNat % 2 ^ 12 = 0 by omega, Nat.zero_testBit] at this
      simpa [hlo] using this
    simp [hx]
  · by_cases hhi : 52 ≤ i
    · have hx : x.toNat.testBit i = false :=
        Nat.testBit_eq_false_of_lt (Nat.lt_of_lt_of_le h2 (Nat.pow_le_pow_right (by decide) hhi))
      simp [hx]
    · simp [hlo, hhi]

end PageTableEntry

/-! ## Page numbers and paths -/

def digit (n : Nat) (level : PageTableLevel) : Fin 512 :=
  ⟨n / 512 ^ (level.toNat - 1) % 512, Nat.mod_lt _ (by decide)⟩

theorem fromAddress_val (level : PageTableLevel) (a : VirtAddr) :
    (PageTableIndex.fromAddress level a).val = a.val.toNat / 2 ^ (12 + 9 * (level.toNat - 1)) % 512 := by
  have h512 : (0x1FF : UInt64).toNat = 2 ^ 9 - 1 := rfl
  cases level <;>
  simp only [PageTableIndex.fromAddress, UInt64.toNat_and, UInt64.toNat_shiftRight,
      Nat.shiftRight_eq_div_pow, h512, Nat.and_two_pow_sub_one_eq_mod, PageTableLevel.toNat] <;> rfl

theorem fromAddress_eq_digit (level : PageTableLevel) (a : VirtAddr) :
    PageTableIndex.fromAddress level a = digit a.vpn.val level := by
  apply Fin.ext
  rw [fromAddress_val]
  cases level <;> simp only [digit, VirtAddr.vpn, PageTableLevel.toNat] <;> omega

def depthLevel : Nat → PageTableLevel
  | 0 => .level4
  | 1 => .level3
  | 2 => .level2
  | _ => .level1

def pathOf (n : Nat) : Nat → List (Fin 512)
  | 0 => []
  | k + 1 => digit n (depthLevel k) :: pathOf n k

@[simp] theorem pathOf_length (n k : Nat) : (pathOf n k).length = k := by
  induction k with
  | zero => rfl
  | succ k ih => simp [pathOf, ih]

theorem nextLowerLevel_depthLevel {k : Nat} (hk : k < 3) :
    (depthLevel k).nextLowerLevel = some (depthLevel (k + 1)) := by
  match k, hk with
  | 0, _ => rfl
  | 1, _ => rfl
  | 2, _ => rfl

theorem eq_of_pathOf_eq {n n' : Fin (2 ^ 36)} (h : pathOf n 3 = pathOf n' 3)
    (h1 : digit n .level1 = digit n' .level1) : n = n' := by
  have hn := n.isLt
  have hn' := n'.isLt
  simp only [pathOf, depthLevel, List.cons.injEq, and_true] at h
  obtain ⟨h2, h3, h4⟩ := h
  simp only [digit, Fin.mk.injEq, PageTableLevel.toNat] at h1 h2 h3 h4
  omega

/-! ## The tree and its map -/

def tableAt (memory : Nat → PageTable) (root : Nat) : List (Fin 512) → Option Nat
  | [] => some root
  | i :: p => (tableAt memory root p).bind fun t =>
      let e := (memory t).entries i
      if e.isPresent then some e.frame else none

theorem tableAt_cons (memory : Nat → PageTable) (root : Nat) (i : Fin 512) (p : List (Fin 512)) :
    tableAt memory root (i :: p) = (tableAt memory root p).bind fun t =>
      if ((memory t).entries i).isPresent then some ((memory t).entries i).frame else none := rfl

inductive AbsEntry where
  | mapped (page : Page KernPhysAddr) (flags : PageTableEntryFlags)
  | unmapped
  | dropped (raw : UInt64)
  deriving DecidableEq

def AbsEntry.ofRaw (raw : UInt64) : AbsEntry := if raw = 0 then .unmapped else .dropped raw

def AbsEntry.isDropped : AbsEntry → Bool
  | .dropped _ => true
  | _ => false

/-- A leaf entry read through `target_inner` at level 1. -/
def absEntry (e : PageTableEntry) : AbsEntry :=
  match e.targetInner .level1 with
  | some (.page p f) => .mapped p f
  | _ => .ofRaw e.rawAddress

def absOf (memory : Nat → PageTable) (root : Nat) (n : Fin (2 ^ 36)) : AbsEntry :=
  match tableAt memory root (pathOf n 3) with
  | some t => absEntry ((memory t).entries (digit n .level1))
  | none => .unmapped

/-- An intermediate entry: zero, or a present pointer without `HUGE_PAGE`. -/
def UpperEntry (e : PageTableEntry) : Prop :=
  (e.isPresent = true ∧ e.flags.contains hugePage = false) ∨ e.bits = 0

/-- A leaf entry that `target_inner` decodes without a panic. -/
def LeafEntry (e : PageTableEntry) : Prop :=
  e.isPresent = true → e.flags.contains hugePage = false ∧ e.rawAddress.toNat ≤ PageTableEntry.maxRaw

structure TreeInv (m : KernelMemory) (root : Nat) : Prop where
  injective : ∀ p q t, p.length ≤ 3 → q.length ≤ 3 → tableAt m.memory root p = some t →
    tableAt m.memory root q = some t → p = q
  used : ∀ p t, p.length ≤ 3 → tableAt m.memory root p = some t → m.allocator.isUsed t = true
  upper : ∀ p t, p.length < 3 → tableAt m.memory root p = some t →
    ∀ i, UpperEntry ((m.memory t).entries i)
  leaf : ∀ p t, p.length = 3 → tableAt m.memory root p = some t →
    ∀ i, LeafEntry ((m.memory t).entries i)
  healthy : m.allocator.Healthy

def IsTable (m : KernelMemory) (root : Nat) (f : Nat) : Prop :=
  ∃ p, p.length ≤ 3 ∧ tableAt m.memory root p = some f

end RustOs.Memory.PageTable
