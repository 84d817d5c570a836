import RustOs.Memory.PageTable.Tree

/-!
# How one entry write changes the tree

The loops write one entry at a time, in one of three ways: a leaf entry is replaced
(`set_target_page`, `set_flags`, `clear`), a zero intermediate entry is pointed at a freshly
allocated and zeroed frame (`allocate_and_map_child_table`), or only the allocator changes.
For each we say what `tableAt`, `absOf` and `TreeInv` become. Injectivity of `tableAt` is what
makes a write local: a leaf table is no table above it, and a fresh frame is no table at all.
-/

namespace RustOs.Memory.PageTable
open PageTableEntryFlags

variable {m : KernelMemory} {root : Nat}

theorem writeEntry_entries (memory : Nat → PageTable) (t : Nat) (i : Fin 512)
    (e : PageTableEntry) (t' : Nat) (j : Fin 512) :
    (writeEntry memory t i e t').entries j = if t' = t ∧ j = i then e else (memory t').entries j := by
  unfold writeEntry
  by_cases ht : t' = t
  · subst ht
    by_cases hj : j = i
    · subst hj
      simp
    · simp [hj]
  · simp [ht]

@[simp] theorem writeEntry_self (memory : Nat → PageTable) (t : Nat) (i : Fin 512)
    (e : PageTableEntry) : (writeEntry memory t i e t).entries i = e := by
  rw [writeEntry_entries, if_pos ⟨rfl, rfl⟩]

theorem writeEntry_of_ne {memory : Nat → PageTable} {t t' : Nat} (h : t' ≠ t) (i j : Fin 512)
    (e : PageTableEntry) : (writeEntry memory t i e t').entries j = (memory t').entries j := by
  rw [writeEntry_entries, if_neg (fun h' => h h'.1)]

theorem absOf_of_tableAt {memory : Nat → PageTable} {n : Fin (2 ^ 36)} {t : Nat}
    (h : tableAt memory root (pathOf n 3) = some t) :
    absOf memory root n = absEntry ((memory t).entries (digit n .level1)) := by
  unfold absOf
  rw [h]

theorem absOf_of_tableAt_none {memory : Nat → PageTable} {n : Fin (2 ^ 36)}
    (h : tableAt memory root (pathOf n 3) = none) : absOf memory root n = .unmapped := by
  unfold absOf
  rw [h]

theorem tableAt_congr {memory memory' : Nat → PageTable}
    (h : ∀ p t, p.length < 3 → tableAt memory root p = some t →
      ∀ i, (memory' t).entries i = (memory t).entries i) :
    ∀ q : List (Fin 512), q.length ≤ 3 → tableAt memory' root q = tableAt memory root q := by
  intro q
  induction q with
  | nil => intro _; rfl
  | cons i q ih =>
      intro hq
      have hq' : q.length < 3 := by simp at hq; omega
      rw [tableAt_cons, tableAt_cons, ih (by omega)]
      cases ht : tableAt memory root q with
      | none => rfl
      | some t => simp only [Option.bind_some, h q t hq' ht i]

theorem tableAt_pathOf_none {memory : Nat → PageTable} {n k : Nat}
    (h : tableAt memory root (pathOf n k) = none) : ∀ j, k ≤ j → tableAt memory root (pathOf n j) = none := by
  intro j hj
  induction j with
  | zero =>
      rw [Nat.le_zero.mp hj] at h
      exact h
  | succ j ih =>
      rcases Nat.lt_or_eq_of_le hj with hlt | rfl
      · rw [pathOf, tableAt_cons, ih (by omega), Option.bind_none]
      · exact h

theorem tableAt_pathOf_succ (memory : Nat → PageTable) (n k : Nat) :
    tableAt memory root (pathOf n (k + 1)) = (tableAt memory root (pathOf n k)).bind fun t =>
      let e := (memory t).entries (digit n (depthLevel k))
      if e.isPresent then some e.frame else none := rfl

theorem absEntry_of_not_present {e : PageTableEntry} (h : e.isPresent = false) :
    absEntry e = .ofRaw e.rawAddress := by
  unfold absEntry
  rw [PageTableEntry.targetInner_of_not_present h]

@[simp] theorem absEntry_zero : absEntry ⟨0⟩ = .unmapped := by
  rw [absEntry_of_not_present PageTableEntry.isPresent_zero]
  rfl

section Inv

variable (hinv : TreeInv m root)
include hinv

theorem TreeInv.ne_of_length_ne {p q : List (Fin 512)} {t t' : Nat} (hp : p.length ≤ 3)
    (hq : q.length ≤ 3) (hne : p.length ≠ q.length) (ht : tableAt m.memory root p = some t)
    (ht' : tableAt m.memory root q = some t') : t ≠ t' := by
  rintro rfl
  exact hne (congrArg List.length (hinv.injective p q t hp hq ht ht'))

theorem TreeInv.ne_of_free {p : List (Fin 512)} {t f : Nat} (hp : p.length ≤ 3)
    (ht : tableAt m.memory root p = some t) (hf : m.allocator.isUsed f = false) : t ≠ f := by
  rintro rfl
  rw [hinv.used p t hp ht] at hf
  exact Bool.noConfusion hf

theorem TreeInv.rawAddress_le {p : List (Fin 512)} {t : Nat} (hp : p.length < 3)
    (ht : tableAt m.memory root p = some t) {i : Fin 512}
    (hi : ((m.memory t).entries i).isPresent = true) :
    ((m.memory t).entries i).rawAddress.toNat ≤ PageTableEntry.maxRaw := by
  have hchild : tableAt m.memory root (i :: p) = some ((m.memory t).entries i).frame := by
    rw [tableAt_cons, ht, Option.bind_some, if_pos hi]
  have hused := hinv.used (i :: p) _ (by simp; omega) hchild
  have hlt := PhysicalMemoryAllocator.lt_numPages_of_isUsed hused
  have hfits := hinv.healthy.fits
  rw [PhysicalMemoryAllocator.maxFrames_eq] at hfits
  rw [PageTableEntry.rawAddress_eq, PageTableEntry.maxRaw]
  omega

/-! ## Writing a leaf entry -/

section Leaf

variable {p : List (Fin 512)} {t : Nat} (hp : p.length = 3) (ht : tableAt m.memory root p = some t)
include hp ht

theorem tableAt_writeEntry_leaf (i : Fin 512) (e : PageTableEntry) :
    ∀ q : List (Fin 512), q.length ≤ 3 →
      tableAt (writeEntry m.memory t i e) root q = tableAt m.memory root q := by
  apply tableAt_congr
  intro q t' hq ht' j
  have hne := hinv.ne_of_length_ne (by omega) (by omega) (by omega) ht' ht
  rw [writeEntry_entries, if_neg (fun h => hne h.1)]

theorem absOf_writeEntry_leaf {n : Fin (2 ^ 36)} (hn : p = pathOf n 3) (e : PageTableEntry) :
    absOf (writeEntry m.memory t (digit n .level1) e) root =
      Function.update (absOf m.memory root) n (absEntry e) := by
  have htab := tableAt_writeEntry_leaf hinv hp ht (digit n .level1) e
  funext n'
  by_cases hn' : n' = n
  · subst hn'
    rw [Function.update_self, absOf_of_tableAt (t := t) (by rw [htab _ (by simp), ← hn, ht]),
      writeEntry_self]
  · rw [Function.update_of_ne hn']
    cases ht' : tableAt m.memory root (pathOf n' 3) with
    | none =>
        rw [absOf_of_tableAt_none ht', absOf_of_tableAt_none (by rw [htab _ (by simp), ht'])]
    | some t' =>
        rw [absOf_of_tableAt ht', absOf_of_tableAt (by rw [htab _ (by simp), ht']),
          writeEntry_entries, if_neg]
        -- the same leaf table and index would give the same page number
        rintro ⟨rfl, hdigit⟩
        have hpath := hinv.injective _ _ _ (by simp) (by omega) ht' ht
        exact hn' (eq_of_pathOf_eq (hpath.trans hn) hdigit)

theorem treeInv_writeEntry_leaf (i : Fin 512) {e : PageTableEntry} (he : LeafEntry e)
    {a : PhysicalMemoryAllocator}
    (hused : ∀ q t', q.length ≤ 3 → tableAt m.memory root q = some t' → a.isUsed t' = true)
    (hhealthy : a.Healthy) : TreeInv ⟨writeEntry m.memory t i e, a⟩ root := by
  have htab := tableAt_writeEntry_leaf hinv hp ht i e
  refine ⟨?_, ?_, ?_, ?_, hhealthy⟩
  · intro q q' t' hq hq'
    rw [htab q hq, htab q' hq']
    exact hinv.injective q q' t' hq hq'
  · intro q t' hq
    rw [htab q hq]
    exact hused q t' hq
  · intro q t' hq ht' j
    rw [htab q (by omega)] at ht'
    have hne := hinv.ne_of_length_ne (by omega) (by omega) (by omega) ht' ht
    simp only
    rw [writeEntry_entries, if_neg (fun h => hne h.1)]
    exact hinv.upper q t' hq ht' j
  · intro q t' hq ht' j
    rw [htab q (by omega)] at ht'
    simp only
    rw [writeEntry_entries]
    split
    · exact he
    · exact hinv.leaf q t' hq ht' j

end Leaf

/-! ## Mapping a fresh child table -/

section Child

variable {p : List (Fin 512)} {t : Nat} (hp : p.length < 3) (ht : tableAt m.memory root p = some t)
  {i : Fin 512} (hi : ((m.memory t).entries i).isPresent = false)
  {f : Nat} (hf : m.allocator.isUsed f = false) {e : PageTableEntry} (he : e.isPresent = true)
  (hef : e.frame = f)
include hp ht hi hf he hef

theorem tableAt_allocChild :
    ∀ q : List (Fin 512), q.length ≤ 3 →
      tableAt (writeEntry (Function.update m.memory f PageTable.zero) t i e) root q =
        if q = i :: p then some f else tableAt m.memory root q := by
  have htf : t ≠ f := hinv.ne_of_free (by omega) ht hf
  intro q
  induction q with
  | nil => intro _; simp [tableAt]
  | cons j q ih =>
      intro hq
      have hq' : q.length ≤ 3 := by simp at hq; omega
      rw [tableAt_cons, ih hq']
      by_cases hqp : q = i :: p
      · -- the new table is zero, so no path goes through it
        subst hqp
        have hnot : tableAt m.memory root (j :: i :: p) = none := by
          rw [tableAt_cons, tableAt_cons, ht, Option.bind_some, if_neg (by simp [hi]),
            Option.bind_none]
        have hz : (PageTable.zero.entries j).isPresent = false := PageTableEntry.isPresent_zero
        rw [if_pos rfl, Option.bind_some, writeEntry_of_ne htf.symm, Function.update_self,
          if_neg (by simp [hz]), if_neg (show ¬j :: i :: p = i :: p by simp), hnot]
      · rw [if_neg hqp]
        cases ht' : tableAt m.memory root q with
        | none =>
            have hne : ¬j :: q = i :: p := by
              intro h
              rw [(List.cons.inj h).2, ht] at ht'
              cases ht'
            rw [Option.bind_none, if_neg hne, tableAt_cons, ht', Option.bind_none]
        | some t' =>
            have ht'f : t' ≠ f := hinv.ne_of_free hq' ht' hf
            rw [Option.bind_some, tableAt_cons, ht', Option.bind_some]
            by_cases hji : t' = t ∧ j = i
            · -- the entry just written: it leads to the new table
              obtain ⟨rfl, rfl⟩ := hji
              have hqp' : q = p := hinv.injective q p t' hq' (by omega) ht' ht
              subst hqp'
              rw [writeEntry_self, if_pos he, hef, if_pos rfl]
            · have hne : ¬j :: q = i :: p := by
                intro h
                obtain ⟨rfl, rfl⟩ := List.cons.inj h
                rw [ht] at ht'
                exact hji ⟨(Option.some.inj ht').symm, rfl⟩
              rw [writeEntry_entries, if_neg hji, Function.update_of_ne ht'f, if_neg hne]

theorem absOf_allocChild :
    absOf (writeEntry (Function.update m.memory f PageTable.zero) t i e) root = absOf m.memory root := by
  have htab := tableAt_allocChild hinv hp ht hi hf he hef
  have htf : t ≠ f := hinv.ne_of_free (by omega) ht hf
  funext n
  by_cases hpath : pathOf n 3 = i :: p
  · -- the path ends at the new, zeroed table; before, it stopped at the entry just written
    have hold : tableAt m.memory root (pathOf n 3) = none := by
      rw [hpath, tableAt_cons, ht, Option.bind_some, if_neg (by simp [hi])]
    rw [absOf_of_tableAt_none hold, absOf_of_tableAt (t := f) (by rw [htab _ (by simp), if_pos hpath]),
      writeEntry_of_ne htf.symm, Function.update_self]
    exact absEntry_zero
  · cases ht' : tableAt m.memory root (pathOf n 3) with
    | none => rw [absOf_of_tableAt_none ht', absOf_of_tableAt_none (by rw [htab _ (by simp), if_neg hpath, ht'])]
    | some t' =>
        have ht't : t' ≠ t := hinv.ne_of_length_ne (by simp) (by omega) (by simp; omega) ht' ht
        have ht'f : t' ≠ f := hinv.ne_of_free (by simp) ht' hf
        rw [absOf_of_tableAt ht', absOf_of_tableAt (by rw [htab _ (by simp), if_neg hpath, ht']),
          writeEntry_of_ne ht't, Function.update_of_ne ht'f]

theorem treeInv_allocChild (hhuge : e.flags.contains hugePage = false) {a : PhysicalMemoryAllocator}
    (hused : ∀ q, m.allocator.isUsed q = true → a.isUsed q = true) (hfa : a.isUsed f = true)
    (hhealthy : a.Healthy) :
    TreeInv ⟨writeEntry (Function.update m.memory f PageTable.zero) t i e, a⟩ root := by
  have htab := tableAt_allocChild hinv hp ht hi hf he hef
  have htf : t ≠ f := hinv.ne_of_free (by omega) ht hf
  -- the new table is zero, so every entry of it is both a valid upper and leaf entry
  have hzero : ∀ j, (writeEntry (Function.update m.memory f PageTable.zero) t i e f).entries j = ⟨0⟩ := by
    intro j
    rw [writeEntry_of_ne htf.symm, Function.update_self]
    rfl
  -- an old table other than the new one reads as before
  have hold : ∀ q t', q.length ≤ 3 → q ≠ i :: p → tableAt m.memory root q = some t' → t' ≠ f :=
    fun q t' hq _ ht' => hinv.ne_of_free hq ht' hf
  refine ⟨?_, ?_, ?_, ?_, hhealthy⟩
  · intro q q' t' hq hq' h1 h2
    simp only at h1 h2
    rw [htab q hq] at h1
    rw [htab q' hq'] at h2
    by_cases hq1 : q = i :: p <;> by_cases hq2 : q' = i :: p
    · rw [hq1, hq2]
    · rw [if_pos hq1] at h1
      rw [if_neg hq2] at h2
      cases h1
      exact absurd rfl (hold q' f hq' hq2 h2)
    · rw [if_neg hq1] at h1
      rw [if_pos hq2] at h2
      cases h2
      exact absurd rfl (hold q f hq hq1 h1)
    · rw [if_neg hq1] at h1
      rw [if_neg hq2] at h2
      exact hinv.injective q q' t' hq hq' h1 h2
  · intro q t' hq h1
    simp only at h1 ⊢
    rw [htab q hq] at h1
    by_cases hq1 : q = i :: p
    · rw [if_pos hq1] at h1
      cases h1
      exact hfa
    · rw [if_neg hq1] at h1
      exact hused _ (hinv.used q t' hq h1)
  · intro q t' hq h1 j
    simp only at h1 ⊢
    rw [htab q (by omega)] at h1
    by_cases hq1 : q = i :: p
    · rw [if_pos hq1] at h1
      cases h1
      rw [hzero]
      exact .inr rfl
    · rw [if_neg hq1] at h1
      rw [writeEntry_entries]
      split
      · exact .inl ⟨he, hhuge⟩
      · rw [Function.update_of_ne (hold q t' (by omega) hq1 h1)]
        exact hinv.upper q t' hq h1 j
  · intro q t' hq h1 j
    simp only at h1 ⊢
    rw [htab q (by omega)] at h1
    by_cases hq1 : q = i :: p
    · rw [if_pos hq1] at h1
      cases h1
      rw [hzero]
      intro h
      rw [PageTableEntry.isPresent_zero] at h
      cases h
    · rw [if_neg hq1] at h1
      have ht't : t' ≠ t := hinv.ne_of_length_ne (by omega) (by omega) (by omega) h1 ht
      rw [writeEntry_of_ne ht't, Function.update_of_ne (hold q t' (by omega) hq1 h1)]
      exact hinv.leaf q t' hq h1 j

end Child

theorem treeInv_allocator {a : PhysicalMemoryAllocator}
    (hused : ∀ q, m.allocator.isUsed q = true → a.isUsed q = true) (hhealthy : a.Healthy) :
    TreeInv { m with allocator := a } root :=
  ⟨hinv.injective, fun q t hq ht => hused _ (hinv.used q t hq ht), hinv.upper, hinv.leaf, hhealthy⟩

end Inv

end RustOs.Memory.PageTable
