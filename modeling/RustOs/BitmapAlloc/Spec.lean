import RustOs.BitmapAlloc.Basic

/-!
# What each allocator operation does to the bitmap

The nested search loop of `find_next_contiguous` is the one-pass first-fit scan of
`FirstFit` over the pages from the chunk where it starts. Under `HintBelowUsed`, every page
below the single-page hint is used, so the search from the hint's chunk answers the least
free run of the whole bitmap (`findNextContiguous_spec`). Marking a range of pages used or
unused sets or clears exactly those bits, and panics exactly when one of them already has
the target value or lies past the end.
-/

namespace RustOs.BitmapAlloc
open WordBits FirstFit

namespace BitmapAllocator

/-! ## The search -/

def Scan.toState : Scan → ScanState
  | .next start currentLen => .scanning start currentLen
  | .found s => .found s

theorem isUsed_chunk (a : BitmapAllocator) {i bit : Nat} (hb : bit < 64) :
    a.isUsed (i * 64 + bit) = (a.bitmap.getD i 0).toNat.testBit bit := by
  have hdiv : (i * 64 + bit) / 64 = i := by omega
  have hmod : (i * 64 + bit) % 64 = bit := by omega
  rw [isUsed, bitAt, hdiv, hmod]

theorem bitLoop_toState (a : BitmapAllocator) (n i : Nat) (bits : List Nat)
    (hbits : ∀ b ∈ bits, b < 64) (start len : Nat) :
    (bitLoop n i (a.bitmap.getD i 0) bits start len).toState =
      (bits.map (i * 64 + ·)).foldl (scanStep a.isUsed n) (.scanning start len) := by
  induction bits generalizing start len with
  | nil => rfl
  | cons bit bits ih =>
      have hb : bit < 64 := hbits bit (by simp)
      have hrest : ∀ b ∈ bits, b < 64 := fun b hmem => hbits b (by simp [hmem])
      rw [bitLoop, and_mask_eq_zero _ hb, List.map_cons, List.foldl_cons, scanStep,
        isUsed_chunk a hb]
      cases hused : (a.bitmap.getD i 0).toNat.testBit bit with
      | true =>
          simp only [Bool.not_true, Bool.false_eq_true, ↓reduceIte, bitsPerChunk]
          exact ih hrest _ _
      | false =>
          simp only [Bool.not_false, ↓reduceIte, Bool.false_eq_true]
          by_cases hdone : len + 1 = n
          · simp [hdone, Scan.toState]
          · simp only [hdone, ↓reduceIte]
            exact ih hrest _ _

def chunkPages (is : List Nat) : List Nat := is.flatMap fun i => (List.range 64).map (i * 64 + ·)

theorem chunkLoop_toState (a : BitmapAllocator) (n : Nat) (is : List Nat) (start len : Nat) :
    (chunkLoop n a.bitmap is start len).toState =
      (chunkPages is).foldl (scanStep a.isUsed n) (.scanning start len) := by
  induction is generalizing start len with
  | nil => rfl
  | cons i is ih =>
      have hbits : ∀ b ∈ List.range bitsPerChunk, b < 64 := fun b hb => List.mem_range.mp hb
      have hchunk := bitLoop_toState a n i (List.range bitsPerChunk) hbits start len
      rw [chunkLoop, chunkPages, List.flatMap_cons, List.foldl_append, ← chunkPages]
      simp only [bitsPerChunk] at hchunk ⊢
      rw [← hchunk]
      generalize bitLoop n i (a.bitmap.getD i 0) (List.range 64) start len = r
      cases r with
      | found s => exact (foldl_scanStep_found _ s).symm
      | next start' len' => exact ih start' len'

theorem chunkPages_range' (c k : Nat) : chunkPages (List.range' c k) = List.range' (c * 64) (k * 64) := by
  induction k generalizing c with
  | zero => rfl
  | succ k ih =>
      rw [List.range'_succ, chunkPages, List.flatMap_cons, ← chunkPages, ih,
        ← List.range'_eq_map_range, show (c + 1) * 64 = c * 64 + 64 by omega,
        List.range'_append_1, show 64 + k * 64 = (k + 1) * 64 by omega]

theorem findNextContiguous_eq (a : BitmapAllocator) (n : Nat) :
    a.findNextContiguous n =
      runScan a.isUsed n
        (List.range' ((if n = 1 then a.lastSinglePageAllocation.getD 0 else 0) / 64 * 64)
          ((a.bitmap.length - (if n = 1 then a.lastSinglePageAllocation.getD 0 else 0) / 64) * 64))
        (if n = 1 then a.lastSinglePageAllocation.getD 0 else 0) 0 := by
  have h := chunkLoop_toState a n
    (List.range' ((if n = 1 then a.lastSinglePageAllocation.getD 0 else 0) / 64)
      (a.bitmap.length - (if n = 1 then a.lastSinglePageAllocation.getD 0 else 0) / 64))
    (if n = 1 then a.lastSinglePageAllocation.getD 0 else 0) 0
  rw [chunkPages_range'] at h
  unfold findNextContiguous runScan
  simp only [bitsPerChunk]
  rw [← h]
  cases chunkLoop _ _ _ _ _ <;> rfl

def HintBelowUsed (a : BitmapAllocator) : Prop :=
  ∀ h, a.lastSinglePageAllocation = some h → ∀ p < h, a.isUsed p = true

theorem runScan_from (a : BitmapAllocator) {n : Nat} (hn : 0 < n) {lo : Nat} (hlo : lo ≤ a.numPages) :
    FitResult a.isUsed n lo a.numPages
      (runScan a.isUsed n (List.range' lo (a.numPages - lo)) lo 0) := by
  have h := @runScan_spec a.isUsed n hn (a.numPages - lo) lo lo 0 (Nat.add_zero lo) hn
    (fun q hq hql => absurd hql (by omega))
  rwa [Nat.add_sub_cancel' hlo] at h

theorem findNextContiguous_spec {a : BitmapAllocator} (hhint : HintBelowUsed a) {n : Nat}
    (hn : 0 < n) : FitResult a.isUsed n 0 a.numPages (a.findNextContiguous n) := by
  have hnum : a.bitmap.length * 64 = a.numPages := by unfold numPages; omega
  rw [findNextContiguous_eq]
  by_cases hone : n = 1
  · cases hlast : a.lastSinglePageAllocation with
    | none =>
        simp only [hone, ↓reduceIte, Option.getD_none, Nat.zero_div, Nat.zero_mul,
          Nat.sub_zero, hnum]
        subst hone
        simpa using runScan_from a Nat.one_pos (Nat.zero_le _)
    | some h =>
        simp only [hone, ↓reduceIte, Option.getD_some]
        subst hone
        have hused := hhint h hlast
        by_cases hin : h / 64 < a.bitmap.length
        · have hh : h ≤ a.numPages := by unfold numPages; omega
          have hfrom := fitResult_zero_of_used_below Nat.one_pos hused
            (runScan_from a Nat.one_pos hh)
          by_cases hstart : h / 64 * 64 = h
          · rwa [hstart, show (a.bitmap.length - h / 64) * 64 = a.numPages - h by
              unfold numPages; omega]
          · rwa [runScan_skip (q := h) _ (by omega) (by omega)
              (fun r _ hr => hused r hr), show h / 64 * 64 + (a.bitmap.length - h / 64) * 64 - h =
                a.numPages - h by unfold numPages; omega]
        · -- the hint lies past the bitmap, whose pages are then all used
          rw [show a.bitmap.length - h / 64 = 0 by omega, Nat.zero_mul]
          intro s _ hsn hrun
          have := hrun s le_rfl (by omega)
          rw [hused s (by unfold numPages at hsn; omega)] at this
          exact Bool.noConfusion this
  · simp only [hone, ↓reduceIte, Nat.zero_div, Nat.zero_mul, Nat.sub_zero, hnum]
    simpa using runScan_from a hn (Nat.zero_le _)

/-! ## Marking ranges of pages -/

theorem isUsed_markUsed {a a' : BitmapAllocator} {page : Nat} (h : a.markUsed page = some a') :
    page < a.numPages ∧ a.isUsed page = false ∧ a'.bitmap.length = a.bitmap.length ∧
      a'.lastSinglePageAllocation = a.lastSinglePageAllocation ∧
      ∀ q, a'.isUsed q = (a.isUsed q || decide (page = q)) := by
  by_cases hp : page < a.numPages
  · have hidx : page / 64 < a.bitmap.length := by unfold numPages at hp; omega
    rw [markUsed_of_lt hp] at h
    cases hu : a.isUsed page with
    | true => simp [hu] at h
    | false =>
        simp only [hu, Bool.false_eq_true, ↓reduceIte, Option.some.injEq] at h
        subst h
        exact ⟨hp, rfl, List.length_set, rfl, fun q => bitAt_set_or_mask _ hidx q⟩
  · simp [markUsed_of_le (Nat.le_of_not_lt hp)] at h

theorem isUsed_markUnused {a a' : BitmapAllocator} {page : Nat} (h : a.markUnused page = some a') :
    page < a.numPages ∧ a.isUsed page = true ∧ a'.bitmap.length = a.bitmap.length ∧
      a'.lastSinglePageAllocation = a.lastSinglePageAllocation ∧
      ∀ q, a'.isUsed q = (a.isUsed q && !decide (page = q)) := by
  by_cases hp : page < a.numPages
  · have hidx : page / 64 < a.bitmap.length := by unfold numPages at hp; omega
    rw [markUnused_of_lt hp] at h
    cases hu : a.isUsed page with
    | false => simp [hu] at h
    | true =>
        simp only [hu, ↓reduceIte, Option.some.injEq] at h
        subst h
        exact ⟨hp, rfl, List.length_set, rfl, fun q => bitAt_set_and_not_mask _ hidx q⟩
  · simp [markUnused_of_le (Nat.le_of_not_lt hp)] at h

theorem markUsed_isSome {a : BitmapAllocator} {page : Nat} (hp : page < a.numPages)
    (hfree : a.isUsed page = false) : ∃ a', a.markUsed page = some a' := by
  rw [markUsed_of_lt hp, hfree]
  exact ⟨_, rfl⟩

theorem markUnused_isSome {a : BitmapAllocator} {page : Nat} (hp : page < a.numPages)
    (hused : a.isUsed page = true) : ∃ a', a.markUnused page = some a' := by
  rw [markUnused_of_lt hp, hused]
  exact ⟨_, rfl⟩

/-- One `mark_used` (`value = true`) or `mark_unused` (`value = false`): it succeeds exactly
on a page of the bitmap whose bit is not yet `value`, and it sets that bit and no other. -/
structure MarksPage (mark : BitmapAllocator → Nat → Option BitmapAllocator) (value : Bool) :
    Prop where
  spec : ∀ {a a' : BitmapAllocator} {page : Nat}, mark a page = some a' →
    page < a.numPages ∧ a.isUsed page = !value ∧ a'.bitmap.length = a.bitmap.length ∧
      a'.lastSinglePageAllocation = a.lastSinglePageAllocation ∧
      ∀ q, a'.isUsed q = if page = q then value else a.isUsed q
  isSome : ∀ {a : BitmapAllocator} {page : Nat}, page < a.numPages → a.isUsed page = !value →
    ∃ a', mark a page = some a'

theorem marksPage_markUsed : MarksPage markUsed true where
  spec := fun {_ _ page} h => by
    obtain ⟨inside, wasFree, length, hint, marked⟩ := isUsed_markUsed h
    refine ⟨inside, wasFree, length, hint, fun q => ?_⟩
    by_cases same : page = q <;> simp [marked, same]
  isSome := markUsed_isSome

theorem marksPage_markUnused : MarksPage markUnused false where
  spec := fun {_ _ page} h => by
    obtain ⟨inside, wasUsed, length, hint, marked⟩ := isUsed_markUnused h
    refine ⟨inside, wasUsed, length, hint, fun q => ?_⟩
    by_cases same : page = q <;> simp [marked, same]
  isSome := markUnused_isSome

section MarkRange

variable {mark : BitmapAllocator → Nat → Option BitmapAllocator} {value : Bool}

theorem MarksPage.foldlM_spec (marks : MarksPage mark value) (k : Nat) :
    ∀ {s : Nat} {a a' : BitmapAllocator}, (List.range' s k).foldlM mark a = some a' →
      (0 < k → s + k ≤ a.numPages) ∧ (∀ p, s ≤ p → p < s + k → a.isUsed p = !value) ∧
      a'.bitmap.length = a.bitmap.length ∧
      a'.lastSinglePageAllocation = a.lastSinglePageAllocation ∧
      ∀ q, a'.isUsed q = if s ≤ q ∧ q < s + k then value else a.isUsed q := by
  induction k with
  | zero =>
      intro s a a' h
      simp only [List.range'_zero, List.foldlM_nil, Option.pure_def, Option.some.injEq] at h
      subst h
      refine ⟨fun empty => absurd empty (Nat.lt_irrefl 0), fun p lo hi => by omega, rfl, rfl,
        fun q => ?_⟩
      rw [if_neg (by omega)]
  | succ k ih =>
      intro s a a' h
      rw [List.range'_succ, List.foldlM_cons, Option.bind_eq_bind] at h
      obtain ⟨a1, first, rest⟩ := Option.bind_eq_some_iff.mp h
      obtain ⟨inside, was, length1, hint1, marked1⟩ := marks.spec first
      obtain ⟨fits, wasRest, length, hint, marked⟩ := ih rest
      refine ⟨fun _ => ?_, fun p lo hi => ?_, length.trans length1, hint.trans hint1,
        fun q => ?_⟩
      · rcases Nat.eq_zero_or_pos k with rfl | nonempty
        · exact inside
        · have := fits nonempty
          unfold numPages at this ⊢
          omega
      · rcases Nat.eq_or_lt_of_le lo with rfl | later
        · exact was
        · have := wasRest p later (by omega)
          rwa [marked1, if_neg (by omega)] at this
      · rw [marked, marked1]
        by_cases here : s = q
        · subst here
          simp
        · have shifted : (s + 1 ≤ q ∧ q < s + 1 + k) ↔ (s ≤ q ∧ q < s + (k + 1)) := by omega
          simp only [here, if_false, shifted]

theorem MarksPage.foldlM_isSome (marks : MarksPage mark value) (k : Nat) :
    ∀ {s : Nat} {a : BitmapAllocator}, s + k ≤ a.numPages →
      (∀ p, s ≤ p → p < s + k → a.isUsed p = !value) →
      ∃ a', (List.range' s k).foldlM mark a = some a' := by
  induction k with
  | zero => intro s a _ _; exact ⟨a, rfl⟩
  | succ k ih =>
      intro s a fits was
      obtain ⟨a1, first⟩ := marks.isSome (show s < a.numPages by omega) (was s le_rfl (by omega))
      obtain ⟨-, -, length1, -, marked1⟩ := marks.spec first
      have fits1 : s + 1 + k ≤ a1.numPages := by unfold numPages at fits ⊢; omega
      obtain ⟨a', rest⟩ := ih fits1 fun p lo hi => by
        rw [marked1, if_neg (by omega)]
        exact was p (by omega) (by omega)
      exact ⟨a', by rw [List.range'_succ, List.foldlM_cons, first]; exact rest⟩

end MarkRange

theorem foldlM_markUsed (k : Nat) : ∀ {s : Nat} {a a' : BitmapAllocator},
    (List.range' s k).foldlM markUsed a = some a' →
      (0 < k → s + k ≤ a.numPages) ∧ (∀ p, s ≤ p → p < s + k → a.isUsed p = false) ∧
      a'.bitmap.length = a.bitmap.length ∧
      a'.lastSinglePageAllocation = a.lastSinglePageAllocation ∧
      ∀ q, a'.isUsed q = (a.isUsed q || decide (s ≤ q ∧ q < s + k)) := by
  intro s a a' h
  obtain ⟨fits, wasFree, length, hint, marked⟩ := marksPage_markUsed.foldlM_spec k h
  refine ⟨fits, wasFree, length, hint, fun q => ?_⟩
  by_cases inRange : s ≤ q ∧ q < s + k <;> simp [marked, inRange]

theorem foldlM_markUsed_isSome (k : Nat) : ∀ {s : Nat} {a : BitmapAllocator},
    s + k ≤ a.numPages → (∀ p, s ≤ p → p < s + k → a.isUsed p = false) →
      ∃ a', (List.range' s k).foldlM markUsed a = some a' :=
  marksPage_markUsed.foldlM_isSome k

theorem foldlM_markUnused (k : Nat) : ∀ {s : Nat} {a a' : BitmapAllocator},
    (List.range' s k).foldlM markUnused a = some a' →
      (0 < k → s + k ≤ a.numPages) ∧ (∀ p, s ≤ p → p < s + k → a.isUsed p = true) ∧
      a'.bitmap.length = a.bitmap.length ∧
      a'.lastSinglePageAllocation = a.lastSinglePageAllocation ∧
      ∀ q, a'.isUsed q = (a.isUsed q && !decide (s ≤ q ∧ q < s + k)) := by
  intro s a a' h
  obtain ⟨fits, wasUsed, length, hint, marked⟩ := marksPage_markUnused.foldlM_spec k h
  refine ⟨fits, wasUsed, length, hint, fun q => ?_⟩
  by_cases inRange : s ≤ q ∧ q < s + k <;> simp [marked, inRange]

theorem foldlM_markUnused_isSome (k : Nat) : ∀ {s : Nat} {a : BitmapAllocator},
    s + k ≤ a.numPages → (∀ p, s ≤ p → p < s + k → a.isUsed p = true) →
      ∃ a', (List.range' s k).foldlM markUnused a = some a' :=
  marksPage_markUnused.foldlM_isSome k

end BitmapAllocator
end RustOs.BitmapAlloc

namespace RustOs.BitmapAlloc
open WordBits FirstFit

namespace BitmapAllocator

/-! ## Allocating and freeing -/

@[simp] theorem isUsed_setHint (a : BitmapAllocator) (h : Option Nat) :
    ({ a with lastSinglePageAllocation := h } : BitmapAllocator).isUsed = a.isUsed := rfl

@[simp] theorem numPages_setHint (a : BitmapAllocator) (h : Option Nat) :
    ({ a with lastSinglePageAllocation := h } : BitmapAllocator).numPages = a.numPages := rfl

def inBlock (r : Option Nat) (n q : Nat) : Bool :=
  match r with
  | some s => decide (s ≤ q ∧ q < s + n)
  | none => false

theorem allocateContiguous_spec {a : BitmapAllocator} (hhint : HintBelowUsed a) {n : Nat}
    (hn : 0 < n) :
    ∃ a', a.allocateContiguous n = some (a.findNextContiguous n, a') ∧
      a'.bitmap.length = a.bitmap.length ∧
      a'.lastSinglePageAllocation =
        (if n = 1 then a.findNextContiguous n else a.lastSinglePageAllocation) ∧
      ∀ q, a'.isUsed q = (a.isUsed q || inBlock (a.findNextContiguous n) n q) := by
  have hfit := findNextContiguous_spec hhint hn
  unfold allocateContiguous
  rw [if_neg (Nat.pos_iff_ne_zero.mp hn)]
  cases hfind : a.findNextContiguous n with
  | none =>
      refine ⟨if n = 1 then { a with lastSinglePageAllocation := none } else a, ?_, ?_, ?_, ?_⟩
      · simp
      · split <;> rfl
      · split <;> rfl
      · intro q
        split <;> simp [inBlock]
  | some s =>
      rw [hfind] at hfit
      obtain ⟨-, hin, hrun, -⟩ := hfit
      let a1 : BitmapAllocator := if n = 1 then { a with lastSinglePageAllocation := some s } else a
      have ha1 : a1.isUsed = a.isUsed ∧ a1.numPages = a.numPages ∧
          a1.bitmap.length = a.bitmap.length := by
        by_cases hone : n = 1 <;> simp [a1, hone, numPages]
      obtain ⟨a', h'⟩ := foldlM_markUsed_isSome n (a := a1) (by rw [ha1.2.1]; exact hin)
        (fun p hp1 hp2 => by rw [ha1.1]; exact hrun p hp1 hp2)
      obtain ⟨-, -, hlen, hhint', hbits⟩ := foldlM_markUsed n h'
      refine ⟨a', by simp [a1] at h'; simp [h'], hlen.trans ha1.2.2, ?_, fun q => ?_⟩
      · rw [hhint']
        by_cases hone : n = 1 <;> simp [a1, hone]
      · rw [hbits, ha1.1]
        rfl

theorem allocateContiguous_eq {a a' : BitmapAllocator} (hhint : HintBelowUsed a) {n : Nat}
    (hn : 0 < n) {r : Option Nat} (h : a.allocateContiguous n = some (r, a')) :
    r = a.findNextContiguous n ∧ a'.bitmap.length = a.bitmap.length ∧
      a'.lastSinglePageAllocation = (if n = 1 then r else a.lastSinglePageAllocation) ∧
      ∀ q, a'.isUsed q = (a.isUsed q || inBlock r n q) := by
  obtain ⟨a'', h'', hlen, hhint', hbits⟩ := allocateContiguous_spec hhint hn
  rw [h''] at h
  obtain ⟨rfl, rfl⟩ := Prod.mk.inj (Option.some.inj h)
  exact ⟨rfl, hlen, hhint', hbits⟩

theorem hintBelowUsed_allocate {a a' : BitmapAllocator} (hhint : HintBelowUsed a) {n : Nat}
    (hn : 0 < n) {r : Option Nat} (h : a.allocateContiguous n = some (r, a')) :
    HintBelowUsed a' := by
  obtain ⟨hr, -, hlast, hbits⟩ := allocateContiguous_eq hhint hn h
  intro hint hsome p hp
  rw [hbits]
  by_cases hone : n = 1
  · -- the new hint is the page just found, the least free one
    rw [if_pos hone, hsome] at hlast
    have hfit := findNextContiguous_spec hhint hn
    rw [← hr, ← hlast] at hfit
    obtain ⟨-, -, -, hleast⟩ := hfit
    have hnot := hleast p (Nat.zero_le p) hp
    subst hone
    cases hu : a.isUsed p with
    | true => rfl
    | false =>
        exact absurd (fun q hq1 hq2 => by rwa [show q = p by omega]) hnot
  · rw [if_neg hone] at hlast
    rw [hhint hint (hlast ▸ hsome) p hp]
    rfl

theorem freeContiguous_eq {a a' : BitmapAllocator} {s k : Nat}
    (h : a.freeContiguous s k = some a') :
    0 < k ∧ s + k ≤ a.numPages ∧ (∀ p, s ≤ p → p < s + k → a.isUsed p = true) ∧
      a'.bitmap.length = a.bitmap.length ∧
      a'.lastSinglePageAllocation = a.lastSinglePageAllocation.map (fun l => min s l) ∧
      ∀ q, a'.isUsed q = (a.isUsed q && !decide (s ≤ q ∧ q < s + k)) := by
  unfold freeContiguous at h
  by_cases hk : k = 0
  · simp [hk] at h
  · rw [if_neg hk] at h
    cases hfold : (List.range' s k).foldlM markUnused a with
    | none => simp [hfold] at h
    | some a1 =>
        rw [hfold, Option.map_some, Option.some.injEq] at h
        obtain ⟨hin, hused, hlen, hhint, hbits⟩ := foldlM_markUnused k hfold
        subst h
        refine ⟨Nat.pos_of_ne_zero hk, hin (Nat.pos_of_ne_zero hk), hused, ?_, ?_, ?_⟩
        · split
          · split <;> exact hlen
          · exact hlen
        · rw [← hhint]
          split
          · rename_i l hl
            rw [hl]
            split
            · simp [Nat.min_eq_left (Nat.le_of_lt ‹s < l›)]
            · simp [Nat.min_eq_right (Nat.le_of_not_lt ‹¬s < l›), hl]
          · rename_i hl
            simp [hl]
        · intro q
          rw [← hbits q]
          split
          · split <;> rfl
          · rfl

theorem freeContiguous_isSome {a : BitmapAllocator} {s k : Nat} (hk : 0 < k)
    (hin : s + k ≤ a.numPages) (hused : ∀ p, s ≤ p → p < s + k → a.isUsed p = true) :
    ∃ a', a.freeContiguous s k = some a' := by
  obtain ⟨a1, h1⟩ := foldlM_markUnused_isSome k hin hused
  unfold freeContiguous
  rw [if_neg (Nat.pos_iff_ne_zero.mp hk), h1, Option.map_some]
  exact ⟨_, rfl⟩

theorem hintBelowUsed_free {a a' : BitmapAllocator} (hhint : HintBelowUsed a) {s k : Nat}
    (h : a.freeContiguous s k = some a') : HintBelowUsed a' := by
  obtain ⟨-, -, -, -, hlast, hbits⟩ := freeContiguous_eq h
  intro hint hsome p hp
  rw [hlast] at hsome
  obtain ⟨l, hl, rfl⟩ := Option.map_eq_some_iff.mp hsome
  rw [hbits, hhint l hl p (by omega)]
  simp only [Bool.true_and, Bool.not_eq_eq_eq_not, Bool.not_true, decide_eq_false_iff_not]
  omega

end BitmapAllocator
end RustOs.BitmapAlloc
