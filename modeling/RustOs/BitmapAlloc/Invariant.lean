import RustOs.BitmapAlloc.Spec
import RustOs.Lib.Reach

/-!
# One allocator and the client that uses it

The client of the allocator tests of `alloc.rs`: it allocates blocks of one page or more and
frees blocks it was given and has not freed yet. `ClientInv` says what holds after any run:
the bitmap is the initial one with the live blocks set, the live blocks are inside the
bitmap, apart from each other and from the pages used initially, and every page below the
single-page hint is used.
-/

namespace RustOs.BitmapAlloc
open WordBits FirstFit BitmapAllocator

/-- The allocator and the blocks `(start, num_pages)` handed out and not freed yet. -/
structure Client where
  allocator : BitmapAllocator
  live : List (Nat × Nat)

def inRange (b : Nat × Nat) (p : Nat) : Bool := decide (b.1 ≤ p ∧ p < b.1 + b.2)

def covers (live : List (Nat × Nat)) (p : Nat) : Bool := live.any fun b => inRange b p

def Apart (b b' : Nat × Nat) : Prop := b.1 + b.2 ≤ b'.1 ∨ b'.1 + b'.2 ≤ b.1

inductive ClientStep : Client → Client → Prop
  | allocate {a a' : BitmapAllocator} {live : List (Nat × Nat)} {n : Nat} {r : Option Nat}
      (hn : 0 < n) (h : a.allocateContiguous n = some (r, a')) :
      ClientStep ⟨a, live⟩ ⟨a', match r with | some s => (s, n) :: live | none => live⟩
  | free {a a' : BitmapAllocator} {live : List (Nat × Nat)} {s n : Nat} (hb : (s, n) ∈ live)
      (h : a.freeContiguous s n = some a') :
      ClientStep ⟨a, live⟩ ⟨a', live.erase (s, n)⟩

def initClient (bitmap : List UInt64) : Client := ⟨BitmapAllocator.new bitmap, []⟩

structure ClientInv (init : List UInt64) (c : Client) : Prop where
  length : c.allocator.bitmap.length = init.length
  bits : ∀ p, c.allocator.isUsed p = (bitAt init p || covers c.live p)
  inside : ∀ b ∈ c.live, 0 < b.2 ∧ b.1 + b.2 ≤ 64 * init.length
  apartInit : ∀ b ∈ c.live, ∀ p, inRange b p = true → bitAt init p = false
  apart : c.live.Pairwise Apart
  hint : c.allocator.HintBelowUsed

theorem covers_cons (b : Nat × Nat) (live : List (Nat × Nat)) (p : Nat) :
    covers (b :: live) p = (inRange b p || covers live p) := by
  simp [covers]

theorem covers_iff {live : List (Nat × Nat)} {p : Nat} :
    covers live p = true ↔ ∃ b ∈ live, inRange b p = true := by
  simp [covers]

theorem not_inRange_of_apart {b b' : Nat × Nat} (h : Apart b b') {p : Nat}
    (hp : inRange b p = true) : inRange b' p = false := by
  simp only [inRange, decide_eq_true_eq] at hp
  simp only [inRange, decide_eq_false_iff_not]
  unfold Apart at h
  omega

theorem covers_erase {live : List (Nat × Nat)} (hapart : live.Pairwise Apart) {b : Nat × Nat}
    (hb : b ∈ live) (p : Nat) : covers (live.erase b) p = (covers live p && !inRange b p) := by
  induction live with
  | nil => simp at hb
  | cons c live ih =>
      rw [List.pairwise_cons] at hapart
      by_cases hcb : c = b
      · subst hcb
        rw [List.erase_cons_head, covers_cons]
        cases hin : inRange c p with
        | true =>
            have : covers live p = false := by
              rw [← Bool.not_eq_true, covers_iff]
              rintro ⟨b', hb', hp'⟩
              rw [not_inRange_of_apart (hapart.1 b' hb') hin] at hp'
              exact Bool.noConfusion hp'
            simp [this]
        | false => simp
      · have hb' : b ∈ live := by
          rcases List.mem_cons.mp hb with h | h
          · exact absurd h.symm hcb
          · exact h
        rw [List.erase_cons_tail (by simpa using hcb), covers_cons, covers_cons, ih hapart.2 hb']
        cases hin : inRange b p with
        | false => simp
        | true =>
            have : inRange c p = false :=
              not_inRange_of_apart (Apart.symm_of (hapart.1 b hb')) hin
            simp [this]
where
  Apart.symm_of {b b' : Nat × Nat} (h : Apart b b') : Apart b' b := Or.symm h

theorem clientInv_init (init : List UInt64) : ClientInv init (initClient init) where
  length := rfl
  bits p := by simp [initClient, BitmapAllocator.new, isUsed, covers]
  inside b hb := by simp [initClient] at hb
  apartInit b hb := by simp [initClient] at hb
  apart := List.Pairwise.nil
  hint h hh := by simp [initClient, BitmapAllocator.new] at hh

theorem clientInv_allocate {init : List UInt64} {a a' : BitmapAllocator}
    {live : List (Nat × Nat)} {n : Nat} {r : Option Nat} (hinv : ClientInv init ⟨a, live⟩)
    (hn : 0 < n) (h : a.allocateContiguous n = some (r, a')) :
    ClientInv init ⟨a', match r with | some s => (s, n) :: live | none => live⟩ := by
  obtain ⟨hr, hlen, -, hbits⟩ := allocateContiguous_eq hinv.hint hn h
  have hfit := findNextContiguous_spec hinv.hint hn
  rw [← hr] at hfit
  have hhint := hintBelowUsed_allocate hinv.hint hn h
  cases r with
  | none =>
      exact { hinv with
        length := hlen.trans hinv.length
        bits := fun p => by rw [hbits, hinv.bits]; simp [inBlock]
        hint := hhint }
  | some s =>
      obtain ⟨-, hin, hrun, -⟩ := hfit
      -- the block was free: neither used initially nor covered by a live block
      have hfree : ∀ p, inRange (s, n) p = true → bitAt init p = false ∧ covers live p = false := by
        intro p hp
        simp only [inRange, decide_eq_true_eq] at hp
        have := hrun p hp.1 hp.2
        rw [hinv.bits] at this
        exact Bool.or_eq_false_iff.mp this
      refine ⟨hlen.trans hinv.length, fun p => ?_, ?_, ?_, ?_, hhint⟩
      · rw [hbits, hinv.bits, covers_cons]
        simp only [inBlock, inRange]
        cases bitAt init p <;> cases covers live p <;> simp [Bool.or_comm]
      · intro b hb
        rcases List.mem_cons.mp hb with rfl | hb
        · exact ⟨hn, by have := hinv.length; unfold numPages at hin; omega⟩
        · exact hinv.inside b hb
      · intro b hb p hp
        rcases List.mem_cons.mp hb with rfl | hb
        · exact (hfree p hp).1
        · exact hinv.apartInit b hb p hp
      · refine List.Pairwise.cons (fun b hb => ?_) hinv.apart
        -- a live block is covered, the new one free, so they share no page
        by_contra hnot
        have hp : inRange (s, n) (max s b.1) = true ∧ inRange b (max s b.1) = true := by
          have := (hinv.inside b hb).1
          simp only [inRange, decide_eq_true_eq]
          unfold Apart at hnot
          omega
        have := (hfree _ hp.1).2
        rw [← Bool.not_eq_true, covers_iff] at this
        exact this ⟨b, hb, hp.2⟩

theorem clientInv_free {init : List UInt64} {a a' : BitmapAllocator} {live : List (Nat × Nat)}
    {s n : Nat} (hinv : ClientInv init ⟨a, live⟩) (hb : (s, n) ∈ live)
    (h : a.freeContiguous s n = some a') : ClientInv init ⟨a', live.erase (s, n)⟩ := by
  obtain ⟨-, -, -, hlen, -, hbits⟩ := freeContiguous_eq h
  have hsub := List.erase_sublist (a := (s, n)) (l := live)
  refine ⟨hlen.trans hinv.length, fun p => ?_, fun b hb' => hinv.inside b (hsub.subset hb'),
    fun b hb' => hinv.apartInit b (hsub.subset hb'), hinv.apart.sublist hsub,
    hintBelowUsed_free hinv.hint h⟩
  rw [hbits, hinv.bits, covers_erase hinv.apart hb]
  cases hin : inRange (s, n) p with
  | true =>
      have hp : s ≤ p ∧ p < s + n := by simpa [inRange] using hin
      simp [hinv.apartInit _ hb p hin, hp]
  | false =>
      simp only [inRange, decide_eq_false_iff_not] at hin
      simp [hin]

theorem clientInv_step {init : List UInt64} {c c' : Client} (hinv : ClientInv init c)
    (h : ClientStep c c') : ClientInv init c' := by
  cases h with
  | allocate hn h => exact clientInv_allocate hinv hn h
  | free hb h => exact clientInv_free hinv hb h

theorem clientInv_reachable {init : List UInt64} {c : Client}
    (hc : Relation.ReflTransGen ClientStep (initClient init) c) : ClientInv init c :=
  Reach.invariant (clientInv_init init) (fun _ _ hinv h => clientInv_step hinv h) hc

/-! ## The allocator never panics, and keeps the bitmap equal to the live blocks -/

theorem client_safe (init : List UInt64) {c : Client}
    (hc : Relation.ReflTransGen ClientStep (initClient init) c) :
    (c.allocator.bitmap.length = init.length ∧
      ∀ p, c.allocator.isUsed p = (bitAt init p || covers c.live p)) ∧
    (c.live = [] → c.allocator.bitmap = init) ∧
    (∀ n, 0 < n → ∃ r a', c.allocator.allocateContiguous n = some (r, a') ∧
      ∀ s, r = some s → s + n ≤ 64 * init.length ∧
        (∀ p, s ≤ p → p < s + n → c.allocator.isUsed p = false) ∧
        ∀ b ∈ c.live, Apart (s, n) b) ∧
    (∀ b ∈ c.live, ∃ a', c.allocator.freeContiguous b.1 b.2 = some a') := by
  have hinv := clientInv_reachable hc
  refine ⟨⟨hinv.length, hinv.bits⟩, fun hnil => ?_, fun n hn => ?_, fun b hb => ?_⟩
  · -- with no live block left, the bitmap has the initial bits, hence the initial words
    apply words_ext hinv.length
    intro p _
    have := hinv.bits p
    rwa [hnil, covers, List.any_nil, Bool.or_false] at this
  · obtain ⟨a', h, -, -, -⟩ := allocateContiguous_spec hinv.hint hn
    refine ⟨_, a', h, fun s hs => ?_⟩
    have hfit := findNextContiguous_spec hinv.hint hn
    rw [hs] at hfit
    obtain ⟨-, hin, hrun, -⟩ := hfit
    refine ⟨by rw [← hinv.length]; exact hin, hrun, fun b hb => ?_⟩
    by_contra hnot
    have hpos := (hinv.inside b hb).1
    have hp := hrun (max s b.1) (by omega) (by unfold Apart at hnot; omega)
    rw [hinv.bits] at hp
    have hcov := (Bool.or_eq_false_iff.mp hp).2
    rw [← Bool.not_eq_true, covers_iff] at hcov
    exact hcov ⟨b, hb, by simp only [inRange, decide_eq_true_eq]; unfold Apart at hnot; omega⟩
  · obtain ⟨hpos, hin⟩ := hinv.inside b hb
    refine freeContiguous_isSome hpos (by unfold numPages; rw [hinv.length]; exact hin)
      fun p hp1 hp2 => ?_
    rw [hinv.bits, covers_iff.mpr ⟨b, hb, by simp [inRange, hp1, hp2]⟩, Bool.or_true]

theorem allocate_two_reachable :
    Relation.ReflTransGen ClientStep (initClient [0]) ⟨⟨[3], none⟩, [(0, 2)]⟩ :=
  Relation.ReflTransGen.single (ClientStep.allocate (r := some 0) (by decide) (by decide))

theorem client_safe_after_allocate :
    Relation.ReflTransGen ClientStep (initClient [0]) ⟨⟨[3], none⟩, [(0, 2)]⟩ ∧
      ((([3] : List UInt64).length = ([0] : List UInt64).length ∧
        ∀ p, (⟨[3], none⟩ : BitmapAllocator).isUsed p = (bitAt [0] p || covers [(0, 2)] p)) ∧
      (([(0, 2)] : List (Nat × Nat)) = [] → ([3] : List UInt64) = [0]) ∧
      (∀ n, 0 < n → ∃ r a', (⟨[3], none⟩ : BitmapAllocator).allocateContiguous n = some (r, a') ∧
        ∀ s, r = some s → s + n ≤ 64 * ([0] : List UInt64).length ∧
          (∀ p, s ≤ p → p < s + n → (⟨[3], none⟩ : BitmapAllocator).isUsed p = false) ∧
          ∀ b ∈ ([(0, 2)] : List (Nat × Nat)), Apart (s, n) b) ∧
      (∀ b ∈ ([(0, 2)] : List (Nat × Nat)),
        ∃ a', (⟨[3], none⟩ : BitmapAllocator).freeContiguous b.1 b.2 = some a')) :=
  ⟨allocate_two_reachable, client_safe [0] allocate_two_reachable⟩

/-! ## First fit -/

theorem allocate_first_fit (init : List UInt64) {c : Client}
    (hc : Relation.ReflTransGen ClientStep (initClient init) c) {n : Nat} (hn : 0 < n) :
    (∃ r a', c.allocator.allocateContiguous n = some (r, a') ∧
      ((∃ s, r = some s) ↔ ∃ s, s + n ≤ c.allocator.numPages ∧ FreeRun c.allocator.isUsed n s) ∧
      ∀ s, r = some s → s + n ≤ c.allocator.numPages ∧ FreeRun c.allocator.isUsed n s ∧
        ∀ t < s, ¬ FreeRun c.allocator.isUsed n t) ∧
    (n = 1 → c.allocator.findNextContiguous 1 =
      ({ c.allocator with lastSinglePageAllocation := none } : BitmapAllocator).findNextContiguous 1) ∧
    c.allocator.HintBelowUsed := by
  have hinv := clientInv_reachable hc
  have hfit := findNextContiguous_spec hinv.hint hn
  obtain ⟨a', h, -, -, -⟩ := allocateContiguous_spec hinv.hint hn
  refine ⟨⟨_, a', h, ⟨fun ⟨s, hs⟩ => ?_, fun ⟨s, hin, hrun⟩ => ?_⟩, fun s hs => ?_⟩, fun hone => ?_,
    hinv.hint⟩
  · rw [hs] at hfit
    exact ⟨s, hfit.2.1, hfit.2.2.1⟩
  · cases hr : c.allocator.findNextContiguous n with
    | none =>
        rw [hr] at hfit
        exact absurd hrun (hfit s (Nat.zero_le s) hin)
    | some s' => exact ⟨s', rfl⟩
  · rw [hs] at hfit
    exact ⟨hfit.2.1, hfit.2.2.1, fun t ht => hfit.2.2.2 t (Nat.zero_le t) ht⟩
  · -- both searches answer the first fit of the same bitmap
    subst hone
    have hnone : HintBelowUsed { c.allocator with lastSinglePageAllocation := none } := by
      intro h hh
      simp at hh
    have hfit' := findNextContiguous_spec hnone hn
    rw [isUsed_setHint, numPages_setHint] at hfit'
    exact fitResult_unique hfit hfit'

theorem allocate_first_fit_after_allocate :
    Relation.ReflTransGen ClientStep (initClient [0]) ⟨⟨[3], none⟩, [(0, 2)]⟩ ∧ 0 < 1 ∧
    ((∃ r a', (⟨[3], none⟩ : BitmapAllocator).allocateContiguous 1 = some (r, a') ∧
      ((∃ s, r = some s) ↔
        ∃ s, s + 1 ≤ (⟨[3], none⟩ : BitmapAllocator).numPages ∧
          FreeRun (⟨[3], none⟩ : BitmapAllocator).isUsed 1 s) ∧
      ∀ s, r = some s → s + 1 ≤ (⟨[3], none⟩ : BitmapAllocator).numPages ∧
        FreeRun (⟨[3], none⟩ : BitmapAllocator).isUsed 1 s ∧
        ∀ t < s, ¬ FreeRun (⟨[3], none⟩ : BitmapAllocator).isUsed 1 t) ∧
    (1 = 1 → (⟨[3], none⟩ : BitmapAllocator).findNextContiguous 1 =
      ({ (⟨[3], none⟩ : BitmapAllocator) with lastSinglePageAllocation := none } :
        BitmapAllocator).findNextContiguous 1) ∧
    (⟨[3], none⟩ : BitmapAllocator).HintBelowUsed) :=
  ⟨allocate_two_reachable, Nat.one_pos, allocate_first_fit [0] allocate_two_reachable Nat.one_pos⟩

end RustOs.BitmapAlloc
