import Mathlib.Data.Nat.Bitwise
import Mathlib.Data.List.Basic

/-!
# Bitmaps stored as lists of 64-bit words

Bit `p` of a bitmap is bit `p % 64` of word `p / 64`, least significant bit first. The
lemmas below say how setting and clearing one bit with a one-hot mask acts on every bit,
and that two bitmaps of the same length with the same bits are equal.
-/

namespace WordBits

def mask (bit : Nat) : UInt64 := (1 : UInt64) <<< bit.toUInt64

def bitAt (words : List UInt64) (p : Nat) : Bool :=
  (words.getD (p / 64) 0).toNat.testBit (p % 64)

theorem mask_toNat {bit : Nat} (hb : bit < 64) : (mask bit).toNat = 2 ^ bit := by
  rw [mask, UInt64.toNat_shiftLeft]
  have h : (bit.toUInt64).toNat = bit := by simp; omega
  rw [h, Nat.mod_eq_of_lt hb, UInt64.toNat_one, Nat.one_shiftLeft]
  exact Nat.mod_eq_of_lt (Nat.pow_lt_pow_right (by decide) hb)

theorem testBit_ge (w : UInt64) {c : Nat} (hc : 64 ≤ c) : w.toNat.testBit c = false := by
  apply Nat.testBit_eq_false_of_lt
  calc w.toNat < 2 ^ 64 := w.toNat_lt
    _ ≤ 2 ^ c := Nat.pow_le_pow_right (by decide) hc

theorem testBit_not (w : UInt64) {c : Nat} (hc : c < 64) :
    (~~~w).toNat.testBit c = !w.toNat.testBit c := by
  rw [← UInt64.toNat_toBitVec, ← UInt64.toNat_toBitVec, BitVec.testBit_toNat,
    BitVec.testBit_toNat, UInt64.toBitVec_not, BitVec.getLsbD_not]
  simp [hc]

theorem word_ext {v w : UInt64} (h : ∀ c < 64, v.toNat.testBit c = w.toNat.testBit c) :
    v = w := by
  apply UInt64.toNat_inj.mp
  apply Nat.eq_of_testBit_eq
  intro c
  by_cases hc : c < 64
  · exact h c hc
  · rw [testBit_ge v (by omega), testBit_ge w (by omega)]

theorem and_mask_eq_zero (w : UInt64) {bit : Nat} (hb : bit < 64) :
    (w &&& mask bit == 0) = !w.toNat.testBit bit := by
  have key : w &&& mask bit = 0 ↔ w.toNat.testBit bit = false := by
    rw [← UInt64.toNat_inj, UInt64.toNat_and, mask_toNat hb, UInt64.toNat_zero]
    constructor
    · intro h
      simpa [Nat.testBit_and, Nat.testBit_two_pow] using congrArg (fun x => x.testBit bit) h
    · intro h
      apply Nat.eq_of_testBit_eq
      intro i
      simp only [Nat.testBit_and, Nat.testBit_two_pow, Nat.zero_testBit]
      by_cases hi : bit = i
      · subst hi
        simp [h]
      · simp [hi]
  by_cases h : w.toNat.testBit bit <;> simp_all

theorem testBit_or_mask (w : UInt64) {bit : Nat} (hb : bit < 64) (c : Nat) :
    (w ||| mask bit).toNat.testBit c = (w.toNat.testBit c || decide (bit = c)) := by
  rw [UInt64.toNat_or, mask_toNat hb, Nat.testBit_or, Nat.testBit_two_pow]

theorem testBit_and_not_mask (w : UInt64) {bit : Nat} (hb : bit < 64) {c : Nat} (hc : c < 64) :
    (w &&& ~~~mask bit).toNat.testBit c = (w.toNat.testBit c && !decide (bit = c)) := by
  rw [UInt64.toNat_and, Nat.testBit_and, testBit_not _ hc, mask_toNat hb, Nat.testBit_two_pow]

theorem getD_eq_getElem {words : List UInt64} {i : Nat} (hi : i < words.length) :
    words.getD i 0 = words[i] := by
  simp [List.getD_eq_getElem?_getD, hi]

theorem bitAt_of_length_le {words : List UInt64} {p : Nat} (hp : 64 * words.length ≤ p) :
    bitAt words p = false := by
  have : words.length ≤ p / 64 := by omega
  simp [bitAt, List.getD_eq_getElem?_getD, List.getElem?_eq_none this]

theorem bitAt_replicate_max (n p : Nat) :
    bitAt (List.replicate n 0xFFFF_FFFF_FFFF_FFFF) p = decide (p < 64 * n) := by
  by_cases inside : p / 64 < n
  · have word : (List.replicate n (0xFFFF_FFFF_FFFF_FFFF : UInt64)).getD (p / 64) 0 =
        0xFFFF_FFFF_FFFF_FFFF := by
      simp [List.getD_eq_getElem?_getD, inside]
    have allOnes : (0xFFFF_FFFF_FFFF_FFFF : UInt64).toNat = 2 ^ 64 - 1 := rfl
    rw [bitAt, word, allOnes, Nat.testBit_two_pow_sub_one]
    simp only [decide_eq_decide]
    omega
  · rw [bitAt_of_length_le (by simp; omega)]
    simp only [Bool.false_eq, decide_eq_false_iff_not]
    omega

theorem bitAt_set (words : List UInt64) {p : Nat} (hp : p / 64 < words.length) (w : UInt64)
    (q : Nat) :
    bitAt (words.set (p / 64) w) q =
      if q / 64 = p / 64 then w.toNat.testBit (q % 64) else bitAt words q := by
  unfold bitAt
  by_cases hq : q / 64 = p / 64
  · rw [if_pos hq, hq, getD_eq_getElem (by simpa using hp), List.getElem_set_self]
  · rw [if_neg hq, List.getD_eq_getElem?_getD, List.getD_eq_getElem?_getD,
      List.getElem?_set_ne (Ne.symm hq)]

theorem eq_of_same_word {p q : Nat} (hq : q / 64 = p / 64) : p % 64 = q % 64 ↔ p = q := by
  omega

theorem bitAt_set_or_mask (words : List UInt64) {p : Nat} (hp : p / 64 < words.length)
    (q : Nat) :
    bitAt (words.set (p / 64) (words.getD (p / 64) 0 ||| mask (p % 64))) q =
      (bitAt words q || decide (p = q)) := by
  rw [bitAt_set words hp]
  split
  · rename_i hq
    rw [testBit_or_mask _ (Nat.mod_lt _ (by decide)), bitAt, hq]
    simp only [eq_of_same_word hq]
  · rename_i hq
    have : p ≠ q := fun h => hq (h ▸ rfl)
    simp [this]

theorem bitAt_set_and_not_mask (words : List UInt64) {p : Nat} (hp : p / 64 < words.length)
    (q : Nat) :
    bitAt (words.set (p / 64) (words.getD (p / 64) 0 &&& ~~~mask (p % 64))) q =
      (bitAt words q && !decide (p = q)) := by
  rw [bitAt_set words hp]
  split
  · rename_i hq
    rw [testBit_and_not_mask _ (Nat.mod_lt _ (by decide)) (Nat.mod_lt _ (by decide)), bitAt, hq]
    simp only [eq_of_same_word hq]
  · rename_i hq
    have : p ≠ q := fun h => hq (h ▸ rfl)
    simp [this]

theorem words_ext {vs ws : List UInt64} (hlen : vs.length = ws.length)
    (h : ∀ p < 64 * vs.length, bitAt vs p = bitAt ws p) : vs = ws := by
  apply List.ext_getElem hlen
  intro i hv hw
  rw [← getD_eq_getElem hv, ← getD_eq_getElem hw]
  apply word_ext
  intro c hc
  have hp := h (64 * i + c) (by omega)
  have hdiv : (64 * i + c) / 64 = i := by omega
  have hmod : (64 * i + c) % 64 = c := by omega
  rwa [bitAt, bitAt, hdiv, hmod] at hp

/-! ## Fields of a word under disjoint masks -/

theorem or_and_of_and_eq_zero {x y m : UInt64} (h : y &&& m = 0) : (x ||| y) &&& m = x &&& m := by
  apply UInt64.toBitVec_inj.mp
  have h' := congrArg UInt64.toBitVec h
  simp only [UInt64.toBitVec_and, UInt64.toBitVec_or, UInt64.toBitVec_zero] at h' ⊢
  rw [BitVec.and_or_distrib_right, h', BitVec.or_zero]

theorem or_and_of_and_eq_self {x y m : UInt64} (h : y &&& m = y) :
    (x ||| y) &&& m = (x &&& m) ||| y := by
  apply UInt64.toBitVec_inj.mp
  have h' := congrArg UInt64.toBitVec h
  simp only [UInt64.toBitVec_and, UInt64.toBitVec_or] at h' ⊢
  rw [BitVec.and_or_distrib_right, h']

theorem and_and_of_and_eq_zero (x : UInt64) {m m' : UInt64} (h : m &&& m' = 0) :
    x &&& m &&& m' = 0 := by
  rw [UInt64.and_assoc, h, UInt64.and_zero]

theorem and_not_of_and_eq_zero {y m : UInt64} (h : y &&& m = 0) : y &&& ~~~m = y := by
  apply UInt64.toBitVec_inj.mp
  have h' := congrArg UInt64.toBitVec h
  simp only [UInt64.toBitVec_and, UInt64.toBitVec_not, UInt64.toBitVec_zero] at h' ⊢
  apply BitVec.eq_of_getLsbD_eq
  intro i hi
  have hbit := congrArg (fun v => v.getLsbD i) h'
  simp only [BitVec.getLsbD_and, BitVec.getLsbD_zero] at hbit
  simp only [BitVec.getLsbD_and, BitVec.getLsbD_not, hi, decide_true, Bool.true_and]
  cases hy : y.toBitVec.getLsbD i <;> simp_all

theorem or_and_self_right (x m : UInt64) : (x ||| m) &&& m = m := by
  apply UInt64.toBitVec_inj.mp
  simp only [UInt64.toBitVec_and, UInt64.toBitVec_or]
  apply BitVec.eq_of_getLsbD_eq
  intro i _
  simp only [BitVec.getLsbD_and, BitVec.getLsbD_or]
  cases x.toBitVec.getLsbD i <;> cases m.toBitVec.getLsbD i <;> rfl

theorem and_of_and_not_eq_zero {y m : UInt64} (h : y &&& ~~~m = 0) : y &&& m = y := by
  have := and_not_of_and_eq_zero h
  rwa [UInt64.not_not] at this

end WordBits
