import Mathlib

/-!
# The ring buffer

`crates/ring_buffer`: `RingBuffer<T, N>` keeps `N` optional slots and the index `next_free` of
the slot the next `push` writes. `len` reads the slot at `next_free`, which exists only when
`N ≥ 1`, so that bound is part of the type here (`NeZero N` for `new`). `get` and `get_mut` count
back from the newest element, with one index formula before `next_free` and another after it;
the iterator calls `get` for the indices below `len`. `get_mut` returns the element and what a
write through the returned reference does to the buffer.

The buffer stands for a bounded history, newest first, to which a push adds an element in front
and from which it drops the oldest beyond `N` (`pushBounded`). `Holds b q` says that `b` stands
for the history `q`: the slot `i` places behind `next_free` holds the `i`-th newest element, and
while the history is shorter than `N`, `next_free` is its length. `new` stands for the empty
history and `push` keeps `Holds`; under it `len`, `get`, `get_mut` and the iterator read the
history, and a write through `get_mut` writes into it.
-/

namespace RustOs

/-- `RingBuffer<T, N>`. -/
structure RingBuffer (T : Type) (N : Nat) where
  elements : Vector (Option T) N
  nextFree : Nat
  nextFree_lt : nextFree < N
  deriving DecidableEq, Repr

namespace RingBuffer

variable {T : Type} {N : Nat}

def new (N : Nat) [NeZero N] : RingBuffer T N :=
  ⟨Vector.replicate N none, 0, Nat.pos_of_neZero N⟩

def len (self : RingBuffer T N) : Nat :=
  have := self.nextFree_lt
  if self.elements[self.nextFree].isSome then N else self.nextFree

def push (self : RingBuffer T N) (element : T) : RingBuffer T N where
  elements := self.elements.set self.nextFree (some element) self.nextFree_lt
  nextFree := (self.nextFree + 1) % N
  nextFree_lt := Nat.mod_lt _ (Nat.lt_of_le_of_lt (Nat.zero_le _) self.nextFree_lt)

/-- The slot that `get` and `get_mut` read for `index`; `none` when `index` is out of bounds. -/
def slot (self : RingBuffer T N) (index : Nat) : Option (Fin N) :=
  if N ≤ index then none
  else if index < self.nextFree then
    some ⟨self.nextFree - index - 1, by have := self.nextFree_lt; omega⟩
  else some ⟨N - 1 - (index - self.nextFree), by have := self.nextFree_lt; omega⟩

def get (self : RingBuffer T N) (index : Nat) : Option T :=
  (self.slot index).bind fun k => getElem self.elements k k.isLt

/-- `get_mut`: the element, and the buffer after a write through the returned reference. -/
def getMut (self : RingBuffer T N) (index : Nat) : Option (T × (T → RingBuffer T N)) := do
  let k ← self.slot index
  let element ← getElem self.elements k k.isLt
  some (element, fun element => { self with elements := self.elements.set k (some element) k.isLt })

end RingBuffer

/-- `RingBufferIter`: the buffer and the index of the next element. -/
structure RingBufferIter (T : Type) (N : Nat) where
  buffer : RingBuffer T N
  index : Nat

def RingBuffer.iter {T : Type} {N : Nat} (self : RingBuffer T N) : RingBufferIter T N :=
  ⟨self, 0⟩

namespace RingBufferIter

variable {T : Type} {N : Nat}

def next (self : RingBufferIter T N) : Option T × RingBufferIter T N :=
  if self.buffer.len ≤ self.index then (none, self)
  else (self.buffer.get self.index, { self with index := self.index + 1 })

/-- The elements a `for` loop over the iterator visits, if it stops within `fuel` calls of
`next`; `len ≤ N`, so `N + 1` calls are enough. -/
def toList : Nat → RingBufferIter T N → List T
  | 0, _ => []
  | fuel + 1, self =>
      match self.next with
      | (none, _) => []
      | (some item, self) => item :: toList fuel self

end RingBufferIter

/-! ## The bounded history -/

/-- A push onto a history of at most `N` elements, newest first. -/
def pushBounded {T : Type} (N : Nat) (q : List T) (x : T) : List T := (x :: q).take N

theorem foldl_pushBounded {T : Type} (N : Nat) (xs : List T) :
    ∀ q, q.length ≤ N → xs.foldl (pushBounded N) q = (xs.reverse ++ q).take N := by
  induction xs with
  | nil => exact fun q short => by rw [List.foldl_nil, List.reverse_nil, List.nil_append,
      List.take_of_length_le short]
  | cons x xs ih =>
      intro q _
      rw [List.foldl_cons, ih _ (by simp only [pushBounded, List.length_take]; omega), pushBounded,
        List.reverse_cons,
        List.append_assoc, List.singleton_append]
      -- cutting the history first cuts nothing that the second cut keeps
      simp only [List.take_append, List.take_take, List.length_reverse]
      congr 2
      omega

namespace RingBuffer

variable {T : Type} {N : Nat}

/-! ## The slots behind `next_free` -/

def behind (b : RingBuffer T N) (i : Nat) : Nat := (b.nextFree + (N - 1 - i)) % N

theorem mod_of_lt_add {s : Nat} (h : s < N + N) : s % N = if s < N then s else s - N := by
  split
  · exact Nat.mod_eq_of_lt ‹_›
  · rw [Nat.mod_eq_sub_mod (by omega), Nat.mod_eq_of_lt (by omega)]

theorem behind_eq (b : RingBuffer T N) {i : Nat} (hi : i < N) :
    b.behind i = if i < b.nextFree then b.nextFree - i - 1 else b.nextFree + (N - 1 - i) := by
  have := b.nextFree_lt
  rw [behind, mod_of_lt_add (by omega)]
  split <;> split <;> omega

theorem behind_lt (b : RingBuffer T N) (i : Nat) : b.behind i < N :=
  Nat.mod_lt _ (Nat.lt_of_le_of_lt (Nat.zero_le _) b.nextFree_lt)

theorem behind_inj (b : RingBuffer T N) {i j : Nat} (hi : i < N) (hj : j < N)
    (h : b.behind i = b.behind j) : i = j := by
  rw [behind_eq b hi, behind_eq b hj] at h
  split at h <;> split at h <;> omega

theorem slot_eq (b : RingBuffer T N) (index : Nat) :
    (b.slot index).map Fin.val = if index < N then some (b.behind index) else none := by
  unfold slot
  by_cases out : N ≤ index
  · rw [if_pos out, if_neg (by omega)]
    rfl
  · have inside : index < N := by omega
    rw [if_neg out, if_pos inside, behind_eq b inside]
    by_cases before : index < b.nextFree
    · rw [if_pos before, if_pos before]
      rfl
    · have := b.nextFree_lt
      rw [if_neg before, if_neg before, Option.map_some, Option.some.injEq]
      show N - 1 - (index - b.nextFree) = _
      omega

theorem slot_eq_none {b : RingBuffer T N} {index : Nat} (h : N ≤ index) : b.slot index = none := by
  simp [slot, h]

theorem slot_eq_some (b : RingBuffer T N) {index : Nat} (h : index < N) :
    b.slot index = some ⟨b.behind index, b.behind_lt index⟩ := by
  have hmap := b.slot_eq index
  rw [if_pos h] at hmap
  obtain ⟨k, hk, hval⟩ := Option.map_eq_some_iff.mp hmap
  rw [hk]
  exact congrArg some (Fin.ext hval)

/-! ## The buffer stands for a history -/

structure Holds (b : RingBuffer T N) (q : List T) : Prop where
  length_le : q.length ≤ N
  nextFree_eq : q.length < N → b.nextFree = q.length
  behind_eq : ∀ i < N, b.elements[b.behind i]? = some q[i]?

theorem holds_new [NeZero N] : Holds (new N : RingBuffer T N) [] where
  length_le := Nat.zero_le _
  nextFree_eq _ := rfl
  behind_eq i _ := by
    rw [new, Vector.getElem?_replicate, if_pos (behind_lt _ i)]
    rfl

section Holds

variable {b : RingBuffer T N} {q : List T}

theorem Holds.push (h : Holds b q) (x : T) : Holds (b.push x) (pushBounded N q x) := by
  have := b.nextFree_lt
  -- the new `next_free` is one on, and the slot `i` behind it is the old slot `i - 1`
  have nextFree_push : (b.push x).nextFree = if b.nextFree + 1 < N then b.nextFree + 1 else 0 := by
    change (b.nextFree + 1) % N = _
    rw [mod_of_lt_add (by omega)]
    split <;> omega
  have behind_push : ∀ i < N, (b.push x).behind i = (b.nextFree + N - i) % N := by
    intro i hi
    simp only [behind, nextFree_push]
    split
    · congr 1
      omega
    · rw [show b.nextFree + N - i = 0 + (N - 1 - i) + N by omega, Nat.add_mod_right]
  refine ⟨List.length_take_le _ _, fun short => ?_, fun i hi => ?_⟩
  · simp only [pushBounded, List.length_take, List.length_cons] at short
    rw [nextFree_push, h.nextFree_eq (by omega), if_pos (by omega)]
    simp [pushBounded]
    omega
  · rw [behind_push i hi]
    change (b.elements.set b.nextFree (some x) this)[_]? = _
    rw [Vector.getElem?_set]
    rcases Nat.eq_zero_or_pos i with rfl | pos
    · rw [Nat.sub_zero, Nat.add_mod_right, Nat.mod_eq_of_lt this, if_pos rfl]
      simp [pushBounded, hi]
    · have older : (b.nextFree + N - i) % N = b.behind (i - 1) := by
        rw [behind]
        congr 1
        omega
      have other : b.nextFree ≠ b.behind (i - 1) := by
        have self : b.behind (N - 1) = b.nextFree := by
          rw [behind, Nat.sub_self, Nat.add_zero, Nat.mod_eq_of_lt this]
        rw [← self]
        intro same
        have := behind_inj b (by omega) (by omega) same
        omega
      rw [older, if_neg other, h.behind_eq (i - 1) (by omega)]
      simp only [pushBounded, List.getElem?_take, if_pos hi]
      obtain ⟨k, rfl⟩ : ∃ k, i = k + 1 := ⟨i - 1, by omega⟩
      simp

theorem Holds.len (h : Holds b q) : b.len = q.length := by
  have := b.nextFree_lt
  have atNextFree : b.elements[b.nextFree]? = some q[N - 1]? := by
    have self : b.behind (N - 1) = b.nextFree := by
      rw [behind, Nat.sub_self, Nat.add_zero, Nat.mod_eq_of_lt this]
    rw [← self]
    exact h.behind_eq (N - 1) (by omega)
  rw [Vector.getElem?_eq_getElem this, Option.some.injEq] at atNextFree
  dsimp only [RingBuffer.len]
  rw [atNextFree]
  have := h.length_le
  by_cases full : q.length = N
  · have taken : q[N - 1]?.isSome = true := by
      rw [List.getElem?_eq_getElem (by omega)]
      rfl
    rw [if_pos taken, full]
  · have empty : q[N - 1]?.isSome = false := by
      rw [List.getElem?_eq_none (by omega)]
      rfl
    rw [if_neg (by rw [empty]; decide), h.nextFree_eq (by omega)]

theorem Holds.get (h : Holds b q) (index : Nat) : b.get index = q[index]? := by
  by_cases inside : index < N
  · rw [RingBuffer.get, slot_eq_some b inside, Option.bind_some]
    have := h.behind_eq index inside
    rw [Vector.getElem?_eq_getElem (behind_lt b index), Option.some.injEq] at this
    exact this
  · rw [RingBuffer.get, slot_eq_none (by omega), Option.bind_none,
      List.getElem?_eq_none (by have := h.length_le; omega)]

theorem Holds.getMut (h : Holds b q) (index : Nat) :
    (b.getMut index).map Prod.fst = q[index]? := by
  rw [← h.get index, RingBuffer.getMut, RingBuffer.get]
  cases b.slot index with
  | none => rfl
  | some k =>
      simp only [Option.bind_eq_bind, Option.bind_some]
      cases b.elements[k] <;> rfl

theorem Holds.write (h : Holds b q) {index : Nat} {x : T} {write : T → RingBuffer T N}
    (found : b.getMut index = some (x, write)) (y : T) : Holds (write y) (q.set index y) := by
  have inside : index < N := by
    by_contra out
    rw [RingBuffer.getMut, slot_eq_none (by omega)] at found
    cases found
  rw [RingBuffer.getMut, slot_eq_some b inside] at found
  simp only [Option.bind_eq_bind, Option.bind_some, Option.bind_eq_some_iff,
    Option.some.injEq, Prod.mk.injEq] at found
  obtain ⟨element, stored, -, rfl⟩ := found
  refine ⟨by simpa using h.length_le,
    fun short => by simpa using h.nextFree_eq (by simpa using short), fun i hi => ?_⟩
  change (b.elements.set (b.behind index) (some y) (b.behind_lt index))[b.behind i]? = _
  rw [Vector.getElem?_set, List.getElem?_set, h.behind_eq i hi]
  by_cases same : index = i
  · subst same
    -- the element was there, so `index` is inside the history
    have known := h.get index
    rw [RingBuffer.get, slot_eq_some b inside, Option.bind_some] at known
    have present := (List.getElem?_eq_some_iff.mp (known.symm.trans stored)).1
    rw [if_pos rfl, if_pos rfl, if_pos present]
  · have apart : b.behind index ≠ b.behind i := fun e => same (behind_inj b inside hi e)
    rw [if_neg apart, if_neg same]

end Holds

end RingBuffer

namespace RingBufferIter

variable {T : Type} {N : Nat} {b : RingBuffer T N} {q : List T}

theorem toList_of_holds (h : RingBuffer.Holds b q) :
    ∀ fuel index, q.length - index < fuel → toList fuel ⟨b, index⟩ = q.drop index
  | 0, _, enough => absurd enough (Nat.not_lt_zero _)
  | fuel + 1, index, enough => by
      simp only [toList, next, h.len]
      by_cases done : q.length ≤ index
      · rw [if_pos done, List.drop_eq_nil_of_le done]
      · rw [if_neg done, h.get, List.getElem?_eq_getElem (by omega)]
        dsimp only
        rw [toList_of_holds h fuel (index + 1) (by omega)]
        exact (List.drop_eq_getElem_cons (by omega)).symm

end RingBufferIter

namespace RingBuffer

variable {T : Type} {N : Nat}

theorem Holds.toList_iter {b : RingBuffer T N} {q : List T} (h : Holds b q) :
    b.iter.toList (N + 1) = q := by
  rw [iter, RingBufferIter.toList_of_holds h (N + 1) 0 (by have := h.length_le; omega),
    List.drop_zero]

theorem holds_pushes (N : Nat) [NeZero N] (xs : List T) :
    Holds (xs.foldl push (new N)) (xs.reverse.take N) := by
  rw [← List.append_nil xs.reverse, ← foldl_pushBounded N xs [] (Nat.zero_le N)]
  -- the buffer and the history take the same pushes
  suffices ∀ (b : RingBuffer T N) (q : List T), Holds b q →
      Holds (xs.foldl push b) (xs.foldl (pushBounded N) q) from this _ _ holds_new
  induction xs with
  | nil => exact fun _ _ h => h
  | cons x xs ih => exact fun b q h => ih _ _ (h.push x)

/-- After any pushes onto a new buffer, `len` is the number of elements kept, `get` and
`get_mut` return the `i`-th newest element below `len` and nothing from `len` on, and the
iterator yields the kept elements, newest first. -/
theorem push_refines (N : Nat) [NeZero N] (xs : List T) :
    (xs.foldl push (new N)).len = min xs.length N ∧
      (∀ i < (xs.foldl push (new N)).len,
        (xs.foldl push (new N)).get i = xs[xs.length - 1 - i]? ∧
        ((xs.foldl push (new N)).getMut i).map Prod.fst = xs[xs.length - 1 - i]?) ∧
      (∀ i, (xs.foldl push (new N)).len ≤ i →
        (xs.foldl push (new N)).get i = none ∧ (xs.foldl push (new N)).getMut i = none) ∧
      (xs.foldl push (new N)).iter.toList (N + 1) = xs.reverse.take N := by
  set b := xs.foldl push (new N)
  have h : Holds b (xs.reverse.take N) := holds_pushes N xs
  have len : b.len = min xs.length N := by
    rw [h.len, List.length_take, List.length_reverse, Nat.min_comm]
  have newest : ∀ i < b.len, (xs.reverse.take N)[i]? = xs[xs.length - 1 - i]? := by
    intro i hi
    rw [List.getElem?_take, if_pos (by omega), List.getElem?_reverse (by omega)]
  refine ⟨len, fun i hi => ⟨?_, ?_⟩, fun i hi => ⟨?_, ?_⟩, h.toList_iter⟩
  · rw [h.get, newest i hi]
  · rw [h.getMut, newest i hi]
  · rw [h.get, List.getElem?_eq_none (by rw [← h.len]; exact hi)]
  · have := h.getMut i
    rw [List.getElem?_eq_none (by rw [← h.len]; exact hi)] at this
    exact Option.map_eq_none_iff.mp this

/-- The crate's own test: four pushes into a buffer of three. -/
theorem push_refines_four : NeZero 3 ∧
    ([1, 2, 3, 4].foldl push (new 3 : RingBuffer Nat 3)).len = min 4 3 ∧
      (∀ i < ([1, 2, 3, 4].foldl push (new 3 : RingBuffer Nat 3)).len,
        ([1, 2, 3, 4].foldl push (new 3 : RingBuffer Nat 3)).get i = [1, 2, 3, 4][4 - 1 - i]? ∧
        (([1, 2, 3, 4].foldl push (new 3 : RingBuffer Nat 3)).getMut i).map Prod.fst =
          [1, 2, 3, 4][4 - 1 - i]?) ∧
      (∀ i, ([1, 2, 3, 4].foldl push (new 3 : RingBuffer Nat 3)).len ≤ i →
        ([1, 2, 3, 4].foldl push (new 3 : RingBuffer Nat 3)).get i = none ∧
          ([1, 2, 3, 4].foldl push (new 3 : RingBuffer Nat 3)).getMut i = none) ∧
      ([1, 2, 3, 4].foldl push (new 3 : RingBuffer Nat 3)).iter.toList (3 + 1) = [4, 3, 2] :=
  ⟨inferInstance, push_refines 3 [1, 2, 3, 4]⟩

end RingBuffer

end RustOs
