import RustOs.Virtio.Ops

/-!
# Descriptor chains

`add_descriptor` hands out the slots `raw_next_index`, `raw_next_index + 1`, … modulo the queue
size, one per element of the chain, and links each slot to the next one. `ChainAt` says that a
chain lies in the table from a raw index on, as `add_descriptor` left it; a chain that lies in
the table reads back through `VirtQueueDescriptorChainIterator`. A chain no longer than the
queue takes distinct slots, and `add_descriptor` changes no other slot.
-/

namespace RustOs.Virtio

/-- What `add_descriptor` leaves in the slot of element `j` of a chain of `n` elements whose
first descriptor has the raw index `start`: each element but the last continues at the next
slot. -/
def chainDescriptor (Q start n j : Nat) (d : ChainedVirtQueueDescriptorElem) :
    RawVirtQueueDescriptor :=
  if j + 1 < n then ⟨d.addr, d.len, { d.flags with next := true }, ⟨((start + j + 1) % Q).toUInt16⟩⟩
  else ⟨d.addr, d.len, d.flags, ⟨0⟩⟩

def ChainAt (cells : List RawVirtQueueDescriptor) (Q start : Nat)
    (ds : List ChainedVirtQueueDescriptorElem) : Prop :=
  ∀ j (hj : j < ds.length), cells[(start + j) % Q]? = some (chainDescriptor Q start ds.length j ds[j])

def linked : List ChainedVirtQueueDescriptorElem → List ChainedVirtQueueDescriptorElem
  | [] => []
  | [d] => [d]
  | d :: ds => { d with flags := { d.flags with next := true } } :: linked ds

/-- The elements a `for` loop over the iterator gets, if the iterator ends within `fuel` calls
of `next`. -/
def VirtQueueDescriptorChainIterator.collect (descriptors : VirtQueueDescriptorTable) :
    Nat → VirtQueueDescriptorChainIterator → Option (List ChainedVirtQueueDescriptorElem)
  | 0, _ => none
  | fuel + 1, it => do
      match ← it.next descriptors with
      | none => some []
      | some (elem, it) => (elem :: ·) <$> collect descriptors fuel it

namespace VirtQueueDescriptorChainIterator

variable {descriptors : VirtQueueDescriptorTable} {fuel : Nat} {it : VirtQueueDescriptorChainIterator}

theorem next_of_collect_cons {elem : ChainedVirtQueueDescriptorElem}
    {elems : List ChainedVirtQueueDescriptorElem}
    (h : collect descriptors (fuel + 1) it = some (elem :: elems)) :
    ∃ it', it.next descriptors = some (some (elem, it')) ∧ collect descriptors fuel it' = some elems := by
  simp only [collect, Option.bind_eq_bind] at h
  obtain ⟨step, called, rest⟩ := Option.bind_eq_some_iff.mp h
  cases step with
  | none => simp at rest
  | some p =>
      obtain ⟨elem', it'⟩ := p
      obtain ⟨tail, collected, same⟩ := Option.map_eq_some_iff.mp rest
      simp only [List.cons.injEq] at same
      obtain ⟨rfl, rfl⟩ := same
      exact ⟨it', called, collected⟩

theorem next_of_collect_nil (h : collect descriptors (fuel + 1) it = some []) :
    it.next descriptors = some none := by
  simp only [collect, Option.bind_eq_bind] at h
  obtain ⟨step, called, rest⟩ := Option.bind_eq_some_iff.mp h
  cases step with
  | none => exact called
  | some p => simp at rest

end VirtQueueDescriptorChainIterator

/-! ## Slot arithmetic -/

section Slots

variable {Q : Nat}

theorem slot_ne (start : Nat) {x y : Nat} (hx : x < Q) (hy : y < Q) (hne : x ≠ y) :
    (start + x) % Q ≠ (start + y) % Q :=
  fun h => hne ((Nat.ModEq.add_left_cancel' start h).eq_of_lt_of_lt hx hy)

theorem chainDescriptor_congr {start start' : Nat} (h : start % Q = start' % Q) (n j : Nat) :
    chainDescriptor Q start n j = chainDescriptor Q start' n j := by
  have hslot : (start + j + 1) % Q = (start' + j + 1) % Q :=
    (Nat.ModEq.add_right 1 (Nat.ModEq.add_right j h))
  funext d
  simp only [chainDescriptor, hslot]

theorem chainDescriptor_succ (start n j : Nat) :
    chainDescriptor Q (start + 1) n j = chainDescriptor Q start (n + 1) (j + 1) := by
  funext d
  simp only [chainDescriptor, show start + 1 + j + 1 = start + (j + 1) + 1 by omega,
    show j + 1 + 1 < n + 1 ↔ j + 1 < n by omega]

theorem chainAt_congr {cells : List RawVirtQueueDescriptor} {start start' : Nat}
    (h : start % Q = start' % Q) {ds : List ChainedVirtQueueDescriptorElem}
    (hat : ChainAt cells Q start ds) : ChainAt cells Q start' ds := by
  intro j hj
  have hslot : (start' + j) % Q = (start + j) % Q := (Nat.ModEq.add_right j h).symm
  rw [hslot, hat j hj, chainDescriptor_congr h]

theorem ChainAt.tail {cells : List RawVirtQueueDescriptor} {start : Nat}
    {d : ChainedVirtQueueDescriptorElem} {ds : List ChainedVirtQueueDescriptorElem}
    (hat : ChainAt cells Q start (d :: ds)) : ChainAt cells Q (start + 1) ds := by
  intro j hj
  have h := hat (j + 1) (by simp [hj])
  rw [show start + (j + 1) = start + 1 + j by omega] at h
  rw [h, chainDescriptor_succ]
  rfl

end Slots

/-! ## `add_descriptor` -/

section Add

variable {Q : UInt16} (hQ : isPowerOfTwo Q = true)
include hQ

theorem toUInt16_mod_toNat (r : UInt16) : ((r.toNat % Q.toNat).toUInt16) = r % Q := by
  apply UInt16.toNat_inj.mp
  rw [UInt16.toNat_mod, UInt16.toNat_ofNat', Nat.mod_eq_of_lt]
  exact lt_of_lt_of_le (Nat.mod_lt _ (isPowerOfTwo_pos hQ)) (UInt16.toNat_lt Q).le

theorem succ_add_mod (r : UInt16) (j : Nat) :
    ((r + 1).toNat + j) % Q.toNat = (r.toNat + (j + 1)) % Q.toNat := by
  rw [UInt16.toNat_add, UInt16.toNat_one, show r.toNat + (j + 1) = r.toNat + 1 + j by omega]
  exact ((Nat.mod_modEq _ _).of_dvd (isPowerOfTwo_dvd hQ)).add_right j

omit hQ in
theorem raw_add_succ (r : UInt16) (n : Nat) : r + 1 + n.toUInt16 = r + (n + 1).toUInt16 := by
  apply UInt16.toNat_inj.mp
  simp only [UInt16.toNat_add, UInt16.toNat_one, UInt16.toNat_ofNat']
  omega

theorem rest_avoids {r : UInt16} {n x : Nat} (h : ∀ j < n + 1, (r.toNat + j) % Q.toNat ≠ x) :
    ∀ j < n, ((r + 1).toNat + j) % Q.toNat ≠ x := by
  intro j hj
  rw [succ_add_mod hQ]
  exact h (j + 1) (by omega)

theorem rest_avoids_first {r : UInt16} {n : Nat} (hn : n < Q.toNat) :
    ∀ j < n, ((r + 1).toNat + j) % Q.toNat ≠ (r % Q).toNat := by
  intro j hj
  rw [succ_add_mod hQ, UInt16.toNat_mod]
  simpa using slot_ne r.toNat (x := j + 1) (y := 0) (by omega) (isPowerOfTwo_pos hQ) (by omega)

theorem chainAt_cons {cells : List RawVirtQueueDescriptor} {r : UInt16}
    {d : ChainedVirtQueueDescriptorElem} {ds : List ChainedVirtQueueDescriptorElem}
    (hfirst : cells[r.toNat % Q.toNat]? = some (if ds = [] then ⟨d.addr, d.len, d.flags, ⟨0⟩⟩
      else ⟨d.addr, d.len, { d.flags with next := true }, ⟨(r + 1) % Q⟩⟩))
    (hrest : ChainAt cells Q.toNat (r + 1).toNat ds) : ChainAt cells Q.toNat r.toNat (d :: ds) := by
  have hsucc : (r + 1).toNat % Q.toNat = (r.toNat + 1) % Q.toNat := by
    simpa using succ_add_mod hQ r 0
  intro j hj
  cases j with
  | zero =>
      rw [Nat.add_zero, hfirst]
      cases ds with
      | nil => simp [chainDescriptor]
      | cons d' ds' =>
          have hnext : ((r + 1) % Q) = ((r.toNat + 0 + 1) % Q.toNat).toUInt16 := by
            rw [← toUInt16_mod_toNat hQ, hsucc]
          simp [chainDescriptor, hnext]
  | succ j =>
      have h := hrest j (by simpa using hj)
      rw [succ_add_mod hQ, chainDescriptor_congr hsucc, chainDescriptor_succ] at h
      rw [h]
      rfl

theorem addDescriptorLoop_linked :
    ∀ (ds : List ChainedVirtQueueDescriptorElem) (t : VirtQueueDescriptorTable)
      (first p : DescIndex) (X : RawVirtQueueDescriptor),
      t.descriptors.len = Q.toNat → t.descriptors.cells[p.val.toNat]? = some X →
      (∀ d ∈ ds, d.flags.indirect = false) → ds.length ≤ Q.toNat →
      (∀ j < ds.length, (t.rawNextIndex.toNat + j) % Q.toNat ≠ p.val.toNat) →
      ∃ cells, t.addDescriptorLoop (some first) (some p) ds =
          some (some first, ⟨t.rawNextIndex + ds.length.toUInt16, ⟨cells⟩⟩) ∧
        cells.length = Q.toNat ∧
        cells[p.val.toNat]? = some (if ds = [] then X else
          { X with flags := { X.flags with next := true }, next := ⟨t.rawNextIndex % Q⟩ }) ∧
        ChainAt cells Q.toNat t.rawNextIndex.toNat ds ∧
        ∀ x, x ≠ p.val.toNat → (∀ j < ds.length, (t.rawNextIndex.toNat + j) % Q.toNat ≠ x) →
          cells[x]? = t.descriptors.cells[x]?
  | [], t, first, p, X, hlen, hX, _, _, _ => by
      refine ⟨t.descriptors.cells, ?_, hlen, by simpa using hX, fun j hj => by simp at hj,
        fun _ _ _ => rfl⟩
      simp [VirtQueueDescriptorTable.addDescriptorLoop]
  | d :: ds, ⟨r, ⟨cells⟩⟩, first, p, X, hlen, hX, hflags, hn, hp => by
      have hQpos := isPowerOfTwo_pos hQ
      have hlen' : cells.length = Q.toNat := hlen
      have hslot : r.toNat % Q.toNat < Q.toNat := Nat.mod_lt _ hQpos
      have hp0 : r.toNat % Q.toNat ≠ p.val.toNat := by simpa using hp 0 (by simp)
      have hpQ : p.val.toNat < Q.toNat := by
        rw [← hlen']
        exact (List.getElem?_eq_some_iff.mp hX).1
      -- the first element: link `p` to its slot, then write it there
      set X0 : RawVirtQueueDescriptor := ⟨d.addr, d.len, d.flags, ⟨0⟩⟩ with hX0
      set cells2 := (cells.set p.val.toNat
        { X with flags := { X.flags with next := true }, next := ⟨r % Q⟩ }).set
          (r.toNat % Q.toNat) X0 with hcells2
      have hlen2 : cells2.length = Q.toNat := by simp [hcells2, hlen']
      have hX2 : cells2[(r % Q).toNat]? = some X0 := by
        rw [UInt16.toNat_mod]
        simp [hcells2, hlen', hslot]
      -- the rest of the chain, from `r + 1`
      obtain ⟨cells', hloop, hlen3, hlink, hat, hframe⟩ := addDescriptorLoop_linked ds
        ⟨r + 1, ⟨cells2⟩⟩ first ⟨r % Q⟩ X0 hlen2 hX2
        (fun d' hd' => hflags d' (List.mem_cons_of_mem d hd')) (by simp at hn; omega)
        (rest_avoids_first hQ (by simp at hn; omega))
      refine ⟨cells', ?_, hlen3, ?_, ?_, ?_⟩
      · simp only [VirtQueueDescriptorTable.addDescriptorLoop, VirtQueueDescriptorTable.nextIndex,
          VirtQueueDescriptorTable.linkPrevious, toUInt16_toNat_self,
          toElemIndex_eq hQ, Option.bind_eq_bind, Option.bind_some, Option.getD_some,
          VolatileArrayRW.read, hX, VolatileArrayRW.write, VolatileArrayRW.len, hlen', hpQ,
          List.length_set, UInt16.toNat_mod, hslot, if_true, hflags d List.mem_cons_self,
          Bool.false_eq_true, if_false]
        rw [← hcells2, hloop, List.length_cons]
        simp only [raw_add_succ]
      · -- `p` was linked before the rest of the chain was written
        rw [hframe _ (by rw [UInt16.toNat_mod]; exact Ne.symm hp0) (rest_avoids hQ hp)]
        simp [hcells2, hp0, hlen', hpQ]
      · rw [UInt16.toNat_mod] at hlink
        exact chainAt_cons hQ hlink hat
      · intro x hxp hxs
        have hx0 : r.toNat % Q.toNat ≠ x := by simpa using hxs 0 (by simp)
        rw [hframe x (by rw [UInt16.toNat_mod]; exact Ne.symm hx0) (rest_avoids hQ hxs)]
        simp [hcells2, hx0, Ne.symm hxp]

theorem addDescriptor_chain {t : VirtQueueDescriptorTable} (hlen : t.descriptors.len = Q.toNat)
    {ds : List ChainedVirtQueueDescriptorElem} (hne : ds ≠ [])
    (hflags : ∀ d ∈ ds, d.flags.indirect = false) (hn : ds.length ≤ Q.toNat) :
    ∃ cells, t.addDescriptor ds =
        some (⟨t.rawNextIndex % Q⟩, ⟨t.rawNextIndex + ds.length.toUInt16, ⟨cells⟩⟩) ∧
      cells.length = Q.toNat ∧ ChainAt cells Q.toNat t.rawNextIndex.toNat ds ∧
      ∀ x, (∀ j < ds.length, (t.rawNextIndex.toNat + j) % Q.toNat ≠ x) →
        cells[x]? = t.descriptors.cells[x]? := by
  obtain ⟨r, ⟨cells⟩⟩ := t
  obtain ⟨d, ds, rfl⟩ := List.exists_cons_of_ne_nil hne
  have hQpos := isPowerOfTwo_pos hQ
  have hlen' : cells.length = Q.toNat := hlen
  have hslot : r.toNat % Q.toNat < Q.toNat := Nat.mod_lt _ hQpos
  -- the first element has no previous one to link
  set X0 : RawVirtQueueDescriptor := ⟨d.addr, d.len, d.flags, ⟨0⟩⟩ with hX0
  set cells2 := cells.set (r.toNat % Q.toNat) X0 with hcells2
  have hlen2 : cells2.length = Q.toNat := by simp [hcells2, hlen']
  have hX2 : cells2[(r % Q).toNat]? = some X0 := by
    rw [UInt16.toNat_mod]
    simp [hcells2, hlen', hslot]
  obtain ⟨cells', hloop, hlen3, hlink, hat, hframe⟩ := addDescriptorLoop_linked hQ ds
    ⟨r + 1, ⟨cells2⟩⟩ ⟨r % Q⟩ ⟨r % Q⟩ X0 hlen2 hX2
    (fun d' hd' => hflags d' (List.mem_cons_of_mem d hd')) (by simp at hn; omega)
    (rest_avoids_first hQ (by simp at hn; omega))
  refine ⟨cells', ?_, hlen3, ?_, ?_⟩
  · simp only [VirtQueueDescriptorTable.addDescriptor, VirtQueueDescriptorTable.addDescriptorLoop,
      VirtQueueDescriptorTable.nextIndex, hlen', toUInt16_toNat_self,
      toElemIndex_eq hQ, Option.bind_eq_bind, Option.bind_some, Option.getD_none,
      VolatileArrayRW.write, VolatileArrayRW.len, UInt16.toNat_mod, hslot, if_true,
      hflags d List.mem_cons_self, Bool.false_eq_true, if_false]
    rw [← hcells2, hloop, List.length_cons]
    simp only [raw_add_succ, Option.bind_some]
  · rw [UInt16.toNat_mod] at hlink
    exact chainAt_cons hQ hlink hat
  · intro x hxs
    have hx0 : r.toNat % Q.toNat ≠ x := by simpa using hxs 0 (by simp)
    rw [hframe x (by rw [UInt16.toNat_mod]; exact Ne.symm hx0) (rest_avoids hQ hxs)]
    simp [hcells2, hx0]

theorem collect_of_chainAt {table : VirtQueueDescriptorTable} :
    ∀ (ds : List ChainedVirtQueueDescriptorElem) (start : Nat), ds ≠ [] →
      (∀ d ∈ ds, d.flags.next = false) → ChainAt table.descriptors.cells Q.toNat start ds →
      VirtQueueDescriptorChainIterator.collect table (ds.length + 1)
        ⟨some ⟨(start % Q.toNat).toUInt16⟩⟩ = some (linked ds)
  | [], _, hne, _, _ => absurd rfl hne
  | [d], start, _, hnext, hat => by
      have h := hat 0 (by simp)
      have hd : d.flags.next = false := hnext d List.mem_cons_self
      have hslot : (start % Q.toNat).toUInt16.toNat = start % Q.toNat := by
        rw [UInt16.toNat_ofNat', Nat.mod_eq_of_lt]
        exact lt_of_lt_of_le (Nat.mod_lt _ (isPowerOfTwo_pos hQ)) (UInt16.toNat_lt Q).le
      simp only [Nat.add_zero] at h
      simp [VirtQueueDescriptorChainIterator.collect, VirtQueueDescriptorChainIterator.next,
        VirtQueueDescriptorTable.getDescriptor, VolatileArrayRW.read, hslot, h, chainDescriptor,
        hd, linked]
  | d :: d' :: ds, start, _, hnext, hat => by
      have h := hat 0 (by simp)
      have hslot : (start % Q.toNat).toUInt16.toNat = start % Q.toNat := by
        rw [UInt16.toNat_ofNat', Nat.mod_eq_of_lt]
        exact lt_of_lt_of_le (Nat.mod_lt _ (isPowerOfTwo_pos hQ)) (UInt16.toNat_lt Q).le
      simp only [Nat.add_zero] at h
      -- the rest reads back from the slot the first element links to
      have hrest := collect_of_chainAt (d' :: ds) (start + 1) (by simp)
        (fun d'' hd'' => hnext d'' (List.mem_cons_of_mem d hd'')) hat.tail
      simp only [List.length_cons] at hrest
      rw [List.length_cons, List.length_cons, VirtQueueDescriptorChainIterator.collect]
      simp only [VirtQueueDescriptorChainIterator.next, VirtQueueDescriptorTable.getDescriptor,
        VolatileArrayRW.read, hslot, h, chainDescriptor, List.length_cons, List.getElem_cons_zero,
        Nat.zero_add, show 1 < ds.length + 1 + 1 by omega, if_true, Option.bind_eq_bind,
        Option.bind_some, Nat.add_zero]
      rw [hrest]
      rfl

end Add

end RustOs.Virtio
