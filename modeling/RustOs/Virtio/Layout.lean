import RustOs.Virtio.Chains

/-!
# Where the outstanding requests are

The requests that were added and not yet processed, oldest first, each with the slot of its
first descriptor, its chain and its data. `Laid` says that their chains lie one after the other
in the descriptor table from a raw index on; `dataAt` is the data slot each head should hold.
Chains no longer than the queue together have distinct heads, and a write outside their slots
leaves them in place.
-/

namespace RustOs.Virtio

variable {D : Type}

structure Request (D : Type) where
  head : DescIndex
  descriptors : List ChainedVirtQueueDescriptorElem
  data : D

def held (g : List (Request D)) : Nat := (g.map fun req => req.descriptors.length).sum

@[simp] theorem held_nil : held ([] : List (Request D)) = 0 := rfl

@[simp] theorem held_cons (req : Request D) (g : List (Request D)) :
    held (req :: g) = req.descriptors.length + held g := by
  simp [held]

@[simp] theorem held_append (g g' : List (Request D)) : held (g ++ g') = held g + held g' := by
  simp [held]

theorem length_le_held : ∀ {g : List (Request D)}, (∀ r ∈ g, r.descriptors ≠ []) →
    g.length ≤ held g
  | [], _ => le_refl 0
  | req :: g, hne => by
      have hpos : 0 < req.descriptors.length := List.length_pos_iff.mpr (hne req List.mem_cons_self)
      have := length_le_held (g := g) fun r hr => hne r (List.mem_cons_of_mem req hr)
      simp only [List.length_cons, held_cons]
      omega

def Laid (cells : List RawVirtQueueDescriptor) (Q : Nat) : Nat → List (Request D) → Prop
  | _, [] => True
  | start, req :: g => req.head.val.toNat = start % Q ∧ ChainAt cells Q start req.descriptors ∧
      Laid cells Q (start + req.descriptors.length) g

def dataAt (g : List (Request D)) (x : Nat) : Option D :=
  (g.find? fun req => req.head.val.toNat = x).map Request.data

section Laid

variable {cells : List RawVirtQueueDescriptor} {Q : Nat}

theorem laid_append {start : Nat} :
    ∀ {g g' : List (Request D)},
      Laid cells Q start (g ++ g') ↔ Laid cells Q start g ∧ Laid cells Q (start + held g) g'
  | [], _ => by simp [Laid]
  | req :: g, g' => by
      simp only [List.cons_append, Laid, held_cons, laid_append (g := g)]
      rw [show start + (req.descriptors.length + held g) =
        start + req.descriptors.length + held g by omega]
      tauto

theorem Laid.mem {start : Nat} :
    ∀ {g : List (Request D)}, Laid cells Q start g → ∀ req ∈ g, ∃ o,
      o + req.descriptors.length ≤ held g ∧ req.head.val.toNat = (start + o) % Q ∧
        ChainAt cells Q (start + o) req.descriptors
  | [], _, _, hmem => by cases hmem
  | req' :: g, ⟨hhead, hat, hrest⟩, req, hmem => by
      rcases List.mem_cons.mp hmem with rfl | hmem
      · exact ⟨0, by simp, by simpa using hhead, by simpa using hat⟩
      · obtain ⟨o, ho, hh, ha⟩ := hrest.mem req hmem
        refine ⟨req'.descriptors.length + o, by simp; omega, ?_, ?_⟩
        · rw [hh, Nat.add_assoc]
        · rwa [← Nat.add_assoc]

theorem Laid.frame {cells' : List RawVirtQueueDescriptor} {start : Nat} :
    ∀ {g : List (Request D)}, Laid cells Q start g →
      (∀ o < held g, cells'[(start + o) % Q]? = cells[(start + o) % Q]?) → Laid cells' Q start g
  | [], _, _ => trivial
  | req :: g, ⟨hhead, hat, hrest⟩, hsame => by
      refine ⟨hhead, fun j hj => ?_, hrest.frame fun o ho => ?_⟩
      · rw [hsame j (by simp; omega)]
        exact hat j hj
      · rw [Nat.add_assoc]
        exact hsame _ (by simp; omega)

theorem Laid.head_ne {start : Nat} {req : Request D} {g : List (Request D)}
    (hlaid : Laid cells Q start (req :: g)) (hheld : held (req :: g) ≤ Q)
    (hne : ∀ r ∈ req :: g, r.descriptors ≠ []) :
    ∀ req' ∈ g, req'.head.val.toNat ≠ req.head.val.toNat := by
  intro req' hmem
  obtain ⟨hhead, -, hrest⟩ := hlaid
  obtain ⟨o, ho, hh, -⟩ := hrest.mem req' hmem
  have hpos : 0 < req.descriptors.length := List.length_pos_iff.mpr (hne req List.mem_cons_self)
  have hlen : 0 < req'.descriptors.length :=
    List.length_pos_iff.mpr (hne req' (List.mem_cons_of_mem req hmem))
  rw [hh, hhead, Nat.add_assoc]
  simp only [held_cons] at hheld
  simpa using slot_ne start (x := req.descriptors.length + o) (y := 0) (by omega) (by omega)
    (by omega)

theorem Laid.heads_nodup {start : Nat} :
    ∀ {g : List (Request D)}, Laid cells Q start g → held g ≤ Q →
      (∀ r ∈ g, r.descriptors ≠ []) → (g.map fun req => req.head.val.toNat).Nodup
  | [], _, _, _ => List.nodup_nil
  | req :: g, hlaid, hheld, hne => by
      refine List.nodup_cons.mpr ⟨fun hmem => ?_, ?_⟩
      · obtain ⟨req', hmem', heq⟩ := List.mem_map.mp hmem
        exact hlaid.head_ne hheld hne req' hmem' heq
      · exact hlaid.2.2.heads_nodup (by simp at hheld; omega)
          (fun r hr => hne r (List.mem_cons_of_mem req hr))

end Laid

/-! ## The data slots -/

section Data

@[simp] theorem dataAt_nil (x : Nat) : dataAt ([] : List (Request D)) x = none := rfl

theorem dataAt_cons_self (req : Request D) (g : List (Request D)) :
    dataAt (req :: g) req.head.val.toNat = some req.data := by
  simp [dataAt]

theorem dataAt_cons_of_ne {req : Request D} {x : Nat} (h : req.head.val.toNat ≠ x)
    (g : List (Request D)) : dataAt (req :: g) x = dataAt g x := by
  simp [dataAt, h]

theorem dataAt_append (g g' : List (Request D)) (x : Nat) :
    dataAt (g ++ g') x = (dataAt g x).or (dataAt g' x) := by
  simp only [dataAt, List.find?_append]
  cases g.find? fun req => req.head.val.toNat = x <;> rfl

theorem dataAt_eq_none {g : List (Request D)} {x : Nat}
    (h : ∀ req ∈ g, req.head.val.toNat ≠ x) : dataAt g x = none := by
  simp only [dataAt, Option.map_eq_none_iff, List.find?_eq_none]
  intro req hreq
  simpa using h req hreq

theorem dataAt_of_mem :
    ∀ {g : List (Request D)} {req : Request D}, (g.map fun r => r.head.val.toNat).Nodup →
      req ∈ g → dataAt g req.head.val.toNat = some req.data
  | [], _, _, hmem => by cases hmem
  | r :: g, req, hnodup, hmem => by
      rcases List.mem_cons.mp hmem with rfl | hmem
      · exact dataAt_cons_self req g
      · have hne : r.head.val.toNat ≠ req.head.val.toNat := fun heq =>
          (List.nodup_cons.mp hnodup).1 (List.mem_map.mpr ⟨req, hmem, heq.symm⟩)
        rw [dataAt_cons_of_ne hne]
        exact dataAt_of_mem (List.nodup_cons.mp hnodup).2 hmem

end Data

/-! ## Processing the published requests -/

section Process

variable {Q : UInt16} (hQ : isPowerOfTwo Q = true) {q : VirtQueue}
  (hlen : q.usedRing.ring.len = Q.toNat)
include hQ hlen

theorem processLoop_spec :
    ∀ (P rest : List (Request D)) (l : Nat) (data : List (Option D)) (calls0 : List (Call D)),
      l + P.length < 2 ^ 16 →
      (∀ i (hi : i < P.length), ∃ len,
        q.usedRing.ring.cells[(l + i) % Q.toNat]? = some ⟨P[i].head.val.toUInt32, len⟩) →
      data.length = Q.toNat → (∀ x < Q.toNat, data[x]? = some (dataAt (P ++ rest) x)) →
      ((P ++ rest).map fun req => req.head.val.toNat).Nodup →
      (∀ req ∈ P, req.head.val.toNat < Q.toNat) →
      ∃ data' calls, ((List.range' l P.length).map Nat.toUInt16).foldlM (fun acc i => do
          let (usedElem, chain) ← q.getUsedRingEntry ⟨i⟩
          VirtQueueData.takeData acc usedElem chain) (data, calls0) = some (data', calls0 ++ calls) ∧
        data'.length = Q.toNat ∧ (∀ x < Q.toNat, data'[x]? = some (dataAt rest x)) ∧
        calls.map Call.data = P.map fun req => some req.data
  | [], rest, l, data, calls0, _, _, hdataLen, hdata, _, _ =>
      ⟨data, [], by simp, hdataLen, by simpa using hdata, rfl⟩
  | req :: P, rest, l, data, calls0, hl, hused, hdataLen, hdata, hnodup, hheads => by
      obtain ⟨len, hread⟩ := hused 0 (by simp)
      have hheadQ := hheads req List.mem_cons_self
      have hfresh : ∀ req' ∈ P ++ rest, req'.head.val.toNat ≠ req.head.val.toNat := by
        intro req' hmem heq
        exact (List.nodup_cons.mp hnodup).1 (List.mem_map.mpr ⟨req', hmem, heq⟩)
      -- the first used element is that of `req`, whose data is in its slot
      have hentry : q.getUsedRingEntry ⟨l.toUInt16⟩ =
          some (⟨req.head.val.toUInt32, len⟩, ⟨some req.head⟩) := by
        have hl' : l.toUInt16.toNat = l := by
          rw [UInt16.toNat_ofNat']
          exact Nat.mod_eq_of_lt (by simp at hl; omega)
        simp only [Nat.add_zero, List.getElem_cons_zero] at hread
        simp [VirtQueue.getUsedRingEntry, VirtQueueUsedRing.getUsedElem, hlen,
          toElemIndex_eq hQ, UInt16.toNat_mod, hl', VolatileArrayRW.read, hread,
          descIndex_of_toUInt32]
      have hslot : data[req.head.val.toNat]? = some (some req.data) := by
        rw [hdata _ hheadQ, List.cons_append, dataAt_cons_self]
      obtain ⟨data', calls, hfold, hlen', hdata', hcalls⟩ := processLoop_spec P rest (l + 1)
        (data.set req.head.val.toNat none) (calls0 ++ [⟨⟨req.head.val.toUInt32, len⟩,
          ⟨some req.head⟩, some req.data⟩]) (by simp at hl; omega)
        (fun i hi => by
          obtain ⟨len', h'⟩ := hused (i + 1) (by simp [hi])
          exact ⟨len', by rw [show l + 1 + i = l + (i + 1) by omega]; simpa using h'⟩)
        (by simpa using hdataLen)
        (fun x hx => by
          by_cases hxh : x = req.head.val.toNat
          · subst hxh
            rw [dataAt_eq_none hfresh]
            simp [hdataLen, hheadQ]
          · rw [List.getElem?_set_ne (Ne.symm hxh), hdata x hx, List.cons_append,
              dataAt_cons_of_ne (Ne.symm hxh)])
        (List.nodup_cons.mp hnodup).2 (fun r hr => hheads r (List.mem_cons_of_mem req hr))
      refine ⟨data', ⟨⟨req.head.val.toUInt32, len⟩, ⟨some req.head⟩, some req.data⟩ :: calls, ?_,
        hlen', hdata', by simp [hcalls]⟩
      rw [List.length_cons, List.range'_succ, List.map_cons, List.foldlM_cons, hentry]
      simp only [Option.bind_eq_bind, Option.bind_some, VirtQueueData.takeData,
        descIndex_of_toUInt32, hslot] at hfold ⊢
      rw [hfold]
      simp

end Process

end RustOs.Virtio
