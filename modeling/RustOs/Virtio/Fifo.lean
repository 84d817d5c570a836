import RustOs.Virtio.Layout
import RustOs.Lib.Reach

/-!
# No outstanding descriptor is overwritten, when the device finishes in order

`add_descriptor` takes the slots after `raw_next_index` whether or not they are free: it never
looks at which chains are outstanding. When the device finishes chains in the order they were
made available, the outstanding chains lie one after the other, from the oldest to
`raw_next_index`, and a new chain of `n` descriptors lands after them; as long as they and the
new chain hold at most `Q` descriptors together, it overwrites none of them, every one of them
reads back, and the data slot of the new head is empty. When the device finishes a later chain
first, the slots of the older one come round again while it is outstanding.

The runs are those of `FifoStep`, which records the requests added and not yet processed. The
device publishes the oldest chain it holds, and fewer than `65536` chains in all, so that
`process_new_entries` sees every used element (`Virtio.Wrap`).
-/

namespace RustOs.Virtio

variable {D : Type}

abbrev FifoState (D : Type) := VirtQueueData D × Device × List (Request D)

/-- One step of a run that adds chains of at most `Q` outstanding descriptors, on a device that
finishes them in order and publishes fewer than `65536` of them. -/
inductive FifoStep (Q : UInt16) : FifoState D → FifoState D → Prop
  | addBuffer {s s' : VirtQueueData D} {dev : Device} {g : List (Request D)}
      (descriptors : List ChainedVirtQueueDescriptorElem) (data : D) (hne : descriptors ≠ [])
      (hflags : ∀ d ∈ descriptors, d.flags.next = false ∧ d.flags.indirect = false)
      (hheld : held g + descriptors.length ≤ Q.toNat)
      (h : s.addBuffer descriptors data = some s') :
      FifoStep Q (s, dev, g) (s', dev, g ++ [⟨⟨s.queue.descriptors.rawNextIndex % Q⟩, descriptors, data⟩])
  | take {s : VirtQueueData D} {dev dev' : Device} {g : List (Request D)}
      (h : dev.take s.queue = some dev') : FifoStep Q (s, dev, g) (s, dev', g)
  | publish {s : VirtQueueData D} {dev dev' : Device} {queue : VirtQueue} {g : List (Request D)}
      (head : DescIndex) (len : UInt32) (hfirst : dev.inFlight.head? = some head)
      (hwrap : s.queue.usedRing.idx.val.toNat < 2 ^ 16 - 1)
      (h : dev.publish s.queue head len = some (dev', queue)) :
      FifoStep Q (s, dev, g) ({ s with queue }, dev', g)
  | process {s s' : VirtQueueData D} {dev : Device} {g : List (Request D)} {calls : List (Call D)}
      (h : s.processNewEntries = some (calls, s')) :
      FifoStep Q (s, dev, g) (s', dev, g.drop calls.length)

structure Phases (Q : UInt16) (queue : VirtQueue) (dev : Device) (P F A : List (Request D)) :
    Prop where
  used : ∀ i (hi : i < P.length), ∃ len, queue.usedRing.ring.cells[
    (queue.lastProcessedUsedIndex.val.toNat + i) % Q.toNat]? = some ⟨P[i].head.val.toUInt32, len⟩
  usedIdx : queue.usedRing.idx.val.toNat = queue.lastProcessedUsedIndex.val.toNat + P.length
  inFlight : dev.inFlight = F.map Request.head
  avail : ∀ i (hi : i < A.length),
    queue.availRing.ring.cells[(dev.lastAvailIdx.toNat + i) % Q.toNat]? = some A[i].head
  availIdx : queue.availRing.idx.val.toNat = (dev.lastAvailIdx.toNat + A.length) % 2 ^ 16

structure FifoInv (Q : UInt16) (s : VirtQueueData D) (dev : Device) (g : List (Request D)) :
    Prop where
  size : isPowerOfTwo Q = true
  descLen : s.queue.descriptors.descriptors.len = Q.toNat
  availLen : s.queue.availRing.ring.len = Q.toNat
  usedLen : s.queue.usedRing.ring.len = Q.toNat
  dataLen : s.data.length = Q.toNat
  requests : ∀ req ∈ g, req.descriptors ≠ [] ∧
    ∀ d ∈ req.descriptors, d.flags.next = false ∧ d.flags.indirect = false
  heldLe : held g ≤ Q.toNat
  laid : ∃ base, Laid s.queue.descriptors.descriptors.cells Q.toNat base g ∧
    (base + held g) % 2 ^ 16 = s.queue.descriptors.rawNextIndex.toNat
  data : ∀ x < Q.toNat, s.data[x]? = some (dataAt g x)
  phases : ∃ P F A, g = P ++ F ++ A ∧ Phases Q s.queue dev P F A

/-! ## The rings -/

section Phases

variable {Q : UInt16} {queue : VirtQueue} {dev : Device} {P F A : List (Request D)}

theorem Phases.addEntry (hQ : isPowerOfTwo Q = true) (h : Phases Q queue dev P F A)
    (hlen : queue.availRing.ring.len = Q.toNat) (hA : A.length < Q.toNat) (req : Request D)
    (table : VirtQueueDescriptorTable) :
    Phases Q { queue with
      descriptors := table
      availRing := ⟨queue.availRing.idx.increment,
        ⟨queue.availRing.ring.cells.set (queue.availRing.idx.val % Q).toNat req.head⟩⟩ }
      dev P F (A ++ [req]) := by
  have hlen' : queue.availRing.ring.cells.length = Q.toNat := hlen
  have hslot : (queue.availRing.idx.val % Q).toNat =
      (dev.lastAvailIdx.toNat + A.length) % Q.toNat := by
    rw [UInt16.toNat_mod, h.availIdx, Nat.mod_mod_of_dvd _ (isPowerOfTwo_dvd hQ)]
  have hslotLt : (dev.lastAvailIdx.toNat + A.length) % Q.toNat <
      queue.availRing.ring.cells.length := by
    rw [hlen']
    exact Nat.mod_lt _ (isPowerOfTwo_pos hQ)
  refine ⟨h.used, h.usedIdx, h.inFlight, fun i hi => ?_, ?_⟩
  · simp only [hslot]
    rw [List.length_append, List.length_singleton] at hi
    rcases Nat.lt_succ_iff_lt_or_eq.mp hi with hi | rfl
    · -- the chains already there keep their slots
      have hne := slot_ne dev.lastAvailIdx.toNat (x := i) (y := A.length) (by omega) hA (by omega)
      rw [List.getElem?_set_ne (Ne.symm hne), List.getElem_append_left hi]
      exact h.avail i hi
    · rw [List.getElem?_set_self hslotLt, List.getElem_concat_length rfl]
  · simp only [WrappingIndex.increment, UInt16.toNat_add, UInt16.toNat_one, h.availIdx,
      List.length_append, List.length_singleton]
    omega

theorem Phases.take (hQ : isPowerOfTwo Q = true) {a : Request D} {A' : List (Request D)}
    (h : Phases Q queue dev P F (a :: A')) :
    Phases Q queue ⟨dev.lastAvailIdx + 1, dev.inFlight ++ [a.head]⟩ P (F ++ [a]) A' := by
  refine ⟨h.used, h.usedIdx, by simp [h.inFlight], fun i hi => ?_, ?_⟩
  · rw [succ_add_mod hQ]
    exact h.avail (i + 1) (by simp [hi])
  · have hidx := h.availIdx
    simp only [List.length_cons] at hidx
    simp only [UInt16.toNat_add, UInt16.toNat_one, hidx]
    omega

theorem Phases.publish (h : Phases Q queue dev P F A) (hlen : queue.usedRing.ring.len = Q.toNat)
    (hP : P.length < Q.toNat) (hwrap : queue.usedRing.idx.val.toNat < 2 ^ 16 - 1)
    {f : Request D} {F' : List (Request D)} (hF : F = f :: F') (len : UInt32) :
    Phases Q { queue with usedRing := ⟨queue.usedRing.idx.increment,
        ⟨queue.usedRing.ring.cells.set (queue.usedRing.idx.val.toNat % queue.usedRing.ring.len)
          ⟨f.head.val.toUInt32, len⟩⟩⟩ }
      { dev with inFlight := dev.inFlight.erase f.head } (P ++ [f]) F' A := by
  have hlen' : queue.usedRing.ring.cells.length = Q.toNat := hlen
  have hslot : queue.usedRing.idx.val.toNat % queue.usedRing.ring.len =
      (queue.lastProcessedUsedIndex.val.toNat + P.length) % Q.toNat := by
    rw [hlen, h.usedIdx]
  refine ⟨fun i hi => ?_, ?_, by simp [h.inFlight, hF], h.avail, h.availIdx⟩
  · simp only [hslot]
    rw [List.length_append, List.length_singleton] at hi
    rcases Nat.lt_succ_iff_lt_or_eq.mp hi with hi | rfl
    · -- the used elements not yet processed keep their slots
      have hne := slot_ne queue.lastProcessedUsedIndex.val.toNat (x := i) (y := P.length)
        (by omega) hP (by omega)
      obtain ⟨len', hused⟩ := h.used i hi
      exact ⟨len', by rw [List.getElem?_set_ne (Ne.symm hne), List.getElem_append_left hi, hused]⟩
    · refine ⟨len, ?_⟩
      rw [List.getElem?_set_self (hlen' ▸ Nat.mod_lt _ (by omega)), List.getElem_concat_length rfl]
  · simp only [WrappingIndex.increment, UInt16.toNat_add, UInt16.toNat_one, List.length_append,
      List.length_singleton]
    rw [Nat.mod_eq_of_lt (by omega), h.usedIdx]
    omega

theorem Phases.processed (h : Phases Q queue dev P F A) :
    Phases Q { queue with lastProcessedUsedIndex := queue.usedRing.idx } dev [] F A :=
  ⟨fun i hi => absurd hi (Nat.not_lt_zero i), by simp, h.inFlight, h.avail, h.availIdx⟩

end Phases

theorem processNewEntries_spec {Q : UInt16} (hQ : isPowerOfTwo Q = true) {s : VirtQueueData D}
    {dev : Device} {P F A : List (Request D)} (h : Phases Q s.queue dev P F A)
    (hlen : s.queue.usedRing.ring.len = Q.toNat) (hdataLen : s.data.length = Q.toNat)
    (hdata : ∀ x < Q.toNat, s.data[x]? = some (dataAt (P ++ (F ++ A)) x))
    (hnodup : ((P ++ (F ++ A)).map fun req => req.head.val.toNat).Nodup)
    (hheads : ∀ req ∈ P, req.head.val.toNat < Q.toNat) :
    ∃ data calls, s.processNewEntries = some (calls, { data, queue := { s.queue with
        lastProcessedUsedIndex := s.queue.usedRing.idx } }) ∧
      data.length = Q.toNat ∧ (∀ x < Q.toNat, data[x]? = some (dataAt (F ++ A) x)) ∧
      calls.map Call.data = P.map fun req => some req.data := by
  have hidx := h.usedIdx
  have hlt := s.queue.usedRing.idx.val.toNat_lt
  obtain ⟨data, calls, hfold, hlen', hdata', hcalls⟩ := processLoop_spec hQ hlen P (F ++ A)
    s.queue.lastProcessedUsedIndex.val.toNat s.data [] (by omega) h.used hdataLen hdata hnodup
    hheads
  -- the range of `process_new_entries` is that of the used elements of `P`
  have hrange : u16Range s.queue.lastProcessedUsedIndex.val s.queue.usedRing.idx.val =
      (List.range' s.queue.lastProcessedUsedIndex.val.toNat P.length).map Nat.toUInt16 := by
    simp only [u16Range, hidx, Nat.add_sub_cancel_left]
  refine ⟨data, calls, ?_, hlen', hdata', hcalls⟩
  simp only [VirtQueueData.processNewEntries, VirtQueue.processNewEntries, hrange,
    Option.bind_eq_bind] at hfold ⊢
  rw [hfold]
  simp

theorem raw_add_mod {Q : UInt16} (hQ : isPowerOfTwo Q = true) {base n : Nat} {r : UInt16}
    (hraw : (base + n) % 2 ^ 16 = r.toNat) (j : Nat) :
    (r.toNat + j) % Q.toNat = (base + (n + j)) % Q.toNat := by
  rw [← hraw, ← Nat.add_assoc]
  exact ((Nat.mod_modEq _ _).of_dvd (isPowerOfTwo_dvd hQ)).add_right j

/-! ## The invariant -/

namespace FifoInv

variable {Q : UInt16} {s : VirtQueueData D} {dev : Device} {g : List (Request D)}

theorem nonempty (hinv : FifoInv Q s dev g) : ∀ req ∈ g, req.descriptors ≠ [] :=
  fun req hmem => (hinv.requests req hmem).1

theorem length_le_held (hinv : FifoInv Q s dev g) : g.length ≤ held g :=
  Virtio.length_le_held hinv.nonempty

theorem heads_lt (hinv : FifoInv Q s dev g) : ∀ req ∈ g, req.head.val.toNat < Q.toNat := by
  intro req hmem
  obtain ⟨base, hlaid, -⟩ := hinv.laid
  obtain ⟨o, -, hh, -⟩ := hlaid.mem req hmem
  rw [hh]
  exact Nat.mod_lt _ (isPowerOfTwo_pos hinv.size)

theorem heads_nodup (hinv : FifoInv Q s dev g) :
    (g.map fun req => req.head.val.toNat).Nodup := by
  obtain ⟨base, hlaid, -⟩ := hinv.laid
  exact hlaid.heads_nodup hinv.heldLe hinv.nonempty

theorem slot_fresh (hinv : FifoInv Q s dev g) {j : Nat} (hj : held g + j < Q.toNat) :
    ∀ req ∈ g, ∀ k < req.descriptors.length,
      (s.queue.descriptors.rawNextIndex.toNat + j) % Q.toNat ≠ (req.head.val.toNat + k) % Q.toNat := by
  intro req hmem k hk
  obtain ⟨base, hlaid, hraw⟩ := hinv.laid
  obtain ⟨o, ho, hh, -⟩ := hlaid.mem req hmem
  rw [raw_add_mod hinv.size hraw, hh, Nat.mod_add_mod, Nat.add_assoc]
  exact slot_ne base (by omega) (by omega) (by omega)

theorem collect (hinv : FifoInv Q s dev g) : ∀ req ∈ g,
    VirtQueueDescriptorChainIterator.collect s.queue.descriptors (req.descriptors.length + 1)
      ⟨some req.head⟩ = some (linked req.descriptors) := by
  intro req hmem
  obtain ⟨base, hlaid, -⟩ := hinv.laid
  obtain ⟨o, -, hh, hat⟩ := hlaid.mem req hmem
  have hv : req.head.val = ((base + o) % Q.toNat).toUInt16 := by
    rw [← hh]
    simp
  show VirtQueueDescriptorChainIterator.collect _ _ ⟨some ⟨req.head.val⟩⟩ = _
  rw [hv]
  exact collect_of_chainAt hinv.size req.descriptors (base + o) (hinv.nonempty req hmem)
    (fun d hd => ((hinv.requests req hmem).2 d hd).1) hat

theorem data_head (hinv : FifoInv Q s dev g) : ∀ req ∈ g,
    s.data[req.head.val.toNat]? = some (some req.data) := by
  intro req hmem
  rw [hinv.data _ (hinv.heads_lt req hmem), dataAt_of_mem hinv.heads_nodup hmem]

theorem addBuffer (hinv : FifoInv Q s dev g) {descriptors : List ChainedVirtQueueDescriptorElem}
    (hne : descriptors ≠ [])
    (hflags : ∀ d ∈ descriptors, d.flags.next = false ∧ d.flags.indirect = false)
    (hheld : held g + descriptors.length ≤ Q.toNat) (data : D) :
    ∃ s', s.addBuffer descriptors data = some s' ∧ FifoInv Q s' dev
      (g ++ [⟨⟨s.queue.descriptors.rawNextIndex % Q⟩, descriptors, data⟩]) := by
  have hQ := hinv.size
  have hn : 0 < descriptors.length := List.length_pos_iff.mpr hne
  obtain ⟨cells, hadd, hcellsLen, hat, hframe⟩ :=
    addDescriptor_chain hQ hinv.descLen hne (fun d hd => (hflags d hd).2) (by omega)
  have hfree : ∀ req ∈ g, req.head.val.toNat ≠ (s.queue.descriptors.rawNextIndex % Q).toNat := by
    intro req hmem heq
    apply hinv.slot_fresh (j := 0) (by omega) req hmem 0
      (List.length_pos_iff.mpr (hinv.nonempty req hmem))
    rw [Nat.add_zero, Nat.add_zero, heq, UInt16.toNat_mod, Nat.mod_mod]
  have hempty : s.data[(s.queue.descriptors.rawNextIndex % Q).toNat]? = some none := by
    rw [hinv.data _ (mod_toNat_lt hQ _), dataAt_eq_none hfree]
  refine ⟨_, addBuffer_eq hQ hinv.availLen hadd data hempty, ?_⟩
  obtain ⟨base, hlaid, hraw⟩ := hinv.laid
  obtain ⟨P, F, A, hg, hph⟩ := hinv.phases
  have hrslot : s.queue.descriptors.rawNextIndex.toNat % Q.toNat = (base + held g) % Q.toNat := by
    simpa using raw_add_mod hQ hraw 0
  have hA : A.length < Q.toNat := by
    have hAg : A.length ≤ g.length := by
      rw [hg, List.length_append]
      omega
    have := hinv.length_le_held
    omega
  refine ⟨hQ, hcellsLen, by simpa [VolatileArrayRW.len] using hinv.availLen, hinv.usedLen,
    by simpa using hinv.dataLen, ?_, by simp; omega, ?_, ?_,
    ⟨P, F, A ++ [⟨⟨s.queue.descriptors.rawNextIndex % Q⟩, descriptors, data⟩], by rw [hg]; simp,
      hph.addEntry hQ hinv.availLen hA ⟨⟨s.queue.descriptors.rawNextIndex % Q⟩, descriptors, data⟩ _⟩⟩
  · intro req hmem
    rcases List.mem_append.mp hmem with hmem | hmem
    · exact hinv.requests req hmem
    · rw [List.mem_singleton] at hmem
      subst hmem
      exact ⟨hne, hflags⟩
  · -- the chains already there keep their slots, and the new one lies after them
    refine ⟨base, laid_append.mpr ⟨hlaid.frame fun o ho => hframe _ fun j hj => ?_,
      ⟨by rw [UInt16.toNat_mod, hrslot], chainAt_congr hrslot hat, trivial⟩⟩, ?_⟩
    · rw [raw_add_mod hQ hraw]
      exact slot_ne base (by omega) (by omega) (by omega)
    · simp only [held_append, held_cons, held_nil, UInt16.toNat_add, UInt16.toNat_ofNat']
      rw [← hraw]
      omega
  · intro x hx
    rw [dataAt_append]
    by_cases hxr : x = (s.queue.descriptors.rawNextIndex % Q).toNat
    · subst hxr
      rw [List.getElem?_set_self (by rw [hinv.dataLen]; exact mod_toNat_lt hQ _),
        dataAt_eq_none hfree]
      simp [dataAt]
    · have hxr' : s.queue.descriptors.rawNextIndex.toNat % Q.toNat ≠ x := by
        rw [← UInt16.toNat_mod]
        exact Ne.symm hxr
      rw [List.getElem?_set_ne (Ne.symm hxr), hinv.data x hx]
      simp [dataAt, hxr']

theorem take (hinv : FifoInv Q s dev g) {dev' : Device} (h : dev.take s.queue = some dev') :
    FifoInv Q s dev' g := by
  obtain ⟨P, F, A, hg, hph⟩ := hinv.phases
  unfold Device.take at h
  split at h
  · cases h
  · rename_i hne
    cases A with
    | nil =>
        -- nothing available: the device's position is the ring's index
        have hidx := hph.availIdx
        have hlt := dev.lastAvailIdx.toNat_lt
        exact absurd (UInt16.toNat_inj.mp (by simp only [List.length_nil, Nat.add_zero] at hidx; omega))
          hne
    | cons a A' =>
        have ha := hph.avail 0 (by simp)
        simp only [Nat.add_zero, List.getElem_cons_zero] at ha
        simp only [VolatileArrayRW.read, hinv.availLen, ha, Option.bind_eq_bind, Option.bind_some,
          Option.some.injEq] at h
        subst h
        exact { hinv with phases := ⟨P, F ++ [a], A', by rw [hg]; simp, hph.take hinv.size⟩ }

theorem publish (hinv : FifoInv Q s dev g) {head : DescIndex} {len : UInt32} {dev' : Device}
    {queue : VirtQueue} (hfirst : dev.inFlight.head? = some head)
    (hwrap : s.queue.usedRing.idx.val.toNat < 2 ^ 16 - 1)
    (h : dev.publish s.queue head len = some (dev', queue)) : FifoInv Q { s with queue } dev' g := by
  obtain ⟨P, F, A, hg, hph⟩ := hinv.phases
  cases F with
  | nil => simp [hph.inFlight] at hfirst
  | cons f F' =>
      have hhead : f.head = head := by simpa [hph.inFlight] using hfirst
      subst hhead
      have hP : P.length < Q.toNat := by
        have hlen : g.length ≤ held g := hinv.length_le_held
        have := hinv.heldLe
        rw [hg] at hlen this
        simp only [List.length_append, List.length_cons] at hlen
        omega
      rw [publish_eq (by simp [hph.inFlight])
        (by rw [hinv.usedLen]; exact isPowerOfTwo_pos hinv.size) len] at h
      obtain ⟨rfl, rfl⟩ := Prod.mk.inj (Option.some.inj h)
      exact { hinv with
        usedLen := by simpa [VolatileArrayRW.len] using hinv.usedLen
        phases := ⟨P ++ [f], F', A, by rw [hg]; simp,
          hph.publish hinv.usedLen hP hwrap rfl len⟩ }

theorem process (hinv : FifoInv Q s dev g) {calls : List (Call D)} {s' : VirtQueueData D}
    (h : s.processNewEntries = some (calls, s')) : FifoInv Q s' dev (g.drop calls.length) := by
  have hQ := hinv.size
  obtain ⟨base, hlaid, hraw⟩ := hinv.laid
  obtain ⟨P, F, A, hg, hph⟩ := hinv.phases
  rw [List.append_assoc] at hg
  subst hg
  obtain ⟨data, calls', hproc, hdataLen, hdata, hcalls⟩ := processNewEntries_spec hQ hph
    hinv.usedLen hinv.dataLen hinv.data hinv.heads_nodup
    (fun req hmem => hinv.heads_lt req (List.mem_append_left _ hmem))
  rw [hproc] at h
  obtain ⟨rfl, rfl⟩ := Prod.mk.inj (Option.some.inj h)
  have hcount : calls'.length = P.length := by simpa using congrArg List.length hcalls
  rw [hcount, List.drop_left]
  -- the chains of `F ++ A` lie after those of `P`
  have hrest := (laid_append.mp hlaid).2
  have hheld := hinv.heldLe
  rw [held_append] at hheld hraw
  exact ⟨hQ, hinv.descLen, hinv.availLen, hinv.usedLen, hdataLen,
    fun req hmem => hinv.requests req (List.mem_append_right _ hmem), by omega,
    ⟨base + held P, hrest, by rw [← hraw, Nat.add_assoc]⟩, hdata, ⟨[], F, A, rfl, hph.processed⟩⟩

theorem step {st st' : FifoState D} (hinv : FifoInv Q st.1 st.2.1 st.2.2) (h : FifoStep Q st st') :
    FifoInv Q st'.1 st'.2.1 st'.2.2 := by
  cases h with
  | addBuffer descriptors data hne hflags hheld h =>
      obtain ⟨s', hs', hinv'⟩ := hinv.addBuffer hne hflags hheld data
      obtain rfl := Option.some.inj (h.symm.trans hs')
      exact hinv'
  | take h => exact hinv.take h
  | publish head len hfirst hwrap h => exact hinv.publish hfirst hwrap h
  | process h => exact hinv.process h

end FifoInv

theorem fifoInv_init {Q : UInt16} {q : VirtQueue} (hq : VirtQueue.allocate Q = some q) :
    FifoInv Q (VirtQueueData.new q : VirtQueueData D) Device.init [] := by
  unfold VirtQueue.allocate at hq
  split at hq
  · cases hq
    refine ⟨by assumption, by simp [VirtQueueData.new, VolatileArrayRW.len],
      by simp [VirtQueueData.new, VolatileArrayRW.len], by simp [VirtQueueData.new, VolatileArrayRW.len],
      by simp [VirtQueueData.new, VolatileArrayRW.len], fun _ h => (List.not_mem_nil h).elim,
      Nat.zero_le _, ⟨0, trivial, rfl⟩, fun x hx => ?_,
      ⟨[], [], [], rfl, fun _ hi => (Nat.not_lt_zero _ hi).elim, rfl, rfl,
        fun _ hi => (Nat.not_lt_zero _ hi).elim, rfl⟩⟩
    simp [VirtQueueData.new, VolatileArrayRW.len, hx]
  · cases hq

theorem fifoInv_reachable {Q : UInt16} {q : VirtQueue} (hq : VirtQueue.allocate Q = some q)
    {st : FifoState D}
    (h : Relation.ReflTransGen (FifoStep Q) ((VirtQueueData.new q : VirtQueueData D), Device.init, []) st) :
    FifoInv Q st.1 st.2.1 st.2.2 :=
  Reach.invariant (I := fun st => FifoInv Q st.1 st.2.1 st.2.2) (fifoInv_init hq)
    (fun _ _ hinv hstep => hinv.step hstep) h

/-- On a device that finishes chains in order, from a new queue: every outstanding chain reads
back through the iterator as `add_descriptor` laid it, and the slot of its head holds its data;
the heads are distinct; and `add_buffer` of a chain that fits beside the outstanding ones takes
slots of none of them and does not panic. -/
theorem outstanding_chains_intact {Q : UInt16} {q : VirtQueue} (hq : VirtQueue.allocate Q = some q)
    {s : VirtQueueData D} {dev : Device} {g : List (Request D)}
    (hreach : Relation.ReflTransGen (FifoStep Q)
      ((VirtQueueData.new q : VirtQueueData D), Device.init, []) (s, dev, g)) :
    (∀ req ∈ g, VirtQueueDescriptorChainIterator.collect s.queue.descriptors
        (req.descriptors.length + 1) ⟨some req.head⟩ = some (linked req.descriptors) ∧
      s.data[req.head.val.toNat]? = some (some req.data)) ∧
    (g.map Request.head).Nodup ∧
    ∀ (descriptors : List ChainedVirtQueueDescriptorElem) (data : D), descriptors ≠ [] →
      (∀ d ∈ descriptors, d.flags.next = false ∧ d.flags.indirect = false) →
      held g + descriptors.length ≤ Q.toNat →
      (∀ req ∈ g, ∀ j < descriptors.length, ∀ k < req.descriptors.length,
        (s.queue.descriptors.rawNextIndex.toNat + j) % Q.toNat ≠
          (req.head.val.toNat + k) % Q.toNat) ∧
      ∃ s', s.addBuffer descriptors data = some s' := by
  have hinv : FifoInv Q s dev g := fifoInv_reachable hq hreach
  refine ⟨fun req hmem => ⟨hinv.collect req hmem, hinv.data_head req hmem⟩, ?_, ?_⟩
  · apply List.Nodup.of_map fun head : DescIndex => head.val.toNat
    simpa [List.map_map, Function.comp_def] using hinv.heads_nodup
  · intro descriptors data hne hflags hheld
    refine ⟨fun req hmem j hj => hinv.slot_fresh (by omega) req hmem, ?_⟩
    obtain ⟨s', hs', -⟩ := hinv.addBuffer hne hflags hheld data
    exact ⟨s', hs'⟩

/-- On a queue of four entries: a chain of two descriptors and one of one are added, the device
takes and publishes the first, the driver processes it, and a chain of two is added across the
end of the table. -/
theorem outstanding_chains_intact_mixed :
    ∃ q, VirtQueue.allocate 4 = some q ∧ ∃ s dev g,
      Relation.ReflTransGen (FifoStep 4)
        ((VirtQueueData.new q : VirtQueueData Nat), Device.init, []) (s, dev, g) ∧
      g.map (fun req => req.descriptors.length) = [1, 2] ∧
      ((∀ req ∈ g, VirtQueueDescriptorChainIterator.collect s.queue.descriptors
          (req.descriptors.length + 1) ⟨some req.head⟩ = some (linked req.descriptors) ∧
        s.data[req.head.val.toNat]? = some (some req.data)) ∧
      (g.map Request.head).Nodup ∧
      ∀ (descriptors : List ChainedVirtQueueDescriptorElem) (data : Nat), descriptors ≠ [] →
        (∀ d ∈ descriptors, d.flags.next = false ∧ d.flags.indirect = false) →
        held g + descriptors.length ≤ (4 : UInt16).toNat →
        (∀ req ∈ g, ∀ j < descriptors.length, ∀ k < req.descriptors.length,
          (s.queue.descriptors.rawNextIndex.toNat + j) % (4 : UInt16).toNat ≠
            (req.head.val.toNat + k) % (4 : UInt16).toNat) ∧
        ∃ s', s.addBuffer descriptors data = some s') := by
  have added : Relation.ReflTransGen (FifoStep 4)
      ((VirtQueueData.new ((VirtQueue.allocate 4).get rfl) : VirtQueueData Nat), Device.init, []) _ :=
    (Relation.ReflTransGen.single (.addBuffer [⟨0x1000, 16, ⟨false, false, false⟩⟩,
      ⟨0x2000, 16, ⟨false, false, false⟩⟩] 1 (by simp) (by decide) (by decide) rfl)).tail
      (.addBuffer [⟨0x3000, 16, ⟨false, false, false⟩⟩] 2 (by simp) (by decide) (by decide) rfl)
  -- the first chain goes through the device and back to the driver
  have processed := ((added.tail (.take rfl)).tail (.publish ⟨0⟩ 0 rfl (by decide) rfl)).tail
    (.process rfl)
  have run := processed.tail (.addBuffer [⟨0x4000, 16, ⟨false, false, false⟩⟩,
    ⟨0x5000, 16, ⟨false, false, false⟩⟩] 3 (by simp) (by decide) (by decide) rfl)
  exact ⟨_, rfl, _, _, _, run, rfl, outstanding_chains_intact rfl run⟩

/-- A device that finishes a later chain first: on a queue of two entries, two requests of one
descriptor each are added and taken, the device publishes the second, and the driver processes
it. The first is still outstanding, with its data in slot `0`; the next request of one
descriptor fits beside it, but `add_descriptor` hands out slot `0` again and `add_buffer`
panics, "descriptor index 0 already has data". -/
theorem outOfOrder_reuses_slot :
    ∃ q, VirtQueue.allocate 2 = some q ∧
      ∃ s, QueueReach ((VirtQueueData.new q : VirtQueueData Nat), Device.init) s ∧
        s.1.data = [some 1, none] ∧
        s.1.addBuffer [⟨0x1000, 16, ⟨false, false, false⟩⟩] 3 = none :=
  ⟨_, rfl, _, .tail (.tail (.tail (.tail (.tail
    (.single ⟨_, .addBuffer [⟨0x1000, 16, ⟨false, false, false⟩⟩] 1 rfl⟩)
    ⟨_, .addBuffer [⟨0x1000, 16, ⟨false, false, false⟩⟩] 2 rfl⟩) ⟨_, .take rfl⟩)
    ⟨_, .take rfl⟩) ⟨_, .publish ⟨1⟩ 0 rfl⟩) ⟨_, .process rfl⟩, rfl, rfl⟩

end RustOs.Virtio
