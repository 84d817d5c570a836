import RustOs.Virtio.Queue
import Mathlib.Data.Nat.Factorization.Basic

/-!
# What each queue operation does

One lemma per operation of `Virtio.Queue`, for a queue whose size `Q` is a power of two and
whose tables have `Q` entries: the index a wrapping `u16` selects is the value modulo `Q`, and
because `Q` divides `2^16` the slot of `k + 1` follows the slot of `k` also where `k + 1` wraps
to `0`. The `u16` range of `process_new_entries` is the one operation that does not wrap: from
`65535` to `0` it is empty.
-/

namespace RustOs.Virtio

/-! ## Power-of-two sizes and wrapping indices -/

section Wrapping

variable {Q : UInt16}

theorem isPowerOfTwo_iff : isPowerOfTwo Q = true ↔ ∃ k < 16, Q.toNat = 2 ^ k := by
  simp [isPowerOfTwo]

theorem isPowerOfTwo_dvd (hQ : isPowerOfTwo Q = true) : Q.toNat ∣ 2 ^ 16 := by
  obtain ⟨k, hk, hQk⟩ := isPowerOfTwo_iff.mp hQ
  rw [hQk]
  exact Nat.pow_dvd_pow 2 hk.le

theorem isPowerOfTwo_pos (hQ : isPowerOfTwo Q = true) : 0 < Q.toNat := by
  obtain ⟨k, -, hQk⟩ := isPowerOfTwo_iff.mp hQ
  rw [hQk]
  exact Nat.two_pow_pos k

theorem toUInt16_toNat_self : Q.toNat.toUInt16 = Q := by
  simp

theorem toElemIndex_eq (hQ : isPowerOfTwo Q = true) (w : WrappingIndex) :
    w.toElemIndex Q = some (w.val % Q) := by
  simp [WrappingIndex.toElemIndex, hQ]

theorem mod_toNat_lt (hQ : isPowerOfTwo Q = true) (k : UInt16) : (k % Q).toNat < Q.toNat := by
  rw [UInt16.toNat_mod]
  exact Nat.mod_lt _ (isPowerOfTwo_pos hQ)

theorem succ_mod_toNat (hQ : isPowerOfTwo Q = true) (k : UInt16) :
    ((k + 1) % Q).toNat = (k.toNat + 1) % Q.toNat := by
  rw [UInt16.toNat_mod, UInt16.toNat_add, UInt16.toNat_one]
  exact Nat.mod_mod_of_dvd _ (isPowerOfTwo_dvd hQ)

end Wrapping

/-! ## Arrays -/

namespace VolatileArrayRW

variable {α : Type} {a : VolatileArrayRW α} {i : Nat}

theorem write_eq (h : i < a.len) (v : α) : a.write i v = some ⟨a.cells.set i v⟩ := by
  simp [write, h]

@[simp] theorem len_mk (l : List α) : (⟨l⟩ : VolatileArrayRW α).len = l.length := rfl

end VolatileArrayRW

/-! ## The `u16` range -/

theorem u16Range_eq_nil {a b : UInt16} (h : b.toNat ≤ a.toNat) : u16Range a b = [] := by
  simp [u16Range, Nat.sub_eq_zero_of_le h]

theorem u16Range_succ {a : UInt16} (h : a.toNat < 2 ^ 16 - 1) : u16Range a (a + 1) = [a] := by
  have hsucc : (a + 1).toNat = a.toNat + 1 := by
    rw [UInt16.toNat_add, UInt16.toNat_one]
    omega
  simp [u16Range, hsucc]

theorem u16Range_wrap : u16Range 65535 (65535 + 1) = [] := by
  decide

/-! ## Used elements -/

theorem descIndex_of_toUInt32 (v : UInt16) (len : UInt32) :
    (⟨v.toUInt32, len⟩ : VirtQueueUsedElem).descIndex = some ⟨v⟩ := by
  have hlt : v.toUInt32.toNat < 2 ^ 16 := by
    rw [UInt16.toNat_toUInt32]
    exact v.toNat_lt
  simp only [VirtQueueUsedElem.descIndex, hlt, if_true, Option.some.injEq, DescIndex.mk.injEq]
  exact UInt16.toUInt16_toUInt32 v

/-! ## `process_new_entries` -/

theorem processNewEntries_of_range_nil {D : Type} (s : VirtQueueData D)
    (h : u16Range s.queue.lastProcessedUsedIndex.val s.queue.usedRing.idx.val = []) :
    s.processNewEntries = some ([], { s with queue := { s.queue with
      lastProcessedUsedIndex := s.queue.usedRing.idx } }) := by
  simp [VirtQueueData.processNewEntries, VirtQueue.processNewEntries, h]

theorem processNewEntries_single {D : Type} {Q : UInt16} (hQ : isPowerOfTwo Q = true)
    {s : VirtQueueData D} (hlen : s.queue.usedRing.ring.len = Q.toNat) {i : UInt16}
    (hrange : u16Range s.queue.lastProcessedUsedIndex.val s.queue.usedRing.idx.val = [i])
    {e : VirtQueueUsedElem} (hread : s.queue.usedRing.ring.read (i % Q).toNat = some e)
    {head : DescIndex} (hhead : e.descIndex = some head) {d : Option D}
    (hdata : s.data[head.val.toNat]? = some d) :
    s.processNewEntries = some ([⟨e, ⟨some head⟩, d⟩],
      { data := s.data.set head.val.toNat none
        queue := { s.queue with lastProcessedUsedIndex := s.queue.usedRing.idx } }) := by
  rw [UInt16.toNat_mod] at hread
  simp [VirtQueueData.processNewEntries, VirtQueue.processNewEntries, hrange,
    VirtQueue.getUsedRingEntry, VirtQueueUsedRing.getUsedElem, hlen, toElemIndex_eq hQ, hread,
    hhead, VirtQueueData.takeData, hdata]

/-! ## Adding a request -/

section Add

variable {Q : UInt16} (hQ : isPowerOfTwo Q = true)
include hQ

theorem addDescriptor_single {t : VirtQueueDescriptorTable} (hlen : t.descriptors.len = Q.toNat)
    {desc : ChainedVirtQueueDescriptorElem} (hdesc : desc.flags.indirect = false) :
    t.addDescriptor [desc] = some (⟨t.rawNextIndex % Q⟩, ⟨t.rawNextIndex + 1,
      ⟨t.descriptors.cells.set (t.rawNextIndex % Q).toNat ⟨desc.addr, desc.len, desc.flags, ⟨0⟩⟩⟩⟩) := by
  have hslot := mod_toNat_lt hQ t.rawNextIndex
  simp only [VirtQueueDescriptorTable.addDescriptor, VirtQueueDescriptorTable.addDescriptorLoop,
    VirtQueueDescriptorTable.nextIndex, hlen, toUInt16_toNat_self, toElemIndex_eq hQ,
    Option.bind_eq_bind, Option.bind_some, hdesc, Bool.false_eq_true, if_false,
    VolatileArrayRW.write_eq (hlen ▸ hslot), Option.getD_none]

theorem addEntry_eq {r : VirtQueueAvailRing} (hlen : r.ring.len = Q.toNat) (descIndex : DescIndex) :
    r.addEntry descIndex =
      some ⟨r.idx.increment, ⟨r.ring.cells.set (r.idx.val % Q).toNat descIndex⟩⟩ := by
  have hslot := mod_toNat_lt hQ r.idx.val
  have hQ0 : Q ≠ 0 := fun h => by simpa [h] using isPowerOfTwo_pos hQ
  simp only [VirtQueueAvailRing.addEntry, hlen, toUInt16_toNat_self, hQ0, if_false,
    Option.bind_eq_bind, VolatileArrayRW.write_eq (hlen ▸ hslot), Option.bind_some]

theorem addBuffer_eq {D : Type} {s : VirtQueueData D}
    (havail_len : s.queue.availRing.ring.len = Q.toNat)
    {descriptors : List ChainedVirtQueueDescriptorElem} {descIndex : DescIndex}
    {table : VirtQueueDescriptorTable}
    (hadd : s.queue.descriptors.addDescriptor descriptors = some (descIndex, table)) (data : D)
    (hempty : s.data[descIndex.val.toNat]? = some none) :
    s.addBuffer descriptors data = some
      { data := s.data.set descIndex.val.toNat (some data)
        queue := { s.queue with
          descriptors := table
          availRing := ⟨s.queue.availRing.idx.increment,
            ⟨s.queue.availRing.ring.cells.set (s.queue.availRing.idx.val % Q).toNat descIndex⟩⟩ } } := by
  simp only [VirtQueueData.addBuffer, hadd, Option.bind_eq_bind, Option.bind_some, hempty,
    Option.isSome_none, Bool.false_eq_true, if_false, addEntry_eq hQ havail_len]

theorem addBuffer_single {D : Type} {s : VirtQueueData D}
    (hdesc_len : s.queue.descriptors.descriptors.len = Q.toNat)
    (havail_len : s.queue.availRing.ring.len = Q.toNat)
    {desc : ChainedVirtQueueDescriptorElem} (hdesc : desc.flags.indirect = false) (data : D)
    (hempty : s.data[(s.queue.descriptors.rawNextIndex % Q).toNat]? = some none) :
    s.addBuffer [desc] data = some
      { data := s.data.set (s.queue.descriptors.rawNextIndex % Q).toNat (some data)
        queue := { s.queue with
          descriptors := ⟨s.queue.descriptors.rawNextIndex + 1,
            ⟨s.queue.descriptors.descriptors.cells.set (s.queue.descriptors.rawNextIndex % Q).toNat
              ⟨desc.addr, desc.len, desc.flags, ⟨0⟩⟩⟩⟩
          availRing := ⟨s.queue.availRing.idx.increment,
            ⟨s.queue.availRing.ring.cells.set (s.queue.availRing.idx.val % Q).toNat
              ⟨s.queue.descriptors.rawNextIndex % Q⟩⟩⟩ } } := by
  exact addBuffer_eq hQ havail_len (addDescriptor_single hQ hdesc_len hdesc) data hempty

end Add

/-! ## The device -/

theorem take_eq {dev : Device} {queue : VirtQueue}
    (hne : dev.lastAvailIdx ≠ queue.availRing.idx.val) (head : DescIndex)
    (hread : queue.availRing.ring.read (dev.lastAvailIdx.toNat % queue.availRing.ring.len) =
      some head) :
    dev.take queue = some ⟨dev.lastAvailIdx + 1, dev.inFlight ++ [head]⟩ := by
  simp only [Device.take, hne, if_false, Option.bind_eq_bind, hread, Option.bind_some]

theorem publish_eq {dev : Device} {queue : VirtQueue} {head : DescIndex}
    (hin : head ∈ dev.inFlight) (hlen : 0 < queue.usedRing.ring.len) (len : UInt32) :
    dev.publish queue head len = some ({ dev with inFlight := dev.inFlight.erase head },
      { queue with usedRing := ⟨queue.usedRing.idx.increment,
        ⟨queue.usedRing.ring.cells.set (queue.usedRing.idx.val.toNat % queue.usedRing.ring.len)
          ⟨head.val.toUInt32, len⟩⟩⟩ }) := by
  simp only [Device.publish, hin, if_true, Option.bind_eq_bind,
    VolatileArrayRW.write_eq (Nat.mod_lt _ hlen), Option.bind_some]

end RustOs.Virtio
