import RustOs.Virtio.Ops

/-!
# `process_new_entries` loses the used elements of a wrap

`process_new_entries` calls back for the used ring indices in the `u16` range
`last_processed_used_index..idx`. The used `idx` wraps from `65535` to `0` like every
`WrappingIndex`, but the range does not: once the device has published past the wrap, the range
is empty, the published elements are never processed, and their data stays in its slot.

A queue that serves one request at a time reaches the wrap after `65535` requests. Each request
is added, taken and finished by the device and processed before the next one is added; between
two requests the queue is `Quiet`.
-/

namespace RustOs.Virtio

variable {D : Type}

structure Quiet (Q k : UInt16) (s : VirtQueueData D × Device) : Prop where
  size : isPowerOfTwo Q = true
  data : s.1.data = List.replicate Q.toNat none
  descLen : s.1.queue.descriptors.descriptors.len = Q.toNat
  availLen : s.1.queue.availRing.ring.len = Q.toNat
  usedLen : s.1.queue.usedRing.ring.len = Q.toNat
  next : s.1.queue.descriptors.rawNextIndex = k
  avail : s.1.queue.availRing.idx = ⟨k⟩
  used : s.1.queue.usedRing.idx = ⟨k⟩
  last : s.1.queue.lastProcessedUsedIndex = ⟨k⟩
  device : s.2 = ⟨k, []⟩

structure Published (Q k : UInt16) (data : D) (len : UInt32) (s : VirtQueueData D × Device) :
    Prop where
  size : isPowerOfTwo Q = true
  data : s.1.data = (List.replicate Q.toNat none).set (k % Q).toNat (some data)
  descLen : s.1.queue.descriptors.descriptors.len = Q.toNat
  availLen : s.1.queue.availRing.ring.len = Q.toNat
  usedLen : s.1.queue.usedRing.ring.len = Q.toNat
  next : s.1.queue.descriptors.rawNextIndex = k + 1
  avail : s.1.queue.availRing.idx = ⟨k + 1⟩
  used : s.1.queue.usedRing.idx = ⟨k + 1⟩
  usedElem : s.1.queue.usedRing.ring.read (k % Q).toNat = some ⟨(k % Q).toUInt32, len⟩
  last : s.1.queue.lastProcessedUsedIndex = ⟨k⟩
  device : s.2 = ⟨k + 1, []⟩

theorem quiet_new {Q : UInt16} {q : VirtQueue} (hq : VirtQueue.allocate Q = some q) :
    Quiet Q 0 ((VirtQueueData.new q : VirtQueueData D), Device.init) := by
  unfold VirtQueue.allocate at hq
  split at hq
  · cases hq
    exact ⟨by assumption, by simp [VirtQueueData.new, VolatileArrayRW.len],
      by simp [VirtQueueData.new, VolatileArrayRW.len], by simp [VirtQueueData.new, VolatileArrayRW.len],
      by simp [VirtQueueData.new, VolatileArrayRW.len], rfl, rfl, rfl, rfl, rfl⟩
  · cases hq

theorem Quiet.publish {Q k : UInt16} {s : VirtQueueData D × Device} (h : Quiet Q k s)
    {desc : ChainedVirtQueueDescriptorElem} (hdesc : desc.flags.indirect = false) (data : D)
    (len : UInt32) : ∃ s', QueueReach s s' ∧ Published Q k data len s' := by
  obtain ⟨s, dev⟩ := s
  have hQ := h.size
  have hslot : k.toNat % Q.toNat < Q.toNat := Nat.mod_lt _ (isPowerOfTwo_pos hQ)
  have hdev : dev = ⟨k, []⟩ := h.device
  have hdata : s.data = List.replicate Q.toNat none := h.data
  have hnext : s.queue.descriptors.rawNextIndex = k := h.next
  have havailIdx : s.queue.availRing.idx = ⟨k⟩ := h.avail
  have husedIdx : s.queue.usedRing.idx = ⟨k⟩ := h.used
  have hlast : s.queue.lastProcessedUsedIndex = ⟨k⟩ := h.last
  have havail : s.queue.availRing.ring.cells.length = Q.toNat := h.availLen
  have hused : s.queue.usedRing.ring.cells.length = Q.toNat := h.usedLen
  have hempty : s.data[(s.queue.descriptors.rawNextIndex % Q).toNat]? = some none := by
    simp [hdata, hnext, UInt16.toNat_mod, hslot]
  -- `add_buffer`, then the device takes the head `add_entry` wrote and publishes it
  refine ⟨_, .tail (.tail (.single ⟨[], .addBuffer _ _
    (addBuffer_single hQ h.descLen h.availLen hdesc data hempty)⟩) ⟨[], .take (take_eq ?_ ⟨k % Q⟩ ?_)⟩)
    ⟨[], .publish _ len (publish_eq (List.mem_append_right _ (List.mem_singleton_self _)) ?_ len)⟩,
    ?_⟩
  · simp [hdev, havailIdx, WrappingIndex.increment]
  · simp [hdev, havailIdx, hnext, VolatileArrayRW.read, VolatileArrayRW.len, havail,
      UInt16.toNat_mod, hslot]
  · simpa [VolatileArrayRW.len, hused] using isPowerOfTwo_pos hQ
  · refine ⟨hQ, by simp [hdata, hnext], by simpa [VolatileArrayRW.len] using h.descLen,
      by simpa [VolatileArrayRW.len] using h.availLen, by simpa [VolatileArrayRW.len] using hused,
      by simp [hnext], by simp [havailIdx, WrappingIndex.increment],
      by simp [husedIdx, WrappingIndex.increment], ?_, by simp [hlast], by simp [hdev]⟩
    simp [husedIdx, VolatileArrayRW.read, VolatileArrayRW.len, hused, UInt16.toNat_mod, hslot]

theorem Published.process {Q k : UInt16} {data : D} {len : UInt32} {s : VirtQueueData D × Device}
    (h : Published Q k data len s) (hk : k.toNat < 2 ^ 16 - 1) :
    ∃ s', QueueStep s [⟨⟨(k % Q).toUInt32, len⟩, ⟨some ⟨k % Q⟩⟩, some data⟩] s' ∧
      Quiet Q (k + 1) s' := by
  obtain ⟨s, dev⟩ := s
  have hQ := h.size
  have hslot := mod_toNat_lt hQ k
  have hdata : s.data = (List.replicate Q.toNat none).set (k % Q).toNat (some data) := h.data
  have hlast : s.queue.lastProcessedUsedIndex = ⟨k⟩ := h.last
  have hused : s.queue.usedRing.idx = ⟨k + 1⟩ := h.used
  have hrange : u16Range s.queue.lastProcessedUsedIndex.val s.queue.usedRing.idx.val = [k] := by
    rw [hlast, hused]
    exact u16Range_succ hk
  have hslotData : s.data[(k % Q).toNat]? = some (some data) := by
    rw [hdata, List.getElem?_set_self (by simpa using hslot)]
  refine ⟨_, .process (processNewEntries_single hQ h.usedLen hrange h.usedElem
    (descIndex_of_toUInt32 _ _) hslotData), ?_⟩
  -- the slot is empty again, and every index has moved on by one
  refine ⟨hQ, ?_, h.descLen, h.availLen, h.usedLen, h.next, h.avail, hused, hused, h.device⟩
  rw [hdata, List.set_set, List.set_replicate_self]

theorem Published.process_wrap {Q : UInt16} {data : D} {len : UInt32}
    {s : VirtQueueData D × Device} (h : Published Q 65535 data len s) :
    ∃ s', QueueStep s [] s' ∧ s'.1.data[(65535 % Q).toNat]? = some (some data) := by
  obtain ⟨s, dev⟩ := s
  have hslot := mod_toNat_lt h.size 65535
  have hdata : s.data = (List.replicate Q.toNat none).set (65535 % Q).toNat (some data) := h.data
  have hrange : u16Range s.queue.lastProcessedUsedIndex.val s.queue.usedRing.idx.val = [] := by
    rw [show s.queue.lastProcessedUsedIndex = ⟨65535⟩ from h.last,
      show s.queue.usedRing.idx = ⟨65535 + 1⟩ from h.used]
    exact u16Range_wrap
  refine ⟨_, .process (processNewEntries_of_range_nil s hrange), ?_⟩
  rw [hdata, List.getElem?_set_self (by simpa using hslot)]

theorem quiet_reachable {Q : UInt16} {q : VirtQueue} (hq : VirtQueue.allocate Q = some q)
    {desc : ChainedVirtQueueDescriptorElem} (hdesc : desc.flags.indirect = false) (data : D)
    (len : UInt32) : ∀ j, j < 2 ^ 16 →
      ∃ s, QueueReach ((VirtQueueData.new q : VirtQueueData D), Device.init) s ∧
        Quiet Q j.toUInt16 s := by
  intro j
  induction j with
  | zero => exact fun _ => ⟨_, .refl, quiet_new hq⟩
  | succ j ih =>
      intro hj
      obtain ⟨s, hreach, hquiet⟩ := ih (by omega)
      have hk : j.toUInt16.toNat < 2 ^ 16 - 1 := by
        rw [UInt16.toNat_ofNat']
        omega
      obtain ⟨s1, hreach1, hpub⟩ := hquiet.publish hdesc data len
      obtain ⟨s2, hstep, hquiet2⟩ := hpub.process hk
      refine ⟨s2, (hreach.trans hreach1).tail ⟨_, hstep⟩, ?_⟩
      have hsucc : (j + 1).toUInt16 = j.toUInt16 + 1 := UInt16.toNat_inj.mp (by
        rw [UInt16.toNat_add, UInt16.toNat_ofNat', UInt16.toNat_ofNat', UInt16.toNat_one]
        omega)
      rw [hsucc]
      exact hquiet2

/-- Serving requests of one descriptor one at a time on a queue of any power-of-two size, the
device publishes request `65535` and the used `idx` wraps to `0`: one used element is new, yet
`process_new_entries` makes no call, and the data of the request stays in its slot. -/
theorem processNewEntries_skips_wrap {Q : UInt16} {q : VirtQueue}
    (hq : VirtQueue.allocate Q = some q) (desc : ChainedVirtQueueDescriptorElem)
    (hdesc : desc.flags.indirect = false) (data : D) (len : UInt32) :
    ∃ s s', QueueReach ((VirtQueueData.new q : VirtQueueData D), Device.init) s ∧
      s.1.queue.usedRing.idx.val = s.1.queue.lastProcessedUsedIndex.val + 1 ∧
      s.1.queue.usedRing.ring.read (65535 % Q).toNat = some ⟨(65535 % Q).toUInt32, len⟩ ∧
      QueueStep s [] s' ∧ s'.1.data[(65535 % Q).toNat]? = some (some data) := by
  obtain ⟨s, hreach, hquiet⟩ := quiet_reachable hq hdesc data len 65535 (by omega)
  have hquiet : Quiet Q 65535 s := hquiet
  obtain ⟨s1, hreach1, hpub⟩ := hquiet.publish hdesc data len
  obtain ⟨s2, hstep, hdata⟩ := hpub.process_wrap
  refine ⟨s1, s2, hreach.trans hreach1, ?_, hpub.usedElem, hstep, hdata⟩
  rw [hpub.used, hpub.last]

/-- The block device's queue of 128 entries. -/
theorem processNewEntries_skips_wrap_128 :
    ∃ q, VirtQueue.allocate 128 = some q ∧
      ∃ s s', QueueReach ((VirtQueueData.new q : VirtQueueData Unit), Device.init) s ∧
        s.1.queue.usedRing.idx.val = s.1.queue.lastProcessedUsedIndex.val + 1 ∧
        s.1.queue.usedRing.ring.read (65535 % 128 : UInt16).toNat = some ⟨127, 0⟩ ∧
        QueueStep s [] s' ∧ s'.1.data[(65535 % 128 : UInt16).toNat]? = some (some ()) :=
  ⟨_, rfl, processNewEntries_skips_wrap rfl ⟨0, 0, ⟨false, false, false⟩⟩ rfl () 0⟩

end RustOs.Virtio
