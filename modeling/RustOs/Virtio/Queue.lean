import Mathlib.Data.List.Basic
import Mathlib.Data.UInt
import Mathlib.Logic.Relation

/-!
# Split virtqueues

`virtio/queue.rs`: the descriptor table with its atomic `raw_next_index`, the available ring the
driver writes, the used ring the device writes, and `VirtQueueData`, which keeps beside each
descriptor slot the data of the request whose chain starts there. Every index into a table is a
`u16` that wraps, reduced modulo the queue size by `to_elem_index`; `none` is a panic (a failed
`assert!`, an index out of bounds, an `expect` on `None`).

The callback of `process_new_entries` is a `FnMut`: here it threads a state of its own, and
`VirtQueueData::process_new_entries` returns the list of the calls its caller's callback
receives.

The device is not part of the repository. `Device` is the device the virtio specification
describes: it reads the available ring in order, works on the chains it took in any order, and
publishes one used element per finished chain by advancing the used `idx` modulo `2^16`.
-/

namespace RustOs.Virtio

/-- `VolatileArrayRW<T>`: `read` and `write` assert that the index is in bounds. -/
structure VolatileArrayRW (α : Type) where
  cells : List α
  deriving DecidableEq, Repr

namespace VolatileArrayRW

variable {α : Type}

def len (self : VolatileArrayRW α) : Nat := self.cells.length

def read (self : VolatileArrayRW α) (index : Nat) : Option α := self.cells[index]?

def write (self : VolatileArrayRW α) (index : Nat) (val : α) : Option (VolatileArrayRW α) :=
  if index < self.len then some ⟨self.cells.set index val⟩ else none

end VolatileArrayRW

/-- `u16::is_power_of_two`. -/
def isPowerOfTwo (x : UInt16) : Bool := (List.range 16).any fun k => x.toNat == 2 ^ k

/-- `WrappingIndex(u16)`. -/
structure WrappingIndex where
  val : UInt16
  deriving DecidableEq, Repr

namespace WrappingIndex

/-- `wrapping_add(1)`. -/
def increment (self : WrappingIndex) : WrappingIndex := ⟨self.val + 1⟩

def toElemIndex (self : WrappingIndex) (queueSize : UInt16) : Option UInt16 :=
  if isPowerOfTwo queueSize then some (self.val % queueSize) else none

end WrappingIndex

/-- `DescIndex(u16)`. -/
structure DescIndex where
  val : UInt16
  deriving DecidableEq, Repr

/-- `VirtQueueDescriptorFlags`, a `u16` bitfield; the padding bits are left out. -/
structure VirtQueueDescriptorFlags where
  next : Bool
  deviceWrite : Bool
  indirect : Bool
  deriving DecidableEq, Repr

structure ChainedVirtQueueDescriptorElem where
  addr : UInt64
  len : UInt32
  flags : VirtQueueDescriptorFlags
  deriving DecidableEq, Repr

structure RawVirtQueueDescriptor where
  addr : UInt64
  len : UInt32
  flags : VirtQueueDescriptorFlags
  next : DescIndex
  deriving DecidableEq, Repr

structure VirtQueueUsedElem where
  id : UInt32
  len : UInt32
  deriving DecidableEq, Repr

/-- `desc_index`: the spec's `u32` id, which must fit a `u16`. -/
def VirtQueueUsedElem.descIndex (self : VirtQueueUsedElem) : Option DescIndex :=
  if self.id.toNat < 2 ^ 16 then some ⟨self.id.toUInt16⟩ else none

/-! ## The descriptor table -/

structure VirtQueueDescriptorTable where
  rawNextIndex : UInt16
  descriptors : VolatileArrayRW RawVirtQueueDescriptor
  deriving DecidableEq, Repr

namespace VirtQueueDescriptorTable

/-- `fetch_add(1)` on `raw_next_index`: the old value, and the table with the new one. -/
def nextIndex (self : VirtQueueDescriptorTable) : WrappingIndex × VirtQueueDescriptorTable :=
  (⟨self.rawNextIndex⟩, { self with rawNextIndex := self.rawNextIndex + 1 })

/-- `modify_mut` of the previous descriptor: it now continues at `idx`. -/
def linkPrevious (self : VirtQueueDescriptorTable) (prevIndex idx : DescIndex) :
    Option VirtQueueDescriptorTable := do
  let desc ← self.descriptors.read prevIndex.val.toNat
  let desc := { desc with flags := { desc.flags with next := true }, next := idx }
  let descriptors ← self.descriptors.write prevIndex.val.toNat desc
  some { self with descriptors }

/-- The `for` loop of `add_descriptor`, with its `first_idx` and `prev_idx`. -/
def addDescriptorLoop : VirtQueueDescriptorTable → Option DescIndex → Option DescIndex →
    List ChainedVirtQueueDescriptorElem → Option (Option DescIndex × VirtQueueDescriptorTable)
  | self, firstIdx, _, [] => some (firstIdx, self)
  | self, firstIdx, prevIdx, desc :: descs => do
      let (next, self) := self.nextIndex
      let idx ← next.toElemIndex self.descriptors.len.toUInt16
      let idx : DescIndex := ⟨idx⟩
      let firstIdx := firstIdx.getD idx
      let self ← match prevIdx with
        | some prevIndex => self.linkPrevious prevIndex idx
        | none => some self
      if desc.flags.indirect then none
      else
        let descriptor : RawVirtQueueDescriptor := ⟨desc.addr, desc.len, desc.flags, ⟨0⟩⟩
        let descriptors ← self.descriptors.write idx.val.toNat descriptor
        addDescriptorLoop { self with descriptors } (some firstIdx) (some idx) descs

/-- `add_descriptor`: the index of the first descriptor of the chain. -/
def addDescriptor (self : VirtQueueDescriptorTable)
    (descriptors : List ChainedVirtQueueDescriptorElem) :
    Option (DescIndex × VirtQueueDescriptorTable) := do
  let (firstIdx, self) ← addDescriptorLoop self none none descriptors
  let firstIdx ← firstIdx
  some (firstIdx, self)

def getDescriptor (self : VirtQueueDescriptorTable) (index : DescIndex) :
    Option RawVirtQueueDescriptor :=
  self.descriptors.read index.val.toNat

end VirtQueueDescriptorTable

/-- `VirtQueueDescriptorChainIterator`, without the reference to its table. -/
structure VirtQueueDescriptorChainIterator where
  currentIndex : Option DescIndex
  deriving DecidableEq, Repr

/-- `Iterator::next` over the table `descriptors`; the outer `none` is a panic. -/
def VirtQueueDescriptorChainIterator.next (descriptors : VirtQueueDescriptorTable)
    (self : VirtQueueDescriptorChainIterator) :
    Option (Option (ChainedVirtQueueDescriptorElem × VirtQueueDescriptorChainIterator)) :=
  match self.currentIndex with
  | none => some none
  | some currentIndex => do
      let descriptor ← descriptors.getDescriptor currentIndex
      let self : VirtQueueDescriptorChainIterator :=
        if descriptor.flags.next then ⟨some descriptor.next⟩ else ⟨none⟩
      some (some (⟨descriptor.addr, descriptor.len, descriptor.flags⟩, self))

/-! ## The rings -/

structure VirtQueueAvailRing where
  idx : WrappingIndex
  ring : VolatileArrayRW DescIndex
  deriving DecidableEq, Repr

/-- `add_entry`; the `%` panics on a ring of length `0 mod 2^16`. -/
def VirtQueueAvailRing.addEntry (self : VirtQueueAvailRing) (descIndex : DescIndex) :
    Option VirtQueueAvailRing := do
  let len := self.ring.len.toUInt16
  if len = 0 then none
  else
    let idx := self.idx.val % len
    let ring ← self.ring.write idx.toNat descIndex
    some { idx := self.idx.increment, ring }

structure VirtQueueUsedRing where
  idx : WrappingIndex
  ring : VolatileArrayRW VirtQueueUsedElem
  deriving DecidableEq, Repr

def VirtQueueUsedRing.getUsedElem (self : VirtQueueUsedRing) (idx : WrappingIndex) :
    Option VirtQueueUsedElem := do
  let elemIdx ← idx.toElemIndex self.ring.len.toUInt16
  self.ring.read elemIdx.toNat

/-! ## The queue -/

/-- `VirtQueue`; its index and notification fields only serve `notify_device`. -/
structure VirtQueue where
  descriptors : VirtQueueDescriptorTable
  availRing : VirtQueueAvailRing
  usedRing : VirtQueueUsedRing
  lastProcessedUsedIndex : WrappingIndex
  deriving DecidableEq, Repr

def u16Range (start stop : UInt16) : List UInt16 :=
  (List.range' start.toNat (stop.toNat - start.toNat)).map Nat.toUInt16

namespace VirtQueue

def getUsedRingEntry (self : VirtQueue) (index : WrappingIndex) :
    Option (VirtQueueUsedElem × VirtQueueDescriptorChainIterator) := do
  let usedElem ← self.usedRing.getUsedElem index
  let idx ← usedElem.descIndex
  some (usedElem, ⟨some idx⟩)

/-- `VirtQueue::process_new_entries` with a callback `f` that threads a state `σ`. -/
def processNewEntries {σ : Type} (self : VirtQueue)
    (f : σ → VirtQueueUsedElem → VirtQueueDescriptorChainIterator → Option σ) (acc : σ) :
    Option (σ × VirtQueue) := do
  let usedIndex := self.usedRing.idx
  let lastProcessed := self.lastProcessedUsedIndex
  let acc ← (u16Range lastProcessed.val usedIndex.val).foldlM (fun acc i => do
    let (usedElem, chain) ← self.getUsedRingEntry ⟨i⟩
    f acc usedElem chain) acc
  some (acc, { self with lastProcessedUsedIndex := usedIndex })

end VirtQueue

/-- `VirtQueueData<D>`: beside descriptor slot `i`, the data of the request whose chain starts
there. -/
structure VirtQueueData (D : Type) where
  data : List (Option D)
  queue : VirtQueue
  deriving DecidableEq, Repr

/-- The zeroed memory `allocate` gives a descriptor. -/
def RawVirtQueueDescriptor.zero : RawVirtQueueDescriptor := ⟨0, 0, ⟨false, false, false⟩, ⟨0⟩⟩

/-- The three `allocate`s of a queue of `queueSize` entries and `VirtQueue::new`: zeroed
tables, every index at `0`. The descriptor table asserts that the size is a power of two. -/
def VirtQueue.allocate (queueSize : UInt16) : Option VirtQueue :=
  if isPowerOfTwo queueSize then
    let n := queueSize.toNat
    some { descriptors := ⟨0, ⟨List.replicate n RawVirtQueueDescriptor.zero⟩⟩
           availRing := ⟨⟨0⟩, ⟨List.replicate n ⟨0⟩⟩⟩
           usedRing := ⟨⟨0⟩, ⟨List.replicate n ⟨0, 0⟩⟩⟩
           lastProcessedUsedIndex := ⟨0⟩ }
  else none

/-- One call of the callback of `VirtQueueData::process_new_entries`. -/
structure Call (D : Type) where
  usedElem : VirtQueueUsedElem
  chain : VirtQueueDescriptorChainIterator
  data : Option D
  deriving DecidableEq, Repr

namespace VirtQueueData

variable {D : Type}

/-- `VirtQueueData::new`: an empty data slot for each descriptor. -/
def new (queue : VirtQueue) : VirtQueueData D :=
  ⟨List.replicate queue.descriptors.descriptors.len none, queue⟩

/-- `add_buffer`: the data goes into the slot of the chain's first descriptor, which must be
empty, before the chain goes onto the available ring. -/
def addBuffer (self : VirtQueueData D) (descriptors : List ChainedVirtQueueDescriptorElem)
    (data : D) : Option (VirtQueueData D) := do
  let (descIndex, table) ← self.queue.descriptors.addDescriptor descriptors
  let previousData ← self.data[descIndex.val.toNat]?
  let dataVec := self.data.set descIndex.val.toNat (some data)
  if previousData.isSome then none
  else
    let availRing ← self.queue.availRing.addEntry descIndex
    some { data := dataVec, queue := { self.queue with descriptors := table, availRing } }

/-- The closure `VirtQueueData::process_new_entries` passes down: take the data of the head. -/
def takeData (acc : List (Option D) × List (Call D)) (usedEntry : VirtQueueUsedElem)
    (chain : VirtQueueDescriptorChainIterator) : Option (List (Option D) × List (Call D)) := do
  let descIndex ← usedEntry.descIndex
  let data ← acc.1[descIndex.val.toNat]?
  some (acc.1.set descIndex.val.toNat none, acc.2 ++ [⟨usedEntry, chain, data⟩])

/-- `process_new_entries`: the calls of the callback, in order. -/
def processNewEntries (self : VirtQueueData D) : Option (List (Call D) × VirtQueueData D) := do
  let ((data, calls), queue) ← self.queue.processNewEntries takeData (self.data, [])
  some (calls, { data, queue })

end VirtQueueData

/-! ## The device -/

/-- The device of the virtio specification: how far it has read the available ring, and the
heads of the chains it took and has not finished. -/
structure Device where
  lastAvailIdx : UInt16
  inFlight : List DescIndex
  deriving DecidableEq, Repr

namespace Device

def init : Device := ⟨0, []⟩

/-- The device takes the next available chain. -/
def take (dev : Device) (queue : VirtQueue) : Option Device :=
  if dev.lastAvailIdx = queue.availRing.idx.val then none
  else do
    let len := queue.availRing.ring.len
    let head ← queue.availRing.ring.read (dev.lastAvailIdx.toNat % len)
    some { lastAvailIdx := dev.lastAvailIdx + 1, inFlight := dev.inFlight ++ [head] }

/-- The device finishes the chain at `head`, having written `len` bytes, and publishes it. -/
def publish (dev : Device) (queue : VirtQueue) (head : DescIndex) (len : UInt32) :
    Option (Device × VirtQueue) :=
  if head ∈ dev.inFlight then do
    let slot := queue.usedRing.idx.val.toNat % queue.usedRing.ring.len
    let ring ← queue.usedRing.ring.write slot ⟨head.val.toUInt32, len⟩
    some ({ dev with inFlight := dev.inFlight.erase head },
      { queue with usedRing := { idx := queue.usedRing.idx.increment, ring } })
  else none

end Device

/-- One step of the driver or of the device on one queue. `process` records the calls of the
callback. -/
inductive QueueStep {D : Type} :
    VirtQueueData D × Device → List (Call D) → VirtQueueData D × Device → Prop
  | addBuffer {s s' : VirtQueueData D} {dev : Device}
      (descriptors : List ChainedVirtQueueDescriptorElem) (data : D)
      (h : s.addBuffer descriptors data = some s') : QueueStep (s, dev) [] (s', dev)
  | take {s : VirtQueueData D} {dev dev' : Device} (h : dev.take s.queue = some dev') :
      QueueStep (s, dev) [] (s, dev')
  | publish {s : VirtQueueData D} {dev dev' : Device} {queue : VirtQueue} (head : DescIndex)
      (len : UInt32) (h : dev.publish s.queue head len = some (dev', queue)) :
      QueueStep (s, dev) [] ({ s with queue }, dev')
  | process {s s' : VirtQueueData D} {dev : Device} {calls : List (Call D)}
      (h : s.processNewEntries = some (calls, s')) : QueueStep (s, dev) calls (s', dev)

def QueueReach {D : Type} : VirtQueueData D × Device → VirtQueueData D × Device → Prop :=
  Relation.ReflTransGen fun a b => ∃ calls, QueueStep a calls b

end RustOs.Virtio
