import BackendProxy.Lib.Bytes
import BackendProxy.Lib.Ring

namespace BackendProxy.Queue

open Lib

/-- Return codes of the queue functions. -/
inductive HyperampStatus where
  | ok
  | error
  | again
  deriving DecidableEq, Repr

/-- Return codes of the engine's functions, `BACKEND_PROXY_PROCESS_*`. -/
inductive ProcessStatus where
  | ok
  | error
  | again
  deriving DecidableEq, Repr

def ofHyperamp : HyperampStatus → ProcessStatus
  | .error => .error
  | .again => .again
  | .ok => .ok

/-- The control block, without its address mapping tables and its lock: the queue functions
never read the tables, and each of them runs as one step between lock and unlock. -/
structure HyperampShmQueue where
  mapMode1 : UInt8
  mapMode2 : UInt8
  header : UInt16
  tail : UInt16
  capacity : UInt16
  blockSize : UInt16
  reserved : UInt16
  phyAddr : UInt64
  virtAddr1 : UInt64
  virtAddr2 : UInt64
  magic : UInt32
  version : UInt32
  enqueueCount : UInt32
  dequeueCount : UInt32
  deriving DecidableEq, Repr

/-- Shared memory nobody has written to. -/
def blankControl : HyperampShmQueue :=
  { mapMode1 := 0, mapMode2 := 0, header := 0, tail := 0, capacity := 0, blockSize := 0,
    reserved := 0, phyAddr := 0, virtAddr1 := 0, virtAddr2 := 0, magic := 0, version := 0,
    enqueueCount := 0, dequeueCount := 0 }

structure HyperampQueueConfig where
  mapMode : UInt16
  capacity : UInt16
  blockSize : UInt16
  phyAddr : UInt64
  virtAddr : UInt64
  deriving DecidableEq, Repr

/-- Bytes of a data region, by their distance from `virt_base`. -/
abbrev DataRegion := Nat → UInt8

def hyperampQueueMagic : UInt32 := 0x48415150

/-- Initialisation by the creator; any other caller only records its own address. -/
def hyperampQueueInit (queue : HyperampShmQueue) (config : HyperampQueueConfig)
    (isCreator : Bool) : HyperampStatus × HyperampShmQueue :=
  if config.blockSize = 0 ∨ config.capacity = 0 then (.error, queue)
  else if isCreator then
    (.ok,
      { mapMode1 := config.mapMode.toUInt8
        mapMode2 := config.mapMode.toUInt8
        header := 0
        tail := 0
        capacity := config.capacity
        blockSize := config.blockSize
        reserved := 0
        phyAddr := config.phyAddr
        virtAddr1 := config.virtAddr
        virtAddr2 := 0
        magic := hyperampQueueMagic
        version := 1
        enqueueCount := 0
        dequeueCount := 0 })
  else (.ok, { queue with virtAddr2 := config.virtAddr })

/-- `HYPERAMP_QUEUE_IS_EMPTY` -/
def isEmpty (queue : HyperampShmQueue) : Bool := queue.tail == queue.header

/-- `HYPERAMP_QUEUE_IS_FULL` -/
def isFull (queue : HyperampShmQueue) : Bool :=
  (queue.header.toNat + 1) % queue.capacity.toNat == queue.tail.toNat

/-- `HYPERAMP_QUEUE_LENGTH`, in the `int` arithmetic the operands are promoted to. -/
def length (queue : HyperampShmQueue) : Int :=
  if queue.header ≥ queue.tail then (queue.header.toNat : Int) - queue.tail.toNat
  else (queue.capacity.toNat : Int) - queue.tail.toNat + queue.header.toNat

/-- Offset of the slot an index addresses: one block after the index itself. -/
def slotOffset (queue : HyperampShmQueue) (index : UInt16) : Nat :=
  (index.toNat + 1) * queue.blockSize.toNat

/-- The successor as `enqueue` and `dequeue` compute it, in 16 bits. -/
def nextBySubtraction (queue : HyperampShmQueue) (index : UInt16) : UInt16 :=
  let next := index + 1
  if next ≥ queue.capacity then next - queue.capacity else next

/-- The successor as `alloc_slot` and `release_slot` compute it. -/
def nextByModulo (queue : HyperampShmQueue) (index : UInt16) : UInt16 :=
  UInt16.ofNat ((index.toNat + 1) % queue.capacity.toNat)

def hyperampQueueEnqueue (queue : HyperampShmQueue) (region : DataRegion) (data : List UInt8) :
    HyperampStatus × HyperampShmQueue × DataRegion :=
  if data.length = 0 then (.error, queue, region)
  else if data.length > queue.blockSize.toNat then (.error, queue, region)
  else
    let newHeader := nextBySubtraction queue queue.header
    if newHeader = queue.tail then (.again, queue, region)
    else
      (.ok, { queue with header := newHeader, enqueueCount := queue.enqueueCount + 1 },
        store region (slotOffset queue queue.header) data)

/-- On success the third component is the caller's buffer; its length is `*actual_len`. -/
def hyperampQueueDequeue (queue : HyperampShmQueue) (region : DataRegion) (maxLen : Nat) :
    HyperampStatus × HyperampShmQueue × List UInt8 :=
  if maxLen = 0 then (.error, queue, [])
  else if queue.tail = queue.header then (.again, queue, [])
  else
    let readLen := if maxLen < queue.blockSize.toNat then maxLen else queue.blockSize.toNat
    (.ok,
      { queue with
        tail := nextBySubtraction queue queue.tail, dequeueCount := queue.dequeueCount + 1 },
      load region (slotOffset queue queue.tail) readLen)

def hyperampQueuePeek (queue : HyperampShmQueue) (region : DataRegion) (maxLen : Nat) :
    HyperampStatus × List UInt8 :=
  if maxLen = 0 then (.error, [])
  else if queue.tail = queue.header then (.error, [])
  else
    let readLen := if maxLen < queue.blockSize.toNat then maxLen else queue.blockSize.toNat
    (.ok, load region (slotOffset queue queue.tail) readLen)

/-- On success the third component is the offset of the slot handed to the caller. -/
def hyperampQueueAllocSlot (queue : HyperampShmQueue) :
    HyperampStatus × HyperampShmQueue × Nat :=
  let nextHeader := nextByModulo queue queue.header
  if nextHeader = queue.tail then (.error, queue, 0)
  else
    (.ok, { queue with header := nextHeader, enqueueCount := queue.enqueueCount + 1 },
      slotOffset queue queue.header)

def hyperampQueueReleaseSlot (queue : HyperampShmQueue) : HyperampStatus × HyperampShmQueue :=
  if queue.tail = queue.header then (.error, queue)
  else
    (.ok,
      { queue with
        tail := nextByModulo queue queue.tail, dequeueCount := queue.dequeueCount + 1 })

theorem hyperampQueueEnqueue_ok_iff {queue : HyperampShmQueue} {region : DataRegion}
    {data : List UInt8} :
    (hyperampQueueEnqueue queue region data).1 = .ok ↔
      data.length ≠ 0 ∧ data.length ≤ queue.blockSize.toNat ∧
        nextBySubtraction queue queue.header ≠ queue.tail := by
  unfold hyperampQueueEnqueue
  dsimp only
  split
  · simp_all
  · split
    · simp only [reduceCtorEq, false_iff]
      omega
    · split <;> simp_all

/-! Both ways to step an index are the successor on the ring of `capacity` cells. -/

theorem nextBySubtraction_toNat {queue : HyperampShmQueue} {index : UInt16}
    (h : index.toNat < queue.capacity.toNat) :
    (nextBySubtraction queue index).toNat = Ring.next queue.capacity.toNat index.toNat :=
  Ring.toNat_step_sub h

theorem nextByModulo_toNat {queue : HyperampShmQueue} {index : UInt16}
    (h : index.toNat < queue.capacity.toNat) :
    (nextByModulo queue index).toNat = Ring.next queue.capacity.toNat index.toNat :=
  Ring.toNat_step_mod h

theorem nextByModulo_eq {queue : HyperampShmQueue} {index : UInt16}
    (h : index.toNat < queue.capacity.toNat) :
    nextByModulo queue index = nextBySubtraction queue index := by
  rw [← UInt16.toNat_inj, nextByModulo_toNat h, nextBySubtraction_toNat h]

end BackendProxy.Queue
