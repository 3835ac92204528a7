import BackendProxy.Queue.ShmQueue
import Mathlib.Algebra.Ring.Int.Defs
import Mathlib.Algebra.Ring.Nat

namespace BackendProxy.Queue

open Lib

/-! The queue of `shared_mem_io`, which predates the channel: a ring of slots in one block of the
process heap. -/

/-- `ERROR_SHARED_MEM_ADDR`, which no slot has as its address. -/
def errorSharedMemAddr : UInt64 := UInt64.ofNat (2 ^ 64 - 1)

def maxMapTableEntryCount : Nat := 256

/-- `SHARE_MEM_MAP_MODE_CONTIGUOUS_BOTH` -/
def mapModeContiguousBoth : UInt8 := 0

/-- `SHARE_MEM_MAP_MODE_CONTIGUOUS_PHYS_DISCRETE_LOGICAL` -/
def mapModeDiscreteLogical : UInt8 := 1

/-- A mapping table is given by the virtual addresses of its entries. -/
structure SharedMemoryPoolQueue where
  mapMode1 : UInt8
  mapMode2 : UInt8
  header : UInt16
  tail : UInt16
  capacity : UInt16
  blockSize : UInt16
  phyAddr : UInt64
  virtAddr1 : UInt64
  virtAddr2 : UInt64
  table1 : Nat → UInt64
  table2 : Nat → UInt64

/-- What `malloc` may have left in the queue structure. -/
def blankPoolQueue : SharedMemoryPoolQueue :=
  { mapMode1 := 0, mapMode2 := 0, header := 0, tail := 0, capacity := 0, blockSize := 0,
    phyAddr := 0, virtAddr1 := 0, virtAddr2 := 0, table1 := fun _ => 0, table2 := fun _ => 0 }

/-- `capacity` and `block_size` are of type `size_t` here, while the queue keeps 16 bits. -/
structure SharedMemoryPoolQueueConfig where
  mapMode : UInt16
  phyAddr : UInt64
  virtAddr : UInt64
  capacity : UInt64
  blockSize : UInt64
  deriving DecidableEq, Repr

/-- `IS_VALID_SHM_CONF_MAP_MODE` of a configuration that is there. -/
def isValidShmConfMapMode (config : SharedMemoryPoolQueueConfig) : Bool :=
  config.mapMode == mapModeContiguousBoth.toUInt16 ||
    config.mapMode == mapModeDiscreteLogical.toUInt16

/-- Number of bytes asked of `malloc` for the slots, in the arithmetic of `size_t`. -/
def slotBytes (config : SharedMemoryPoolQueueConfig) : Nat :=
  (config.blockSize * (config.capacity + 1)).toNat

/-- `control` is the queue structure and `block` the address of the slots as `malloc` hands them
out; what is not assigned keeps the contents `malloc` left there. -/
def sharedMemPoolQueueCreateBackend (config : Option SharedMemoryPoolQueueConfig)
    (control : Option SharedMemoryPoolQueue) (block : Option UInt64) :
    Option SharedMemoryPoolQueue :=
  match config with
  | none => none
  | some config =>
    if !isValidShmConfMapMode config then none
    else
      match control with
      | none => none
      | some queue =>
        let queue :=
          { queue with
            mapMode1 := config.mapMode.toUInt8
            blockSize := config.blockSize.toUInt16
            capacity := config.capacity.toUInt16
            virtAddr1 := config.virtAddr
            phyAddr := config.phyAddr
            header := 0
            tail := 0 }
        match block with
        | none => none
        | some virtAddr => some { queue with virtAddr1 := virtAddr }

/-- `SHMP_QUEUE_ENQUEUE` -/
def shmpQueueEnqueue (queue : SharedMemoryPoolQueue) : ProcessStatus × SharedMemoryPoolQueue :=
  let header := queue.header + 1
  let header := if header ≥ queue.capacity then header - queue.capacity else header
  if header = queue.tail ∨ header ≥ queue.capacity then (.error, queue)
  else (.ok, { queue with header })

/-- `SHMP_QUEUE_DEQUEUE` -/
def shmpQueueDequeue (queue : SharedMemoryPoolQueue) : ProcessStatus × SharedMemoryPoolQueue :=
  if queue.tail = queue.header then (.error, queue)
  else
    let tail := queue.tail + 1
    (.ok, { queue with tail := if tail ≥ queue.capacity then tail - queue.capacity else tail })

/-- An `int` as a `size_t`. -/
def sizeOfInt (x : Int) : Nat := (x % 2 ^ 64).toNat

/-- `SHMP_QUEUE_USED_MEMORY` -/
def shmpQueueUsedMemory (queue : SharedMemoryPoolQueue) : Nat :=
  sizeOfInt
    (if queue.tail ≥ queue.header then (queue.tail.toNat : Int) - queue.header.toNat
      else (queue.capacity.toNat : Int) - queue.header.toNat + queue.tail.toNat) *
    queue.blockSize.toNat % 2 ^ 64

/-- `SHMP_QUEUE_SURPLUS_MEMORY` -/
def shmpQueueSurplusMemory (queue : SharedMemoryPoolQueue) : Nat :=
  sizeOfInt
    (if queue.tail ≥ queue.header then
        (queue.capacity.toNat : Int) - ((queue.tail.toNat : Int) - queue.header.toNat)
      else (queue.header.toNat : Int) - queue.tail.toNat) *
    queue.blockSize.toNat % 2 ^ 64

/-- The address `n` blocks behind the first slot; the product is an `int`. -/
def blockAddr (queue : SharedMemoryPoolQueue) (n : Nat) : UInt64 :=
  queue.virtAddr1 + UInt64.ofInt (Int.bmod (n * queue.blockSize.toNat) (2 ^ 32))

/-- `SHM_POOL_QUEUE_LOOKUP_VIRTADDR` -/
def shmPoolQueueLookupVirtaddr (queue : SharedMemoryPoolQueue) (tableId idx : Nat) : UInt64 :=
  if tableId ≠ 1 ∧ tableId ≠ 2 then errorSharedMemAddr
  else if idx ≥ queue.capacity.toNat then errorSharedMemAddr
  else if tableId = 1 then queue.table1 idx
  else queue.table2 idx

/-- The next header of `SHM_POOL_QUEUE_ALLOC_FROM_HEADER` and of the fullness test of `send_oc`. -/
def nextHeader (queue : SharedMemoryPoolQueue) : UInt16 :=
  UInt16.ofNat ((queue.header.toNat + 1) % queue.capacity.toNat)

/-- `SHM_POOL_QUEUE_ALLOC_FROM_HEADER`: the address it stores, and the queue afterwards. -/
def shmPoolQueueAllocFromHeader (queue : SharedMemoryPoolQueue) :
    UInt64 × SharedMemoryPoolQueue :=
  if nextHeader queue ≠ queue.tail then
    if mapModeContiguousBoth = queue.mapMode1 then
      (blockAddr queue (queue.header.toNat + 1), { queue with header := nextHeader queue })
    else if mapModeDiscreteLogical = queue.mapMode1 then
      (shmPoolQueueLookupVirtaddr queue 1 queue.header.toNat,
        { queue with header := nextHeader queue })
    else (errorSharedMemAddr, queue)
  else (errorSharedMemAddr, queue)

/-- The slot `ALLOC_FROM_HEADER` hands out at an index. -/
def allocAddr (queue : SharedMemoryPoolQueue) (index : Nat) : UInt64 :=
  if mapModeContiguousBoth = queue.mapMode1 then blockAddr queue (index + 1)
  else queue.table1 index

/-- `SHM_POOL_QUEUE_HEAD_ROLLBACK` -/
def shmPoolQueueHeadRollback (queue : SharedMemoryPoolQueue) : SharedMemoryPoolQueue :=
  if queue.header = queue.tail then queue
  else
    { queue with header := if queue.header = 0 then queue.capacity - 1 else queue.header - 1 }

/-- The bytes of the process, by address. -/
abbrev Memory := Nat → UInt8

def sharedMemPoolQueueSendOc (queue : SharedMemoryPoolQueue) (mem : Memory) (data : List UInt8) :
    ProcessStatus × SharedMemoryPoolQueue × Memory :=
  if queue.blockSize = 0 then (.error, queue, mem)
  else if data.length = 0 ∨ data.length > queue.blockSize.toNat then (.error, queue, mem)
  else if nextHeader queue = queue.tail then (.again, queue, mem)
  else
    let mem := Lib.store mem (blockAddr queue queue.header.toNat).toNat data
    let (ret, queue) := shmpQueueEnqueue queue
    (ret, queue, mem)

/-- What `recv_zc` returns and leaves in the caller's variables. -/
structure RecvZcAnswer where
  ret : ProcessStatus
  buffer : UInt64
  outDataSize : Nat
  deriving DecidableEq, Repr

/-- `buffer` and `outDataSize` are what the caller's variables held before the call; the second
one is never assigned. -/
def sharedMemPoolQueueRecvZc (queue : SharedMemoryPoolQueue) (buffer : UInt64)
    (outDataSize : Nat) : RecvZcAnswer × SharedMemoryPoolQueue :=
  if queue.blockSize = 0 then (⟨.error, buffer, outDataSize⟩, queue)
  else if queue.header = queue.tail then (⟨.again, buffer, outDataSize⟩, queue)
  else
    let buffer := blockAddr queue (queue.tail.toNat + 1)
    let (ret, queue) := shmpQueueDequeue queue
    (⟨ret, buffer, outDataSize⟩, queue)

/-! Each index step is the successor on the ring of `capacity` cells. -/

section Indices

variable {queue : SharedMemoryPoolQueue}

theorem nextHeader_toNat (h : queue.header.toNat < queue.capacity.toNat) :
    (nextHeader queue).toNat = Ring.next queue.capacity.toNat queue.header.toNat :=
  Ring.toNat_step_mod h

theorem nextHeader_eq_tail_iff (h : queue.header.toNat < queue.capacity.toNat) :
    nextHeader queue = queue.tail ↔
      Ring.next queue.capacity.toNat queue.header.toNat = queue.tail.toNat := by
  rw [← UInt16.toNat_inj, nextHeader_toNat h]

/-- Where `send_oc` finds room, the macro it calls moves the header on. -/
theorem shmpQueueEnqueue_of_room (h : queue.header.toNat < queue.capacity.toNat)
    (hroom : nextHeader queue ≠ queue.tail) :
    shmpQueueEnqueue queue = (.ok, { queue with header := nextHeader queue }) := by
  have hstep := Ring.toNat_step_sub h
  have hnext : (if queue.header + 1 ≥ queue.capacity then queue.header + 1 - queue.capacity
      else queue.header + 1) = nextHeader queue := by
    rw [← UInt16.toNat_inj, hstep, nextHeader_toNat h]
  have hlt : ¬ nextHeader queue ≥ queue.capacity := by
    rw [ge_iff_le, UInt16.le_iff_toNat_le, nextHeader_toNat h]
    exact Nat.not_le.mpr (Ring.next_lt h)
  simp only [shmpQueueEnqueue, hnext, hroom, hlt, or_self, if_false]

theorem shmpQueueDequeue_of_some (hne : queue.tail ≠ queue.header) :
    ∃ tail, shmpQueueDequeue queue = (.ok, { queue with tail }) ∧
      (queue.tail.toNat < queue.capacity.toNat →
        tail.toNat = Ring.next queue.capacity.toNat queue.tail.toNat) := by
  refine ⟨_, ?_, fun h => Ring.toNat_step_sub h⟩
  simp only [shmpQueueDequeue, hne, if_false]

/-- The `int` product does not overflow on a ring no larger than the mapping table. -/
theorem blockAddr_toNat {n : Nat} (hn : n ≤ maxMapTableEntryCount) :
    (blockAddr queue n).toNat =
      (queue.virtAddr1.toNat + n * queue.blockSize.toNat) % 2 ^ 64 := by
  have hb := UInt16.toNat_lt queue.blockSize
  have hprod : n * queue.blockSize.toNat ≤ 256 * 65535 :=
    Nat.mul_le_mul hn (by omega)
  have hint : Int.bmod (n * queue.blockSize.toNat) (2 ^ 32) =
      ((n * queue.blockSize.toNat : Nat) : Int) := by
    rw [← Int.natCast_mul]
    exact Int.bmod_eq_of_le (by omega) (by omega)
  have hofInt : UInt64.ofInt ((n * queue.blockSize.toNat : Nat) : Int) =
      UInt64.ofNat (n * queue.blockSize.toNat) := by
    rw [← UInt64.toNat_inj]
    simp only [UInt64.ofInt, UInt64.toNat_ofNat']
    omega
  rw [blockAddr, hint, hofInt, UInt64.toNat_add, UInt64.toNat_ofNat', Nat.add_mod_mod]

theorem allocFromHeader_full (h : nextHeader queue = queue.tail) :
    shmPoolQueueAllocFromHeader queue = (errorSharedMemAddr, queue) := by
  simp [shmPoolQueueAllocFromHeader, h]

theorem allocFromHeader_unmapped
    (hmode : ¬ (queue.mapMode1 = mapModeContiguousBoth ∨
      queue.mapMode1 = mapModeDiscreteLogical)) :
    shmPoolQueueAllocFromHeader queue = (errorSharedMemAddr, queue) := by
  obtain ⟨hcontiguous, hdiscrete⟩ := not_or.mp hmode
  simp [shmPoolQueueAllocFromHeader, Ne.symm hcontiguous, Ne.symm hdiscrete]

theorem allocFromHeader_room
    (hmode : queue.mapMode1 = mapModeContiguousBoth ∨ queue.mapMode1 = mapModeDiscreteLogical)
    (hh : queue.header.toNat < queue.capacity.toNat) (h : nextHeader queue ≠ queue.tail) :
    shmPoolQueueAllocFromHeader queue =
      (allocAddr queue queue.header.toNat, { queue with header := nextHeader queue }) := by
  unfold shmPoolQueueAllocFromHeader allocAddr
  rw [if_pos h]
  split
  · rfl
  · rename_i hne
    have hdiscrete : mapModeDiscreteLogical = queue.mapMode1 :=
      (hmode.resolve_left (Ne.symm hne)).symm
    have hidx : ¬ queue.header.toNat ≥ queue.capacity.toNat := Nat.not_le.mpr hh
    simp [hdiscrete, shmPoolQueueLookupVirtaddr, hidx]

/-- Where there is room the header moves. -/
theorem nextHeader_ne_header (hh : queue.header.toNat < queue.capacity.toNat)
    (ht : queue.tail.toNat < queue.capacity.toNat) (hroom : nextHeader queue ≠ queue.tail) :
    nextHeader queue ≠ queue.header := by
  intro h
  have hnext := nextHeader_toNat hh
  rw [h, Ring.next_eq_sub hh] at hnext
  have hsame : queue.header.toNat ≠ queue.tail.toNat := by
    intro he
    exact hroom (h.trans (UInt16.toNat_inj.mp he))
  split at hnext <;> omega

/-- The rollback takes back one allocation, across the first index too. -/
theorem headRollback_alloc (hh : queue.header.toNat < queue.capacity.toNat)
    (hroom : nextHeader queue ≠ queue.tail) :
    shmPoolQueueHeadRollback { queue with header := nextHeader queue } = queue := by
  have hnext := nextHeader_toNat hh
  have hback : (if nextHeader queue = 0 then queue.capacity - 1 else nextHeader queue - 1) =
      queue.header := by
    rw [← UInt16.toNat_inj, Ring.toNat_step_back (by omega), hnext, Ring.next_eq_sub hh]
    split <;> split <;> omega
  simp only [shmPoolQueueHeadRollback, hroom, if_false, hback]

/-- Without an allocation before it, it takes back a message that is in the queue. -/
theorem headRollback_header_eq_iff (ht : queue.tail.toNat < queue.capacity.toNat) :
    (shmPoolQueueHeadRollback queue).header = queue.header ↔ queue.header = queue.tail := by
  unfold shmPoolQueueHeadRollback
  split
  · rename_i he
    simp [he]
  · rename_i hne
    have hne' : queue.header.toNat ≠ queue.tail.toNat := fun h => hne (UInt16.toNat_inj.mp h)
    refine iff_of_false ?_ hne
    dsimp only
    rw [← UInt16.toNat_inj, Ring.toNat_step_back (by omega)]
    split <;> omega

end Indices

end BackendProxy.Queue
