import BackendProxy.Lib.Runs
import BackendProxy.Queue.PoolQueue

namespace BackendProxy.Queue

open Lib

/-! Runs of the pool queue beside the list of messages that are yet to be received. -/

/-- A message from when it gets its slot: by `ALLOC_FROM_HEADER`, after which the caller fills it,
or by `send_oc`. -/
structure StoredMessage where
  allocated : Bool
  addr : Nat
  bytes : List UInt8
  deriving DecidableEq, Repr

/-- `pending` is what a queue should hold, oldest first. -/
structure PoolRun where
  queue : SharedMemoryPoolQueue
  mem : Memory
  pending : List StoredMessage

inductive PoolOp where
  | send (data : List UInt8)
  | alloc (fill : List UInt8)
  | recv (buffer : UInt64) (outDataSize : Nat)
  deriving DecidableEq, Repr

/-- The caller of `ALLOC_FROM_HEADER` fills at most the slot it is given. -/
def PoolRun.step (s : PoolRun) : PoolOp → PoolRun × Option RecvZcAnswer
  | .send data =>
    let slot := (blockAddr s.queue s.queue.header.toNat).toNat
    let (ret, queue, mem) := sharedMemPoolQueueSendOc s.queue s.mem data
    if ret = .ok then (⟨queue, mem, s.pending ++ [⟨false, slot, data⟩]⟩, none)
    else (⟨queue, mem, s.pending⟩, none)
  | .alloc fill =>
    let (addr, queue) := shmPoolQueueAllocFromHeader s.queue
    if addr = errorSharedMemAddr then (⟨queue, s.mem, s.pending⟩, none)
    else
      let bytes := fill.take queue.blockSize.toNat
      (⟨queue, Lib.store s.mem addr.toNat bytes, s.pending ++ [⟨true, addr.toNat, bytes⟩]⟩, none)
  | .recv buffer outDataSize =>
    let (answer, queue) := sharedMemPoolQueueRecvZc s.queue buffer outDataSize
    if answer.ret = .ok then (⟨queue, s.mem, s.pending.tail⟩, some answer)
    else (⟨queue, s.mem, s.pending⟩, some answer)

def PoolRun.start (queue : SharedMemoryPoolQueue) (mem : Memory) : PoolRun := ⟨queue, mem, []⟩

/-- A slot lies in the `bytes` allocated for the queue. -/
def SlotInBlock (queue : SharedMemoryPoolQueue) (bytes addr : Nat) : Prop :=
  queue.virtAddr1.toNat ≤ addr ∧
    addr + queue.blockSize.toNat ≤ queue.virtAddr1.toNat + bytes

/-- The slots by number; the operations address them by an index or by one more than it. -/
def SlotsInBlock (queue : SharedMemoryPoolQueue) (bytes : Nat) : Prop :=
  ∀ n ≤ queue.capacity.toNat, SlotInBlock queue bytes (blockAddr queue n).toNat

/-- The accounting macros count the messages that are yet to be received. -/
def Accounted (s : PoolRun) : Prop :=
  shmpQueueUsedMemory s.queue = s.queue.blockSize.toNat * s.pending.length ∧
    shmpQueueUsedMemory s.queue + shmpQueueSurplusMemory s.queue =
      s.queue.capacity.toNat * s.queue.blockSize.toNat

/-- `recv_zc` points at the slot of the oldest message, whose bytes are still there, and sets the
size; with no message it delivers nothing. -/
def DeliversOldest (s : PoolRun) (answer : RecvZcAnswer) : Prop :=
  match s.pending with
  | [] => answer.ret ≠ .ok
  | first :: _ =>
    answer.ret = .ok ∧ answer.buffer.toNat = first.addr ∧
      load s.mem answer.buffer.toNat first.bytes.length = first.bytes ∧
      answer.outDataSize = s.queue.blockSize.toNat

/-- One operation of a queue that is first in, first out and keeps its accounts. -/
def PoolRun.KeepsOrder (bytes : Nat) (s : PoolRun) (op : PoolOp) : Prop :=
  (∀ answer ∈ (s.step op).2, DeliversOldest s answer) ∧
    (∀ m ∈ (s.step op).1.pending, SlotInBlock s.queue bytes m.addr) ∧
    Accounted (s.step op).1

def SendRefused (queue : SharedMemoryPoolQueue) (data : List UInt8) : Prop :=
  queue.blockSize = 0 ∨ data.length = 0 ∨ data.length > queue.blockSize.toNat ∨
    nextHeader queue = queue.tail

/-- A message is stored only where the ring has two cells, or in slots of no bytes; it is received
only after it got its slot by `ALLOC_FROM_HEADER`, if the table maps the entry under the tail to
the slot behind it, by a caller that holds the block size already. -/
def PoolRun.OneSlot (s : PoolRun) : PoolOp → Prop
  | .send data => s.queue.capacity = 2 ∨ SendRefused s.queue data
  | .alloc _ =>
    s.queue.capacity = 2 ∨ s.queue.blockSize = 0 ∨ nextHeader s.queue = s.queue.tail
  | .recv _ outDataSize =>
    s.queue.header = s.queue.tail ∨
      s.queue.blockSize ≠ 0 ∧ (∃ first ∈ s.pending.head?, first.allocated = true) ∧
        (s.queue.mapMode1 = mapModeContiguousBoth ∨
          s.queue.table1 s.queue.tail.toNat = blockAddr s.queue (s.queue.tail.toNat + 1)) ∧
        outDataSize = s.queue.blockSize.toNat

/-- What `malloc` promises of a block: it and the address behind it are addresses, and it has at
least one byte of its own. -/
def MallocBlock (addr : UInt64) (bytes : Nat) : Prop := addr.toNat + max 1 bytes < 2 ^ 64

instance (addr : UInt64) (bytes : Nat) : Decidable (MallocBlock addr bytes) :=
  inferInstanceAs (Decidable (_ < _))

/-- The entries of the mapping table are different slots of the queue. -/
def DistinctSlots (queue : SharedMemoryPoolQueue) : Prop :=
  (∀ i < queue.capacity.toNat, ∃ n ≤ queue.capacity.toNat,
    queue.table1 i = blockAddr queue n) ∧
  ∀ i < queue.capacity.toNat, ∀ j < queue.capacity.toNat,
    queue.table1 i = queue.table1 j → i = j

/-- What no operation changes about a queue whose slots fit the block. -/
structure Backed (queue : SharedMemoryPoolQueue) (bytes : Nat) : Prop where
  mode : queue.mapMode1 = mapModeContiguousBoth ∨ queue.mapMode1 = mapModeDiscreteLogical
  small : queue.capacity.toNat ≤ maxMapTableEntryCount
  fits : queue.blockSize.toNat * (queue.capacity.toNat + 1) ≤ bytes
  block : MallocBlock queue.virtAddr1 bytes
  table : queue.mapMode1 = mapModeDiscreteLogical → DistinctSlots queue

/-- The slot a message got at an index. -/
def StoredAt (queue : SharedMemoryPoolQueue) (index : Nat) (m : StoredMessage) : Prop :=
  m.addr = (if m.allocated then allocAddr queue index else blockAddr queue index).toNat

theorem storedAt_sent (queue : SharedMemoryPoolQueue) (i : Nat) (bytes : List UInt8) :
    StoredAt queue i ⟨false, (blockAddr queue i).toNat, bytes⟩ := by
  simp [StoredAt]

theorem storedAt_allocated (queue : SharedMemoryPoolQueue) (i : Nat) (bytes : List UInt8) :
    StoredAt queue i ⟨true, (allocAddr queue i).toNat, bytes⟩ := by
  simp [StoredAt]

/-- The unreceived messages are those of the cells between tail and header, in their order. -/
structure PoolRun.Placed (bytes : Nat) (s : PoolRun) : Prop where
  backed : Backed s.queue bytes
  ring : Ring.Holds s.queue.capacity.toNat s.queue.header.toNat s.queue.tail.toNat
    (StoredAt s.queue) s.pending
  inside : ∀ m ∈ s.pending, SlotInBlock s.queue bytes m.addr

/-- Besides, nothing was written over, since there is one message at most unless slots are empty. -/
structure PoolRun.Sound (bytes : Nat) (s : PoolRun) : Prop extends s.Placed bytes where
  contents : ∀ m ∈ s.pending, load s.mem m.addr m.bytes.length = m.bytes
  short : s.queue.blockSize = 0 ∨ s.pending = [] ∨ s.queue.capacity = 2

/-! The slots. -/

section Slots

variable {queue : SharedMemoryPoolQueue} {bytes : Nat}

/-- The slots lie in the block exactly if it has the bytes for one slot more than the capacity. -/
theorem slotsInBlock_iff (hsmall : queue.capacity.toNat ≤ maxMapTableEntryCount)
    (hblock : MallocBlock queue.virtAddr1 bytes) :
    SlotsInBlock queue bytes ↔ queue.blockSize.toNat * (queue.capacity.toNat + 1) ≤ bytes := by
  unfold MallocBlock at hblock
  have hsize : queue.blockSize.toNat * (queue.capacity.toNat + 1) =
      queue.capacity.toNat * queue.blockSize.toNat + queue.blockSize.toNat := by
    rw [Nat.mul_comm, Nat.succ_mul]
  have hb := UInt16.toNat_lt queue.blockSize
  have hprod : queue.capacity.toNat * queue.blockSize.toNat ≤ 256 * 65535 :=
    Nat.mul_le_mul hsmall (by omega)
  constructor
  · intro hall
    obtain ⟨hlow, hhigh⟩ := hall queue.capacity.toNat (Nat.le_refl _)
    rw [blockAddr_toNat hsmall] at hlow hhigh
    omega
  · intro hfits n hn
    have hn' : n * queue.blockSize.toNat ≤ queue.capacity.toNat * queue.blockSize.toNat :=
      Nat.mul_le_mul_right _ hn
    rw [SlotInBlock, blockAddr_toNat (Nat.le_trans hn hsmall)]
    omega

theorem Backed.slotsInBlock (hb : Backed queue bytes) : SlotsInBlock queue bytes :=
  (slotsInBlock_iff hb.small hb.block).mpr hb.fits

theorem Backed.blockAddr_toNat (hb : Backed queue bytes) {n : Nat}
    (hn : n ≤ queue.capacity.toNat) :
    (blockAddr queue n).toNat = queue.virtAddr1.toNat + n * queue.blockSize.toNat := by
  have hblock := hb.block
  have hn' : n * queue.blockSize.toNat ≤ bytes :=
    calc n * queue.blockSize.toNat
        ≤ (queue.capacity.toNat + 1) * queue.blockSize.toNat :=
          Nat.mul_le_mul_right _ (by omega)
      _ = queue.blockSize.toNat * (queue.capacity.toNat + 1) := Nat.mul_comm _ _
      _ ≤ bytes := hb.fits
  unfold MallocBlock at hblock
  rw [Queue.blockAddr_toNat (Nat.le_trans hn hb.small)]
  omega

theorem Backed.blockAddr_ne_error (hb : Backed queue bytes) {n : Nat}
    (hn : n ≤ queue.capacity.toNat) : blockAddr queue n ≠ errorSharedMemAddr := by
  intro herr
  have hin := (hb.slotsInBlock n hn).2
  have hblock := hb.block
  have haddr := hb.blockAddr_toNat hn
  have hval : errorSharedMemAddr.toNat = 2 ^ 64 - 1 := rfl
  rw [herr, hval] at hin haddr
  unfold MallocBlock at hblock
  have hzero : queue.blockSize.toNat = 0 := by omega
  rw [hzero] at haddr
  omega

/-- The slot of an index is one of the queue's. -/
theorem Backed.allocAddr_slot (hb : Backed queue bytes) {i : Nat}
    (hi : i < queue.capacity.toNat) :
    ∃ n ≤ queue.capacity.toNat, allocAddr queue i = blockAddr queue n := by
  unfold allocAddr
  split
  · exact ⟨i + 1, hi, rfl⟩
  · rename_i hmode
    rcases hb.mode with h | h
    · exact absurd h.symm hmode
    · exact (hb.table h).1 i hi

theorem Backed.allocAddr_toNat (hb : Backed queue bytes) {i : Nat}
    (hi : i < queue.capacity.toNat) :
    allocAddr queue i ≠ errorSharedMemAddr ∧
      SlotInBlock queue bytes (allocAddr queue i).toNat := by
  obtain ⟨n, hn, hslot⟩ := hb.allocAddr_slot hi
  rw [hslot]
  exact ⟨hb.blockAddr_ne_error hn, hb.slotsInBlock n hn⟩

/-- Where there are bytes in a slot, the slot `recv_zc` points at is the one `ALLOC_FROM_HEADER`
gave out exactly in the contiguous mode or if the table says so. -/
theorem Backed.recv_slot_iff (hb : Backed queue bytes) {i : Nat} (allocated : Bool)
    (hi : i < queue.capacity.toNat) (hsize : queue.blockSize ≠ 0) :
    (blockAddr queue (i + 1)).toNat =
        (if allocated then allocAddr queue i else blockAddr queue i).toNat ↔
      allocated = true ∧ (queue.mapMode1 = mapModeContiguousBoth ∨
        queue.table1 i = blockAddr queue (i + 1)) := by
  cases allocated with
  | false =>
    have hpos : queue.blockSize.toNat ≠ 0 := fun h => hsize (UInt16.toNat_inj.mp h)
    simp only [Bool.false_eq_true, if_false, false_and, iff_false]
    rw [hb.blockAddr_toNat hi, hb.blockAddr_toNat (Nat.le_of_lt hi), Nat.succ_mul]
    omega
  | true =>
    simp only [if_true, true_and, allocAddr]
    split
    · rename_i hmode
      simp [hmode]
    · rename_i hmode
      rw [UInt64.toNat_inj]
      constructor
      · exact fun h => .inr h.symm
      · rintro (h | h)
        · exact absurd h.symm hmode
        · exact h.symm

end Slots

/-! The accounting macros. -/

section Accounts

variable {queue : SharedMemoryPoolQueue}

theorem sizeOfInt_mul {x n : Nat} (hx : x ≤ 65535) (hn : n ≤ 65535) :
    sizeOfInt x * n % 2 ^ 64 = x * n := by
  have hprod : x * n ≤ 65535 * 65535 := Nat.mul_le_mul hx hn
  have hsize : sizeOfInt x = x := by
    unfold sizeOfInt
    omega
  rw [hsize]
  exact Nat.mod_eq_of_lt (by omega)

theorem shmpQueueUsedMemory_eq (hh : queue.header.toNat < queue.capacity.toNat) :
    shmpQueueUsedMemory queue =
      (if queue.header.toNat ≤ queue.tail.toNat then queue.tail.toNat - queue.header.toNat
        else queue.capacity.toNat - queue.header.toNat + queue.tail.toNat) *
        queue.blockSize.toNat := by
  have hc := UInt16.toNat_lt queue.capacity
  have ht := UInt16.toNat_lt queue.tail
  have hb := UInt16.toNat_lt queue.blockSize
  simp only [shmpQueueUsedMemory, ge_iff_le, UInt16.le_iff_toNat_le]
  split
  · rw [← Int.ofNat_sub ‹_›]
    exact sizeOfInt_mul (by omega) (by omega)
  · rw [← Int.ofNat_sub (by omega), ← Int.natCast_add]
    exact sizeOfInt_mul (by omega) (by omega)

theorem shmpQueueSurplusMemory_eq (ht : queue.tail.toNat < queue.capacity.toNat) :
    shmpQueueSurplusMemory queue =
      (if queue.header.toNat ≤ queue.tail.toNat then
          queue.capacity.toNat - (queue.tail.toNat - queue.header.toNat)
        else queue.header.toNat - queue.tail.toNat) *
        queue.blockSize.toNat := by
  have hc := UInt16.toNat_lt queue.capacity
  have hh := UInt16.toNat_lt queue.header
  have hb := UInt16.toNat_lt queue.blockSize
  simp only [shmpQueueSurplusMemory, ge_iff_le, UInt16.le_iff_toNat_le]
  split
  · rw [← Int.ofNat_sub ‹_›, ← Int.ofNat_sub (by omega)]
    exact sizeOfInt_mul (by omega) (by omega)
  · rw [← Int.ofNat_sub (by omega)]
    exact sizeOfInt_mul (by omega) (by omega)

/-- Used and surplus memory make up the ring. -/
theorem shmpQueue_memory_split (hh : queue.header.toNat < queue.capacity.toNat)
    (ht : queue.tail.toNat < queue.capacity.toNat) :
    shmpQueueUsedMemory queue + shmpQueueSurplusMemory queue =
      queue.capacity.toNat * queue.blockSize.toNat := by
  rw [shmpQueueUsedMemory_eq hh, shmpQueueSurplusMemory_eq ht, ← Nat.add_mul]
  congr 1
  split <;> omega

/-- The used memory is that of the free cells; it is that of the occupied ones as well only if
there are as many of these, or none, or if they have no bytes. -/
theorem shmpQueueUsedMemory_iff (hh : queue.header.toNat < queue.capacity.toNat)
    (ht : queue.tail.toNat < queue.capacity.toNat) {n : Nat}
    (hn : n = Ring.len queue.capacity.toNat queue.header.toNat queue.tail.toNat) :
    shmpQueueUsedMemory queue = queue.blockSize.toNat * n ↔
      queue.blockSize = 0 ∨ n = 0 ∨ queue.capacity.toNat = 2 * n := by
  have hzero : queue.blockSize = 0 ↔ queue.blockSize.toNat = 0 := by
    rw [← UInt16.toNat_inj]
    rfl
  rw [shmpQueueUsedMemory_eq hh, Nat.mul_comm, hzero]
  rcases Nat.eq_zero_or_pos queue.blockSize.toNat with hb | hb
  · simp [hb]
  · rw [Nat.mul_right_inj (Nat.ne_of_gt hb), hn]
    unfold Ring.len
    split <;> split <;> omega

end Accounts

/-! What the three operations do to a queue whose indices lie on the ring. -/

section Operations

variable {queue : SharedMemoryPoolQueue} {mem : Memory}

theorem sendOc_refused (mem : Memory) {data : List UInt8} (h : SendRefused queue data) :
    ∃ ret, ret ≠ .ok ∧ sharedMemPoolQueueSendOc queue mem data = (ret, queue, mem) := by
  unfold sharedMemPoolQueueSendOc
  dsimp only
  by_cases hb : queue.blockSize = 0
  · exact ⟨.error, by decide, if_pos hb⟩
  by_cases hl : data.length = 0 ∨ data.length > queue.blockSize.toNat
  · exact ⟨.error, by decide, by rw [if_neg hb, if_pos hl]⟩
  · have hfull : nextHeader queue = queue.tail := by
      rcases h with h | h | h | h
      · exact absurd h hb
      · exact absurd (.inl h) hl
      · exact absurd (.inr h) hl
      · exact h
    exact ⟨.again, by decide, by rw [if_neg hb, if_neg hl, if_pos hfull]⟩

theorem sendOc_stores {data : List UInt8} (hh : queue.header.toNat < queue.capacity.toNat)
    (h : ¬ SendRefused queue data) :
    sharedMemPoolQueueSendOc queue mem data =
      (.ok, { queue with header := nextHeader queue },
        Lib.store mem (blockAddr queue queue.header.toNat).toNat data) := by
  unfold SendRefused at h
  push Not at h
  obtain ⟨hb, hl, hfits, hroom⟩ := h
  have hsize : ¬ (data.length = 0 ∨ data.length > queue.blockSize.toNat) := by omega
  simp only [sharedMemPoolQueueSendOc, hb, hsize, hroom, if_false,
    shmpQueueEnqueue_of_room hh hroom]

theorem recvZc_refused (buffer : UInt64) (outDataSize : Nat)
    (h : queue.blockSize = 0 ∨ queue.header = queue.tail) :
    ∃ ret, ret ≠ .ok ∧
      sharedMemPoolQueueRecvZc queue buffer outDataSize = (⟨ret, buffer, outDataSize⟩, queue) := by
  unfold sharedMemPoolQueueRecvZc
  by_cases hb : queue.blockSize = 0
  · exact ⟨.error, by decide, if_pos hb⟩
  · exact ⟨.again, by decide, by rw [if_neg hb, if_pos (h.resolve_left hb)]⟩

theorem recvZc_takes (buffer : UInt64) (outDataSize : Nat) (hb : queue.blockSize ≠ 0)
    (hne : queue.header ≠ queue.tail) :
    ∃ tail, sharedMemPoolQueueRecvZc queue buffer outDataSize =
        (⟨.ok, blockAddr queue (queue.tail.toNat + 1), outDataSize⟩, { queue with tail }) ∧
      (queue.tail.toNat < queue.capacity.toNat →
        tail.toNat = Ring.next queue.capacity.toNat queue.tail.toNat) := by
  obtain ⟨tail, hdeq, hnext⟩ := shmpQueueDequeue_of_some (Ne.symm hne)
  refine ⟨tail, ?_, hnext⟩
  simp only [sharedMemPoolQueueRecvZc, hb, hne, if_false, hdeq]

end Operations

/-! One step of a run. -/

/-- A message is put into the write cell. -/
def PoolRun.put (s : PoolRun) (m : StoredMessage) : PoolRun :=
  ⟨{ s.queue with header := nextHeader s.queue }, Lib.store s.mem m.addr m.bytes,
    s.pending ++ [m]⟩

namespace PoolRun

variable {s : PoolRun} {bytes : Nat}

theorem step_send_refused {data : List UInt8} (h : SendRefused s.queue data) :
    s.step (.send data) = (s, none) := by
  obtain ⟨ret, hret, hsend⟩ := sendOc_refused s.mem h
  simp only [step, hsend, hret, if_false]

theorem step_send_stores {data : List UInt8}
    (hh : s.queue.header.toNat < s.queue.capacity.toNat) (h : ¬ SendRefused s.queue data) :
    s.step (.send data) =
      (s.put ⟨false, (blockAddr s.queue s.queue.header.toNat).toNat, data⟩, none) := by
  simp only [step, sendOc_stores hh h, if_true, put]

theorem step_alloc_full {fill : List UInt8} (h : nextHeader s.queue = s.queue.tail) :
    s.step (.alloc fill) = (s, none) := by
  simp only [step, allocFromHeader_full h, if_true]

theorem step_alloc_stores {fill : List UInt8} (hb : Backed s.queue bytes)
    (hh : s.queue.header.toNat < s.queue.capacity.toNat)
    (h : nextHeader s.queue ≠ s.queue.tail) :
    s.step (.alloc fill) =
      (s.put ⟨true, (allocAddr s.queue s.queue.header.toNat).toNat,
        fill.take s.queue.blockSize.toNat⟩, none) := by
  simp only [step, allocFromHeader_room hb.mode hh h, (hb.allocAddr_toNat hh).1, if_false, put]

theorem step_recv_refused (buffer : UInt64) (outDataSize : Nat)
    (h : s.queue.blockSize = 0 ∨ s.queue.header = s.queue.tail) :
    ∃ ret, ret ≠ .ok ∧
      s.step (.recv buffer outDataSize) = (s, some ⟨ret, buffer, outDataSize⟩) := by
  obtain ⟨ret, hret, hrecv⟩ := recvZc_refused buffer outDataSize h
  exact ⟨ret, hret, by simp only [step, hrecv, hret, if_false]⟩

theorem step_recv_takes (buffer : UInt64) (outDataSize : Nat) (hb : s.queue.blockSize ≠ 0)
    (hne : s.queue.header ≠ s.queue.tail) :
    ∃ tail, s.step (.recv buffer outDataSize) =
        (⟨{ s.queue with tail }, s.mem, s.pending.tail⟩,
          some ⟨.ok, blockAddr s.queue (s.queue.tail.toNat + 1), outDataSize⟩) ∧
      (s.queue.tail.toNat < s.queue.capacity.toNat →
        tail.toNat = Ring.next s.queue.capacity.toNat s.queue.tail.toNat) := by
  obtain ⟨tail, hrecv, hnext⟩ := recvZc_takes buffer outDataSize hb hne
  exact ⟨tail, by simp only [step, hrecv, if_true], hnext⟩

theorem Placed.empty_iff (hs : s.Placed bytes) :
    s.queue.header = s.queue.tail ↔ s.pending = [] := by
  rw [← hs.ring.read_eq_write_iff, ← UInt16.toNat_inj]
  exact eq_comm

theorem Placed.room_iff (hs : s.Placed bytes) :
    nextHeader s.queue = s.queue.tail ↔ s.pending.length = s.queue.capacity.toNat - 1 := by
  rw [nextHeader_eq_tail_iff hs.ring.write_lt]
  exact hs.ring.full_iff

/-- The accounts of a state on the ring are right if half of the cells are occupied, or none. -/
theorem accounted_iff {P : Nat → StoredMessage → Prop}
    (hr : Ring.Holds s.queue.capacity.toNat s.queue.header.toNat s.queue.tail.toNat P s.pending) :
    Accounted s ↔ s.queue.blockSize = 0 ∨ s.pending.length = 0 ∨
      s.queue.capacity.toNat = 2 * s.pending.length := by
  unfold Accounted
  rw [shmpQueueUsedMemory_iff hr.write_lt hr.read_lt hr.length]
  exact and_iff_left (shmpQueue_memory_split hr.write_lt hr.read_lt)

theorem Sound.accounted (hs : s.Sound bytes) : Accounted s := by
  apply (accounted_iff hs.ring).mpr
  rcases hs.short with hb | hempty | htwo
  · exact .inl hb
  · exact .inr (.inl (by simp [hempty]))
  · have hle := hs.ring.length_le
    rw [htwo] at hle ⊢
    have htwo' : (2 : UInt16).toNat = 2 := rfl
    omega

/-- With room in a ring of two cells nothing is pending. -/
theorem Sound.none_pending (hs : s.Sound bytes) (hroom : nextHeader s.queue ≠ s.queue.tail)
    (htwo : s.queue.capacity = 2) : s.pending = [] := by
  have hle := hs.ring.length_le
  have hnot : ¬ s.pending.length = s.queue.capacity.toNat - 1 :=
    fun h => hroom (hs.room_iff.mpr h)
  rw [htwo] at hle hnot
  have htwo' : (2 : UInt16).toNat = 2 := rfl
  exact List.length_eq_zero_iff.mp (by omega)

theorem Placed.put (hs : s.Placed bytes) {m : StoredMessage}
    (hroom : nextHeader s.queue ≠ s.queue.tail)
    (hat : StoredAt s.queue s.queue.header.toNat m)
    (hin : SlotInBlock s.queue bytes m.addr) : (s.put m).Placed bytes where
  backed := ⟨hs.backed.mode, hs.backed.small, hs.backed.fits, hs.backed.block, hs.backed.table⟩
  ring := by
    have hnext := nextHeader_toNat hs.ring.write_lt
    have hfree : Ring.next s.queue.capacity.toNat s.queue.header.toNat ≠ s.queue.tail.toNat :=
      fun h => hroom ((nextHeader_eq_tail_iff hs.ring.write_lt).mpr h)
    have hring := hs.ring.push hfree hat (fun _ _ _ h => h)
    rw [← hnext] at hring
    exact hring
  inside := by
    intro x hx
    rcases List.mem_append.mp hx with hold | hlast
    · exact hs.inside x hold
    · rw [List.mem_singleton.mp hlast]
      exact hin

theorem Placed.take (hs : s.Placed bytes) {first : StoredMessage} {rest : List StoredMessage}
    (hpending : s.pending = first :: rest) {tail : UInt16}
    (hnext : tail.toNat = Ring.next s.queue.capacity.toNat s.queue.tail.toNat) :
    PoolRun.Placed bytes ⟨{ s.queue with tail }, s.mem, rest⟩ where
  backed := ⟨hs.backed.mode, hs.backed.small, hs.backed.fits, hs.backed.block, hs.backed.table⟩
  ring := by
    have hring := hs.ring
    rw [hpending] at hring
    have hpop := hring.pop
    rw [← hnext] at hpop
    exact hpop
  inside := fun x hx => hs.inside x (by rw [hpending]; exact List.mem_cons_of_mem _ hx)

/-- What a step can do: nothing to the queue, put a message behind the others, or take the first
one. -/
theorem Placed.step_cases (hs : s.Placed bytes) (op : PoolOp) :
    (s.step op).1 = s ∨
    (∃ m, (s.step op).1 = s.put m ∧ nextHeader s.queue ≠ s.queue.tail ∧
      StoredAt s.queue s.queue.header.toNat m ∧ SlotInBlock s.queue bytes m.addr ∧
      m.bytes.length ≤ s.queue.blockSize.toNat ∧
      (s.OneSlot op → s.queue.blockSize = 0 ∨ s.queue.capacity = 2)) ∨
    ∃ first rest tail, s.pending = first :: rest ∧ s.queue.blockSize ≠ 0 ∧
      (s.step op).1 = ⟨{ s.queue with tail }, s.mem, rest⟩ ∧
      tail.toNat = Ring.next s.queue.capacity.toNat s.queue.tail.toNat := by
  cases op with
  | send data =>
    by_cases h : SendRefused s.queue data
    · exact .inl (by rw [step_send_refused h])
    · have hroom : nextHeader s.queue ≠ s.queue.tail := fun hf => h (.inr (.inr (.inr hf)))
      have hfits : data.length ≤ s.queue.blockSize.toNat :=
        Nat.not_lt.mp fun hl => h (.inr (.inr (.inl hl)))
      refine .inr (.inl ⟨_, by rw [step_send_stores hs.ring.write_lt h], hroom,
        storedAt_sent _ _ _, hs.backed.slotsInBlock _ (Nat.le_of_lt hs.ring.write_lt), hfits, ?_⟩)
      exact fun hone => .inr (hone.resolve_right h)
  | alloc fill =>
    by_cases hfull : nextHeader s.queue = s.queue.tail
    · exact .inl (by rw [step_alloc_full hfull])
    · have hfits : (fill.take s.queue.blockSize.toNat).length ≤ s.queue.blockSize.toNat := by
        rw [List.length_take]
        exact Nat.min_le_left _ _
      refine .inr (.inl ⟨_, by rw [step_alloc_stores hs.backed hs.ring.write_lt hfull], hfull,
        storedAt_allocated _ _ _, (hs.backed.allocAddr_toNat hs.ring.write_lt).2, hfits, ?_⟩)
      rintro (h | h | h)
      · exact .inr h
      · exact .inl h
      · exact absurd h hfull
  | recv buffer outDataSize =>
    by_cases hidle : s.queue.blockSize = 0 ∨ s.queue.header = s.queue.tail
    · obtain ⟨ret, -, hstep⟩ := step_recv_refused buffer outDataSize hidle
      exact .inl (by rw [hstep])
    · push Not at hidle
      obtain ⟨tail, hstep, hnext⟩ := step_recv_takes buffer outDataSize hidle.1 hidle.2
      obtain ⟨first, rest, hpending⟩ :=
        List.exists_cons_of_ne_nil (mt hs.empty_iff.mpr hidle.2)
      refine .inr (.inr ⟨first, rest, tail, hpending, hidle.1, ?_, hnext hs.ring.read_lt⟩)
      rw [hstep, hpending]
      rfl

/-- The step lemma of every run. -/
theorem Placed.step (s : PoolRun) (op : PoolOp) (hs : s.Placed bytes) :
    (s.step op).1.Placed bytes := by
  rcases hs.step_cases op with hidle | ⟨m, hput, hroom, hat, hin, -, -⟩ |
    ⟨first, rest, tail, hpending, -, htake, hnext⟩
  · rw [hidle]
    exact hs
  · rw [hput]
    exact hs.put hroom hat hin
  · rw [htake]
    exact hs.take hpending hnext

theorem Sound.put (hs : s.Sound bytes) {m : StoredMessage}
    (hroom : nextHeader s.queue ≠ s.queue.tail)
    (hat : StoredAt s.queue s.queue.header.toNat m)
    (hin : SlotInBlock s.queue bytes m.addr)
    (hfits : m.bytes.length ≤ s.queue.blockSize.toNat)
    (hone : s.queue.blockSize = 0 ∨ s.queue.capacity = 2) : (s.put m).Sound bytes where
  toPlaced := hs.toPlaced.put hroom hat hin
  contents := by
    have hnew : load (Lib.store s.mem m.addr m.bytes) m.addr m.bytes.length = m.bytes := by
      rw [load_store _ _ _ _ (Nat.le_refl _), List.take_length]
    intro x hx
    rcases List.mem_append.mp hx with hold | hlast
    · rcases hone with hb | htwo
      · have hnil : m.bytes = [] := by
          rw [hb] at hfits
          exact List.length_eq_zero_iff.mp (Nat.le_zero.mp hfits)
        have hkeep : (s.put m).mem = s.mem := by
          simp [PoolRun.put, hnil]
        rw [hkeep]
        exact hs.contents x hold
      · rw [hs.none_pending hroom htwo] at hold
        cases hold
    · rw [List.mem_singleton.mp hlast]
      exact hnew
  short := by
    rcases hone with hb | htwo
    · exact .inl hb
    · exact .inr (.inr htwo)

/-- An operation that leaves everything as it is. -/
theorem Sound.keepsOrder_idle (hs : s.Sound bytes) {op : PoolOp} {answer : Option RecvZcAnswer}
    (hstep : s.step op = (s, answer)) :
    s.KeepsOrder bytes op ↔ ∀ a ∈ answer, DeliversOldest s a := by
  unfold KeepsOrder
  rw [hstep]
  exact and_iff_left ⟨hs.inside, hs.accounted⟩

/-- A message that is put into a slot is accounted for in a ring of two cells. -/
theorem Sound.keepsOrder_put (hs : s.Sound bytes) {op : PoolOp} {m : StoredMessage}
    (hstep : s.step op = (s.put m, none)) (hroom : nextHeader s.queue ≠ s.queue.tail)
    (hat : StoredAt s.queue s.queue.header.toNat m)
    (hin : SlotInBlock s.queue bytes m.addr) :
    s.KeepsOrder bytes op ↔ s.queue.blockSize = 0 ∨ s.queue.capacity = 2 := by
  have hplaced := hs.toPlaced.put hroom hat hin
  have hinside : ∀ x ∈ (s.put m).pending, SlotInBlock s.queue bytes x.addr := hplaced.inside
  unfold KeepsOrder
  rw [hstep]
  have hnone : ∀ a ∈ (none : Option RecvZcAnswer), DeliversOldest s a := by simp
  rw [and_iff_right hnone, and_iff_right hinside, accounted_iff hplaced.ring]
  apply or_congr_right'
  intro hb
  have hnil : s.pending = [] := by
    rcases hs.short with h | h | htwo
    · exact absurd h hb
    · exact h
    · exact hs.none_pending hroom htwo
  rw [← UInt16.toNat_inj]
  simp [PoolRun.put, hnil]

theorem keepsOrder_send_iff (hs : s.Sound bytes) (data : List UInt8) :
    s.KeepsOrder bytes (.send data) ↔ s.OneSlot (.send data) := by
  by_cases h : SendRefused s.queue data
  · rw [hs.keepsOrder_idle (step_send_refused h)]
    simp [OneSlot, h]
  · have hb : s.queue.blockSize ≠ 0 := fun hb => h (.inl hb)
    have hroom : nextHeader s.queue ≠ s.queue.tail := fun hf => h (.inr (.inr (.inr hf)))
    have hslot := hs.backed.slotsInBlock _ (Nat.le_of_lt hs.ring.write_lt)
    rw [hs.keepsOrder_put (step_send_stores hs.ring.write_lt h) hroom
      (storedAt_sent _ _ _) hslot]
    simp [OneSlot, h, hb]

theorem keepsOrder_alloc_iff (hs : s.Sound bytes) (fill : List UInt8) :
    s.KeepsOrder bytes (.alloc fill) ↔ s.OneSlot (.alloc fill) := by
  by_cases hfull : nextHeader s.queue = s.queue.tail
  · rw [hs.keepsOrder_idle (step_alloc_full hfull)]
    simp [OneSlot, hfull]
  · have hslot := (hs.backed.allocAddr_toNat hs.ring.write_lt).2
    rw [hs.keepsOrder_put (step_alloc_stores hs.backed hs.ring.write_lt hfull) hfull
      (storedAt_allocated _ _ _) hslot]
    simp [OneSlot, hfull, or_comm]

/-- Taking a message writes over none. -/
theorem Sound.take (hs : s.Sound bytes) {first : StoredMessage} {rest : List StoredMessage}
    (hpending : s.pending = first :: rest) (hb : s.queue.blockSize ≠ 0) {tail : UInt16}
    (hnext : tail.toNat = Ring.next s.queue.capacity.toNat s.queue.tail.toNat) :
    PoolRun.Sound bytes ⟨{ s.queue with tail }, s.mem, rest⟩ where
  toPlaced := hs.toPlaced.take hpending hnext
  contents := fun x hx => hs.contents x (by rw [hpending]; exact List.mem_cons_of_mem _ hx)
  short := by
    rcases hs.short with h | h | htwo
    · exact absurd h hb
    · rw [hpending] at h
      cases h
    · exact .inr (.inr htwo)

theorem keepsOrder_recv_iff (hs : s.Sound bytes) (buffer : UInt64) (outDataSize : Nat) :
    s.KeepsOrder bytes (.recv buffer outDataSize) ↔ s.OneSlot (.recv buffer outDataSize) := by
  by_cases hempty : s.queue.header = s.queue.tail
  · obtain ⟨ret, hret, hstep⟩ := step_recv_refused buffer outDataSize (.inr hempty)
    rw [hs.keepsOrder_idle hstep]
    simp [OneSlot, hempty, DeliversOldest, hs.empty_iff.mp hempty, hret]
  obtain ⟨first, rest, hpending⟩ := List.exists_cons_of_ne_nil (mt hs.empty_iff.mpr hempty)
  by_cases hb : s.queue.blockSize = 0
  · obtain ⟨ret, hret, hstep⟩ := step_recv_refused buffer outDataSize (.inl hb)
    rw [hs.keepsOrder_idle hstep]
    simp [OneSlot, hempty, hb, DeliversOldest, hpending, hret]
  · obtain ⟨tail, hstep, hnext⟩ := step_recv_takes buffer outDataSize hb hempty
    have hafter := hs.take hpending hb (hnext hs.ring.read_lt)
    have hring := hs.ring
    rw [hpending] at hring
    have hat : StoredAt s.queue s.queue.tail.toNat first := hring.front
    have hbytes : load s.mem first.addr first.bytes.length = first.bytes :=
      hs.contents first (by rw [hpending]; exact List.mem_cons_self)
    have hslot := hs.backed.recv_slot_iff first.allocated hs.ring.read_lt hb
    have hrest : (∀ m ∈ s.pending.tail, SlotInBlock s.queue bytes m.addr) ∧
        Accounted ⟨{ s.queue with tail }, s.mem, s.pending.tail⟩ := by
      rw [hpending]
      exact ⟨hafter.inside, hafter.accounted⟩
    unfold StoredAt at hat
    unfold KeepsOrder
    rw [hstep, and_iff_left hrest]
    simp only [Option.mem_def, Option.some.injEq, forall_eq', DeliversOldest, hpending, hat, hslot,
      true_and, OneSlot, hempty, false_or, hb, List.head?_cons, exists_eq_left', ne_eq,
      not_false_eq_true]
    constructor
    · rintro ⟨⟨hall, hmode⟩, -, hout⟩
      exact ⟨hall, hmode, hout⟩
    · rintro ⟨hall, hmode, hout⟩
      refine ⟨⟨hall, hmode⟩, ?_, hout⟩
      rw [hslot.mpr ⟨hall, hmode⟩, ← hat]
      exact hbytes

theorem keepsOrder_iff (s : PoolRun) (op : PoolOp) (hs : s.Sound bytes) :
    s.KeepsOrder bytes op ↔ s.OneSlot op := by
  cases op with
  | send data => exact keepsOrder_send_iff hs data
  | alloc fill => exact keepsOrder_alloc_iff hs fill
  | recv buffer outDataSize => exact keepsOrder_recv_iff hs buffer outDataSize

/-- The step lemma of the runs that store one message at a time. -/
theorem Sound.step (s : PoolRun) (op : PoolOp) (hs : s.Sound bytes) (hone : s.OneSlot op) :
    (s.step op).1.Sound bytes := by
  rcases hs.step_cases op with hidle | ⟨m, hput, hroom, hat, hin, hfits, hshort⟩ |
    ⟨first, rest, tail, hpending, hb, htake, hnext⟩
  · rw [hidle]
    exact hs
  · rw [hput]
    exact hs.put hroom hat hin hfits (hshort hone)
  · rw [htake]
    exact hs.take hpending hb hnext

theorem Sound.start {queue : SharedMemoryPoolQueue} (mem : Memory) (hb : Backed queue bytes)
    (hcap : 0 < queue.capacity.toNat) (hheader : queue.header = 0) (htail : queue.tail = 0) :
    (start queue mem).Sound bytes where
  backed := hb
  ring := by
    have hempty := Ring.Holds.empty (P := StoredAt queue) hcap
    simpa [PoolRun.start, hheader, htail] using hempty
  inside := by simp [PoolRun.start]
  contents := by simp [PoolRun.start]
  short := .inr (.inl rfl)

/-- In every run, whatever it stores, the messages lie in order in their cells, and the accounts are
right in the states where the ring is empty or half full. -/
theorem Placed.run (hs : s.Placed bytes) (ops : List PoolOp) :
    (after PoolRun.step s ops).Placed bytes ∧
      (Accounted (after PoolRun.step s ops) ↔ (after PoolRun.step s ops).queue.blockSize = 0 ∨
        (after PoolRun.step s ops).pending.length = 0 ∨
        (after PoolRun.step s ops).queue.capacity.toNat =
          2 * (after PoolRun.step s ops).pending.length) := by
  have hplaced : (after PoolRun.step s ops).Placed bytes :=
    after_invariant (fun s op h _ => Placed.step s op h) hs (allAnswered_true _ s ops)
  exact ⟨hplaced, accounted_iff hplaced.ring⟩

end PoolRun

/-! Queues of `shared_mem_pool_queue_create_backend`. -/

/-- What is known of a queue that was created, whatever its mapping table is filled with. -/
theorem create_fields {config : SharedMemoryPoolQueueConfig}
    {control : Option SharedMemoryPoolQueue} {block : Option UInt64}
    {queue : SharedMemoryPoolQueue}
    (h : sharedMemPoolQueueCreateBackend (some config) control block = some queue) :
    block = some queue.virtAddr1 ∧ queue.header = 0 ∧ queue.tail = 0 ∧
      queue.capacity = config.capacity.toUInt16 ∧ queue.blockSize = config.blockSize.toUInt16 ∧
      (queue.mapMode1 = mapModeContiguousBoth ∨ queue.mapMode1 = mapModeDiscreteLogical) := by
  unfold sharedMemPoolQueueCreateBackend at h
  cases hvalid : isValidShmConfMapMode config with
  | false => simp [hvalid] at h
  | true =>
    cases control with
    | none => simp [hvalid] at h
    | some old =>
      cases block with
      | none => simp [hvalid] at h
      | some addr =>
        simp only [hvalid, Bool.not_true, Bool.false_eq_true, if_false, Option.some.injEq] at h
        subst h
        refine ⟨rfl, rfl, rfl, rfl, rfl, ?_⟩
        simp only [isValidShmConfMapMode, Bool.or_eq_true, beq_iff_eq] at hvalid
        rcases hvalid with hmode | hmode
        · exact .inl (by rw [hmode]; rfl)
        · exact .inr (by rw [hmode]; rfl)

/-- The pool queue is first in, first out and keeps its accounts in its slots in exactly the runs
that store one message at a time, each in a slot from `ALLOC_FROM_HEADER`. -/
theorem poolQueue_keepsOrder_iff (config : SharedMemoryPoolQueueConfig)
    (control : Option SharedMemoryPoolQueue) (addr : UInt64) (created : SharedMemoryPoolQueue)
    (table1 : Nat → UInt64) (mem : Memory)
    (hcreate : sharedMemPoolQueueCreateBackend (some config) control (some addr) = some created)
    (hblock : MallocBlock addr (slotBytes config))
    (hcap : 1 ≤ config.capacity.toNat ∧ config.capacity.toNat ≤ maxMapTableEntryCount)
    (htable : created.mapMode1 = mapModeDiscreteLogical → DistinctSlots { created with table1 })
    (ops : List PoolOp) :
    let s := PoolRun.start { created with table1 } mem
    SlotsInBlock s.queue (slotBytes config) ∧
        AllAnswered PoolRun.step (PoolRun.KeepsOrder (slotBytes config)) s ops ↔
      s.queue.blockSize.toNat * (s.queue.capacity.toNat + 1) ≤ slotBytes config ∧
        AllAnswered PoolRun.step PoolRun.OneSlot s ops := by
  obtain ⟨haddr, hheader, htail, hcapacity, -, hmode⟩ := create_fields hcreate
  cases haddr
  have hcap' : created.capacity.toNat = config.capacity.toNat := by
    rw [hcapacity, UInt64.toNat_toUInt16]
    exact Nat.mod_eq_of_lt (by unfold maxMapTableEntryCount at hcap; omega)
  have hsmall : created.capacity.toNat ≤ maxMapTableEntryCount := by omega
  intro s
  have hslots : SlotsInBlock s.queue (slotBytes config) ↔
      s.queue.blockSize.toNat * (s.queue.capacity.toNat + 1) ≤ slotBytes config :=
    slotsInBlock_iff hsmall hblock
  rw [hslots]
  refine and_congr_right fun hfits => ?_
  have hpos : 0 < created.capacity.toNat := by omega
  have hstart : s.Sound (slotBytes config) :=
    PoolRun.Sound.start mem ⟨hmode, hsmall, hfits, hblock, htable⟩ hpos hheader htail
  exact allAnswered_iff (I := PoolRun.Sound (slotBytes config)) PoolRun.keepsOrder_iff
    PoolRun.Sound.step hstart ops

/-- Two cells and the slots `malloc` gave them at 4096. -/
def twoCells : SharedMemoryPoolQueue :=
  { blankPoolQueue with mapMode1 := 1, capacity := 2, blockSize := 64, virtAddr1 := 4096 }

def nextSlotTable (i : Nat) : UInt64 := UInt64.ofNat (4096 + (i + 1) * 64)

/-- One message is allocated behind the mapping table and received. -/
theorem poolQueue_keepsOrder_iff_two :
    AllAnswered PoolRun.step (PoolRun.KeepsOrder 192)
      (PoolRun.start { twoCells with table1 := nextSlotTable } fun _ => 0)
      [.alloc [7], .recv 0 64] := by
  have hdistinct : DistinctSlots { twoCells with table1 := nextSlotTable } := by
    refine ⟨fun i hi => ⟨i + 1, hi, ?_⟩, by decide⟩
    revert i
    decide
  refine ((poolQueue_keepsOrder_iff ⟨1, 0, 0, 2, 64⟩ (some blankPoolQueue) 4096 twoCells
    nextSlotTable (fun _ => 0) rfl (by decide) (by decide) (fun _ => hdistinct)
    [.alloc [7], .recv 0 64]).mpr ⟨by decide, .inl rfl, ?_, trivial⟩).2
  exact .inr ⟨by decide, ⟨_, rfl, rfl⟩, .inr (by decide), rfl⟩

/-- A ring of four cells: one message is sent and received. -/
theorem poolQueue_loses_sent :
    ¬ ∀ config control addr created table1 mem,
        sharedMemPoolQueueCreateBackend (some config) control (some addr) = some created →
        MallocBlock addr (slotBytes config) →
        1 ≤ config.capacity.toNat ∧ config.capacity.toNat ≤ maxMapTableEntryCount →
        (created.mapMode1 = mapModeDiscreteLogical → DistinctSlots { created with table1 }) →
        ∀ ops, SlotsInBlock { created with table1 } (slotBytes config) ∧
          AllAnswered PoolRun.step (PoolRun.KeepsOrder (slotBytes config))
            (PoolRun.start { created with table1 } mem) ops := by
  intro h
  obtain ⟨-, hsent, hrecv, -⟩ := h ⟨0, 0, 0, 4, 64⟩ (some blankPoolQueue) 4096 _ (fun _ => 0)
    (fun _ => 0) rfl (by decide) (by decide) (fun hm => absurd hm (by decide))
    [.send [7], .recv 0 64]
  have hslot := (hrecv.1 _ rfl).2.1
  revert hslot
  decide

end BackendProxy.Queue
