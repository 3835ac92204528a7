import BackendProxy.Lib.History
import BackendProxy.Queue.Refinement

namespace BackendProxy.Queue

open Lib

/-! One side enqueues while the other dequeues, one access to shared memory after the other. Neither
side relies on the lock. The capacity and the block size never change and are no accesses. -/

/-- Where a call of `hyperamp_queue_enqueue` is: its next access, and what it has read so far. -/
inductive EnqueuePc where
  | idle
  | readHeader (data : List UInt8)
  | readTail (data : List UInt8) (newHeader : UInt16)
  | readSlot (data : List UInt8) (newHeader : UInt16)
  | copy (data : List UInt8) (newHeader : UInt16) (slot i : Nat)
  | readCount
  | writeCount (count : UInt32)
  deriving DecidableEq, Repr

/-- Where a call of `hyperamp_queue_dequeue` is; `got` is what its buffer holds. -/
inductive DequeuePc where
  | idle
  | readTail (maxLen : Nat)
  | readHeader (maxLen : Nat) (tail : UInt16)
  | readSlot (maxLen : Nat)
  | copy (maxLen slot : Nat) (got : List UInt8)
  | writeTail (maxLen : Nat) (got : List UInt8) (newTail : UInt16)
  | readCount (got : List UInt8)
  | writeCount (got : List UInt8) (count : UInt32)
  deriving DecidableEq, Repr

/-- A queue both sides are at work on, with what their calls returned so far. `log` has the calls in
the order in which they took effect; no access reads it. -/
structure SharedQueue where
  memory : QueueState
  sender : EnqueuePc
  receiver : DequeuePc
  log : List (QueueOp × Answer)
  sent : List Answer
  received : List Answer

def sharedStart (memory : QueueState) : SharedQueue :=
  { memory, sender := .idle, receiver := .idle, log := [], sent := [], received := [] }

inductive Access where
  | enqueue (data : List UInt8)
  | sender
  | dequeue (maxLen : Nat)
  | receiver
  deriving DecidableEq, Repr

/-- A call takes effect with this answer. -/
def SharedQueue.logged (s : SharedQueue) (op : QueueOp) (a : Answer) : SharedQueue :=
  { s with log := s.log ++ [(op, a)] }

def SharedQueue.enqueued (s : SharedQueue) (a : Answer) : SharedQueue :=
  { s with sender := .idle, sent := s.sent ++ [a] }

def SharedQueue.dequeued (s : SharedQueue) (a : Answer) : SharedQueue :=
  { s with receiver := .idle, received := s.received ++ [a] }

def refusal (status : HyperampStatus) : Answer := { status, data := [] }

/-- `read_len` -/
def readLen (blockSize : UInt16) (maxLen : Nat) : Nat :=
  if maxLen < blockSize.toNat then maxLen else blockSize.toNat

def callEnqueue (s : SharedQueue) (data : List UInt8) : Except Unit SharedQueue :=
  if s.sender ≠ .idle then .error ()
  else if data.length = 0 ∨ data.length > s.memory.queue.blockSize.toNat then
    .ok ((s.logged (.enqueue data) (refusal .error)).enqueued (refusal .error))
  else .ok { s with sender := .readHeader data }

def senderAccess (s : SharedQueue) : Except Unit SharedQueue :=
  let queue := s.memory.queue
  match s.sender with
  | .idle => .error ()
  | .readHeader data =>
    .ok { s with sender := .readTail data (nextBySubtraction queue queue.header) }
  | .readTail data newHeader =>
    if newHeader = queue.tail then
      .ok ((s.logged (.enqueue data) (refusal .again)).enqueued (refusal .again))
    else .ok { s with sender := .readSlot data newHeader }
  | .readSlot data newHeader =>
    .ok { s with sender := .copy data newHeader (slotOffset queue queue.header) 0 }
  | .copy data newHeader slot i =>
    match data[i]? with
    | some byte =>
      .ok
        { s with
          memory := { s.memory with region := store s.memory.region (slot + i) [byte] }
          sender := .copy data newHeader slot (i + 1) }
    -- the message is complete: the call takes effect when `header` moves past it
    | none =>
      .ok
        { s.logged (.enqueue data) { status := .ok, data := [] } with
          memory := { s.memory with queue := { queue with header := newHeader } }
          sender := .readCount }
  | .readCount => .ok { s with sender := .writeCount queue.enqueueCount }
  | .writeCount count =>
    .ok
      ({ s with
        memory := { s.memory with queue := { queue with enqueueCount := count + 1 } } }.enqueued
          { status := .ok, data := [] })

def callDequeue (s : SharedQueue) (maxLen : Nat) : Except Unit SharedQueue :=
  if s.receiver ≠ .idle then .error ()
  else if maxLen = 0 then
    .ok ((s.logged (.dequeue maxLen) (refusal .error)).dequeued (refusal .error))
  else .ok { s with receiver := .readTail maxLen }

def receiverAccess (s : SharedQueue) : Except Unit SharedQueue :=
  let queue := s.memory.queue
  match s.receiver with
  | .idle => .error ()
  | .readTail maxLen => .ok { s with receiver := .readHeader maxLen queue.tail }
  | .readHeader maxLen tail =>
    if tail = queue.header then
      .ok ((s.logged (.dequeue maxLen) (refusal .again)).dequeued (refusal .again))
    else .ok { s with receiver := .readSlot maxLen }
  | .readSlot maxLen => .ok { s with receiver := .copy maxLen (slotOffset queue queue.tail) [] }
  | .copy maxLen slot got =>
    if got.length < readLen queue.blockSize maxLen then
      .ok { s with receiver := .copy maxLen slot (got ++ [s.memory.region (slot + got.length)]) }
    else .ok { s with receiver := .writeTail maxLen got (nextBySubtraction queue queue.tail) }
  -- the call takes effect when `tail` moves past the message
  | .writeTail maxLen got newTail =>
    .ok
      { s.logged (.dequeue maxLen) { status := .ok, data := got } with
        memory := { s.memory with queue := { queue with tail := newTail } }
        receiver := .readCount got }
  | .readCount got => .ok { s with receiver := .writeCount got queue.dequeueCount }
  | .writeCount got count =>
    .ok
      ({ s with
        memory := { s.memory with queue := { queue with dequeueCount := count + 1 } } }.dequeued
          { status := .ok, data := got })

/-- Whichever side comes next makes its next access, or calls when it is not in a call. -/
def accessStep (s : SharedQueue) : Access → Except Unit SharedQueue
  | .enqueue data => callEnqueue s data
  | .sender => senderAccess s
  | .dequeue maxLen => callDequeue s maxLen
  | .receiver => receiverAccess s

/-! The queue as the calls that took effect left it, and what a call in progress knows of it. -/

/-- What a call was told that took effect and has not returned yet. -/
def EnqueuePc.owed : EnqueuePc → List Answer
  | .readCount | .writeCount _ => [{ status := .ok, data := [] }]
  | _ => []

def DequeuePc.owed : DequeuePc → List Answer
  | .readCount got | .writeCount got _ => [{ status := .ok, data := got }]
  | _ => []

/-- The counter with the call that still has to count itself. -/
def EnqueuePc.counted (pc : EnqueuePc) (count : UInt32) : UInt32 :=
  if pc.owed = [] then count else count + 1

def DequeuePc.counted (pc : DequeuePc) (count : UInt32) : UInt32 :=
  if pc.owed = [] then count else count + 1

/-- The region with the part of a message that lies in the write slot already. -/
def EnqueuePc.written (region : DataRegion) : EnqueuePc → DataRegion
  | .copy data _ slot i => store region slot (data.take i)
  | _ => region

def Fits (queue : HyperampShmQueue) (data : List UInt8) : Prop :=
  data.length ≠ 0 ∧ data.length ≤ queue.blockSize.toNat

def EnqueuePc.Knows (queue : HyperampShmQueue) : EnqueuePc → Prop
  | .idle | .readCount => True
  | .readHeader data => Fits queue data
  | .readTail data newHeader =>
    Fits queue data ∧ newHeader = nextBySubtraction queue queue.header
  | .readSlot data newHeader =>
    Fits queue data ∧ newHeader = nextBySubtraction queue queue.header ∧ newHeader ≠ queue.tail
  | .copy data newHeader slot i =>
    Fits queue data ∧ newHeader = nextBySubtraction queue queue.header ∧ newHeader ≠ queue.tail ∧
      slot = slotOffset queue queue.header ∧ i ≤ data.length
  | .writeCount count => queue.enqueueCount = count + 1

def DequeuePc.Knows (queue : HyperampShmQueue) (region : DataRegion) : DequeuePc → Prop
  | .idle | .readCount _ => True
  | .readTail maxLen => maxLen ≠ 0
  | .readHeader maxLen tail => maxLen ≠ 0 ∧ tail = queue.tail
  | .readSlot maxLen => maxLen ≠ 0 ∧ queue.tail ≠ queue.header
  | .copy maxLen slot got =>
    maxLen ≠ 0 ∧ queue.tail ≠ queue.header ∧ slot = slotOffset queue queue.tail ∧
      got.length ≤ readLen queue.blockSize maxLen ∧ got = load region slot got.length
  | .writeTail maxLen got newTail =>
    maxLen ≠ 0 ∧ queue.tail ≠ queue.header ∧ newTail = nextBySubtraction queue queue.tail ∧
      got = load region (slotOffset queue queue.tail) (readLen queue.blockSize maxLen)
  | .writeCount _ count => queue.dequeueCount = count + 1

/-- `a` is the queue of the calls that took effect, `s` the one both sides are at work on. -/
structure Settles (a : QueueState) (s : SharedQueue) : Prop where
  queue : a.queue =
    { s.memory.queue with
      enqueueCount := s.sender.counted s.memory.queue.enqueueCount
      dequeueCount := s.receiver.counted s.memory.queue.dequeueCount }
  region : s.memory.region = s.sender.written a.region
  sender : s.sender.Knows a.queue
  receiver : s.receiver.Knows a.queue a.region

theorem readLen_le (blockSize : UInt16) (maxLen : Nat) :
    readLen blockSize maxLen ≤ blockSize.toNat := by
  unfold readLen
  split <;> omega

section Bounds

variable {queue : HyperampShmQueue} {region : DataRegion}

theorem nextBySubtraction_injective {i j : UInt16} (hi : i.toNat < queue.capacity.toNat)
    (hj : j.toNat < queue.capacity.toNat)
    (h : nextBySubtraction queue i = nextBySubtraction queue j) : i = j := by
  have hnext := congrArg UInt16.toNat h
  rw [nextBySubtraction_toNat hi, nextBySubtraction_toNat hj, Ring.next_eq_sub hi,
    Ring.next_eq_sub hj] at hnext
  apply UInt16.toNat_inj.mp
  split at hnext <;> split at hnext <;> omega

/-- What a read of the read slot sees does not change with stores into the write slot. -/
theorem load_slot_apart (hne : queue.tail ≠ queue.header) {data : List UInt8}
    (hd : data.length ≤ queue.blockSize.toNat) {n : Nat} (hn : n ≤ queue.blockSize.toNat) :
    load (store region (slotOffset queue queue.header) data) (slotOffset queue queue.tail) n =
      load region (slotOffset queue queue.tail) n := by
  apply load_store_apart
  have hne' : queue.tail.toNat ≠ queue.header.toNat := mt UInt16.toNat_inj.mp hne
  unfold slotOffset
  rcases Nat.lt_or_gt_of_ne hne' with hlt | hlt
  · left
    calc (queue.tail.toNat + 1) * queue.blockSize.toNat + n
        ≤ (queue.tail.toNat + 1 + 1) * queue.blockSize.toNat := by
          rw [Nat.add_mul (queue.tail.toNat + 1)]
          omega
      _ ≤ (queue.header.toNat + 1) * queue.blockSize.toNat := Nat.mul_le_mul_right _ (by omega)
  · right
    calc (queue.header.toNat + 1) * queue.blockSize.toNat + data.length
        ≤ (queue.header.toNat + 1 + 1) * queue.blockSize.toNat := by
          rw [Nat.add_mul (queue.header.toNat + 1)]
          omega
      _ ≤ (queue.tail.toNat + 1) * queue.blockSize.toNat := Nat.mul_le_mul_right _ (by omega)

/-- A message on its way into the write slot is not seen in the read slot. -/
theorem written_apart {pc : EnqueuePc} (hpc : pc.Knows queue) (hne : queue.tail ≠ queue.header)
    {n : Nat} (hn : n ≤ queue.blockSize.toNat) :
    load (pc.written region) (slotOffset queue queue.tail) n =
      load region (slotOffset queue queue.tail) n := by
  cases pc with
  | copy data newHeader slot i =>
    obtain ⟨⟨-, hfit⟩, -, -, rfl, -⟩ := hpc
    refine load_slot_apart hne ?_ hn
    rw [List.length_take]
    omega
  | _ => rfl

/-- What the receiver knows stays true when a message is appended. -/
theorem DequeuePc.Knows.enqueued {pc : DequeuePc} (h : pc.Knows queue region) (n : UInt32)
    {data : List UInt8} (hd : data.length ≤ queue.blockSize.toNat)
    (room : nextBySubtraction queue queue.header ≠ queue.tail) :
    pc.Knows
      { queue with header := nextBySubtraction queue queue.header, enqueueCount := n }
      (store region (slotOffset queue queue.header) data) := by
  cases pc with
  | readSlot maxLen => exact ⟨h.1, room.symm⟩
  | copy maxLen slot got =>
    obtain ⟨hlen, hne, rfl, hle, hgot⟩ := h
    refine ⟨hlen, room.symm, rfl, hle, hgot.trans ?_⟩
    exact (load_slot_apart hne hd (Nat.le_trans hle (readLen_le _ _))).symm
  | writeTail maxLen got newTail =>
    obtain ⟨hlen, hne, htail, hgot⟩ := h
    refine ⟨hlen, room.symm, htail, hgot.trans ?_⟩
    exact (load_slot_apart hne hd (readLen_le _ _)).symm
  | _ => exact h

/-- What the sender knows stays true when a message is taken. -/
theorem EnqueuePc.Knows.dequeued {pc : EnqueuePc} (h : pc.Knows queue) (n : UInt32)
    (hh : queue.header.toNat < queue.capacity.toNat)
    (ht : queue.tail.toNat < queue.capacity.toNat) (hne : queue.tail ≠ queue.header) :
    pc.Knows
      { queue with tail := nextBySubtraction queue queue.tail, dequeueCount := n } := by
  have hroom : nextBySubtraction queue queue.header ≠ nextBySubtraction queue queue.tail :=
    fun heq => hne (nextBySubtraction_injective hh ht heq).symm
  cases pc with
  | readSlot data newHeader =>
    obtain ⟨hfit, rfl, -⟩ := h
    exact ⟨hfit, rfl, hroom⟩
  | copy data newHeader slot i =>
    obtain ⟨hfit, rfl, -, hslot⟩ := h
    exact ⟨hfit, rfl, hroom, hslot⟩
  | _ => exact h

end Bounds

/-- An access lets at most one call take effect, with the answer the queue gives it as one step. -/
inductive Follows (a : QueueState) (s t : SharedQueue) : Prop where
  | silent (log : t.log = s.log) (settles : Settles a t)
  | takes (op : QueueOp) (r : Answer) (log : t.log = s.log ++ [(op, r)])
      (answer : (a.step op).2 = r) (settles : Settles (a.step op).1 t)

section Accesses

variable {a : QueueState} {s t : SharedQueue} {msgs : List (List UInt8)}

/-- A call that is refused takes effect without a change of the queue. -/
theorem refused_follows (op : QueueOp) (status : HyperampStatus)
    (hop : a.step op = (a, refusal status)) (hlog : t.log = s.log ++ [(op, refusal status)])
    (ht : Settles a t) : Follows a s t :=
  .takes op (refusal status) hlog (by rw [hop]) (by rwa [hop])

/-- The sender goes on without a change of the memory. -/
theorem Settles.sender_moves (h : Settles a s) (hmem : t.memory = s.memory)
    (hreceiver : t.receiver = s.receiver) (howed : t.sender.owed = [] ↔ s.sender.owed = [])
    (hwritten : t.sender.written a.region = s.sender.written a.region)
    (hknows : t.sender.Knows a.queue) : Settles a t := by
  have hcounted : ∀ count, t.sender.counted count = s.sender.counted count := by
    intro count
    simp only [EnqueuePc.counted, howed]
  refine ⟨?_, ?_, hknows, ?_⟩
  · rw [hmem, hreceiver, hcounted]
    exact h.queue
  · rw [hmem, hwritten]
    exact h.region
  · rw [hreceiver]
    exact h.receiver

theorem Settles.receiver_moves (h : Settles a s) (hmem : t.memory = s.memory)
    (hsender : t.sender = s.sender) (howed : t.receiver.owed = [] ↔ s.receiver.owed = [])
    (hknows : t.receiver.Knows a.queue a.region) : Settles a t := by
  have hcounted : ∀ count, t.receiver.counted count = s.receiver.counted count := by
    intro count
    simp only [DequeuePc.counted, howed]
  refine ⟨?_, ?_, ?_, hknows⟩
  · rw [hmem, hsender, hcounted]
    exact h.queue
  · rw [hmem, hsender]
    exact h.region
  · rw [hsender]
    exact h.sender

theorem callEnqueue_follows (h : Settles a s) {data : List UInt8}
    (hst : callEnqueue s data = .ok t) : Follows a s t := by
  unfold callEnqueue at hst
  split at hst
  · cases hst
  · rename_i hidle
    have hsender : s.sender = .idle := not_not.mp hidle
    have hblock : a.queue.blockSize = s.memory.queue.blockSize := by rw [h.queue]
    rw [← hblock] at hst
    split at hst
    · rename_i hlen
      cases hst
      refine refused_follows (.enqueue data) .error ?_ rfl ?_
      · simp only [QueueState.step, hyperampQueueEnqueue]
        rcases hlen with hlen | hlen
        · rw [if_pos hlen]
          rfl
        · rw [if_neg (by omega), if_pos hlen]
          rfl
      · exact h.sender_moves rfl rfl (by rw [hsender]; rfl) (by rw [hsender]; rfl) trivial
    · rename_i hlen
      cases hst
      have hfit : Fits a.queue data := by
        unfold Fits
        omega
      exact .silent rfl
        (h.sender_moves rfl rfl (by rw [hsender]; rfl) (by rw [hsender]; rfl) hfit)

/-- The message lies in the write slot and `header` moves past it. -/
theorem published_settles (h : Settles a s) {data : List UInt8} {newHeader : UInt16} {slot i : Nat}
    (hpc : s.sender = .copy data newHeader slot i) (hend : data[i]? = none)
    (hmem : t.memory =
      { s.memory with queue := { s.memory.queue with header := newHeader } })
    (hsender : t.sender = .readCount) (hreceiver : t.receiver = s.receiver) :
    a.step (.enqueue data) =
        ({ queue :=
            { a.queue with header := newHeader, enqueueCount := a.queue.enqueueCount + 1 }
           region := store a.region (slotOffset a.queue a.queue.header) data },
          { status := .ok, data := [] }) ∧
      Settles (a.step (.enqueue data)).1 t := by
  have hknows := h.sender
  rw [hpc] at hknows
  obtain ⟨⟨hne, hfit⟩, hnext, hroom, hslot, hi⟩ := hknows
  have hlast : i = data.length := by
    rw [List.getElem?_eq_none_iff] at hend
    omega
  have hstep : a.step (.enqueue data) =
      ({ queue := { a.queue with header := newHeader, enqueueCount := a.queue.enqueueCount + 1 }
         region := store a.region (slotOffset a.queue a.queue.header) data },
        { status := .ok, data := [] }) := by
    have hok : ¬ data.length > a.queue.blockSize.toNat := by omega
    rw [hnext] at hroom ⊢
    simp only [QueueState.step, hyperampQueueEnqueue, if_neg hne, if_neg hok, if_neg hroom]
  refine ⟨hstep, ?_⟩
  rw [hstep]
  refine ⟨?_, ?_, ?_, ?_⟩
  · have hq := h.queue
    rw [hpc] at hq
    rw [hmem, hsender, hreceiver, hq]
    rfl
  · have hr := h.region
    rw [hpc] at hr
    rw [hmem, hsender]
    refine hr.trans ?_
    simp only [EnqueuePc.written, hlast, List.take_length, hslot]
  · rw [hsender]
    trivial
  · rw [hreceiver, hnext]
    exact h.receiver.enqueued _ hfit (hnext ▸ hroom)

theorem senderAccess_follows (h : Settles a s) (hst : senderAccess s = .ok t) :
    Follows a s t := by
  have hknows := h.sender
  have hnext : ∀ index,
      nextBySubtraction s.memory.queue index = nextBySubtraction a.queue index := by
    intro index
    rw [h.queue]
    rfl
  cases hpc : s.sender with
  | idle => simp [senderAccess, hpc] at hst
  | readHeader data =>
    simp only [senderAccess, hpc, Except.ok.injEq] at hst
    subst t
    rw [hpc] at hknows
    refine .silent rfl (h.sender_moves rfl rfl (by rw [hpc]; rfl) (by rw [hpc]; rfl) ?_)
    exact ⟨hknows, by rw [hnext, h.queue]⟩
  | readTail data newHeader =>
    simp only [senderAccess, hpc] at hst
    rw [hpc] at hknows
    obtain ⟨hfit, hnew⟩ := hknows
    have htail : a.queue.tail = s.memory.queue.tail := by rw [h.queue]
    split at hst
    · rename_i hfull
      cases hst
      refine refused_follows (.enqueue data) .again ?_ rfl
        (h.sender_moves rfl rfl (by rw [hpc]; rfl) (by rw [hpc]; rfl) trivial)
      rw [hnew, ← htail] at hfull
      have hok : ¬ data.length > a.queue.blockSize.toNat := Nat.not_lt.mpr hfit.2
      simp only [QueueState.step, hyperampQueueEnqueue, if_neg hfit.1, if_neg hok, if_pos hfull]
      rfl
    · rename_i hroom
      cases hst
      refine .silent rfl (h.sender_moves rfl rfl (by rw [hpc]; rfl) (by rw [hpc]; rfl) ?_)
      exact ⟨hfit, hnew, htail ▸ hroom⟩
  | readSlot data newHeader =>
    simp only [senderAccess, hpc, Except.ok.injEq] at hst
    subst t
    rw [hpc] at hknows
    obtain ⟨hfit, hnew, hroom⟩ := hknows
    refine .silent rfl (h.sender_moves rfl rfl (by rw [hpc]; rfl) ?_ ?_)
    · rw [hpc]
      simp only [EnqueuePc.written, List.take_zero, store_nil]
    · exact ⟨hfit, hnew, hroom, by rw [h.queue]; rfl, Nat.zero_le _⟩
  | copy data newHeader slot i =>
    simp only [senderAccess, hpc] at hst
    rw [hpc] at hknows
    split at hst
    · rename_i byte hbyte
      cases hst
      obtain ⟨hfit, hnew, hroom, hslot, -⟩ := hknows
      obtain ⟨hi, hget⟩ := List.getElem?_eq_some_iff.mp hbyte
      refine .silent rfl ⟨?_, ?_, ⟨hfit, hnew, hroom, hslot, hi⟩, h.receiver⟩
      · have hq := h.queue
        rw [hpc] at hq
        exact hq
      · have hr := h.region
        rw [hpc] at hr
        have hlen : (data.take i).length = i := List.length_take_of_le (Nat.le_of_lt hi)
        simp only [EnqueuePc.written] at hr ⊢
        rw [hr, List.take_add_one, hbyte, Option.toList_some, store_append, hlen]
    · rename_i hend
      have ht := Except.ok.inj hst
      obtain ⟨hstep, hsettles⟩ := published_settles (t := t) h hpc hend (by rw [← ht])
        (by rw [← ht]) (by rw [← ht]; rfl)
      exact .takes (.enqueue data) { status := .ok, data := [] } (by rw [← ht]; rfl)
        (by rw [hstep]) hsettles
  | readCount =>
    simp only [senderAccess, hpc, Except.ok.injEq] at hst
    subst t
    refine .silent rfl (h.sender_moves rfl rfl (by rw [hpc]; simp [EnqueuePc.owed])
      (by rw [hpc]; rfl) ?_)
    have hq := h.queue
    rw [hpc] at hq
    simp only [EnqueuePc.Knows, hq]
    rfl
  | writeCount count =>
    simp only [senderAccess, hpc, Except.ok.injEq] at hst
    subst t
    rw [hpc] at hknows
    refine .silent rfl ⟨?_, ?_, trivial, h.receiver⟩
    · have hq := h.queue
      rw [hpc] at hq
      have hcount : s.memory.queue.enqueueCount = count := by
        have hnow : a.queue.enqueueCount = count + 1 := hknows
        rw [hq] at hnow
        simpa [EnqueuePc.counted, EnqueuePc.owed] using hnow
      rw [hq, hcount]
      rfl
    · have hr := h.region
      rw [hpc] at hr
      exact hr

theorem callDequeue_follows (h : Settles a s) {maxLen : Nat}
    (hst : callDequeue s maxLen = .ok t) : Follows a s t := by
  unfold callDequeue at hst
  split at hst
  · cases hst
  · rename_i hidle
    have hreceiver : s.receiver = .idle := not_not.mp hidle
    split at hst
    · rename_i hlen
      cases hst
      refine refused_follows (.dequeue maxLen) .error ?_ rfl
        (h.receiver_moves rfl rfl (by rw [hreceiver]; rfl) trivial)
      simp only [QueueState.step, hyperampQueueDequeue, if_pos hlen]
      rfl
    · rename_i hlen
      cases hst
      exact .silent rfl (h.receiver_moves rfl rfl (by rw [hreceiver]; rfl) hlen)

/-- The buffer holds the oldest message and `tail` moves past it. -/
theorem taken_settles (h : Settles a s) (hw : Waiting a.queue a.region msgs) {maxLen : Nat}
    {got : List UInt8} {newTail : UInt16} (hpc : s.receiver = .writeTail maxLen got newTail)
    (hmem : t.memory = { s.memory with queue := { s.memory.queue with tail := newTail } })
    (hsender : t.sender = s.sender) (hreceiver : t.receiver = .readCount got) :
    a.step (.dequeue maxLen) =
        ({ a with
          queue := { a.queue with tail := newTail, dequeueCount := a.queue.dequeueCount + 1 } },
          { status := .ok, data := got }) ∧
      Settles (a.step (.dequeue maxLen)).1 t := by
  have hknows := h.receiver
  rw [hpc] at hknows
  obtain ⟨hlen, hne, hnext, hgot⟩ := hknows
  have hstep : a.step (.dequeue maxLen) =
      ({ a with
        queue := { a.queue with tail := newTail, dequeueCount := a.queue.dequeueCount + 1 } },
        { status := .ok, data := got }) := by
    simp only [QueueState.step, hyperampQueueDequeue, if_neg hlen, if_neg hne, hnext, hgot,
      readLen]
  refine ⟨hstep, ?_⟩
  rw [hstep]
  refine ⟨?_, ?_, ?_, ?_⟩
  · have hq := h.queue
    rw [hpc] at hq
    rw [hmem, hsender, hreceiver, hq]
    rfl
  · rw [hmem, hsender]
    exact h.region
  · rw [hsender, hnext]
    exact h.sender.dequeued _ hw.write_lt hw.read_lt hne
  · rw [hreceiver]
    trivial

theorem receiverAccess_follows (h : Settles a s) (hw : Waiting a.queue a.region msgs)
    (hst : receiverAccess s = .ok t) : Follows a s t := by
  have hknows := h.receiver
  have htail : a.queue.tail = s.memory.queue.tail := by rw [h.queue]
  have hblock : a.queue.blockSize = s.memory.queue.blockSize := by rw [h.queue]
  cases hpc : s.receiver with
  | idle => simp [receiverAccess, hpc] at hst
  | readTail maxLen =>
    simp only [receiverAccess, hpc, Except.ok.injEq] at hst
    subst t
    rw [hpc] at hknows
    exact .silent rfl (h.receiver_moves rfl rfl (by rw [hpc]; rfl) ⟨hknows, htail.symm⟩)
  | readHeader maxLen tail =>
    simp only [receiverAccess, hpc] at hst
    rw [hpc] at hknows
    obtain ⟨hlen, hread⟩ := hknows
    have hheader : a.queue.header = s.memory.queue.header := by rw [h.queue]
    rw [hread, ← hheader] at hst
    split at hst
    · rename_i hempty
      cases hst
      refine refused_follows (.dequeue maxLen) .again ?_ rfl
        (h.receiver_moves rfl rfl (by rw [hpc]; rfl) trivial)
      simp only [QueueState.step, hyperampQueueDequeue, if_neg hlen, if_pos hempty]
      rfl
    · rename_i hne
      cases hst
      exact .silent rfl (h.receiver_moves rfl rfl (by rw [hpc]; rfl) ⟨hlen, hne⟩)
  | readSlot maxLen =>
    simp only [receiverAccess, hpc, Except.ok.injEq] at hst
    subst t
    rw [hpc] at hknows
    refine .silent rfl (h.receiver_moves rfl rfl (by rw [hpc]; rfl) ?_)
    exact ⟨hknows.1, hknows.2, by rw [h.queue]; rfl, Nat.zero_le _, rfl⟩
  | copy maxLen slot got =>
    simp only [receiverAccess, hpc] at hst
    rw [hpc] at hknows
    obtain ⟨hlen, hne, hslot, hle, hgot⟩ := hknows
    rw [← hblock] at hst
    split at hst
    · rename_i hmore
      cases hst
      refine .silent rfl (h.receiver_moves rfl rfl (by rw [hpc]; rfl) ⟨hlen, hne, hslot, ?_, ?_⟩)
      · rw [List.length_append, List.length_singleton]
        exact hmore
      · -- the byte read is the one behind those read so far
        have hread : load s.memory.region slot (got.length + 1) =
            load a.region slot (got.length + 1) := by
          rw [h.region, hslot]
          exact written_apart h.sender hne (Nat.le_trans hmore (readLen_le _ _))
        have hlast := congrArg (fun l => l[got.length]?) hread
        simp only [load, List.getElem?_map, List.getElem?_range (Nat.lt_succ_self _),
          Option.map_some, Option.some.injEq] at hlast
        rw [List.length_append, List.length_singleton, load_append, ← hgot, hlast]
        rfl
    · rename_i hend
      cases hst
      refine .silent rfl (h.receiver_moves rfl rfl (by rw [hpc]; rfl) ⟨hlen, hne, ?_, ?_⟩)
      · rw [h.queue]
        rfl
      · rw [← hslot, ← show got.length = readLen a.queue.blockSize maxLen by omega]
        exact hgot
  | writeTail maxLen got newTail =>
    simp only [receiverAccess, hpc] at hst
    have ht := Except.ok.inj hst
    obtain ⟨hstep, hsettles⟩ := taken_settles (t := t) h hw hpc (by rw [← ht])
      (by rw [← ht]; rfl) (by rw [← ht])
    exact .takes (.dequeue maxLen) { status := .ok, data := got } (by rw [← ht]; rfl)
      (by rw [hstep]) hsettles
  | readCount got =>
    simp only [receiverAccess, hpc, Except.ok.injEq] at hst
    subst t
    refine .silent rfl (h.receiver_moves rfl rfl (by rw [hpc]; simp [DequeuePc.owed]) ?_)
    have hq := h.queue
    rw [hpc] at hq
    simp only [DequeuePc.Knows, hq]
    rfl
  | writeCount got count =>
    simp only [receiverAccess, hpc, Except.ok.injEq] at hst
    subst t
    rw [hpc] at hknows
    refine .silent rfl ⟨?_, h.region, h.sender, trivial⟩
    have hq := h.queue
    rw [hpc] at hq
    have hcount : s.memory.queue.dequeueCount = count := by
      have hnow : a.queue.dequeueCount = count + 1 := hknows
      rw [hq] at hnow
      simpa [DequeuePc.counted, DequeuePc.owed] using hnow
    rw [hq, hcount]
    rfl

theorem accessStep_follows (h : Settles a s) (hw : Waiting a.queue a.region msgs) {act : Access}
    (hst : accessStep s act = .ok t) : Follows a s t := by
  cases act with
  | enqueue data => exact callEnqueue_follows h hst
  | sender => exact senderAccess_follows h hst
  | dequeue maxLen => exact callDequeue_follows h hst
  | receiver => exact receiverAccess_follows h hw hst

end Accesses

/-! The calls that took effect against those that returned. -/

abbrev CallLog := List (QueueOp × Answer)

def QueueOp.isEnqueue : QueueOp → Bool
  | .enqueue _ => true
  | _ => false

def QueueOp.isDequeue : QueueOp → Bool
  | .dequeue _ => true
  | _ => false

def answersOf (p : QueueOp → Bool) (log : CallLog) : List Answer :=
  (log.filter fun call => p call.1).map Prod.snd

/-- Each call takes effect once, between the moment it is made and the moment it returns. -/
structure Accounts (s : SharedQueue) : Prop where
  calls : ∀ call ∈ s.log, call.1.isEnqueue = true ∨ call.1.isDequeue = true
  sent : answersOf QueueOp.isEnqueue s.log = s.sent ++ s.sender.owed
  received : answersOf QueueOp.isDequeue s.log = s.received ++ s.receiver.owed

theorem answersOf_snoc (p : QueueOp → Bool) (log : CallLog) (op : QueueOp) (a : Answer) :
    answersOf p (log ++ [(op, a)]) = answersOf p log ++ if p op then [a] else [] := by
  unfold answersOf
  cases hp : p op <;> simp [hp]

section Accounting

variable {s t : SharedQueue}

theorem Accounts.silent (h : Accounts s) (hlog : t.log = s.log)
    (hsent : t.sent ++ t.sender.owed = s.sent ++ s.sender.owed)
    (hreceived : t.received ++ t.receiver.owed = s.received ++ s.receiver.owed) :
    Accounts t ∧ s.log <+: t.log := by
  refine ⟨⟨?_, ?_, ?_⟩, hlog ▸ List.prefix_refl _⟩
  · rw [hlog]
    exact h.calls
  · rw [hlog, hsent]
    exact h.sent
  · rw [hlog, hreceived]
    exact h.received

theorem Accounts.enqueues (h : Accounts s) {data : List UInt8} {a : Answer}
    (hlog : t.log = s.log ++ [(.enqueue data, a)])
    (hsent : t.sent ++ t.sender.owed = s.sent ++ s.sender.owed ++ [a])
    (hreceived : t.received ++ t.receiver.owed = s.received ++ s.receiver.owed) :
    Accounts t ∧ s.log <+: t.log := by
  refine ⟨⟨?_, ?_, ?_⟩, hlog ▸ List.prefix_append _ _⟩
  · intro call hmem
    rw [hlog, List.mem_append, List.mem_singleton] at hmem
    rcases hmem with hmem | rfl
    · exact h.calls call hmem
    · exact .inl rfl
  · rw [hlog, hsent, answersOf_snoc, h.sent]
    rfl
  · rw [hlog, hreceived, answersOf_snoc, h.received]
    exact List.append_nil _

theorem Accounts.dequeues (h : Accounts s) {maxLen : Nat} {a : Answer}
    (hlog : t.log = s.log ++ [(.dequeue maxLen, a)])
    (hsent : t.sent ++ t.sender.owed = s.sent ++ s.sender.owed)
    (hreceived : t.received ++ t.receiver.owed = s.received ++ s.receiver.owed ++ [a]) :
    Accounts t ∧ s.log <+: t.log := by
  refine ⟨⟨?_, ?_, ?_⟩, hlog ▸ List.prefix_append _ _⟩
  · intro call hmem
    rw [hlog, List.mem_append, List.mem_singleton] at hmem
    rcases hmem with hmem | rfl
    · exact h.calls call hmem
    · exact .inr rfl
  · rw [hlog, hsent, answersOf_snoc, h.sent]
    exact List.append_nil _
  · rw [hlog, hreceived, answersOf_snoc, h.received]
    rfl

theorem senderAccess_accounts (h : Accounts s) (hst : senderAccess s = .ok t) :
    Accounts t ∧ s.log <+: t.log := by
  unfold senderAccess at hst
  cases hpc : s.sender with
  | idle => simp [hpc] at hst
  | readTail data newHeader =>
    simp only [hpc] at hst
    split at hst <;> cases hst
    · exact h.enqueues rfl (by simp [SharedQueue.enqueued, SharedQueue.logged, hpc,
        EnqueuePc.owed]) rfl
    · exact h.silent rfl (by rw [hpc]; rfl) rfl
  | copy data newHeader slot i =>
    simp only [hpc] at hst
    split at hst <;> cases hst
    · exact h.silent rfl (by rw [hpc]; rfl) rfl
    · exact h.enqueues rfl (by simp [SharedQueue.logged, hpc, EnqueuePc.owed]) rfl
  | writeCount count =>
    simp only [hpc, Except.ok.injEq] at hst
    subst t
    exact h.silent rfl (by simp [SharedQueue.enqueued, hpc, EnqueuePc.owed]) rfl
  | _ =>
    simp only [hpc, Except.ok.injEq] at hst
    subst t
    exact h.silent rfl (by rw [hpc]; rfl) rfl

theorem receiverAccess_accounts (h : Accounts s) (hst : receiverAccess s = .ok t) :
    Accounts t ∧ s.log <+: t.log := by
  unfold receiverAccess at hst
  cases hpc : s.receiver with
  | idle => simp [hpc] at hst
  | readHeader maxLen tail =>
    simp only [hpc] at hst
    split at hst <;> cases hst
    · exact h.dequeues rfl rfl (by simp [SharedQueue.dequeued, SharedQueue.logged, hpc,
        DequeuePc.owed])
    · exact h.silent rfl rfl (by rw [hpc]; rfl)
  | copy maxLen slot got =>
    simp only [hpc] at hst
    split at hst <;> cases hst <;> exact h.silent rfl rfl (by rw [hpc]; rfl)
  | writeTail maxLen got newTail =>
    simp only [hpc, Except.ok.injEq] at hst
    subst t
    exact h.dequeues rfl rfl (by simp [SharedQueue.logged, hpc, DequeuePc.owed])
  | writeCount got count =>
    simp only [hpc, Except.ok.injEq] at hst
    subst t
    exact h.silent rfl rfl (by simp [SharedQueue.dequeued, hpc, DequeuePc.owed])
  | _ =>
    simp only [hpc, Except.ok.injEq] at hst
    subst t
    exact h.silent rfl rfl (by rw [hpc]; rfl)

theorem accessStep_accounts (h : Accounts s) {act : Access} (hst : accessStep s act = .ok t) :
    Accounts t ∧ s.log <+: t.log := by
  cases act with
  | enqueue data =>
    simp only [accessStep, callEnqueue] at hst
    split at hst
    · cases hst
    · rename_i hidle
      have hpc : s.sender = .idle := not_not.mp hidle
      split at hst <;> cases hst
      · exact h.enqueues rfl (by simp [SharedQueue.enqueued, SharedQueue.logged, hpc,
          EnqueuePc.owed]) rfl
      · exact h.silent rfl (by rw [hpc]; rfl) rfl
  | sender => exact senderAccess_accounts h hst
  | dequeue maxLen =>
    simp only [accessStep, callDequeue] at hst
    split at hst
    · cases hst
    · rename_i hidle
      have hpc : s.receiver = .idle := not_not.mp hidle
      split at hst <;> cases hst
      · exact h.dequeues rfl rfl (by simp [SharedQueue.dequeued, SharedQueue.logged, hpc,
          DequeuePc.owed])
      · exact h.silent rfl rfl (by rw [hpc]; rfl)
  | receiver => exact receiverAccess_accounts h hst

end Accounting

/-! What the calls delivered, as messages. -/

/-- The messages that were accepted, in order. -/
def accepted (log : CallLog) : List (List UInt8) :=
  log.filterMap fun
    | (.enqueue data, a) => if a.status = .ok then some data else none
    | _ => none

/-- What was delivered, in order, each with the room its reader offered. -/
def delivered (log : CallLog) : List (Nat × List UInt8) :=
  log.filterMap fun
    | (.dequeue maxLen, a) => if a.status = .ok then some (maxLen, a.data) else none
    | _ => none

/-- What a reader got starts with the message, or with as much of it as it had room for. -/
def Delivers (x : List UInt8) (got : Nat × List UInt8) : Prop :=
  got.2.take (min got.1 x.length) = x.take got.1

/-- A history of a queue delivers the accepted messages in order, and holds the others. -/
theorem history_delivers {c b : Nat} {a : QueueState} {f : Fifo} {log : CallLog}
    (h : Represents c b a f) (hlog : Answers QueueState.step a log)
    (hcalls : ∀ call ∈ log, call.1.isEnqueue = true ∨ call.1.isDequeue = true) :
    ∃ f' taken, Represents c b (behind QueueState.step a log) f' ∧
      f.msgs ++ accepted log = taken ++ f'.msgs ∧ List.Forall₂ Delivers taken (delivered log) := by
  induction log generalizing a f with
  | nil => exact ⟨f, [], h, by simp [accepted], .nil⟩
  | cons call log ih =>
    obtain ⟨op, r⟩ := call
    obtain ⟨hr, hrest⟩ := hlog
    obtain ⟨hnext, hmatch⟩ := sim_step h op
    obtain ⟨f', taken, hf', heq, hdel⟩ :=
      ih hnext hrest fun call hmem => hcalls call (List.mem_cons_of_mem _ hmem)
    rw [hr] at hmatch
    cases op with
    | enqueue data =>
      refine ⟨f', taken, hf', ?_, hdel⟩
      have hok : r.status = .ok ↔ (f.step (c - 1) b (.enqueue data)).2.isSome := hmatch
      by_cases hst : r.status = .ok
      · have hsome := hok.mp hst
        have hmsgs : (f.step (c - 1) b (.enqueue data)).1.msgs = f.msgs ++ [data] := by
          simp only [Fifo.step] at hsome ⊢
          split at hsome
          · cases hsome
          · rename_i hlen
            rw [if_neg hlen]
            exact Fifo.push_msgs hsome
        rw [hmsgs] at heq
        simpa [accepted, hst] using heq
      · have hsame := Fifo.step_refused _ (mt hok.mpr hst)
        rw [hsame] at heq
        simpa [accepted, hst] using heq
    | dequeue n =>
      obtain ⟨hok, hdata⟩ := hmatch
      by_cases hst : r.status = .ok
      · have hsome := hok.mp hst
        simp only [Fifo.step] at hsome hdata heq
        split at hsome
        · cases hsome
        · rename_i hn
          rw [if_neg hn] at hdata heq
          obtain ⟨x, hx⟩ := Option.isSome_iff_exists.mp hsome
          refine ⟨f', x :: taken, hf', ?_, ?_⟩
          · rw [Fifo.pop_some hx]
            simpa [accepted] using heq
          · have hfirst : delivered ((.dequeue n, r) :: log) = (n, r.data) :: delivered log := by
              simp [delivered, hst]
            rw [hfirst]
            exact .cons (hdata x hx) hdel
      · have hsame := Fifo.step_refused _ (mt hok.mpr hst)
        rw [hsame] at heq
        refine ⟨f', taken, hf', ?_, ?_⟩
        · simpa [accepted] using heq
        · simpa [delivered, hst] using hdel
    | _ => simpa [QueueOp.isEnqueue, QueueOp.isDequeue] using hcalls _ List.mem_cons_self

/-- The calls of both sides are those of the queue whose calls run one after the other from `start`,
and what was delivered is what was accepted, oldest first. -/
structure Linearized (bound : Nat) (start : QueueState) (s : SharedQueue) : Prop where
  answers : Answers QueueState.step start s.log
  sent : answersOf QueueOp.isEnqueue s.log = s.sent ++ s.sender.owed
  received : answersOf QueueOp.isDequeue s.log = s.received ++ s.receiver.owed
  memory : s.sender = .idle → s.receiver = .idle →
    s.memory = behind QueueState.step start s.log
  messages : ∃ taken waiting, accepted s.log = taken ++ waiting ∧
    List.Forall₂ Delivers taken (delivered s.log) ∧ waiting.length ≤ bound

section Runs

variable (old : HyperampShmQueue) {config : HyperampQueueConfig} (region : DataRegion)

/-- The history is one of the queue, and its end is what both sides work on. -/
structure Linear (start : QueueState) (s : SharedQueue) : Prop where
  answers : Answers QueueState.step start s.log
  settles : Settles (behind QueueState.step start s.log) s
  accounts : Accounts s

theorem accessStep_linear (hc : 1 ≤ config.capacity.toNat) (hb : 1 ≤ config.blockSize.toNat)
    {s t : SharedQueue} {act : Access} (h : Linear (created old config region) s)
    (hst : accessStep s act = .ok t) :
    Linear (created old config region) t ∧ s.log <+: t.log := by
  obtain ⟨hanswers, hsettles, haccounts⟩ := h
  obtain ⟨haccounts', hprefix⟩ := accessStep_accounts haccounts hst
  obtain ⟨f, taken, hf, -, -⟩ :=
    history_delivers (created_represents old region hc hb) hanswers haccounts.calls
  refine ⟨?_, hprefix⟩
  cases accessStep_follows hsettles hf.waiting hst with
  | silent hlog hs =>
    rw [← hlog] at hanswers hs
    exact ⟨hanswers, hs, haccounts'⟩
  | takes op r hlog hr hs =>
    refine ⟨?_, ?_, haccounts'⟩
    · rw [hlog]
      exact hanswers.snoc hr
    · rw [hlog, behind_snoc]
      exact hs

theorem sharedStart_linear (start : QueueState) : Linear start (sharedStart start) :=
  ⟨trivial, ⟨rfl, rfl, trivial, trivial⟩, ⟨by simp [sharedStart], rfl, rfl⟩⟩

theorem run_linear (hc : 1 ≤ config.capacity.toNat) (hb : 1 ≤ config.blockSize.toNat)
    {s t : SharedQueue} {acts : List Access} (h : Linear (created old config region) s)
    (hrun : run accessStep s acts = .ok t) :
    Linear (created old config region) t ∧ s.log <+: t.log := by
  refine run_invariant (C := fun _ _ => True)
    (I := fun u => Linear (created old config region) u ∧ s.log <+: u.log) ?_
    ⟨h, List.prefix_refl _⟩ (allSteps_true _ _) hrun
  intro u act v hu _ hst
  obtain ⟨hv, hprefix⟩ := accessStep_linear old region hc hb hu.1 hst
  exact ⟨hv, hu.2.trans hprefix⟩

/-- One sender and one receiver need no lock: whatever the order of their accesses to the shared
memory, their calls take effect one at a time, in an order that only grows. -/
theorem interleaved_linearized (hc : 1 ≤ config.capacity.toNat)
    (hb : 1 ≤ config.blockSize.toNat) (acts : List Access) {t : SharedQueue}
    (h : run accessStep (sharedStart (created old config region)) acts = .ok t) :
    Linearized (config.capacity.toNat - 1) (created old config region) t ∧
      ∀ more u, run accessStep t more = .ok u → t.log <+: u.log := by
  have hlinear := (run_linear old region hc hb (sharedStart_linear _) h).1
  refine ⟨?_, fun more u hu => (run_linear old region hc hb hlinear hu).2⟩
  obtain ⟨hanswers, hsettles, haccounts⟩ := hlinear
  obtain ⟨f, taken, hf, hmsgs, hdel⟩ :=
    history_delivers (created_represents old region hc hb) hanswers haccounts.calls
  refine ⟨hanswers, haccounts.sent, haccounts.received, ?_, taken, f.msgs, ?_, hdel, ?_⟩
  · intro hsender hreceiver
    have hq := hsettles.queue
    have hr := hsettles.region
    rw [hsender, hreceiver] at hq
    rw [hsender] at hr
    exact congrArg₂ QueueState.mk hq.symm hr
  · exact hmsgs
  · have hle := Ring.Holds.length_le hf.waiting
    rwa [hf.capacity] at hle

end Runs

/-- A message is taken while the call that sent it has not returned yet. -/
def overlapping : List Access :=
  [.enqueue [7], .sender, .dequeue 1, .sender, .sender, .sender, .sender, .receiver, .receiver,
    .receiver, .sender, .receiver, .receiver, .receiver, .receiver, .receiver, .sender]

theorem interleaved_linearized_overlapping :
    ∃ t, run accessStep (sharedStart (created blankControl smallConfig fun _ => 0)) overlapping =
        .ok t ∧
      t.received = [{ status := .ok, data := [7] }] ∧
      Linearized 1 (created blankControl smallConfig fun _ => 0) t := by
  obtain ⟨t, hrun, hreceived⟩ := reached_of_view (f := SharedQueue.received)
    (b := [{ status := .ok, data := [7] }])
    (r := run accessStep (sharedStart (created blankControl smallConfig fun _ => 0)) overlapping)
    (by decide)
  exact ⟨t, hrun, hreceived,
    (interleaved_linearized blankControl (fun _ => 0) (by decide) (by decide) overlapping
      hrun).1⟩

end BackendProxy.Queue
