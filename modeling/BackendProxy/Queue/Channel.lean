import BackendProxy.Lib.Runs
import BackendProxy.Queue.Fifo
import Mathlib.Data.List.Forall2

namespace BackendProxy.Queue

open Lib

/-! The duplex channel of the engine: the RX and the TX queue over one data region. -/

def backendEngineHyperampRxQueueGet (rx : HyperampShmQueue) (region : DataRegion)
    (maxMsgLen : Nat) : ProcessStatus × HyperampShmQueue × List UInt8 :=
  let (status, queue, data) := hyperampQueueDequeue rx region maxMsgLen
  (ofHyperamp status, queue, data)

def backendEngineHyperampTxQueuePut (tx : HyperampShmQueue) (region : DataRegion)
    (data : List UInt8) : ProcessStatus × HyperampShmQueue × DataRegion :=
  if data.length > tx.blockSize.toNat then (.error, tx, region)
  else
    let (status, queue, region) := hyperampQueueEnqueue tx region data
    (ofHyperamp status, queue, region)

structure Channel where
  rx : HyperampShmQueue
  tx : HyperampShmQueue
  region : DataRegion

def shmStartPaddr : UInt64 := 0x7E000000
def shmCh1Paddr : UInt64 := shmStartPaddr + 0x200000
def shmCh2Paddr : UInt64 := shmStartPaddr + 0x300000
def shmQueueSize : Nat := 4 * 1024
def shmDataRegionOffset : Nat := shmQueueSize * 2
def shmCh0DataSize : Nat := 2 * 1024 * 1024 - shmDataRegionOffset
def shmCh1DataSize : Nat := 1 * 1024 * 1024 - shmDataRegionOffset
def shmCh2DataSize : Nat := 1 * 1024 * 1024 - shmDataRegionOffset
def defaultQueueCapacity : UInt16 := 256
def defaultBlockSize : UInt16 := 4096

/-- Data bytes of the channel mapped at a physical address. -/
def channelDataSize (physAddr : UInt64) : Nat :=
  if physAddr = shmCh1Paddr then shmCh1DataSize
  else if physAddr = shmCh2Paddr then shmCh2DataSize
  else shmCh0DataSize

def channelQueueCapacity (dataSize : Nat) : UInt16 :=
  let maxCapacity := UInt16.ofNat (dataSize / defaultBlockSize.toNat)
  let maxCapacity := if maxCapacity > 0 then maxCapacity - 1 else maxCapacity
  if defaultQueueCapacity > maxCapacity then maxCapacity else defaultQueueCapacity

/-- `hyperamp_linux_init` for the creator, with the region mapped at `shmBase`; `old` is what the
shared memory held before. -/
def hyperampLinuxInit (physAddr shmBase : UInt64) (old : Channel) : HyperampStatus × Channel :=
  let physAddr := if physAddr = 0 then shmStartPaddr else physAddr
  let dataSize := channelDataSize physAddr
  let capacity := channelQueueCapacity dataSize
  let txConfig : HyperampQueueConfig :=
    { mapMode := 0, capacity, blockSize := defaultBlockSize,
      phyAddr := physAddr + UInt64.ofNat shmQueueSize,
      virtAddr := shmBase + UInt64.ofNat shmQueueSize }
  let rxConfig : HyperampQueueConfig :=
    { mapMode := 0, capacity, blockSize := defaultBlockSize, phyAddr := physAddr,
      virtAddr := shmBase }
  match hyperampQueueInit old.tx txConfig true with
  | (.ok, tx) =>
    match hyperampQueueInit old.rx rxConfig true with
    | (.ok, rx) =>
      (.ok, { rx, tx, region := fun a => if a < dataSize then 0 else old.region a })
    | (status, rx) => (status, { old with rx, tx })
  | (status, tx) => (status, { old with tx })

inductive ChannelOp where
  | frontendPut (data : List UInt8)
  | backendGet (maxMsgLen : Nat)
  | backendPut (data : List UInt8)
  | frontendGet (maxLen : Nat)
  deriving DecidableEq, Repr

inductive Side where
  | rx
  | tx
  deriving DecidableEq, Repr

/-- What went into and came out of each queue so far. A delivery records the room offered. -/
structure History where
  accepted : Side → List (List UInt8)
  delivered : Side → List (Nat × List UInt8)

structure ChannelRun where
  channel : Channel
  history : History

def Channel.queue (ch : Channel) : Side → HyperampShmQueue
  | .rx => ch.rx
  | .tx => ch.tx

def Channel.setQueue (ch : Channel) (side : Side) (q : HyperampShmQueue) : Channel :=
  match side with
  | .rx => { ch with rx := q }
  | .tx => { ch with tx := q }

def History.accept (h : History) (side : Side) (data : List UInt8) : History :=
  { h with accepted := Function.update h.accepted side (h.accepted side ++ [data]) }

def History.deliver (h : History) (side : Side) (room : Nat) (data : List UInt8) : History :=
  { h with delivered := Function.update h.delivered side (h.delivered side ++ [(room, data)]) }

def ChannelRun.start (ch : Channel) : ChannelRun :=
  { channel := ch, history := { accepted := fun _ => [], delivered := fun _ => [] } }

/-- Record a put that returned `status` and left `queue` and `region`. -/
def ChannelRun.put (r : ChannelRun) (side : Side) (data : List UInt8)
    (result : ProcessStatus × HyperampShmQueue × DataRegion) : ChannelRun × ProcessStatus :=
  let channel := { r.channel.setQueue side result.2.1 with region := result.2.2 }
  if result.1 = .ok then ({ channel, history := r.history.accept side data }, result.1)
  else ({ r with channel }, result.1)

def ChannelRun.get (r : ChannelRun) (side : Side) (room : Nat)
    (result : ProcessStatus × HyperampShmQueue × List UInt8) : ChannelRun × ProcessStatus :=
  let channel := r.channel.setQueue side result.2.1
  if result.1 = .ok then
    ({ channel, history := r.history.deliver side room result.2.2 }, result.1)
  else ({ r with channel }, result.1)

/-- One atomic operation of one of the two sides. -/
def ChannelRun.step (r : ChannelRun) : ChannelOp → ChannelRun × ProcessStatus
  | .frontendPut data =>
    let (status, rx, region) := hyperampQueueEnqueue r.channel.rx r.channel.region data
    r.put .rx data (ofHyperamp status, rx, region)
  | .backendGet maxMsgLen =>
    r.get .rx maxMsgLen
      (backendEngineHyperampRxQueueGet r.channel.rx r.channel.region maxMsgLen)
  | .backendPut data =>
    r.put .tx data (backendEngineHyperampTxQueuePut r.channel.tx r.channel.region data)
  | .frontendGet maxLen =>
    let (status, tx, data) := hyperampQueueDequeue r.channel.tx r.channel.region maxLen
    r.get .tx maxLen (ofHyperamp status, tx, data)

/-- A delivery returns the bytes of the message it stands for, as far as there was room. -/
def Returns (delivery : Nat × List UInt8) (msg : List UInt8) : Prop :=
  delivery.2.take (min delivery.1 msg.length) = msg.take (min delivery.1 msg.length)

/-- The `k`-th delivery of each queue returns the `k`-th message that queue accepted, and what
was accepted since then waits unchanged in the slots of the queue. -/
structure Intact (r : ChannelRun) : Prop where
  matching : ∀ side (k : Nat) delivery, (r.history.delivered side)[k]? = some delivery →
    ∃ msg, (r.history.accepted side)[k]? = some msg ∧ Returns delivery msg
  waiting : ∀ side, Waiting (r.channel.queue side) r.channel.region
    ((r.history.accepted side).drop (r.history.delivered side).length)

/-- Some waiting message of the queue lies in the slot of `index`. -/
def Occupied (q : HyperampShmQueue) (index : UInt16) : Prop :=
  ∃ i, i < (length q).toNat ∧ (q.tail.toNat + i) % q.capacity.toNat = index.toNat

instance (q : HyperampShmQueue) (index : UInt16) : Decidable (Occupied q index) :=
  inferInstanceAs (Decidable (∃ i, i < (length q).toNat ∧ _))

/-- The queue would take this message: its length is admitted and there is room. -/
def Admits (q : HyperampShmQueue) (data : List UInt8) : Prop :=
  data.length ≠ 0 ∧ data.length ≤ q.blockSize.toNat ∧ isFull q = false

instance (q : HyperampShmQueue) (data : List UInt8) : Decidable (Admits q data) :=
  inferInstanceAs (Decidable (_ ∧ _ ∧ _))

/-- A put that will be carried out does not target the slot of a message that still waits in
the other queue. -/
def SlotFree (r : ChannelRun) : ChannelOp → Prop
  | .frontendPut data => Admits r.channel.rx data → ¬ Occupied r.channel.tx r.channel.rx.header
  | .backendPut data => Admits r.channel.tx data → ¬ Occupied r.channel.rx r.channel.tx.header
  | _ => True

instance (r : ChannelRun) : (op : ChannelOp) → Decidable (SlotFree r op)
  | .frontendPut data =>
    inferInstanceAs
      (Decidable (Admits r.channel.rx data → ¬ Occupied r.channel.tx r.channel.rx.header))
  | .backendPut data =>
    inferInstanceAs
      (Decidable (Admits r.channel.tx data → ¬ Occupied r.channel.rx r.channel.tx.header))
  | .backendGet _ => .isTrue trivial
  | .frontendGet _ => .isTrue trivial

/-! Proofs. The invariant splits what a queue accepted into delivered and waiting messages. -/

/-- One queue of a run against its history. -/
def SideIntact (q : HyperampShmQueue) (region : DataRegion) (accepted : List (List UInt8))
    (delivered : List (Nat × List UInt8)) : Prop :=
  ∃ done msgs, accepted = done ++ msgs ∧ List.Forall₂ Returns delivered done ∧
    Waiting q region msgs

structure Duplex (r : ChannelRun) : Prop where
  side : ∀ side, SideIntact (r.channel.queue side) r.channel.region (r.history.accepted side)
    (r.history.delivered side)
  capacity : r.channel.rx.capacity = r.channel.tx.capacity
  blockSize : r.channel.rx.blockSize = r.channel.tx.blockSize

theorem Duplex.intact {r : ChannelRun} (h : Duplex r) : Intact r := by
  refine ⟨?_, ?_⟩
  · intro side k delivery hk
    obtain ⟨done, msgs, hacc, hret, -⟩ := h.side side
    obtain ⟨hlt, hget⟩ := List.getElem?_eq_some_iff.mp hk
    have hlen := hret.length_eq
    refine ⟨done[k], ?_, ?_⟩
    · rw [hacc, List.getElem?_append_left (by omega)]
      exact List.getElem?_eq_getElem _
    · have hk' := (List.forall₂_iff_get.mp hret).2 k hlt (by omega)
      simpa [hget] using hk'
  · intro side
    obtain ⟨done, msgs, hacc, hret, hw⟩ := h.side side
    rw [hacc, hret.length_eq, List.drop_left]
    exact hw

section Step

variable {r : ChannelRun}

theorem admits_iff {q : HyperampShmQueue} {region : DataRegion} {msgs : List (List UInt8)}
    (hw : Waiting q region msgs) (data : List UInt8) :
    Admits q data ↔ data.length ≠ 0 ∧ data.length ≤ q.blockSize.toNat ∧
      msgs.length < q.capacity.toNat - 1 := by
  have hl := Ring.Holds.length_le hw
  have hf := Ring.Holds.full_iff hw
  unfold Ring.next at hf
  simp only [Admits, isFull, beq_eq_false_iff_ne, ne_eq, hf]
  constructor
  · intro hx
    obtain ⟨h0, hb, hne⟩ := hx
    exact ⟨h0, hb, by omega⟩
  · intro hx
    obtain ⟨h0, hb, hlt⟩ := hx
    exact ⟨h0, hb, by omega⟩

theorem occupied_of_cell {q : HyperampShmQueue} {region : DataRegion} {msgs : List (List UInt8)}
    (hw : Waiting q region msgs) {index : UInt16} (h : ¬ Occupied q index) :
    ∀ i < msgs.length, (q.tail.toNat + i) % q.capacity.toNat ≠ index.toNat := by
  intro i hi he
  refine h ⟨i, ?_, he⟩
  have hl := hw.length
  unfold Ring.len at hl
  simp only [length, ge_iff_le, UInt16.le_iff_toNat_le]
  have ht := hw.read_lt
  split at hl <;> rename_i hle
  · rw [if_pos hle]
    omega
  · rw [if_neg hle]
    omega

theorem queue_setQueue (ch : Channel) (side other : Side) (q : HyperampShmQueue) :
    (ch.setQueue side q).queue other = if other = side then q else ch.queue other := by
  cases side <;> cases other <;> rfl

theorem queue_withRegion (ch : Channel) (other : Side) (region : DataRegion) :
    ({ ch with region } : Channel).queue other = ch.queue other := by
  cases other <;> rfl

theorem setQueue_self (ch : Channel) (side : Side) : ch.setQueue side (ch.queue side) = ch := by
  cases side <;> rfl

theorem region_setQueue (ch : Channel) (side : Side) (q : HyperampShmQueue) :
    (ch.setQueue side q).region = ch.region := by
  cases side <;> rfl

theorem Duplex.same_shape (h : Duplex r) (a b : Side) :
    (r.channel.queue a).capacity = (r.channel.queue b).capacity ∧
      (r.channel.queue a).blockSize = (r.channel.queue b).blockSize := by
  cases a <;> cases b <;> simp [Channel.queue, h.capacity, h.blockSize]

/-- Two runs agree in shape when each queue keeps its capacity and block size. -/
theorem Duplex.of_sides {r' : ChannelRun} (h : Duplex r)
    (hs : ∀ side, SideIntact (r'.channel.queue side) r'.channel.region
      (r'.history.accepted side) (r'.history.delivered side))
    (hc : ∀ side, (r'.channel.queue side).capacity = (r.channel.queue side).capacity ∧
      (r'.channel.queue side).blockSize = (r.channel.queue side).blockSize) : Duplex r' := by
  refine ⟨hs, ?_, ?_⟩
  · exact (hc .rx).1.trans ((h.same_shape .rx .tx).1.trans (hc .tx).1.symm)
  · exact (hc .rx).2.trans ((h.same_shape .rx .tx).2.trans (hc .tx).2.symm)

/-- Putting on one queue keeps both queues intact when the slot is free on the other. -/
theorem Duplex.put (h : Duplex r) (side : Side) (data : List UInt8)
    (free : ∀ other ≠ side, Admits (r.channel.queue side) data →
      ¬ Occupied (r.channel.queue other) (r.channel.queue side).header) :
    Duplex (r.put side data
      (ofHyperamp (hyperampQueueEnqueue (r.channel.queue side) r.channel.region data).1,
        (hyperampQueueEnqueue (r.channel.queue side) r.channel.region data).2)).1 := by
  obtain ⟨done, msgs, hacc, hret, hw⟩ := h.side side
  by_cases ha : Admits (r.channel.queue side) data
  · obtain ⟨h0, hb, hlt⟩ := (admits_iff hw data).mp ha
    obtain ⟨heq, hw'⟩ := enqueue_accepted hw h0 hb hlt
    simp only [heq, ofHyperamp, ChannelRun.put, if_true]
    refine h.of_sides ?_ ?_
    · intro other
      by_cases ho : other = side
      · subst ho
        refine ⟨done, msgs ++ [data], ?_, hret, ?_⟩
        · simp [History.accept, hacc]
        · simpa [queue_withRegion, queue_setQueue] using hw'
      · obtain ⟨done', msgs', hacc', hret', hwo⟩ := h.side other
        refine ⟨done', msgs', ?_, hret', ?_⟩
        · simpa [History.accept, ho] using hacc'
        · have hshape := h.same_shape side other
          have := hwo.store_elsewhere (d := data) (occupied_of_cell hwo (free other ho ha))
            (by rw [← hshape.2]; exact hb)
          simpa [queue_withRegion, queue_setQueue, ho, slotOffset, hshape.2] using this
    · intro other
      by_cases ho : other = side <;> simp [queue_withRegion, queue_setQueue, ho]
  · have hl := Ring.Holds.length_le hw
    obtain ⟨st, hst, heq⟩ := enqueue_refused hw (d := data) (by
      have := mt (admits_iff hw data).mpr ha
      omega)
    have hne : ofHyperamp st ≠ .ok := by cases st <;> simp_all [ofHyperamp]
    simpa [heq, ChannelRun.put, hne, setQueue_self] using h

/-- Getting from one queue returns its oldest message and leaves the other alone. -/
theorem Duplex.get (h : Duplex r) (side : Side) (room : Nat) :
    Duplex (r.get side room
      (ofHyperamp (hyperampQueueDequeue (r.channel.queue side) r.channel.region room).1,
        (hyperampQueueDequeue (r.channel.queue side) r.channel.region room).2)).1 := by
  obtain ⟨done, msgs, hacc, hret, hw⟩ := h.side side
  by_cases hr : room = 0 ∨ msgs = []
  · obtain ⟨st, hst, heq⟩ := dequeue_refused hw hr
    have hne : ofHyperamp st ≠ .ok := by cases st <;> simp_all [ofHyperamp]
    simpa [heq, ChannelRun.get, hne, setQueue_self] using h
  · cases msgs with
    | nil => simp at hr
    | cons x rest =>
      obtain ⟨heq, hw'⟩ := dequeue_accepted hw (n := room) (by tauto)
      simp only [heq, ofHyperamp, ChannelRun.get, if_true]
      refine h.of_sides ?_ ?_
      · intro other
        by_cases ho : other = side
        · subst ho
          refine ⟨done ++ [x], rest, ?_, ?_, ?_⟩
          · simp [History.deliver, hacc]
          · have hx : Returns (room, load r.channel.region
                (slotOffset (r.channel.queue other) (r.channel.queue other).tail)
                (min room (r.channel.queue other).blockSize.toNat)) x := by
              simp only [Returns, hw.delivered room]
              exact List.take_eq_take_min
            simpa [History.deliver] using List.rel_append hret (List.Forall₂.cons hx .nil)
          · simpa [queue_setQueue, region_setQueue] using hw'
        · have := h.side other
          simpa [queue_setQueue, region_setQueue, History.deliver, ho] using this
      · intro other
        by_cases ho : other = side <;> simp [queue_setQueue, ho]

theorem txQueuePut_eq (tx : HyperampShmQueue) (region : DataRegion) (data : List UInt8) :
    backendEngineHyperampTxQueuePut tx region data =
      (ofHyperamp (hyperampQueueEnqueue tx region data).1,
        (hyperampQueueEnqueue tx region data).2) := by
  unfold backendEngineHyperampTxQueuePut
  split
  · rename_i hl
    have h0 : data.length ≠ 0 := by omega
    simp only [hyperampQueueEnqueue, h0, hl, if_false, if_true, ofHyperamp]
  · rfl

/-- Every operation that meets the condition keeps the channel intact. -/
theorem Duplex.step (h : Duplex r) (op : ChannelOp) (free : SlotFree r op) :
    Duplex (r.step op).1 := by
  cases op with
  | frontendPut data =>
    apply h.put .rx data
    intro other ho ha
    cases other with
    | rx => exact absurd rfl ho
    | tx => exact free ha
  | backendPut data =>
    simp only [ChannelRun.step, txQueuePut_eq]
    apply h.put .tx data
    intro other ho ha
    cases other with
    | tx => exact absurd rfl ho
    | rx => exact free ha
  | backendGet n => exact h.get .rx n
  | frontendGet n => exact h.get .tx n

end Step

theorem channelQueueCapacity_ne_zero (physAddr : UInt64) :
    channelQueueCapacity (channelDataSize physAddr) ≠ 0 := by
  unfold channelDataSize
  split
  · decide
  · split <;> decide

/-- After initialisation both queues are empty and of one shape. -/
theorem hyperampLinuxInit_duplex (physAddr shmBase : UInt64) (old : Channel) :
    (hyperampLinuxInit physAddr shmBase old).1 = .ok ∧
      Duplex (ChannelRun.start (hyperampLinuxInit physAddr shmBase old).2) := by
  simp only [hyperampLinuxInit]
  generalize (if physAddr = 0 then shmStartPaddr else physAddr) = p
  obtain ⟨tx, htx, hct, hbt, -, -, hwt⟩ := created_waiting old.tx
    { mapMode := 0, capacity := channelQueueCapacity (channelDataSize p),
      blockSize := defaultBlockSize, phyAddr := p + UInt64.ofNat shmQueueSize,
      virtAddr := shmBase + UInt64.ofNat shmQueueSize }
    (fun a => if a < channelDataSize p then 0 else old.region a)
    (channelQueueCapacity_ne_zero p) (by simp [defaultBlockSize])
  obtain ⟨rx, hrx, hcr, hbr, -, -, hwr⟩ := created_waiting old.rx
    { mapMode := 0, capacity := channelQueueCapacity (channelDataSize p),
      blockSize := defaultBlockSize, phyAddr := p, virtAddr := shmBase }
    (fun a => if a < channelDataSize p then 0 else old.region a)
    (channelQueueCapacity_ne_zero p) (by simp [defaultBlockSize])
  rw [htx, hrx]
  refine ⟨rfl, ?_, hcr.trans hct.symm, hbr.trans hbt.symm⟩
  intro side
  cases side with
  | rx => exact ⟨[], [], rfl, .nil, hwr⟩
  | tx => exact ⟨[], [], rfl, .nil, hwt⟩

/-- Both directions stay intact along every interleaving that never puts a message into a slot
whose message in the other direction is still waiting. -/
theorem channel_intact (physAddr shmBase : UInt64) (old : Channel) (ops : List ChannelOp)
    (free : AllAnswered ChannelRun.step SlotFree
      (ChannelRun.start (hyperampLinuxInit physAddr shmBase old).2) ops) :
    Intact (after ChannelRun.step
      (ChannelRun.start (hyperampLinuxInit physAddr shmBase old).2) ops) :=
  (after_invariant (I := Duplex) (fun _ op h hf => h.step op hf)
    (hyperampLinuxInit_duplex physAddr shmBase old).2 free).intact

/-- The engine's own channel over memory that was all zero. -/
def engineChannel : ChannelRun :=
  ChannelRun.start
    (hyperampLinuxInit shmCh1Paddr 0
      { rx := blankControl, tx := blankControl, region := fun _ => 0 }).2

/-- Two DATA messages of one byte, for different sessions. -/
def requestMsg : List UInt8 := [1, 3, 7, 0, 5, 0, 1, 0, 0xAA]
def responseMsg : List UInt8 := [1, 3, 8, 0, 6, 0, 1, 0, 0xBB]

theorem channel_intact_in_turn :
    AllAnswered ChannelRun.step SlotFree engineChannel
        [.frontendPut requestMsg, .backendGet 4096, .backendPut responseMsg] ∧
      Intact (after ChannelRun.step engineChannel
        [.frontendPut requestMsg, .backendGet 4096, .backendPut responseMsg]) := by
  have hf : AllAnswered ChannelRun.step SlotFree engineChannel
      [.frontendPut requestMsg, .backendGet 4096, .backendPut responseMsg] :=
    ⟨by decide +kernel, by decide +kernel, by decide +kernel, trivial⟩
  exact ⟨hf, channel_intact _ _ _ _ hf⟩

/-- A response sent while a request waits overwrites the request. -/
theorem channel_not_intact :
    ¬ ∀ ops, Intact (after ChannelRun.step engineChannel ops) := by
  intro h
  have hi := (h [.frontendPut requestMsg, .backendPut responseMsg, .backendGet 4096]).matching
    .rx 0
  have hget : ∃ out, ((after ChannelRun.step engineChannel
      [.frontendPut requestMsg, .backendPut responseMsg, .backendGet 4096]).history.delivered
        .rx)[0]? = some (4096, out) ∧ out.take 9 = responseMsg :=
    ⟨_, rfl, by decide +kernel⟩
  obtain ⟨out, hout, hbytes⟩ := hget
  obtain ⟨msg, hmsg, hret⟩ := hi _ hout
  have hacc : ((after ChannelRun.step engineChannel
      [.frontendPut requestMsg, .backendPut responseMsg, .backendGet 4096]).history.accepted
        .rx)[0]? = some requestMsg := by decide +kernel
  cases hacc.symm.trans hmsg
  have hr : out.take 9 = requestMsg := hret
  rw [hbytes] at hr
  exact absurd hr (by decide)

end BackendProxy.Queue
