import BackendProxy.Queue.Channel

namespace BackendProxy.Queue

open Lib

/-! The side that did not create the channel: whatever it finds in the control blocks was
written by the other operating system. -/

/-- The channel as mapped into the process, with the bytes its data region has. -/
structure Mapping extends Channel where
  dataSize : Nat

/-- What the initialiser reports about the capacities it finds. -/
inductive ConnectNotice where
  | alreadyInitialized
  | mapFailed
  | notYetInitialized
  | ready
  | unexpectedCapacity
  deriving DecidableEq, Repr

def channelTotalSize (physAddr : UInt64) : Nat := channelDataSize physAddr + shmDataRegionOffset

/-- `hyperamp_linux_init` with `is_creator = 0`: `ctx` is what an earlier call left, `mapped` what
mapping so many bytes at an address gives. -/
def hyperampLinuxConnect (ctx : Option Mapping) (physAddr : UInt64)
    (mapped : UInt64 → Nat → Option Channel) :
    HyperampStatus × Option Mapping × ConnectNotice :=
  match ctx with
  | some m => (.ok, some m, .alreadyInitialized)
  | none =>
    let physAddr := if physAddr = 0 then shmStartPaddr else physAddr
    let dataSize := channelDataSize physAddr
    let queueCapacity := channelQueueCapacity dataSize
    match mapped physAddr (channelTotalSize physAddr) with
    | none => (.error, none, .mapFailed)
    | some ch =>
      -- the capacities found are only reported, none of them refuses the channel
      let notice :=
        if ch.tx.capacity = 0 ∧ ch.rx.capacity = 0 then .notYetInitialized
        else if ch.tx.capacity = queueCapacity ∧ ch.rx.capacity = queueCapacity then .ready
        else .unexpectedCapacity
      (.ok, some { toChannel := ch, dataSize }, notice)

inductive ConnectorOp where
  | peer (ch : Channel)
  | get (maxMsgLen : Nat)
  | put (data : List UInt8)

/-- One call of the connector, or any change of the shared memory by the other side. -/
def connectorStep (m : Mapping) : ConnectorOp → Mapping × ProcessStatus
  | .peer ch => ({ m with toChannel := ch }, .ok)
  | .get maxMsgLen =>
    let (status, rx, _) := backendEngineHyperampRxQueueGet m.rx m.region maxMsgLen
    ({ m with rx }, status)
  | .put data =>
    let (status, tx, region) := backendEngineHyperampTxQueuePut m.tx m.region data
    ({ m with tx, region }, status)

/-- A call that succeeds touches only the data region of its channel and moves no more bytes
than its buffer has. -/
def Contained (m : Mapping) : ConnectorOp → Prop
  | .peer _ => True
  | .get maxMsgLen =>
    (backendEngineHyperampRxQueueGet m.rx m.region maxMsgLen).1 ≠ .ok ∨
      (∀ a, ReadsAt (fun region => backendEngineHyperampRxQueueGet m.rx region maxMsgLen) a →
          a < m.dataSize) ∧
        (backendEngineHyperampRxQueueGet m.rx m.region maxMsgLen).2.2.length ≤ maxMsgLen
  | .put data =>
    (backendEngineHyperampTxQueuePut m.tx m.region data).1 ≠ .ok ∨
      ∃ off, ∀ a,
        WritesAt (fun region => (backendEngineHyperampTxQueuePut m.tx region data).2.2) a →
          a < m.dataSize ∧ off ≤ a ∧ a < off + data.length

/-- The slot that the indices and the block size of the peer select ends inside the region. -/
def SlotInside (m : Mapping) : ConnectorOp → Prop
  | .peer _ => True
  | .get maxMsgLen =>
    maxMsgLen = 0 ∨ m.rx.tail = m.rx.header ∨
      slotOffset m.rx m.rx.tail + min maxMsgLen m.rx.blockSize.toNat ≤ m.dataSize
  | .put data =>
    data.length = 0 ∨ m.tx.blockSize.toNat < data.length ∨
      nextBySubtraction m.tx m.tx.header = m.tx.tail ∨
      slotOffset m.tx m.tx.header + data.length ≤ m.dataSize

theorem rxQueueGet_empty {rx : HyperampShmQueue} {maxMsgLen : Nat}
    (h : maxMsgLen = 0 ∨ rx.tail = rx.header) (region : DataRegion) :
    (backendEngineHyperampRxQueueGet rx region maxMsgLen).1 ≠ .ok := by
  rcases h with h0 | heq
  · simp [backendEngineHyperampRxQueueGet, hyperampQueueDequeue, h0, ofHyperamp]
  · by_cases h0 : maxMsgLen = 0
    · simp [backendEngineHyperampRxQueueGet, hyperampQueueDequeue, h0, ofHyperamp]
    · simp [backendEngineHyperampRxQueueGet, hyperampQueueDequeue, h0, heq, ofHyperamp]

/-- A successful get hands out the first bytes of the slot at the tail. -/
theorem rxQueueGet_load {rx : HyperampShmQueue} {maxMsgLen : Nat} (h0 : maxMsgLen ≠ 0)
    (hne : rx.tail ≠ rx.header) (region : DataRegion) :
    backendEngineHyperampRxQueueGet rx region maxMsgLen =
      (.ok,
        { rx with tail := nextBySubtraction rx rx.tail, dequeueCount := rx.dequeueCount + 1 },
        load region (slotOffset rx rx.tail) (min maxMsgLen rx.blockSize.toNat)) := by
  have hmin : (if maxMsgLen < rx.blockSize.toNat then maxMsgLen else rx.blockSize.toNat) =
      min maxMsgLen rx.blockSize.toNat := by
    split <;> omega
  simp [backendEngineHyperampRxQueueGet, hyperampQueueDequeue, h0, hne, hmin, ofHyperamp]

theorem txQueuePut_refused {tx : HyperampShmQueue} {data : List UInt8}
    (h : data.length = 0 ∨ tx.blockSize.toNat < data.length ∨
      nextBySubtraction tx tx.header = tx.tail) (region : DataRegion) :
    (backendEngineHyperampTxQueuePut tx region data).1 ≠ .ok := by
  unfold backendEngineHyperampTxQueuePut hyperampQueueEnqueue
  rcases h with h0 | hlong | hfull
  · simp [h0, ofHyperamp]
  · simp [hlong]
  · by_cases hlong : data.length > tx.blockSize.toNat
    · simp [hlong]
    · by_cases h0 : data.length = 0
      · simp [h0, ofHyperamp]
      · simp [hlong, List.length_eq_zero_iff.not.mp h0, hfull, ofHyperamp]

theorem txQueuePut_store {tx : HyperampShmQueue} {data : List UInt8} (h0 : data.length ≠ 0)
    (hlen : ¬ tx.blockSize.toNat < data.length)
    (hroom : nextBySubtraction tx tx.header ≠ tx.tail) (region : DataRegion) :
    backendEngineHyperampTxQueuePut tx region data =
      (.ok,
        { tx with
          header := nextBySubtraction tx tx.header, enqueueCount := tx.enqueueCount + 1 },
        store region (slotOffset tx tx.header) data) := by
  have h0' : data ≠ [] := fun h => h0 (by rw [h]; rfl)
  simp [backendEngineHyperampTxQueuePut, hyperampQueueEnqueue, h0', hlen, hroom, ofHyperamp]

theorem readsAt_rxQueueGet {rx : HyperampShmQueue} {maxMsgLen : Nat} (h0 : maxMsgLen ≠ 0)
    (hne : rx.tail ≠ rx.header) (a : Nat) :
    ReadsAt (fun region => backendEngineHyperampRxQueueGet rx region maxMsgLen) a ↔
      slotOffset rx rx.tail ≤ a ∧
        a < slotOffset rx rx.tail + min maxMsgLen rx.blockSize.toNat := by
  rw [← readsAt_load (show (0 : UInt8) ≠ 1 by decide)]
  simp only [ReadsAt, rxQueueGet_load h0 hne, ne_eq, Prod.mk.injEq, true_and]

theorem get_contained_iff (m : Mapping) (maxMsgLen : Nat) :
    Contained m (.get maxMsgLen) ↔ SlotInside m (.get maxMsgLen) := by
  by_cases hempty : maxMsgLen = 0 ∨ m.rx.tail = m.rx.header
  · refine ⟨fun _ => ?_, fun _ => .inl (rxQueueGet_empty hempty m.region)⟩
    rcases hempty with h0 | heq
    · exact .inl h0
    · exact .inr (.inl heq)
  · simp only [not_or] at hempty
    obtain ⟨h0, hne⟩ := hempty
    simp only [Contained, SlotInside, h0, hne, false_or, readsAt_rxQueueGet h0 hne]
    rw [rxQueueGet_load h0 hne m.region]
    simp only [ne_eq, not_true_eq_false, false_or, length_load]
    have hoff : slotOffset m.rx m.rx.tail = 0 ∨ 0 < m.rx.blockSize.toNat := by
      unfold slotOffset
      rcases Nat.eq_zero_or_pos m.rx.blockSize.toNat with hb | hb
      · left
        rw [hb, Nat.mul_zero]
      · exact .inr hb
    constructor
    · intro h
      by_contra hout
      -- the last byte read is the one that leaves the region
      have hlast := h.1 (slotOffset m.rx m.rx.tail + min maxMsgLen m.rx.blockSize.toNat - 1)
        (by omega)
      omega
    · intro hin
      refine ⟨fun a ha => ?_, Nat.min_le_left _ _⟩
      omega

theorem put_contained_iff (m : Mapping) (data : List UInt8) :
    Contained m (.put data) ↔ SlotInside m (.put data) := by
  by_cases hrefused : data.length = 0 ∨ m.tx.blockSize.toNat < data.length ∨
      nextBySubtraction m.tx m.tx.header = m.tx.tail
  · refine ⟨fun _ => ?_, fun _ => .inl (txQueuePut_refused hrefused m.region)⟩
    rcases hrefused with h0 | hlong | hfull
    · exact .inl h0
    · exact .inr (.inl hlong)
    · exact .inr (.inr (.inl hfull))
  · simp only [not_or] at hrefused
    obtain ⟨h0, hlen, hroom⟩ := hrefused
    simp only [Contained, SlotInside, h0, hlen, hroom, false_or,
      txQueuePut_store h0 hlen hroom, ne_eq, not_true_eq_false,
      writesAt_store (show (0 : UInt8) ≠ 1 by decide)]
    constructor
    · intro h
      obtain ⟨off, h⟩ := h
      by_contra hout
      have hlast := (h (slotOffset m.tx m.tx.header + data.length - 1) (by omega)).1
      omega
    · intro hin
      exact ⟨slotOffset m.tx m.tx.header, fun a ha => ⟨by omega, ha⟩⟩

theorem contained_iff (m : Mapping) (op : ConnectorOp) : Contained m op ↔ SlotInside m op := by
  cases op with
  | peer ch => exact Iff.rfl
  | get maxMsgLen => exact get_contained_iff m maxMsgLen
  | put data => exact put_contained_iff m data

theorem connect_dataSize {physAddr : UInt64} {mapped : UInt64 → Nat → Option Channel}
    {m : Mapping} {notice : ConnectNotice}
    (h : hyperampLinuxConnect none physAddr mapped = (.ok, some m, notice)) :
    m.dataSize = channelDataSize (if physAddr = 0 then shmStartPaddr else physAddr) := by
  unfold hyperampLinuxConnect at h
  dsimp only at h
  split at h
  · cases h
  · cases h
    rfl

/-- On a connected channel the calls of a run stay inside the data region if and only if each of
them finds a slot that does. -/
theorem connector_contained_iff (physAddr : UInt64) (mapped : UInt64 → Nat → Option Channel)
    (m : Mapping) (notice : ConnectNotice)
    (connected : hyperampLinuxConnect none physAddr mapped = (.ok, some m, notice)) :
    m.dataSize = channelDataSize (if physAddr = 0 then shmStartPaddr else physAddr) ∧
      ∀ ops, AllAnswered connectorStep Contained m ops ↔
        AllAnswered connectorStep SlotInside m ops :=
  ⟨connect_dataSize connected, allAnswered_congr contained_iff m⟩

/-- What the peer published: the given capacity and indices on whole blocks. -/
def publishedChannel (capacity header tail : UInt16) : Channel :=
  let control := { blankControl with capacity, blockSize := defaultBlockSize }
  { rx := { control with header, tail }, tx := control, region := fun _ => 0 }

/-- The first channel of the engine, with the capacity it computes for itself. -/
theorem connector_contained_iff_ready :
    ∃ m, hyperampLinuxConnect none shmCh1Paddr (fun _ _ => some (publishedChannel 253 1 0)) =
        (.ok, some m, .ready) ∧
      AllAnswered connectorStep Contained m [.get 4096, .put [7, 7, 7]] := by
  refine ⟨_, rfl, ?_⟩
  refine ((connector_contained_iff shmCh1Paddr
    (fun _ _ => some (publishedChannel 253 1 0)) _ .ready rfl).2 _).mpr ⟨?_, ?_, trivial⟩
  · exact .inr (.inr (by decide))
  · exact .inr (.inr (.inr (by decide)))

/-- A peer that publishes the default capacity of 256 blocks on a channel of 254. -/
theorem default_capacity_leaves_region :
    ¬ ∀ physAddr mapped m notice,
        hyperampLinuxConnect none physAddr mapped = (.ok, some m, notice) →
          ∀ ops, AllAnswered connectorStep Contained m ops := by
  intro h
  have hall := h shmCh1Paddr (fun _ _ => some (publishedChannel 256 255 254)) _
    .unexpectedCapacity rfl [.get 4096]
  have hinside := (contained_iff _ _).mp hall.1
  revert hinside
  unfold SlotInside
  decide

/-- A queue in the state the initialiser calls safe: the computed capacity, whole blocks and
indices below the capacity. -/
def Published (dataSize : Nat) (q : HyperampShmQueue) : Prop :=
  q.capacity = channelQueueCapacity dataSize ∧ q.blockSize = defaultBlockSize ∧
    q.header < q.capacity ∧ q.tail < q.capacity

theorem channelQueueCapacity_fits (physAddr : UInt64) :
    ((channelQueueCapacity (channelDataSize physAddr)).toNat + 1) * defaultBlockSize.toNat ≤
      channelDataSize physAddr := by
  unfold channelDataSize
  repeat' split
  all_goals decide

theorem Published.slotInside {m : Mapping} {physAddr : UInt64}
    (hsize : m.dataSize = channelDataSize physAddr) (hrx : Published m.dataSize m.rx)
    (htx : Published m.dataSize m.tx) (op : ConnectorOp) : SlotInside m op := by
  have hfits := channelQueueCapacity_fits physAddr
  rw [← hsize] at hfits
  have hslot : ∀ q index n, Published m.dataSize q → index < q.capacity →
      n ≤ q.blockSize.toNat → slotOffset q index + n ≤ m.dataSize := by
    intro q index n hq hindex hn
    obtain ⟨hcap, hblock, -, -⟩ := hq
    have hlt : index.toNat + 1 ≤ (channelQueueCapacity m.dataSize).toNat := by
      rw [← hcap]
      exact UInt16.lt_iff_toNat_lt.mp hindex
    calc slotOffset q index + n
        ≤ (index.toNat + 1) * q.blockSize.toNat + q.blockSize.toNat := Nat.add_le_add_left hn _
      _ = (index.toNat + 1 + 1) * q.blockSize.toNat := (Nat.succ_mul _ _).symm
      _ ≤ ((channelQueueCapacity m.dataSize).toNat + 1) * defaultBlockSize.toNat := by
        rw [hblock]
        exact Nat.mul_le_mul_right _ (Nat.add_le_add_right hlt 1)
      _ ≤ m.dataSize := hfits
  cases op with
  | peer ch => trivial
  | get maxMsgLen =>
    exact .inr (.inr (hslot m.rx m.rx.tail _ hrx hrx.2.2.2 (Nat.min_le_right _ _)))
  | put data =>
    by_cases hlen : m.tx.blockSize.toNat < data.length
    · exact .inr (.inl hlen)
    · exact .inr (.inr (.inr
        (hslot m.tx m.tx.header _ htx htx.2.2.1 (Nat.not_lt.mp hlen))))

end BackendProxy.Queue
