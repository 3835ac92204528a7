import BackendProxy.Wire.Builder

namespace BackendProxy.Wire

open Lib Queue

/-! What a refused call of `build_proxy_general_message` leaves of the ring it was given. -/

def ringIndices (ring : Option SharedMemoryPoolQueue) : Option (UInt16 × UInt16) :=
  ring.map fun q => (q.header, q.tail)

/-- A failed build leaves the ring as it was. -/
def RingKept (c : BuilderCall) : Prop :=
  c.outcome.ret = .error → ringIndices c.outcome.ring = ringIndices c.ring

/-- A call that has its buffer from elsewhere is refused by no sub-builder, unless the ring is
empty. -/
def RefusesOnlyEmpty (header : GeneralProxyMsgHeader) (payload : List UInt8)
    (ring : SharedMemoryPoolQueue) : Prop :=
  ring.header = ring.tail ∨ bodyLengths header payload.length = none ∨
    LengthsMatch header payload

/-- A slot is allocated only for a type and a protocol that are supported, and not at the address
that tells of an error; what has its buffer from elsewhere is not refused by a sub-builder. -/
def MatchesMode (c : BuilderCall) (header : GeneralProxyMsgHeader) (payload : List UInt8)
    (ring : SharedMemoryPoolQueue) : Prop :=
  match c.allocMode with
  | none => True
  | some .shared =>
    nextHeader ring = ring.tail ∨
      ¬ (ring.mapMode1 = mapModeContiguousBoth ∨ ring.mapMode1 = mapModeDiscreteLogical) ∨
      (shmPoolQueueAllocFromHeader ring).1 ≠ errorSharedMemAddr ∧
        bodyLengths header payload.length ≠ none
  | some .caller =>
    c.malloc (proxyMsgHdrSize + header.outerHeader.payloadLen.toNat) = none ∨
      RefusesOnlyEmpty header payload ring
  | some .ampqueue => c.txQueue.isNone ∨ RefusesOnlyEmpty header payload ring

def BuilderCall.RollbackMatches (c : BuilderCall) : Prop :=
  ∀ header payload ring, c.Checked header payload → c.ring = some ring →
    MatchesMode c header payload ring

section Outcomes

variable {c : BuilderCall} {header : GeneralProxyMsgHeader} {payload : List UInt8}
  {ring : Option SharedMemoryPoolQueue} {buffer : MessageBuffer} {resultMsg : Option UInt64}

theorem fillBuffer_unsupported (h : switchOnType header payload = .unsupported) :
    (fillBuffer c header payload ring buffer resultMsg).ret = .error ∧
      (fillBuffer c header payload ring buffer resultMsg).ring = ring := by
  simp [fillBuffer, h]

theorem fillBuffer_refused (h : switchOnType header payload = .refused) :
    (fillBuffer c header payload ring buffer resultMsg).ret = .error ∧
      (fillBuffer c header payload ring buffer resultMsg).ring =
        ring.map shmPoolQueueHeadRollback := by
  simp [fillBuffer, h]

theorem fillBuffer_built {innerLen : Nat} {body : List UInt8}
    (h : switchOnType header payload = .built innerLen body) :
    (fillBuffer c header payload ring buffer resultMsg).ring = ring ∧
      (c.allocMode ≠ some .ampqueue →
        (fillBuffer c header payload ring buffer resultMsg).ret = .ok) := by
  unfold fillBuffer
  rw [h]
  dsimp only
  split
  · rename_i hmode _
    exact ⟨rfl, fun hne => absurd hmode hne⟩
  · exact ⟨rfl, fun _ => rfl⟩

end Outcomes

section Kept

variable {c : BuilderCall} {header : GeneralProxyMsgHeader} {payload : List UInt8}
  {ring : SharedMemoryPoolQueue}

theorem ringKept_of_ring (h : c.outcome.ring = c.ring) : RingKept c :=
  fun _ => congrArg ringIndices h

theorem ringKept_iff_of_error (hret : c.outcome.ret = .error) (hring : c.ring = some ring)
    {ring' : SharedMemoryPoolQueue} (hring' : c.outcome.ring = some ring') :
    RingKept c ↔ ring'.header = ring.header ∧ ring'.tail = ring.tail := by
  simp [RingKept, hret, hring, hring', ringIndices]

theorem rollback_tail (queue : SharedMemoryPoolQueue) :
    (shmPoolQueueHeadRollback queue).tail = queue.tail := by
  unfold shmPoolQueueHeadRollback
  split <;> rfl

/-- Where the buffer is not from the ring, the one rollback takes back a foreign message. -/
theorem ringKept_iff_elsewhere (hc : c.Checked header payload) (hring : c.ring = some ring)
    (ht : ring.tail.toNat < ring.capacity.toNat)
    {selected : Option (MessageBuffer × Option UInt64)}
    (hselect : selectBuffer c header = (c.ring, selected)) :
    RingKept c ↔ selected = none ∨ RefusesOnlyEmpty header payload ring := by
  cases selected with
  | none =>
    refine iff_of_true (ringKept_of_ring ?_) (.inl rfl)
    rw [hc.outcome_none hselect]
  | some selected =>
    obtain ⟨buffer, resultMsg⟩ := selected
    have houtcome := hc.outcome_some hselect
    have hlengths := switchOnType_lengths header payload
    simp only [reduceCtorEq, false_or]
    cases hswitch : switchOnType header payload with
    | unsupported =>
      rw [hswitch] at hlengths
      refine iff_of_true (ringKept_of_ring ?_) (.inr (.inl hlengths))
      rw [houtcome, (fillBuffer_unsupported hswitch).2]
    | refused =>
      rw [hswitch] at hlengths
      have hret : c.outcome.ret = .error := by
        rw [houtcome]
        exact (fillBuffer_refused hswitch).1
      have hafter : c.outcome.ring = some (shmPoolQueueHeadRollback ring) := by
        rw [houtcome, (fillBuffer_refused hswitch).2, hring]
        rfl
      rw [ringKept_iff_of_error hret hring hafter, and_iff_left (rollback_tail ring),
        headRollback_header_eq_iff ht]
      exact (or_iff_left (not_or.mpr ⟨hlengths.1, hlengths.2⟩)).symm
    | built innerLen body =>
      rw [hswitch] at hlengths
      refine iff_of_true (ringKept_of_ring ?_) (.inr (.inr hlengths.1))
      rw [houtcome, (fillBuffer_built hswitch).1]

/-- Where the buffer is a slot of the ring, only the sub-builders' refusals are taken back. -/
theorem ringKept_iff_shared (hc : c.Checked header payload) (hring : c.ring = some ring)
    (hmode : c.allocMode = some .shared)
    (hh : ring.header.toNat < ring.capacity.toNat) (ht : ring.tail.toNat < ring.capacity.toNat) :
    RingKept c ↔ nextHeader ring = ring.tail ∨
      ¬ (ring.mapMode1 = mapModeContiguousBoth ∨ ring.mapMode1 = mapModeDiscreteLogical) ∨
      (shmPoolQueueAllocFromHeader ring).1 ≠ errorSharedMemAddr ∧
        bodyLengths header payload.length ≠ none := by
  have hselect := selectBuffer_shared header hmode hring
  by_cases hfull : nextHeader ring = ring.tail
  · refine iff_of_true (ringKept_of_ring ?_) (.inl hfull)
    rw [allocFromHeader_full hfull, if_pos rfl] at hselect
    rw [hc.outcome_none hselect, hring]
  by_cases hmapped : ring.mapMode1 = mapModeContiguousBoth ∨ ring.mapMode1 = mapModeDiscreteLogical
  swap
  · refine iff_of_true (ringKept_of_ring ?_) (.inr (.inl hmapped))
    rw [allocFromHeader_unmapped hmapped, if_pos rfl] at hselect
    rw [hc.outcome_none hselect, hring]
  have hmoved := nextHeader_ne_header hh ht hfull
  rw [or_iff_right hfull, or_iff_right (not_not.mpr hmapped)]
  rw [allocFromHeader_room hmapped hh hfull] at hselect ⊢
  by_cases haddr : errorSharedMemAddr = allocAddr ring ring.header.toNat
  · rw [if_pos haddr] at hselect
    have houtcome := hc.outcome_none hselect
    rw [ringKept_iff_of_error (by rw [houtcome]) hring (by rw [houtcome])]
    exact iff_of_false (fun h => hmoved h.1) (fun h => h.1 haddr.symm)
  rw [if_neg haddr] at hselect
  rw [and_iff_right (Ne.symm haddr)]
  have houtcome := hc.outcome_some hselect
  have hlengths := switchOnType_lengths header payload
  cases hswitch : switchOnType header payload with
  | unsupported =>
    rw [hswitch] at hlengths
    obtain ⟨hret, hafter⟩ := fillBuffer_unsupported hswitch
    rw [ringKept_iff_of_error (by rw [houtcome]; exact hret) hring (by rw [houtcome]; exact hafter)]
    exact iff_of_false (fun h => hmoved h.1) (fun h => h hlengths)
  | refused =>
    rw [hswitch] at hlengths
    refine iff_of_true (ringKept_of_ring ?_) hlengths.1
    rw [houtcome, (fillBuffer_refused hswitch).2, hring]
    exact congrArg some (headRollback_alloc hh hfull)
  | built innerLen body =>
    rw [hswitch] at hlengths
    refine iff_of_true (fun hret => ?_) (by rw [hlengths.2]; exact Option.some_ne_none _)
    rw [houtcome, (fillBuffer_built hswitch).2 (by rw [hmode]; decide)] at hret
    cases hret

/-- Without a ring there is nothing to allocate and nothing to take back. -/
theorem BuilderCall.Checked.outcome_ring_null (hc : c.Checked header payload)
    (hring : c.ring = none) : c.outcome.ring = none := by
  have hselect : (selectBuffer c header).1 = none := by
    unfold selectBuffer
    split
    · rw [hring]
    · dsimp only
      split <;> exact hring
    · split <;> exact hring
    · exact hring
  rcases hsel : selectBuffer c header with ⟨ring, _ | ⟨buffer, resultMsg⟩⟩
  · rw [hsel] at hselect
    rw [hc.outcome_none hsel]
    exact hselect
  · rw [hsel] at hselect
    cases hselect
    rw [hc.outcome_some hsel]
    cases hswitch : switchOnType header payload with
    | unsupported => exact (fillBuffer_unsupported hswitch).2
    | refused => exact (fillBuffer_refused hswitch).2
    | built innerLen body => exact (fillBuffer_built hswitch).1

theorem BuilderCall.Checked.rollbackMatches_iff (hc : c.Checked header payload)
    (hring : c.ring = some ring) : c.RollbackMatches ↔ MatchesMode c header payload ring := by
  constructor
  · intro h
    exact h header payload ring hc hring
  · intro h header' payload' ring' hc' hring'
    obtain ⟨rfl, rfl⟩ := hc.unique hc'
    cases hring.symm.trans hring'
    exact h

end Kept

/-- A failed build leaves the ring as it was exactly if every allocation that it makes is taken
back by the rollback, and the rollback finds nothing else to take back. -/
theorem ringKept_iff (c : BuilderCall)
    (hring : ∀ ring ∈ c.ring, ring.header < ring.capacity ∧ ring.tail < ring.capacity) :
    RingKept c ↔ c.RollbackMatches := by
  by_cases hc : ∃ header payload, c.Checked header payload
  swap
  · refine iff_of_true (ringKept_of_ring ?_) fun header payload _ h =>
      absurd ⟨header, payload, h⟩ hc
    rw [outcome_unchecked hc]
  obtain ⟨header, payload, hc⟩ := hc
  cases hr : c.ring with
  | none =>
    refine iff_of_true (ringKept_of_ring ?_) fun _ _ ring _ h => by rw [hr] at h; cases h
    rw [hr]
    exact hc.outcome_ring_null hr
  | some ring =>
    obtain ⟨hh, ht⟩ := hring ring hr
    rw [UInt16.lt_iff_toNat_lt] at hh ht
    rw [hc.rollbackMatches_iff hr]
    unfold MatchesMode
    cases hmode : c.allocMode with
    | none =>
      refine iff_of_true (ringKept_of_ring ?_) trivial
      rw [hc.outcome_none (selectBuffer_other hmode)]
    | some mode =>
      cases mode with
      | shared => exact ringKept_iff_shared hc hr hmode hh ht
      | caller =>
        rw [ringKept_iff_elsewhere hc hr ht (selectBuffer_caller _ hmode), Option.map_eq_none_iff]
      | ampqueue =>
        rw [ringKept_iff_elsewhere hc hr ht (selectBuffer_ampqueue _ hmode),
          Option.map_eq_none_iff, Option.isNone_iff_eq_none]

/-- Four slots of 64 bytes at 4096. -/
def fourSlots (header tail : UInt16) : SharedMemoryPoolQueue :=
  { blankPoolQueue with header, tail, capacity := 4, blockSize := 64, virtAddr1 := 4096 }

/-- An enable command of the given outer type, which declares two bytes of payload. -/
def enableHeader (proxyMsgType : UInt8) : GeneralProxyMsgHeader :=
  { outerHeader :=
      { version := 1, proxyMsgType, frontendSessId := 0, backendSessId := 0, payloadLen := 0 }
    innerHeader := { w0 := 1, w1 := 1, w2 := 0, w3 := 0, w4 := 2, w5 := 0 }
    addrInfo := fun _ => 0
    iotAddrLen := 0 }

def exampleCall (mode : MemoryAllocMode) (proxyMsgType : UInt8) (payload : List UInt8)
    (ring : SharedMemoryPoolQueue) : BuilderCall :=
  { engineReady := true, header := some (enableHeader proxyMsgType), payload := some payload
    resultGiven := true, allocMode := some mode, ring := some ring
    txQueue := some ⟨{ blankControl with capacity := 4, blockSize := 4096 }, fun _ => 0⟩
    malloc := fun _ => some 65536, globalAmpTxBuf := 32768, old := fun _ => 0 }

/-- A device message of the wrong length gives its slot back across the first index. -/
theorem ringKept_iff_wrapped : RingKept (exampleCall .shared 0 [7] (fourSlots 3 1)) := by
  refine (ringKept_iff _ ?_).mpr fun header payload ring hc hring => ?_
  · intro ring hring
    cases hring
    decide
  · cases hc.header
    cases hc.payload
    cases hring
    exact .inr (.inr ⟨by decide, by decide⟩)

/-- A message type nobody knows keeps its slot, and a refused message that was to go to TX takes
one out of a ring it has nothing to do with. -/
theorem failed_build_moves_ring :
    ¬ RingKept (exampleCall .shared 9 [7] (fourSlots 0 0)) ∧
      ¬ RingKept (exampleCall .ampqueue 0 [7] (fourSlots 2 1)) := by
  constructor
  · intro h
    exact absurd (h rfl) (by decide)
  · intro h
    exact absurd (h rfl) (by decide)

end BackendProxy.Wire
