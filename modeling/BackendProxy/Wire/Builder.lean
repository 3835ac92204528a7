import BackendProxy.Queue.PoolQueue
import BackendProxy.Wire.Build

namespace BackendProxy.Wire

open Lib Queue

/-! `build_proxy_general_message` with the buffers it selects and what it does to the queues. -/

inductive MemoryAllocMode where
  | shared
  | caller
  | ampqueue
  deriving DecidableEq, Repr

/-- `HYPERAMP_MSG_HDR_PLUS_MAX_SIZE`, the size of `global_amp_tx_buf`. -/
def msgHdrPlusMaxSize : Nat := proxyMsgHdrSize + proxyMsgMaxSize

/-- A pointer that may be `NULL` is an option, and so is the mode, which may lie outside the
enumeration. `malloc` answers a request; `old` is what lies from the selected buffer on. -/
structure BuilderCall where
  engineReady : Bool
  header : Option GeneralProxyMsgHeader
  payload : Option (List UInt8)
  resultGiven : Bool
  allocMode : Option MemoryAllocMode
  ring : Option SharedMemoryPoolQueue
  txQueue : Option TxQueue
  malloc : Nat → Option UInt64
  globalAmpTxBuf : UInt64
  old : Mem

structure MessageBuffer where
  addr : UInt64
  size : Nat
  deriving DecidableEq, Repr

/-- A store into the selected buffer: the initial `memset`, fields of the outer header, or what a
sub-builder puts behind that header. -/
inductive BufferWrite where
  | clear (len : Nat)
  | field (offset : Nat) (bytes : List UInt8)
  | body (bytes : List UInt8)
  deriving DecidableEq, Repr

/-- The first offset behind a store. -/
def BufferWrite.stop : BufferWrite → Nat
  | .clear len => len
  | .field offset bytes => offset + bytes.length
  | .body bytes => proxyMsgHdrSize + bytes.length

def BufferWrite.apply (m : Mem) : BufferWrite → Mem
  | .clear len => store m 0 (List.replicate len 0)
  | .field offset bytes => store m offset bytes
  | .body bytes => store m proxyMsgHdrSize bytes

def BufferWrite.copied : BufferWrite → List UInt8
  | .body bytes => bytes
  | _ => []

/-- `resultMsg` is what the call stores through `result_msg`, if it does. -/
structure BuilderOutcome where
  ret : ProcessStatus
  ring : Option SharedMemoryPoolQueue
  txQueue : Option TxQueue
  resultMsg : Option UInt64
  buffer : Option MessageBuffer
  writes : List BufferWrite

def BuilderOutcome.memory (o : BuilderOutcome) (old : Mem) : Mem :=
  o.writes.foldl BufferWrite.apply old

/-- The bytes of the message behind the outer header. -/
def BuilderOutcome.body (o : BuilderOutcome) : List UInt8 := o.writes.flatMap BufferWrite.copied

/-- The buffer the mode selects, with the ring after the allocation and what is stored through
`result_msg`. -/
def selectBuffer (c : BuilderCall) (header : GeneralProxyMsgHeader) :
    Option SharedMemoryPoolQueue × Option (MessageBuffer × Option UInt64) :=
  match c.allocMode with
  | some .shared =>
    match c.ring with
    | none => (none, none)
    | some ring =>
      let (memAddr, ring') := shmPoolQueueAllocFromHeader ring
      if errorSharedMemAddr = memAddr then (some ring', none)
      else (some ring', some (⟨memAddr, ring.blockSize.toNat⟩, some memAddr))
  | some .caller =>
    let allocSize := proxyMsgHdrSize + header.outerHeader.payloadLen.toNat
    match c.malloc allocSize with
    | none => (c.ring, none)
    | some addr => (c.ring, some (⟨addr, allocSize⟩, none))
  | some .ampqueue =>
    match c.txQueue with
    | none => (c.ring, none)
    | some _ =>
      (c.ring, some (⟨c.globalAmpTxBuf, msgHdrPlusMaxSize⟩, some c.globalAmpTxBuf))
  | none => (c.ring, none)

/-- How the switch on the message type ends: an error return of its own, a sub-builder that
refuses, or a body with the inner length the outer header accounts for. -/
inductive SwitchOutcome where
  | unsupported
  | refused
  | built (innerLen : Nat) (body : List UInt8)
  deriving DecidableEq, Repr

def SwitchOutcome.ofBuilder (innerLen : Nat) : Option (List UInt8) → SwitchOutcome
  | none => .refused
  | some body => .built innerLen body

def switchOnType (header : GeneralProxyMsgHeader) (payload : List UInt8) : SwitchOutcome :=
  match ProxyMsgType.ofCode header.outerHeader.proxyMsgType with
  | some .dev =>
    .ofBuilder devMsgHeaderSize (buildProxyDevMessage header.innerHeader.devHdr payload)
  | some .strgy =>
    .ofBuilder devMsgHeaderSize (buildProxyStrgyMessage header.innerHeader.strgyHdr payload)
  | some .sess =>
    .ofBuilder sessMsgHeaderSize (buildProxySessMessage header.innerHeader.sessHdr payload)
  | some .data => .ofBuilder 0 (buildProxyDataMessage payload)
  | some .iot =>
    match IotProtoType.ofCode header.innerHeader.iotHdr.protoType with
    | none => .unsupported
    | some proto =>
      .ofBuilder (iotMsgHeaderSize + iotAddrSize proto) (buildProxyIotMessage header payload)
  | none => .unsupported

/-- The fields of the outer header that are known before the switch. -/
def leadingFields (outer : ProxyMsgHeader) : List UInt8 :=
  [outer.version, outer.proxyMsgType] ++ le16 outer.frontendSessId ++ le16 outer.backendSessId

/-- The stores before the switch: in the queue's mode the whole buffer is cleared first. -/
def headWrites (mode : Option MemoryAllocMode) (outer : ProxyMsgHeader) : List BufferWrite :=
  (if mode = some .ampqueue then [.clear msgHdrPlusMaxSize] else []) ++
    [.field 0 (leadingFields outer)]

/-- The finished message goes to the TX queue; the length is computed as a `size_t`. -/
def enqueueMessage (tx : TxQueue) (m : Mem) (len : Nat) : ProcessStatus × TxQueue :=
  let (ret, queue, region) :=
    hyperampQueueEnqueue tx.queue tx.region (load m 0 (len % 2 ^ 64))
  (ofHyperamp ret, ⟨queue, region⟩)

/-- The call from the header on; `none` for the ring is a `NULL` that the rollback passes over. -/
def fillBuffer (c : BuilderCall) (header : GeneralProxyMsgHeader) (payload : List UInt8)
    (ring : Option SharedMemoryPoolQueue) (buffer : MessageBuffer) (resultMsg : Option UInt64) :
    BuilderOutcome :=
  let head := headWrites c.allocMode header.outerHeader
  match switchOnType header payload with
  | .unsupported => ⟨.error, ring, c.txQueue, resultMsg, some buffer, head⟩
  | .refused =>
    ⟨.error, ring.map shmPoolQueueHeadRollback, c.txQueue, resultMsg, some buffer, head⟩
  | .built innerLen body =>
    let len := payload.length + innerLen
    let writes := head ++ [.body body, .field 6 (le16 (UInt16.ofNat len))]
    match c.allocMode, c.txQueue with
    | some .ampqueue, some tx =>
      let m := writes.foldl BufferWrite.apply c.old
      let (ret, tx') := enqueueMessage tx m (len + proxyMsgHdrSize)
      ⟨ret, ring, some tx', resultMsg, some buffer, writes⟩
    | _, _ => ⟨.ok, ring, c.txQueue, resultMsg, some buffer, writes⟩

/-- `build_proxy_general_message` -/
def BuilderCall.outcome (c : BuilderCall) : BuilderOutcome :=
  match c.header, c.payload with
  | some header, some payload =>
    if !c.resultGiven then ⟨.error, c.ring, c.txQueue, none, none, []⟩
    else if !c.engineReady then ⟨.error, c.ring, c.txQueue, none, none, []⟩
    else
      match selectBuffer c header with
      | (ring, none) => ⟨.error, ring, c.txQueue, none, none, []⟩
      | (ring, some (buffer, resultMsg)) => fillBuffer c header payload ring buffer resultMsg
  | _, _ => ⟨.error, c.ring, c.txQueue, none, none, []⟩

/-! What a sub-builder accepts, and how long its message is. -/

/-- The lengths a device, strategy or session message is checked against. -/
def LengthsMatch (header : GeneralProxyMsgHeader) (payload : List UInt8) : Prop :=
  match ProxyMsgType.ofCode header.outerHeader.proxyMsgType with
  | some .dev =>
    payload.length = toSizeT (devMsgHeaderPayloadLen header.innerHeader.devHdr) ∧
      payload.length = header.innerHeader.devHdr.payloadLen.toNat
  | some .strgy =>
    payload.length = toSizeT (strgyMsgHeaderPayloadLen header.innerHeader.strgyHdr) ∧
      payload.length = header.innerHeader.strgyHdr.payloadLen.toNat
  | some .sess =>
    payload.length = toSizeT (sessMsgHeaderPayloadLen header.innerHeader.sessHdr) ∧
      payload.length = header.innerHeader.sessHdr.payloadLen.toNat
  | _ => True

/-- Bytes a message has behind the outer header, and those the outer header states; `none` for a
type or an IoT protocol that is not supported. -/
def bodyLengths (header : GeneralProxyMsgHeader) (payloadLen : Nat) : Option (Nat × Nat) :=
  match ProxyMsgType.ofCode header.outerHeader.proxyMsgType with
  | some .dev | some .strgy => some (devMsgHeaderSize + payloadLen, devMsgHeaderSize + payloadLen)
  | some .sess => some (sessMsgHeaderSize + payloadLen, sessMsgHeaderSize + payloadLen)
  | some .data => some (payloadLen, payloadLen)
  | some .iot =>
    (IotProtoType.ofCode header.innerHeader.iotHdr.protoType).map fun proto =>
      (iotMsgHeaderSize + iotAddrInfoLen proto header.iotAddrLen + payloadLen,
        iotMsgHeaderSize + iotAddrSize proto + payloadLen)
  | none => none

/-- What the three ends of the switch say about the lengths. -/
def SwitchOutcome.Lengths (header : GeneralProxyMsgHeader) (payload : List UInt8) :
    SwitchOutcome → Prop
  | .unsupported => bodyLengths header payload.length = none
  | .refused => bodyLengths header payload.length ≠ none ∧ ¬ LengthsMatch header payload
  | .built innerLen body =>
    LengthsMatch header payload ∧
      bodyLengths header payload.length = some (body.length, innerLen + payload.length)

/-- A builder that checks its lengths, for a type whose checks these are. -/
theorem lengths_checkedBody {header : GeneralProxyMsgHeader} {corrLen : Int} {declared : UInt16}
    {inner payload : List UInt8}
    (hmatch : LengthsMatch header payload ↔
      payload.length = toSizeT corrLen ∧ payload.length = declared.toNat)
    (hlen : bodyLengths header payload.length =
      some (inner.length + payload.length, inner.length + payload.length)) :
    (SwitchOutcome.ofBuilder inner.length (checkedBody corrLen declared inner payload)).Lengths
      header payload := by
  rw [checkedBody_eq]
  split
  · rename_i h
    refine ⟨hmatch.mpr h, ?_⟩
    rw [hlen, List.length_append]
  · rename_i h
    refine ⟨?_, mt hmatch.mp h⟩
    rw [hlen]
    exact Option.some_ne_none _

theorem switchOnType_lengths (header : GeneralProxyMsgHeader) (payload : List UInt8) :
    (switchOnType header payload).Lengths header payload := by
  unfold switchOnType
  cases htype : ProxyMsgType.ofCode header.outerHeader.proxyMsgType with
  | none => simp [SwitchOutcome.Lengths, bodyLengths, htype]
  | some type =>
    cases type with
    | dev =>
      exact lengths_checkedBody (by simp [LengthsMatch, htype]) (by simp [bodyLengths, htype])
    | strgy =>
      exact lengths_checkedBody (by simp [LengthsMatch, htype]) (by simp [bodyLengths, htype])
    | sess =>
      exact lengths_checkedBody (by simp [LengthsMatch, htype]) (by simp [bodyLengths, htype])
    | data =>
      simp [buildProxyDataMessage, SwitchOutcome.ofBuilder, SwitchOutcome.Lengths, LengthsMatch,
        bodyLengths, htype]
    | iot =>
      cases hproto : IotProtoType.ofCode header.innerHeader.iotHdr.protoType with
      | none => simp [SwitchOutcome.Lengths, bodyLengths, htype, hproto]
      | some proto =>
        simp [buildProxyIotMessage, hproto, SwitchOutcome.ofBuilder, SwitchOutcome.Lengths,
          LengthsMatch, bodyLengths, htype, Nat.add_assoc]

/-- The outer header states the length of the body, or up to twenty bytes more. -/
theorem bodyLengths_bound {header : GeneralProxyMsgHeader} {payloadLen len stated : Nat}
    (h : bodyLengths header payloadLen = some (len, stated)) :
    len ≤ stated ∧ stated ≤ len + 20 ∧ stated ≤ payloadLen + 32 := by
  unfold bodyLengths at h
  split at h
  case h_5 =>
    obtain ⟨proto, -, hlens⟩ := Option.map_eq_some_iff.mp h
    have hle := iotAddrInfoLen_le proto header.iotAddrLen
    have hmax := iotAddrSize_le proto
    obtain ⟨rfl, rfl⟩ := Prod.mk.inj hlens
    unfold iotMsgHeaderSize
    omega
  case h_6 => cases h
  all_goals
    cases h
    have hdev : devMsgHeaderSize = 10 := rfl
    have hsess : sessMsgHeaderSize = 10 := rfl
    omega

/-! The message in the buffer, and the model that takes it as one list. -/

/-- The buffer when the first field of the outer header is written. -/
def startMemory (mode : Option MemoryAllocMode) (old : Mem) : Mem :=
  if mode = some .ampqueue then store old 0 (List.replicate msgHdrPlusMaxSize 0) else old

/-- The length is written last, but lies between the other fields and the body. -/
theorem memory_built (mode : Option MemoryAllocMode) (old : Mem) (outer : ProxyMsgHeader)
    (body : List UInt8) (payloadLen : UInt16) :
    (headWrites mode outer ++ [BufferWrite.body body, .field 6 (le16 payloadLen)]).foldl
        BufferWrite.apply old =
      store (startMemory mode old) 0 ({ outer with payloadLen }.bytes ++ body) := by
  have hstart : (headWrites mode outer).foldl BufferWrite.apply old =
      store (startMemory mode old) 0 (leadingFields outer) := by
    unfold headWrites startMemory
    split <;> rfl
  have hbytes : { outer with payloadLen }.bytes = leadingFields outer ++ le16 payloadLen := rfl
  rw [List.foldl_append, hstart, hbytes, store_append _ 0 _ body,
    store_append _ 0 _ (le16 payloadLen)]
  exact store_comm _ 8 6 body (le16 payloadLen) (.inr (Nat.le_refl _))

/-- The outlet that a call amounts to. -/
def BuilderCall.outlet (c : BuilderCall) (header : GeneralProxyMsgHeader) : Option Outlet :=
  match c.allocMode with
  | some .shared =>
    some (.shared (c.ring.any fun ring =>
      decide (errorSharedMemAddr ≠ (shmPoolQueueAllocFromHeader ring).1)))
  | some .caller =>
    some (.caller (c.malloc (proxyMsgHdrSize + header.outerHeader.payloadLen.toNat)).isSome)
  | some .ampqueue =>
    some (.ampqueue c.txQueue.isSome fun msg =>
      match c.txQueue with
      | none => .error
      | some tx => (hyperampQueueEnqueue tx.queue tx.region msg).1)
  | none => none

def SwitchOutcome.toBody : SwitchOutcome → Option (Nat × List UInt8)
  | .built innerLen body => some (innerLen, body)
  | .unsupported | .refused => none

theorem SwitchOutcome.toBody_ofBuilder (innerLen : Nat) (o : Option (List UInt8)) :
    (SwitchOutcome.ofBuilder innerLen o).toBody = o.map (innerLen, ·) := by
  cases o <;> rfl

theorem toBody_switchOnType (header : GeneralProxyMsgHeader) (payload : List UInt8) :
    (switchOnType header payload).toBody = buildBody header payload := by
  unfold switchOnType buildBody
  cases ProxyMsgType.ofCode header.outerHeader.proxyMsgType with
  | none => rfl
  | some type =>
    cases type with
    | iot =>
      cases IotProtoType.ofCode header.innerHeader.iotHdr.protoType with
      | none => rfl
      | some proto => exact SwitchOutcome.toBody_ofBuilder _ _
    | _ => exact SwitchOutcome.toBody_ofBuilder _ _

/-- The TX queue answers by the length of the message. -/
theorem hyperampQueueEnqueue_status {queue : HyperampShmQueue} {region : DataRegion}
    {data data' : List UInt8} (h : data.length = data'.length) :
    (hyperampQueueEnqueue queue region data).1 = (hyperampQueueEnqueue queue region data').1 := by
  unfold hyperampQueueEnqueue
  rw [h]
  split
  · rfl
  · split
    · rfl
    · dsimp only
      split <;> rfl

/-- What the call returns once it has a buffer. -/
theorem fillBuffer_ret (c : BuilderCall) (header : GeneralProxyMsgHeader) {payload : List UInt8}
    (hsize : payload.length + 40 < 2 ^ 64) (ring : Option SharedMemoryPoolQueue)
    (buffer : MessageBuffer) (resultMsg : Option UInt64) :
    (fillBuffer c header payload ring buffer resultMsg).ret =
      match buildBody header payload with
      | none => .error
      | some (innerLen, body) =>
        match c.allocMode, c.txQueue with
        | some .ampqueue, some tx => ofHyperamp (hyperampQueueEnqueue tx.queue tx.region
            (fillMessage (fun _ => 0) header innerLen body payload)).1
        | _, _ => .ok := by
  have hlengths := switchOnType_lengths header payload
  rw [← toBody_switchOnType, fillBuffer]
  cases hswitch : switchOnType header payload with
  | unsupported => rfl
  | refused => rfl
  | built innerLen body =>
    rw [hswitch] at hlengths
    have hbound := bodyLengths_bound hlengths.2
    have hmod : (payload.length + innerLen + proxyMsgHdrSize) % 2 ^ 64 =
        payload.length + innerLen + proxyMsgHdrSize :=
      Nat.mod_eq_of_lt (by unfold proxyMsgHdrSize; omega)
    dsimp only [SwitchOutcome.toBody]
    split
    · simp only [enqueueMessage, hmod]
      refine congrArg ofHyperamp (hyperampQueueEnqueue_status ?_)
      simp [fillMessage]
    · rfl

/-! The buffer of each mode. -/

section Modes

variable {c : BuilderCall} {header : GeneralProxyMsgHeader} {payload : List UInt8}

theorem selectBuffer_shared (header : GeneralProxyMsgHeader) {ring : SharedMemoryPoolQueue}
    (hmode : c.allocMode = some .shared)
    (hring : c.ring = some ring) :
    selectBuffer c header =
      (some (shmPoolQueueAllocFromHeader ring).2,
        if errorSharedMemAddr = (shmPoolQueueAllocFromHeader ring).1 then none
        else some (⟨(shmPoolQueueAllocFromHeader ring).1, ring.blockSize.toNat⟩,
          some (shmPoolQueueAllocFromHeader ring).1)) := by
  simp only [selectBuffer, hmode, hring]
  split <;> rfl

theorem selectBuffer_shared_null (hmode : c.allocMode = some .shared) (hring : c.ring = none) :
    selectBuffer c header = (none, none) := by
  simp only [selectBuffer, hmode, hring]

theorem selectBuffer_caller (header : GeneralProxyMsgHeader)
    (hmode : c.allocMode = some .caller) :
    selectBuffer c header =
      (c.ring, (c.malloc (proxyMsgHdrSize + header.outerHeader.payloadLen.toNat)).map fun addr =>
        (⟨addr, proxyMsgHdrSize + header.outerHeader.payloadLen.toNat⟩, none)) := by
  simp only [selectBuffer, hmode]
  cases c.malloc (proxyMsgHdrSize + header.outerHeader.payloadLen.toNat) <;> rfl

theorem selectBuffer_ampqueue (header : GeneralProxyMsgHeader)
    (hmode : c.allocMode = some .ampqueue) :
    selectBuffer c header =
      (c.ring, c.txQueue.map fun _ =>
        (⟨c.globalAmpTxBuf, msgHdrPlusMaxSize⟩, some c.globalAmpTxBuf)) := by
  simp only [selectBuffer, hmode]
  cases c.txQueue <;> rfl

theorem selectBuffer_other (hmode : c.allocMode = none) :
    selectBuffer c header = (c.ring, none) := by
  simp only [selectBuffer, hmode]

/-- The parameters pass the checks at the start. -/
structure BuilderCall.Checked (c : BuilderCall) (header : GeneralProxyMsgHeader)
    (payload : List UInt8) : Prop where
  header : c.header = some header
  payload : c.payload = some payload
  result : c.resultGiven = true
  engine : c.engineReady = true

/-- A call has one header and one payload. -/
theorem BuilderCall.Checked.unique (h : c.Checked header payload)
    {header' : GeneralProxyMsgHeader} {payload' : List UInt8} (h' : c.Checked header' payload') :
    header' = header ∧ payload' = payload :=
  ⟨Option.some.inj (h'.header.symm.trans h.header),
    Option.some.inj (h'.payload.symm.trans h.payload)⟩

theorem BuilderCall.Checked.outcome_none (h : c.Checked header payload)
    {ring : Option SharedMemoryPoolQueue} (hselect : selectBuffer c header = (ring, none)) :
    c.outcome = ⟨.error, ring, c.txQueue, none, none, []⟩ := by
  simp [BuilderCall.outcome, h.header, h.payload, h.result, h.engine, hselect]

theorem BuilderCall.Checked.outcome_some (h : c.Checked header payload)
    {ring : Option SharedMemoryPoolQueue} {buffer : MessageBuffer} {resultMsg : Option UInt64}
    (hselect : selectBuffer c header = (ring, some (buffer, resultMsg))) :
    c.outcome = fillBuffer c header payload ring buffer resultMsg := by
  simp [BuilderCall.outcome, h.header, h.payload, h.result, h.engine, hselect]

/-- A parameter that fails a check ends the call. -/
theorem outcome_unchecked (h : ¬ ∃ header payload, c.Checked header payload) :
    c.outcome = ⟨.error, c.ring, c.txQueue, none, none, []⟩ := by
  unfold BuilderCall.outcome
  cases hheader : c.header with
  | none => rfl
  | some header =>
    cases hpayload : c.payload with
    | none => rfl
    | some payload =>
      cases hresult : c.resultGiven with
      | false => rfl
      | true =>
        cases hengine : c.engineReady with
        | false => rfl
        | true => exact absurd ⟨header, payload, hheader, hpayload, hresult, hengine⟩ h

/-- The call returns what the model of the message alone returns, as long as the length of the
whole message is a `size_t`. -/
theorem outcome_status {outlet : Outlet} (hc : c.Checked header payload)
    (houtlet : c.outlet header = some outlet) (hsize : payload.length + 40 < 2 ^ 64) :
    c.outcome.ret = (buildProxyGeneralMessage outlet c.old header payload).status := by
  have hfill := fillBuffer_ret c header hsize
  unfold BuilderCall.outlet at houtlet
  cases hmode : c.allocMode with
  | none => simp [hmode] at houtlet
  | some mode =>
    cases mode with
    | shared =>
      simp only [hmode, Option.some.injEq] at houtlet hfill
      subst houtlet
      cases hring : c.ring with
      | none =>
        rw [hc.outcome_none (selectBuffer_shared_null hmode hring)]
        rfl
      | some ring =>
        have hselect := selectBuffer_shared header hmode hring
        by_cases haddr : errorSharedMemAddr = (shmPoolQueueAllocFromHeader ring).1
        · rw [if_pos haddr] at hselect
          rw [hc.outcome_none hselect]
          simp [haddr, buildProxyGeneralMessage]
        · rw [if_neg haddr] at hselect
          rw [hc.outcome_some hselect, hfill]
          simp only [haddr, Option.any_some, ne_eq, not_false_eq_true, decide_true,
            buildProxyGeneralMessage]
          cases buildBody header payload <;> rfl
    | caller =>
      simp only [hmode, Option.some.injEq] at houtlet hfill
      subst houtlet
      have hselect := selectBuffer_caller header hmode
      cases hmalloc : c.malloc (proxyMsgHdrSize + header.outerHeader.payloadLen.toNat) with
      | none =>
        rw [hmalloc] at hselect
        rw [hc.outcome_none hselect]
        rfl
      | some addr =>
        rw [hmalloc] at hselect
        rw [hc.outcome_some hselect, hfill]
        simp only [Option.isSome_some, buildProxyGeneralMessage]
        cases buildBody header payload <;> rfl
    | ampqueue =>
      simp only [hmode, Option.some.injEq] at houtlet hfill
      subst houtlet
      have hselect := selectBuffer_ampqueue header hmode
      cases htx : c.txQueue with
      | none =>
        rw [htx] at hselect
        rw [hc.outcome_none hselect]
        rfl
      | some tx =>
        rw [htx] at hselect
        simp only [htx] at hfill
        rw [hc.outcome_some hselect, hfill]
        simp only [Option.isSome_some, buildProxyGeneralMessage]
        cases buildBody header payload <;> rfl

end Modes

end BackendProxy.Wire
