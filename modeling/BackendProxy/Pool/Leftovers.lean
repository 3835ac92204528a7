import BackendProxy.Pool.Extent
import BackendProxy.Pool.World
import BackendProxy.Queue.Channel

namespace BackendProxy.Pool

open Lib Queue Wire

/-! A message taken off RX and processed, in a slot that still holds bytes of earlier messages. -/

/-- The protocols with a session, and what a device answers to the address and bytes it is given. -/
structure IotRemote where
  sessions : IotProtoType → Bool
  sendToRemote : IotAddr → List UInt8 → ProcessStatus

/-- What the ranges of a message ask for. -/
def IotRemote.toIotEnv (iot : IotRemote) : IotEnv :=
  { sessions := iot.sessions, sendToRemote := fun _ => .ok }

/-- `backend_proxy_msg_process`, with what it puts on TX and what it hands to an IoT device. -/
def World.processMsg (m : Mem) (iot : IotRemote) (env : MsgEnv) (notice : SessPtr → Notice) :
    WorldM (ProcessStatus × Option (IotAddr × List UInt8)) :=
  match backendProxyMsgProcess m with
  | none => pure (.error, none)
  | some (.iot _ _ msgLen msg) =>
    match backendProxyIotMsgProcess iot.sessions m msgLen msg with
    | .error => pure (.error, none)
    | .accepted => pure (.ok, none)
    | .send s =>
      pure (iot.sendToRemote s.addr (load m s.data s.len), some (s.addr, load m s.data s.len))
  | some dispatch => do
    let status ← World.handleDispatch m env notice dispatch
    pure (status, none)

/-- What came of one pass of step 1: the status and the length the get gave, the queue behind it,
and what the message was taken for and led to. -/
structure Delivery where
  status : ProcessStatus
  outLen : Nat
  rx : HyperampShmQueue
  dispatch : Option Dispatch
  effect : Option (ProcessStatus × Option (IotAddr × List UInt8))

/-- Step 1 of the main loop: the get copies into `msgBuf`, and a message that was there is
processed. -/
def deliver (rx : HyperampShmQueue) (region : DataRegion) (maxMsgLen : Nat) (msgBuf : Mem)
    (iot : IotRemote) (env : MsgEnv) (notice : SessPtr → Notice) : WorldM Delivery :=
  let (status, rx', got) := backendEngineHyperampRxQueueGet rx region maxMsgLen
  if status = .ok then do
    let effect ← World.processMsg (Lib.store msgBuf 0 got) iot env notice
    pure { status, outLen := got.length, rx := rx',
           dispatch := backendProxyMsgProcess (Lib.store msgBuf 0 got), effect := some effect }
  else pure { status, outLen := 0, rx := rx', dispatch := none, effect := none }

/-- The message at the front of the queue. -/
def AtFront (rx : HyperampShmQueue) (region : DataRegion) (data : List UInt8) : Prop :=
  load region (slotOffset rx rx.tail) data.length = data

/-- Two regions that may differ in the rest of the slot behind the message. -/
structure SameButLeftovers (rx : HyperampShmQueue) (data : List UInt8)
    (region region' : DataRegion) : Prop where
  front : AtFront rx region data
  front' : AtFront rx region' data
  elsewhere : ∀ a, a < slotOffset rx rx.tail ∨
    slotOffset rx rx.tail + rx.blockSize.toNat ≤ a → region a = region' a

/-- The get reports the length of the message, and what lies behind the message in its slot has no
part in what comes of it. -/
structure Independent (rx : HyperampShmQueue) (data : List UInt8) (maxMsgLen : Nat) : Prop where
  reported : ∀ region, AtFront rx region data →
    (backendEngineHyperampRxQueueGet rx region maxMsgLen).2.2.length = data.length
  alike : ∀ region region', SameButLeftovers rx data region region' →
    ∀ msgBuf iot env notice w,
      deliver rx region maxMsgLen msgBuf iot env notice w =
        deliver rx region' maxMsgLen msgBuf iot env notice w

/-! What the get copies. -/

section Get

variable {rx : HyperampShmQueue} {data : List UInt8} {region region' : DataRegion} {maxMsgLen : Nat}

theorem rxQueueGet_eq (hne : rx.tail ≠ rx.header) (hmax : maxMsgLen ≠ 0) (region : DataRegion) :
    backendEngineHyperampRxQueueGet rx region maxMsgLen =
      (.ok,
        { rx with
          tail := nextBySubtraction rx rx.tail, dequeueCount := rx.dequeueCount + 1 },
        load region (slotOffset rx rx.tail) (min maxMsgLen rx.blockSize.toNat)) := by
  have hmin : (if maxMsgLen < rx.blockSize.toNat then maxMsgLen else rx.blockSize.toNat) =
      min maxMsgLen rx.blockSize.toNat := by
    split <;> omega
  simp only [backendEngineHyperampRxQueueGet, hyperampQueueDequeue, hmax, hne, if_false, hmin]
  rfl

theorem rxQueueGet_length (hne : rx.tail ≠ rx.header) (region : DataRegion) :
    (backendEngineHyperampRxQueueGet rx region maxMsgLen).2.2.length =
      min maxMsgLen rx.blockSize.toNat := by
  by_cases hmax : maxMsgLen = 0
  · subst hmax
    simp [backendEngineHyperampRxQueueGet, hyperampQueueDequeue]
  · rw [rxQueueGet_eq hne hmax]
    exact length_load _ _ _

/-- The bytes of the message are the same in both slots. -/
theorem SameButLeftovers.cell (h : SameButLeftovers rx data region region') {i : Nat}
    (hi : i < data.length) :
    region (slotOffset rx rx.tail + i) = region' (slotOffset rx rx.tail + i) := by
  have hload := h.front.trans h.front'.symm
  have hcell := congrArg (fun l => l[i]?) hload
  simpa [load, hi] using hcell

/-- A message that fills all the get copies is copied alike. -/
theorem SameButLeftovers.get_eq (h : SameButLeftovers rx data region region')
    (hne : rx.tail ≠ rx.header) (hfull : min maxMsgLen rx.blockSize.toNat ≤ data.length) :
    backendEngineHyperampRxQueueGet rx region maxMsgLen =
      backendEngineHyperampRxQueueGet rx region' maxMsgLen := by
  by_cases hmax : maxMsgLen = 0
  · subst hmax
    rfl
  · rw [rxQueueGet_eq hne hmax, rxQueueGet_eq hne hmax]
    congr 2
    exact load_congr fun i hi => h.cell (by omega)

/-- Of a shorter message, the first bytes are. -/
theorem SameButLeftovers.agree (h : SameButLeftovers rx data region region')
    (hshort : data.length ≤ min maxMsgLen rx.blockSize.toNat) (msgBuf : Mem) :
    Agree
      (Lib.store msgBuf 0
        (load region (slotOffset rx rx.tail) (min maxMsgLen rx.blockSize.toNat)))
      (Lib.store msgBuf 0
        (load region' (slotOffset rx rx.tail) (min maxMsgLen rx.blockSize.toNat)))
      0 data.length := by
  intro i hi
  have hcell := h.cell hi
  simpa [Lib.store, load, show i < min maxMsgLen rx.blockSize.toNat by omega] using hcell

/-- Memories that agree at the start agree on every range inside it. -/
theorem agree_inside {m m' : Mem} {n off len : Nat} (h : Agree m m' 0 n) (hn : off + len ≤ n) :
    Agree m m' off len := by
  intro i hi
  have hcell := h (off + i) (by omega)
  rwa [Nat.zero_add] at hcell

end Get

/-! A short message is still taken alike as long as its own lengths keep the reads inside it. -/

section Inside

variable {m m' : Mem} {w : World} {iot : IotRemote} {env : MsgEnv} {notice : SessPtr → Notice}

/-- What is handed to a device is one of the ranges. -/
theorem iotSend_mem_ranges {sessions : IotProtoType → Bool} {msgLen : UInt16} {s : IotSend}
    (h : backendProxyIotMsgProcess sessions m msgLen proxyMsgHdrSize = .send s) :
    (s.data, s.len) ∈ iotRanges sessions m msgLen := by
  unfold iotRanges
  cases hp : IotProtoType.ofCode (IotMsgHeader.read m proxyMsgHdrSize).protoType with
  | none => simp [backendProxyIotMsgProcess, hp] at h
  | some proto =>
    by_cases hl : msgLen.toNat < iotMsgHeaderSize + iotAddrSize proto
    · simp [backendProxyIotMsgProcess, hp, hl] at h
    · by_cases hs : Sends proto
      · have hsend : proto = .bluetooth ∨ proto = .can ∨ proto = .modbustcp := hs
        rw [iotMsgProcess_eq hs rfl hp (Nat.not_lt.mp hl)] at h
        unfold iotSendToRemote at h
        split at h
        · cases h
        · split at h
          · cases h
          · split at h
            · cases h
            · rename_i hpresent hmax hmin
              cases h
              simp only [Bool.not_eq_true', Bool.not_eq_false] at hpresent
              simp [hp, hl, hsend, iotSendRanges, hpresent, hmax, hmin]
      · cases proto with
        | bluetooth | can | modbustcp => simp [Sends] at hs
        | zigbee | lora | powerlink =>
          simp only [backendProxyIotMsgProcess, hp, hl, if_false] at h
          split at h <;> cases h

theorem World.create_reads_only {frontend : UInt16} {hdr : SessMsgHeader} {payload : Nat}
    (h : WholeParams hdr → Agree m m' payload hdr.payloadLen.toNat) :
    World.backendProxySessMsgProcessActiveCreate frontend hdr m payload env notice =
      World.backendProxySessMsgProcessActiveCreate frontend hdr m' payload env notice := by
  unfold World.backendProxySessMsgProcessActiveCreate
  split
  · rename_i hwhole
    have hlen : 4 ≤ hdr.payloadLen.toNat := by
      rcases hwhole with ⟨-, h10⟩ | ⟨-, h22⟩
      · rw [h10]
        decide
      · rw [h22]
        decide
    have h0 := (h hwhole).u16At 0 (by omega)
    rw [Nat.add_zero] at h0
    rw [h0, (h hwhole).u16At 2 (by omega)]
  · rfl

theorem World.handleDispatch_reads_only (notice : SessPtr → Notice) {dispatch : Dispatch}
    (hp : backendProxyMsgProcess m = some dispatch)
    (h : ∀ r ∈ readRanges m w.engine iot.toIotEnv env, Agree m m' r.1 r.2) :
    World.handleDispatch m env notice dispatch w =
      World.handleDispatch m' env notice dispatch w := by
  have hengine := Pool.handleDispatch_reads_only hp h
  unfold World.handleDispatch
  split
  · rfl
  · rw [World.create_reads_only fun hwhole => h _ (create_mem_ranges hp hwhole env)]
  · simp only [within, Prog.onPart, hengine]

/-- The ranges of the engine are all that is read with TX in view as well. -/
theorem World.processMsg_reads_only (notice : SessPtr → Notice)
    (hhdr : Agree m m' 0 proxyMsgHdrSize)
    (h : ∀ r ∈ readRanges m w.engine iot.toIotEnv env, Agree m m' r.1 r.2) :
    World.processMsg m iot env notice w = World.processMsg m' iot env notice w := by
  have hd := dispatch_reads_only hhdr h
  cases hp : backendProxyMsgProcess m with
  | none => simp only [World.processMsg, hp, hd ▸ hp]
  | some dispatch =>
    have hp' := hd ▸ hp
    have hhandled := World.handleDispatch_reads_only notice hp h
    cases dispatch with
    | iot frontend backend msgLen msg =>
      have ht := dispatch_type hp
      cases (msgProcess_eq rfl ht).symm.trans hp
      simp only [readRanges, ht, dispatchType] at h
      have hsent := iot_reads_only iot.sessions h
      cases hout : backendProxyIotMsgProcess iot.sessions m
          (ProxyMsgHeader.read m 0).payloadLen proxyMsgHdrSize with
      | error | accepted => simp only [World.processMsg, hp, hp', ← hsent, hout]
      | send s =>
        have hbytes := load_congr (h _ (iotSend_mem_ranges hout))
        simp only [World.processMsg, hp, hp', ← hsent, hout, hbytes]
    | dev | strgy | sess | data =>
      simp only [World.processMsg, hp, hp', bind, StateT.bind, hhandled]

/-- Leftovers are without effect where the header and every range lie inside the message. -/
theorem SameButLeftovers.deliver_eq {rx : HyperampShmQueue} {data : List UInt8}
    {region region' : DataRegion} {maxMsgLen : Nat} {msgBuf : Mem}
    (h : SameButLeftovers rx data region region') (hne : rx.tail ≠ rx.header)
    (hshort : data.length ≤ min maxMsgLen rx.blockSize.toNat)
    (hhdr : proxyMsgHdrSize ≤ data.length)
    (hinside : ∀ r ∈ readRanges
      (Lib.store msgBuf 0
        (load region (slotOffset rx rx.tail) (min maxMsgLen rx.blockSize.toNat)))
      w.engine iot.toIotEnv env, r.1 + r.2 ≤ data.length) :
    deliver rx region maxMsgLen msgBuf iot env notice w =
      deliver rx region' maxMsgLen msgBuf iot env notice w := by
  have hmax : maxMsgLen ≠ 0 := by
    have := show proxyMsgHdrSize = 8 from rfl
    omega
  have hbytes := h.agree hshort msgBuf
  have houter := agree_inside hbytes (show 0 + proxyMsgHdrSize ≤ _ from by omega)
  have hranges := fun r hr => agree_inside hbytes (hinside r hr)
  have hprocess := World.processMsg_reads_only notice houter hranges
  have hdispatch := dispatch_reads_only houter hranges
  simp only [deliver, rxQueueGet_eq hne hmax, if_true, length_load, bind, StateT.bind, hprocess,
    hdispatch]

end Inside

/-- The length is reported and the leftovers are without effect exactly if there are none among the
bytes the get copies. -/
theorem independent_iff (rx : HyperampShmQueue) (data : List UInt8) (maxMsgLen : Nat)
    (hne : rx.tail ≠ rx.header) :
    Independent rx data maxMsgLen ↔ data.length = min maxMsgLen rx.blockSize.toNat := by
  constructor
  · intro h
    have hfront : AtFront rx (Lib.store (fun _ => 0) (slotOffset rx rx.tail) data) data := by
      rw [AtFront, load_store _ _ _ _ (Nat.le_refl _), List.take_length]
    have hlen := h.reported _ hfront
    rw [rxQueueGet_length hne] at hlen
    exact hlen.symm
  · intro hlen
    refine ⟨?_, ?_⟩
    · intro region _
      rw [rxQueueGet_length hne, hlen]
    · intro region region' hsame msgBuf iot env notice w
      unfold deliver
      rw [hsame.get_eq hne (Nat.le_of_eq hlen.symm)]

/-- A queue of four blocks with one message waiting. -/
def waitingRx (blockSize : UInt16) : HyperampShmQueue :=
  { mapMode1 := 0, mapMode2 := 0, header := 1, tail := 0, capacity := 4, blockSize,
    reserved := 0, phyAddr := 0, virtAddr1 := 0, virtAddr2 := 0, magic := hyperampQueueMagic,
    version := 1, enqueueCount := 1, dequeueCount := 0 }

/-- A message that fills its slot. -/
theorem independent_iff_full :
    (waitingRx 9).tail ≠ (waitingRx 9).header ∧
      Independent (waitingRx 9) (dataMessage 7 1 [0xAA]) msgBufferSize := by
  have hne : (waitingRx 9).tail ≠ (waitingRx 9).header := by decide
  exact ⟨hne, (independent_iff _ _ _ hne).mpr (by decide)⟩

/-- A DATA message for the session with ID 1 that announces two bytes and brings one. -/
def cutShort : List UInt8 := (dataMessage 7 1 [0xAA, 0xBB]).take 9

/-- The message in the first slot, with an older byte behind it. -/
def leftoverRegion (leftover : UInt8) : DataRegion :=
  Lib.store (fun _ => 0) 16 (cutShort ++ [leftover])

/-- The segments of the first session after the delivery. -/
def segmentsAfter (region : DataRegion) : Option (List (List UInt8)) :=
  (run poolStep oneDevice [.createActive tcpRequest goodEnv]).toOption.bind fun e =>
    (deliver (waitingRx 16) region msgBufferSize (fun _ => 0) ⟨fun _ => false, fun _ _ => .ok⟩
        goodMsgEnv (fun _ => ⟨.ok, ⟨0, 0⟩⟩) ⟨e, [], [], []⟩).toOption.bind fun r =>
      (r.2.engine.heap 0).map fun s => s.msg .f2b

/-- A byte left in the slot is delivered as part of the message, and even a message that announces
what it brings is reported with the length of the slot. -/
theorem leftovers_delivered :
    (∀ region, AtFront (waitingRx 16) region (dataMessage 7 1 [0xAA]) →
      (backendEngineHyperampRxQueueGet (waitingRx 16) region msgBufferSize).2.2.length ≠
        (dataMessage 7 1 [0xAA]).length) ∧
      segmentsAfter (leftoverRegion 1) = some [[0xAA, 1]] ∧
      segmentsAfter (leftoverRegion 2) = some [[0xAA, 2]] ∧
      ¬ Independent (waitingRx 16) cutShort msgBufferSize := by
  have hone : segmentsAfter (leftoverRegion 1) = some [[0xAA, 1]] := by decide +kernel
  have htwo : segmentsAfter (leftoverRegion 2) = some [[0xAA, 2]] := by decide +kernel
  refine ⟨?_, hone, htwo, ?_⟩
  · intro region _
    rw [rxQueueGet_length (by decide)]
    decide
  · intro h
    have hsame :
        SameButLeftovers (waitingRx 16) cutShort (leftoverRegion 1) (leftoverRegion 2) := by
      refine ⟨?_, ?_, ?_⟩
      · unfold AtFront
        decide
      · unfold AtFront
        decide
      · intro a ha
        have hslot : slotOffset (waitingRx 16) (waitingRx 16).tail = 16 := rfl
        have hsize : (waitingRx 16).blockSize.toNat = 16 := rfl
        have hlen : ∀ b : UInt8, (cutShort ++ [b]).length = 10 := fun _ => rfl
        rw [hslot, hsize] at ha
        unfold leftoverRegion
        rw [store_outside _ _ _ _ (by rw [hlen]; omega),
          store_outside _ _ _ _ (by rw [hlen]; omega)]
    have heq : segmentsAfter (leftoverRegion 1) = segmentsAfter (leftoverRegion 2) := by
      simp only [segmentsAfter, h.alike _ _ hsame]
    rw [hone, htwo] at heq
    revert heq
    decide

end BackendProxy.Pool
