import BackendProxy.Lib.Handover
import BackendProxy.Wire.Iot

namespace BackendProxy.Wire

open Lib Queue

/-! From the IoT devices to TX: the receive loops of `engine_iot_bluetooth_run`,
`engine_iot_can_run` and `engine_iot_modbustcp_run`. -/

/-- A received message: at most as many bytes as the buffer on the stack holds, and the source
address as the receive left it. -/
structure IotMsgBuffer where
  data : List UInt8
  addr : Mem
  fits : data.length ≤ 1024

inductive IotRecv where
  | ok (msg : IotMsgBuffer)
  | again
  | error
  | unsupported

/-- One pass of a loop: what `recv_from_remote` gives, and what the other side has done to TX by
the time the message is put. -/
structure IotTurn where
  recv : IotRecv
  peer : TxQueue → TxQueue

/-- What one loop does differently from the next: the protocol, and the address fields it copies. -/
structure IotLoop where
  proto : IotProtoType
  protoType : UInt16
  addrInfo : Mem → Mem
  supported : IotProtoType.ofCode protoType = some proto

def bluetoothLoop : IotLoop :=
  { proto := .bluetooth, protoType := 1
    addrInfo := fun addr => store (fun _ => 0) 0 (load addr 0 20)
    supported := rfl }

/-- The bus ID is set to zero. -/
def canLoop : IotLoop :=
  { proto := .can, protoType := 3, addrInfo := fun addr => store (fun _ => 0) 0 (load addr 0 6)
    supported := rfl }

def modbustcpLoop : IotLoop :=
  { proto := .modbustcp, protoType := 6
    addrInfo := fun addr => store (fun _ => 0) 0 (load addr 0 11)
    supported := rfl }

def IotLoop.header (loop : IotLoop) (msg : IotMsgBuffer) : GeneralProxyMsgHeader :=
  { outerHeader :=
      { version := 0, proxyMsgType := 4, frontendSessId := 0, backendSessId := 0, payloadLen := 0 }
    innerHeader :=
      { w0 := 1, w1 := loop.protoType, w2 := 0, w3 := 0,
        w4 := UInt16.ofNat (msg.data.length + iotAddrSize loop.proto), w5 := 0 }
    addrInfo := loop.addrInfo msg.addr
    iotAddrLen := UInt16.ofNat (iotAddrSize loop.proto) }

/-- What a run leaves: TX, the messages it put there, and what the device has not given yet. -/
structure UplinkRun where
  tx : TxQueue
  enqueued : List (List UInt8)
  rest : List IotTurn

/-- Build the message in the global buffer and put it on TX. The status is not looked at. -/
def IotLoop.put (loop : IotLoop) (txReady : Bool) (tx : TxQueue) (msg : IotMsgBuffer) :
    Option (List UInt8) × TxQueue :=
  let built := buildProxyGeneralMessage
    (.ampqueue txReady fun m => (hyperampQueueEnqueue tx.queue tx.region m).1) (fun _ => 0)
    (loop.header msg) msg.data
  if built.status = .ok then
    let (_, queue, region) := hyperampQueueEnqueue tx.queue tx.region built.message
    (some built.message, { queue, region })
  else (none, tx)

/-- The loop. A device that gives nothing more has no data available. -/
def IotLoop.run (loop : IotLoop) (txReady : Bool) : List IotTurn → TxQueue → UplinkRun
  | [], tx => { tx, enqueued := [], rest := [] }
  | turn :: turns, tx =>
    match turn.recv with
    | .again | .error | .unsupported => { tx, enqueued := [], rest := turns }
    | .ok msg =>
      let (put, tx') := loop.put txReady (turn.peer tx) msg
      let later := loop.run txReady turns tx'
      { tx := later.tx, enqueued := put.toList ++ later.enqueued, rest := later.rest }

def IotRecv.msg : IotRecv → Option IotMsgBuffer
  | .ok msg => some msg
  | _ => none

def payloads (turns : List IotTurn) : List IotMsgBuffer := turns.filterMap fun turn => turn.recv.msg

/-- A payload on the wire: both headers, the address and the payload. -/
def IotLoop.message (loop : IotLoop) (msg : IotMsgBuffer) : List UInt8 :=
  (sentHeader (loop.header msg)
      (msg.data.length + (iotMsgHeaderSize + iotAddrSize loop.proto))).bytes ++
    ((sentIotHeader (loop.header msg) (msg.data.length + iotAddrSize loop.proto)).bytes ++
      load (loop.addrInfo msg.addr) 0 (iotAddrSize loop.proto) ++ msg.data)

/-- TX is there, has a free block, and its blocks are large enough for the message. -/
def TakesMessage (loop : IotLoop) (txReady : Bool) (tx : TxQueue) (msg : IotMsgBuffer) : Prop :=
  txReady = true ∧
    proxyMsgHdrSize + iotMsgHeaderSize + iotAddrSize loop.proto + msg.data.length ≤
      tx.queue.blockSize.toNat ∧
    nextBySubtraction tx.queue tx.queue.header ≠ tx.queue.tail

section Put

variable (loop : IotLoop) {txReady : Bool} {tx : TxQueue} {msg : IotMsgBuffer}

theorem IotLoop.length_message (msg : IotMsgBuffer) :
    (loop.message msg).length =
      proxyMsgHdrSize + iotMsgHeaderSize + iotAddrSize loop.proto + msg.data.length := by
  simp [IotLoop.message, Nat.add_assoc]

theorem IotLoop.addrInfoLen (msg : IotMsgBuffer) :
    iotAddrInfoLen loop.proto (loop.header msg).iotAddrLen = iotAddrSize loop.proto := by
  simp only [IotLoop.header]
  cases loop.proto <;> rfl

/-- The builder never refuses such a message; what becomes of it is up to TX. -/
theorem IotLoop.build_eq (enqueue : List UInt8 → HyperampStatus) (old : Mem)
    (msg : IotMsgBuffer) :
    buildProxyGeneralMessage (.ampqueue true enqueue) old (loop.header msg) msg.data =
      { status := ofHyperamp (enqueue (loop.message msg)), message := loop.message msg } := by
  have hbody : buildBody (loop.header msg) msg.data =
      some (iotMsgHeaderSize + iotAddrSize loop.proto,
        (sentIotHeader (loop.header msg) (msg.data.length + iotAddrSize loop.proto)).bytes ++
          load (loop.addrInfo msg.addr) 0 (iotAddrSize loop.proto) ++ msg.data) := by
    have hproto : IotProtoType.ofCode (loop.header msg).innerHeader.iotHdr.protoType =
        some loop.proto := loop.supported
    have htype : ProxyMsgType.ofCode (loop.header msg).outerHeader.proxyMsgType = some .iot := rfl
    simp only [buildBody, htype, hproto, buildProxyIotMessage, loop.addrInfoLen, Option.map_some]
    rfl
  simp only [buildProxyGeneralMessage, hbody]
  rw [fillMessage_exact _ _ (by simp; omega)]
  rfl

theorem takesMessage_iff :
    TakesMessage loop true tx msg ↔
      (hyperampQueueEnqueue tx.queue tx.region (loop.message msg)).1 = .ok := by
  rw [hyperampQueueEnqueue_ok_iff, loop.length_message]
  unfold TakesMessage proxyMsgHdrSize
  constructor
  · intro ⟨_, hfit, hfree⟩
    exact ⟨by omega, hfit, hfree⟩
  · intro ⟨_, hfit, hfree⟩
    exact ⟨rfl, hfit, hfree⟩

theorem IotLoop.put_taken (h : TakesMessage loop txReady tx msg) :
    ∃ tx', loop.put txReady tx msg = (some (loop.message msg), tx') := by
  obtain rfl := h.1
  have hok := (takesMessage_iff loop).mp h
  simp only [IotLoop.put, loop.build_eq, hok, ofHyperamp, if_true]
  exact ⟨_, rfl⟩

theorem IotLoop.put_refused (h : ¬ TakesMessage loop txReady tx msg) :
    loop.put txReady tx msg = (none, tx) := by
  cases txReady with
  | false => simp [IotLoop.put, buildProxyGeneralMessage]
  | true =>
    rw [takesMessage_iff] at h
    have hst : ofHyperamp (hyperampQueueEnqueue tx.queue tx.region (loop.message msg)).1 ≠ .ok := by
      cases hput : (hyperampQueueEnqueue tx.queue tx.region (loop.message msg)).1 with
      | ok => exact absurd hput h
      | again | error => simp [ofHyperamp]
    simp only [IotLoop.put, loop.build_eq, hst, if_false]

end Put

/-! The loop hands the payloads it obtains on to TX, and stops for none of them. -/

/-- One pass, as a step of a hand-over. -/
def IotLoop.pass (loop : IotLoop) (txReady : Bool) (tx : TxQueue)
    (item : IotMsgBuffer × (TxQueue → TxQueue)) : Fate × TxQueue :=
  let (put, tx') := loop.put txReady (item.2 tx) item.1
  (if put.isSome then .taken else .dropped, tx')

section Run

variable (loop : IotLoop) {txReady : Bool}

end Run

/-- TX of two blocks with one message on it. -/
def fullTx : TxQueue :=
  { queue :=
      { mapMode1 := 0, mapMode2 := 0, header := 0, tail := 1, capacity := 2, blockSize := 4096,
        reserved := 0, phyAddr := 0, virtAddr1 := 0, virtAddr2 := 0, magic := hyperampQueueMagic,
        version := 1, enqueueCount := 1, dequeueCount := 0 }
    region := fun _ => 0 }

end BackendProxy.Wire
