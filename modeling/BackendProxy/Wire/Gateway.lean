import BackendProxy.Lib.Runs
import BackendProxy.Wire.Can
import Mathlib.Data.List.Forall2
import BackendProxy.Wire.Decode

namespace BackendProxy.Wire

open Lib Queue

/-! The IoT sessions over whole runs: messages for the devices, what the devices send, and the
rounds of `engine_iot_dev_run`. -/

/-- A write to the socket of a session. -/
inductive DeviceWrite where
  | bluetooth (bytes : List UInt8)
  | can (frame : CanFrame)
  deriving DecidableEq

/-- In server mode nothing is sent, which counts as a success. -/
def bluetoothSendToRemote (write : Bool) (sess : IotSession) (m : Mem) (msg : IotSend) :
    ProcessStatus × List DeviceWrite :=
  if sess.workingMode = .client then
    (if write then .ok else .error, [.bluetooth (load m msg.data msg.len)])
  else (.ok, [])

def iotModbusCmdReadReq : UInt8 := 2

/-- A read command is kept in the state of the session; every other command is forgotten. -/
def modbustcpSendToRemote (sess : IotSession) (m : Mem) (msg : IotSend) :
    ProcessStatus × IotSession :=
  if sess.workingMode = .client then
    (.ok, if m msg.data = iotModbusCmdReadReq then { sess with sessState := iotSessStatePending }
      else sess)
  else (.error, sess)

/-- The sessions and TX, what the Bluetooth and the CAN device have sent that was not read, and as
a history the passes of the three loops and the writes to the devices. -/
structure Gateway where
  bluetoothSess : Option IotSession
  canSess : Option IotSession
  modbustcpSess : Option IotSession
  others : IotProtoType → Bool
  txReady : Bool
  tx : TxQueue
  bluetoothWaiting : List (Delivery 1 1024)
  canWaiting : List (Delivery 1 canFrameSize)
  bluetoothPasses : List (Pass 1 1024)
  canPasses : List (Pass 1 canFrameSize)
  modbustcpPasses : List (Pass 2 1)
  written : List DeviceWrite

def Gateway.sessions (g : Gateway) : IotProtoType → Bool
  | .bluetooth => g.bluetoothSess.isSome
  | .can => g.canSess.isSome
  | .modbustcp => g.modbustcpSess.isSome
  | proto => g.others proto

/-- `send_to_remote` of the session the handler found. -/
def Gateway.sendToRemote (g : Gateway) (write : Bool) (m : Mem) (msg : IotSend) :
    ProcessStatus × Gateway :=
  match msg.addr with
  | .bluetooth _ =>
    match g.bluetoothSess with
    | some sess =>
      let (status, writes) := bluetoothSendToRemote write sess m msg
      (status, { g with written := g.written ++ writes })
    | none => (.error, g)
  | .can _ =>
    let sent := canSendToRemote write m msg
    (sent.status, { g with written := g.written ++ sent.written.map DeviceWrite.can })
  | .modbustcp _ =>
    match g.modbustcpSess with
    | some sess =>
      let (status, sess) := modbustcpSendToRemote sess m msg
      (status, { g with modbustcpSess := some sess })
    | none => (.error, g)

/-- A message from RX. One that is not for an IoT device is none of the gateway's business. -/
def Gateway.message (g : Gateway) (m : Mem) (write : Bool) : Gateway :=
  match backendProxyMsgProcess m with
  | some (.iot _ _ msgLen msg) =>
    match backendProxyIotMsgProcess g.sessions m msgLen msg with
    | .send s => (g.sendToRemote write m s).2
    | .accepted | .error => g
  | _ => g

/-- The environment of a round: how the reads end when nothing waits, what reads of the register
give, and what the other side does to TX in the meantime. -/
structure GatewayRound where
  bluetoothEnding : NoData
  canEnding : NoData
  registers : IotSource 2 1
  peers : IotProtoType → Nat → TxQueue → TxQueue

section Serve

variable {width size : Nat}

/-- Session and device after the loop. -/
def recvAfter (recv : RecvFromRemote width size) :
    Nat → IotSession → IotSource width size → IotSession × IotSource width size
  | 0, sess, source => (sess, source)
  | fuel + 1, sess, source =>
    match recv sess source with
    | (.ok _, sess', source') => recvAfter recv fuel sess' source'
    | (.again, sess', source') | (.error, sess', source') => (sess', source')

/-- The loop of the engine to its end; no loop that ends has more passes than there are
deliveries. -/
def IotLoop.serve (loop : IotLoop) (recv : RecvFromRemote width size) (txReady : Bool)
    (peers : Nat → TxQueue → TxQueue) (sess : IotSession) (source : IotSource width size)
    (tx : TxQueue) :
    Except IotProtoType (DriveRun width size × IotSession × IotSource width size) :=
  match loop.drive recv txReady peers (source.deliveries.length + 1) 0 sess source tx with
  | some r => .ok (r, recvAfter recv (source.deliveries.length + 1) sess source)
  | none => .error loop.proto

end Serve

inductive GatewayOp where
  | message (m : Mem) (write : Bool)
  | bluetoothSends (d : Delivery 1 1024)
  | canSends (d : Delivery 1 canFrameSize)
  | round (r : GatewayRound)

section Conveyed

variable {width size : Nat}

/-- The receive function took the bytes of `d` from `off` on. -/
structure Receipt.Takes (off : Nat) (addr : Delivery width size → Mem)
    (receipt : Receipt width size) (d : Delivery width size) : Prop where
  made : receipt.made = some d
  data : receipt.msg.data = load d.mem off (width * d.len)
  addr : receipt.msg.addr = addr d

/-- The delivery was taken, and the message built for it is on TX if TX took it. -/
structure Pass.Carries (loop : IotLoop) (txReady : Bool) (off : Nat)
    (addr : Delivery width size → Mem) (pass : Pass width size) (d : Delivery width size) :
    Prop where
  takes : pass.receipt.Takes off addr d
  puts : pass.PutsMessage loop txReady

/-- Of what waited and what came, a first part was read in order, with one pass for each delivery
in it that can be passed on. The others still wait. -/
def Conveyed (carries : Pass width size → Delivery width size → Prop)
    (keeps : Delivery width size → Bool) (waited came waiting : List (Delivery width size))
    (passes : List (Pass width size)) : Prop :=
  ∃ read, waited ++ came = read ++ waiting ∧ List.Forall₂ carries passes (read.filter keeps)

end Conveyed

def bluetoothSource (d : Delivery 1 1024) : Mem := d.peer.getD fun _ => 0

def canSource (d : Delivery 1 canFrameSize) : Mem := store (fun _ => 0) 2 (load d.mem 0 4)

def modbustcpSource (_ : Delivery 2 1) : Mem := modbusDeviceAddr

/-- What a message from RX makes a handler send. -/
def iotSend (sessions : IotProtoType → Bool) (m : Mem) : Option IotSend :=
  match backendProxyMsgProcess m with
  | some (.iot _ _ msgLen msg) =>
    match backendProxyIotMsgProcess sessions m msgLen msg with
    | .send s => some s
    | .accepted | .error => none
  | _ => none

def IsClient (sess : Option IotSession) : Prop :=
  sess.map (fun s => s.workingMode) = some .client

instance (sess : Option IotSession) : Decidable (IsClient sess) :=
  inferInstanceAs (Decidable (_ = _))

/-- What is to be written for a message. -/
def downlink (sessions : IotProtoType → Bool) (bluetoothClient : Bool) (m : Mem) (write : Bool) :
    List DeviceWrite :=
  match iotSend sessions m with
  | some s =>
    match s.addr with
    | .bluetooth _ => if bluetoothClient then [.bluetooth (load m s.data s.len)] else []
    | .can _ => (canSendToRemote write m s).written.map DeviceWrite.can
    | .modbustcp _ => []
  | none => []

/-- Whether the message is a read command to a session that keeps it. -/
def readCommand (sessions : IotProtoType → Bool) (modbustcpClient : Bool) (m : Mem) : Bool :=
  match iotSend sessions m with
  | some s =>
    match s.addr with
    | .modbustcp _ => modbustcpClient && decide (m s.data = iotModbusCmdReadReq)
    | .bluetooth _ | .can _ => false
  | none => false

/-- The register as a frontend may see it: a read command asks for it, and the next round in which
it can be read answers. -/
def registerStep (command : Mem → Bool) (readable : Bool) (wanted : Bool) :
    GatewayOp → Bool × Option (Delivery 2 1)
  | .message m _ => (wanted || command m, none)
  | .bluetoothSends _ | .canSends _ => (wanted, none)
  | .round r =>
    match wanted && readable, r.registers.deliveries with
    | true, d :: _ => (false, some d)
    | _, _ => (wanted, none)

def registerAnswers (command : Mem → Bool) (readable : Bool) :
    Bool → List GatewayOp → List (Delivery 2 1)
  | _, [] => []
  | wanted, op :: ops =>
    (registerStep command readable wanted op).2.toList ++
      registerAnswers command readable (registerStep command readable wanted op).1 ops

/-- The register can be read: the session is a client with a context. -/
def Readable (sess : IotSession) : Prop := sess.workingMode = .client ∧ sess.priData = true

instance (sess : IotSession) : Decidable (Readable sess) := inferInstanceAs (Decidable (_ ∧ _))

def Gateway.readable (g : Gateway) : Bool := g.modbustcpSess.any fun s => decide (Readable s)

def Gateway.wanted (g : Gateway) : Bool :=
  g.modbustcpSess.any fun s => decide (s.sessState = iotSessStatePending)

def Gateway.command (g : Gateway) (m : Mem) : Bool :=
  readCommand g.sessions (decide (IsClient g.modbustcpSess)) m

def Gateway.downlink (g : Gateway) : GatewayOp → List DeviceWrite
  | .message m write => Wire.downlink g.sessions (decide (IsClient g.bluetoothSess)) m write
  | _ => []

def GatewayOp.bluetooth? : GatewayOp → Option (Delivery 1 1024)
  | .bluetoothSends d => some d
  | _ => none

def GatewayOp.can? : GatewayOp → Option (Delivery 1 canFrameSize)
  | .canSends d => some d
  | _ => none

/-- Whether the other end of the socket can be told. -/
def hasPeer (d : Delivery 1 1024) : Bool := d.peer.isSome

/-- What a run has relayed. -/
structure Relayed (g : Gateway) (ops : List GatewayOp) (t : Gateway) : Prop where
  bluetooth : ∃ passes, t.bluetoothPasses = g.bluetoothPasses ++ passes ∧
    Conveyed (Pass.Carries bluetoothLoop g.txReady 0 bluetoothSource) hasPeer g.bluetoothWaiting
      (ops.filterMap GatewayOp.bluetooth?) t.bluetoothWaiting passes
  can : ∃ passes, t.canPasses = g.canPasses ++ passes ∧
    Conveyed (Pass.Carries canLoop g.txReady canDataOff canSource) (fun _ => true) g.canWaiting
      (ops.filterMap GatewayOp.can?) t.canWaiting passes
  register : ∃ passes, t.modbustcpPasses = g.modbustcpPasses ++ passes ∧
    List.Forall₂ (Pass.Carries modbustcpLoop g.txReady 0 modbustcpSource) passes
      (registerAnswers g.command g.readable g.wanted ops)
  written : t.written = g.written ++ ops.flatMap g.downlink

/-! The loops. -/

/-- What a loop receives until it stops, with session and device after it. -/
inductive Serves {width size : Nat} (recv : RecvFromRemote width size) :
    IotSession → IotSource width size → List (Receipt width size) →
      IotSession → IotSource width size → Prop where
  | stop {sess : IotSession} {source : IotSource width size}
    (h : ∀ receipt, (recv sess source).1 ≠ .ok receipt) :
    Serves recv sess source [] (recv sess source).2.1 (recv sess source).2.2
  | next {sess sess' sess'' : IotSession} {source source' source'' : IotSource width size}
    {receipt : Receipt width size} {receipts : List (Receipt width size)}
    (h : recv sess source = (.ok receipt, sess', source'))
    (rest : Serves recv sess' source' receipts sess'' source'') :
    Serves recv sess source (receipt :: receipts) sess'' source''

section Loops

variable {width size : Nat} {recv : RecvFromRemote width size} {loop : IotLoop} {txReady : Bool}
  {peers : Nat → TxQueue → TxQueue} {k fuel : Nat} {sess sess' : IotSession}
  {source source' : IotSource width size} {tx : TxQueue} {run : DriveRun width size}

end Loops

section Functions

variable {sess sess' : IotSession}

end Functions

/-! One round. -/

section Round

variable {g t : Gateway} {r : GatewayRound}

/-- The loops that take a delivery for each message end. -/
theorem serve_ends {width size : Nat} {recv : RecvFromRemote width size}
    {I : IotSession → Prop} (hrecv : ConsumesReads recv I) (loop : IotLoop) (txReady : Bool)
    (peers : Nat → TxQueue → TxQueue) (sess : IotSession) (hI : I sess)
    (source : IotSource width size) (tx : TxQueue) :
    ∃ out, loop.serve recv txReady peers sess source tx = .ok out := by
  have hreturns : ∃ run, loop.drive recv txReady peers (source.deliveries.length + 1) 0 sess source
      tx = some run := drive_returns hrecv 0 sess source tx hI
  obtain ⟨run, hrun⟩ := hreturns
  unfold IotLoop.serve
  rw [hrun]
  exact ⟨_, rfl⟩

end Round

end BackendProxy.Wire
