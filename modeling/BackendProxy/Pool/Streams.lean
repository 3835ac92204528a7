import BackendProxy.Pool.Sessions
import BackendProxy.Queue.Channel
import BackendProxy.Wire.Decode

namespace BackendProxy.Pool

open Lib Lib.Tailq Queue Wire

/-! The main loop: messages from RX, forwarding to the sockets, polling, forwarding to TX. -/

/-- A `send` fails, takes the whole buffer, or takes only its first `n` bytes, and never all. -/
inductive SendOutcome where
  | failed
  | whole
  | first (n : Nat)
  deriving DecidableEq, Repr

/-- The answers to `getsockopt` and to each `send`. -/
structure SendEnv where
  sndbuf : Option Int
  send : Nat → SendOutcome

/-- What one round of reading a socket meets: no memory for a segment, a failing `read`, or
some bytes. -/
inductive ReadOutcome where
  | noMemory
  | failed
  | got (bytes : List UInt8)

/-! Frontend to backend. -/

/-- What `send` returns for a buffer of length `len`, unless it fails. -/
def SendOutcome.ret (len : Nat) : SendOutcome → Option Nat
  | .failed => none
  | .whole => some len
  | .first n => some (min n (len - 1))

/-- The loop over the segments: the status, the segments left, and the bytes the kernel took. -/
def sendSegments (send : Nat → SendOutcome) :
    Nat → Int → List (List UInt8) → ProcessStatus × List (List UInt8) × List UInt8
  | _, _, [] => (.ok, [], [])
  | i, bufSize, seg :: segs =>
    if seg.length > 0 then
      if bufSize > seg.length then
        match (send i).ret seg.length with
        | none => (.error, seg :: segs, [])
        | some ret =>
          let (status, left, sent) := sendSegments send (i + 1) (bufSize - ret) segs
          -- the segment goes, however much of it was sent
          (status, left, seg.take ret ++ sent)
      else (.again, seg :: segs, [])
    else sendSegments send i bufSize segs

/-- A loop that ran to its end leaves no segment. -/
theorem sendSegments_ok {send : Nat → SendOutcome} {segs : List (List UInt8)} {i : Nat}
    {bufSize : Int} : (sendSegments send i bufSize segs).1 = .ok →
    (sendSegments send i bufSize segs).2.1 = [] := by
  induction segs generalizing i bufSize with
  | nil =>
    intro _
    rfl
  | cons seg segs ih =>
    simp only [sendSegments]
    split
    · split
      · split
        · intro h
          cases h
        · exact ih
      · intro h
        cases h
    · exact ih

/-- Store a session and note in its history what passed through it. -/
def storeNoting (p : SessPtr) (s : BackendSession) (f : SessHistory → SessHistory) :
    EngineM Unit :=
  modify fun e =>
    { e with
      heap := Function.update e.heap p (some s)
      history := Function.update e.history p (f (e.history p)) }

def highSpeedDataProcessF2b (p : SessPtr) (env : SendEnv) : EngineM ProcessStatus := do
  let s ← deref p
  match env.sndbuf with
  | none => pure .error
  | some bufSize => do
    let result := sendSegments env.send 0 bufSize (s.msg .f2b)
    storeNoting p (s.setMsg .f2b result.2.1) fun h => { h with sent := h.sent ++ result.2.2 }
    pure result.1

/-! Backend to frontend. -/

/-- The status of a put on TX, by the block size and whether the queue is full. -/
def txPutStatus (blockSize : Nat) (full : Bool) (data : List UInt8) : ProcessStatus :=
  if data.length > blockSize then .error
  else if data.length = 0 then .error
  else if full then .again
  else .ok

/-- The loop over the segments: the status, the segments left, and those put on TX. -/
def transmitSegments (blockSize : Nat) (full : Nat → Bool) :
    Nat → List (List UInt8) → ProcessStatus × List (List UInt8) × List (List UInt8)
  | _, [] => (.ok, [], [])
  | i, seg :: segs =>
    match txPutStatus blockSize (full i) seg with
    | .again => (.again, seg :: segs, [])
    | .ok =>
      let (status, left, sent) := transmitSegments blockSize full (i + 1) segs
      (status, left, seg :: sent)
    | .error => transmitSegments blockSize full (i + 1) segs

theorem transmitSegments_ok {blockSize : Nat} {full : Nat → Bool} {segs : List (List UInt8)}
    {i : Nat} : (transmitSegments blockSize full i segs).1 = .ok →
    (transmitSegments blockSize full i segs).2.1 = [] := by
  induction segs generalizing i with
  | nil =>
    intro _
    rfl
  | cons seg segs ih =>
    simp only [transmitSegments]
    split
    · intro h
      cases h
    · exact ih
    · exact ih

def highSpeedDataProcessB2f (p : SessPtr) (full : Nat → Bool) : EngineM ProcessStatus := do
  let s ← deref p
  let e ← get
  let result := transmitSegments e.blockSize full 0 (s.msg .b2f)
  storeNoting p (s.setMsg .b2f result.2.1) fun h =>
    { h with transmitted := h.transmitted ++
        result.2.2.map fun msg => ⟨s.frontendSessId, s.backendSessId, msg⟩ }
  pure result.1

/-- The loop over the bytes available: the status and the payloads read. A list of outcomes that
ends too early ends in want of memory. -/
def readSegments : Int → List ReadOutcome → ProcessStatus × List (List UInt8)
  | bytesAvailable, [] => if bytesAvailable > 0 then (.again, []) else (.ok, [])
  | bytesAvailable, outcome :: outcomes =>
    if bytesAvailable > 0 then
      match outcome with
      | .noMemory => (.again, [])
      | .failed => (.error, [])
      | .got bytes =>
        let payload := bytes.take proxyMsgMaxSize
        let (status, payloads) := readSegments (bytesAvailable - payload.length) outcomes
        (status, payload :: payloads)
    else (.ok, [])

/-- The DATA message a payload is put in. -/
def dataMessage (frontend backend : UInt16) (payload : List UInt8) : List UInt8 :=
  ProxyMsgHeader.bytes
    { version := 1, proxyMsgType := 3, frontendSessId := frontend, backendSessId := backend,
      payloadLen := UInt16.ofNat payload.length } ++ payload

/-- `bytesAvailable` is the answer to `SIOCINQ`. -/
def highSpeedDataProcessNns (p : SessPtr) (bytesAvailable : Option Int)
    (outcomes : List ReadOutcome) : EngineM ProcessStatus := do
  let s ← deref p
  match bytesAvailable with
  | none => pure .error
  | some n => do
    let result := readSegments n outcomes
    storeNoting p
      (s.setMsg .b2f (s.msg .b2f ++ result.2.map (dataMessage s.frontendSessId s.backendSessId)))
      fun h => { h with received := h.received ++ result.2 }
    -- only a loop that ran to its end links the session
    if result.1 = .ok then do
      linkToQueue p .b2f
      pure .ok
    else pure result.1

structure PollEvent where
  fd : Int
  sess : SessPtr
  errorOrHangup : Bool
  input : Bool
  bytesAvailable : Option Int
  outcomes : List ReadOutcome

def maxEvents : Nat := 10

def pollEvent (ev : PollEvent) : EngineM Unit := do
  let s ← deref ev.sess
  let p ← Prog.ofOption .undefined s.netChannel.sess
  if ev.errorOrHangup then pure ()
  else if ev.input && (s.netChannel.events &&& epollIn != 0) then do
    let _ ← highSpeedDataProcessNns p ev.bytesAvailable ev.outcomes
    pure ()
  else pure ()

def pollEvents : List PollEvent → EngineM Unit
  | [] => pure ()
  | ev :: evs => do
    pollEvent ev
    pollEvents evs

/-- `epoll_wait` reports registered descriptors only, and a bounded number of them. -/
def pollerRun (ready : List PollEvent) : EngineM Unit := do
  let e ← get
  pollEvents ((ready.filter fun ev => (ev.fd, ev.sess) ∈ e.epoll).take maxEvents)

/-! The active queues. -/

/-- What is done with a session once its data was processed. -/
def settle (d : Dir) (p : SessPtr) (status : ProcessStatus) (env : DeleteEnv) : EngineM Unit :=
  match status with
  | .ok => do
    removeFromQueue p d
    clearLinked p d
  | .error => do
    removeFromQueue p d
    let _ ← highSpeedDeleteSess p env
    pure ()
  | .again => pure ()

/-- `TAILQ_FOREACH_SAFE` over an active queue, from `cur` on. -/
def activeLoop (d : Dir) (process : SessPtr → EngineM ProcessStatus) (stopOnAgain : Bool)
    (env : SessPtr → DeleteEnv) : Nat → Option SessPtr → EngineM Unit
  | _, none => pure ()
  | 0, some _ => Prog.halt .endless
  | fuel + 1, some p => do
    let e ← get
    let next := (e.queue d).next p
    let status ← process p
    settle d p status (env p)
    if stopOnAgain && status == .again then pure ()
    else activeLoop d process stopOnAgain env fuel next

/-- A queue holds each session once, so it is no longer than the number of sessions ever made. -/
def activeRun (d : Dir) (process : SessPtr → EngineM ProcessStatus) (stopOnAgain : Bool)
    (env : SessPtr → DeleteEnv) : EngineM Unit := do
  let e ← get
  activeLoop d process stopOnAgain env e.nextSess ((e.queue d).first ())

def engineRunStep2 (send : SessPtr → SendEnv) (env : SessPtr → DeleteEnv) : EngineM Unit :=
  activeRun .f2b (fun p => highSpeedDataProcessF2b p (send p)) false env

def engineRunStep4 (full : SessPtr → Nat → Bool) (env : SessPtr → DeleteEnv) : EngineM Unit :=
  activeRun .b2f (fun p => highSpeedDataProcessB2f p (full p)) true env

/-! Messages from RX. -/

/-- `segment` tells whether there is memory for a message segment. -/
structure MsgEnv where
  create : CreateEnv
  delete : DeleteEnv
  segment : Bool
  epollCtl : Bool
  touchesFreed : Bool

def backendProxyDataMsgProcess (backend : UInt16) (payload : List UInt8) (env : MsgEnv) :
    EngineM ProcessStatus := do
  let found ← highSpeedSearchSess backend env.touchesFreed
  match found with
  | none => pure .error
  | some p =>
    if env.segment then do
      let s ← deref p
      storeNoting p (s.setMsg .f2b (s.msg .f2b ++ [payload])) fun h =>
        { h with accepted := h.accepted ++ [payload] }
      linkToQueue p .f2b
      pure .ok
    else pure .error

/-- The create parameters of both IP versions start with the device and the protocol. -/
def backendProxySessMsgProcessActiveCreate (frontend : UInt16) (hdr : SessMsgHeader) (m : Mem)
    (payload : Nat) (env : MsgEnv) : EngineM ProcessStatus :=
  if hdr.ipVersion = sessIpv4Proto ∧ hdr.payloadLen = 10 ∨
      hdr.ipVersion = sessIpv6Proto ∧ hdr.payloadLen = 22 then
    highSpeedCreateSessActive
      { frontendSessId := frontend, devId := u16At m payload, ipVersion := hdr.ipVersion,
        transProto := u16At m (payload + 2) } env.create
  else pure .error

def backendProxySessMsgProcessPassiveCreate (backend : UInt16) (env : MsgEnv) :
    EngineM ProcessStatus := do
  let found ← highSpeedSearchSess backend env.touchesFreed
  match found with
  | none => pure .error
  | some p => do
    let s ← deref p
    if s.establishMode ≠ sessEstablishPassive then pure .error
    else registerEpoll p env.epollCtl

/-- Device, strategy and IoT messages are handled outside the pool. -/
def handleDispatch (m : Mem) (env : MsgEnv) : Dispatch → EngineM ProcessStatus
  | .sess .close _ backend _ _ => searchAndDelete backend env.delete
  | .sess .activeCreate frontend _ hdr payload =>
    backendProxySessMsgProcessActiveCreate frontend hdr m payload env
  | .sess .passiveCreate _ backend _ _ => backendProxySessMsgProcessPassiveCreate backend env
  | .data _ backend dataLen payload =>
    backendProxyDataMsgProcess backend (load m payload dataLen.toNat) env
  | _ => pure .ok

def receiveMsg (m : Mem) (env : MsgEnv) : EngineM ProcessStatus :=
  match backendProxyMsgProcess m with
  | none => pure .error
  | some dispatch => handleDispatch m env dispatch

/-! Runs of the main loop: the steps in any order, with pool operations in between. -/

inductive MainOp where
  | pool (op : PoolOp)
  | msg (m : Mem) (env : MsgEnv)
  | step2 (send : SessPtr → SendEnv) (env : SessPtr → DeleteEnv)
  | poll (ready : List PollEvent)
  | step4 (full : SessPtr → Nat → Bool) (env : SessPtr → DeleteEnv)

def MainOp.perform : MainOp → EngineM Unit
  | .pool op => do
    let _ ← op.perform
    pure ()
  | .msg m env => do
    let _ ← receiveMsg m env
    pure ()
  | .step2 send env => engineRunStep2 send env
  | .poll ready => pollerRun ready
  | .step4 full env => engineRunStep4 full env

def mainStep (e : Engine) (op : MainOp) : Except Halt Engine :=
  match op.perform e with
  | .ok (_, e') => .ok e'
  | .error h => .error h

theorem mainStep_ok {e e' : Engine} {op : MainOp} (h : mainStep e op = .ok e') :
    op.perform e = .ok ((), e') := by
  unfold mainStep at h
  split at h <;> rename_i hp
  · cases h
    exact hp
  · cases h

theorem mainStep_error {e : Engine} {op : MainOp} {halt : Halt}
    (h : mainStep e op = .error halt) : op.perform e = .error halt := by
  unfold mainStep at h
  split at h <;> rename_i hp
  · cases h
  · cases h
    exact hp

/-- Every call succeeds. -/
def goodMsgEnv : MsgEnv :=
  { create := goodEnv, delete := ⟨true, false, true⟩, segment := true, epollCtl := true,
    touchesFreed := false }

/-- A DATA message for the session with ID 1, with zeros behind it. -/
def dataFor1 (payload : List UInt8) : Mem := Lib.store (fun _ => 0) 0 (dataMessage 7 1 payload)

/-- The status used here is that of the put on the queue in shared memory. -/
theorem txPutStatus_eq (tx : HyperampShmQueue) (region : DataRegion) (data : List UInt8) :
    (backendEngineHyperampTxQueuePut tx region data).1 =
      txPutStatus tx.blockSize.toNat (nextBySubtraction tx tx.header == tx.tail) data := by
  unfold backendEngineHyperampTxQueuePut txPutStatus
  split
  · rfl
  · rename_i hlen
    simp only [hyperampQueueEnqueue, hlen, if_false]
    by_cases h0 : data.length = 0
    · simp [h0, ofHyperamp]
    · by_cases hf : nextBySubtraction tx tx.header = tx.tail
      · simp [h0, hf, ofHyperamp]
      · simp [h0, hf, ofHyperamp]

end BackendProxy.Pool
