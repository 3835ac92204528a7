import BackendProxy.Pool.Streams
import BackendProxy.Wire.Build

namespace BackendProxy.Pool

open Lib Lib.Tailq Queue Wire

/-! The pool with what it shows the outside: the messages of its sessions on TX, and the sockets it
holds open. Each function here does to the engine what the one of the same name does, and puts its
messages on TX on the way. Messages about devices, strategies and IoT are not recorded. -/

structure SessOpRespData where
  status : UInt8
  code : UInt8
  deriving DecidableEq, Repr

def sessOpStatusSuccess : UInt8 := 0
def sessOpStatusFail : UInt8 := 1
def sessOpCodeSuccess : UInt8 := 0
def sessOpCodeDeviceError : UInt8 := 2
def sessOpCodeResourceInsufficient : UInt8 := 3
def sessOpCodeNetworkUnreachable : UInt8 := 4
def sessOpCodeMax : UInt8 := 5

inductive TxMessage where
  | response (msgType : SessMsgType) (frontendSessId backendSessId ipVersion : UInt16)
      (opResp : SessOpRespData)
  /-- The create command of a passive session. -/
  | command (backendSessId : UInt16)
  | data (transmission : Transmission)

/-- A message on TX, with the session it is about, if there is one. -/
structure Posting where
  sess : Option SessPtr
  msg : TxMessage

structure World where
  engine : Engine
  tx : List Posting
  sockets : List Int
  /-- The sessions deleted so far, each with the number of messages on TX by then. -/
  ended : List (SessPtr × Nat)

abbrev WorldM (α : Type) := Prog World Halt α

/-- How TX takes the last message about a session, and what `resp_dat` holds before its first
assignment. -/
structure Notice where
  put : ProcessStatus
  respDat : SessOpRespData

/-! The bytes of a response. -/

def sessMsgTypeCode : SessMsgType → UInt16
  | .close => 0
  | .create => 1

/-- `backend_proxy_generate_sess_msg_create_close_response` and its standalone form, which differ in
where the IDs come from. -/
def generateSessMsgCreateCloseResponse (queueReady : Bool) (enqueue : List UInt8 → HyperampStatus)
    (old : Mem) (msgType : SessMsgType) (frontend backend ipVersion : UInt16)
    (opResp : SessOpRespData) : BuildResult :=
  buildProxyGeneralMessage (.ampqueue queueReady enqueue) old
    { outerHeader :=
        { version := 1, proxyMsgType := 2, frontendSessId := frontend, backendSessId := backend,
          payloadLen := 12 }
      innerHeader :=
        { w0 := 1, w1 := sessMsgTypeCode msgType, w2 := 1, w3 := ipVersion, w4 := 2, w5 := 0 }
      addrInfo := fun _ => 0
      iotAddrLen := 0 }
    [opResp.status, opResp.code]

/-- The message is complete, and it is for TX alone to take it. -/
theorem response_built (enqueue : List UInt8 → HyperampStatus) (old : Mem) (msgType : SessMsgType)
    (frontend backend ipVersion : UInt16) (opResp : SessOpRespData) :
    ∃ msg, msg = ProxyMsgHeader.bytes
        { version := 1, proxyMsgType := 2, frontendSessId := frontend, backendSessId := backend,
          payloadLen := 12 } ++
        SessMsgHeader.bytes
          { version := 1, msgType := sessMsgTypeCode msgType, actionType := 1,
            ipVersion := ipVersion, payloadLen := 2 } ++ [opResp.status, opResp.code] ∧
      generateSessMsgCreateCloseResponse true enqueue old msgType frontend backend ipVersion
        opResp = { status := ofHyperamp (enqueue msg), message := msg } := by
  refine ⟨_, rfl, ?_⟩
  cases msgType with
  | close => rfl
  | create => rfl

/-! Steps of the world. -/

/-- An operation of the engine. -/
def within {α : Type} (x : EngineM α) : WorldM α :=
  Prog.onPart World.engine (fun w e => { w with engine := e }) x

def record (p : Option SessPtr) (msgs : List TxMessage) : WorldM Unit :=
  modify fun w => { w with tx := w.tx ++ msgs.map fun msg => ⟨p, msg⟩ }

/-- Put a message on TX, which answers with `put`. -/
def post (p : Option SessPtr) (msg : TxMessage) (put : ProcessStatus) : WorldM Unit :=
  if put = .ok then record p [msg] else pure ()

def openFd (fd : Int) : WorldM Unit :=
  if fd = errorSocketFd then pure () else modify fun w => { w with sockets := fd :: w.sockets }

def shut (fd : Int) (sockets : List Int) : List Int :=
  if fd = errorSocketFd then sockets else sockets.filter (· != fd)

def shutFd (fd : Int) : WorldM Unit := modify fun w => { w with sockets := shut fd w.sockets }

def noteEnd (p : SessPtr) : WorldM Unit :=
  modify fun w => { w with ended := w.ended ++ [(p, w.tx.length)] }

namespace World

/-! Creation. -/

inductive Opening where
  | opened (dev : UInt16) (fd : Int)
  | failed (fd : Int) (respDat : SessOpRespData)

def deviceError : SessOpRespData := ⟨sessOpStatusFail, sessOpCodeDeviceError⟩
def resourceInsufficient : SessOpRespData := ⟨sessOpStatusFail, sessOpCodeResourceInsufficient⟩

def openSocket (para : SessMsgPara) (env : CreateEnv) (notice : Notice) : WorldM Opening := do
  let w ← get
  if w.engine.devNum = 0 then pure (.failed errorSocketFd deviceError)
  else
    match selectDev para env with
    | none => pure (.failed errorSocketFd deviceError)
    | some d => do
      let nsId ← within (getNsId d)
      if nsId = errorNamespaceId then pure (.failed errorSocketFd deviceError)
      else
        match createSocketNetns para env.socket with
        | none => pure (.failed errorSocketFd resourceInsufficient)
        | some fd => do
          openFd fd
          if connectSocketNetns fd env.connect then pure (.opened d fd)
          -- both assignments go to `status`
          else pure (.failed fd { notice.respDat with status := sessOpCodeNetworkUnreachable })

/-- The label `create_sess_error`. -/
def createSessError (para : SessMsgPara) (p : SessPtr) (newSessId : UInt16) (fd : Int)
    (idMemory : Bool) (put : ProcessStatus) (respDat : SessOpRespData) :
    WorldM ProcessStatus := do
  post none
    (.response .create para.frontendSessId proxyHandoverSessionId para.ipVersion respDat) put
  let st ← within (Pool.createSessError p newSessId fd idMemory)
  shutFd fd
  pure st

/-- The label `recycle_sess_node`. -/
def recycleSessNode (para : SessMsgPara) (d : Nat) (n : NodePtr) (p : SessPtr)
    (newSessId : UInt16) (fd : Int) (idMemory : Bool) (put : ProcessStatus)
    (respDat : SessOpRespData) : WorldM ProcessStatus := do
  within (removeSessionNode d n)
  within (detachNode d p n)
  createSessError para p newSessId fd idMemory put respDat

/-- Register, insert and answer. -/
def publish (para : SessMsgPara) (d : Nat) (n : NodePtr) (p : SessPtr) (newSessId : UInt16)
    (fd : Int) (env : CreateEnv) (notice : Notice) : WorldM ProcessStatus := do
  let slip := { notice.respDat with status := sessOpCodeResourceInsufficient }
  let registered ← within (registerEpoll p env.epollAdd)
  if registered = .ok then do
    let inserted ← within (highSpeedInsertSess p env.touchesFreed env.tableMemory)
    if inserted = .ok then do
      let s ← within (deref p)
      post (some p)
        (.response .create s.frontendSessId s.backendSessId (UInt16.ofInt s.ipVersion)
          ⟨sessOpStatusSuccess, sessOpCodeSuccess⟩) env.response
      if env.response = .ok then pure .ok
      -- `code` still says success
      else
        recycleSessNode para d n p newSessId fd env.idMemory notice.put
          ⟨sessOpCodeResourceInsufficient, sessOpCodeSuccess⟩
    else do
      within (unregisterEpoll p env.epollDel)
      recycleSessNode para d n p newSessId fd env.idMemory notice.put slip
  else recycleSessNode para d n p newSessId fd env.idMemory notice.put slip

def bindToDevice (para : SessMsgPara) (d : Nat) (p : SessPtr) (newSessId : UInt16) (fd : Int)
    (env : CreateEnv) (notice : Notice) : WorldM ProcessStatus := do
  let node ← within (popFreeSessionNode d)
  match node with
  | none =>
    createSessError para p newSessId fd env.idMemory notice.put resourceInsufficient
  | some n => do
    within (attachNode p n)
    let inserted ← within (insertSessionNode d n)
    if inserted = .ok then publish para d n p newSessId fd env notice
    else do
      within (detachNode d p n)
      createSessError para p newSessId fd env.idMemory notice.put deviceError

def highSpeedCreateSessActive (para : SessMsgPara) (env : CreateEnv) (notice : Notice) :
    WorldM ProcessStatus :=
  match env.malloc with
  | none => do
    post none
      (.response .create para.frontendSessId proxyHandoverSessionId para.ipVersion
        resourceInsufficient) notice.put
    within (releaseIdIfSet env.newSessId env.idMemory)
    pure .error
  | some block => do
    let p ← within (mallocSession block)
    let newSessId ← within allocateId
    if newSessId = 0 then
      createSessError para p 0 errorSocketFd env.idMemory notice.put resourceInsufficient
    else do
      let opening ← openSocket para env notice
      match opening with
      | .failed fd respDat =>
        createSessError para p newSessId fd env.idMemory notice.put respDat
      | .opened d fd => do
        within (initActive p newSessId fd para)
        bindToDevice para d.toNat p newSessId fd env notice

/-- The call ends with the put of the create command, whose status it returns; every other way out
returns an error. -/
def highSpeedCreateSessPassive (para : PassiveSessParaIP) (env : PassiveEnv) :
    WorldM ProcessStatus := do
  let w ← get
  let st ← within (Pool.highSpeedCreateSessPassive para env)
  post (some w.engine.nextSess) (.command (w.engine.idQueue.headD 0)) st
  pure st

/-! Deletion. -/

/-- The response is made from what the session held; its sender puts the handover ID in the place
of the backend ID it is given. -/
def highSpeedDeleteSess (p : SessPtr) (env : DeleteEnv) (notice : Notice) :
    WorldM ProcessStatus := do
  let s ← within (deref p)
  let st ← within (Pool.highSpeedDeleteSess p env)
  shutFd s.sockFd
  noteEnd p
  post (some p)
    (.response .close s.frontendSessId proxyHandoverSessionId (UInt16.ofInt s.ipVersion)
      ⟨sessOpStatusSuccess, sessOpCodeSuccess⟩) notice.put
  pure st

def searchAndDelete (id : UInt16) (env : DeleteEnv) (notice : SessPtr → Notice) :
    WorldM ProcessStatus := do
  let found ← within (highSpeedSearchSess id env.touchesFreed)
  match found with
  | none => pure .error
  | some p => highSpeedDeleteSess p env (notice p)

/-! The main loop. -/

/-- What the history of the session notes as put on TX since. -/
def recordSent (p : SessPtr) (before : Nat) : WorldM Unit := do
  let w ← get
  record (some p) (((w.engine.history p).transmitted.drop before).map .data)

def highSpeedDataProcessB2f (p : SessPtr) (full : Nat → Bool) : WorldM ProcessStatus := do
  let w ← get
  let st ← within (Pool.highSpeedDataProcessB2f p full)
  recordSent p (w.engine.history p).transmitted.length
  pure st

def settle (d : Dir) (p : SessPtr) (status : ProcessStatus) (env : DeleteEnv) (notice : Notice) :
    WorldM Unit :=
  match status with
  | .ok => do
    within (removeFromQueue p d)
    within (clearLinked p d)
  | .error => do
    within (removeFromQueue p d)
    let _ ← highSpeedDeleteSess p env notice
    pure ()
  | .again => pure ()

def activeLoop (d : Dir) (process : SessPtr → WorldM ProcessStatus) (stopOnAgain : Bool)
    (env : SessPtr → DeleteEnv) (notice : SessPtr → Notice) :
    Nat → Option SessPtr → WorldM Unit
  | _, none => pure ()
  | 0, some _ => Prog.halt .endless
  | fuel + 1, some p => do
    let w ← get
    let next := (w.engine.queue d).next p
    let status ← process p
    settle d p status (env p) (notice p)
    if stopOnAgain && status == .again then pure ()
    else activeLoop d process stopOnAgain env notice fuel next

def activeRun (d : Dir) (process : SessPtr → WorldM ProcessStatus) (stopOnAgain : Bool)
    (env : SessPtr → DeleteEnv) (notice : SessPtr → Notice) : WorldM Unit := do
  let w ← get
  activeLoop d process stopOnAgain env notice w.engine.nextSess ((w.engine.queue d).first ())

def engineRunStep2 (send : SessPtr → SendEnv) (env : SessPtr → DeleteEnv)
    (notice : SessPtr → Notice) : WorldM Unit :=
  activeRun .f2b (fun p => within (highSpeedDataProcessF2b p (send p))) false env notice

def engineRunStep4 (full : SessPtr → Nat → Bool) (env : SessPtr → DeleteEnv)
    (notice : SessPtr → Notice) : WorldM Unit :=
  activeRun .b2f (fun p => highSpeedDataProcessB2f p (full p)) true env notice

def backendProxySessMsgProcessActiveCreate (frontend : UInt16) (hdr : SessMsgHeader) (m : Mem)
    (payload : Nat) (env : MsgEnv) (notice : SessPtr → Notice) : WorldM ProcessStatus :=
  if hdr.ipVersion = sessIpv4Proto ∧ hdr.payloadLen = 10 ∨
      hdr.ipVersion = sessIpv6Proto ∧ hdr.payloadLen = 22 then do
    let w ← get
    highSpeedCreateSessActive
      { frontendSessId := frontend, devId := u16At m payload, ipVersion := hdr.ipVersion,
        transProto := u16At m (payload + 2) } env.create (notice w.engine.nextSess)
  else pure .error

def handleDispatch (m : Mem) (env : MsgEnv) (notice : SessPtr → Notice) :
    Dispatch → WorldM ProcessStatus
  | .sess .close _ backend _ _ => searchAndDelete backend env.delete notice
  | .sess .activeCreate frontend _ hdr payload =>
    backendProxySessMsgProcessActiveCreate frontend hdr m payload env notice
  | dispatch => within (Pool.handleDispatch m env dispatch)

def receiveMsg (m : Mem) (env : MsgEnv) (notice : SessPtr → Notice) : WorldM ProcessStatus :=
  match backendProxyMsgProcess m with
  | none => pure .error
  | some dispatch => handleDispatch m env notice dispatch

end World

/-- An operation of the main loop, with the answers to the last messages about its sessions. A
creation asks for that of the session it makes. -/
structure WorldOp where
  op : MainOp
  notice : SessPtr → Notice

def WorldOp.perform (op : WorldOp) : WorldM Unit :=
  match op.op with
  | .pool (.createActive para env) => do
    let w ← get
    let _ ← World.highSpeedCreateSessActive para env (op.notice w.engine.nextSess)
    pure ()
  | .pool (.createPassive para env) => do
    let _ ← World.highSpeedCreateSessPassive para env
    pure ()
  | .pool (.delete id env) => do
    let _ ← World.searchAndDelete id env op.notice
    pure ()
  | .msg m env => do
    let _ ← World.receiveMsg m env op.notice
    pure ()
  | .step2 send env => World.engineRunStep2 send env op.notice
  | .poll ready => within (pollerRun ready)
  | .step4 full env => World.engineRunStep4 full env op.notice

def worldStep (w : World) (op : WorldOp) : Except Halt World :=
  match op.perform w with
  | .ok (_, w') => .ok w'
  | .error h => .error h

/-- Nothing is on TX, and no session has a socket or ended. -/
def World.init (devNum : Nat) (config : Nat → HighSpeedNetDevice) (blockSize : Nat) : World :=
  { engine := highSpeedInitPool devNum config blockSize, tx := [], sockets := [], ended := [] }

end BackendProxy.Pool
