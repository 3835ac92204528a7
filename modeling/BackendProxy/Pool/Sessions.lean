import BackendProxy.Pool.Engine
import BackendProxy.Wire.Message

namespace BackendProxy.Pool

open Lib Lib.Tailq Queue Wire

/-! Creation and deletion of sessions. The answers of the system to the calls made on the way are
parameters. Notices of failure and of closure go out on TX with their outcome ignored, and do not
touch the pool. -/

/-- The peer address is only handed to `connect`. -/
structure SessMsgPara where
  frontendSessId : UInt16
  devId : UInt16
  ipVersion : UInt16
  transProto : UInt16

structure PassiveSessParaIP where
  fd : Int
  devId : UInt16
  transProto : UInt16
  ipVersion : UInt16

/-- `malloc` is the old contents of the block for the session, `newSessId` what that variable
holds before its first assignment, `response` how the TX queue takes the create response.
`tableMemory` and `idMemory` tell whether `HASH_ADD` and `release_id` get what they ask for. -/
structure CreateEnv where
  malloc : Option BackendSession
  newSessId : UInt16
  chooseDev : Option UInt16
  socket : Int
  connect : Bool
  epollAdd : Bool
  epollDel : Bool
  touchesFreed : Bool
  tableMemory : Bool
  response : ProcessStatus
  idMemory : Bool

structure PassiveEnv where
  malloc : Option BackendSession
  newSessId : UInt16
  response : ProcessStatus
  idMemory : Bool

structure DeleteEnv where
  epollDel : Bool
  touchesFreed : Bool
  idMemory : Bool

/-- The device asked for, or the one the strategy selects. -/
def selectDev (para : SessMsgPara) (env : CreateEnv) : Option UInt16 :=
  if para.devId = devIdAutoHandover then env.chooseDev else some para.devId

/-- The new descriptor. The fast path reports success and leaves it unset. -/
def createSocketNetns (para : SessMsgPara) (socket : Int) : Option Int :=
  if para.ipVersion = sessIpv4Proto ∨ para.ipVersion = sessIpv6Proto then
    if para.transProto.toNat = sessTcpProto ∨ para.transProto.toNat = sessUdpProto then
      if socket = errorSocketFd then none else some socket
    else if para.transProto.toNat = sessFastpathProto then some errorSocketFd
    else none
  else none

def connectSocketNetns (fd : Int) (connect : Bool) : Bool := connect && fd != errorSocketFd

inductive Opening where
  | opened (dev : UInt16) (fd : Int)
  | failed (fd : Int)

/-- From the device to a connected socket. -/
def openSocket (para : SessMsgPara) (env : CreateEnv) : EngineM Opening := do
  let e ← get
  if e.devNum = 0 then pure (.failed errorSocketFd)
  else
    match selectDev para env with
    | none => pure (.failed errorSocketFd)
    | some d => do
      let nsId ← getNsId d
      if nsId = errorNamespaceId then pure (.failed errorSocketFd)
      else
        match createSocketNetns para env.socket with
        | none => pure (.failed errorSocketFd)
        | some fd =>
          if connectSocketNetns fd env.connect then pure (.opened d fd)
          else pure (.failed fd)

def releaseIdIfSet (newSessId : UInt16) (idMemory : Bool) : EngineM Unit :=
  if newSessId = 0 then pure () else releaseId newSessId idMemory

def closeIfOpen (fd : Int) : EngineM Unit :=
  if fd = errorSocketFd then pure () else closeFd fd

/-- The label `create_sess_error`. -/
def createSessError (p : SessPtr) (newSessId : UInt16) (fd : Int) (idMemory : Bool) :
    EngineM ProcessStatus := do
  freeSession p
  releaseIdIfSet newSessId idMemory
  closeIfOpen fd
  pure .error

def initActive (p : SessPtr) (newSessId : UInt16) (fd : Int) (para : SessMsgPara) :
    EngineM Unit := do
  let s ← deref p
  store p
    { s with
      netChannel :=
        { s.netChannel with
          sockFd := fd, arg := true, sess := some p, status := epollRegStatusUnregistered }
      frontendSessId := para.frontendSessId
      backendSessId := newSessId
      ipVersion := para.ipVersion.toNat
      sockFd := fd
      state := fun d => s.state d &&& backendSessLinkedToQueue
      establishMode := sessEstablishActive
      protoType := para.transProto.toNat
      msg := fun _ => [] }

def attachNode (p : SessPtr) (n : NodePtr) : EngineM Unit := do
  let s ← deref p
  setNodeSess n (some p)
  store p
    { s with
      sessDevLinkState := s.sessDevLinkState &&& ~~~backendSessLinkedToDevNode
      sessNode := some n }

def detachNode (d : Nat) (p : SessPtr) (n : NodePtr) : EngineM Unit := do
  setNodeSess n none
  let s ← deref p
  store p { s with sessNode := none }
  pushFreeSessionNode d n

/-- The label `recycle_sess_node`. -/
def recycleSessNode (d : Nat) (n : NodePtr) (p : SessPtr) (newSessId : UInt16) (fd : Int)
    (idMemory : Bool) : EngineM ProcessStatus := do
  removeSessionNode d n
  detachNode d p n
  createSessError p newSessId fd idMemory

/-- Register, insert and answer. -/
def publish (d : Nat) (n : NodePtr) (p : SessPtr) (newSessId : UInt16) (fd : Int)
    (env : CreateEnv) : EngineM ProcessStatus := do
  let registered ← registerEpoll p env.epollAdd
  if registered = .ok then do
    let inserted ← highSpeedInsertSess p env.touchesFreed env.tableMemory
    if inserted = .ok then
      if env.response = .ok then pure .ok
      -- the session stays in the table
      else recycleSessNode d n p newSessId fd env.idMemory
    else do
      unregisterEpoll p env.epollDel
      recycleSessNode d n p newSessId fd env.idMemory
  else recycleSessNode d n p newSessId fd env.idMemory

/-- Give the session a node of the device and make it known. -/
def bindToDevice (d : Nat) (p : SessPtr) (newSessId : UInt16) (fd : Int) (env : CreateEnv) :
    EngineM ProcessStatus := do
  let node ← popFreeSessionNode d
  match node with
  | none => createSessError p newSessId fd env.idMemory
  | some n => do
    attachNode p n
    let inserted ← insertSessionNode d n
    if inserted = .ok then publish d n p newSessId fd env
    else do
      detachNode d p n
      createSessError p newSessId fd env.idMemory

def highSpeedCreateSessActive (para : SessMsgPara) (env : CreateEnv) : EngineM ProcessStatus :=
  match env.malloc with
  | none => do
    -- no ID was allocated yet: the error path reads the variable as it is
    releaseIdIfSet env.newSessId env.idMemory
    pure .error
  | some block => do
    let p ← mallocSession block
    let newSessId ← allocateId
    if newSessId = 0 then createSessError p 0 errorSocketFd env.idMemory
    else do
      let opening ← openSocket para env
      match opening with
      | .failed fd => createSessError p newSessId fd env.idMemory
      | .opened d fd => do
        initActive p newSessId fd para
        bindToDevice d.toNat p newSessId fd env

/-- The label `create_sess_passive_error`, once the session is allocated. -/
def createSessPassiveError (d : Nat) (p : SessPtr) (node : Option NodePtr) (newSessId : UInt16)
    (idMemory : Bool) : EngineM ProcessStatus := do
  releaseIdIfSet newSessId idMemory
  match node with
  | none => do
    freeSession p
    pure .error
  | some n => do
    let s ← deref p
    if isLinked s.sessDevLinkState then removeSessionNode d n else pure ()
    detachNode d p n
    freeSession p
    pure .error

/-- The message queues, the frontend ID and the channel keep what the block held. -/
def initPassive (p : SessPtr) (newSessId : UInt16) (para : PassiveSessParaIP) :
    EngineM Unit := do
  let s ← deref p
  store p
    { s with
      backendSessId := newSessId
      devId := para.devId.toNat
      ipVersion := para.ipVersion.toNat
      sockFd := para.fd
      state := fun d => s.state d &&& backendSessLinkedToQueue
      establishMode := sessEstablishPassive
      protoType := para.transProto.toNat }

def highSpeedCreateSessPassive (para : PassiveSessParaIP) (env : PassiveEnv) :
    EngineM ProcessStatus :=
  if para.ipVersion ≠ sessIpv4Proto then pure .error
  else if para.devId.toNat ≥ maxHsDevNum then pure .error
  else
    match env.malloc with
    | none => do
      releaseIdIfSet env.newSessId env.idMemory
      pure .error
    | some block => do
      let p ← mallocSession block
      let newSessId ← allocateId
      if newSessId = 0 then createSessPassiveError para.devId.toNat p none 0 env.idMemory
      else do
        let node ← popFreeSessionNode para.devId.toNat
        match node with
        | none => createSessPassiveError para.devId.toNat p none newSessId env.idMemory
        | some n => do
          initPassive p newSessId para
          attachNode p n
          let inserted ← insertSessionNode para.devId.toNat n
          if inserted = .error then
            createSessPassiveError para.devId.toNat p (some n) newSessId env.idMemory
          -- the create command goes out; the session is not put into the table
          else pure env.response

/-- Give the node of a session that is deleted back to the device the session names. -/
def recycleNodeOf (p : SessPtr) : EngineM Unit := do
  let s ← deref p
  if s.devId < 0 ∨ s.devId ≥ maxHsDevNum then pure ()
  else if isLinked s.sessDevLinkState then do
    let n ← Prog.ofOption .undefined s.sessNode
    removeSessionNode s.devId.toNat n
    setNodeSess n none
    pushFreeSessionNode s.devId.toNat n
  else pure ()

def highSpeedDeleteSess (p : SessPtr) (env : DeleteEnv) : EngineM ProcessStatus := do
  unregisterEpoll p env.epollDel
  let s ← deref p
  closeFd s.sockFd
  hashDel p env.touchesFreed
  modify fun e => { e with sessNum := e.sessNum - 1 }
  unlinkFromQueue p .f2b
  unlinkFromQueue p .b2f
  let t ← deref p
  store p { t with msg := fun _ => [] }
  releaseId s.backendSessId env.idMemory
  recycleNodeOf p
  freeSession p
  pure .ok

/-! Runs of the pool. -/

/-- One device: `TAILQ_INIT` of its queues, then its nodes into the free queue. -/
def initDevice (links : Links (Nat × NodeQueue) NodePtr) (d : Nat) :
    Option (Links (Nat × NodeQueue) NodePtr) :=
  (List.range maxSessNodeNum).foldlM (fun links k => links.insertTail (d, .free) (d, k))
    (((links.init (d, .tcp)).init (d, .udp)).init (d, .free))

/-- The node queues `engine_init_hs_net_dev` sets up; the device set is zeroed first. -/
def engineInitHsNetDev (devNum : Nat) : Option (Links (Nat × NodeQueue) NodePtr) :=
  (List.range devNum).foldlM initDevice Links.zero

/-- The engine once the pool and `devNum` configured devices are initialised. -/
def highSpeedInitPool (devNum : Nat) (config : Nat → HighSpeedNetDevice) (blockSize : Nat) :
    Engine :=
  { heap := fun _ => none
    nextSess := 0
    htable := []
    sessNum := 0
    idQueue := fillIdQueue
    queue := fun _ => Links.zero.init ()
    nodes := { links := (engineInitHsNetDev devNum).getD Links.zero, sess := fun _ => none }
    devNum
    dev := fun d => if d < devNum then config d else { active := false, nsId := 0 }
    epoll := []
    blockSize
    history := fun _ => .blank }

inductive PoolOp where
  | createActive (para : SessMsgPara) (env : CreateEnv)
  | createPassive (para : PassiveSessParaIP) (env : PassiveEnv)
  | delete (id : UInt16) (env : DeleteEnv)

/-- A deletion is of a session that was searched for. -/
def searchAndDelete (id : UInt16) (env : DeleteEnv) : EngineM ProcessStatus := do
  let found ← highSpeedSearchSess id env.touchesFreed
  match found with
  | none => pure .error
  | some p => highSpeedDeleteSess p env

def PoolOp.perform : PoolOp → EngineM ProcessStatus
  | .createActive para env => highSpeedCreateSessActive para env
  | .createPassive para env => highSpeedCreateSessPassive para env
  | .delete id env => searchAndDelete id env

/-- The state an operation leaves. -/
def poolStep (e : Engine) (op : PoolOp) : Except Halt Engine :=
  match op.perform e with
  | .ok (_, e') => .ok e'
  | .error h => .error h

theorem poolStep_ok {e e' : Engine} {op : PoolOp} (h : poolStep e op = .ok e') :
    ∃ st, op.perform e = .ok (st, e') := by
  unfold poolStep at h
  split at h <;> rename_i hp
  · cases h
    exact ⟨_, hp⟩
  · cases h

/-- A block of zeros. -/
def zeroSession : BackendSession :=
  { protoType := 0, devId := 0, establishMode := 0, sockFd := 0, ipVersion := 0,
    frontendSessId := 0, backendSessId := 0, state := fun _ => 0, sessDevLinkState := 0,
    msg := fun _ => [], sessNode := none,
    netChannel := { sockFd := 0, arg := false, sess := none, status := 0, events := 0 } }

/-- Every call succeeds. -/
def goodEnv : CreateEnv :=
  { malloc := some zeroSession, newSessId := 0, chooseDev := some 0, socket := 5, connect := true,
    epollAdd := true, epollDel := true, touchesFreed := false, tableMemory := true, response := .ok,
    idMemory := true }

end BackendProxy.Pool
