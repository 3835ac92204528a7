import BackendProxy.Lib.Prog
import BackendProxy.Lib.Tailq
import BackendProxy.Queue.ShmQueue
import Mathlib.Logic.Function.Basic

namespace BackendProxy.Pool

open Lib Lib.Tailq Queue

/-! The session pool, the network devices and the poller of the engine, with the helpers and
macros that work on them. -/

/-- How the process can end: a call of `exit`, a failed `assert`, an access without meaning in C
(through a pointer that is NULL, was never set, or leads to freed memory), or a loop that never
ends. -/
inductive Halt where
  | exit
  | abort
  | undefined
  | endless
  deriving DecidableEq, Repr

/-- An allocated session. Addresses are never used twice. -/
abbrev SessPtr := Nat

/-- The `k`-th node allocated for a device. -/
abbrev NodePtr := Nat × Nat

inductive Dir where
  | f2b
  | b2f
  deriving DecidableEq, Repr

/-- The three session node queues of a device. -/
inductive NodeQueue where
  | free
  | udp
  | tcp
  deriving DecidableEq, Repr

def maxHsDevNum : Nat := 16
def maxSessNodeNum : Nat := 10
def devIdAutoHandover : UInt16 := 0xFF
def errorNamespaceId : Int := -1
def errorSocketFd : Int := -1
def sessUdpProto : Int := 0
def sessTcpProto : Int := 1
def sessFastpathProto : Int := 2
def sessEstablishPassive : Int := 0
def sessEstablishActive : Int := 1
def epollRegStatusUnregistered : Int := 0
def epollRegStatusRegistered : Int := 1
def epollIn : UInt32 := 1
def backendSessLinkedToQueue : UInt8 := 1
def backendSessLinkedToDevNode : UInt8 := 1

/-- `arg` tells whether the pointer to the poller is set. -/
structure NetChannel where
  sockFd : Int
  arg : Bool
  sess : Option SessPtr
  status : Int
  events : UInt32

/-- `state` and `msg` are the pairs `state_f2b`/`state_b2f` and `msg_f2b`/`msg_b2f`. -/
structure BackendSession where
  protoType : Int
  devId : Int
  establishMode : Int
  sockFd : Int
  ipVersion : Int
  frontendSessId : UInt16
  backendSessId : UInt16
  state : Dir → UInt8
  sessDevLinkState : UInt8
  msg : Dir → List (List UInt8)
  sessNode : Option NodePtr
  netChannel : NetChannel

structure HighSpeedNetDevice where
  active : Bool
  nsId : Int

/-- One DATA message put on TX, with the IDs of the session it was put for. -/
structure Transmission where
  frontendSessId : UInt16
  backendSessId : UInt16
  message : List UInt8

/-- What passed through a session so far: payloads accepted from RX, bytes the kernel took, what
each read of the socket gave, messages put on TX. -/
structure SessHistory where
  accepted : List (List UInt8)
  sent : List UInt8
  received : List (List UInt8)
  transmitted : List Transmission

def SessHistory.blank : SessHistory :=
  { accepted := [], sent := [], received := [], transmitted := [] }

structure NodePool where
  links : Links (Nat × NodeQueue) NodePtr
  sess : NodePtr → Option SessPtr

structure Engine where
  heap : SessPtr → Option BackendSession
  nextSess : SessPtr
  htable : List SessPtr
  sessNum : Int
  idQueue : List UInt16
  queue : Dir → Links Unit SessPtr
  nodes : NodePool
  devNum : Nat
  dev : Nat → HighSpeedNetDevice
  epoll : List (Int × SessPtr)
  blockSize : Nat
  history : SessPtr → SessHistory

abbrev EngineM (α : Type) := Prog Engine Halt α

/-- A flag bit of a session. -/
def isLinked (flags : UInt8) : Bool := flags &&& backendSessLinkedToQueue != 0

def BackendSession.setState (s : BackendSession) (d : Dir) (flags : UInt8) : BackendSession :=
  { s with state := Function.update s.state d flags }

def BackendSession.setMsg (s : BackendSession) (d : Dir) (segs : List (List UInt8)) :
    BackendSession :=
  { s with msg := Function.update s.msg d segs }

@[simp] theorem BackendSession.setMsg_msg (s : BackendSession) (d : Dir)
    (segs : List (List UInt8)) : (s.setMsg d segs).msg d = segs := Function.update_self _ _ _

/-! Memory. -/

def deref (p : SessPtr) : EngineM BackendSession := do
  let e ← get
  Prog.ofOption .undefined (e.heap p)

def store (p : SessPtr) (s : BackendSession) : EngineM Unit :=
  modify fun e => { e with heap := Function.update e.heap p (some s) }

/-- A new session; `block` is what the memory held before. -/
def mallocSession (block : BackendSession) : EngineM SessPtr := do
  let e ← get
  modify fun e =>
    { e with heap := Function.update e.heap e.nextSess (some block), nextSess := e.nextSess + 1 }
  pure e.nextSess

def freeSession (p : SessPtr) : EngineM Unit :=
  modify fun e => { e with heap := Function.update e.heap p none }

/-! Session IDs. -/

def fillIdQueue : List UInt16 := (List.range' 1 1024).map UInt16.ofNat

def allocateId : EngineM UInt16 := do
  let e ← get
  match e.idQueue with
  | [] => pure 0
  | id :: rest => do
    modify fun e => { e with idQueue := rest }
    pure id

/-- `memory` tells whether `malloc` returned a block. -/
def releaseId (id : UInt16) (memory : Bool) : EngineM Unit :=
  if memory then modify fun e => { e with idQueue := e.idQueue ++ [id] }
  else Prog.halt .exit

/-! The hash table. A session that was freed but not taken out stays in it; `touchesFreed` tells
whether walking the table runs into one. -/

def Engine.dangling (e : Engine) : Bool := e.htable.any fun p => (e.heap p).isNone

def Engine.lookup (e : Engine) (id : UInt16) : Option SessPtr :=
  e.htable.find? fun p => (e.heap p).any fun s => s.backendSessId == id

def walkTable (touchesFreed : Bool) : EngineM Unit := do
  let e ← get
  if touchesFreed && e.dangling then Prog.halt .undefined else pure ()

def highSpeedSearchSess (id : UInt16) (touchesFreed : Bool) : EngineM (Option SessPtr) := do
  walkTable touchesFreed
  let e ← get
  pure (e.lookup id)

/-- `memory` tells whether `HASH_ADD` got the memory it asked for, if any. -/
def highSpeedInsertSess (p : SessPtr) (touchesFreed memory : Bool) : EngineM ProcessStatus := do
  let s ← deref p
  let found ← highSpeedSearchSess s.backendSessId touchesFreed
  match found with
  | none =>
    if memory then do
      modify fun e => { e with htable := e.htable ++ [p], sessNum := e.sessNum + 1 }
      pure .ok
    else Prog.halt .exit
  | some _ => pure .error

/-- `HASH_DEL`, which has no meaning for a session outside the table. -/
def hashDel (p : SessPtr) (touchesFreed : Bool) : EngineM Unit := do
  walkTable touchesFreed
  let e ← get
  if p ∈ e.htable then modify fun e => { e with htable := e.htable.erase p }
  else Prog.halt .undefined

/-! The active queues. -/

/-- `BACKEND_SESS_LINK_TO_QUEUE` -/
def linkToQueue (p : SessPtr) (d : Dir) : EngineM Unit := do
  let s ← deref p
  if isLinked (s.state d) then pure ()
  else do
    store p (s.setState d (s.state d ||| backendSessLinkedToQueue))
    let e ← get
    let links ← Prog.ofOption .undefined ((e.queue d).insertTail () p)
    modify fun e => { e with queue := Function.update e.queue d links }

/-- `TAILQ_REMOVE` on an active queue. -/
def removeFromQueue (p : SessPtr) (d : Dir) : EngineM Unit := do
  let e ← get
  let links ← Prog.ofOption .undefined ((e.queue d).remove () p)
  modify fun e => { e with queue := Function.update e.queue d links }

def clearLinked (p : SessPtr) (d : Dir) : EngineM Unit := do
  let s ← deref p
  store p (s.setState d (s.state d &&& ~~~backendSessLinkedToQueue))

/-- `BACKEND_SESS_UNLINK_FROM_QUEUE` -/
def unlinkFromQueue (p : SessPtr) (d : Dir) : EngineM Unit := do
  let s ← deref p
  if isLinked (s.state d) then do
    removeFromQueue p d
    clearLinked p d
  else pure ()

/-! Session nodes. -/

def NodeQueue.ofProto (protoType : Int) : Option NodeQueue :=
  if protoType = sessUdpProto then some .udp
  else if protoType = sessTcpProto then some .tcp
  else none

def setNodeSess (n : NodePtr) (sess : Option SessPtr) : EngineM Unit :=
  modify fun e => { e with nodes := { e.nodes with sess := Function.update e.nodes.sess n sess } }

def insertNode (d : Nat) (k : NodeQueue) (n : NodePtr) : EngineM Unit := do
  let e ← get
  let links ← Prog.ofOption .undefined (e.nodes.links.insertTail (d, k) n)
  modify fun e => { e with nodes := { e.nodes with links } }

def removeNode (d : Nat) (k : NodeQueue) (n : NodePtr) : EngineM Unit := do
  let e ← get
  let links ← Prog.ofOption .undefined (e.nodes.links.remove (d, k) n)
  modify fun e => { e with nodes := { e.nodes with links } }

/-- `HIGH_SPEED_NET_DEV_POP_FREE_SESSION_NODE` -/
def popFreeSessionNode (d : Nat) : EngineM (Option NodePtr) := do
  let e ← get
  match e.nodes.links.first (d, .free) with
  | none => pure none
  | some n => do
    removeNode d .free n
    pure (some n)

/-- `HIGH_SPEED_NET_DEV_PUSH_FREE_SESSION_NODE` -/
def pushFreeSessionNode (d : Nat) (n : NodePtr) : EngineM Unit := insertNode d .free n

/-- `HIGH_SPEED_NET_DEV_INSERT_SESSION_NODE`, with the protocol of the node's session. -/
def insertSessionNode (d : Nat) (n : NodePtr) : EngineM ProcessStatus := do
  let e ← get
  match e.nodes.sess n with
  | none => pure .error
  | some p => do
    let s ← deref p
    match NodeQueue.ofProto s.protoType with
    | none => pure .error
    | some k =>
      if isLinked s.sessDevLinkState then pure .ok
      else do
        insertNode d k n
        store p { s with sessDevLinkState := s.sessDevLinkState ||| backendSessLinkedToDevNode }
        pure .ok

/-- `HIGH_SPEED_NET_DEV_REMOVE_SESSION_NODE`, with the protocol of the node's session. -/
def removeSessionNode (d : Nat) (n : NodePtr) : EngineM Unit := do
  let e ← get
  match e.nodes.sess n with
  | none => pure ()
  | some p => do
    let s ← deref p
    match NodeQueue.ofProto s.protoType with
    | none => pure ()
    | some k =>
      if isLinked s.sessDevLinkState then do
        removeNode d k n
        store p
          { s with sessDevLinkState := s.sessDevLinkState &&& ~~~backendSessLinkedToDevNode }
      else pure ()

/-- `GET_NS_ID` -/
def getNsId (devId : UInt16) : EngineM Int := do
  let e ← get
  if devId.toNat < maxHsDevNum ∧ (e.dev devId.toNat).active = true then
    pure (e.dev devId.toNat).nsId
  else Prog.halt .abort

/-! The poller. `epoll` holds the registered descriptors, each with the session whose channel
the events point to; closing a descriptor ends its registration. -/

def endRegistration (fd : Int) : EngineM Unit :=
  modify fun e => { e with epoll := e.epoll.filter fun r => r.1 != fd }

def closeFd (fd : Int) : EngineM Unit := endRegistration fd

/-- Follow `net_channel.arg` to the poller. -/
def derefPoller (ch : NetChannel) : EngineM Unit :=
  if ch.arg then pure () else Prog.halt .undefined

/-- `BACKEND_SESS_REGISTER_EPOLL` for `EPOLLIN`; `epollCtl` tells whether the call succeeds. -/
def registerEpoll (p : SessPtr) (epollCtl : Bool) : EngineM ProcessStatus := do
  let s ← deref p
  let ch := { s.netChannel with events := epollIn }
  if ch.status = epollRegStatusUnregistered then do
    store p { s with netChannel := { ch with status := epollRegStatusRegistered } }
    derefPoller ch
    if epollCtl then do
      modify fun e => { e with epoll := (ch.sockFd, p) :: e.epoll }
      pure .ok
    else pure .error
  else if ch.status = epollRegStatusRegistered then do
    store p { s with netChannel := ch }
    derefPoller ch
    if epollCtl then do
      modify fun e =>
        { e with epoll := e.epoll.map fun r => if r.1 = ch.sockFd then (ch.sockFd, p) else r }
      pure .ok
    else pure .error
  else do
    store p { s with netChannel := ch }
    pure .error

/-- `BACKEND_SESS_UNREGISTER_EPOLL` -/
def unregisterEpoll (p : SessPtr) (epollCtl : Bool) : EngineM Unit := do
  let s ← deref p
  derefPoller s.netChannel
  store p { s with netChannel := { s.netChannel with status := epollRegStatusUnregistered } }
  if epollCtl then endRegistration s.netChannel.sockFd else pure ()

/-! The flag bit. -/

@[simp] theorem isLinked_set (flags : UInt8) :
    isLinked (flags ||| backendSessLinkedToQueue) = true := by
  have h : (flags ||| 1) &&& 1 = 1 := by
    apply UInt8.toBitVec_inj.mp
    ext i
    simp only [UInt8.toBitVec_and, UInt8.toBitVec_or, BitVec.getElem_and, BitVec.getElem_or]
    cases flags.toBitVec[i] <;> simp
  simp [isLinked, backendSessLinkedToQueue, h]

@[simp] theorem isLinked_clear (flags : UInt8) :
    isLinked (flags &&& ~~~backendSessLinkedToQueue) = false := by
  simp [isLinked, backendSessLinkedToQueue, UInt8.and_assoc]

/-- Masking with the bit itself keeps it. -/
@[simp] theorem isLinked_keep (flags : UInt8) :
    isLinked (flags &&& backendSessLinkedToQueue) = isLinked flags := by
  simp [isLinked, backendSessLinkedToQueue, UInt8.and_assoc]

end BackendProxy.Pool
