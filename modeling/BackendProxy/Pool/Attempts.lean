import BackendProxy.Pool.Outcomes
import BackendProxy.Pool.World
import Mathlib.Data.List.Find

namespace BackendProxy.Pool

open Lib Lib.Tailq Queue Wire

/-! Every way out of an active creation, with the message that goes out on TX, the sockets left open
and what is returned. The last section is about deletion, which has one way out. -/

/-- What an active creation checks on its way, in this order. -/
inductive Check where
  | memory
  | sessId
  | device
  | socket
  | connect
  | node
  | epoll
  | table
  | response
  deriving DecidableEq, Repr

/-- From the device to a connected socket: the device and the descriptor, or what is missing. -/
def openCheck (para : SessMsgPara) (env : CreateEnv) (e : Engine) : Except Check (UInt16 × Int) :=
  if e.devNum = 0 then .error .device
  else
    match selectDev para env with
    | none => .error .device
    | some d =>
      if (e.dev d.toNat).nsId = errorNamespaceId then .error .device
      else
        match createSocketNetns para env.socket with
        | none => .error .socket
        | some fd => if connectSocketNetns fd env.connect then .ok (d, fd) else .error .connect

/-- From the node to the response. -/
def bindCheck (d : Nat) (env : CreateEnv) (e : Engine) : Option Check :=
  if e.nodes.links.first (d, .free) = none then some .node
  else if env.epollAdd = false then some .epoll
  else if e.lookup (e.idQueue.headD 0) ≠ none then some .table
  else if env.response ≠ .ok then some .response
  else none

/-- The first check that fails, by the state before the call and the answers of the system. -/
def failingCheck (para : SessMsgPara) (env : CreateEnv) (e : Engine) : Option Check :=
  if env.malloc.isNone then some .memory
  else if e.idQueue.headD 0 = 0 then some .sessId
  else
    match openCheck para env e with
    | .error c => some c
    | .ok (d, _) => bindCheck d.toNat env e

/-- The contents of the notice of failure. -/
def Check.respDat (notice : Notice) : Check → SessOpRespData
  | .memory | .sessId | .socket | .node => World.resourceInsufficient
  | .device => World.deviceError
  -- from here on `status` is assigned twice
  | .connect => { notice.respDat with status := sessOpCodeNetworkUnreachable }
  | .epoll | .table => { notice.respDat with status := sessOpCodeResourceInsufficient }
  | .response => ⟨sessOpCodeResourceInsufficient, sessOpCodeSuccess⟩

def noticed (para : SessMsgPara) (put : ProcessStatus) (respDat : SessOpRespData) : List Posting :=
  if put = .ok then
    [⟨none, .response .create para.frontendSessId proxyHandoverSessionId para.ipVersion respDat⟩]
  else []

inductive CreateExit (para : SessMsgPara) (env : CreateEnv) (notice : Notice) (w : World) :
    ProcessStatus → World → Prop where
  | noMemory (check : failingCheck para env w.engine = some .memory) :
      CreateExit para env notice w .error
        { w with
          engine :=
            { w.engine with
              idQueue := if env.newSessId = 0 then w.engine.idQueue
                         else w.engine.idQueue ++ [env.newSessId] }
          tx := w.tx ++ noticed para notice.put (Check.memory.respDat notice) }
  | noId (check : failingCheck para env w.engine = some .sessId) :
      CreateExit para env notice w .error
        { w with
          engine :=
            { w.engine with
              heap := Function.update w.engine.heap w.engine.nextSess none
              nextSess := w.engine.nextSess + 1
              idQueue := w.engine.idQueue.tail }
          tx := w.tx ++ noticed para notice.put (Check.sessId.respDat notice) }
  | failed {c : Check} {id : UInt16} {rest : List UInt16} {N : NodePool} {fd : Int}
      (check : failingCheck para env w.engine = some c) (early : c ≠ .response)
      (started : c ≠ .memory ∧ c ≠ .sessId) (ids : w.engine.idQueue = id :: rest)
      (nodes : Recycled w.engine.nodes N) (socket : fd = errorSocketFd ∨ fd = env.socket) :
      CreateExit para env notice w .error
        { engine :=
            { w.engine with
              heap := Function.update w.engine.heap w.engine.nextSess none
              nextSess := w.engine.nextSess + 1
              idQueue := rest ++ [id]
              nodes := N
              epoll := if fd = errorSocketFd then w.engine.epoll
                       else w.engine.epoll.filter fun r => r.1 != fd }
          tx := w.tx ++ noticed para notice.put (c.respDat notice)
          sockets := shut fd w.sockets
          ended := w.ended }
  /-- The freed session stays in the table. -/
  | refused {id : UInt16} {rest : List UInt16} {N : NodePool} {fd : Int}
      (check : failingCheck para env w.engine = some .response)
      (ids : w.engine.idQueue = id :: rest) (nodes : Recycled w.engine.nodes N) :
      CreateExit para env notice w .error
        { engine :=
            { w.engine with
              heap := Function.update w.engine.heap w.engine.nextSess none
              nextSess := w.engine.nextSess + 1
              htable := w.engine.htable ++ [w.engine.nextSess]
              sessNum := w.engine.sessNum + 1
              idQueue := rest ++ [id]
              nodes := N
              epoll := if fd = errorSocketFd then w.engine.epoll
                       else w.engine.epoll.filter fun r => r.1 != fd }
          tx := w.tx ++ noticed para notice.put (Check.response.respDat notice)
          sockets := shut fd w.sockets
          ended := w.ended }
  | created {id : UInt16} {rest : List UInt16} {block : BackendSession} {n : NodePtr} {fd : Int}
      {N : NodePool} (check : failingCheck para env w.engine = none)
      (ids : w.engine.idQueue = id :: rest) (unused : w.engine.lookup id = none) :
      CreateExit para env notice w .ok
        { engine :=
            { w.engine with
              heap := Function.update w.engine.heap w.engine.nextSess
                (some (activeSession block w.engine.nextSess id fd para n))
              nextSess := w.engine.nextSess + 1
              htable := w.engine.htable ++ [w.engine.nextSess]
              sessNum := w.engine.sessNum + 1
              idQueue := rest
              nodes := N
              epoll := (fd, w.engine.nextSess) :: w.engine.epoll }
          tx := w.tx ++
            [⟨some w.engine.nextSess,
              .response .create para.frontendSessId id para.ipVersion
                ⟨sessOpStatusSuccess, sessOpCodeSuccess⟩⟩]
          sockets := fd :: w.sockets
          ended := w.ended }

/-! Steps of the world. -/

section Steps

variable {α : Type} {a : α} {u : Unit} {w w' : World} {p : Option SessPtr} {msg : TxMessage}
  {put : ProcessStatus} {fd : Int}

theorem within_ok {x : EngineM α} :
    within x w = .ok (a, w') ↔ ∃ e, x w.engine = .ok (a, e) ∧ { w with engine := e } = w' :=
  Prog.onPart_ok

theorem record_ok {msgs : List TxMessage} :
    record p msgs w = .ok (u, w') ↔ { w with tx := w.tx ++ msgs.map fun msg => ⟨p, msg⟩ } = w' :=
  Prog.modify_ok

theorem post_ok :
    post p msg put w = .ok (u, w') ↔
      { w with tx := w.tx ++ if put = .ok then [⟨p, msg⟩] else [] } = w' := by
  unfold post
  split
  · exact record_ok
  · rw [Prog.pure_ok, List.append_nil]
    exact and_iff_right rfl

theorem shutFd_ok : shutFd fd w = .ok (u, w') ↔ { w with sockets := shut fd w.sockets } = w' :=
  Prog.modify_ok

theorem noteEnd_ok {p : SessPtr} :
    noteEnd p w = .ok (u, w') ↔ { w with ended := w.ended ++ [(p, w.tx.length)] } = w' :=
  Prog.modify_ok

theorem openFd_ok :
    openFd fd w = .ok (u, w') ↔
      { w with sockets := if fd = errorSocketFd then w.sockets else fd :: w.sockets } = w' := by
  unfold openFd
  split
  · rw [Prog.pure_ok]
    exact and_iff_right rfl
  · exact Prog.modify_ok

/-- Closing a descriptor undoes its opening. -/
theorem shut_opened (fd : Int) (S : List Int) :
    shut fd (if fd = errorSocketFd then S else fd :: S) = shut fd S := by
  unfold shut
  split
  · rfl
  · simp

end Steps

section Walk

variable {w w' : World} {p : SessPtr} {s : BackendSession} {n : NodePtr} {d : Nat} {k : NodeQueue}
  {st : ProcessStatus} {newSessId : UInt16} {fd : Int} {para : SessMsgPara} {env : CreateEnv}
  {notice : Notice} {idMemory : Bool} {put : ProcessStatus} {respDat : SessOpRespData}

/-- The world `create_sess_error` leaves. -/
def World.abandon (w : World) (para : SessMsgPara) (put : ProcessStatus)
    (respDat : SessOpRespData) (p : SessPtr) (newSessId : UInt16) (fd : Int) : World :=
  { engine := w.engine.abandon p newSessId fd
    tx := w.tx ++ noticed para put respDat
    sockets := shut fd w.sockets
    ended := w.ended }

theorem createSessError_status {e e' : Engine}
    (h : createSessError p newSessId fd idMemory e = .ok (st, e')) : st = .error := by
  simp only [createSessError, Prog.bind_ok, Prog.pure_ok] at h
  obtain ⟨_, _, -, _, _, -, _, _, -, rfl, -⟩ := h
  rfl

theorem World.createSessError_ok
    (h : World.createSessError para p newSessId fd idMemory put respDat w = .ok (st, w')) :
    st = .error ∧ w' = w.abandon para put respDat p newSessId fd := by
  simp only [World.createSessError, Prog.bind_ok, post_ok, within_ok, shutFd_ok,
    Prog.pure_ok] at h
  obtain ⟨_, _, rfl, _, _, ⟨e, he, rfl⟩, _, _, rfl, rfl, rfl⟩ := h
  refine ⟨createSessError_status he, ?_⟩
  cases Pool.createSessError_ok he
  rfl

theorem World.recycleSessNode_ok
    (h : World.recycleSessNode para d n p newSessId fd idMemory put respDat w = .ok (st, w'))
    (hn : w.engine.nodes.sess n = some p) (hp : w.engine.heap p = some s)
    (hk : NodeQueue.ofProto s.protoType = some k) (hlink : isLinked s.sessDevLinkState = true) :
    st = .error ∧ ∃ L₁ L₂, w.engine.nodes.links.remove (d, k) n = some L₁ ∧
      L₁.insertTail (d, .free) n = some L₂ ∧
      w' = World.abandon
        { w with
          engine :=
            { w.engine with
              nodes := { links := L₂, sess := Function.update w.engine.nodes.sess n none } } }
        para put respDat p newSessId fd := by
  simp only [World.recycleSessNode, Prog.bind_ok, within_ok] at h
  obtain ⟨_, _, ⟨_, hr, rfl⟩, _, _, ⟨_, hd, rfl⟩, he⟩ := h
  obtain ⟨L₁, hL₁, rfl⟩ := removeSessionNode_ok hr hn hp hk hlink
  obtain ⟨L₂, hL₂, rfl⟩ := detachNode_ok hd (Function.update_self p _ w.engine.heap)
  obtain ⟨rfl, rfl⟩ := World.createSessError_ok he
  exact ⟨rfl, L₁, L₂, hL₁, hL₂, by simp [World.abandon, Engine.abandon]⟩

/-- The table does not lead to a session outside it, whatever its contents. -/
theorem lookup_update {e e' : Engine} (hout : p ∉ e.htable)
    (hheap : e'.heap = Function.update e.heap p (some s)) (htable : e'.htable = e.htable)
    (id : UInt16) : e'.lookup id = e.lookup id := by
  unfold Engine.lookup
  rw [htable]
  apply List.find?_congr
  intro q hq
  have hqp : q ≠ p := by
    intro he
    subst he
    exact hout hq
  rw [hheap, Function.update_of_ne hqp]

theorem World.publish_ok (h : World.publish para d n p newSessId fd env notice w = .ok (st, w'))
    (hn : w.engine.nodes.sess n = some p) (hp : w.engine.heap p = some s)
    (hk : NodeQueue.ofProto s.protoType = some k) (hlink : isLinked s.sessDevLinkState = true)
    (hstatus : s.netChannel.status = epollRegStatusUnregistered)
    (hfd : s.netChannel.sockFd = fd) (hopen : fd ≠ errorSocketFd) (hout : p ∉ w.engine.htable)
    {q : Option SessPtr} (hq : w.engine.lookup s.backendSessId = q) :
    (env.epollAdd = true ∧ q = none ∧ env.response = .ok ∧ st = .ok ∧
      w' = { w with
        engine :=
          { w.engine with
            heap := Function.update w.engine.heap p (some s.registered)
            htable := w.engine.htable ++ [p]
            sessNum := w.engine.sessNum + 1
            epoll := (fd, p) :: w.engine.epoll }
        tx := w.tx ++
          [⟨some p, .response .create s.frontendSessId s.backendSessId (UInt16.ofInt s.ipVersion)
            ⟨sessOpStatusSuccess, sessOpCodeSuccess⟩⟩] }) ∨
      (st = .error ∧ ∃ L₁ L₂ c, w.engine.nodes.links.remove (d, k) n = some L₁ ∧
        L₁.insertTail (d, .free) n = some L₂ ∧
        (env.epollAdd = false ∧ c = .epoll ∨
          env.epollAdd = true ∧ q ≠ none ∧ c = .table ∨
          env.epollAdd = true ∧ q = none ∧ env.response ≠ .ok ∧ c = .response) ∧
        w' = World.abandon
          { w with
            engine :=
              { w.engine with
                htable := if c = .response then w.engine.htable ++ [p] else w.engine.htable
                sessNum := if c = .response then w.engine.sessNum + 1 else w.engine.sessNum
                nodes := { links := L₂, sess := Function.update w.engine.nodes.sess n none } } }
          para notice.put (Check.respDat notice c) p newSessId fd) := by
  subst hfd hq
  simp only [World.publish, Prog.bind_ok, within_ok] at h
  obtain ⟨registered, _, ⟨_, hreg, rfl⟩, h⟩ := h
  obtain ⟨hst, rfl⟩ := registerEpoll_ok hreg hp hstatus
  have hheap := Function.update_self p (some s.registered) w.engine.heap
  split at h <;> rename_i hok
  · have hadd := hst.mp hok
    simp only [hadd, if_true, Prog.bind_ok, within_ok] at h
    obtain ⟨inserted, _, ⟨_, hins, rfl⟩, h⟩ := h
    obtain ⟨s', hs', hcase⟩ := insertSess_ok hins
    cases hheap.symm.trans hs'
    have hlookup : Engine.lookup
        { w.engine with
          heap := Function.update w.engine.heap p (some s.registered)
          epoll := (s.netChannel.sockFd, p) :: w.engine.epoll } s.backendSessId =
        w.engine.lookup s.backendSessId := by
      apply lookup_update hout
      · rfl
      · rfl
    rcases hcase with ⟨hnone, rfl, rfl⟩ | ⟨hsome, rfl, rfl⟩
    · have hnone : w.engine.lookup s.backendSessId = none := hlookup.symm.trans hnone
      simp only [if_true, Prog.bind_ok, within_ok, deref_ok, post_ok] at h
      obtain ⟨s', _, ⟨_, ⟨hs', rfl⟩, rfl⟩, _, _, rfl, h⟩ := h
      cases hheap.symm.trans hs'
      split at h <;> rename_i hresp
      · left
        obtain ⟨rfl, rfl⟩ := Prog.pure_ok.mp h
        refine ⟨hadd, hnone, hresp, rfl, ?_⟩
        simp [BackendSession.registered]
      · right
        obtain ⟨rfl, L₁, L₂, h₁, h₂, rfl⟩ := World.recycleSessNode_ok h hn hheap hk hlink
        refine ⟨rfl, L₁, L₂, .response, h₁, h₂, .inr (.inr ⟨hadd, hnone, hresp, rfl⟩), ?_⟩
        simp [World.abandon, Engine.abandon, hopen, Check.respDat]
    · have hsome : w.engine.lookup s.backendSessId ≠ none :=
        fun hnone => hsome (hlookup.trans hnone)
      simp only [reduceCtorEq, if_false, Prog.bind_ok, within_ok] at h
      obtain ⟨_, _, ⟨_, hun, rfl⟩, h⟩ := h
      obtain ⟨s', hs', -, rfl⟩ := unregisterEpoll_ok hun
      cases hheap.symm.trans hs'
      right
      obtain ⟨rfl, L₁, L₂, h₁, h₂, rfl⟩ :=
        World.recycleSessNode_ok h hn (Function.update_self p _ _) hk hlink
      refine ⟨rfl, L₁, L₂, .table, h₁, h₂, .inr (.inl ⟨hadd, hsome, rfl⟩), ?_⟩
      cases env.epollDel <;>
        simp [World.abandon, Engine.abandon, hopen, BackendSession.registered, Check.respDat]
  · have hctl : env.epollAdd = false := Bool.eq_false_iff.mpr fun hc => hok (hst.mpr hc)
    simp only [hctl] at h
    right
    obtain ⟨rfl, L₁, L₂, h₁, h₂, rfl⟩ := World.recycleSessNode_ok h hn hheap hk hlink
    refine ⟨rfl, L₁, L₂, .epoll, h₁, h₂, .inl ⟨hctl, rfl⟩, ?_⟩
    simp [World.abandon, Engine.abandon, Check.respDat]

theorem World.bindToDevice_ok
    (h : World.bindToDevice para d p newSessId fd env notice w = .ok (st, w'))
    (hp : w.engine.heap p = some s) (hid : s.backendSessId = newSessId)
    (hk : NodeQueue.ofProto s.protoType = some k)
    (hstatus : s.netChannel.status = epollRegStatusUnregistered)
    (hfd : s.netChannel.sockFd = fd) (hopen : fd ≠ errorSocketFd) (hout : p ∉ w.engine.htable)
    {q : Option SessPtr} (hq : w.engine.lookup newSessId = q) :
    (∃ N n, w.engine.nodes.links.first (d, .free) ≠ none ∧ env.epollAdd = true ∧
      q = none ∧ env.response = .ok ∧ st = .ok ∧
      w' = { w with
        engine :=
          { w.engine with
            nodes := N
            heap := Function.update w.engine.heap p (some (s.boundTo n))
            htable := w.engine.htable ++ [p]
            sessNum := w.engine.sessNum + 1
            epoll := (fd, p) :: w.engine.epoll }
        tx := w.tx ++
          [⟨some p, .response .create s.frontendSessId newSessId (UInt16.ofInt s.ipVersion)
            ⟨sessOpStatusSuccess, sessOpCodeSuccess⟩⟩] }) ∨
      (st = .error ∧ ∃ N c, Recycled w.engine.nodes N ∧
        (w.engine.nodes.links.first (d, .free) = none ∧ c = .node ∨
          w.engine.nodes.links.first (d, .free) ≠ none ∧
            (env.epollAdd = false ∧ c = .epoll ∨
              env.epollAdd = true ∧ q ≠ none ∧ c = .table ∨
              env.epollAdd = true ∧ q = none ∧ env.response ≠ .ok ∧ c = .response)) ∧
        w' = World.abandon
          { w with
            engine :=
              { w.engine with
                htable := if c = .response then w.engine.htable ++ [p] else w.engine.htable
                sessNum := if c = .response then w.engine.sessNum + 1 else w.engine.sessNum
                nodes := N } }
          para notice.put (Check.respDat notice c) p newSessId fd) := by
  subst hid hq
  simp only [World.bindToDevice, Prog.bind_ok, within_ok] at h
  obtain ⟨node, _, ⟨_, hpop, rfl⟩, h⟩ := h
  rcases popFree_ok hpop with ⟨rfl, hnone, rfl⟩ | ⟨n, L₁, rfl, hfirst, htake, rfl⟩
  · right
    obtain ⟨rfl, rfl⟩ := World.createSessError_ok h
    exact ⟨rfl, w.engine.nodes, .node, .untouched, .inl ⟨hnone, rfl⟩, rfl⟩
  have hsome : w.engine.nodes.links.first (d, .free) ≠ none := by simp [hfirst]
  simp only [attachNode, Prog.bind_ok, within_ok, deref_ok, setNodeSess_ok, store_ok] at h
  obtain ⟨_, _, ⟨_, ⟨s', _, ⟨hs', rfl⟩, _, _, rfl, rfl⟩, rfl⟩, inserted, _, ⟨_, hins, rfl⟩, h⟩ := h
  cases hp.symm.trans hs'
  rcases insertSessionNode_ok hins (Function.update_self n _ _) (Function.update_self p _ _)
    (isLinked_clear _) with ⟨hno, -⟩ | ⟨k', L₂, hk', rfl, hput, rfl⟩
  · cases hk.symm.trans hno
  cases hk.symm.trans hk'
  rw [if_pos rfl] at h
  have hproto := ofProto_ne_free hk
  have hq : ∀ N t, Engine.lookup
      { w.engine with nodes := N, heap := Function.update w.engine.heap p (some t) }
        s.backendSessId = w.engine.lookup s.backendSessId := by
    intro N t
    apply lookup_update hout
    · rfl
    · rfl
  rcases World.publish_ok (q := w.engine.lookup s.backendSessId) h (Function.update_self n _ _)
    (Function.update_self p _ _) hk (isLinked_set _) hstatus hfd hopen hout
    (by simpa using hq _ _) with
    ⟨hadd, hfree, hresp, rfl, rfl⟩ | ⟨rfl, L₃, L₄, c, hrem, hgive, hc, rfl⟩
  · left
    refine ⟨{ links := L₂, sess := Function.update w.engine.nodes.sess n (some p) }, n, hsome, hadd,
      hfree, hresp, rfl, ?_⟩
    simp [BackendSession.boundTo, BackendSession.registered]
  · right
    refine ⟨rfl, _, c, .withdrawn hfirst htake hproto hput hrem hgive, .inr ⟨hsome, hc⟩, ?_⟩
    simp [World.abandon, Engine.abandon]

theorem createSocketNetns_some {socket : Int} (h : createSocketNetns para socket = some fd) :
    fd = errorSocketFd ∨
      fd = socket ∧ ∃ k, NodeQueue.ofProto para.transProto.toNat = some k := by
  unfold createSocketNetns at h
  split at h
  · split at h <;> rename_i hproto
    · split at h
      · cases h
      · cases h
        right
        refine ⟨rfl, ?_⟩
        unfold NodeQueue.ofProto
        rcases hproto with ht | hu
        · rw [if_neg (by rw [ht]; decide), if_pos ht]
          exact ⟨_, rfl⟩
        · rw [if_pos hu]
          exact ⟨_, rfl⟩
    · split at h
      · cases h
        exact .inl rfl
      · cases h
  · cases h

theorem World.openSocket_ok {o : World.Opening}
    (h : World.openSocket para env notice w = .ok (o, w')) :
    (∃ c fd, openCheck para env w.engine = .error c ∧
      (c = .device ∨ c = .socket ∨ c = .connect) ∧ o = .failed fd (c.respDat notice) ∧
      (fd = errorSocketFd ∨ fd = env.socket) ∧
      w' = { w with sockets := if fd = errorSocketFd then w.sockets else fd :: w.sockets }) ∨
      ∃ d fd k, openCheck para env w.engine = .ok (d, fd) ∧ o = .opened d fd ∧
        fd ≠ errorSocketFd ∧ fd = env.socket ∧
        NodeQueue.ofProto para.transProto.toNat = some k ∧
        w' = { w with sockets := fd :: w.sockets } := by
  simp only [World.openSocket, Prog.bind_ok, Prog.get_ok] at h
  obtain ⟨_, _, ⟨rfl, rfl⟩, h⟩ := h
  unfold openCheck
  split at h <;> rename_i hdevs
  · obtain ⟨rfl, rfl⟩ := Prog.pure_ok.mp h
    exact .inl ⟨.device, errorSocketFd, if_pos hdevs, .inl rfl, rfl, .inl rfl, rfl⟩
  rw [if_neg hdevs]
  cases hsel : selectDev para env with
  | none =>
    simp only [hsel, Prog.pure_ok] at h
    obtain ⟨rfl, rfl⟩ := h
    exact .inl ⟨.device, errorSocketFd, rfl, .inl rfl, rfl, .inl rfl, rfl⟩
  | some d =>
    simp only [hsel, Prog.bind_ok, within_ok] at h
    obtain ⟨nsId, _, ⟨_, hns, rfl⟩, h⟩ := h
    obtain ⟨-, rfl, rfl⟩ := getNsId_ok hns
    split at h <;> rename_i herr
    · obtain ⟨rfl, rfl⟩ := Prog.pure_ok.mp h
      exact .inl ⟨.device, errorSocketFd, if_pos herr, .inl rfl, rfl, .inl rfl, rfl⟩
    simp only [herr, if_false]
    cases hsock : createSocketNetns para env.socket with
    | none =>
      simp only [hsock, Prog.pure_ok] at h
      obtain ⟨rfl, rfl⟩ := h
      exact .inl ⟨.socket, errorSocketFd, rfl, .inr (.inl rfl), rfl, .inl rfl, rfl⟩
    | some fd =>
      simp only [hsock, Prog.bind_ok, openFd_ok] at h
      obtain ⟨_, _, rfl, h⟩ := h
      have hfd := createSocketNetns_some hsock
      split at h <;> rename_i hconn <;> obtain ⟨rfl, rfl⟩ := Prog.pure_ok.mp h
      · right
        have hopen : fd ≠ errorSocketFd := by
          simp only [connectSocketNetns, Bool.and_eq_true, bne_iff_ne] at hconn
          exact hconn.2
        obtain ⟨hsocket, k, hk⟩ := hfd.resolve_left hopen
        exact ⟨d, fd, k, if_pos hconn, rfl, hopen, hsocket, hk, by simp [hopen]⟩
      · left
        refine ⟨.connect, fd, if_neg hconn, .inr (.inr rfl), rfl, ?_, rfl⟩
        exact hfd.imp id fun h => h.1

theorem failingCheck_noId {block : BackendSession} (hm : env.malloc = some block) {e : Engine}
    (hid : e.idQueue.headD 0 = 0) : failingCheck para env e = some .sessId := by
  unfold failingCheck
  rw [hm, if_neg (by simp), if_pos hid]

/-- Once memory and an ID are there. -/
theorem failingCheck_started (para : SessMsgPara) {block : BackendSession}
    (hm : env.malloc = some block) {e : Engine} (hid : e.idQueue.headD 0 ≠ 0) :
    failingCheck para env e =
      match openCheck para env e with
      | .error c => some c
      | .ok (d, _) => bindCheck d.toNat env e := by
  unfold failingCheck
  rw [hm, if_neg (by simp), if_neg hid]

theorem bindCheck_none {e : Engine} (hnode : e.nodes.links.first (d, .free) ≠ none)
    (hadd : env.epollAdd = true) (hfree : e.lookup (e.idQueue.headD 0) = none)
    (hresp : env.response = .ok) : bindCheck d env e = none := by
  unfold bindCheck
  rw [if_neg hnode, if_neg (by simp [hadd]), if_neg (not_not.mpr hfree), if_neg (not_not.mpr hresp)]

theorem bindCheck_some {e : Engine} {c : Check}
    (h : e.nodes.links.first (d, .free) = none ∧ c = .node ∨
      e.nodes.links.first (d, .free) ≠ none ∧
        (env.epollAdd = false ∧ c = .epoll ∨
          env.epollAdd = true ∧ e.lookup (e.idQueue.headD 0) ≠ none ∧ c = .table ∨
          env.epollAdd = true ∧ e.lookup (e.idQueue.headD 0) = none ∧ env.response ≠ .ok ∧
            c = .response)) :
    bindCheck d env e = some c ∧ c ≠ .memory ∧ c ≠ .sessId := by
  unfold bindCheck
  rcases h with ⟨hnode, rfl⟩ | ⟨hnode, ⟨hadd, rfl⟩ | ⟨hadd, hfree, rfl⟩ | ⟨hadd, hfree, hresp, rfl⟩⟩
  · exact ⟨if_pos hnode, by decide⟩
  · rw [if_neg hnode, if_pos hadd]
    exact ⟨rfl, by decide⟩
  · rw [if_neg hnode, if_neg (by simp [hadd]), if_pos hfree]
    exact ⟨rfl, by decide⟩
  · rw [if_neg hnode, if_neg (by simp [hadd]), if_neg (not_not.mpr hfree), if_pos hresp]
    exact ⟨rfl, by decide⟩

theorem ofInt_ipVersion (ipVersion : UInt16) : UInt16.ofInt ipVersion.toNat = ipVersion := by
  unfold UInt16.ofInt
  have hlt := ipVersion.toNat_lt
  rw [Int.emod_eq_of_lt (by omega) (by omega), Int.toNat_natCast, UInt16.ofNat_toNat]

theorem World.createActive_exit
    (h : World.highSpeedCreateSessActive para env notice w = .ok (st, w'))
    (hout : w.engine.nextSess ∉ w.engine.htable) : CreateExit para env notice w st w' := by
  unfold World.highSpeedCreateSessActive at h
  cases hm : env.malloc with
  | none =>
    simp only [hm, Prog.bind_ok, post_ok, within_ok, Prog.pure_ok] at h
    obtain ⟨_, _, rfl, _, _, ⟨_, hr, rfl⟩, rfl, rfl⟩ := h
    cases releaseIdIfSet_ok hr
    exact .noMemory (by simp [failingCheck, hm])
  | some block =>
    simp only [hm, Prog.bind_ok, within_ok, mallocSession_ok] at h
    obtain ⟨_, _, ⟨_, ⟨rfl, rfl⟩, rfl⟩, id, _, ⟨_, hid, rfl⟩, h⟩ := h
    obtain ⟨hhead, rfl⟩ := allocateId_ok hid
    dsimp only at hhead h
    split at h <;> rename_i hzero
    · obtain ⟨rfl, rfl⟩ := World.createSessError_ok h
      have : CreateExit para env notice w .error _ :=
        .noId (failingCheck_noId hm (hhead.symm.trans hzero))
      simpa [World.abandon, Engine.abandon, shut, Check.respDat] using this
    have hids : w.engine.idQueue = id :: w.engine.idQueue.tail :=
      hhead ▸ ids_of_head (hhead ▸ hzero)
    have hcheck := failingCheck_started para hm (hhead ▸ hzero)
    simp only [Prog.bind_ok] at h
    obtain ⟨opening, _, hopen, h⟩ := h
    rcases World.openSocket_ok hopen with
      ⟨c, fd, hc, hstage, rfl, hfd, rfl⟩ | ⟨d, fd, k, hc, rfl, hfd, hsocket, hk, rfl⟩
    · have hc : openCheck para env w.engine = .error c := hc
      rw [hc] at hcheck
      obtain ⟨rfl, rfl⟩ := World.createSessError_ok h
      have hnot : c ≠ .response ∧ c ≠ .memory ∧ c ≠ .sessId := by
        rcases hstage with rfl | rfl | rfl <;> decide
      have : CreateExit para env notice w .error _ :=
        .failed hcheck hnot.1 hnot.2 hids .untouched hfd
      simpa [World.abandon, Engine.abandon, hzero, shut_opened] using this
    · have hc : openCheck para env w.engine = .ok (d, fd) := hc
      rw [hc] at hcheck
      simp only [initActive, Prog.bind_ok, within_ok, deref_ok, store_ok] at h
      obtain ⟨_, _, ⟨_, ⟨block', _, ⟨hb, rfl⟩, rfl⟩, rfl⟩, h⟩ := h
      cases (Function.update_self w.engine.nextSess (some block) w.engine.heap).symm.trans hb
      have hq : ∀ ids t, Engine.lookup
          { w.engine with
            heap := Function.update w.engine.heap w.engine.nextSess (some t)
            nextSess := w.engine.nextSess + 1
            idQueue := ids } id = w.engine.lookup id := by
        intro ids t
        apply lookup_update hout
        · rfl
        · rfl
      have hid₀ : w.engine.idQueue.headD 0 = id := hhead.symm
      rcases World.bindToDevice_ok (q := w.engine.lookup id) h
        (Function.update_self w.engine.nextSess _ _) rfl hk rfl rfl hfd hout (by simpa using hq _ _)
        with ⟨N, n, hnode, hadd, hfree, hresp, rfl, rfl⟩ | ⟨rfl, N, c, hN, hwhy, rfl⟩
      · have hnone : failingCheck para env w.engine = none :=
          hcheck.trans (bindCheck_none hnode hadd (hid₀ ▸ hfree) hresp)
        have := @CreateExit.created para env notice w id _ block n fd N hnone hids hfree
        simpa [activeSession, BackendSession.boundTo, BackendSession.registered,
          ofInt_ipVersion] using this
      · obtain ⟨hsome, hnot⟩ := bindCheck_some (e := w.engine) (hid₀ ▸ hwhy)
        have hsome : failingCheck para env w.engine = some c := hcheck.trans hsome
        by_cases hresp : c = .response
        · subst hresp
          have := @CreateExit.refused para env notice w id _ N fd hsome hids hN
          simpa [World.abandon, Engine.abandon, hzero, hfd, shut] using this
        · have := @CreateExit.failed para env notice w c id _ N fd hsome hresp hnot hids hN
            (.inr hsocket)
          simpa [World.abandon, Engine.abandon, hzero, hfd, hresp, shut] using this

end Walk

/-! Deletion. -/

theorem World.delete_ok {w w' : World} {p : SessPtr} {st : ProcessStatus} {env : DeleteEnv}
    {notice : Notice} (h : World.highSpeedDeleteSess p env notice w = .ok (st, w')) :
    ∃ s e', w.engine.heap p = some s ∧ Pool.highSpeedDeleteSess p env w.engine = .ok (st, e') ∧
      w' =
        { engine := e'
          tx := w.tx ++ if notice.put = .ok then
            [⟨some p, .response .close s.frontendSessId proxyHandoverSessionId
              (UInt16.ofInt s.ipVersion) ⟨sessOpStatusSuccess, sessOpCodeSuccess⟩⟩] else []
          sockets := shut s.sockFd w.sockets
          ended := w.ended ++ [(p, w.tx.length)] } := by
  simp only [World.highSpeedDeleteSess, Prog.bind_ok, within_ok, deref_ok, shutFd_ok, noteEnd_ok,
    post_ok, Prog.pure_ok] at h
  obtain ⟨s, _, ⟨_, ⟨hs, rfl⟩, rfl⟩, st', _, ⟨e', hdel, rfl⟩, _, _, rfl, _, _, rfl, _, _, rfl,
    rfl, rfl⟩ := h
  exact ⟨s, e', hs, hdel, rfl⟩

end BackendProxy.Pool
