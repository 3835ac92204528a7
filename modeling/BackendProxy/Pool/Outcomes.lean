import BackendProxy.Pool.Effects

namespace BackendProxy.Pool

open Lib Lib.Tailq Queue Wire

/-! All a creation or a deletion can do to the engine. -/

/-- A failed attempt leaves the nodes alone, or takes one from the free queue and gives it back,
possibly by way of a protocol queue. -/
inductive Recycled (N : NodePool) : NodePool → Prop where
  | untouched : Recycled N N
  | returned {d : Nat} {n : NodePtr} {L₁ L₂ : Links (Nat × NodeQueue) NodePtr}
      (first : N.links.first (d, .free) = some n)
      (take : N.links.remove (d, .free) n = some L₁)
      (give : L₁.insertTail (d, .free) n = some L₂) :
      Recycled N { links := L₂, sess := Function.update N.sess n none }
  | withdrawn {d : Nat} {k : NodeQueue} {n : NodePtr}
      {L₁ L₂ L₃ L₄ : Links (Nat × NodeQueue) NodePtr}
      (first : N.links.first (d, .free) = some n)
      (take : N.links.remove (d, .free) n = some L₁)
      (proto : k ≠ .free)
      (insert : L₁.insertTail (d, k) n = some L₂)
      (remove : L₂.remove (d, k) n = some L₃)
      (give : L₃.insertTail (d, .free) n = some L₄) :
      Recycled N { links := L₄, sess := Function.update N.sess n none }

/-- A node goes from the free queue of a device to the queue of a protocol, for a session. -/
structure Bound (N : NodePool) (d : Nat) (k : NodeQueue) (n : NodePtr) (p : SessPtr)
    (N' : NodePool) : Prop where
  first : N.links.first (d, .free) = some n
  proto : k ≠ .free
  moved : ∃ L, N.links.remove (d, .free) n = some L ∧
    L.insertTail (d, k) n = some N'.links
  sess : N'.sess = Function.update N.sess n (some p)

/-- The contents of a session after an active creation. -/
def activeSession (block : BackendSession) (p : SessPtr) (newSessId : UInt16) (fd : Int)
    (para : SessMsgPara) (n : NodePtr) : BackendSession :=
  { block with
    netChannel :=
      { sockFd := fd, arg := true, sess := some p, status := epollRegStatusRegistered,
        events := epollIn }
    frontendSessId := para.frontendSessId
    backendSessId := newSessId
    ipVersion := para.ipVersion.toNat
    sockFd := fd
    state := fun d => block.state d &&& backendSessLinkedToQueue
    establishMode := sessEstablishActive
    protoType := para.transProto.toNat
    msg := fun _ => []
    sessDevLinkState :=
      block.sessDevLinkState &&& ~~~backendSessLinkedToDevNode ||| backendSessLinkedToDevNode
    sessNode := some n }

inductive CreateOutcome (para : SessMsgPara) (env : CreateEnv) (e : Engine) : Engine → Prop where
  | noMemory (memory : env.malloc = none) :
      CreateOutcome para env e
        { e with idQueue := if env.newSessId = 0 then e.idQueue
                            else e.idQueue ++ [env.newSessId] }
  | noId (empty : e.idQueue.headD 0 = 0) :
      CreateOutcome para env e
        { e with
          heap := Function.update e.heap e.nextSess none
          nextSess := e.nextSess + 1
          idQueue := e.idQueue.tail }
  | failed {id : UInt16} {rest : List UInt16} {N : NodePool} {E : List (Int × SessPtr)}
      (ids : e.idQueue = id :: rest) (nodes : Recycled e.nodes N) (polled : E ⊆ e.epoll) :
      CreateOutcome para env e
        { e with
          heap := Function.update e.heap e.nextSess none
          nextSess := e.nextSess + 1
          idQueue := rest ++ [id]
          nodes := N
          epoll := E }
  /-- The response is refused after the session is in the table. -/
  | leaked {id : UInt16} {rest : List UInt16} {N : NodePool} {E : List (Int × SessPtr)}
      (ids : e.idQueue = id :: rest) (nodes : Recycled e.nodes N) (polled : E ⊆ e.epoll)
      (refused : env.response ≠ .ok) :
      CreateOutcome para env e
        { e with
          heap := Function.update e.heap e.nextSess none
          nextSess := e.nextSess + 1
          htable := e.htable ++ [e.nextSess]
          sessNum := e.sessNum + 1
          idQueue := rest ++ [id]
          nodes := N
          epoll := E }
  | created {id : UInt16} {rest : List UInt16} {block : BackendSession} {d : UInt16}
      {k : NodeQueue} {n : NodePtr} {fd : Int} {N : NodePool}
      (memory : env.malloc = some block) (ids : e.idQueue = id :: rest)
      (dev : selectDev para env = some d) (range : d.toNat < maxHsDevNum)
      (proto : NodeQueue.ofProto para.transProto.toNat = some k)
      (nodes : Bound e.nodes d.toNat k n e.nextSess N) (accepted : env.response = .ok) :
      CreateOutcome para env e
        { e with
          heap := Function.update e.heap e.nextSess
            (some (activeSession block e.nextSess id fd para n))
          nextSess := e.nextSess + 1
          htable := e.htable ++ [e.nextSess]
          sessNum := e.sessNum + 1
          idQueue := rest
          nodes := N
          epoll := (fd, e.nextSess) :: e.epoll }

/-- The state `create_sess_error` leaves. -/
def Engine.abandon (e : Engine) (p : SessPtr) (newSessId : UInt16) (fd : Int) : Engine :=
  { e with
    heap := Function.update e.heap p none
    idQueue := if newSessId = 0 then e.idQueue else e.idQueue ++ [newSessId]
    epoll := if fd = errorSocketFd then e.epoll else e.epoll.filter fun r => r.1 != fd }

theorem ofProto_ne_free {proto : Int} {k : NodeQueue} (h : NodeQueue.ofProto proto = some k) :
    k ≠ .free := by
  unfold NodeQueue.ofProto at h
  split at h
  · cases h
    simp
  · split at h
    · cases h
      simp
    · cases h

theorem ids_of_head {ids : List UInt16} (h : ids.headD 0 ≠ 0) :
    ids = ids.headD 0 :: ids.tail := by
  cases ids with
  | nil => exact absurd rfl h
  | cons id rest => rfl

section Active

variable {e e' : Engine} {p : SessPtr} {s : BackendSession} {n : NodePtr} {d : Nat}
  {k : NodeQueue} {st : ProcessStatus} {newSessId : UInt16} {fd : Int} {para : SessMsgPara}
  {env : CreateEnv} {idMemory : Bool}

theorem createSessError_ok (h : createSessError p newSessId fd idMemory e = .ok (st, e')) :
    e' = e.abandon p newSessId fd := by
  simp only [createSessError, Prog.bind_ok, freeSession_ok, Prog.pure_ok] at h
  obtain ⟨_, _, rfl, _, _, hr, _, _, hc, rfl, rfl⟩ := h
  cases releaseIdIfSet_ok hr
  cases closeIfOpen_ok hc
  rfl

theorem detachNode_ok {u : Unit} (h : detachNode d p n e = .ok (u, e'))
    (hp : e.heap p = some s) :
    ∃ L, e.nodes.links.insertTail (d, .free) n = some L ∧
      e' = { e with
        nodes := { links := L, sess := Function.update e.nodes.sess n none }
        heap := Function.update e.heap p (some { s with sessNode := none }) } := by
  simp only [detachNode, Prog.bind_ok, setNodeSess_ok, deref_ok, store_ok] at h
  obtain ⟨_, _, rfl, s', _, ⟨hs', rfl⟩, _, _, rfl, hi⟩ := h
  cases hp.symm.trans hs'
  obtain ⟨L, hL, rfl⟩ := insertNode_ok hi
  exact ⟨L, hL, rfl⟩

theorem recycleSessNode_ok (h : recycleSessNode d n p newSessId fd idMemory e = .ok (st, e'))
    (hn : e.nodes.sess n = some p) (hp : e.heap p = some s)
    (hk : NodeQueue.ofProto s.protoType = some k) (hlink : isLinked s.sessDevLinkState = true) :
    ∃ L₁ L₂, e.nodes.links.remove (d, k) n = some L₁ ∧ L₁.insertTail (d, .free) n = some L₂ ∧
      e' = ({ e with nodes := { links := L₂, sess := Function.update e.nodes.sess n none } } :
        Engine).abandon p newSessId fd := by
  simp only [recycleSessNode, Prog.bind_ok] at h
  obtain ⟨_, _, hr, _, _, hd, he⟩ := h
  obtain ⟨L₁, hL₁, rfl⟩ := removeSessionNode_ok hr hn hp hk hlink
  obtain ⟨L₂, hL₂, rfl⟩ := detachNode_ok hd (Function.update_self p _ e.heap)
  cases createSessError_ok he
  exact ⟨L₁, L₂, hL₁, hL₂, by simp [Engine.abandon]⟩

theorem publish_ok (h : publish d n p newSessId fd env e = .ok (st, e'))
    (hn : e.nodes.sess n = some p) (hp : e.heap p = some s)
    (hk : NodeQueue.ofProto s.protoType = some k) (hlink : isLinked s.sessDevLinkState = true)
    (hstatus : s.netChannel.status = epollRegStatusUnregistered)
    (hfd : s.netChannel.sockFd = fd) (hopen : fd ≠ errorSocketFd) :
    (env.response = .ok ∧
      e' = { e with
        heap := Function.update e.heap p (some s.registered)
        htable := e.htable ++ [p]
        sessNum := e.sessNum + 1
        epoll := (fd, p) :: e.epoll }) ∨
      ∃ L₁ L₂, e.nodes.links.remove (d, k) n = some L₁ ∧
        L₁.insertTail (d, .free) n = some L₂ ∧
        (e' = ({ e with nodes := { links := L₂, sess := Function.update e.nodes.sess n none } } :
            Engine).abandon p newSessId fd ∨
          env.response ≠ .ok ∧
          e' = ({ e with
            htable := e.htable ++ [p], sessNum := e.sessNum + 1
            nodes := { links := L₂, sess := Function.update e.nodes.sess n none } } :
            Engine).abandon p newSessId fd) := by
  subst hfd
  simp only [publish, Prog.bind_ok] at h
  obtain ⟨registered, _, hreg, h⟩ := h
  obtain ⟨hst, rfl⟩ := registerEpoll_ok hreg hp hstatus
  have hheap := Function.update_self p (some s.registered) e.heap
  split at h <;> rename_i hok
  · simp only [hst.mp hok, if_true, Prog.bind_ok] at h
    obtain ⟨inserted, _, hins, h⟩ := h
    obtain ⟨_, -, ⟨-, rfl, rfl⟩ | ⟨-, rfl, rfl⟩⟩ := insertSess_ok hins
    · rw [if_pos rfl] at h
      split at h <;> rename_i hresp
      · left
        obtain ⟨-, rfl⟩ := Prog.pure_ok.mp h
        exact ⟨hresp, rfl⟩
      · right
        obtain ⟨L₁, L₂, h₁, h₂, rfl⟩ := recycleSessNode_ok h hn hheap hk hlink
        exact ⟨L₁, L₂, h₁, h₂, Or.inr ⟨hresp, by simp [Engine.abandon, hopen]⟩⟩
    · simp only [reduceCtorEq, if_false, Prog.bind_ok] at h
      obtain ⟨_, _, hun, h⟩ := h
      obtain ⟨s', hs', -, rfl⟩ := unregisterEpoll_ok hun
      cases hheap.symm.trans hs'
      right
      obtain ⟨L₁, L₂, h₁, h₂, rfl⟩ :=
        recycleSessNode_ok h hn (Function.update_self p _ _) hk hlink
      refine ⟨L₁, L₂, h₁, h₂, Or.inl ?_⟩
      cases env.epollDel <;>
        simp [Engine.abandon, hopen, BackendSession.registered]
  · have hctl : env.epollAdd ≠ true := fun hc => hok (hst.mpr hc)
    simp only [hctl] at h
    right
    obtain ⟨L₁, L₂, h₁, h₂, rfl⟩ := recycleSessNode_ok h hn hheap hk hlink
    exact ⟨L₁, L₂, h₁, h₂, Or.inl (by simp [Engine.abandon])⟩

theorem openSocket_ok {o : Opening} (h : openSocket para env e = .ok (o, e')) :
    e = e' ∧ ∀ dev fd, o = .opened dev fd → selectDev para env = some dev ∧
      dev.toNat < maxHsDevNum ∧ fd ≠ errorSocketFd := by
  simp only [openSocket, Prog.bind_ok, Prog.get_ok] at h
  obtain ⟨_, _, ⟨rfl, rfl⟩, h⟩ := h
  split at h
  · obtain ⟨rfl, rfl⟩ := Prog.pure_ok.mp h
    exact ⟨rfl, by simp⟩
  cases hdev : selectDev para env with
  | none =>
    simp only [hdev, Prog.pure_ok] at h
    obtain ⟨rfl, rfl⟩ := h
    exact ⟨rfl, by simp⟩
  | some dev =>
    simp only [hdev, Prog.bind_ok] at h
    obtain ⟨nsId, _, hns, h⟩ := h
    obtain ⟨⟨hrange, -⟩, -, rfl⟩ := getNsId_ok hns
    split at h
    · obtain ⟨rfl, rfl⟩ := Prog.pure_ok.mp h
      exact ⟨rfl, by simp⟩
    cases hsock : createSocketNetns para env.socket with
    | none =>
      simp only [hsock, Prog.pure_ok] at h
      obtain ⟨rfl, rfl⟩ := h
      exact ⟨rfl, by simp⟩
    | some fd =>
      simp only [hsock] at h
      split at h <;> rename_i hconn <;> obtain ⟨rfl, rfl⟩ := Prog.pure_ok.mp h
      · refine ⟨rfl, ?_⟩
        rintro _ _ ⟨⟩
        simp only [connectSocketNetns, Bool.and_eq_true, bne_iff_ne] at hconn
        exact ⟨rfl, hrange, hconn.2⟩
      · exact ⟨rfl, by simp⟩

/-- The session once it is bound to a node and registered. -/
def BackendSession.boundTo (s : BackendSession) (n : NodePtr) : BackendSession :=
  BackendSession.registered
    { s with
      sessDevLinkState :=
        s.sessDevLinkState &&& ~~~backendSessLinkedToDevNode ||| backendSessLinkedToDevNode
      sessNode := some n }

theorem bindToDevice_ok (h : bindToDevice d p newSessId fd env e = .ok (st, e'))
    (hp : e.heap p = some s) (hstatus : s.netChannel.status = epollRegStatusUnregistered)
    (hfd : s.netChannel.sockFd = fd) (hopen : fd ≠ errorSocketFd) :
    (∃ N, Recycled e.nodes N ∧
      (e' = ({ e with nodes := N } : Engine).abandon p newSessId fd ∨
        env.response ≠ .ok ∧
        e' = ({ e with nodes := N, htable := e.htable ++ [p], sessNum := e.sessNum + 1 } :
          Engine).abandon p newSessId fd)) ∨
      ∃ N k n, NodeQueue.ofProto s.protoType = some k ∧ Bound e.nodes d k n p N ∧
        env.response = .ok ∧
        e' = { e with
          nodes := N
          heap := Function.update e.heap p (some (s.boundTo n))
          htable := e.htable ++ [p]
          sessNum := e.sessNum + 1
          epoll := (fd, p) :: e.epoll } := by
  simp only [bindToDevice, Prog.bind_ok] at h
  obtain ⟨node, _, hpop, h⟩ := h
  rcases popFree_ok hpop with ⟨rfl, -, rfl⟩ | ⟨n, L₁, rfl, hfirst, htake, rfl⟩
  · cases createSessError_ok h
    exact Or.inl ⟨e.nodes, .untouched, Or.inl rfl⟩
  simp only [attachNode, Prog.bind_ok, deref_ok, setNodeSess_ok, store_ok] at h
  obtain ⟨_, _, ⟨s', _, ⟨hs', rfl⟩, _, _, rfl, rfl⟩, inserted, _, hins, h⟩ := h
  cases hp.symm.trans hs'
  rcases insertSessionNode_ok hins (Function.update_self n _ _) (Function.update_self p _ _)
    (isLinked_clear _) with ⟨-, rfl, rfl⟩ | ⟨k, L₂, hk, rfl, hput, rfl⟩
  · -- the protocol has no queue
    left
    simp only [reduceCtorEq, if_false, Prog.bind_ok] at h
    obtain ⟨_, _, hdet, h⟩ := h
    obtain ⟨L₂, hgive, rfl⟩ := detachNode_ok hdet (Function.update_self p _ _)
    cases createSessError_ok h
    refine ⟨_, .returned hfirst htake hgive, Or.inl ?_⟩
    simp [Engine.abandon]
  · rw [if_pos rfl] at h
    rcases publish_ok h (Function.update_self n _ _) (Function.update_self p _ _) hk
      (isLinked_set _) hstatus hfd hopen with ⟨hresp, rfl⟩ | ⟨L₃, L₄, hrem, hgive, he⟩
    · right
      refine ⟨{ links := L₂, sess := Function.update e.nodes.sess n (some p) }, k, n, hk,
        ⟨hfirst, ofProto_ne_free hk, ⟨L₁, htake, hput⟩, rfl⟩, hresp, ?_⟩
      simp [BackendSession.boundTo, BackendSession.registered]
    · left
      refine ⟨_, .withdrawn hfirst htake (ofProto_ne_free hk) hput hrem hgive, ?_⟩
      rcases he with rfl | ⟨hresp, rfl⟩
      · left
        simp [Engine.abandon]
      · right
        exact ⟨hresp, by simp [Engine.abandon]⟩

theorem polled_subset (fd : Int) (E : List (Int × SessPtr)) :
    (if fd = errorSocketFd then E else E.filter fun r => r.1 != fd) ⊆ E := by
  split
  · exact List.Subset.refl E
  · exact List.filter_subset_self E

theorem createActive_ok (h : highSpeedCreateSessActive para env e = .ok (st, e')) :
    CreateOutcome para env e e' := by
  unfold highSpeedCreateSessActive at h
  cases hm : env.malloc with
  | none =>
    simp only [hm, Prog.bind_ok, Prog.pure_ok] at h
    obtain ⟨_, _, hr, rfl, rfl⟩ := h
    cases releaseIdIfSet_ok hr
    exact .noMemory hm
  | some block =>
    simp only [hm, Prog.bind_ok, mallocSession_ok] at h
    obtain ⟨_, _, ⟨rfl, rfl⟩, id, _, hid, h⟩ := h
    obtain ⟨hhead, rfl⟩ := allocateId_ok hid
    dsimp only at hhead h
    split at h <;> rename_i hzero
    · cases createSessError_ok h
      have : CreateOutcome para env e _ := .noId (hhead.symm.trans hzero)
      simpa [Engine.abandon] using this
    obtain ⟨rest, hids⟩ : ∃ rest, e.idQueue = id :: rest :=
      ⟨_, hhead ▸ ids_of_head (hhead ▸ hzero)⟩
    simp only [Prog.bind_ok] at h
    obtain ⟨opening, _, hopen, h⟩ := h
    obtain ⟨rfl, hopened⟩ := openSocket_ok hopen
    cases opening with
    | failed fd =>
      cases createSessError_ok h
      have : CreateOutcome para env e _ :=
        .failed hids .untouched (polled_subset fd e.epoll)
      simpa [Engine.abandon, hids, hzero] using this
    | opened dev fd =>
      obtain ⟨hdev, hrange, hfd⟩ := hopened dev fd rfl
      simp only [initActive, Prog.bind_ok, deref_ok, store_ok] at h
      obtain ⟨_, _, ⟨block', _, ⟨hb, rfl⟩, rfl⟩, h⟩ := h
      cases (Function.update_self e.nextSess (some block) e.heap).symm.trans hb
      rcases bindToDevice_ok h (Function.update_self e.nextSess _ _) rfl rfl hfd with
        ⟨N, hN, he⟩ | ⟨N, k, n, hk, hN, hresp, rfl⟩
      · rcases he with rfl | ⟨hresp, rfl⟩
        · have : CreateOutcome para env e _ := .failed hids hN (polled_subset fd e.epoll)
          simpa [Engine.abandon, hids, hzero] using this
        · have : CreateOutcome para env e _ :=
            .leaked hids hN (polled_subset fd e.epoll) hresp
          simpa [Engine.abandon, hids, hzero] using this
      · have : CreateOutcome para env e { e with
            heap := Function.update e.heap e.nextSess
              (some (activeSession block e.nextSess id fd para n))
            nextSess := e.nextSess + 1
            htable := e.htable ++ [e.nextSess]
            sessNum := e.sessNum + 1
            idQueue := rest
            nodes := N
            epoll := (fd, e.nextSess) :: e.epoll } := .created hm hids hdev hrange hk hN hresp
        simpa [activeSession, BackendSession.boundTo, BackendSession.registered, hids] using this

end Active

/-- The call gets as far as the create command: version, device, protocol and memory are as it
needs them, and an ID and a node are left. -/
def PassiveAdmitted (e : Engine) (para : PassiveSessParaIP) (env : PassiveEnv) : Prop :=
  para.ipVersion = sessIpv4Proto ∧ para.devId.toNat < maxHsDevNum ∧ env.malloc.isSome ∧
    e.idQueue.headD 0 ≠ 0 ∧ (e.nodes.links.first (para.devId.toNat, .free)).isSome ∧
    (NodeQueue.ofProto para.transProto.toNat).isSome

instance (e : Engine) (para : PassiveSessParaIP) (env : PassiveEnv) :
    Decidable (PassiveAdmitted e para env) :=
  inferInstanceAs (Decidable (_ ∧ _ ∧ _ ∧ _ ∧ _ ∧ _))

inductive PassiveOutcome (para : PassiveSessParaIP) (env : PassiveEnv) (e : Engine) :
    Engine → Prop where
  | rejected : PassiveOutcome para env e e
  | noMemory (memory : env.malloc = none) :
      PassiveOutcome para env e
        { e with idQueue := if env.newSessId = 0 then e.idQueue
                            else e.idQueue ++ [env.newSessId] }
  | noId (empty : e.idQueue.headD 0 = 0) :
      PassiveOutcome para env e
        { e with
          heap := Function.update e.heap e.nextSess none
          nextSess := e.nextSess + 1
          idQueue := e.idQueue.tail }
  | failed {id : UInt16} {rest : List UInt16} {N : NodePool}
      (ids : e.idQueue = id :: rest) (nodes : Recycled e.nodes N) :
      PassiveOutcome para env e
        { e with
          heap := Function.update e.heap e.nextSess none
          nextSess := e.nextSess + 1
          idQueue := rest ++ [id]
          nodes := N }
  /-- The session is complete, but not in the table. -/
  | completed {N : NodePool} {s : BackendSession} (admitted : PassiveAdmitted e para env) :
      PassiveOutcome para env e
        { e with
          heap := Function.update e.heap e.nextSess (some s)
          nextSess := e.nextSess + 1
          idQueue := e.idQueue.tail
          nodes := N }

/-- The contents of a session after a passive creation. -/
def passiveSession (block : BackendSession) (newSessId : UInt16) (para : PassiveSessParaIP)
    (n : NodePtr) : BackendSession :=
  { block with
    backendSessId := newSessId
    devId := para.devId.toNat
    ipVersion := para.ipVersion.toNat
    sockFd := para.fd
    state := fun d => block.state d &&& backendSessLinkedToQueue
    establishMode := sessEstablishPassive
    protoType := para.transProto.toNat
    sessDevLinkState :=
      block.sessDevLinkState &&& ~~~backendSessLinkedToDevNode ||| backendSessLinkedToDevNode
    sessNode := some n }

/-- The call looks no further at a connection of another version or device. -/
def PassiveFit (para : PassiveSessParaIP) : Prop :=
  para.ipVersion = sessIpv4Proto ∧ para.devId.toNat < maxHsDevNum

/-- The ways out of a passive creation, with what each returns. -/
inductive PassiveExit (para : PassiveSessParaIP) (env : PassiveEnv) (e : Engine) :
    ProcessStatus → Engine → Prop where
  | rejected (unfit : ¬ PassiveFit para) : PassiveExit para env e .error e
  | noMemory (fit : PassiveFit para) (memory : env.malloc = none) :
      PassiveExit para env e .error
        { e with idQueue := if env.newSessId = 0 then e.idQueue
                            else e.idQueue ++ [env.newSessId] }
  | noId (memory : env.malloc.isSome) (empty : e.idQueue.headD 0 = 0) :
      PassiveExit para env e .error
        { e with
          heap := Function.update e.heap e.nextSess none
          nextSess := e.nextSess + 1
          idQueue := e.idQueue.tail }
  | failed {id : UInt16} {rest : List UInt16} {N : NodePool} (memory : env.malloc.isSome)
      (barred : ¬ PassiveAdmitted e para env) (ids : e.idQueue = id :: rest)
      (nodes : Recycled e.nodes N) :
      PassiveExit para env e .error
        { e with
          heap := Function.update e.heap e.nextSess none
          nextSess := e.nextSess + 1
          idQueue := rest ++ [id]
          nodes := N }
  | completed {id : UInt16} {rest : List UInt16} {block : BackendSession} {k : NodeQueue}
      {n : NodePtr} {N : NodePool} (admitted : PassiveAdmitted e para env)
      (ids : e.idQueue = id :: rest) (used : id ≠ 0)
      (proto : NodeQueue.ofProto para.transProto.toNat = some k)
      (nodes : Bound e.nodes para.devId.toNat k n e.nextSess N) :
      PassiveExit para env e env.response
        { e with
          heap := Function.update e.heap e.nextSess (some (passiveSession block id para n))
          nextSess := e.nextSess + 1
          idQueue := rest
          nodes := N }

section Passive

variable {e e' : Engine} {st : ProcessStatus} {para : PassiveSessParaIP} {env : PassiveEnv}

theorem createSessPassiveError_ok {d : Nat} {p : SessPtr} {newSessId : UInt16} {mem : Bool}
    (h : createSessPassiveError d p none newSessId mem e = .ok (st, e')) :
    st = .error ∧ e' = { e with
      heap := Function.update e.heap p none
      idQueue := if newSessId = 0 then e.idQueue else e.idQueue ++ [newSessId] } := by
  simp only [createSessPassiveError, Prog.bind_ok, freeSession_ok, Prog.pure_ok] at h
  obtain ⟨_, _, hr, _, _, rfl, rfl, rfl⟩ := h
  cases releaseIdIfSet_ok hr
  exact ⟨rfl, rfl⟩

/-- Giving a node back whose session is not linked to a device queue. -/
theorem createSessPassiveError_node_ok {d : Nat} {p : SessPtr} {n : NodePtr} {s : BackendSession}
    {newSessId : UInt16} {mem : Bool}
    (h : createSessPassiveError d p (some n) newSessId mem e = .ok (st, e'))
    (hp : e.heap p = some s) (hlink : isLinked s.sessDevLinkState = false) :
    st = .error ∧ ∃ L, e.nodes.links.insertTail (d, .free) n = some L ∧
      e' = { e with
        heap := Function.update e.heap p none
        idQueue := if newSessId = 0 then e.idQueue else e.idQueue ++ [newSessId]
        nodes := { links := L, sess := Function.update e.nodes.sess n none } } := by
  simp only [createSessPassiveError, Prog.bind_ok, deref_ok] at h
  obtain ⟨_, _, hr, s', _, ⟨hs, rfl⟩, h⟩ := h
  cases releaseIdIfSet_ok hr
  cases hp.symm.trans hs
  simp only [hlink, Bool.false_eq_true, if_false, Prog.bind_ok, freeSession_ok,
    Prog.pure_ok] at h
  obtain ⟨_, _, hdet, _, _, rfl, rfl, rfl⟩ := h
  obtain ⟨L, hgive, rfl⟩ := detachNode_ok hdet hp
  exact ⟨rfl, L, hgive, by simp⟩

theorem createPassive_exit (h : highSpeedCreateSessPassive para env e = .ok (st, e')) :
    PassiveExit para env e st e' := by
  unfold highSpeedCreateSessPassive at h
  split at h <;> rename_i hip
  · obtain ⟨rfl, rfl⟩ := Prog.pure_ok.mp h
    exact .rejected fun hfit => hip hfit.1
  split at h <;> rename_i hdev
  · obtain ⟨rfl, rfl⟩ := Prog.pure_ok.mp h
    exact .rejected fun hfit => absurd hfit.2 (Nat.not_lt.mpr hdev)
  have hfit : PassiveFit para := ⟨not_not.mp hip, Nat.not_le.mp hdev⟩
  cases hm : env.malloc with
  | none =>
    simp only [hm, Prog.bind_ok, Prog.pure_ok] at h
    obtain ⟨_, _, hr, rfl, rfl⟩ := h
    cases releaseIdIfSet_ok hr
    exact .noMemory hfit hm
  | some block =>
    have hsome : env.malloc.isSome := by
      rw [hm]
      rfl
    simp only [hm, Prog.bind_ok, mallocSession_ok] at h
    obtain ⟨_, _, ⟨rfl, rfl⟩, id, _, hid, h⟩ := h
    obtain ⟨hhead, rfl⟩ := allocateId_ok hid
    dsimp only at hhead h
    split at h <;> rename_i hzero
    · obtain ⟨rfl, rfl⟩ := createSessPassiveError_ok h
      have : PassiveExit para env e .error _ := .noId hsome (hhead.symm.trans hzero)
      simpa using this
    have hids : e.idQueue = id :: e.idQueue.tail := hhead ▸ ids_of_head (hhead ▸ hzero)
    simp only [Prog.bind_ok] at h
    obtain ⟨node, _, hpop, h⟩ := h
    rcases popFree_ok hpop with ⟨rfl, hnone, rfl⟩ | ⟨n, L₁, rfl, hfirst, htake, rfl⟩
    · obtain ⟨rfl, rfl⟩ := createSessPassiveError_ok h
      have hbar : ¬ PassiveAdmitted e para env := by
        intro hadm
        have hfree := hadm.2.2.2.2.1
        rw [hnone] at hfree
        cases hfree
      have : PassiveExit para env e .error _ := .failed hsome hbar hids .untouched
      simpa [hzero] using this
    simp only [initPassive, attachNode, Prog.bind_ok, deref_ok, setNodeSess_ok, store_ok] at h
    obtain ⟨_, _, ⟨b₁, _, ⟨hb₁, rfl⟩, rfl⟩, _, _, ⟨b₂, _, ⟨hb₂, rfl⟩, _, _, rfl, rfl⟩,
      inserted, _, hins, h⟩ := h
    cases (Function.update_self e.nextSess (some block) e.heap).symm.trans hb₁
    cases (Function.update_self e.nextSess _ _).symm.trans hb₂
    rcases insertSessionNode_ok hins (Function.update_self n _ _)
      (Function.update_self e.nextSess _ _) (isLinked_clear _) with
      ⟨hproto, rfl, rfl⟩ | ⟨k, L₂, hk, rfl, hput, rfl⟩
    · -- the link bit is still clear, so the node is only given back
      rw [if_pos rfl] at h
      obtain ⟨rfl, L₂, hgive, rfl⟩ := createSessPassiveError_node_ok h
        (Function.update_self e.nextSess _ _) (isLinked_clear _)
      have hbar : ¬ PassiveAdmitted e para env := by
        intro hadm
        have hqueue := hadm.2.2.2.2.2
        rw [show NodeQueue.ofProto para.transProto.toNat = none from hproto] at hqueue
        cases hqueue
      have : PassiveExit para env e .error _ :=
        .failed hsome hbar hids (.returned hfirst htake hgive)
      simpa [hzero] using this
    · simp only [reduceCtorEq, if_false, Prog.pure_ok] at h
      obtain ⟨rfl, rfl⟩ := h
      have hadm : PassiveAdmitted e para env :=
        ⟨hfit.1, hfit.2, hsome, hhead ▸ hzero, by rw [hfirst]; rfl,
          by rw [show NodeQueue.ofProto para.transProto.toNat = some k from hk]; rfl⟩
      have hbound : Bound e.nodes para.devId.toNat k n e.nextSess
          { links := L₂, sess := Function.update e.nodes.sess n (some e.nextSess) } :=
        ⟨hfirst, ofProto_ne_free hk, ⟨L₁, htake, hput⟩, rfl⟩
      have : PassiveExit para env e env.response { e with
          heap := Function.update e.heap e.nextSess (some (passiveSession block id para n))
          nextSess := e.nextSess + 1
          idQueue := e.idQueue.tail
          nodes := { links := L₂, sess := Function.update e.nodes.sess n (some e.nextSess) } } :=
        .completed hadm hids hzero hk hbound
      simpa [passiveSession] using this

theorem createPassive_ok (h : highSpeedCreateSessPassive para env e = .ok (st, e')) :
    PassiveOutcome para env e e' := by
  cases createPassive_exit h with
  | rejected _ => exact .rejected
  | noMemory _ hm => exact .noMemory hm
  | noId _ hempty => exact .noId hempty
  | failed _ _ hids hnodes => exact .failed hids hnodes
  | @completed id rest _ _ _ _ hadm hids =>
    have hrest : rest = e.idQueue.tail := by rw [hids, List.tail_cons]
    subst hrest
    exact .completed hadm

end Passive

end BackendProxy.Pool
