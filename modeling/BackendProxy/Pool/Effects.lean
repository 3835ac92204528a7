import BackendProxy.Pool.Sessions

namespace BackendProxy.Pool

open Lib Lib.Tailq Queue

/-! What each helper leaves behind when it returns. -/

section Effects

variable {e e' : Engine} {p : SessPtr} {s : BackendSession} {n : NodePtr} {d : Nat}
  {k : NodeQueue} {dir : Dir} {u : Unit}

theorem deref_ok : deref p e = .ok (s, e') ↔ e.heap p = some s ∧ e = e' := by
  simp only [deref, Prog.bind_ok, Prog.get_ok, Prog.ofOption_ok]
  constructor
  · intro hx
    obtain ⟨_, _, ⟨rfl, rfl⟩, h⟩ := hx
    exact h
  · intro h
    exact ⟨e, e, ⟨rfl, rfl⟩, h⟩

theorem store_ok :
    store p s e = .ok (u, e') ↔ { e with heap := Function.update e.heap p (some s) } = e' :=
  Prog.modify_ok

theorem freeSession_ok :
    freeSession p e = .ok (u, e') ↔ { e with heap := Function.update e.heap p none } = e' :=
  Prog.modify_ok

theorem mallocSession_ok {block : BackendSession} :
    mallocSession block e = .ok (p, e') ↔ e.nextSess = p ∧
      { e with heap := Function.update e.heap e.nextSess (some block),
               nextSess := e.nextSess + 1 } = e' := by
  simp only [mallocSession, Prog.bind_ok, Prog.get_ok, Prog.modify_ok, Prog.pure_ok]
  constructor
  · intro hx
    obtain ⟨_, _, ⟨rfl, rfl⟩, _, _, rfl, rfl, rfl⟩ := hx
    exact ⟨rfl, rfl⟩
  · intro hx
    obtain ⟨rfl, rfl⟩ := hx
    exact ⟨e, e, ⟨rfl, rfl⟩, ⟨⟩, _, rfl, rfl, rfl⟩

theorem allocateId_ok {id : UInt16} (h : allocateId e = .ok (id, e')) :
    id = e.idQueue.headD 0 ∧ e' = { e with idQueue := e.idQueue.tail } := by
  simp only [allocateId, Prog.bind_ok, Prog.get_ok] at h
  obtain ⟨_, _, ⟨rfl, rfl⟩, h⟩ := h
  cases hq : e.idQueue with
  | nil =>
    simp only [hq, Prog.pure_ok] at h
    obtain ⟨rfl, rfl⟩ := h
    exact ⟨rfl, by rw [List.tail_nil, ← hq]⟩
  | cons id rest =>
    simp only [hq, Prog.bind_ok, Prog.modify_ok, Prog.pure_ok] at h
    obtain ⟨_, _, rfl, rfl, rfl⟩ := h
    exact ⟨rfl, rfl⟩

theorem releaseId_ok {id : UInt16} {memory : Bool} (h : releaseId id memory e = .ok (u, e')) :
    e' = { e with idQueue := e.idQueue ++ [id] } := by
  cases memory with
  | true => exact (Prog.modify_ok.mp h).symm
  | false => cases h

theorem releaseIdIfSet_ok {id : UInt16} {memory : Bool}
    (h : releaseIdIfSet id memory e = .ok (u, e')) :
    e' = { e with idQueue := if id = 0 then e.idQueue else e.idQueue ++ [id] } := by
  unfold releaseIdIfSet at h
  split at h <;> rename_i hid
  · rw [if_pos hid]
    exact (Prog.pure_ok.mp h).2.symm
  · rw [if_neg hid]
    exact releaseId_ok h

theorem closeFd_ok {fd : Int} :
    closeFd fd e = .ok (u, e') ↔ { e with epoll := e.epoll.filter fun r => r.1 != fd } = e' :=
  Prog.modify_ok

theorem closeIfOpen_ok {fd : Int} (h : closeIfOpen fd e = .ok (u, e')) :
    e' = { e with epoll := if fd = errorSocketFd then e.epoll
                           else e.epoll.filter fun r => r.1 != fd } := by
  unfold closeIfOpen at h
  split at h <;> rename_i hfd
  · rw [if_pos hfd]
    exact (Prog.pure_ok.mp h).2.symm
  · rw [if_neg hfd]
    exact (closeFd_ok.mp h).symm

theorem walkTable_ok {t : Bool} (h : walkTable t e = .ok (u, e')) : e = e' := by
  simp only [walkTable, Prog.bind_ok, Prog.get_ok] at h
  obtain ⟨_, _, ⟨rfl, rfl⟩, h⟩ := h
  split at h
  · cases h
  · exact (Prog.pure_ok.mp h).2

theorem search_ok {id : UInt16} {t : Bool} {found : Option SessPtr}
    (h : highSpeedSearchSess id t e = .ok (found, e')) : e.lookup id = found ∧ e = e' := by
  simp only [highSpeedSearchSess, Prog.bind_ok, Prog.get_ok, Prog.pure_ok] at h
  obtain ⟨_, _, hw, _, _, ⟨rfl, rfl⟩, rfl, rfl⟩ := h
  cases walkTable_ok hw
  exact ⟨rfl, rfl⟩

/-- A session joins the table unless its ID is in use there. -/
theorem insertSess_ok {t memory : Bool} {st : ProcessStatus}
    (h : highSpeedInsertSess p t memory e = .ok (st, e')) :
    ∃ s, e.heap p = some s ∧
      ((e.lookup s.backendSessId = none ∧ st = .ok ∧
          e' = { e with htable := e.htable ++ [p], sessNum := e.sessNum + 1 }) ∨
        (e.lookup s.backendSessId ≠ none ∧ st = .error ∧ e = e')) := by
  simp only [highSpeedInsertSess, Prog.bind_ok, deref_ok] at h
  obtain ⟨s, _, ⟨hs, rfl⟩, found, t, hsearch, h⟩ := h
  obtain ⟨hfound, rfl⟩ := search_ok hsearch
  refine ⟨s, hs, ?_⟩
  cases found with
  | none =>
    cases memory with
    | false => cases h
    | true =>
      simp only [if_true, Prog.bind_ok, Prog.modify_ok, Prog.pure_ok] at h
      obtain ⟨_, _, rfl, rfl, rfl⟩ := h
      exact Or.inl ⟨hfound, rfl, rfl⟩
  | some q =>
    obtain ⟨rfl, rfl⟩ := Prog.pure_ok.mp h
    exact Or.inr ⟨by rw [hfound]; simp, rfl, rfl⟩

theorem hashDel_ok {t : Bool} (h : hashDel p t e = .ok (u, e')) :
    p ∈ e.htable ∧ e' = { e with htable := e.htable.erase p } := by
  simp only [hashDel, Prog.bind_ok, Prog.get_ok] at h
  obtain ⟨_, _, hw, _, _, ⟨rfl, rfl⟩, h⟩ := h
  cases walkTable_ok hw
  split at h
  · rename_i hmem
    exact ⟨hmem, (Prog.modify_ok.mp h).symm⟩
  · cases h

theorem setNodeSess_ok {o : Option SessPtr} :
    setNodeSess n o e = .ok (u, e') ↔
      { e with nodes := { e.nodes with sess := Function.update e.nodes.sess n o } } = e' :=
  Prog.modify_ok

theorem insertNode_ok (h : insertNode d k n e = .ok (u, e')) :
    ∃ links, e.nodes.links.insertTail (d, k) n = some links ∧
      e' = { e with nodes := { e.nodes with links } } := by
  simp only [insertNode, Prog.bind_ok, Prog.get_ok, Prog.ofOption_ok, Prog.modify_ok] at h
  obtain ⟨_, _, ⟨rfl, rfl⟩, links, _, ⟨hl, rfl⟩, rfl⟩ := h
  exact ⟨links, hl, rfl⟩

theorem removeNode_ok (h : removeNode d k n e = .ok (u, e')) :
    ∃ links, e.nodes.links.remove (d, k) n = some links ∧
      e' = { e with nodes := { e.nodes with links } } := by
  simp only [removeNode, Prog.bind_ok, Prog.get_ok, Prog.ofOption_ok, Prog.modify_ok] at h
  obtain ⟨_, _, ⟨rfl, rfl⟩, links, _, ⟨hl, rfl⟩, rfl⟩ := h
  exact ⟨links, hl, rfl⟩

theorem popFree_ok {o : Option NodePtr} (h : popFreeSessionNode d e = .ok (o, e')) :
    (o = none ∧ e.nodes.links.first (d, .free) = none ∧ e = e') ∨
      ∃ n links, o = some n ∧ e.nodes.links.first (d, .free) = some n ∧
        e.nodes.links.remove (d, .free) n = some links ∧
        e' = { e with nodes := { e.nodes with links } } := by
  simp only [popFreeSessionNode, Prog.bind_ok, Prog.get_ok] at h
  obtain ⟨_, _, ⟨rfl, rfl⟩, h⟩ := h
  cases hf : e.nodes.links.first (d, .free) with
  | none =>
    simp only [hf, Prog.pure_ok] at h
    exact Or.inl ⟨h.1.symm, rfl, h.2⟩
  | some n =>
    simp only [hf, Prog.bind_ok, Prog.pure_ok] at h
    obtain ⟨_, _, hr, rfl, rfl⟩ := h
    obtain ⟨links, hl, rfl⟩ := removeNode_ok hr
    exact Or.inr ⟨n, links, rfl, rfl, hl, rfl⟩

/-- Inserting the node of a session whose link bit is clear. -/
theorem insertSessionNode_ok {st : ProcessStatus}
    (h : insertSessionNode d n e = .ok (st, e')) (hn : e.nodes.sess n = some p)
    (hp : e.heap p = some s) (hlink : isLinked s.sessDevLinkState = false) :
    (NodeQueue.ofProto s.protoType = none ∧ st = .error ∧ e = e') ∨
      ∃ k links, NodeQueue.ofProto s.protoType = some k ∧ st = .ok ∧
        e.nodes.links.insertTail (d, k) n = some links ∧
        e' = { e with
          nodes := { e.nodes with links }
          heap := Function.update e.heap p (some { s with
            sessDevLinkState := s.sessDevLinkState ||| backendSessLinkedToDevNode }) } := by
  simp only [insertSessionNode, Prog.bind_ok, Prog.get_ok] at h
  obtain ⟨_, _, ⟨rfl, rfl⟩, h⟩ := h
  simp only [hn, Prog.bind_ok, deref_ok] at h
  obtain ⟨s', _, ⟨hs', rfl⟩, h⟩ := h
  cases hp.symm.trans hs'
  cases hk : NodeQueue.ofProto s.protoType with
  | none =>
    simp only [hk, Prog.pure_ok] at h
    exact Or.inl ⟨rfl, h.1.symm, h.2⟩
  | some k =>
    simp only [hk, hlink, Bool.false_eq_true, if_false, Prog.bind_ok, store_ok,
      Prog.pure_ok] at h
    obtain ⟨_, _, hi, _, _, rfl, rfl, rfl⟩ := h
    obtain ⟨links, hl, rfl⟩ := insertNode_ok hi
    exact Or.inr ⟨k, links, rfl, rfl, hl, rfl⟩

/-- Removing the node of a session whose link bit is set. -/
theorem removeSessionNode_ok (h : removeSessionNode d n e = .ok (u, e'))
    (hn : e.nodes.sess n = some p) (hp : e.heap p = some s)
    (hk : NodeQueue.ofProto s.protoType = some k) (hlink : isLinked s.sessDevLinkState = true) :
    ∃ links, e.nodes.links.remove (d, k) n = some links ∧
      e' = { e with
        nodes := { e.nodes with links }
        heap := Function.update e.heap p (some { s with
          sessDevLinkState := s.sessDevLinkState &&& ~~~backendSessLinkedToDevNode }) } := by
  simp only [removeSessionNode, Prog.bind_ok, Prog.get_ok] at h
  obtain ⟨_, _, ⟨rfl, rfl⟩, h⟩ := h
  simp only [hn, Prog.bind_ok, deref_ok] at h
  obtain ⟨s', _, ⟨hs', rfl⟩, h⟩ := h
  cases hp.symm.trans hs'
  simp only [hk, hlink, if_true, Prog.bind_ok, store_ok] at h
  obtain ⟨_, _, hr, rfl⟩ := h
  obtain ⟨links, hl, rfl⟩ := removeNode_ok hr
  exact ⟨links, hl, rfl⟩

theorem getNsId_ok {devId : UInt16} {nsId : Int} (h : getNsId devId e = .ok (nsId, e')) :
    (devId.toNat < maxHsDevNum ∧ (e.dev devId.toNat).active = true) ∧
      (e.dev devId.toNat).nsId = nsId ∧ e = e' := by
  simp only [getNsId, Prog.bind_ok, Prog.get_ok] at h
  obtain ⟨_, _, ⟨rfl, rfl⟩, h⟩ := h
  split at h <;> rename_i hdev
  · exact ⟨hdev, Prog.pure_ok.mp h⟩
  · cases h

theorem derefPoller_ok {ch : NetChannel} (h : derefPoller ch e = .ok (u, e')) :
    ch.arg = true ∧ e = e' := by
  unfold derefPoller at h
  split at h
  · rename_i ha
    exact ⟨ha, (Prog.pure_ok.mp h).2⟩
  · cases h

theorem unregisterEpoll_ok {ctl : Bool} (h : unregisterEpoll p ctl e = .ok (u, e')) :
    ∃ s, e.heap p = some s ∧ s.netChannel.arg = true ∧
      e' = { e with
        heap := Function.update e.heap p (some { s with
          netChannel := { s.netChannel with status := epollRegStatusUnregistered } })
        epoll := if ctl = true then e.epoll.filter (fun r => r.1 != s.netChannel.sockFd)
                 else e.epoll } := by
  simp only [unregisterEpoll, Prog.bind_ok, deref_ok, store_ok] at h
  obtain ⟨s, _, ⟨hs, rfl⟩, _, _, hd, _, _, rfl, h⟩ := h
  obtain ⟨ha, rfl⟩ := derefPoller_ok hd
  refine ⟨s, hs, ha, ?_⟩
  cases ctl with
  | true => exact (Prog.modify_ok.mp h).symm
  | false => exact (Prog.pure_ok.mp h).2.symm

/-- The session once its channel is registered. -/
def BackendSession.registered (s : BackendSession) : BackendSession :=
  { s with
    netChannel := { s.netChannel with
      events := epollIn, status := epollRegStatusRegistered } }

/-- Registering a channel that was never registered. -/
theorem registerEpoll_ok {ctl : Bool} {st : ProcessStatus}
    (h : registerEpoll p ctl e = .ok (st, e')) (hp : e.heap p = some s)
    (hstatus : s.netChannel.status = epollRegStatusUnregistered) :
    (st = .ok ↔ ctl = true) ∧
      e' = { e with
        heap := Function.update e.heap p (some s.registered)
        epoll := if ctl = true then (s.netChannel.sockFd, p) :: e.epoll else e.epoll } := by
  simp only [registerEpoll, Prog.bind_ok, deref_ok] at h
  obtain ⟨s', _, ⟨hs', rfl⟩, h⟩ := h
  cases hp.symm.trans hs'
  simp only [hstatus, if_true, Prog.bind_ok, store_ok] at h
  obtain ⟨_, _, rfl, _, _, hd, h⟩ := h
  obtain ⟨-, rfl⟩ := derefPoller_ok hd
  cases ctl with
  | true =>
    simp only [if_true, Prog.bind_ok, Prog.modify_ok, Prog.pure_ok] at h
    obtain ⟨_, _, rfl, rfl, rfl⟩ := h
    simp [BackendSession.registered]
  | false =>
    simp only [Bool.false_eq_true, if_false, Prog.pure_ok] at h
    obtain ⟨rfl, rfl⟩ := h
    simp [BackendSession.registered]

/-- Linking a session whose bit is clear sets the bit and inserts the session. -/
theorem linkToQueue_ok (h : linkToQueue p dir e = .ok (u, e')) (hp : e.heap p = some s) :
    (isLinked (s.state dir) = true ∧ e = e') ∨
      (isLinked (s.state dir) = false ∧
        ∃ links, (e.queue dir).insertTail () p = some links ∧
          e' = { e with
            heap := Function.update e.heap p (some
              (s.setState dir (s.state dir ||| backendSessLinkedToQueue)))
            queue := Function.update e.queue dir links }) := by
  simp only [linkToQueue, Prog.bind_ok, deref_ok] at h
  obtain ⟨s', _, ⟨hs', rfl⟩, h⟩ := h
  cases hp.symm.trans hs'
  split at h <;> rename_i hlink
  · exact Or.inl ⟨hlink, (Prog.pure_ok.mp h).2⟩
  · simp only [Prog.bind_ok, store_ok, Prog.get_ok, Prog.ofOption_ok, Prog.modify_ok] at h
    obtain ⟨_, _, rfl, _, _, ⟨rfl, rfl⟩, links, _, ⟨hl, rfl⟩, rfl⟩ := h
    exact Or.inr ⟨Bool.eq_false_iff.mpr hlink, links, hl, rfl⟩

theorem removeFromQueue_ok (h : removeFromQueue p dir e = .ok (u, e')) :
    ∃ links, (e.queue dir).remove () p = some links ∧
      e' = { e with queue := Function.update e.queue dir links } := by
  simp only [removeFromQueue, Prog.bind_ok, Prog.get_ok, Prog.ofOption_ok, Prog.modify_ok] at h
  obtain ⟨_, _, ⟨rfl, rfl⟩, links, _, ⟨hl, rfl⟩, rfl⟩ := h
  exact ⟨links, hl, rfl⟩

theorem clearLinked_ok (h : clearLinked p dir e = .ok (u, e')) :
    ∃ s, e.heap p = some s ∧
      e' = { e with
        heap := Function.update e.heap p (some
          (s.setState dir (s.state dir &&& ~~~backendSessLinkedToQueue))) } := by
  simp only [clearLinked, Prog.bind_ok, deref_ok, store_ok] at h
  obtain ⟨s, _, ⟨hs, rfl⟩, rfl⟩ := h
  exact ⟨s, hs, rfl⟩

/-- Unlinking a session removes it from the queue if its bit is set. -/
theorem unlinkFromQueue_ok (h : unlinkFromQueue p dir e = .ok (u, e'))
    (hp : e.heap p = some s) :
    ∃ flags links,
      e' = { e with
        queue := Function.update e.queue dir links
        heap := Function.update e.heap p (some (s.setState dir flags)) } ∧
      (isLinked (s.state dir) = false → links = e.queue dir) ∧
      (isLinked (s.state dir) = true → (e.queue dir).remove () p = some links) := by
  simp only [unlinkFromQueue, Prog.bind_ok, deref_ok] at h
  obtain ⟨s', _, ⟨hs', rfl⟩, h⟩ := h
  cases hp.symm.trans hs'
  split at h <;> rename_i hlink
  · simp only [Prog.bind_ok] at h
    obtain ⟨_, _, hr, hc⟩ := h
    obtain ⟨links, hl, rfl⟩ := removeFromQueue_ok hr
    obtain ⟨s', hs', rfl⟩ := clearLinked_ok hc
    cases hp.symm.trans hs'
    exact ⟨_, links, rfl, by simp [hlink], fun _ => hl⟩
  · obtain ⟨-, rfl⟩ := Prog.pure_ok.mp h
    refine ⟨s.state dir, e.queue dir, ?_, fun _ => rfl, fun hl => absurd hl hlink⟩
    simp [BackendSession.setState, ← hp]

end Effects

end BackendProxy.Pool
