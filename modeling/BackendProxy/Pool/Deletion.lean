import BackendProxy.Pool.Outcomes

namespace BackendProxy.Pool

open Lib Lib.Tailq Queue

/-! All a deletion can do to the engine. -/

/-- A session apart from the bit that ties it to a device node. -/
def BackendSession.untied (s : BackendSession) : BackendSession := { s with sessDevLinkState := 0 }

/-- Only nodes, and bits that tie sessions to them, differ. -/
structure SameButNodes (e e' : Engine) : Prop where
  fields : e' = { e with nodes := e'.nodes, heap := e'.heap }
  sessions : ∀ q, (e'.heap q).map BackendSession.untied = (e.heap q).map BackendSession.untied

theorem SameButNodes.refl (e : Engine) : SameButNodes e e := ⟨rfl, fun _ => rfl⟩

theorem SameButNodes.trans {e₁ e₂ e₃ : Engine} (h : SameButNodes e₁ e₂)
    (h' : SameButNodes e₂ e₃) : SameButNodes e₁ e₃ := by
  refine ⟨?_, fun q => (h'.sessions q).trans (h.sessions q)⟩
  rw [h'.fields, h.fields]

/-- The session `p` with contents `s` is taken out of everything it is part of. -/
structure Deleted (e : Engine) (p : SessPtr) (s : BackendSession) (e' : Engine) : Prop where
  live : e.heap p = some s
  listed : p ∈ e.htable
  htable : e'.htable = e.htable.erase p
  sessNum : e'.sessNum = e.sessNum - 1
  idQueue : e'.idQueue = e.idQueue ++ [s.backendSessId]
  unlinked : ∀ d, isLinked (s.state d) = false → e'.queue d = e.queue d
  removed : ∀ d, isLinked (s.state d) = true → (e.queue d).remove () p = some (e'.queue d)
  freed : e'.heap p = none
  others : ∀ q, q ≠ p →
    (e'.heap q).map BackendSession.untied = (e.heap q).map BackendSession.untied
  epoll : ∀ r ∈ e'.epoll, r ∈ e.epoll ∧ r.1 ≠ s.sockFd
  nextSess : e'.nextSess = e.nextSess
  devNum : e'.devNum = e.devNum
  blockSize : e'.blockSize = e.blockSize
  history : e'.history = e.history
  /-- A node that belongs to the session goes back to the device the session names. -/
  given : ∀ n k, 0 ≤ s.devId → s.devId < maxHsDevNum → isLinked s.sessDevLinkState = true →
    s.sessNode = some n → e.nodes.sess n = some p → NodeQueue.ofProto s.protoType = some k →
    (∀ q, q ≠ p → e'.heap q = e.heap q) ∧
    ∃ L, e.nodes.links.remove (s.devId.toNat, k) n = some L ∧
      L.insertTail (s.devId.toNat, .free) n = some e'.nodes.links ∧
      e'.nodes.sess = Function.update e.nodes.sess n none

section Delete

variable {e e' : Engine} {p : SessPtr} {s : BackendSession} {n : NodePtr} {d : Nat} {u : Unit}

theorem removeSessionNode_same (h : removeSessionNode d n e = .ok (u, e')) :
    SameButNodes e e' := by
  simp only [removeSessionNode, Prog.bind_ok, Prog.get_ok] at h
  obtain ⟨_, _, ⟨rfl, rfl⟩, h⟩ := h
  cases hn : e.nodes.sess n with
  | none =>
    simp only [hn, Prog.pure_ok] at h
    exact h.2 ▸ .refl e
  | some q =>
    simp only [hn, Prog.bind_ok, deref_ok] at h
    obtain ⟨s, _, ⟨hs, rfl⟩, h⟩ := h
    cases hk : NodeQueue.ofProto s.protoType with
    | none =>
      simp only [hk, Prog.pure_ok] at h
      exact h.2 ▸ .refl e
    | some k =>
      simp only [hk] at h
      split at h
      · simp only [Prog.bind_ok, store_ok] at h
        obtain ⟨_, _, hr, rfl⟩ := h
        obtain ⟨links, -, rfl⟩ := removeNode_ok hr
        refine ⟨rfl, fun r => ?_⟩
        by_cases hrq : r = q
        · subst hrq
          simp [hs, BackendSession.untied]
        · simp [hrq]
      · exact (Prog.pure_ok.mp h).2 ▸ .refl e

theorem recycleNodeOf_same (h : recycleNodeOf p e = .ok (u, e')) : SameButNodes e e' := by
  simp only [recycleNodeOf, Prog.bind_ok, deref_ok] at h
  obtain ⟨s, _, ⟨hs, rfl⟩, h⟩ := h
  split at h
  · exact (Prog.pure_ok.mp h).2 ▸ .refl e
  · split at h
    · simp only [Prog.bind_ok, Prog.ofOption_ok, setNodeSess_ok, pushFreeSessionNode] at h
      obtain ⟨n, _, ⟨-, rfl⟩, _, _, hr, _, _, rfl, hi⟩ := h
      obtain ⟨links, -, rfl⟩ := insertNode_ok hi
      refine (removeSessionNode_same hr).trans ⟨rfl, fun _ => rfl⟩
    · exact (Prog.pure_ok.mp h).2 ▸ .refl e

/-- The node of a session that is tied to it goes back to the device the session names. -/
theorem recycleNodeOf_given {k : NodeQueue} (h : recycleNodeOf p e = .ok (u, e'))
    (hp : e.heap p = some s) (hlow : 0 ≤ s.devId) (hhigh : s.devId < maxHsDevNum)
    (hlink : isLinked s.sessDevLinkState = true) (hnode : s.sessNode = some n)
    (hn : e.nodes.sess n = some p) (hk : NodeQueue.ofProto s.protoType = some k) :
    (∀ q, q ≠ p → e'.heap q = e.heap q) ∧
    ∃ L, e.nodes.links.remove (s.devId.toNat, k) n = some L ∧
      L.insertTail (s.devId.toNat, .free) n = some e'.nodes.links ∧
      e'.nodes.sess = Function.update e.nodes.sess n none := by
  simp only [recycleNodeOf, Prog.bind_ok, deref_ok] at h
  obtain ⟨s', _, ⟨hs, rfl⟩, h⟩ := h
  cases hp.symm.trans hs
  rw [if_neg (by omega), if_pos hlink] at h
  simp only [Prog.bind_ok, Prog.ofOption_ok, setNodeSess_ok, pushFreeSessionNode] at h
  obtain ⟨n', _, ⟨hn', rfl⟩, _, _, hr, _, _, rfl, hi⟩ := h
  cases hnode.symm.trans hn'
  obtain ⟨L, hL, rfl⟩ := removeSessionNode_ok hr hn hp hk hlink
  obtain ⟨links, hl, rfl⟩ := insertNode_ok hi
  refine ⟨fun q hq => by simp [hq], L, hL, hl, rfl⟩

/-- All but the node is taken from the session `p`. -/
structure Detached (e : Engine) (p : SessPtr) (s : BackendSession) (t : Engine) : Prop where
  live : e.heap p = some s
  listed : p ∈ e.htable
  fields : t =
    { e with
      heap := t.heap, queue := t.queue, epoll := t.epoll
      htable := e.htable.erase p
      sessNum := e.sessNum - 1
      idQueue := e.idQueue ++ [s.backendSessId] }
  own : ∃ s₁, t.heap p = some s₁ ∧ s₁.devId = s.devId ∧ s₁.protoType = s.protoType ∧
    s₁.sessNode = s.sessNode ∧ s₁.sessDevLinkState = s.sessDevLinkState
  others : ∀ q, q ≠ p → t.heap q = e.heap q
  unlinked : ∀ d, isLinked (s.state d) = false → t.queue d = e.queue d
  removed : ∀ d, isLinked (s.state d) = true → (e.queue d).remove () p = some (t.queue d)
  epoll : ∀ r ∈ t.epoll, r ∈ e.epoll ∧ r.1 ≠ s.sockFd

/-- A deletion detaches the session, gives its node back and frees it. -/
theorem delete_steps {st : ProcessStatus} {env : DeleteEnv}
    (h : highSpeedDeleteSess p env e = .ok (st, e')) :
    ∃ s t v, Detached e p s t ∧ recycleNodeOf p t = .ok ((), v) ∧
      e' = { v with heap := Function.update v.heap p none } := by
  simp only [highSpeedDeleteSess, Prog.bind_ok, deref_ok, closeFd_ok, Prog.modify_ok, store_ok,
    freeSession_ok, Prog.pure_ok] at h
  obtain ⟨_, _, hun, s₁, _, ⟨hs₁, rfl⟩, _, _, rfl, _, _, hdel, _, _, rfl, _, e₃, hf2b, _, e₄, hb2f,
    s₄, _, ⟨hs₄, rfl⟩, _, _, rfl, _, _, hrel, _, v, hnode, _, _, rfl, rfl, rfl⟩ := h
  obtain ⟨s, hs, -, rfl⟩ := unregisterEpoll_ok hun
  cases (Function.update_self p _ _).symm.trans hs₁
  obtain ⟨hlisted, rfl⟩ := hashDel_ok hdel
  cases releaseId_ok hrel
  obtain ⟨f₁, Q₁, rfl, hkeep₁, hrem₁⟩ := unlinkFromQueue_ok hf2b (Function.update_self p _ _)
  obtain ⟨f₂, Q₂, rfl, hkeep₂, hrem₂⟩ := unlinkFromQueue_ok hb2f (Function.update_self p _ _)
  cases (Function.update_self p _ _).symm.trans hs₄
  refine ⟨s, _, v, ⟨hs, hlisted, rfl, ?_, ?_, ?_, ?_, ?_⟩, hnode, rfl⟩
  · dsimp only
    rw [Function.update_self]
    exact ⟨_, rfl, rfl, rfl, rfl, rfl⟩
  · intro q hq
    simp [hq]
  · intro d hd
    cases d with
    | f2b => simpa using hkeep₁ hd
    | b2f => simpa using hkeep₂ hd
  · intro d hd
    cases d with
    | f2b => simpa using hrem₁ hd
    | b2f => simpa using hrem₂ hd
  · intro r hr
    simp only [List.mem_filter, bne_iff_ne] at hr
    refine ⟨?_, hr.2⟩
    split at hr
    · exact List.mem_of_mem_filter hr.1
    · exact hr.1

theorem delete_ok {st : ProcessStatus} {env : DeleteEnv}
    (h : highSpeedDeleteSess p env e = .ok (st, e')) : ∃ s, Deleted e p s e' := by
  obtain ⟨s, t, v, hdet, hnode, rfl⟩ := delete_steps h
  have hsame := recycleNodeOf_same hnode
  have hfields := hsame.fields
  rw [hdet.fields] at hfields
  refine ⟨s, hdet.live, hdet.listed, by rw [hfields], by rw [hfields], by rw [hfields], ?_, ?_,
    by simp, ?_, ?_, by rw [hfields], by rw [hfields], by rw [hfields], by rw [hfields], ?_⟩
  · intro d hd
    rw [hfields]
    exact hdet.unlinked d hd
  · intro d hd
    rw [hfields]
    exact hdet.removed d hd
  · intro q hq
    have := hsame.sessions q
    simpa [hq, hdet.others q hq] using this
  · intro r hr
    rw [hfields] at hr
    exact hdet.epoll r hr
  · intro n k hlow hhigh hlink hn hns hk
    obtain ⟨s₁, hs₁, hdev, hproto, hsn, hstate⟩ := hdet.own
    have hnodes : t.nodes = e.nodes := by rw [hdet.fields]
    obtain ⟨hheap, hgiven⟩ := recycleNodeOf_given hnode hs₁ (hdev ▸ hlow) (hdev ▸ hhigh)
      (hstate ▸ hlink) (hsn ▸ hn) (hnodes ▸ hns) (hproto ▸ hk)
    rw [hnodes, hdev] at hgiven
    refine ⟨fun q hq => ?_, hgiven⟩
    have := hheap q hq
    simpa [hq, hdet.others q hq] using this

end Delete

end BackendProxy.Pool
