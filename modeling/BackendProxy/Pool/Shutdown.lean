import BackendProxy.Pool.Disposal

namespace BackendProxy.Pool

open Lib Lib.Tailq Queue

/-! The destruction of the devices, which ends all sessions. -/

/-- The listening port and socket of a device. -/
structure TcpListener where
  port : Int
  fd : Int

namespace Disposal

def closeListener (d : Nat) (listener : TcpListener) : DisposalM Unit :=
  if listener.port > 0 then
    if listener.fd ≠ -1 then do
      inside (closeFd listener.fd)
      enter [.listener d]
    else pure ()
  else pure ()

/-- A node that names no session leads through a NULL pointer. -/
def clearDevLink (n : NodePtr) : DisposalM SessPtr := do
  let w ← get
  let p ← Prog.ofOption .undefined (w.engine.nodes.sess n)
  let s ← inside (deref p)
  inside (Pool.store p
    { s with sessDevLinkState := s.sessDevLinkState &&& ~~~backendSessLinkedToDevNode })
  pure p

/-- The body of the loop over the UDP or TCP queue. -/
def releaseSessionNode (d : Nat) (k : NodeQueue) (env : SessPtr → DeleteEnv) (n : NodePtr) :
    DisposalM Unit := do
  inside (removeNode d k n)
  let p ← clearDevLink n
  let _ ← highSpeedDeleteSess p (env p)
  enter [.node n]

/-- The body of the loop over the free queue. -/
def releaseFreeNode (d : Nat) (n : NodePtr) : DisposalM Unit := do
  inside (removeNode d .free n)
  enter [.node n]

/-- `TAILQ_FOREACH_SAFE` over a node queue, from `cur` on. -/
def releaseNodes (release : NodePtr → DisposalM Unit) : Nat → Option NodePtr → DisposalM Unit
  | _, none => pure ()
  | 0, some _ => Prog.halt .endless
  | fuel + 1, some n => do
    let w ← get
    let next := w.engine.nodes.links.next n
    release n
    releaseNodes release fuel next

/-- The loop over a node queue and the `TAILQ_INIT` behind it. -/
def emptyNodeQueue (fuel d : Nat) (k : NodeQueue) (release : NodePtr → DisposalM Unit) :
    DisposalM Unit := do
  let w ← get
  releaseNodes release fuel (w.engine.nodes.links.first (d, k))
  inside (modify fun e =>
    { e with nodes := { e.nodes with links := e.nodes.links.init (d, k) } })

/-- One round of the loop over the devices. -/
def releaseDevice (fuel : Nat) (env : SessPtr → DeleteEnv) (listener : TcpListener) (d : Nat) :
    DisposalM Unit := do
  closeListener d listener
  emptyNodeQueue fuel d .tcp (releaseSessionNode d .tcp env)
  emptyNodeQueue fuel d .udp (releaseSessionNode d .udp env)
  emptyNodeQueue fuel d .free (releaseFreeNode d)

def releaseDevices (fuel : Nat) (env : SessPtr → DeleteEnv) (listener : Nat → TcpListener) :
    List Nat → DisposalM Unit
  | [] => pure ()
  | d :: ds => do
    releaseDevice fuel env (listener d) d
    releaseDevices fuel env listener ds

/-- `fuel` bounds the rounds of each loop over a queue. -/
def engineDestoryHsNetDev (fuel : Nat) (env : SessPtr → DeleteEnv)
    (listener : Nat → TcpListener) : DisposalM Unit := do
  let w ← get
  releaseDevices fuel env listener (List.range w.engine.devNum)
  inside (modify fun e => { e with epoll := [] })
  enter [.poller]

end Disposal

/-! What was released. -/

def Release.node? : Release → Option NodePtr
  | .node n => some n
  | _ => none

def Release.session? : Release → Option SessPtr
  | .session p => some p
  | _ => none

def Release.socket? : Release → Option (SessPtr × Int)
  | .socket p fd => some (p, fd)
  | _ => none

/-- The sessions of the table with their sockets. -/
def Engine.tableSockets (e : Engine) : List (SessPtr × Int) :=
  e.htable.filterMap fun p => (e.heap p).map fun s => (p, s.sockFd)

/-- Segments aside, one round releases a socket, a session and a node. -/
theorem round_filterMap {β : Type} {f : Release → Option β} (p : SessPtr) (s : BackendSession)
    (n : NodePtr) (hf : ∀ d seg, f (.segment p d seg) = none) :
    (deleteReleases p s ++ [Release.node n]).filterMap f =
      (f (.socket p s.sockFd)).toList ++ (f (.session p)).toList ++ (f (.node n)).toList := by
  have hnone : ∀ d, ((s.msg d).map (Release.segment p d)).filterMap f = [] := by
    intro d
    rw [List.filterMap_map, List.filterMap_eq_nil_iff]
    exact fun seg _ => hf d seg
  have hone : ∀ r, [r].filterMap f = (f r).toList := by
    intro r
    cases hr : f r <;> simp [hr]
  simp only [deleteReleases, List.filterMap_append, hnone, hone, List.append_nil]

/-- From `w` to `w'` the nodes `ns` are freed, in this order, and sessions and sockets move from the
table to what is released. -/
structure Progress (ns : List NodePtr) (w w' : Disposal) : Prop where
  nodes : w'.released.filterMap Release.node? = w.released.filterMap Release.node? ++ ns
  sessions : (w'.released.filterMap Release.session? ++ w'.engine.htable).Perm
    (w.released.filterMap Release.session? ++ w.engine.htable)
  sockets : (w'.released.filterMap Release.socket? ++ w'.engine.tableSockets).Perm
    (w.released.filterMap Release.socket? ++ w.engine.tableSockets)
  table : w'.engine.htable ⊆ w.engine.htable
  devNum : w'.engine.devNum = w.engine.devNum

theorem Progress.refl (w : Disposal) : Progress [] w w :=
  ⟨(List.append_nil _).symm, .refl _, .refl _, fun _ hp => hp, rfl⟩

theorem Progress.trans {ns ns' : List NodePtr} {w w' w'' : Disposal} (h : Progress ns w w')
    (h' : Progress ns' w' w'') : Progress (ns ++ ns') w w'' := by
  refine ⟨?_, h'.sessions.trans h.sessions, h'.sockets.trans h.sockets,
    fun _ hp => h.table (h'.table hp), h'.devNum.trans h.devNum⟩
  rw [h'.nodes, h.nodes, List.append_assoc]

/-- Nothing but the node queues and the poller change. -/
theorem Progress.quiet {ns : List NodePtr} {w w' : Disposal} {rs : List Release}
    (hreleased : w'.released = w.released ++ rs) (hnodes : rs.filterMap Release.node? = ns)
    (hsessions : rs.filterMap Release.session? = [])
    (hsockets : rs.filterMap Release.socket? = [])
    (htable : w'.engine.htable = w.engine.htable) (hheap : w'.engine.heap = w.engine.heap)
    (hdev : w'.engine.devNum = w.engine.devNum) : Progress ns w w' := by
  refine ⟨?_, ?_, ?_, fun _ hp => htable ▸ hp, hdev⟩
  · rw [hreleased, List.filterMap_append, hnodes]
  · rw [hreleased, List.filterMap_append, hsessions, List.append_nil, htable]
  · rw [hreleased, List.filterMap_append, hsockets, List.append_nil, Engine.tableSockets,
      Engine.tableSockets, htable, hheap]

/-! The states in between. -/

/-- The nodes on the UDP and TCP queues. -/
def InUse (e : Engine) (C : Nat × NodeQueue → List NodePtr) (n : NodePtr) : Prop :=
  ∃ h, h.1 < e.devNum ∧ h.2 ≠ .free ∧ n ∈ C h

/-- Each node in use serves a session of its own, and each session has such a node. -/
structure Served (e : Engine) (l : Dir → List SessPtr) (C : Nat × NodeQueue → List NodePtr) :
    Prop extends QueuesMatch e l where
  shelves : HoldsAll e.nodes.links C (fun h => h.1 < e.devNum)
  ids : (e.idQueue ++ e.tableIds).Perm fillIdQueue
  sessNum : e.sessNum = e.htable.length
  serving : ∀ n, InUse e C n → ∃ p ∈ e.htable, e.nodes.sess n = some p
  distinct : ∀ n n' p, InUse e C n → InUse e C n' → e.nodes.sess n = some p →
    e.nodes.sess n' = some p → n = n'
  served : ∀ p ∈ e.htable, ∃ n, InUse e C n ∧ e.nodes.sess n = some p

theorem Served.epoll {e : Engine} {l : Dir → List SessPtr} {C : Nat × NodeQueue → List NodePtr}
    (h : Served e l C) (epoll : List (Int × SessPtr)) : Served { e with epoll } l C :=
  ⟨⟨h.holds, h.linked, h.nodup, h.live⟩, h.shelves, h.ids, h.sessNum, h.serving, h.distinct,
    h.served⟩

/-! One node. -/

section Node

variable {e : Engine} {l : Dir → List SessPtr} {C : Nat × NodeQueue → List NodePtr} {d : Nat}
  {k : NodeQueue} {n n' : NodePtr} {rest : List NodePtr} {p : SessPtr} {s : BackendSession}
  {w : Disposal}

theorem removeNode_run {L : Links (Nat × NodeQueue) NodePtr}
    (h : e.nodes.links.remove (d, k) n = some L) :
    removeNode d k n e = .ok ((), { e with nodes := { e.nodes with links := L } }) := by
  unfold removeNode
  rw [Prog.bind_of_ok (a := e) (t := e) rfl,
    Prog.bind_of_ok (a := L) (t := e) (Prog.ofOption_ok.mpr ⟨h, rfl⟩)]
  rfl

theorem clearDevLink_deref (hs : w.engine.heap p = some s) :
    Disposal.inside (deref p) w = .ok (s, w) :=
  Disposal.inside_run (deref_ok.mpr ⟨hs, rfl⟩)

theorem clearDevLink_run (hn : w.engine.nodes.sess n = some p)
    (hs : w.engine.heap p = some s) :
    Disposal.clearDevLink n w = .ok (p, { w with
      engine := { w.engine with
        heap := Function.update w.engine.heap p (some { s with
          sessDevLinkState := s.sessDevLinkState &&& ~~~backendSessLinkedToDevNode }) } }) := by
  unfold Disposal.clearDevLink
  rw [Prog.bind_of_ok (a := w) (t := w) rfl,
    Prog.bind_of_ok (a := p) (t := w) (Prog.ofOption_ok.mpr ⟨hn, rfl⟩),
    Prog.bind_of_ok (clearDevLink_deref hs)]
  rfl

/-- The nodes that are in use once the first of a queue is gone. -/
theorem inUse_removed (hshelves : HoldsAll e.nodes.links C (fun h => h.1 < e.devNum))
    (hd : d < e.devNum) (hC : C (d, k) = n :: rest) {e' : Engine} (hdev : e'.devNum = e.devNum)
    (h : InUse e' (Function.update C (d, k) rest) n') : InUse e C n' ∧ n' ≠ n := by
  obtain ⟨⟨d', k'⟩, hd', hk', hmem⟩ := h
  rw [hdev] at hd'
  have hout : n ∉ Function.update C (d, k) rest (d', k') :=
    hshelves.not_mem_of_removed (a := []) hd hC hd'
  refine ⟨⟨(d', k'), hd', hk', ?_⟩, ?_⟩
  · by_cases hh : (d', k') = (d, k)
    · rw [hh, Function.update_self] at hmem
      rw [hh, hC]
      exact List.mem_cons_of_mem n hmem
    · rwa [Function.update_of_ne hh] at hmem
  · rintro rfl
    exact hout hmem

theorem inUse_kept (hC : C (d, k) = n :: rest) {e' : Engine} (hdev : e'.devNum = e.devNum)
    (h : InUse e C n') (hne : n' ≠ n) : InUse e' (Function.update C (d, k) rest) n' := by
  obtain ⟨h, hh, hk, hmem⟩ := h
  refine ⟨h, hdev ▸ hh, hk, ?_⟩
  by_cases heq : h = (d, k)
  · subst heq
    rw [Function.update_self]
    exact (List.mem_cons.mp (hC ▸ hmem)).resolve_left hne
  · rwa [Function.update_of_ne heq]

/-- The engine without the session `p` and with its node unlinked. The device-link bit was cleared
before, so the node does not go back to the free queue. -/
def Engine.withoutNode (e : Engine) (p : SessPtr) (s : BackendSession) (epollDel : Bool)
    (queue : Dir → Links Unit SessPtr) (L : Links (Nat × NodeQueue) NodePtr) : Engine :=
  e.without p s epollDel queue { e.nodes with links := L }

theorem Served.withoutNode {queue : Dir → Links Unit SessPtr}
    {L : Links (Nat × NodeQueue) NodePtr} (h : Served e l C) (hd : d < e.devNum)
    (hk : k ≠ .free) (hC : C (d, k) = n :: rest) (hn : e.nodes.sess n = some p)
    (hs : e.heap p = some s) (hL : e.nodes.links.remove (d, k) n = some L)
    (hholds : ∀ dir, Holds (queue dir) () ((l dir).erase p)) (epollDel : Bool) :
    Served (e.withoutNode p s epollDel queue L) (fun dir => (l dir).erase p)
      (Function.update C (d, k) rest) := by
  have huse : InUse e C n := ⟨(d, k), hd, hk, hC ▸ List.mem_cons_self⟩
  have hp : p ∈ e.htable := by
    obtain ⟨q, hq, hn'⟩ := h.serving n huse
    cases hn.symm.trans hn'
    exact hq
  have herase : ∀ q, q ∈ e.htable.erase p ↔ q ≠ p ∧ q ∈ e.htable :=
    fun q => h.nodup.mem_erase_iff
  refine ⟨h.toQueuesMatch.without hholds epollDel _,
    h.shelves.remove (h := (d, k)) (a := []) hd hC hL, ?_, ?_, ?_, ?_, ?_⟩
  · have hids : (s.backendSessId :: (e.withoutNode p s epollDel queue L).tableIds).Perm
        e.tableIds := tableIds_erase hp hs rfl fun q hq =>
      congrArg (Option.map _) (without_heap ((herase q).mp hq).1)
    change (e.idQueue ++ [s.backendSessId] ++ _).Perm _
    rw [List.append_assoc]
    exact (hids.append_left _).trans h.ids
  · have hpos := List.length_pos_of_mem hp
    change e.sessNum - 1 = ((e.htable.erase p).length : Int)
    rw [h.sessNum, List.length_erase_of_mem hp]
    omega
  · intro n' huse'
    obtain ⟨hbefore, hne⟩ := inUse_removed h.shelves hd hC rfl huse'
    obtain ⟨q, hq, hn'⟩ := h.serving n' hbefore
    refine ⟨q, (herase q).mpr ⟨?_, hq⟩, hn'⟩
    rintro rfl
    exact hne (h.distinct n' n q hbefore huse hn' hn)
  · intro n₁ n₂ q huse₁ huse₂ h₁ h₂
    exact h.distinct n₁ n₂ q (inUse_removed h.shelves hd hC rfl huse₁).1
      (inUse_removed h.shelves hd hC rfl huse₂).1 h₁ h₂
  · intro q hq
    obtain ⟨hne, hin⟩ := (herase q).mp hq
    obtain ⟨n', huse', hn'⟩ := h.served q hin
    refine ⟨n', inUse_kept hC rfl huse' ?_, hn'⟩
    rintro rfl
    exact hne (Option.some.inj (hn'.symm.trans hn))

theorem progress_withoutNode {queue : Dir → Links Unit SessPtr} {epollDel : Bool}
    {L : Links (Nat × NodeQueue) NodePtr} {released : List Release} {t : BackendSession}
    (hp : p ∈ e.htable) (hs : e.heap p = some s) (hnd : e.htable.Nodup) (ht : t.sockFd = s.sockFd) :
    Progress [n] ⟨e, released⟩
      ⟨e.withoutNode p s epollDel queue L, released ++ deleteReleases p t ++ [.node n]⟩ := by
  have hone {β : Type} {f : Release → Option β} (hf : ∀ d seg, f (.segment p d seg) = none) :
      (released ++ deleteReleases p t ++ [Release.node n]).filterMap f =
        released.filterMap f ++ ((f (.socket p t.sockFd)).toList ++ (f (.session p)).toList ++
          (f (.node n)).toList) := by
    rw [List.append_assoc, List.filterMap_append, round_filterMap p t n hf]
  refine ⟨hone fun _ _ => rfl, ?_, ?_, List.erase_subset, rfl⟩
  · rw [hone fun _ _ => rfl, List.append_assoc]
    exact (List.perm_cons_erase hp).symm.append_left _
  · have hsockets : ((p, s.sockFd) :: (e.withoutNode p s epollDel queue L).tableSockets).Perm
        e.tableSockets := by
      refine filterMap_erase_perm hp (by rw [hs]; rfl) fun q hq => ?_
      have hne := (hnd.mem_erase_iff.mp hq).1
      exact congrArg (Option.map _) (without_heap hne)
    rw [hone fun _ _ => rfl, List.append_assoc, ht]
    exact hsockets.append_left _

/-- A node of a queue is freed with its session. -/
theorem releaseSessionNode_run (h : Served w.engine l C) (hd : d < w.engine.devNum)
    (hk : k ≠ .free) (hC : C (d, k) = n :: rest) (env : SessPtr → DeleteEnv) :
    (∃ p ∈ w.engine.htable, (env p).idMemory = false) ∧
        Disposal.releaseSessionNode d k env n w = .error .exit ∨
      ∃ w' l', Disposal.releaseSessionNode d k env n w = .ok ((), w') ∧
        Served w'.engine l' (Function.update C (d, k) rest) ∧ Progress [n] w w' := by
  obtain ⟨e, released⟩ := w
  obtain ⟨p, hp, hn⟩ := h.serving n ⟨(d, k), hd, hk, hC ▸ List.mem_cons_self⟩
  obtain ⟨s, hs, harg⟩ := h.live p hp
  obtain ⟨L, hL, -⟩ := Holds.remove (a := []) (hC ▸ h.shelves.holds (d, k) hd)
  obtain ⟨queue, hqueue, hholds⟩ := h.unlink hp hs
  let t := { s with sessDevLinkState := s.sessDevLinkState &&& ~~~backendSessLinkedToDevNode }
  let e₁ : Engine := { e with nodes := { e.nodes with links := L } }
  let e₂ : Engine := { e₁ with heap := Function.update e.heap p (some t) }
  have hlive : ∀ q ∈ e.htable, ∃ r, e₂.heap q = some r := by
    intro q hq
    by_cases hqp : q = p
    · subst hqp
      exact ⟨t, Function.update_self _ _ _⟩
    · obtain ⟨r, hr, -⟩ := h.live q hq
      exact ⟨r, (Function.update_of_ne hqp _ _).trans hr⟩
  have hclear : Disposal.clearDevLink n ⟨e₁, released⟩ = .ok (p, ⟨e₂, released⟩) :=
    clearDevLink_run hn hs
  have hheap : e₂.heap p = some t := Function.update_self _ _ _
  have huntied : GivenBack e₂ p t e₂.nodes := .untied (isLinked_clear _)
  have hrun := Disposal.delete_run released (env p) hheap harg hp hlive
    ⟨hqueue.removed, hqueue.kept⟩ huntied
  have hend : e₂.without p t (env p).epollDel queue e₂.nodes =
      e.withoutNode p s (env p).epollDel queue L := by
    simp only [Engine.without, Engine.withoutNode, e₂, e₁, t, Function.update_idem, epollWithout]
  rw [hend] at hrun
  unfold Disposal.releaseSessionNode
  rw [Prog.bind_of_ok (Disposal.inside_run (removeNode_run hL)), Prog.bind_of_ok hclear]
  cases hm : (env p).idMemory with
  | false =>
    rw [hm] at hrun
    exact .inl ⟨⟨p, hp, hm⟩, Prog.bind_of_error hrun⟩
  | true =>
    rw [hm, if_pos rfl] at hrun
    rw [Prog.bind_of_ok hrun]
    exact .inr ⟨_, _, rfl, h.withoutNode hd hk hC hn hs hL hholds (env p).epollDel,
      progress_withoutNode hp hs h.nodup rfl⟩

end Node

/-! The loops. -/

/-- The program returns, the nodes `ns` being freed and `C` left on the queues, or it ends the
process for want of memory. -/
def Releases (env : SessPtr → DeleteEnv) (x : DisposalM Unit) (w : Disposal)
    (C : Nat × NodeQueue → List NodePtr) (ns : List NodePtr) : Prop :=
  (∃ p ∈ w.engine.htable, (env p).idMemory = false) ∧ x w = .error .exit ∨
    ∃ w' l, x w = .ok ((), w') ∧ Served w'.engine l C ∧ Progress ns w w'

section Loops

variable {env : SessPtr → DeleteEnv} {w : Disposal} {l : Dir → List SessPtr}
  {C C' : Nat × NodeQueue → List NodePtr} {d : Nat} {k : NodeQueue} {ns ns' : List NodePtr}

theorem Releases.bind {x : DisposalM Unit} {y : Unit → DisposalM Unit}
    (hx : Releases env x w C ns)
    (hy : ∀ w' l, Served w'.engine l C → w'.engine.devNum = w.engine.devNum →
      Releases env (y ()) w' C' ns') : Releases env (x >>= y) w C' (ns ++ ns') := by
  rcases hx with ⟨hm, hexit⟩ | ⟨w₁, l₁, hrun, hserved, hprogress⟩
  · exact .inl ⟨hm, Prog.bind_of_error hexit⟩
  · rcases hy w₁ l₁ hserved hprogress.devNum with
      ⟨⟨p, hp, hm⟩, hexit⟩ | ⟨w₂, l₂, hrun₂, hserved₂, hprogress₂⟩
    · exact .inl ⟨⟨p, hprogress.table hp, hm⟩, (Prog.bind_of_ok hrun).trans hexit⟩
    · exact .inr ⟨w₂, l₂, (Prog.bind_of_ok hrun).trans hrun₂, hserved₂,
        hprogress.trans hprogress₂⟩

theorem Releases.congr {x y : DisposalM Unit} (hy : Releases env y w C ns) (h : x w = y w) :
    Releases env x w C ns := by
  unfold Releases
  rw [h]
  exact hy

theorem releases_pure (h : Served w.engine l C) : Releases env (pure ()) w C [] :=
  .inr ⟨w, l, rfl, h, .refl w⟩

/-- The nodes of the free queue serve nobody. -/
theorem Served.withoutFree {e : Engine} {n : NodePtr} {rest : List NodePtr}
    {L : Links (Nat × NodeQueue) NodePtr} (h : Served e l C) (hd : d < e.devNum)
    (hC : C (d, .free) = n :: rest) (hL : e.nodes.links.remove (d, .free) n = some L) :
    Served { e with nodes := { e.nodes with links := L } } l
      (Function.update C (d, .free) rest) := by
  have huse : ∀ n', InUse { e with nodes := { e.nodes with links := L } }
      (Function.update C (d, .free) rest) n' ↔ InUse e C n' := by
    intro n'
    refine exists_congr fun h => ?_
    constructor
    · rintro ⟨hh, hk, hmem⟩
      rw [Function.update_of_ne (fun heq => hk (congrArg Prod.snd heq))] at hmem
      exact ⟨hh, hk, hmem⟩
    · rintro ⟨hh, hk, hmem⟩
      refine ⟨hh, hk, ?_⟩
      rwa [Function.update_of_ne fun heq => hk (congrArg Prod.snd heq)]
  refine ⟨⟨h.holds, h.linked, h.nodup, h.live⟩,
    h.shelves.remove (h := (d, .free)) (a := []) hd hC hL, h.ids, h.sessNum, ?_, ?_, ?_⟩
  · intro n' hn'
    exact h.serving n' ((huse n').mp hn')
  · intro n₁ n₂ p h₁ h₂
    exact h.distinct n₁ n₂ p ((huse n₁).mp h₁) ((huse n₂).mp h₂)
  · intro p hp
    obtain ⟨n', hn', hsess⟩ := h.served p hp
    exact ⟨n', (huse n').mpr hn', hsess⟩

theorem releaseFreeNode_run {n : NodePtr} {rest : List NodePtr} (h : Served w.engine l C)
    (hd : d < w.engine.devNum) (hC : C (d, .free) = n :: rest) :
    Releases env (Disposal.releaseFreeNode d n) w (Function.update C (d, .free) rest) [n] := by
  obtain ⟨L, hL, -⟩ := Holds.remove (a := []) (hC ▸ h.shelves.holds (d, .free) hd)
  refine .inr ⟨_, l, Prog.bind_of_ok (Disposal.inside_run (removeNode_run hL)),
    h.withoutFree hd hC hL, .quiet rfl rfl rfl rfl rfl rfl rfl⟩

/-- A loop whose body frees the first node of the queue frees all of them. -/
theorem releaseNodes_run {release : NodePtr → DisposalM Unit}
    (hbody : ∀ w l C n rest, Served w.engine l C → d < w.engine.devNum → C (d, k) = n :: rest →
      Releases env (release n) w (Function.update C (d, k) rest) [n])
    (fuel : Nat) (h : Served w.engine l C) (hd : d < w.engine.devNum) (hC : C (d, k) = ns)
    (hfuel : ns.length ≤ fuel) :
    Releases env (Disposal.releaseNodes release fuel ns.head?) w
      (Function.update C (d, k) []) ns := by
  induction ns generalizing fuel w l C with
  | nil =>
    rw [← hC, Function.update_eq_self, hC]
    cases fuel <;> exact releases_pure h
  | cons n rest ih =>
    cases fuel with
    | zero => simp at hfuel
    | succ fuel =>
      have hnext : w.engine.nodes.links.next n = rest.head? :=
        Holds.next (a := []) (hC ▸ h.shelves.holds (d, k) hd)
      have hloop : Releases env
          (release n >>= fun _ => Disposal.releaseNodes release fuel rest.head?) w
          (Function.update C (d, k) []) (n :: rest) := by
        refine (hbody w l C n rest h hd hC).bind fun w' l' hserved hdev => ?_
        have := ih fuel hserved (hdev ▸ hd) (Function.update_self _ _ _)
          (Nat.le_of_succ_le_succ hfuel)
        rwa [Function.update_idem] at this
      refine hloop.congr ?_
      rw [← hnext]
      rfl

theorem emptyNodeQueue_run {release : NodePtr → DisposalM Unit} {fuel : Nat}
    (hbody : ∀ w l C n rest, Served w.engine l C → d < w.engine.devNum → C (d, k) = n :: rest →
      Releases env (release n) w (Function.update C (d, k) rest) [n])
    (h : Served w.engine l C) (hd : d < w.engine.devNum) (hfuel : (C (d, k)).length ≤ fuel) :
    Releases env (Disposal.emptyNodeQueue fuel d k release) w (Function.update C (d, k) [])
      (C (d, k)) := by
  let reinit : DisposalM Unit := Disposal.inside (modify fun e =>
    { e with nodes := { e.nodes with links := e.nodes.links.init (d, k) } })
  have hboth : Releases env
      (Disposal.releaseNodes release fuel (C (d, k)).head? >>= fun _ => reinit) w
      (Function.update C (d, k) []) (C (d, k) ++ []) := by
    refine (releaseNodes_run hbody fuel h hd rfl hfuel).bind fun w' l' h' _ => ?_
    have hempty : Function.update C (d, k) [] (d, k) = [] := Function.update_self _ _ _
    exact .inr ⟨_, l', rfl, ⟨⟨h'.holds, h'.linked, h'.nodup, h'.live⟩, h'.shelves.reinit hempty,
      h'.ids, h'.sessNum, h'.serving, h'.distinct, h'.served⟩,
      .quiet (List.append_nil _).symm rfl rfl rfl rfl rfl rfl⟩
  rw [List.append_nil] at hboth
  refine hboth.congr ?_
  rw [← (h.shelves.holds (d, k) hd).first]
  rfl

theorem closeListener_run (h : Served w.engine l C) (listener : TcpListener) :
    Releases env (Disposal.closeListener d listener) w C [] := by
  unfold Disposal.closeListener
  split
  · split
    · exact .inr ⟨_, l, rfl, h.epoll _, .quiet rfl rfl rfl rfl rfl rfl rfl⟩
    · exact releases_pure h
  · exact releases_pure h

/-- The nodes of a device, in the order in which they are freed. -/
def deviceNodes (C : Nat × NodeQueue → List NodePtr) (d : Nat) : List NodePtr :=
  C (d, .tcp) ++ (C (d, .udp) ++ C (d, .free))

/-- The node queues once those of the devices `ds` are empty. -/
def emptied (ds : List Nat) (C : Nat × NodeQueue → List NodePtr) :
    Nat × NodeQueue → List NodePtr :=
  fun h => if h.1 ∈ ds then [] else C h

theorem releaseDevice_run {fuel : Nat} (listener : TcpListener) (h : Served w.engine l C)
    (hd : d < w.engine.devNum) (hfuel : ∀ k, (C (d, k)).length ≤ fuel) :
    Releases env (Disposal.releaseDevice fuel env listener d) w (emptied [d] C)
      (deviceNodes C d) := by
  let C₁ := Function.update C (d, NodeQueue.tcp) []
  let C₂ := Function.update C₁ (d, NodeQueue.udp) []
  have hudp : C₁ (d, .udp) = C (d, .udp) := Function.update_of_ne (by simp) _ _
  have hfree : C₂ (d, .free) = C (d, .free) :=
    (Function.update_of_ne (by simp) _ _).trans (Function.update_of_ne (by simp) _ _)
  have hlast : Function.update C₂ (d, .free) [] = emptied [d] C := by
    funext h
    obtain ⟨d', k⟩ := h
    cases k <;> by_cases hd' : d' = d <;> simp [C₂, C₁, emptied, hd']
  have htake : ∀ k, k ≠ .free → ∀ w l C n rest, Served w.engine l C → d < w.engine.devNum →
      C (d, k) = n :: rest → Releases env (Disposal.releaseSessionNode d k env n) w
        (Function.update C (d, k) rest) [n] :=
    fun k hk w l C n rest h hd hC => releaseSessionNode_run h hd hk hC env
  unfold Disposal.releaseDevice deviceNodes
  refine (closeListener_run h listener).bind fun w₁ l₁ h₁ hdev₁ => ?_
  refine (emptyNodeQueue_run (htake .tcp (by decide)) h₁ (hdev₁ ▸ hd)
    (hfuel .tcp)).bind fun w₂ l₂ h₂ hdev₂ => ?_
  rw [← hudp]
  refine (emptyNodeQueue_run (htake .udp (by decide)) h₂ (by omega)
    (le_of_eq_of_le (congrArg List.length hudp) (hfuel .udp))).bind fun w₃ l₃ h₃ hdev₃ => ?_
  rw [← hfree, ← hlast]
  exact emptyNodeQueue_run (fun w l C n rest h hd hC => releaseFreeNode_run h hd hC) h₃ (by omega)
    (le_of_eq_of_le (congrArg List.length hfree) (hfuel .free))

theorem releaseDevices_run {fuel : Nat} (listener : Nat → TcpListener) (ds : List Nat)
    (hnd : ds.Nodup) (h : Served w.engine l C) (hds : ∀ d ∈ ds, d < w.engine.devNum)
    (hfuel : ∀ d ∈ ds, ∀ k, (C (d, k)).length ≤ fuel) :
    Releases env (Disposal.releaseDevices fuel env listener ds) w (emptied ds C)
      (ds.flatMap (deviceNodes C)) := by
  induction ds generalizing w l C with
  | nil =>
    have hsame : emptied [] C = C := by
      funext h
      simp [emptied]
    rw [hsame]
    exact releases_pure h
  | cons d ds ih =>
    obtain ⟨hout, hnd⟩ := List.nodup_cons.mp hnd
    have hkept : ∀ d' ∈ ds, ∀ k, emptied [d] C (d', k) = C (d', k) := by
      intro d' hd' k
      have hne : d' ≠ d := by
        rintro rfl
        exact hout hd'
      simp [emptied, hne]
    have hnodes : ds.flatMap (deviceNodes C) = ds.flatMap (deviceNodes (emptied [d] C)) := by
      refine List.flatMap_congr fun d' hd' => ?_
      simp only [deviceNodes, hkept d' hd']
    have hall : emptied (d :: ds) C = emptied ds (emptied [d] C) := by
      funext h
      by_cases h₁ : h.1 = d <;> by_cases h₂ : h.1 ∈ ds <;> simp [emptied, h₁, h₂]
    rw [List.flatMap_cons, hnodes, hall]
    refine (releaseDevice_run (listener d) h (hds d List.mem_cons_self)
      (hfuel d List.mem_cons_self)).bind fun w' l' h' hdev => ih hnd h' ?_ ?_
    · intro d' hd'
      rw [hdev]
      exact hds d' (List.mem_cons_of_mem d hd')
    · intro d' hd' k
      rw [hkept d' hd']
      exact hfuel d' (List.mem_cons_of_mem d hd') k

end Loops

/-- Nothing is left of the sessions and session nodes of `e`, and each was released once. -/
structure AllReleased (e : Engine) (C : Nat × NodeQueue → List NodePtr) (w : Disposal) : Prop where
  nodeQueues : ∀ d k, d < e.devNum → Holds w.engine.nodes.links (d, k) []
  htable : w.engine.htable = []
  sessNum : w.engine.sessNum = 0
  ids : w.engine.idQueue.Perm fillIdQueue
  activeQueues : ∀ d, Holds (w.engine.queue d) () []
  nodes : w.released.filterMap Release.node? = (List.range e.devNum).flatMap (deviceNodes C)
  sessions : (w.released.filterMap Release.session?).Perm e.htable
  sockets : (w.released.filterMap Release.socket?).Perm e.tableSockets
  nodesOnce : (w.released.filterMap Release.node?).Nodup
  sessionsOnce : (w.released.filterMap Release.session?).Nodup

section Shutdown

variable {e : Engine} {l l' : Dir → List SessPtr} {C : Nat × NodeQueue → List NodePtr}

theorem deviceNodes_nodup (h : HoldsAll e.nodes.links C (fun h => h.1 < e.devNum)) :
    ((List.range e.devNum).flatMap (deviceNodes C)).Nodup := by
  have hapart : ∀ d k d' k', d < e.devNum → d' < e.devNum → (d, k) ≠ (d', k') →
      (C (d, k)).Disjoint (C (d', k')) := fun d k d' k' hd hd' => h.disjoint (d, k) (d', k') hd hd'
  refine List.nodup_flatMap.mpr ⟨?_, ?_⟩
  · intro d hd
    have hd := List.mem_range.mp hd
    have hnd : ∀ k, (C (d, k)).Nodup := fun k => (h.holds (d, k) hd).nodup
    have hlast := (hnd .udp).append (hnd .free) (hapart d _ d _ hd hd (by simp))
    refine (hnd .tcp).append hlast (List.disjoint_append_right.mpr ⟨?_, ?_⟩)
    · exact hapart d _ d _ hd hd (by simp)
    · exact hapart d _ d _ hd hd (by simp)
  · refine List.nodup_range.imp_of_mem fun {d d'} hd hd' hne => ?_
    have hd := List.mem_range.mp hd
    have hd' := List.mem_range.mp hd'
    have hpair : ∀ k k', (C (d, k)).Disjoint (C (d', k')) :=
      fun k k' => hapart d k d' k' hd hd' fun heq => hne (congrArg Prod.fst heq)
    simp only [Function.onFun, deviceNodes, List.disjoint_append_left,
      List.disjoint_append_right, hpair, and_self]

theorem served_allReleased {w : Disposal} (h : Served e l C)
    (h' : Served w.engine l' (emptied (List.range e.devNum) C))
    (hprogress : Progress ((List.range e.devNum).flatMap (deviceNodes C)) ⟨e, []⟩ w) :
    AllReleased e C w := by
  have hempty : ∀ h : Nat × NodeQueue, h.1 < e.devNum → emptied (List.range e.devNum) C h = [] :=
    fun h hh => if_pos (List.mem_range.mpr hh)
  have htable : w.engine.htable = [] := by
    refine List.eq_nil_iff_forall_not_mem.mpr fun p hp => ?_
    obtain ⟨n, ⟨q, hq, -, hn⟩, -⟩ := h'.served p hp
    rw [hempty q (hprogress.devNum ▸ hq)] at hn
    cases hn
  have hsessions := hprogress.sessions
  rw [htable, List.append_nil] at hsessions
  have hsockets := hprogress.sockets
  have hids := h'.ids
  rw [Engine.tableSockets, htable, List.filterMap_nil, List.append_nil] at hsockets
  rw [Engine.tableIds, htable, List.filterMap_nil, List.append_nil] at hids
  refine ⟨?_, htable, ?_, hids, ?_, hprogress.nodes, hsessions, hsockets, ?_, ?_⟩
  · intro d k hd
    have := h'.shelves.holds (d, k) (hprogress.devNum.symm ▸ hd)
    rwa [hempty (d, k) hd] at this
  · rw [h'.sessNum, htable]
    rfl
  · intro d
    have hnone : l' d = [] := by
      refine List.eq_nil_iff_forall_not_mem.mpr fun p hp => ?_
      have := ((h'.linked d p).mp hp).1
      rw [htable] at this
      cases this
    exact hnone ▸ h'.holds d
  · rw [hprogress.nodes]
    exact deviceNodes_nodup h.shelves
  · exact hsessions.nodup_iff.mpr h.nodup

end Shutdown

/-- One session, and the first of its device's ten nodes. -/
theorem oneSession_served : ∃ e l C, Served e l C ∧ e.htable = [0] := by
  obtain ⟨e, s, l, C, he, htable, hs, hcons⟩ := oneSession_consistent
  obtain ⟨e', he', hview⟩ := reached_of_view
    (f := fun e => (e.devNum, e.nodes.sess (0, 0),
      [e.nodes.links.first (0, .tcp), e.nodes.links.next (0, 0), e.nodes.links.first (0, .udp)]))
    (b := (1, some 0, [some (0, 0), none, none]))
    (show (run mainStep oneDevice [.pool (.createActive tcpRequest goodEnv)]).toOption.map _ = _ by
      decide +kernel)
  cases he.symm.trans he'
  simp only [Prod.mk.injEq, List.cons.injEq, and_true] at hview
  obtain ⟨hdev, hsess, htcp, hnext, hudp⟩ := hview
  have hheld := fun k => hcons.shelves.holds (0, k) (by rw [hdev]; exact Nat.zero_lt_one)
  have htcp : C (0, .tcp) = [(0, 0)] := by
    rw [(hheld .tcp).first] at htcp
    obtain ⟨rest, hC⟩ := List.head?_eq_some_iff.mp htcp
    have hrest : rest.head? = none := by
      rw [← hnext]
      exact (Holds.next (a := []) (hC ▸ hheld .tcp)).symm
    rw [hC, List.head?_eq_none_iff.mp hrest]
  have hudp : C (0, .udp) = [] := by
    rw [(hheld .udp).first] at hudp
    exact List.head?_eq_none_iff.mp hudp
  have huse : ∀ n, InUse e C n ↔ n = (0, 0) := by
    intro n
    constructor
    · rintro ⟨⟨d, k⟩, hd, hk, hn⟩
      obtain rfl : d = 0 := by
        rw [hdev] at hd
        omega
      cases k with
      | free => exact absurd rfl hk
      | udp => simp [hudp] at hn
      | tcp => simpa [htcp] using hn
    · rintro rfl
      exact ⟨(0, .tcp), by rw [hdev]; exact Nat.zero_lt_one, by decide, by simp [htcp]⟩
  refine ⟨e, l, C, ⟨hcons.toQueuesMatch, hcons.shelves, hcons.ids, hcons.sessNum, ?_, ?_, ?_⟩,
    htable⟩
  · intro n hn
    exact ⟨0, by simp [htable], (huse n).mp hn ▸ hsess⟩
  · intro n n' p hn hn' _ _
    exact ((huse n).mp hn).trans ((huse n').mp hn').symm
  · intro p hp
    rw [htable, List.mem_singleton] at hp
    exact ⟨(0, 0), (huse _).mpr rfl, hp ▸ hsess⟩

/-- The destruction of the devices returns, unless there is no memory for the ID of a session, and
releases every session and every node once. -/
theorem shutdown_releases_once (e : Engine) (l : Dir → List SessPtr)
    (C : Nat × NodeQueue → List NodePtr) (h : Served e l C) (env : SessPtr → DeleteEnv)
    (listener : Nat → TcpListener) :
    ∃ N, ∀ fuel, N ≤ fuel →
      (∃ p ∈ e.htable, (env p).idMemory = false) ∧
          Disposal.engineDestoryHsNetDev fuel env listener ⟨e, []⟩ = .error .exit ∨
        ∃ w, Disposal.engineDestoryHsNetDev fuel env listener ⟨e, []⟩ = .ok ((), w) ∧
          AllReleased e C w := by
  refine ⟨((List.range e.devNum).flatMap (deviceNodes C)).length, fun fuel hfuel => ?_⟩
  have hbound : ∀ d ∈ List.range e.devNum, ∀ k, (C (d, k)).length ≤ fuel := by
    intro d hd k
    have hdevice : (C (d, k)).Sublist (deviceNodes C d) := by
      unfold deviceNodes
      cases k with
      | tcp => exact List.sublist_append_left _ _
      | udp => exact (List.sublist_append_left _ _).trans (List.sublist_append_right _ _)
      | free => exact (List.sublist_append_right _ _).trans (List.sublist_append_right _ _)
    have hall := List.sublist_flatten_of_mem (List.mem_map_of_mem (f := deviceNodes C) hd)
    exact (hdevice.trans hall).length_le.trans hfuel
  let poller : DisposalM Unit :=
    Disposal.inside (modify fun e => { e with epoll := [] }) >>= fun _ => Disposal.enter [.poller]
  have hrun : Disposal.engineDestoryHsNetDev fuel env listener ⟨e, []⟩ =
      (Disposal.releaseDevices fuel env listener (List.range e.devNum) >>= fun _ => poller)
        ⟨e, []⟩ := rfl
  rw [hrun]
  rcases releaseDevices_run listener (List.range e.devNum) List.nodup_range (w := ⟨e, []⟩) h
    (fun d hd => List.mem_range.mp hd) hbound with
    ⟨hm, hexit⟩ | ⟨w, l', hdevices, hserved, hprogress⟩
  · exact .inl ⟨hm, Prog.bind_of_error hexit⟩
  · refine .inr ⟨_, (Prog.bind_of_ok hdevices).trans rfl, served_allReleased h
      (hserved.epoll []) ?_⟩
    rw [← List.append_nil (List.flatMap _ _)]
    exact hprogress.trans (.quiet rfl rfl rfl rfl rfl rfl rfl)

/-- The only session and the ten nodes of its device. -/
theorem shutdown_releases_once_first :
    ∃ e l C, Served e l C ∧ e.htable = [0] ∧ ∃ N, ∀ fuel, N ≤ fuel → ∃ w,
      Disposal.engineDestoryHsNetDev fuel (fun _ => ⟨true, false, true⟩) (fun _ => ⟨80, 3⟩)
          ⟨e, []⟩ = .ok ((), w) ∧
        AllReleased e C w := by
  obtain ⟨e, l, C, hserved, htable⟩ := oneSession_served
  obtain ⟨N, hN⟩ := shutdown_releases_once e l C hserved (fun _ => ⟨true, false, true⟩)
    (fun _ => ⟨80, 3⟩)
  refine ⟨e, l, C, hserved, htable, N, fun fuel hfuel => ?_⟩
  rcases hN fuel hfuel with ⟨⟨p, -, hm⟩, -⟩ | hdone
  · cases hm
  · exact hdone

end BackendProxy.Pool
