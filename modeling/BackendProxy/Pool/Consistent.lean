import BackendProxy.Pool.Returning

namespace BackendProxy.Pool

open Lib Lib.Tailq Queue

/-! The exact result of a deletion, and the states it keeps consistent. -/

/-- The active queues `l` hold the sessions of the table whose link bit is set. -/
structure QueuesMatch (e : Engine) (l : Dir → List SessPtr) : Prop where
  holds : ∀ d, Holds (e.queue d) () (l d)
  linked : ∀ d p, p ∈ l d ↔
    p ∈ e.htable ∧ ∃ s, e.heap p = some s ∧ isLinked (s.state d) = true
  nodup : e.htable.Nodup
  live : ∀ p ∈ e.htable, ∃ s, e.heap p = some s ∧ s.netChannel.arg = true

/-- A session whose device-link bit is set has its node among the node queues `C`. -/
structure Intact (e : Engine) (l : Dir → List SessPtr) (C : Nat × NodeQueue → List NodePtr) : Prop
    extends QueuesMatch e l where
  shelves : HoldsAll e.nodes.links C (fun h => h.1 < e.devNum)
  tied : ∀ p s, p ∈ e.htable → e.heap p = some s → isLinked s.sessDevLinkState = true →
    Tied e C p s

/-- The IDs fit as well. -/
structure Consistent (e : Engine) (l : Dir → List SessPtr) (C : Nat × NodeQueue → List NodePtr) :
    Prop extends Intact e l C where
  ids : (e.idQueue ++ e.tableIds).Perm fillIdQueue
  sessNum : e.sessNum = e.htable.length

/-- The states of proper runs are intact. -/
theorem intact_of {e : Engine} (hfit : Fit e) (hlinks : LinksIntact e) : ∃ l C, Intact e l C := by
  obtain ⟨C, hshelved⟩ := hfit.shelved
  choose l hholds hlinked using hlinks
  have hqueues : QueuesMatch e l := ⟨hholds, hlinked, hshelved.nodup, hfit.live⟩
  exact ⟨l, C, hqueues, hshelved.shelves, fun p s hp hs _ => hshelved.tied p s hp hs⟩

theorem consistent_of {e : Engine} (hfit : Fit e) (hlinks : LinksIntact e)
    (hids : IdsConserved e) : ∃ l C, Consistent e l C := by
  obtain ⟨l, C, hintact⟩ := intact_of hfit hlinks
  exact ⟨l, C, hintact, hids.ids, hids.sessNum⟩

/-- The registrations left once the socket of `s` is unregistered and closed. -/
def epollWithout (epoll : List (Int × SessPtr)) (s : BackendSession) (epollDel : Bool) :
    List (Int × SessPtr) :=
  (if epollDel then epoll.filter fun r => r.1 != s.netChannel.sockFd else epoll).filter fun r =>
    r.1 != s.sockFd

/-- The engine without the session `p`, which was `s`. -/
def Engine.without (e : Engine) (p : SessPtr) (s : BackendSession) (epollDel : Bool)
    (queue : Dir → Links Unit SessPtr) (nodes : NodePool) : Engine :=
  { e with
    heap := Function.update e.heap p none
    htable := e.htable.erase p
    sessNum := e.sessNum - 1
    idQueue := e.idQueue ++ [s.backendSessId]
    queue
    nodes
    epoll := epollWithout e.epoll s epollDel }

/-- The active queues without `p`. -/
structure Unlinked (e : Engine) (p : SessPtr) (s : BackendSession)
    (queue : Dir → Links Unit SessPtr) : Prop where
  removed : ∀ d, isLinked (s.state d) = true → (e.queue d).remove () p = some (queue d)
  kept : ∀ d, isLinked (s.state d) = false → queue d = e.queue d

/-- The nodes once that of `p`, if it is tied to one, is back among the free nodes of its device. -/
inductive GivenBack (e : Engine) (p : SessPtr) (s : BackendSession) : NodePool → Prop
  | untied (h : isLinked s.sessDevLinkState = false) : GivenBack e p s e.nodes
  | node (d : Nat) (k : NodeQueue) (n : NodePtr) (L M : Links (Nat × NodeQueue) NodePtr)
      (hlink : isLinked s.sessDevLinkState = true) (hdev : s.devId = d) (hmax : d < maxHsDevNum)
      (hk : NodeQueue.ofProto s.protoType = some k) (hnode : s.sessNode = some n)
      (hn : e.nodes.sess n = some p) (hrem : e.nodes.links.remove (d, k) n = some L)
      (hins : L.insertTail (d, .free) n = some M) :
      GivenBack e p s { links := M, sess := Function.update e.nodes.sess n none }

/-! The single steps. -/

section Steps

open Prog

variable {e : Engine} {p : SessPtr} {s : BackendSession}

theorem unregisterEpoll_run (hs : e.heap p = some s) (harg : s.netChannel.arg = true)
    (ctl : Bool) :
    unregisterEpoll p ctl e = .ok ((),
      { e with
        heap := Function.update e.heap p (some
          { s with netChannel := { s.netChannel with status := epollRegStatusUnregistered } })
        epoll :=
          if ctl then e.epoll.filter fun r => r.1 != s.netChannel.sockFd else e.epoll }) := by
  obtain ⟨_, e', hrun⟩ := unregisterEpoll_returns hs harg ctl
  obtain ⟨s', hs', -, rfl⟩ := unregisterEpoll_ok hrun
  cases hs.symm.trans hs'
  exact hrun

theorem hashDel_run (hq : e.dangling = false) (hp : p ∈ e.htable) (t : Bool) :
    hashDel p t e = .ok ((), { e with htable := e.htable.erase p }) := by
  obtain ⟨_, e', hrun⟩ := hashDel_returns hq hp t
  obtain ⟨-, rfl⟩ := hashDel_ok hrun
  exact hrun

theorem recycleNodeOf_run {nodes : NodePool} (hs : e.heap p = some s)
    (h : GivenBack e p s nodes) :
    ∃ t, recycleNodeOf p e =
      .ok ((), { e with heap := Function.update e.heap p (some t), nodes }) := by
  have hderef : deref p e = .ok (s, e) := deref_ok.mpr ⟨hs, rfl⟩
  unfold recycleNodeOf
  rw [bind_of_ok hderef]
  cases h with
  | untied hclear =>
    refine ⟨s, ?_⟩
    have hsame : Function.update e.heap p (some s) = e.heap := by
      rw [← hs, Function.update_eq_self]
    rw [hsame, hclear]
    split <;> rfl
  | node d k n L M hlink hdev hmax hk hnode hn hrem hins =>
    have hd : s.devId.toNat = d := by omega
    obtain ⟨_, e₁, hrun⟩ := removeSessionNode_returns hn hs hk ⟨L, hrem⟩
    obtain ⟨L', hL', rfl⟩ := removeSessionNode_ok hrun hn hs hk hlink
    cases hrem.symm.trans hL'
    rw [if_neg (by omega), if_pos hlink, hnode, hd]
    refine ⟨{ s with
      sessDevLinkState := s.sessDevLinkState &&& ~~~backendSessLinkedToDevNode }, ?_⟩
    rw [bind_of_ok (s := e) (a := n) (t := e) rfl, bind_of_ok hrun, bind_of_ok (a := ()) rfl]
    simp only [pushFreeSessionNode, insertNode]
    rw [bind_of_ok rfl, bind_of_ok (a := M) (ofOption_ok.mpr ⟨hins, rfl⟩)]
    rfl

theorem unlinkFromQueue_run {d : Dir} {Q : Links Unit SessPtr} (hs : e.heap p = some s)
    (hrem : isLinked (s.state d) = true → (e.queue d).remove () p = some Q)
    (hkeep : isLinked (s.state d) = false → Q = e.queue d) :
    ∃ flags, unlinkFromQueue p d e = .ok ((),
      { e with
        queue := Function.update e.queue d Q
        heap := Function.update e.heap p (some (s.setState d flags)) }) := by
  obtain ⟨_, e', hrun⟩ := unlinkFromQueue_returns hs fun hl => ⟨Q, hrem hl⟩
  obtain ⟨flags, links, rfl, hkeep', hrem'⟩ := unlinkFromQueue_ok hrun hs
  have hlinks : links = Q := by
    cases hl : isLinked (s.state d) with
    | true => exact Option.some.inj ((hrem' hl).symm.trans (hrem hl))
    | false => exact (hkeep' hl).trans (hkeep hl).symm
  subst hlinks
  exact ⟨flags, hrun⟩

/-- Whatever comes behind an unlinking, with the queue it leaves. -/
theorem unlinkFromQueue_then {α : Type} {d : Dir} {Q : Links Unit SessPtr}
    {rest : Unit → EngineM α} {r : Except Halt (α × Engine)} (hs : e.heap p = some s)
    (hrem : isLinked (s.state d) = true → (e.queue d).remove () p = some Q)
    (hkeep : isLinked (s.state d) = false → Q = e.queue d)
    (hrest : ∀ flags, rest ()
      { e with
        queue := Function.update e.queue d Q
        heap := Function.update e.heap p (some (s.setState d flags)) } = r) :
    (unlinkFromQueue p d >>= rest) e = r := by
  obtain ⟨flags, hrun⟩ := unlinkFromQueue_run hs hrem hkeep
  rw [bind_of_ok hrun]
  exact hrest flags

theorem recycleNodeOf_then {α : Type} {nodes : NodePool} {rest : Unit → EngineM α}
    {r : Except Halt (α × Engine)} (hs : e.heap p = some s) (h : GivenBack e p s nodes)
    (hrest : ∀ t, rest () { e with heap := Function.update e.heap p (some t), nodes } = r) :
    (recycleNodeOf p >>= rest) e = r := by
  obtain ⟨t, hrun⟩ := recycleNodeOf_run hs h
  rw [bind_of_ok hrun]
  exact hrest t

/-- The nodes are given back in the same way whatever became of the rest of the session. -/
theorem GivenBack.congr {e' : Engine} {t : BackendSession} {nodes : NodePool}
    (h : GivenBack e p s nodes) (hnodes : e'.nodes = e.nodes)
    (hlink : t.sessDevLinkState = s.sessDevLinkState) (hdev : t.devId = s.devId)
    (hproto : t.protoType = s.protoType) (hnode : t.sessNode = s.sessNode) :
    GivenBack e' p t nodes := by
  cases h with
  | untied hclear =>
    rw [← hnodes]
    exact .untied (hlink ▸ hclear)
  | node d k n L M hl hd hmax hk hn hs hrem hins =>
    rw [← hnodes] at hs hrem ⊢
    exact .node d k n L M (hlink ▸ hl) (hdev ▸ hd) hmax (hproto ▸ hk) (hnode ▸ hn) hs hrem hins

theorem GivenBack.setState {nodes : NodePool} (h : GivenBack e p s nodes) (d : Dir)
    (flags : UInt8) : GivenBack e p (s.setState d flags) nodes :=
  h.congr rfl rfl rfl rfl rfl

theorem GivenBack.setMsg {nodes : NodePool} (h : GivenBack e p s nodes) (d : Dir)
    (segs : List (List UInt8)) : GivenBack e p (s.setMsg d segs) nodes :=
  h.congr rfl rfl rfl rfl rfl

theorem GivenBack.setChannel {nodes : NodePool} (h : GivenBack e p s nodes) (ch : NetChannel) :
    GivenBack e p { s with netChannel := ch } nodes :=
  h.congr rfl rfl rfl rfl rfl

theorem GivenBack.engine {e' : Engine} {nodes : NodePool} (h : GivenBack e p s nodes)
    (hnodes : e'.nodes = e.nodes) : GivenBack e' p s nodes :=
  h.congr hnodes rfl rfl rfl rfl

/-- A live table stays live whatever becomes of one session. -/
theorem quiet_update {t : BackendSession} {epoll : List (Int × SessPtr)}
    (hlive : ∀ q ∈ e.htable, ∃ t, e.heap q = some t) :
    Engine.dangling { e with heap := Function.update e.heap p (some t), epoll } = false := by
  refine quiet_of_live fun q hq => ?_
  by_cases hqp : q = p
  · subst hqp
    exact ⟨t, Function.update_self _ _ _⟩
  · obtain ⟨t', ht'⟩ := hlive q hq
    exact ⟨t', (Function.update_of_ne hqp _ _).trans ht'⟩

end Steps

/-- A deletion ends the process for want of memory, or does this and nothing else. -/
theorem delete_run {e : Engine} {p : SessPtr} {s : BackendSession}
    {queue : Dir → Links Unit SessPtr} {nodes : NodePool} (env : DeleteEnv) (hs : e.heap p = some s)
    (harg : s.netChannel.arg = true) (hp : p ∈ e.htable)
    (hlive : ∀ q ∈ e.htable, ∃ t, e.heap q = some t) (hqueue : Unlinked e p s queue)
    (hnodes : GivenBack e p s nodes) :
    highSpeedDeleteSess p env e =
      if env.idMemory then .ok (.ok, e.without p s env.epollDel queue nodes)
      else .error .exit := by
  unfold highSpeedDeleteSess
  rw [Prog.bind_of_ok (unregisterEpoll_run hs harg env.epollDel),
    Prog.bind_of_ok (deref_ok.mpr ⟨Function.update_self _ _ _, rfl⟩),
    Prog.bind_of_ok (a := ()) rfl, Prog.bind_of_ok (hashDel_run (quiet_update hlive) hp _),
    Prog.bind_of_ok (a := ()) rfl]
  refine unlinkFromQueue_then (Function.update_self p _ _) (hqueue.removed .f2b)
    (hqueue.kept .f2b) fun f₁ => ?_
  refine unlinkFromQueue_then (Function.update_self p _ _) (hqueue.removed .b2f)
    (hqueue.kept .b2f) fun f₂ => ?_
  rw [Prog.bind_of_ok (deref_ok.mpr ⟨Function.update_self _ _ _, rfl⟩),
    Prog.bind_of_ok (a := ()) rfl]
  cases env.idMemory with
  | false => rfl
  | true =>
    rw [Prog.bind_of_ok (a := ()) rfl]
    refine recycleNodeOf_then (Function.update_self p _ _)
      (hnodes.congr rfl rfl rfl rfl rfl) fun t => ?_
    rw [Prog.bind_of_ok (a := ()) rfl, if_pos rfl]
    have hboth : Function.update (Function.update e.queue .f2b (queue .f2b)) .b2f (queue .b2f) =
        queue := by
      funext d
      cases d <;> rfl
    refine Prog.pure_ok.mpr ⟨rfl, ?_⟩
    simp only [Engine.without, epollWithout, Function.update_idem, hboth]

/-! Deletion from a consistent state. -/

/-- The node of a session that is tied to it goes to the end of the free queue of its device; all
other node queues keep their contents. -/
inductive NodeMoved (e : Engine) (C : Nat × NodeQueue → List NodePtr) (s : BackendSession) :
    NodePool → (Nat × NodeQueue → List NodePtr) → Prop
  | untied (h : isLinked s.sessDevLinkState = false) : NodeMoved e C s e.nodes C
  | node (d : Nat) (k : NodeQueue) (n : NodePtr) (links : Links (Nat × NodeQueue) NodePtr)
      (hlink : isLinked s.sessDevLinkState = true) (hdev : s.devId = d)
      (hk : NodeQueue.ofProto s.protoType = some k) (hnode : s.sessNode = some n)
      (hin : n ∈ C (d, k)) :
      NodeMoved e C s { links, sess := Function.update e.nodes.sess n none }
        (moved C (d, k) ((C (d, k)).erase n) (d, .free) n)

section Delete

variable {e : Engine} {l : Dir → List SessPtr} {C C' : Nat × NodeQueue → List NodePtr}
  {p : SessPtr} {s : BackendSession} {queue : Dir → Links Unit SessPtr} {nodes : NodePool}

theorem QueuesMatch.mem_queue (h : QueuesMatch e l) (hp : p ∈ e.htable) (hs : e.heap p = some s)
    (d : Dir) : p ∈ l d ↔ isLinked (s.state d) = true := by
  rw [h.linked d p]
  constructor
  · rintro ⟨-, s', hs', hl⟩
    cases hs.symm.trans hs'
    exact hl
  · intro hl
    exact ⟨hp, s, hs, hl⟩

/-- The queues may change around one session, and so may the session, its channel excepted. -/
theorem QueuesMatch.updated {l' : Dir → List SessPtr} {t : BackendSession}
    (h : QueuesMatch e l) (hs : e.heap p = some s) (hchannel : t.netChannel = s.netChannel)
    (hholds : ∀ d, Holds (queue d) () (l' d)) (hothers : ∀ d q, q ≠ p → (q ∈ l' d ↔ q ∈ l d))
    (hself : ∀ d, p ∈ l' d ↔ p ∈ e.htable ∧ isLinked (t.state d) = true)
    (history : SessPtr → SessHistory) :
    QueuesMatch { e with heap := Function.update e.heap p (some t), queue, history } l' := by
  have hheap : ∀ q, q ≠ p → Function.update e.heap p (some t) q = e.heap q :=
    fun q hq => Function.update_of_ne hq _ _
  refine ⟨hholds, ?_, h.nodup, ?_⟩
  · intro d q
    by_cases hq : q = p
    · subst hq
      rw [hself d]
      simp
    · rw [hothers d q hq, h.linked d q]
      simp only [hheap q hq]
  · intro q hq
    obtain ⟨r, hr, harg⟩ := h.live q hq
    by_cases hqp : q = p
    · subst hqp
      cases hs.symm.trans hr
      exact ⟨t, Function.update_self _ _ _, hchannel ▸ harg⟩
    · exact ⟨r, (hheap q hqp).trans hr, harg⟩

theorem QueuesMatch.unlink (h : QueuesMatch e l) (hp : p ∈ e.htable) (hs : e.heap p = some s) :
    ∃ queue, Unlinked e p s queue ∧ ∀ d, Holds (queue d) () ((l d).erase p) := by
  have hone : ∀ d, ∃ Q, (isLinked (s.state d) = true → (e.queue d).remove () p = some Q) ∧
      (isLinked (s.state d) = false → Q = e.queue d) ∧ Holds Q () ((l d).erase p) := by
    intro d
    cases hl : isLinked (s.state d) with
    | true =>
      obtain ⟨a, b, -, hab, herase⟩ := List.exists_erase_eq ((h.mem_queue hp hs d).mpr hl)
      obtain ⟨Q, hQ, hholds⟩ := (hab ▸ h.holds d).remove
      exact ⟨Q, fun _ => hQ, by simp, herase ▸ hholds⟩
    | false =>
      have hnot : p ∉ l d := by
        rw [h.mem_queue hp hs d, hl]
        simp
      refine ⟨e.queue d, by simp, fun _ => rfl, ?_⟩
      rw [List.erase_of_not_mem hnot]
      exact h.holds d
  choose queue hrem hkeep hholds using hone
  exact ⟨queue, ⟨hrem, hkeep⟩, hholds⟩

theorem Intact.giveBack (h : Intact e l C) (hp : p ∈ e.htable) (hs : e.heap p = some s) :
    ∃ nodes C', GivenBack e p s nodes ∧ NodeMoved e C s nodes C' ∧
      HoldsAll nodes.links C' (fun h => h.1 < e.devNum) := by
  cases hl : isLinked s.sessDevLinkState with
  | false => exact ⟨_, _, .untied hl, .untied hl, h.shelves⟩
  | true =>
    obtain ⟨d, k, n, hd, hmax, hdev, hk, hin, hnode, -, hn⟩ := h.tied p s hp hs hl
    obtain ⟨L, M, hL, hM⟩ := h.shelves.can_move (h := (d, k)) (k := (d, .free)) hd hd hin
    obtain ⟨a, b, -, hab, herase⟩ := List.exists_erase_eq hin
    refine ⟨_, _, .node d k n L M hl hdev hmax hk hnode hn hL hM,
      .node d k n M hl hdev hk hnode hin, ?_⟩
    rw [herase]
    exact h.shelves.move (h := (d, k)) (k := (d, .free)) hd hd hab hL hM

/-- The node of another session stays where it is. -/
theorem NodeMoved.tied (hmoved : NodeMoved e C s nodes C') (h : Intact e l C)
    (hp : p ∈ e.htable) (hs : e.heap p = some s) {q : SessPtr} {t : BackendSession}
    (hq : q ≠ p) (ht : Tied e C q t) {epollDel : Bool} :
    Tied (e.without p s epollDel queue nodes) C' q t := by
  obtain ⟨d, k, n, hd, hmax, hdev, hk, hin, hnode, hlink, hn⟩ := ht
  cases hmoved with
  | untied _ => exact ⟨d, k, n, hd, hmax, hdev, hk, hin, hnode, hlink, hn⟩
  | node d' k' n' links hl hdev' hk' hnode' hin' =>
    obtain ⟨d₀, k₀, n₀, hd₀, -, hdev₀, -, -, hnode₀, -, hn₀⟩ := h.tied p s hp hs hl
    cases hnode'.symm.trans hnode₀
    have hd' : d' < e.devNum := by omega
    have hne : n ≠ n' := by
      intro heq
      subst heq
      exact hq (Option.some.inj (hn.symm.trans hn₀))
    obtain ⟨a, b, -, hab, herase⟩ := List.exists_erase_eq hin'
    refine ⟨d, k, n, hd, hmax, hdev, hk, ?_, hnode, hlink, ?_⟩
    · rw [herase]
      exact (h.shelves.mem_moved (h := (d', k')) (k := (d, k)) hd' hab hd).mpr (.inr ⟨hne, hin⟩)
    · exact (Function.update_of_ne hne _ _).trans hn

theorem without_heap {epollDel : Bool} {q : SessPtr} (hq : q ≠ p) :
    (e.without p s epollDel queue nodes).heap q = e.heap q := Function.update_of_ne hq _ _

theorem QueuesMatch.without (h : QueuesMatch e l)
    (hholds : ∀ d, Holds (queue d) () ((l d).erase p)) (epollDel : Bool) (nodes : NodePool) :
    QueuesMatch (e.without p s epollDel queue nodes) (fun d => (l d).erase p) := by
  refine ⟨hholds, ?_, h.nodup.erase p, ?_⟩
  · intro d q
    rw [(h.holds d).nodup.mem_erase_iff, h.linked d q]
    change _ ↔ q ∈ e.htable.erase p ∧ _
    rw [h.nodup.mem_erase_iff]
    constructor
    · rintro ⟨hq, hin, t, ht, hl⟩
      exact ⟨⟨hq, hin⟩, t, (without_heap hq).trans ht, hl⟩
    · rintro ⟨⟨hq, hin⟩, t, ht, hl⟩
      exact ⟨hq, hin, t, (without_heap hq).symm.trans ht, hl⟩
  · intro q hq
    obtain ⟨hne, hin⟩ := h.nodup.mem_erase_iff.mp hq
    obtain ⟨t, ht, harg⟩ := h.live q hin
    exact ⟨t, (without_heap hne).trans ht, harg⟩

theorem Intact.without (h : Intact e l C) (hp : p ∈ e.htable) (hs : e.heap p = some s)
    (hholds : ∀ d, Holds (queue d) () ((l d).erase p)) (hmoved : NodeMoved e C s nodes C')
    (hshelves : HoldsAll nodes.links C' (fun h => h.1 < e.devNum)) (epollDel : Bool) :
    Intact (e.without p s epollDel queue nodes) (fun d => (l d).erase p) C' := by
  refine ⟨h.toQueuesMatch.without hholds epollDel nodes, hshelves, ?_⟩
  intro q t hq ht hl
  obtain ⟨hne, hin⟩ := h.nodup.mem_erase_iff.mp hq
  exact hmoved.tied h hp hs hne (h.tied q t hin ((without_heap hne).symm.trans ht) hl)

end Delete

/-- One session on one device. -/
theorem oneSession_consistent :
    ∃ e s l C, run mainStep oneDevice [.pool (.createActive tcpRequest goodEnv)] = .ok e ∧
      e.htable = [0] ∧ e.heap 0 = some s ∧ Consistent e l C := by
  obtain ⟨e, he, hview⟩ := reached_of_view (f := fun e => (e.htable, (e.heap 0).isSome))
    (b := ([0], true))
    (show (run mainStep oneDevice [.pool (.createActive tcpRequest goodEnv)]).toOption.map _ = _ by
      decide +kernel)
  simp only [Prod.mk.injEq] at hview
  obtain ⟨s, hs⟩ := Option.isSome_iff_exists.mp hview.2
  have hproper : AllSteps mainStep Proper oneDevice [.pool (.createActive tcpRequest goodEnv)] := by
    refine ⟨⟨?_, ?_, rfl⟩, fun _ _ => trivial⟩
    · intro block hblock
      cases hblock
      exact zeroSession_clear
    · intro block d hblock hd
      cases hblock
      cases hd
      rfl
  have hpool : run poolStep oneDevice [.createActive tcpRequest goodEnv] = .ok e := he
  have hids : IdsConserved e := by
    refine sessionIds_conserved 1 _ 4096 _ e ?_ hpool
    exact ⟨⟨rfl, fun h => by cases h⟩, fun _ _ => trivial⟩
  obtain ⟨l, C, hcons⟩ := consistent_of (main_fit hproper he)
    (activeQueues_linked 1 _ 4096 _ e (hproper.mono fun _ _ h => h.1) he) hids
  exact ⟨e, s, l, C, he, hview.1, hs, hcons⟩

end BackendProxy.Pool
