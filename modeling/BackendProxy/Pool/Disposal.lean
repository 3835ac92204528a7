import BackendProxy.Pool.Consistent
import BackendProxy.Pool.World

namespace BackendProxy.Pool

open Lib Lib.Tailq Queue Wire

/-! A deletion with a record of what is freed and closed on the way. -/

inductive Release where
  | segment (p : SessPtr) (d : Dir) (seg : List UInt8)
  | session (p : SessPtr)
  | socket (p : SessPtr) (fd : Int)
  | node (n : NodePtr)
  | listener (dev : Nat)
  | poller
  deriving DecidableEq, Repr

structure Disposal where
  engine : Engine
  released : List Release

abbrev DisposalM (α : Type) := Prog Disposal Halt α

namespace Disposal

/-- An operation of the engine that frees and closes nothing. -/
def inside {α : Type} (x : EngineM α) : DisposalM α :=
  Prog.onPart Disposal.engine (fun w e => { w with engine := e }) x

def enter (rs : List Release) : DisposalM Unit :=
  modify fun w => { w with released := w.released ++ rs }

end Disposal

/-- The segments left in the queue, and those freed. -/
def sessMsgQueueFreeAll : List (List UInt8) → List (List UInt8) × List (List UInt8)
  | [] => ([], [])
  | seg :: segs =>
    let (left, freed) := sessMsgQueueFreeAll segs
    (left, seg :: freed)

theorem sessMsgQueueFreeAll_eq (segs : List (List UInt8)) :
    sessMsgQueueFreeAll segs = ([], segs) := by
  induction segs with
  | nil => rfl
  | cons seg segs ih => simp only [sessMsgQueueFreeAll, ih]

namespace Disposal

/-- `high_speed_delete_sess` up to its response. -/
def highSpeedDeleteSess (p : SessPtr) (env : DeleteEnv) : DisposalM ProcessStatus := do
  inside (unregisterEpoll p env.epollDel)
  let s ← inside (deref p)
  inside (closeFd s.sockFd)
  enter [.socket p s.sockFd]
  inside (hashDel p env.touchesFreed)
  inside (modify fun e => { e with sessNum := e.sessNum - 1 })
  inside (unlinkFromQueue p .f2b)
  inside (unlinkFromQueue p .b2f)
  let t ← inside (deref p)
  let f2b := sessMsgQueueFreeAll (t.msg .f2b)
  let b2f := sessMsgQueueFreeAll (t.msg .b2f)
  inside (Pool.store p ((t.setMsg .f2b f2b.1).setMsg .b2f b2f.1))
  enter (f2b.2.map (.segment p .f2b) ++ b2f.2.map (.segment p .b2f))
  inside (releaseId s.backendSessId env.idMemory)
  inside (recycleNodeOf p)
  inside (freeSession p)
  enter [.session p]
  pure .ok

end Disposal

/-- What the deletion of a session releases. -/
def deleteReleases (p : SessPtr) (s : BackendSession) : List Release :=
  [.socket p s.sockFd] ++
    ((s.msg .f2b).map (.segment p .f2b) ++ (s.msg .b2f).map (.segment p .b2f)) ++ [.session p]

namespace Disposal

section Steps

variable {α : Type} {e e' : Engine} {released : List Release} {p : SessPtr} {s : BackendSession}

theorem inside_run {x : EngineM α} {a : α} (h : x e = .ok (a, e')) :
    inside x ⟨e, released⟩ = .ok (a, ⟨e', released⟩) := by
  simp only [inside, Prog.onPart, h]

theorem unlinkFromQueue_then {d : Dir} {Q : Links Unit SessPtr} {rest : Unit → DisposalM α}
    {r : Except Halt (α × Disposal)} (hs : e.heap p = some s)
    (hrem : isLinked (s.state d) = true → (e.queue d).remove () p = some Q)
    (hkeep : isLinked (s.state d) = false → Q = e.queue d)
    (hrest : ∀ flags, rest () ⟨{ e with
        queue := Function.update e.queue d Q
        heap := Function.update e.heap p (some (s.setState d flags)) }, released⟩ = r) :
    (inside (unlinkFromQueue p d) >>= rest) ⟨e, released⟩ = r := by
  obtain ⟨flags, hrun⟩ := unlinkFromQueue_run hs hrem hkeep
  rw [Prog.bind_of_ok (inside_run hrun)]
  exact hrest flags

theorem recycleNodeOf_then {nodes : NodePool} {rest : Unit → DisposalM α}
    {r : Except Halt (α × Disposal)} (hs : e.heap p = some s) (h : GivenBack e p s nodes)
    (hrest : ∀ t, rest ()
      ⟨{ e with heap := Function.update e.heap p (some t), nodes }, released⟩ = r) :
    (inside (recycleNodeOf p) >>= rest) ⟨e, released⟩ = r := by
  obtain ⟨t, hrun⟩ := recycleNodeOf_run hs h
  rw [Prog.bind_of_ok (inside_run hrun)]
  exact hrest t

end Steps

/-- The engine ends as it does without the record. -/
theorem delete_run {e : Engine} {p : SessPtr} {s : BackendSession}
    {queue : Dir → Links Unit SessPtr} {nodes : NodePool} (released : List Release)
    (env : DeleteEnv) (hs : e.heap p = some s) (harg : s.netChannel.arg = true) (hp : p ∈ e.htable)
    (hlive : ∀ q ∈ e.htable, ∃ t, e.heap q = some t) (hqueue : Unlinked e p s queue)
    (hnodes : GivenBack e p s nodes) :
    highSpeedDeleteSess p env ⟨e, released⟩ =
      if env.idMemory then
        .ok (.ok, ⟨e.without p s env.epollDel queue nodes, released ++ deleteReleases p s⟩)
      else .error .exit := by
  unfold highSpeedDeleteSess
  rw [Prog.bind_of_ok (inside_run (unregisterEpoll_run hs harg env.epollDel)),
    Prog.bind_of_ok (inside_run (deref_ok.mpr ⟨Function.update_self _ _ _, rfl⟩)),
    Prog.bind_of_ok (inside_run (a := ()) rfl), Prog.bind_of_ok (a := ()) rfl,
    Prog.bind_of_ok (inside_run (hashDel_run (quiet_update hlive) hp _)),
    Prog.bind_of_ok (inside_run (a := ()) rfl)]
  refine unlinkFromQueue_then (Function.update_self p _ _) (hqueue.removed .f2b)
    (hqueue.kept .f2b) fun f₁ => ?_
  refine unlinkFromQueue_then (Function.update_self p _ _) (hqueue.removed .b2f)
    (hqueue.kept .b2f) fun f₂ => ?_
  rw [Prog.bind_of_ok (inside_run (deref_ok.mpr ⟨Function.update_self _ _ _, rfl⟩)),
    Prog.bind_of_ok (inside_run (a := ()) rfl), Prog.bind_of_ok (a := ()) rfl]
  cases env.idMemory with
  | false => rfl
  | true =>
    rw [Prog.bind_of_ok (inside_run (a := ()) rfl)]
    refine recycleNodeOf_then (Function.update_self p _ _) (((((hnodes.setChannel _).setState _ _
      ).setState _ _).setMsg _ _).setMsg _ _ |>.engine rfl) fun t => ?_
    rw [Prog.bind_of_ok (inside_run (a := ()) rfl), Prog.bind_of_ok (a := ()) rfl, if_pos rfl]
    have hboth : Function.update (Function.update e.queue .f2b (queue .f2b)) .b2f (queue .b2f) =
        queue := by
      funext d
      cases d <;> rfl
    refine Prog.pure_ok.mpr ⟨rfl, ?_⟩
    simp only [Engine.without, epollWithout, Function.update_idem, hboth, sessMsgQueueFreeAll_eq,
      deleteReleases, List.append_assoc]
    rfl

end Disposal

/-- The session `p`, which was `s`, is gone, and nothing else changed. -/
structure OnlyDeleted (e : Engine) (l : Dir → List SessPtr)
    (C : Nat × NodeQueue → List NodePtr) (p : SessPtr) (s : BackendSession) (e' : Engine) :
    Prop where
  htable : e'.htable = e.htable.erase p
  queues : ∀ d, Holds (e'.queue d) () ((l d).erase p)
  idQueue : e'.idQueue = e.idQueue ++ [s.backendSessId]
  sessNum : e'.sessNum = e.sessNum - 1
  freed : e'.heap p = none
  others : ∀ q, q ≠ p → e'.heap q = e.heap q
  nodes : ∃ C', NodeMoved e C s e'.nodes C' ∧
    HoldsAll e'.nodes.links C' (fun h => h.1 < e'.devNum)
  epoll : ∀ r ∈ e.epoll, r.1 ≠ s.sockFd → r.1 ≠ s.netChannel.sockFd → r ∈ e'.epoll
  devNum : e'.devNum = e.devNum
  dev : e'.dev = e.dev
  nextSess : e'.nextSess = e.nextSess
  blockSize : e'.blockSize = e.blockSize
  history : e'.history = e.history

theorem onlyDeleted_without {e : Engine} {l : Dir → List SessPtr}
    {C C' : Nat × NodeQueue → List NodePtr} {p : SessPtr} {s : BackendSession}
    {queue : Dir → Links Unit SessPtr} {nodes : NodePool}
    (hholds : ∀ d, Holds (queue d) () ((l d).erase p)) (hmoved : NodeMoved e C s nodes C')
    (hshelves : HoldsAll nodes.links C' (fun h => h.1 < e.devNum)) (epollDel : Bool) :
    OnlyDeleted e l C p s (e.without p s epollDel queue nodes) := by
  refine ⟨rfl, hholds, rfl, rfl, Function.update_self _ _ _,
    fun q hq => Function.update_of_ne hq _ _, ⟨C', hmoved, hshelves⟩, ?_, rfl, rfl, rfl, rfl, rfl⟩
  intro r hr hsock hchannel
  have hkept : r ∈ if epollDel then e.epoll.filter fun r => r.1 != s.netChannel.sockFd
      else e.epoll := by
    cases epollDel with
    | false => exact hr
    | true => exact List.mem_filter.mpr ⟨hr, by simpa using hchannel⟩
  exact List.mem_filter.mpr ⟨hkept, by simpa using hsock⟩

/-- The response to a deletion, if TX takes it. -/
def closeResponse (p : SessPtr) (s : BackendSession) (notice : Notice) : List Posting :=
  if notice.put = .ok then
    [⟨some p, .response .close s.frontendSessId proxyHandoverSessionId (UInt16.ofInt s.ipVersion)
      ⟨sessOpStatusSuccess, sessOpCodeSuccess⟩⟩]
  else []

/-- The response does not matter for the engine, nor for the status. -/
theorem World.delete_run {w : World} {p : SessPtr} {s : BackendSession} {env : DeleteEnv}
    {notice : Notice} {e' : Engine} (hs : w.engine.heap p = some s)
    (h : Pool.highSpeedDeleteSess p env w.engine = .ok (.ok, e')) :
    World.highSpeedDeleteSess p env notice w = .ok (.ok,
      { engine := e', tx := w.tx ++ closeResponse p s notice,
        sockets := shut s.sockFd w.sockets, ended := w.ended ++ [(p, w.tx.length)] }) := by
  have hderef : within (deref p) w = .ok (s, w) := by
    simp only [within, Prog.onPart, deref_ok.mpr ⟨hs, rfl⟩]
  have hdel : within (Pool.highSpeedDeleteSess p env) w = .ok (.ok, { w with engine := e' }) := by
    simp only [within, Prog.onPart, h]
  unfold World.highSpeedDeleteSess
  rw [Prog.bind_of_ok hderef, Prog.bind_of_ok hdel, Prog.bind_of_ok (a := ()) rfl,
    Prog.bind_of_ok (a := ()) rfl]
  unfold post closeResponse
  split
  · rfl
  · simp only [List.append_nil]
    rfl

theorem World.delete_exits {w : World} {p : SessPtr} {s : BackendSession} {env : DeleteEnv}
    (notice : Notice) (hs : w.engine.heap p = some s)
    (h : Pool.highSpeedDeleteSess p env w.engine = .error .exit) :
    World.highSpeedDeleteSess p env notice w = .error .exit := by
  have hderef : within (deref p) w = .ok (s, w) := by
    simp only [within, Prog.onPart, deref_ok.mpr ⟨hs, rfl⟩]
  have hdel : within (Pool.highSpeedDeleteSess p env) w = .error .exit := by
    simp only [within, Prog.onPart, h]
  unfold World.highSpeedDeleteSess
  rw [Prog.bind_of_ok hderef, Prog.bind_of_error hdel]

/-- Deleting a session of a consistent pool succeeds and touches only that session, whatever epoll
and TX answer. Without memory for the list entry of its ID the process ends. -/
theorem delete_touches_only (w : World) (l : Dir → List SessPtr)
    (C : Nat × NodeQueue → List NodePtr) (h : Consistent w.engine l C) (p : SessPtr)
    (s : BackendSession) (hp : p ∈ w.engine.htable) (hs : w.engine.heap p = some s)
    (env : DeleteEnv) (notice : Notice) (released : List Release) :
    if env.idMemory then
      ∃ w', World.highSpeedDeleteSess p env notice w = .ok (.ok, w') ∧
        OnlyDeleted w.engine l C p s w'.engine ∧
        Disposal.highSpeedDeleteSess p env ⟨w.engine, released⟩ =
          .ok (.ok, ⟨w'.engine, released ++ deleteReleases p s⟩)
    else World.highSpeedDeleteSess p env notice w = .error .exit := by
  obtain ⟨queue, hqueue, hholds⟩ := h.unlink hp hs
  obtain ⟨nodes, C', hgiven, hmoved, hshelves⟩ := h.giveBack hp hs
  obtain ⟨s', hs', harg⟩ := h.live p hp
  cases hs.symm.trans hs'
  have hlive : ∀ q ∈ w.engine.htable, ∃ t, w.engine.heap q = some t := by
    intro q hq
    obtain ⟨t, ht, -⟩ := h.live q hq
    exact ⟨t, ht⟩
  have hrun := delete_run env hs harg hp hlive hqueue hgiven
  have hlog := Disposal.delete_run released env hs harg hp hlive hqueue hgiven
  cases hm : env.idMemory with
  | false =>
    rw [hm] at hrun
    exact World.delete_exits notice hs hrun
  | true =>
    rw [hm, if_pos rfl] at hrun hlog
    rw [if_pos rfl]
    exact ⟨_, World.delete_run hs hrun, onlyDeleted_without hholds hmoved hshelves env.epollDel,
      hlog⟩

/-- A world around an engine. -/
def worldOf (e : Engine) : World := { engine := e, tx := [], sockets := [], ended := [] }

/-- The only session is deleted. -/
theorem delete_touches_only_first :
    ∃ e s l C, Consistent e l C ∧ 0 ∈ e.htable ∧ e.heap 0 = some s ∧
      ∃ w', World.highSpeedDeleteSess 0 ⟨true, false, true⟩ ⟨.again, ⟨0, 0⟩⟩ (worldOf e) =
          .ok (.ok, w') ∧
        OnlyDeleted e l C 0 s w'.engine := by
  obtain ⟨e, s, l, C, -, htable, hs, hcons⟩ := oneSession_consistent
  have hp : 0 ∈ e.htable := by simp [htable]
  obtain ⟨w', hw, honly, -⟩ := delete_touches_only (worldOf e) l C hcons 0 s hp hs
    ⟨true, false, true⟩ ⟨.again, ⟨0, 0⟩⟩ []
  exact ⟨e, s, l, C, hcons, hp, hs, w', hw, honly⟩

end BackendProxy.Pool
