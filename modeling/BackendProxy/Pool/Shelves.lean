import BackendProxy.Pool.Nodes
import BackendProxy.Pool.Upkeep

namespace BackendProxy.Pool

open Lib Lib.Tailq Queue

/-! The node queues stay intact along every run in which the blocks of active sessions happen to
hold the number of their device. Passive sessions may come; their nodes never come back. -/

/-- The block holds the number of the device the session is created on. -/
def NamesDevice (_ : Engine) (para : SessMsgPara) (env : CreateEnv) : Prop :=
  ∀ block d, env.malloc = some block → selectDev para env = some d → block.devId = d.toNat

/-- With `C` as the contents of the node queues. -/
structure Shelved (e : Engine) (C : Nat × NodeQueue → List NodePtr) : Prop extends Stocked e C where
  /-- A node serves a session that was made. -/
  named : ∀ n q, e.nodes.sess n = some q → q < e.nextSess

section Moves

variable {e e' : Engine} {C : Nat × NodeQueue → List NodePtr} {p : SessPtr} {s : BackendSession}

theorem shelved_init (devNum : Nat) (config : Nat → HighSpeedNetDevice) (blockSize : Nat) :
    Shelved (highSpeedInitPool devNum config blockSize) freshShelves := by
  refine ⟨(initPool_nodes devNum config blockSize).stocked, ?_⟩
  intro n q hq
  cases hq

/-- Neither the nodes nor the sessions of the table change. -/
theorem Shelved.undone (h : Shelved e C) (hr : Recycled e.nodes e'.nodes)
    (hheap : e'.heap = Function.update e.heap e.nextSess none)
    (ht : e'.htable = e.htable ∨ e'.htable = e.htable ++ [e.nextSess])
    (hx : e'.nextSess = e.nextSess + 1) (hn : e'.devNum = e.devNum) : ∃ C', Shelved e' C' := by
  have hlt : e.nextSess < e'.nextSess := by
    rw [hx]
    exact Nat.lt_succ_self _
  obtain ⟨C', hstock, -, hsess, -⟩ := h.toStocked.undone hr hheap ht hlt hn
  refine ⟨C', hstock, ?_⟩
  intro n q hq
  rw [hsess] at hq
  exact Nat.lt_trans (h.named n q hq) hlt

/-- A new session takes a node. -/
theorem Shelved.bound (h : Shelved e C) {d : Nat} {k : NodeQueue} {n : NodePtr}
    (hb : Bound e.nodes d k n e.nextSess e'.nodes) (hmax : d < maxHsDevNum)
    (hk : NodeQueue.ofProto s.protoType = some k) (hnode : s.sessNode = some n)
    (hlink : isLinked s.sessDevLinkState = true)
    (hheap : e'.heap = Function.update e.heap e.nextSess (some s))
    (ht : e'.htable = e.htable ∨ e'.htable = e.htable ++ [e.nextSess] ∧ s.devId = d)
    (hx : e'.nextSess = e.nextSess + 1) (hn : e'.devNum = e.devNum) : ∃ C', Shelved e' C' := by
  obtain ⟨C', hstock, -, -⟩ := h.toStocked.bound hb hmax hk hnode hlink hheap ht hx hn
  refine ⟨C', hstock, ?_⟩
  intro m q hq
  rw [hx]
  rw [hb.sess] at hq
  by_cases hmn : m = n
  · rw [hmn, Function.update_self] at hq
    cases hq
    exact Nat.lt_succ_self _
  · rw [Function.update_of_ne hmn] at hq
    exact Nat.lt_succ_of_lt (h.named m q hq)

theorem Shelved.deleted (h : Shelved e C) (hdel : Deleted e p s e') : ∃ C', Shelved e' C' := by
  obtain ⟨C', d, n, hstock, -, -, -, hsess, -⟩ := h.toStocked.deleted hdel
  refine ⟨C', hstock, ?_⟩
  intro m q hq
  rw [hdel.nextSess]
  rw [hsess] at hq
  by_cases hmn : m = n
  · rw [hmn, Function.update_self] at hq
    cases hq
  · rw [Function.update_of_ne hmn] at hq
    exact h.named m q hq

theorem Shelved.traffic (h : Shelved e C) (hsame : SameButTraffic e e') : Shelved e' C := by
  have hfields := hsame.fields
  refine ⟨⟨by rw [hfields]; exact h.shelves, by rw [hfields]; exact h.free, ?_,
    by rw [hfields]; exact h.old, ?_, by rw [hfields]; exact h.nodup⟩,
    by rw [hfields]; exact h.named⟩
  · intro p s' hp hs'
    obtain ⟨s, hs, hkeep⟩ := hsame.live hs'
    rw [hfields] at hp
    obtain ⟨d, k, n, hd, hmax, hdev, hk, hin, hnode, hlink, hns⟩ := h.tied p s hp hs
    refine ⟨d, k, n, by rw [hfields]; exact hd, hmax, ?_, ?_, hin, ?_, ?_,
      by rw [hfields]; exact hns⟩
    · exact (congrArg BackendSession.devId hkeep).symm.trans hdev
    · rw [← hk]
      exact congrArg (NodeQueue.ofProto ·.protoType) hkeep.symm
    · exact (congrArg BackendSession.sessNode hkeep).symm.trans hnode
    · exact (congrArg (isLinked ·.sessDevLinkState) hkeep).symm.trans hlink
  · intro q hq
    have hidle := hsame.sessions q
    rw [hfields] at hq
    rw [h.fresh q hq] at hidle
    exact Option.map_eq_none_iff.mp hidle

theorem Shelved.move (h : Shelved e C) (hm : PoolMove NamesDevice e e') : ∃ C', Shelved e' C' := by
  cases hm with
  | active para env st hc hnames =>
    cases createActive_ok hc with
    | noMemory _ => exact ⟨C, ⟨h.shelves, h.free, h.tied, h.old, h.fresh, h.nodup⟩, h.named⟩
    | noId _ => exact h.undone .untouched rfl (.inl rfl) rfl rfl
    | failed _ hr _ => exact h.undone hr rfl (.inl rfl) rfl rfl
    | leaked _ hr _ _ => exact h.undone hr rfl (.inr rfl) rfl rfl
    | created hm _ hsel hmax hk hb _ =>
      have hdev := hnames _ _ hm hsel
      exact h.bound (s := activeSession _ _ _ _ _ _) hb hmax hk rfl (isLinked_set _) rfl
        (.inr ⟨rfl, hdev⟩) rfl rfl
  | passive para env st hc =>
    cases createPassive_exit hc with
    | rejected _ => exact ⟨C, h⟩
    | noMemory _ _ => exact ⟨C, ⟨h.shelves, h.free, h.tied, h.old, h.fresh, h.nodup⟩, h.named⟩
    | noId _ _ => exact h.undone .untouched rfl (.inl rfl) rfl rfl
    | failed _ _ _ hr => exact h.undone hr rfl (.inl rfl) rfl rfl
    | completed hadm _ _ hk hb =>
      exact h.bound (s := passiveSession _ _ _ _) hb hadm.2.1 hk rfl (isLinked_set _) rfl
        (.inl rfl) rfl rfl
  | deleted p s hd => exact h.deleted hd
  | traffic hsame => exact ⟨C, h.traffic hsame⟩

end Moves

/-- The node queues are intact wherever such a run gets to. -/
theorem main_shelved {devNum blockSize : Nat} {config : Nat → HighSpeedNetDevice}
    {ops : List MainOp} {t : Engine}
    (met : AllSteps mainStep (CreationsMeet NamesDevice)
      (highSpeedInitPool devNum config blockSize) ops)
    (reached : run mainStep (highSpeedInitPool devNum config blockSize) ops = .ok t) :
    ∃ C, Shelved t C := by
  refine main_upkeep (J := fun e => ∃ C, Shelved e C) ⟨_, shelved_init devNum config blockSize⟩ ?_
    met reached
  intro e e' hJ hm
  obtain ⟨C, h⟩ := hJ
  exact h.move hm

end BackendProxy.Pool
