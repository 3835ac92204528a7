import BackendProxy.Pool.ActiveQueues
import BackendProxy.Pool.Responses
import BackendProxy.Pool.Shelves

namespace BackendProxy.Pool

open Lib Lib.Tailq Queue Wire

/-! When the processing of a message returns at all. -/

/-- A creation that leaves the pool as its users expect it: the block holds the number of the
device, and TX takes the response. -/
def KeepsFit (e : Engine) (para : SessMsgPara) (env : CreateEnv) : Prop :=
  NamesDevice e para env ∧ env.response = .ok

/-- What every operation of a run is asked for: blocks with clear bits, and fit creations. -/
def Proper (e : Engine) (op : MainOp) : Prop :=
  clearBlocks.Meets e op ∧ CreationsMeet KeepsFit e op

/-- The table leads to live sessions that know the poller, and the node queues are intact. -/
structure Fit (e : Engine) : Prop where
  shelved : ∃ C, Shelved e C
  live : ∀ p ∈ e.htable, ∃ s, e.heap p = some s ∧ s.netChannel.arg = true

/-- The device a creation is for exists and is active, once the creation gets as far. -/
def DeviceFits (e : Engine) (para : SessMsgPara) (env : CreateEnv) : Prop :=
  env.malloc.isSome → e.idQueue.headD 0 ≠ 0 → e.devNum ≠ 0 → ∀ d, selectDev para env = some d →
    d.toNat < maxHsDevNum ∧ (e.dev d.toNat).active = true

/-- The requests for memory of a creation that ends at this check are met. Without an ID nothing is
given back; the table is asked once every other check is passed. -/
def MemoryFor (env : CreateEnv) : Option Check → Prop
  | none => env.tableMemory = true
  | some .memory => env.newSessId ≠ 0 → env.idMemory = true
  | some .sessId => True
  | some .response => env.tableMemory = true ∧ env.idMemory = true
  | some _ => env.idMemory = true

/-- What keeps a message from ending the process or leading out of the buffer. -/
structure Answerable (m : Mem) (e : Engine) (env : MsgEnv) : Prop where
  device : ∀ para, requestOf m = some para → DeviceFits e para env.create
  creation : ∀ para, requestOf m = some para →
    MemoryFor env.create (failingCheck para env.create e)
  deletion : ∀ frontend backend, closeOf m = some (frontend, backend) →
    e.lookup backend ≠ none → env.delete.idMemory = true
  data : DataFits m e env

/-- The message is processed to a status, and all that is read of it lies in its buffer. -/
structure Answered (m : Mem) (e : Engine) (iot : IotEnv) (env : MsgEnv) : Prop where
  returns : ∃ st sent e', processMsg m iot env e = .ok ((st, sent), e')
  inside : ∀ r ∈ readRanges m e iot env, r.1 + r.2 ≤ msgBufferSize

section Fit

variable {e e' : Engine}

theorem fit_init (devNum : Nat) (config : Nat → HighSpeedNetDevice) (blockSize : Nat) :
    Fit (highSpeedInitPool devNum config blockSize) := by
  refine ⟨⟨_, shelved_init devNum config blockSize⟩, ?_⟩
  intro p hp
  cases hp

theorem quiet_of_live (h : ∀ p ∈ e.htable, ∃ s, e.heap p = some s) : e.dangling = false := by
  rw [Engine.dangling, List.any_eq_false]
  intro p hp
  obtain ⟨s, hs⟩ := h p hp
  simp [hs]

theorem Fit.quiet (h : Fit e) : e.dangling = false := by
  refine quiet_of_live fun p hp => ?_
  obtain ⟨s, hs, -⟩ := h.live p hp
  exact ⟨s, hs⟩

theorem Fit.move (h : Fit e) (hm : PoolMove KeepsFit e e') : Fit e' := by
  obtain ⟨C, hshelved⟩ := h.shelved
  have hnext : PoolMove NamesDevice e e' := by
    cases hm with
    | active para env st hc hq => exact .active para env st hc hq.1
    | passive para env st hc => exact .passive para env st hc
    | deleted p s hd => exact .deleted p s hd
    | traffic hsame => exact .traffic hsame
  refine ⟨hshelved.move hnext, ?_⟩
  have hne : ∀ p ∈ e.htable, p ≠ e.nextSess := fun p hp => Nat.ne_of_lt (hshelved.old p hp)
  have hold : ∀ (o : Option BackendSession), ∀ p ∈ e.htable,
      ∃ s, Function.update e.heap e.nextSess o p = some s ∧ s.netChannel.arg = true := by
    intro o p hp
    rw [Function.update_of_ne (hne p hp)]
    exact h.live p hp
  cases hm with
  | active para env st hc hq =>
    cases createActive_ok hc with
    | noMemory _ => exact h.live
    | noId _ => exact hold none
    | failed _ _ _ => exact hold none
    | leaked _ _ _ hrefused => exact absurd hq.2 hrefused
    | created _ _ _ _ _ _ _ =>
      intro p hp
      rcases List.mem_append.mp hp with hp | hp
      · exact hold _ p hp
      · cases List.mem_singleton.mp hp
        exact ⟨_, Function.update_self _ _ _, rfl⟩
  | passive para env st hc =>
    cases createPassive_ok hc with
    | rejected => exact h.live
    | noMemory _ => exact h.live
    | noId _ => exact hold none
    | failed _ _ => exact hold none
    | completed _ => exact hold _
  | deleted p s hd =>
    intro q hq
    rw [hd.htable, hshelved.nodup.mem_erase_iff] at hq
    obtain ⟨t, ht, harg⟩ := h.live q hq.2
    obtain ⟨flags, ht'⟩ := untied_live (hd.others q hq.1) ht
    exact ⟨_, ht', harg⟩
  | traffic hsame =>
    intro q hq
    rw [hsame.fields] at hq
    obtain ⟨t, ht, harg⟩ := h.live q hq
    have hidle := hsame.sessions q
    rw [ht, Option.map_some] at hidle
    obtain ⟨t', ht', hkeep⟩ := Option.map_eq_some_iff.mp hidle
    exact ⟨t', ht', (congrArg (·.netChannel.arg) hkeep).trans harg⟩

end Fit

/-! Helpers that return. -/

section Helpers

open Prog

variable {e : Engine} {p : SessPtr} {s : BackendSession} {d : Dir} {n : NodePtr} {j : Nat}
  {k : NodeQueue}

theorem deref_returns (hs : e.heap p = some s) : Returns (deref p) e :=
  ⟨s, e, deref_ok.mpr ⟨hs, rfl⟩⟩

theorem walkTable_returns (hq : e.dangling = false) (t : Bool) : Returns (walkTable t) e := by
  refine (returns_get e).bind fun _ _ hget => ?_
  obtain ⟨rfl, rfl⟩ := get_ok.mp hget
  rw [hq, Bool.and_false]
  exact returns_pure _ _

theorem search_returns (hq : e.dangling = false) (id : UInt16) (t : Bool) :
    Returns (highSpeedSearchSess id t) e :=
  ⟨_, _, search_quiet hq t⟩

theorem hashDel_returns (hq : e.dangling = false) (hp : p ∈ e.htable) (t : Bool) :
    Returns (hashDel p t) e := by
  refine (walkTable_returns hq t).bind fun _ _ hw => (returns_get _).bind fun _ _ hget => ?_
  cases walkTable_ok hw
  obtain ⟨rfl, rfl⟩ := get_ok.mp hget
  exact .ite (fun _ => returns_modify _ _) (fun hout => absurd hp hout)

theorem releaseId_returns {id : UInt16} {memory : Bool} :
    Returns (releaseId id memory) e ↔ memory = true := by
  cases memory with
  | true => exact iff_of_true (returns_modify _ _) rfl
  | false => exact iff_of_false (not_returns_halt _ _) Bool.false_ne_true

theorem releaseIdIfSet_returns {id : UInt16} {memory : Bool} :
    Returns (releaseIdIfSet id memory) e ↔ (id ≠ 0 → memory = true) := by
  refine returns_ite_iff (fun hid => ?_) fun hid => ?_
  · exact iff_of_true (returns_pure _ _) fun hne => absurd hid hne
  · exact releaseId_returns.trans ⟨fun h _ => h, fun h => h hid⟩

theorem linkToQueue_returns (hs : e.heap p = some s)
    (hins : isLinked (s.state d) = false → ∃ Q, (e.queue d).insertTail () p = some Q) :
    Returns (linkToQueue p d) e := by
  refine (deref_returns hs).bind fun _ _ hd => ?_
  obtain ⟨hs', rfl⟩ := deref_ok.mp hd
  cases hs.symm.trans hs'
  refine .ite (fun _ => returns_pure _ _) (fun hl => ?_)
  obtain ⟨Q, hQ⟩ := hins (Bool.eq_false_iff.mpr hl)
  refine (returns_modify _ _).bind fun _ _ hst => (returns_get _).bind fun _ _ hget => ?_
  cases store_ok.mp hst
  obtain ⟨rfl, rfl⟩ := get_ok.mp hget
  exact (returns_ofOption hQ _).bind fun _ _ _ => returns_modify _ _

theorem unlinkFromQueue_returns (hs : e.heap p = some s)
    (hrem : isLinked (s.state d) = true → ∃ Q, (e.queue d).remove () p = some Q) :
    Returns (unlinkFromQueue p d) e := by
  refine (deref_returns hs).bind fun _ _ hd => ?_
  obtain ⟨hs', rfl⟩ := deref_ok.mp hd
  cases hs.symm.trans hs'
  refine .ite (fun hl => ?_) (fun _ => returns_pure _ _)
  obtain ⟨Q, hQ⟩ := hrem hl
  have hremove : Returns (removeFromQueue p d) e := by
    refine (returns_get e).bind fun _ _ hget => ?_
    obtain ⟨rfl, rfl⟩ := get_ok.mp hget
    exact (returns_ofOption hQ _).bind fun _ _ _ => returns_modify _ _
  refine hremove.bind fun _ _ hr => ?_
  obtain ⟨links, -, rfl⟩ := removeFromQueue_ok hr
  have hs' : ({ e with queue := Function.update e.queue d links } : Engine).heap p = some s := hs
  exact (deref_returns hs').bind fun _ _ _ => returns_modify _ _

theorem unregisterEpoll_returns (hs : e.heap p = some s) (harg : s.netChannel.arg = true)
    (ctl : Bool) : Returns (unregisterEpoll p ctl) e := by
  refine (deref_returns hs).bind fun _ _ hd => ?_
  obtain ⟨hs', rfl⟩ := deref_ok.mp hd
  cases hs.symm.trans hs'
  have hpoller : Returns (derefPoller s.netChannel) e := by
    unfold derefPoller
    rw [harg]
    exact returns_pure _ _
  exact hpoller.bind fun _ _ _ => (returns_modify _ _).bind fun _ _ _ =>
    .ite (fun _ => returns_modify _ _) (fun _ => returns_pure _ _)

theorem insertNode_returns (h : ∃ L, e.nodes.links.insertTail (j, k) n = some L) :
    Returns (insertNode j k n) e := by
  obtain ⟨L, hL⟩ := h
  refine (returns_get e).bind fun _ _ hget => ?_
  obtain ⟨rfl, rfl⟩ := get_ok.mp hget
  exact (returns_ofOption hL _).bind fun _ _ _ => returns_modify _ _

theorem removeNode_returns (h : ∃ L, e.nodes.links.remove (j, k) n = some L) :
    Returns (removeNode j k n) e := by
  obtain ⟨L, hL⟩ := h
  refine (returns_get e).bind fun _ _ hget => ?_
  obtain ⟨rfl, rfl⟩ := get_ok.mp hget
  exact (returns_ofOption hL _).bind fun _ _ _ => returns_modify _ _

theorem removeSessionNode_returns (hn : e.nodes.sess n = some p) (hs : e.heap p = some s)
    (hk : NodeQueue.ofProto s.protoType = some k)
    (hrem : ∃ L, e.nodes.links.remove (j, k) n = some L) : Returns (removeSessionNode j n) e := by
  refine (returns_get e).bind fun _ _ hget => ?_
  obtain ⟨rfl, rfl⟩ := get_ok.mp hget
  simp only [hn]
  refine (deref_returns hs).bind fun _ _ hd => ?_
  obtain ⟨hs', rfl⟩ := deref_ok.mp hd
  cases hs.symm.trans hs'
  simp only [hk]
  exact .ite (fun _ => (removeNode_returns hrem).bind fun _ _ _ => returns_modify _ _)
    (fun _ => returns_pure _ _)

theorem detachNode_returns (hs : e.heap p = some s)
    (h : ∃ L, e.nodes.links.insertTail (j, .free) n = some L) : Returns (detachNode j p n) e := by
  refine (returns_modify _ _).bind fun _ _ hset => ?_
  cases setNodeSess_ok.mp hset
  refine Returns.bind ⟨s, _, deref_ok.mpr ⟨hs, rfl⟩⟩ fun _ _ hd => ?_
  obtain ⟨-, rfl⟩ := deref_ok.mp hd
  refine (returns_modify _ _).bind fun _ _ hst => ?_
  cases store_ok.mp hst
  exact insertNode_returns h

theorem createSessError_returns {id : UInt16} {fd : Int} {memory : Bool} :
    Returns (createSessError p id fd memory) e ↔ (id ≠ 0 → memory = true) := by
  refine (returns_modify _ _).bind_iff fun _ _ _ => ?_
  refine (returns_bind_first fun _ _ _ => ?_).trans releaseIdIfSet_returns
  have hclose : ∀ t, Returns (closeIfOpen fd) t :=
    fun t => .ite (fun _ => returns_pure _ _) fun _ => returns_modify _ _
  exact (hclose _).bind fun _ _ _ => returns_pure _ _

end Helpers

/-! Deletion. -/

section Deletion

open Prog

variable {e : Engine} {l : Dir → List SessPtr} {p : SessPtr} {s : BackendSession}

/-- The node of a session that is tied to it can be given back. -/
theorem recycleNodeOf_returns {C : Nat × NodeQueue → List NodePtr} (hs : e.heap p = some s)
    (hall : HoldsAll e.nodes.links C (fun h => h.1 < e.devNum)) (ht : Tied e C p s) :
    Returns (recycleNodeOf p) e := by
  obtain ⟨d, k, n, hd, hmax, hdev, hk, hin, hnode, hlink, hns⟩ := ht
  obtain ⟨M, K, hM, hK⟩ := hall.can_move (h := (d, k)) (k := (d, .free)) hd hd hin
  have hd₀ : s.devId.toNat = d := by omega
  refine (deref_returns hs).bind fun _ _ hder => ?_
  obtain ⟨hs', rfl⟩ := deref_ok.mp hder
  cases hs.symm.trans hs'
  refine .ite (fun _ => returns_pure _ _) fun _ => .ite (fun _ => ?_) fun _ => returns_pure _ _
  refine (returns_ofOption hnode _).bind fun _ _ hof => ?_
  obtain ⟨hn, rfl⟩ := ofOption_ok.mp hof
  cases hnode.symm.trans hn
  rw [hd₀]
  refine (removeSessionNode_returns hns hs hk ⟨M, hM⟩).bind fun _ _ hrem => ?_
  obtain ⟨M', hM', rfl⟩ := removeSessionNode_ok hrem hns hs hk hlink
  cases hM.symm.trans hM'
  refine (returns_modify _ _).bind fun _ _ hset => ?_
  cases setNodeSess_ok.mp hset
  exact insertNode_returns ⟨K, hK⟩

/-- A session of the table is deleted once its ID can be given back. -/
theorem delete_returns {env : DeleteEnv} (h : Fit e) (hsound : Sound e l)
    (hlinked : ∀ d, isLinked (s.state d) = true → p ∈ l d) (hp : p ∈ e.htable)
    (hs : e.heap p = some s) : Returns (highSpeedDeleteSess p env) e ↔ env.idMemory = true := by
  obtain ⟨C, hshelved⟩ := h.shelved
  obtain ⟨s', hs', harg⟩ := h.live p hp
  cases hs.symm.trans hs'
  have hrem : ∀ d, isLinked (s.state d) = true → ∃ Q, (e.queue d).remove () p = some Q := by
    intro d hl
    obtain ⟨a, b, hab⟩ := List.append_of_mem (hlinked d hl)
    obtain ⟨Q, hQ, -⟩ := (hab ▸ hsound.holds d).remove
    exact ⟨Q, hQ⟩
  refine (unregisterEpoll_returns hs harg _).bind_iff fun _ _ hun => ?_
  obtain ⟨s', hs', -, rfl⟩ := unregisterEpoll_ok hun
  cases hs.symm.trans hs'
  refine (deref_returns (Function.update_self p _ _)).bind_iff fun _ _ hd => ?_
  obtain ⟨hs₁, rfl⟩ := deref_ok.mp hd
  cases (Function.update_self p _ _).symm.trans hs₁
  refine (returns_modify _ _).bind_iff fun _ _ hclose => ?_
  cases closeFd_ok.mp hclose
  have hquiet : ∀ (s' : BackendSession) (E : List (Int × SessPtr)),
      Engine.dangling { e with heap := Function.update e.heap p (some s'), epoll := E } =
        false := by
    intro s' E
    refine quiet_of_live fun q hq => ?_
    by_cases hqp : q = p
    · subst hqp
      exact ⟨s', Function.update_self _ _ _⟩
    · obtain ⟨t, ht, -⟩ := h.live q hq
      exact ⟨t, (Function.update_of_ne hqp _ _).trans ht⟩
  refine (hashDel_returns (hquiet _ _) hp _).bind_iff fun _ _ hdel => ?_
  obtain ⟨-, rfl⟩ := hashDel_ok hdel
  refine (returns_modify _ _).bind_iff fun _ _ hnum => ?_
  cases modify_ok.mp hnum
  refine (unlinkFromQueue_returns (Function.update_self p _ _) ?_).bind_iff fun _ _ hf => ?_
  · exact hrem .f2b
  obtain ⟨f₁, Q₁, rfl, -, -⟩ := unlinkFromQueue_ok hf (Function.update_self p _ _)
  refine (unlinkFromQueue_returns (Function.update_self p _ _) ?_).bind_iff fun _ _ hb => ?_
  · exact hrem .b2f
  obtain ⟨f₂, Q₂, rfl, -, -⟩ := unlinkFromQueue_ok hb (Function.update_self p _ _)
  refine (deref_returns (Function.update_self p _ _)).bind_iff fun _ _ hd₂ => ?_
  obtain ⟨hs₂, rfl⟩ := deref_ok.mp hd₂
  cases (Function.update_self p _ _).symm.trans hs₂
  refine (returns_modify _ _).bind_iff fun _ _ hst => ?_
  cases store_ok.mp hst
  refine (returns_bind_first fun _ _ hrel => ?_).trans releaseId_returns
  cases releaseId_ok hrel
  refine (recycleNodeOf_returns (C := C) (Function.update_self p _ _) ?_ ?_).bind fun _ _ _ => ?_
  · exact hshelved.shelves
  · exact hshelved.tied p s hp hs
  exact (returns_modify _ _).bind fun _ _ _ => returns_pure _ _

end Deletion

/-! Creation. -/

section Creation

open Prog

variable {e : Engine} {C : Nat × NodeQueue → List NodePtr} {p : SessPtr} {s : BackendSession}
  {n : NodePtr} {d : Nat} {k : NodeQueue} {newSessId : UInt16} {fd : Int} {para : SessMsgPara}
  {env : CreateEnv}

theorem mallocSession_returns (block : BackendSession) (e : Engine) :
    Returns (mallocSession block) e :=
  (returns_get e).bind fun _ _ _ => (returns_modify _ _).bind fun _ _ _ => returns_pure _ _

theorem allocateId_returns (e : Engine) : Returns allocateId e := by
  refine (returns_get e).bind fun _ _ hget => ?_
  obtain ⟨rfl, rfl⟩ := get_ok.mp hget
  cases e.idQueue with
  | nil => exact returns_pure _ _
  | cons id rest => exact (returns_modify _ _).bind fun _ _ _ => returns_pure _ _

theorem getNsId_returns {devId : UInt16} (hrange : devId.toNat < maxHsDevNum)
    (hactive : (e.dev devId.toNat).active = true) : Returns (getNsId devId) e := by
  refine (returns_get e).bind fun _ _ hget => ?_
  obtain ⟨rfl, rfl⟩ := get_ok.mp hget
  exact .ite (fun _ => returns_pure _ _) fun hno => absurd ⟨hrange, hactive⟩ hno

theorem openSocket_returns (h : e.devNum ≠ 0 → ∀ d, selectDev para env = some d →
      d.toNat < maxHsDevNum ∧ (e.dev d.toNat).active = true) : Returns (openSocket para env) e := by
  refine (returns_get e).bind fun _ _ hget => ?_
  obtain ⟨rfl, rfl⟩ := get_ok.mp hget
  refine .ite (fun _ => returns_pure _ _) fun hdevs => ?_
  cases hsel : selectDev para env with
  | none => exact returns_pure _ _
  | some d =>
    obtain ⟨hrange, hactive⟩ := h hdevs d hsel
    refine (getNsId_returns hrange hactive).bind fun _ _ hns => ?_
    refine .ite (fun _ => returns_pure _ _) fun _ => ?_
    cases createSocketNetns para env.socket with
    | none => exact returns_pure _ _
    | some fd => exact .ite (fun _ => returns_pure _ _) fun _ => returns_pure _ _

theorem registerEpoll_returns (hs : e.heap p = some s) (harg : s.netChannel.arg = true)
    (hstatus : s.netChannel.status = epollRegStatusUnregistered) (ctl : Bool) :
    Returns (registerEpoll p ctl) e := by
  refine (deref_returns hs).bind fun _ _ hd => ?_
  obtain ⟨hs', rfl⟩ := deref_ok.mp hd
  cases hs.symm.trans hs'
  refine .ite (fun _ => ?_) fun hno => absurd hstatus hno
  refine (returns_modify _ _).bind fun _ t _ => ?_
  have hpoller : Returns (derefPoller { s.netChannel with events := epollIn }) t := by
    unfold derefPoller
    rw [harg]
    exact returns_pure _ _
  exact hpoller.bind fun _ _ _ =>
    .ite (fun _ => (returns_modify _ _).bind fun _ _ _ => returns_pure _ _)
      fun _ => returns_pure _ _

theorem insertSess_returns (hs : e.heap p = some s) (hq : e.dangling = false) (t memory : Bool) :
    Returns (highSpeedInsertSess p t memory) e ↔
      (e.lookup s.backendSessId = none → memory = true) := by
  refine (deref_returns hs).bind_iff fun _ _ hd => ?_
  obtain ⟨hs', rfl⟩ := deref_ok.mp hd
  cases hs.symm.trans hs'
  refine (search_returns hq _ t).bind_iff fun found _ hsearch => ?_
  obtain ⟨hfound, rfl⟩ := search_ok hsearch
  rw [hfound]
  cases found with
  | none =>
    refine returns_ite_iff (fun hm => ?_) fun hm => ?_
    · exact iff_of_true ((returns_modify _ _).bind fun _ _ _ => returns_pure _ _) fun _ => hm
    · exact iff_of_false (not_returns_halt _ _) fun h => hm (h rfl)
  | some q => exact iff_of_true (returns_pure _ _) fun h => by cases h

theorem recycleSessNode_returns (hid : newSessId ≠ 0) (hn : e.nodes.sess n = some p)
    (hs : e.heap p = some s) (hk : NodeQueue.ofProto s.protoType = some k)
    (hlink : isLinked s.sessDevLinkState = true)
    (hmove : ∃ M K, e.nodes.links.remove (d, k) n = some M ∧
      M.insertTail (d, .free) n = some K) :
    Returns (recycleSessNode d n p newSessId fd env.idMemory) e ↔ env.idMemory = true := by
  obtain ⟨M, K, hM, hK⟩ := hmove
  refine (removeSessionNode_returns hn hs hk ⟨M, hM⟩).bind_iff fun _ _ hrem => ?_
  obtain ⟨M', hM', rfl⟩ := removeSessionNode_ok hrem hn hs hk hlink
  cases hM.symm.trans hM'
  refine (detachNode_returns (Function.update_self p _ _) ⟨K, hK⟩).bind_iff fun _ _ _ => ?_
  exact createSessError_returns.trans ⟨fun h => h hid, fun h _ => h⟩

/-- A session outside the table may be written to. -/
theorem live_updated {table : List SessPtr} {heap : SessPtr → Option BackendSession}
    (hlive : ∀ q ∈ table, ∃ t, heap q = some t) (hout : p ∉ table) (s : Option BackendSession) :
    ∀ q ∈ table, ∃ t, Function.update heap p s q = some t := by
  intro q hq
  obtain ⟨t, ht⟩ := hlive q hq
  have hqp : q ≠ p := fun h => hout (h ▸ hq)
  exact ⟨t, (Function.update_of_ne hqp _ _).trans ht⟩

/-- From the registration to the response; `found` is the session that has the ID already. -/
def publishCheck (env : CreateEnv) (found : Option SessPtr) : Option Check :=
  if env.epollAdd = false then some .epoll
  else if found ≠ none then some .table
  else if env.response ≠ .ok then some .response
  else none

theorem publish_returns (hid : newSessId ≠ 0) (hn : e.nodes.sess n = some p)
    (hs : e.heap p = some s) (hk : NodeQueue.ofProto s.protoType = some k)
    (hlink : isLinked s.sessDevLinkState = true) (harg : s.netChannel.arg = true)
    (hstatus : s.netChannel.status = epollRegStatusUnregistered)
    (hlive : ∀ q ∈ e.htable, ∃ t, e.heap q = some t) (hout : p ∉ e.htable)
    (hmove : ∃ M K, e.nodes.links.remove (d, k) n = some M ∧
      M.insertTail (d, .free) n = some K) :
    Returns (publish d n p newSessId fd env) e ↔
      MemoryFor env (publishCheck env (e.lookup s.backendSessId)) := by
  have hquiet : ∀ E, Engine.dangling
      { e with heap := Function.update e.heap p (some s.registered), epoll := E } = false := by
    intro E
    exact quiet_of_live (live_updated hlive hout _)
  refine (registerEpoll_returns hs harg hstatus _).bind_iff fun _ _ hreg => ?_
  obtain ⟨hst, rfl⟩ := registerEpoll_ok hreg hs hstatus
  clear hreg
  generalize (if env.epollAdd = true then (s.netChannel.sockFd, p) :: e.epoll else e.epoll) = E
  have hself := Function.update_self p (some s.registered) e.heap
  refine returns_ite_iff (fun hok => ?_) fun hno => ?_
  · have hadd : ¬ env.epollAdd = false := by
      rw [hst.mp hok]
      decide
    -- the table leads to the same sessions as before the registration
    have hlookup : Engine.lookup
        { e with heap := Function.update e.heap p (some s.registered), epoll := E }
          s.registered.backendSessId = e.lookup s.backendSessId := by
      apply lookup_update hout
      · rfl
      · rfl
    have hinsert := insertSess_returns (s := s.registered) hself (hquiet E) env.touchesFreed
      env.tableMemory
    rw [hlookup] at hinsert
    by_cases hmem : e.lookup s.backendSessId = none → env.tableMemory = true
    · refine (hinsert.mpr hmem).bind_iff fun _ _ hins => ?_
      obtain ⟨s', hs', hcase⟩ := insertSess_ok hins
      cases hself.symm.trans hs'
      rw [hlookup] at hcase
      rcases hcase with ⟨hfree, rfl, rfl⟩ | ⟨hused, rfl, rfl⟩
      · refine returns_ite_iff (fun _ => ?_) fun hno => absurd rfl hno
        refine returns_ite_iff (fun hresp => ?_) fun hresp => ?_
        · have hcheck : publishCheck env (e.lookup s.backendSessId) = none := by
            simp [publishCheck, hadd, hfree, hresp]
          rw [hcheck]
          exact iff_of_true (returns_pure _ _) (hmem hfree)
        · have hcheck : publishCheck env (e.lookup s.backendSessId) = some .response := by
            simp [publishCheck, hadd, hfree, hresp]
          rw [hcheck]
          exact Iff.trans (recycleSessNode_returns hid hn hself hk hlink hmove)
            ⟨fun h => ⟨hmem hfree, h⟩, fun h => h.2⟩
      · have hcheck : publishCheck env (e.lookup s.backendSessId) = some .table := by
          simp [publishCheck, hadd, hused]
        rw [hcheck]
        refine returns_ite_iff (fun hno => by cases hno) fun _ => ?_
        refine (unregisterEpoll_returns (s := s.registered) hself harg _).bind_iff fun _ _ hun => ?_
        obtain ⟨s', hs', -, rfl⟩ := unregisterEpoll_ok hun
        cases hself.symm.trans hs'
        exact recycleSessNode_returns hid hn (Function.update_self p _ _) hk hlink hmove
    · obtain ⟨hfree, hnomem⟩ := Classical.not_imp.mp hmem
      refine iff_of_false (fun h => hmem (hinsert.mp h.first)) fun hasked => hnomem ?_
      unfold publishCheck at hasked
      rw [if_neg hadd, if_neg (not_not.mpr hfree)] at hasked
      split at hasked
      · exact hasked.1
      · exact hasked
  · have hcheck : publishCheck env (e.lookup s.backendSessId) = some .epoll :=
      if_pos (Bool.eq_false_iff.mpr fun h => hno (hst.mpr h))
    rw [hcheck]
    exact recycleSessNode_returns hid hn hself hk hlink hmove

theorem insertSessionNode_returns (hn : e.nodes.sess n = some p) (hs : e.heap p = some s)
    (hput : ∀ k, NodeQueue.ofProto s.protoType = some k →
      ∃ L, e.nodes.links.insertTail (d, k) n = some L) : Returns (insertSessionNode d n) e := by
  refine (returns_get e).bind fun _ _ hget => ?_
  obtain ⟨rfl, rfl⟩ := get_ok.mp hget
  simp only [hn]
  refine (deref_returns hs).bind fun _ _ hd => ?_
  obtain ⟨hs', rfl⟩ := deref_ok.mp hd
  cases hs.symm.trans hs'
  cases hk : NodeQueue.ofProto s.protoType with
  | none => exact returns_pure _ _
  | some k =>
    refine .ite (fun _ => returns_pure _ _) fun _ => ?_
    exact (insertNode_returns (hput k hk)).bind fun _ _ _ => (returns_modify _ _).bind
      fun _ _ _ => returns_pure _ _

theorem bindToDevice_returns (hid : newSessId ≠ 0) (hs : e.heap p = some s)
    (hk : NodeQueue.ofProto s.protoType = some k) (harg : s.netChannel.arg = true)
    (hstatus : s.netChannel.status = epollRegStatusUnregistered)
    (hlive : ∀ q ∈ e.htable, ∃ t, e.heap q = some t) (hout : p ∉ e.htable)
    (hall : HoldsAll e.nodes.links C (fun h => h.1 < e.devNum)) :
    Returns (bindToDevice d p newSessId fd env) e ↔
      MemoryFor env (if e.nodes.links.first (d, .free) = none then some .node
        else publishCheck env (e.lookup s.backendSessId)) := by
  cases hfirst : e.nodes.links.first (d, .free) with
  | none =>
    have hpop : popFreeSessionNode d e = .ok (none, e) := by
      refine bind_ok.mpr ⟨e, e, rfl, ?_⟩
      simp only [hfirst]
      rfl
    refine Returns.bind_iff ⟨_, _, hpop⟩ fun _ _ hp => ?_
    cases hpop.symm.trans hp
    rw [if_pos rfl]
    exact createSessError_returns.trans ⟨fun h => h hid, fun h _ => h⟩
  | some n =>
    rw [if_neg (by simp)]
    obtain ⟨hd, rest, hC⟩ := first_shelved hall hfirst
    have hin : n ∈ C (d, .free) := by
      rw [hC]
      simp
    obtain ⟨M, K, hM, hK⟩ := hall.can_move (h := (d, .free)) (k := (d, .free)) hd hd hin
    have hpop : Returns (popFreeSessionNode d) e := by
      refine (returns_get e).bind fun _ _ hget => ?_
      obtain ⟨rfl, rfl⟩ := get_ok.mp hget
      simp only [hfirst]
      exact (removeNode_returns ⟨M, hM⟩).bind fun _ _ _ => returns_pure _ _
    refine hpop.bind_iff fun node _ hp => ?_
    rcases popFree_ok hp with ⟨rfl, hnone, -⟩ | ⟨m, M', rfl, hfirst', hM', rfl⟩
    · cases hfirst.symm.trans hnone
    cases hfirst.symm.trans hfirst'
    cases hM.symm.trans hM'
    have hattach : Returns (attachNode p n) { e with nodes := { e.nodes with links := M } } :=
      Returns.bind ⟨s, _, deref_ok.mpr ⟨hs, rfl⟩⟩ fun _ _ _ =>
        (returns_modify _ _).bind fun _ _ _ => returns_modify _ _
    refine hattach.bind_iff fun _ _ hatt => ?_
    simp only [attachNode, bind_ok, deref_ok, setNodeSess_ok, store_ok] at hatt
    obtain ⟨s', _, ⟨hs', rfl⟩, _, _, rfl, rfl⟩ := hatt
    cases hs.symm.trans hs'
    have hcan : ∀ k, ∃ L, M.insertTail (d, k) n = some L := by
      intro k
      obtain ⟨M', L, hM', hL⟩ := hall.can_move (h := (d, .free)) (k := (d, k)) hd hd hin
      cases hM.symm.trans hM'
      exact ⟨L, hL⟩
    refine (insertSessionNode_returns (Function.update_self n _ _) (Function.update_self p _ _)
      fun k _ => hcan k).bind_iff fun _ _ hins => ?_
    rcases insertSessionNode_ok hins (Function.update_self n _ _) (Function.update_self p _ _)
      (isLinked_clear _) with ⟨hno, -⟩ | ⟨k', L, hk', rfl, hput, rfl⟩
    · cases hk.symm.trans hno
    cases hk.symm.trans hk'
    refine returns_ite_iff (fun _ => ?_) fun hno => absurd rfl hno
    have hshelf := hall.move (k := (d, k)) hd hd hC hM hput
    have hlast : n ∈ moved C (d, .free) ([] ++ rest) (d, k) n (d, k) := by simp [moved]
    refine Iff.trans (publish_returns hid (Function.update_self n _ _) (Function.update_self p _ _)
      hk (isLinked_set _) harg hstatus ?_ hout (hshelf.can_move (h := (d, k)) hd hd hlast)) ?_
    · exact live_updated (live_updated hlive hout _) hout _
    · have hsame : ∀ N t, Engine.lookup
          { e with nodes := N, heap := Function.update e.heap p (some t) } s.backendSessId =
            e.lookup s.backendSessId := by
        intro N t
        apply lookup_update hout
        · rfl
        · rfl
      simp only [Function.update_idem, hsame]

/-- The device and the socket, or the check that fails. -/
theorem openSocket_check {o : Opening} {e' : Engine} (h : openSocket para env e = .ok (o, e')) :
    (∃ c fd, openCheck para env e = .error c ∧ (c = .device ∨ c = .socket ∨ c = .connect) ∧
      o = .failed fd) ∨
      ∃ d fd k, openCheck para env e = .ok (d, fd) ∧ o = .opened d fd ∧
        NodeQueue.ofProto para.transProto.toNat = some k := by
  simp only [openSocket, bind_ok, get_ok] at h
  obtain ⟨_, _, ⟨rfl, rfl⟩, h⟩ := h
  unfold openCheck
  split at h <;> rename_i hdevs
  · obtain ⟨rfl, -⟩ := pure_ok.mp h
    exact .inl ⟨.device, _, if_pos hdevs, .inl rfl, rfl⟩
  rw [if_neg hdevs]
  cases hsel : selectDev para env with
  | none =>
    simp only [hsel, pure_ok] at h
    exact .inl ⟨.device, _, rfl, .inl rfl, h.1.symm⟩
  | some d =>
    simp only [hsel, bind_ok] at h
    obtain ⟨nsId, _, hns, h⟩ := h
    obtain ⟨-, rfl, rfl⟩ := getNsId_ok hns
    split at h <;> rename_i herr
    · obtain ⟨rfl, -⟩ := pure_ok.mp h
      exact .inl ⟨.device, _, if_pos herr, .inl rfl, rfl⟩
    simp only [herr, if_false]
    cases hsock : createSocketNetns para env.socket with
    | none =>
      simp only [hsock, pure_ok] at h
      exact .inl ⟨.socket, _, rfl, .inr (.inl rfl), h.1.symm⟩
    | some fd =>
      simp only [hsock] at h
      split at h <;> rename_i hconn <;> obtain ⟨rfl, -⟩ := pure_ok.mp h
      · simp only [connectSocketNetns, Bool.and_eq_true, bne_iff_ne] at hconn
        obtain ⟨-, k, hk⟩ := (createSocketNetns_some hsock).resolve_left hconn.2
        exact .inr ⟨d, fd, k, if_pos (by simpa [connectSocketNetns] using hconn), rfl, hk⟩
      · exact .inl ⟨.connect, fd, if_neg hconn, .inr (.inr rfl), rfl⟩

theorem initActive_returns (hs : e.heap p = some s) :
    Returns (initActive p newSessId fd para) e :=
  (deref_returns hs).bind fun _ _ _ => returns_modify _ _

/-- A creation for a device that fits returns if the memory it asks for is there. -/
theorem createActive_returns (h : Fit e) (hdev : DeviceFits e para env) :
    Returns (highSpeedCreateSessActive para env) e ↔
      MemoryFor env (failingCheck para env e) := by
  obtain ⟨C, hshelved⟩ := h.shelved
  unfold highSpeedCreateSessActive
  cases hmem : env.malloc with
  | none =>
    have hcheck : failingCheck para env e = some .memory := by simp [failingCheck, hmem]
    rw [hcheck]
    exact (returns_bind_first fun _ _ _ => returns_pure _ _).trans releaseIdIfSet_returns
  | some block =>
    refine (mallocSession_returns block e).bind_iff fun _ _ hmalloc => ?_
    obtain ⟨rfl, rfl⟩ := mallocSession_ok.mp hmalloc
    refine (allocateId_returns _).bind_iff fun id _ hid => ?_
    obtain ⟨hhead, rfl⟩ := allocateId_ok hid
    have hhead : id = e.idQueue.headD 0 := hhead
    refine returns_ite_iff (fun hzero => ?_) fun hzero => ?_
    · rw [failingCheck_noId hmem (hhead.symm.trans hzero)]
      exact iff_of_true (createSessError_returns.mpr fun hne => absurd rfl hne) trivial
    have hfits := hdev (by rw [hmem]; rfl) (fun h0 => hzero (hhead.trans h0))
    rw [failingCheck_started para hmem fun h0 => hzero (hhead.trans h0)]
    refine Returns.bind_iff (openSocket_returns ?_) fun opening _ hopen => ?_
    · exact hfits
    obtain ⟨rfl, -⟩ := openSocket_ok hopen
    rcases openSocket_check hopen with ⟨c, fd, hc, hstage, rfl⟩ | ⟨d, fd, k, hc, rfl, hk⟩
    · have hc : openCheck para env e = .error c := hc
      rw [hc]
      have hasked : MemoryFor env (some c) ↔ env.idMemory = true := by
        rcases hstage with rfl | rfl | rfl <;> exact Iff.rfl
      exact createSessError_returns.trans
        ⟨fun h => hasked.mpr (h hzero), fun h _ => hasked.mp h⟩
    · have hc : openCheck para env e = .ok (d, fd) := hc
      rw [hc]
      refine (initActive_returns (Function.update_self e.nextSess _ _)).bind_iff fun _ _ hin => ?_
      simp only [initActive, bind_ok, deref_ok, store_ok] at hin
      obtain ⟨block', _, ⟨hb, rfl⟩, rfl⟩ := hin
      have hout : e.nextSess ∉ e.htable := fun hin => Nat.lt_irrefl _ (hshelved.old _ hin)
      refine Iff.trans (bindToDevice_returns (C := C) hzero (Function.update_self e.nextSess _ _) hk
        rfl rfl ?_ hout ?_) ?_
      · have hlive : ∀ q ∈ e.htable, ∃ t, e.heap q = some t := by
          intro q hq
          obtain ⟨t, ht, -⟩ := h.live q hq
          exact ⟨t, ht⟩
        exact live_updated (live_updated hlive hout _) hout _
      · exact hshelved.shelves
      · have hsame : ∀ N ids t, Engine.lookup
            { e with
              heap := Function.update e.heap e.nextSess (some t), nextSess := N, idQueue := ids }
            id = e.lookup id := by
          intro N ids t
          apply lookup_update hout
          · rfl
          · rfl
        simp only [Function.update_idem, hsame]
        rw [hhead]
        rfl

/-- A creation that returns was not stopped by an assertion about the device. -/
theorem createActive_fits {st : ProcessStatus} {e' : Engine}
    (h : highSpeedCreateSessActive para env e = .ok (st, e')) : DeviceFits e para env := by
  intro hmem hhead hdevs d hsel
  obtain ⟨block, hblock⟩ := Option.isSome_iff_exists.mp hmem
  simp only [highSpeedCreateSessActive, hblock, bind_ok, mallocSession_ok] at h
  obtain ⟨_, _, ⟨rfl, rfl⟩, id, _, hid, h⟩ := h
  obtain ⟨hfirst, rfl⟩ := allocateId_ok hid
  rw [if_neg (fun h0 => hhead (hfirst.symm.trans h0))] at h
  simp only [openSocket, bind_ok, get_ok] at h
  obtain ⟨_, _, ⟨_, _, ⟨rfl, rfl⟩, hopen⟩, -⟩ := h
  rw [if_neg hdevs] at hopen
  simp only [hsel, bind_ok] at hopen
  obtain ⟨_, _, hns, -⟩ := hopen
  exact (getNsId_ok hns).1

end Creation

/-! Messages. -/

section Messages

open Prog

variable {e : Engine} {l : Dir → List SessPtr} {p : SessPtr} {s : BackendSession} {env : MsgEnv}

theorem data_returns (h : Fit e) (hsound : Sound e l) (backend : UInt16) (payload : List UInt8) :
    Returns (backendProxyDataMsgProcess backend payload env) e := by
  refine (search_returns h.quiet backend _).bind fun found _ hsearch => ?_
  obtain ⟨hfound, rfl⟩ := search_ok hsearch
  cases found with
  | none => exact returns_pure _ _
  | some p =>
    obtain ⟨hp, s, hs⟩ := lookup_live hfound
    refine .ite (fun _ => ?_) fun _ => returns_pure _ _
    refine (deref_returns hs).bind fun _ _ hd => ?_
    obtain ⟨hs', rfl⟩ := deref_ok.mp hd
    cases hs.symm.trans hs'
    refine (returns_modify _ _).bind fun _ _ hst => ?_
    cases modify_ok.mp hst
    refine (linkToQueue_returns (Function.update_self p _ _) ?_).bind fun _ _ _ => returns_pure _ _
    intro hlink
    have hnot : p ∉ l .f2b := by
      intro hmem
      have hset := hsound.linked hmem hs
      rw [show isLinked (s.state .f2b) = false from hlink] at hset
      cases hset
    obtain ⟨Q, hQ, -⟩ := (hsound.holds .f2b).insertTail hnot
    exact ⟨Q, hQ⟩

theorem passiveCreate_returns (h : Fit e) (hsound : Sound e l) (backend : UInt16) :
    Returns (backendProxySessMsgProcessPassiveCreate backend env) e := by
  refine (search_returns h.quiet backend _).bind fun found _ hsearch => ?_
  obtain ⟨hfound, rfl⟩ := search_ok hsearch
  cases found with
  | none => exact returns_pure _ _
  | some p =>
    obtain ⟨hp, s, hs⟩ := lookup_live hfound
    refine (deref_returns hs).bind fun _ _ hd => ?_
    obtain ⟨hs', rfl⟩ := deref_ok.mp hd
    cases hs.symm.trans hs'
    have hmode := hsound.active p s hp hs
    exact .ite (fun _ => returns_pure _ _) fun hno => absurd (by rw [hmode]; decide) hno

theorem searchAndDelete_returns {env : DeleteEnv} (h : Fit e) (hsound : Sound e l)
    (hlinked : ∀ p s d, p ∈ e.htable → e.heap p = some s → isLinked (s.state d) = true → p ∈ l d)
    (id : UInt16) :
    Returns (searchAndDelete id env) e ↔ (e.lookup id ≠ none → env.idMemory = true) := by
  refine (search_returns h.quiet id _).bind_iff fun found _ hsearch => ?_
  obtain ⟨hfound, rfl⟩ := search_ok hsearch
  rw [hfound]
  cases found with
  | none => exact iff_of_true (returns_pure _ _) fun hne => absurd rfl hne
  | some p =>
    obtain ⟨hp, s, hs⟩ := lookup_live hfound
    refine (delete_returns h hsound (fun d => hlinked p s d hp hs) hp hs).trans ?_
    simp

/-- Only a creation and a deletion may fail to return. -/
theorem receiveMsg_returns {m : Mem} (h : Fit e) (hsound : Sound e l)
    (hlinked : ∀ p s d, p ∈ e.htable → e.heap p = some s → isLinked (s.state d) = true → p ∈ l d) :
    Returns (receiveMsg m env) e ↔
      (∀ para, requestOf m = some para →
        Returns (highSpeedCreateSessActive para env.create) e) ∧
      ∀ frontend backend, closeOf m = some (frontend, backend) → e.lookup backend ≠ none →
        env.delete.idMemory = true := by
  unfold receiveMsg requestOf closeOf
  cases hd : backendProxyMsgProcess m with
  | none => exact iff_of_true (returns_pure _ _) ⟨by simp, by simp⟩
  | some dispatch =>
    dsimp only
    unfold handleDispatch
    split
    · refine (searchAndDelete_returns h hsound hlinked _).trans ?_
      simp
    · rename_i hdr _
      by_cases hw : WholeParams hdr
      · rw [activeCreate_whole hw]
        simp [hw]
      · rw [activeCreate_short hw]
        exact iff_of_true (returns_pure _ _) ⟨by simp [hw], by simp⟩
    · exact iff_of_true (passiveCreate_returns h hsound _) ⟨by simp, by simp⟩
    · exact iff_of_true (data_returns h hsound _ _) ⟨by simp, by simp⟩
    · rename_i hclose hactive _ _
      refine iff_of_true (returns_pure _ _) ⟨?_, ?_⟩
      · intro para hreq
        split at hreq
        · rename_i hsome
          cases hsome
          exact absurd rfl (hactive _ _ _ _)
        · cases hreq
      · intro frontend backend hreq
        split at hreq
        · rename_i hsome
          cases hsome
          exact absurd rfl (hclose _ _ _ _)
        · cases hreq

/-- What is handed to an IoT device is handed on by a call that returns. -/
theorem processMsg_returns {m : Mem} {iot : IotEnv} :
    Returns (processMsg m iot env) e ↔ Returns (receiveMsg m env) e := by
  unfold processMsg receiveMsg
  cases hd : backendProxyMsgProcess m with
  | none => exact iff_of_true (returns_pure _ _) (returns_pure _ _)
  | some dispatch =>
    cases dispatch with
    | iot frontend backend msgLen msg =>
      refine iff_of_true ?_ (returns_pure _ _)
      dsimp only
      split <;> exact returns_pure _ _
    | dev | strgy | sess | data => exact returns_bind_first fun _ _ _ => returns_pure _ _

end Messages

section Runs

variable {devNum blockSize : Nat} {config : Nat → HighSpeedNetDevice} {ops : List MainOp}
  {e : Engine}

theorem main_fit
    (proper : AllSteps mainStep Proper (highSpeedInitPool devNum config blockSize) ops)
    (reached : run mainStep (highSpeedInitPool devNum config blockSize) ops = .ok e) : Fit e :=
  main_upkeep (J := Fit) (fit_init devNum config blockSize) (fun _ _ => Fit.move)
    (proper.mono fun _ _ h => h.2) reached

end Runs

/-- A message received after a proper run is answered exactly if it asks for no session on a device
that does not exist or is not active, the requests for memory on its way are met, and it is no DATA
message that announces more than the buffer holds. -/
theorem message_returns_iff (devNum : Nat) (config : Nat → HighSpeedNetDevice) (blockSize : Nat)
    (ops : List MainOp) (e : Engine) (m : Mem) (iot : IotEnv) (env : MsgEnv)
    (proper : AllSteps mainStep Proper (highSpeedInitPool devNum config blockSize) ops)
    (reached : run mainStep (highSpeedInitPool devNum config blockSize) ops = .ok e) :
    Answered m e iot env ↔ Answerable m e env := by
  have hfit := main_fit proper reached
  obtain ⟨l, hsound, hrule⟩ := main_obeys (tiedRule blockSize) (proper.mono fun _ _ h => h.1)
    reached
  have hlinked : ∀ p s d, p ∈ e.htable → e.heap p = some s → isLinked (s.state d) = true →
      p ∈ l d := by
    intro p s d hp hs hlink
    have htied : (s.traffic fun d => decide (p ∈ l d)).Tied := hrule.live p _ (traffic_sess hp hs)
    exact of_decide_eq_true (htied d hlink)
  have hreturns : (∃ st sent e', processMsg m iot env e = .ok ((st, sent), e')) ↔
      Prog.Returns (receiveMsg m env) e :=
    Iff.trans ⟨fun ⟨st, sent, e', h⟩ => ⟨_, e', h⟩, fun ⟨r, e', h⟩ => ⟨r.1, r.2, e', h⟩⟩
      processMsg_returns
  constructor
  · intro h
    obtain ⟨hcreate, hclose⟩ := (receiveMsg_returns hfit hsound hlinked).mp
      (hreturns.mp h.returns)
    have hfits : ∀ para, requestOf m = some para → DeviceFits e para env.create := by
      intro para hreq
      obtain ⟨_, _, hc⟩ := hcreate para hreq
      exact createActive_fits hc
    exact {
      device := hfits
      creation := fun para hreq => (createActive_returns hfit (hfits para hreq)).mp
        (hcreate para hreq)
      deletion := hclose
      data := ranges_in_buffer_iff.mp h.inside }
  · intro h
    refine ⟨hreturns.mpr ((receiveMsg_returns hfit hsound hlinked).mpr ⟨?_, h.deletion⟩),
      ranges_in_buffer_iff.mpr h.data⟩
    exact fun para hreq =>
      (createActive_returns hfit (h.device para hreq)).mpr (h.creation para hreq)

theorem memoryFor_all {env : CreateEnv} (htable : env.tableMemory = true)
    (hid : env.idMemory = true) (c : Option Check) : MemoryFor env c := by
  cases c with
  | none => exact htable
  | some c =>
    cases c with
    | memory => exact fun _ => hid
    | sessId => trivial
    | response => exact ⟨htable, hid⟩
    | device | socket | connect | node | epoll | table => exact hid

/-- With one session in the pool, a request for another one is answered. -/
theorem message_returns_iff_second :
    ∃ e, run mainStep oneDevice [.pool (.createActive tcpRequest goodEnv)] = .ok e ∧
      Answered (createOn 0) e ⟨fun _ => true, fun _ => .ok⟩ goodMsgEnv := by
  obtain ⟨e, he, hactive⟩ := reached_of_view (f := fun e => (e.dev 0).active) (b := true)
    (show (run mainStep oneDevice [.pool (.createActive tcpRequest goodEnv)]).toOption.map _ = _ by
      decide +kernel)
  have hproper : AllSteps mainStep Proper oneDevice [.pool (.createActive tcpRequest goodEnv)] := by
    refine ⟨⟨?_, ?_, rfl⟩, fun _ _ => trivial⟩
    · intro block hblock
      cases hblock
      exact zeroSession_clear
    · intro block d hblock hd
      cases hblock
      cases hd
      rfl
  refine ⟨e, he, (message_returns_iff 1 _ 4096 _ e (createOn 0) _ goodMsgEnv hproper he).mpr ?_⟩
  refine ⟨?_, fun para _ => memoryFor_all rfl rfl _, fun _ _ _ _ => rfl, fun hdata => ?_⟩
  · intro para hreq
    cases createOn_first.symm.trans hreq
    intro _ _ _ d hd
    cases hd
    exact ⟨by decide, hactive⟩
  · cases (show ProxyMsgType.ofCode _ = some .sess from rfl).symm.trans hdata

/-- A request for the second of one device ends the process. -/
theorem unknown_device_aborts :
    ¬ ∀ ops e m iot env, run mainStep oneDevice ops = .ok e →
      ∃ st sent e', processMsg m iot env e = .ok ((st, sent), e') := by
  intro h
  have habort : processMsg (createOn 1) ⟨fun _ => true, fun _ => .ok⟩ goodMsgEnv oneDevice =
      .error .abort := by rfl
  obtain ⟨st, sent, e', hret⟩ := h [] oneDevice (createOn 1) _ goodMsgEnv rfl
  rw [habort] at hret
  cases hret

end BackendProxy.Pool
