import BackendProxy.Pool.Responses
import BackendProxy.Pool.Shelves
import BackendProxy.Pool.WorldMoves

namespace BackendProxy.Pool

open Lib Lib.Tailq Queue Wire

/-! A creation that fails has to give back what it took: the ID, the node, the registration, the
socket and the memory, with nothing left that leads to the freed session. -/

/-- The session is freed and nothing leads to it. -/
structure Unreferenced (e : Engine) (p : SessPtr) : Prop where
  freed : e.heap p = none
  unlisted : p ∉ e.htable
  unqueued : ∀ d l, Holds (e.queue d) () l → p ∉ l
  unpolled : ∀ r ∈ e.epoll, r.2 ≠ p
  unserved : ∀ n, e.nodes.sess n ≠ some p

/-- The pool is as before a creation, but for the order of free IDs and free nodes. -/
structure Undone (e e' : Engine) : Prop where
  ids : e'.idQueue.Perm e.idQueue
  htable : e'.htable = e.htable
  sessNum : e'.sessNum = e.sessNum
  queue : e'.queue = e.queue
  nodes : ∀ d k l, d < e.devNum → Holds e.nodes.links (d, k) l →
    ∃ l', Holds e'.nodes.links (d, k) l' ∧ l'.Perm l ∧ (k ≠ .free → l' = l)
  served : e'.nodes.sess = e.nodes.sess
  epoll : e'.epoll = e.epoll
  unreferenced : Unreferenced e' e.nextSess

/-- The creation fails before its response, and does not give back an ID it never got. -/
def Revocable (para : SessMsgPara) (env : CreateEnv) (e : Engine) : Prop :=
  (failingCheck para env e = some .memory → env.newSessId = 0) ∧
    failingCheck para env e ≠ some .response

/-- The same for a passive creation, which fails before its command or not at all. -/
def PassiveRevocable (para : PassiveSessParaIP) (env : PassiveEnv) (e : Engine) : Prop :=
  (PassiveFit para → env.malloc = none → env.newSessId = 0) ∧ ¬ PassiveAdmitted e para env

section Invariants

variable {w w' : World}

/-- Whatever the kernel polls is open. -/
def PolledOpen (w : World) : Prop := ∀ r ∈ w.engine.epoll, r.1 ∈ w.sockets

theorem mem_shut {fd fd' : Int} {S : List Int} (h : fd' ∈ S) (hne : fd' ≠ fd) :
    fd' ∈ shut fd S := by
  unfold shut
  split
  · exact h
  · exact List.mem_filter.mpr ⟨h, by simpa using hne⟩

/-- Closing a descriptor ends its registration. -/
theorem PolledOpen.shut (h : PolledOpen w) {fd : Int}
    (he : w'.engine.epoll = if fd = errorSocketFd then w.engine.epoll
      else w.engine.epoll.filter fun r => r.1 != fd)
    (hs : w'.sockets = Pool.shut fd w.sockets) : PolledOpen w' := by
  intro r hr
  rw [he] at hr
  rw [hs]
  split at hr <;> rename_i hfd
  · rw [Pool.shut, if_pos hfd]
    exact h r hr
  · obtain ⟨hr, hne⟩ := List.mem_filter.mp hr
    exact mem_shut (h r hr) (by simpa using hne)

theorem PolledOpen.move (h : PolledOpen w) (hm : WorldMove w w') : PolledOpen w' := by
  cases hm with
  | quiet hsame _ | sent _ _ hsame _ _ _ =>
    intro r hr
    rw [hsame.fields] at hr
    exact h r hr
  | active hexit =>
    cases hexit with
    | noMemory _ | noId _ => exact h
    | failed _ _ _ _ _ _ | refused _ _ _ => exact h.shut rfl rfl
    | created _ _ _ =>
      intro r hr
      rcases List.mem_cons.mp hr with rfl | hr
      · exact List.mem_cons_self
      · exact List.mem_cons_of_mem _ (h r hr)
  | passive hexit =>
    cases hexit with
    | rejected _ | noMemory _ _ | noId _ _ | failed _ _ _ _ | completed _ _ _ _ _ => exact h
  | deleted put hd =>
    intro r hr
    obtain ⟨hr, hne⟩ := hd.epoll r hr
    exact mem_shut (h r hr) hne

/-- The ID 0 stands for none: it is neither free nor in use. -/
structure ZeroUnused (e : Engine) : Prop where
  free : 0 ∉ e.idQueue
  used : ∀ p s, p ∈ e.htable → e.heap p = some s → s.backendSessId ≠ 0

/-- A session that is only freed uses no ID. -/
theorem ZeroUnused.attempted {e e' : Engine} (h : ZeroUnused e) (hids : 0 ∉ e'.idQueue)
    (hheap : e'.heap = Function.update e.heap e.nextSess none)
    (ht : ∀ p ∈ e'.htable, p ∈ e.htable ∨ p = e.nextSess) : ZeroUnused e' := by
  refine ⟨hids, fun p s hp hs => ?_⟩
  rw [hheap] at hs
  have hne : p ≠ e.nextSess := by
    intro he
    rw [he, Function.update_self] at hs
    cases hs
  rw [Function.update_of_ne hne] at hs
  exact h.used p s ((ht p hp).resolve_right hne) hs

theorem zero_rotated {id : UInt16} {ids rest : List UInt16} (h : ids = id :: rest)
    (h0 : 0 ∉ ids) : 0 ∉ rest ++ [id] := by
  rw [← (perm_rotate h).mem_iff] at h0
  exact h0

/-- Giving back an ID that may be none. -/
theorem zero_not_given {id : UInt16} {ids : List UInt16} (h0 : 0 ∉ ids) :
    0 ∉ if id = 0 then ids else ids ++ [id] := by
  split <;> rename_i hid
  · exact h0
  · intro hin
    rcases List.mem_append.mp hin with hin | hin
    · exact h0 hin
    · exact hid (List.mem_singleton.mp hin).symm

/-- A session that is made gets an ID that was free. -/
theorem ZeroUnused.made {e e' : Engine} (h : ZeroUnused e)
    (hids : ∀ id ∈ e'.idQueue, id ∈ e.idQueue) {s : BackendSession}
    (hheap : e'.heap = Function.update e.heap e.nextSess (some s))
    (hid : s.backendSessId ∈ e.idQueue) (ht : ∀ p ∈ e'.htable, p ∈ e.htable ∨ p = e.nextSess) :
    ZeroUnused e' := by
  refine ⟨fun h0 => h.free (hids 0 h0), fun p s' hp hs' => ?_⟩
  rw [hheap] at hs'
  by_cases hne : p = e.nextSess
  · subst hne
    rw [Function.update_self] at hs'
    cases hs'
    intro h0
    exact h.free (h0 ▸ hid)
  · rw [Function.update_of_ne hne] at hs'
    exact h.used p s' ((ht p hp).resolve_right hne) hs'

theorem ZeroUnused.traffic {e e' : Engine} (h : ZeroUnused e) (hsame : SameButTraffic e e') :
    ZeroUnused e' := by
  have hfields := hsame.fields
  refine ⟨by rw [hfields]; exact h.free, fun p s' hp hs' => ?_⟩
  obtain ⟨s, hs, hkeep⟩ := hsame.live hs'
  have hid : s'.backendSessId = s.backendSessId :=
    (congrArg BackendSession.backendSessId hkeep).symm
  rw [hfields] at hp
  rw [hid]
  exact h.used p s hp hs

theorem ZeroUnused.deleted {e e' : Engine} {p : SessPtr} {s : BackendSession} (h : ZeroUnused e)
    (hd : Deleted e p s e') : ZeroUnused e' := by
  constructor
  · rw [hd.idQueue]
    intro h0
    rcases List.mem_append.mp h0 with h0 | h0
    · exact h.free h0
    · exact h.used p s hd.listed hd.live (List.mem_singleton.mp h0).symm
  · intro q s' hq hs'
    have hqp : q ≠ p := by
      intro he
      rw [he, hd.freed] at hs'
      cases hs'
    obtain ⟨flags, hs⟩ := untied_live (hd.others q hqp).symm hs'
    rw [hd.htable] at hq
    have hid := h.used q _ (List.mem_of_mem_erase hq) hs
    exact hid

theorem ZeroUnused.move (h : ZeroUnused w.engine) (hm : WorldMove w w') : ZeroUnused w'.engine := by
  cases hm with
  | quiet hsame _ | sent _ _ hsame _ _ _ => exact h.traffic hsame
  | deleted put hd => exact h.deleted hd
  | active hexit =>
    cases hexit with
    | noMemory _ => exact ⟨zero_not_given h.free, h.used⟩
    | noId _ =>
      exact h.attempted (fun h0 => h.free (List.mem_of_mem_tail h0)) rfl fun p hp => .inl hp
    | failed _ _ _ hids _ _ =>
      exact h.attempted (zero_rotated hids h.free) rfl fun p hp => .inl hp
    | refused _ hids _ =>
      exact h.attempted (zero_rotated hids h.free) rfl fun p hp => by simpa using hp
    | created _ hids _ =>
      refine h.made ?_ rfl ?_ fun p hp => by simpa using hp
      · intro id hid
        rw [hids]
        exact List.mem_cons_of_mem _ hid
      · rw [hids]
        exact List.mem_cons_self
  | passive hexit =>
    cases hexit with
    | rejected _ => exact h
    | noMemory _ _ => exact ⟨zero_not_given h.free, h.used⟩
    | noId _ _ =>
      exact h.attempted (fun h0 => h.free (List.mem_of_mem_tail h0)) rfl fun p hp => .inl hp
    | failed _ _ hids _ =>
      exact h.attempted (zero_rotated hids h.free) rfl fun p hp => .inl hp
    | completed _ hids _ _ _ =>
      refine h.made ?_ rfl ?_ fun p hp => .inl hp
      · intro id hid
        rw [hids]
        exact List.mem_cons_of_mem _ hid
      · rw [hids]
        exact List.mem_cons_self

end Invariants

/-! The calls. -/

section Calls

variable {e e' : Engine} {l : Dir → List SessPtr} {C : Nat × NodeQueue → List NodePtr}
  {w w' : World} {st : ProcessStatus} {para : SessMsgPara} {env : CreateEnv} {notice : Notice}

/-- An attempt that gives back what it took leaves nothing behind. -/
theorem undone_of (hs : Sound e l) (hc : Shelved e C) (hr : Recycled e.nodes e'.nodes)
    (hids : e'.idQueue.Perm e.idQueue) (hheap : e'.heap e.nextSess = none)
    (ht : e'.htable = e.htable) (hnum : e'.sessNum = e.sessNum) (hq : e'.queue = e.queue)
    (hpoll : e'.epoll = e.epoll) : Undone e e' := by
  obtain ⟨C', hall, hsess, hperm, hsame⟩ := hr.shelved hc.shelves hc.free
  refine ⟨hids, ht, hnum, hq, ?_, hsess, hpoll, hheap, ?_, ?_, ?_, ?_⟩
  · intro d k l hd hl
    cases hl.unique (hc.shelves.holds (d, k) hd)
    exact ⟨C' (d, k), hall.holds (d, k) hd, hperm (d, k), hsame (d, k)⟩
  · rw [ht]
    exact fun hin => Nat.lt_irrefl _ (hs.old _ hin)
  · intro d l' hl'
    rw [hq] at hl'
    cases hl'.unique (hs.holds d)
    exact hs.not_fresh (Nat.le_refl _)
  · intro r hr hp
    rw [hpoll] at hr
    have hlisted := (hs.polled r hr).1
    rw [hp] at hlisted
    exact Nat.lt_irrefl _ (hs.old _ hlisted)
  · intro n hn
    rw [hsess] at hn
    exact Nat.lt_irrefl _ (hc.named n _ hn)

/-- An ID given back that was not taken is one too many. -/
theorem given_perm_iff {id : UInt16} {ids : List UInt16} :
    (if id = 0 then ids else ids ++ [id]).Perm ids ↔ id = 0 := by
  split <;> rename_i hid
  · exact iff_of_true (.refl _) hid
  · refine iff_of_false (fun hperm => ?_) hid
    have hlen := hperm.length_eq
    simp at hlen

/-- Without memory nothing is taken, and only the ID can be wrong. -/
theorem noMemory_undone_iff {id : UInt16} (hs : Sound e l) (hc : Shelved e C)
    (he' : e' = { e with idQueue := if id = 0 then e.idQueue else e.idQueue ++ [id] }) :
    Undone e e' ↔ id = 0 := by
  subst he'
  constructor
  · intro h
    exact given_perm_iff.mp h.ids
  · intro hid
    exact undone_of hs hc .untouched (given_perm_iff.mpr hid) (hs.fresh _ (Nat.le_refl _)).1 rfl rfl
      rfl rfl

theorem tail_of_zero {ids : List UInt16} (h0 : 0 ∉ ids) (h : ids.headD 0 = 0) : ids.tail = ids := by
  cases ids with
  | nil => rfl
  | cons id ids =>
    rw [List.headD_cons] at h
    exact absurd (h ▸ List.mem_cons_self) h0

theorem failingCheck_sessId (h : failingCheck para env e = some .sessId) :
    e.idQueue.headD 0 = 0 := by
  unfold failingCheck at h
  split at h
  · cases h
  split at h <;> rename_i hid
  · exact hid
  split at h <;> rename_i hopen
  · cases h
    unfold openCheck at hopen
    split at hopen
    · cases hopen
    split at hopen
    · cases hopen
    split at hopen
    · cases hopen
    split at hopen
    · cases hopen
    split at hopen <;> cases hopen
  · unfold bindCheck at h
    split at h
    · cases h
    split at h
    · cases h
    split at h
    · cases h
    split at h <;> cases h

/-- Closing a new descriptor changes nothing. -/
theorem shut_new {fd : Int} {S : List Int} (h : fd = errorSocketFd ∨ fd ∉ S) : shut fd S = S := by
  unfold shut
  split <;> rename_i hfd
  · rfl
  · apply List.filter_eq_self.mpr
    intro fd' hin
    have hne : fd' ≠ fd := by
      intro he
      exact h.resolve_left hfd (he ▸ hin)
    simpa using hne

theorem unpolled_new {fd : Int} (hopen : PolledOpen w) (h : fd = errorSocketFd ∨ fd ∉ w.sockets) :
    (if fd = errorSocketFd then w.engine.epoll
      else w.engine.epoll.filter fun r => r.1 != fd) = w.engine.epoll := by
  split <;> rename_i hfd
  · rfl
  · apply List.filter_eq_self.mpr
    intro r hr
    have hne : r.1 ≠ fd := by
      intro he
      exact h.resolve_left hfd (he ▸ hopen r hr)
    simpa using hne

theorem createActive_undone_iff
    (h : World.highSpeedCreateSessActive para env notice w = .ok (st, w')) (hfail : st ≠ .ok)
    (hnew : env.socket ∉ w.sockets) (hs : Sound w.engine l) (hc : Shelved w.engine C)
    (hopen : PolledOpen w) (hzero : ZeroUnused w.engine) :
    (Undone w.engine w'.engine ∧ w'.sockets = w.sockets) ↔ Revocable para env w.engine := by
  unfold Revocable
  cases World.createActive_exit h fun hin => Nat.lt_irrefl _ (hs.old _ hin) with
  | noMemory hcheck =>
    rw [hcheck, noMemory_undone_iff hs hc rfl]
    simp
  | noId hcheck =>
    rw [hcheck]
    have htail := tail_of_zero hzero.free (failingCheck_sessId hcheck)
    refine iff_of_true
      ⟨undone_of hs hc .untouched ?_ (Function.update_self _ _ _) rfl rfl rfl rfl, rfl⟩ (by simp)
    rw [htail]
  | failed hcheck hearly hstarted hids hr hfd =>
    have hnew' := hfd.imp_right fun he => he ▸ hnew
    rw [hcheck]
    refine iff_of_true ⟨undone_of hs hc hr (perm_rotate hids) (Function.update_self _ _ _) rfl rfl
      rfl (unpolled_new hopen hnew'), shut_new hnew'⟩ ?_
    exact ⟨fun hm => absurd (Option.some.inj hm) hstarted.1, fun hm => hearly (Option.some.inj hm)⟩
  | refused hcheck _ _ =>
    rw [hcheck]
    refine iff_of_false (fun hu => ?_) fun hrev => hrev.2 rfl
    have hlen := congrArg List.length hu.1.htable
    simp at hlen
  | created _ _ _ => exact absurd rfl hfail

theorem createPassive_undone_iff {para : PassiveSessParaIP} {env : PassiveEnv}
    (h : highSpeedCreateSessPassive para env e = .ok (st, e')) (hfail : st ≠ .ok)
    (hs : Sound e l) (hc : Shelved e C) (hzero : ZeroUnused e) :
    Undone e e' ↔ PassiveRevocable para env e := by
  have hfree := (hs.fresh _ (Nat.le_refl _)).1
  unfold PassiveRevocable
  cases createPassive_exit h with
  | rejected hunfit =>
    refine iff_of_true (undone_of hs hc .untouched (.refl _) hfree rfl rfl rfl rfl) ?_
    exact ⟨fun hfit => absurd hfit hunfit, fun hadm => hunfit ⟨hadm.1, hadm.2.1⟩⟩
  | noMemory hfit hm =>
    rw [noMemory_undone_iff hs hc rfl]
    constructor
    · intro hid
      refine ⟨fun _ _ => hid, fun hadm => ?_⟩
      have hsome := hadm.2.2.1
      rw [hm] at hsome
      cases hsome
    · intro hrev
      exact hrev.1 hfit hm
  | noId hsome hempty =>
    have htail := tail_of_zero hzero.free hempty
    refine iff_of_true
      (undone_of hs hc .untouched ?_ (Function.update_self _ _ _) rfl rfl rfl rfl) ⟨?_, ?_⟩
    · rw [htail]
    · intro _ hm
      rw [hm] at hsome
      cases hsome
    · intro hadm
      exact hadm.2.2.2.1 hempty
  | failed hsome hbar hids hr =>
    refine iff_of_true (undone_of hs hc hr (perm_rotate hids) (Function.update_self _ _ _) rfl rfl
      rfl rfl) ⟨?_, hbar⟩
    intro _ hm
    rw [hm] at hsome
    cases hsome
  | completed hadm hids _ _ _ =>
    refine iff_of_false (fun hu => ?_) fun hrev => hrev.2 hadm
    have hlen := hu.ids.length_eq
    rw [hids] at hlen
    simp at hlen

end Calls

/-- In every state of a run in which the blocks of active sessions happened to hold the numbers of
their devices, a failed creation is undone just when it is revocable. The kernel hands out a
descriptor that is not open. -/
theorem failed_creation_undone_iff (devNum : Nat) (config : Nat → HighSpeedNetDevice)
    (blockSize : Nat) (ops : List WorldOp) (w : World)
    (named : AllSteps mainStep (CreationsMeet NamesDevice)
      (highSpeedInitPool devNum config blockSize) (ops.map WorldOp.op))
    (reached : run worldStep (World.init devNum config blockSize) ops = .ok w) :
    (∀ para env notice st w', env.socket ∉ w.sockets →
      World.highSpeedCreateSessActive para env notice w = .ok (st, w') → st ≠ .ok →
        ((Undone w.engine w'.engine ∧ w'.sockets = w.sockets) ↔ Revocable para env w.engine)) ∧
      ∀ para env st w', World.highSpeedCreateSessPassive para env w = .ok (st, w') → st ≠ .ok →
        (Undone w.engine w'.engine ↔ PassiveRevocable para env w.engine) := by
  have hrun := worldRun_erased reached
  obtain ⟨l, hsound, -⟩ := main_simulated (anyAnswers_met _ _) hrun
  obtain ⟨C, hshelved⟩ := main_shelved named hrun
  have hopen : PolledOpen w :=
    world_upkeep (by intro r hr; cases hr) (fun w w' h hm => h.move hm) reached
  have hzero : ZeroUnused w.engine := by
    refine world_upkeep (J := fun w => ZeroUnused w.engine) ⟨zero_not_id, ?_⟩
      (fun w w' h hm => h.move hm) reached
    intro p s hp
    cases hp
  constructor
  · intro para env notice st w' hnew h hfail
    exact createActive_undone_iff h hfail hnew hsound hshelved hopen hzero
  · intro para env st w' h hfail
    exact createPassive_undone_iff (createPassive_mirrors w st w' h) hfail hsound hshelved hzero

/-- The peer cannot be reached, and nothing is left of the attempt. -/
theorem failed_creation_undone_iff_unreachable :
    ∃ st w', World.highSpeedCreateSessActive tcpRequest { goodEnv with connect := false }
      (goodNotice 0) firstWorld = .ok (st, w') ∧ st ≠ .ok ∧ w'.engine.nextSess = 1 ∧
        Undone firstWorld.engine w'.engine ∧ w'.sockets = firstWorld.sockets := by
  have hrun : ∃ st w', World.highSpeedCreateSessActive tcpRequest { goodEnv with connect := false }
      (goodNotice 0) firstWorld = .ok (st, w') ∧ st = .error ∧ w'.engine.nextSess = 1 :=
    ⟨_, _, rfl, rfl, rfl⟩
  obtain ⟨st, w', h, hst, hnext⟩ := hrun
  have hfail : st ≠ .ok := by
    rw [hst]
    decide
  have hcheck : failingCheck tcpRequest { goodEnv with connect := false } firstWorld.engine =
      some .connect := by decide +kernel
  have hrev : Revocable tcpRequest { goodEnv with connect := false } firstWorld.engine := by
    unfold Revocable
    rw [hcheck]
    decide
  exact ⟨st, w', h, hfail, hnext,
    ((failed_creation_undone_iff 1 _ 4096 [] firstWorld trivial rfl).1 _ _ _ st w' List.not_mem_nil
      h hfail).mpr hrev⟩

/-- TX does not take the response, and the freed session stays in the table. -/
theorem refused_response_leaves_session :
    ¬ ∀ ops w para env notice st w',
      run worldStep (World.init 1 (fun _ => { active := true, nsId := 3 }) 4096) ops = .ok w →
      env.socket ∉ w.sockets →
      World.highSpeedCreateSessActive para env notice w = .ok (st, w') → st ≠ .ok →
        Undone w.engine w'.engine ∧ w'.sockets = w.sockets := by
  intro h
  have hrun : ∃ st w', World.highSpeedCreateSessActive tcpRequest
      { goodEnv with response := .again } (goodNotice 0) firstWorld = .ok (st, w') ∧ st = .error ∧
        w'.engine.htable = [0] :=
    ⟨_, _, rfl, rfl, rfl⟩
  obtain ⟨st, w', hw, hst, hlisted⟩ := hrun
  have hfail : st ≠ .ok := by
    rw [hst]
    decide
  have hundone := (h [] firstWorld _ _ _ st w' rfl List.not_mem_nil hw hfail).1
  exact absurd (hlisted.symm.trans hundone.htable) (by decide)

end BackendProxy.Pool
