import BackendProxy.Lib.Runs
import BackendProxy.Pool.Sound

namespace BackendProxy.Pool

open Lib Lib.Tailq Queue Wire

/-! The main loop does nothing but move traffic: every operation on a sound engine is a sequence
of moves, and leaves a sound engine. -/

/-- The answers the system gives to an operation agree with the premises. -/
def Premises.Meets (P : Premises) (e : Engine) : MainOp → Prop
  | .pool (.createActive _ env) => ∀ block, env.malloc = some block → P.block block
  | .pool _ => True
  | .msg _ env => ∀ block, env.create.malloc = some block → P.block block
  | .step2 send _ => ∀ p, P.send p (send p)
  | .poll ready => ∀ ev ∈ ready, ∀ s n, e.heap ev.sess = some s →
      ev.bytesAvailable = some n → P.read (isLinked (s.state .b2f)) n ev.outcomes
  | .step4 _ _ => True

/-- The system may answer as it likes. -/
def anyAnswers : Premises :=
  { block := fun _ => True
    send := fun _ _ => True
    read := fun _ _ _ => True
    read_linked := fun _ _ _ => trivial }

theorem anyAnswers_met (e : Engine) (ops : List MainOp) :
    AllSteps mainStep anyAnswers.Meets e ops := by
  induction ops generalizing e with
  | nil => trivial
  | cons op ops ih =>
    refine ⟨?_, fun e' _ => ih e'⟩
    cases op with
    | pool op =>
      cases op with
      | createActive para env => exact fun _ _ => trivial
      | createPassive para env => trivial
      | delete id env => trivial
    | msg m env => exact fun _ _ => trivial
    | step2 send env => exact fun _ => trivial
    | poll ready => exact fun _ _ _ _ _ _ => trivial
    | step4 full env => trivial

/-- The engine is sound again, and got there by moves of its traffic. -/
def Simulated (P : Premises) (e : Engine) (l : Dir → List SessPtr) (e' : Engine) : Prop :=
  ∃ l', Sound e' l' ∧ (e.traffic l).Moves P (e'.traffic l')

section Operations

variable {P : Premises} {e e' e'' : Engine} {l l' : Dir → List SessPtr} {p : SessPtr}
  {s : BackendSession} {d : Dir} {st : ProcessStatus} {u : Unit}

theorem Simulated.still (h : Sound e l) : Simulated P e l e := ⟨l, h, .refl⟩

theorem Simulated.trans (h : Simulated P e l e')
    (h' : ∀ l', Sound e' l' → Simulated P e' l' e'') : Simulated P e l e'' := by
  obtain ⟨l', hsound, hmoves⟩ := h
  obtain ⟨l'', hsound', hmoves'⟩ := h' l' hsound
  exact ⟨l'', hsound', hmoves.trans hmoves'⟩

/-- One session takes one step. -/
theorem session_moves {y : SessTraffic} {hist : SessHistory} (hp : p ∈ e.htable)
    (hs : e.heap p = some s)
    (hstep : SessStep P e.blockSize p (s.traffic fun d => decide (p ∈ l d)) (e.history p) y hist)
    (ht : e'.traffic l' = { e.traffic l with
      sess := Function.update (e.traffic l).sess p (some y)
      history := Function.update e.history p hist }) :
    (e.traffic l).Moves P (e'.traffic l') := by
  rw [ht]
  exact .single (.session p _ y hist (traffic_sess hp hs) hstep)

/-! Creation and deletion. -/

theorem attempted_simulated {o : Option BackendSession} (h : Sound e l)
    (ha : Attempted e o e') : Simulated P e l e' := by
  obtain ⟨hsound, ht⟩ := h.attempted ha
  exact ⟨l, hsound, ht ▸ .refl⟩

theorem joined_simulated {fd : Int} {block : BackendSession} (h : Sound e l)
    (hj : Joined e s fd e') (frontend backend : UInt16)
    (hstart : s.traffic (fun _ => false) = .start frontend backend block)
    (hb : P.block block) : Simulated P e l e' := by
  obtain ⟨hsound, ht⟩ := h.joined hj
  refine ⟨l, hsound, ?_⟩
  rw [ht, hstart]
  refine .single (.create e.nextSess _ _ _ ?_ (h.fresh _ (Nat.le_refl _)).2.1 hb)
  exact if_neg (fun hin => Nat.lt_irrefl _ (h.old _ hin))

theorem createActive_simulated {para : SessMsgPara} {env : CreateEnv}
    (hc : highSpeedCreateSessActive para env e = .ok (st, e'))
    (hb : ∀ block, env.malloc = some block → P.block block) (h : Sound e l) :
    Simulated P e l e' := by
  cases createActive_ok hc with
  | noMemory _ => exact ⟨l, ⟨h.1, h.2, h.3, h.4, h.5, h.6, h.7, h.8⟩, .refl⟩
  | noId _ =>
    exact attempted_simulated h ⟨rfl, rfl, Or.inl rfl, rfl, List.Subset.refl _, rfl, rfl⟩
  | failed _ _ hpoll =>
    exact attempted_simulated h ⟨rfl, rfl, Or.inl rfl, rfl, hpoll, rfl, rfl⟩
  | leaked _ _ hpoll _ =>
    exact attempted_simulated h ⟨rfl, rfl, Or.inr ⟨rfl, rfl⟩, rfl, hpoll, rfl, rfl⟩
  | @created id _ _ _ _ _ _ _ hm =>
    refine joined_simulated h ⟨rfl, rfl, rfl, rfl, rfl, rfl, rfl, rfl, rfl, rfl⟩
      para.frontendSessId id ?_ (hb _ hm)
    simp only [activeSession, BackendSession.traffic, SessTraffic.start, isLinked_keep]

theorem createPassive_simulated {para : PassiveSessParaIP} {env : PassiveEnv}
    (hc : highSpeedCreateSessPassive para env e = .ok (st, e')) (h : Sound e l) :
    Simulated P e l e' := by
  cases createPassive_ok hc with
  | rejected => exact .still h
  | noMemory _ => exact ⟨l, ⟨h.1, h.2, h.3, h.4, h.5, h.6, h.7, h.8⟩, .refl⟩
  | noId _ | failed _ _ | completed _ =>
    exact attempted_simulated h ⟨rfl, rfl, Or.inl rfl, rfl, List.Subset.refl _, rfl, rfl⟩

theorem deleted_simulated (h : Sound e l) (hd : Deleted e p s e') : Simulated P e l e' := by
  obtain ⟨hsound, ht⟩ := h.deleted hd
  refine ⟨_, hsound, ?_⟩
  rw [ht]
  exact .single (.delete p)

theorem lookup_live {id : UInt16} (h : e.lookup id = some p) :
    p ∈ e.htable ∧ ∃ s, e.heap p = some s := by
  refine ⟨List.mem_of_find?_eq_some h, ?_⟩
  have hany := List.find?_some h
  cases hs : e.heap p with
  | none => simp [hs] at hany
  | some s => exact ⟨s, rfl⟩

theorem searchAndDelete_simulated {id : UInt16} {env : DeleteEnv}
    (hd : searchAndDelete id env e = .ok (st, e')) (h : Sound e l) : Simulated P e l e' := by
  simp only [searchAndDelete, Prog.bind_ok] at hd
  obtain ⟨found, _, hsearch, hd⟩ := hd
  obtain ⟨-, rfl⟩ := search_ok hsearch
  cases found with
  | none =>
    obtain ⟨-, rfl⟩ := Prog.pure_ok.mp hd
    exact .still h
  | some p =>
    obtain ⟨s, hdel⟩ := delete_ok hd
    exact deleted_simulated h hdel

theorem pool_simulated {op : PoolOp} (hop : op.perform e = .ok (st, e'))
    (hm : P.Meets e (.pool op)) (h : Sound e l) : Simulated P e l e' := by
  cases op with
  | createActive para env => exact createActive_simulated hop hm h
  | createPassive para env => exact createPassive_simulated hop h
  | delete id env => exact searchAndDelete_simulated hop h

/-! Messages. -/

theorem data_simulated {backend : UInt16} {payload : List UInt8} {env : MsgEnv}
    (hd : backendProxyDataMsgProcess backend payload env e = .ok (st, e')) (h : Sound e l) :
    Simulated P e l e' := by
  simp only [backendProxyDataMsgProcess, Prog.bind_ok] at hd
  obtain ⟨found, _, hsearch, hd⟩ := hd
  obtain ⟨hfound, rfl⟩ := search_ok hsearch
  cases found with
  | none =>
    obtain ⟨-, rfl⟩ := Prog.pure_ok.mp hd
    exact .still h
  | some p =>
    obtain ⟨hp, s, hs⟩ := lookup_live hfound
    cases hseg : env.segment with
    | false =>
      simp only [hseg, Bool.false_eq_true, if_false, Prog.pure_ok] at hd
      obtain ⟨-, rfl⟩ := hd
      exact .still h
    | true =>
      simp only [hseg, if_true, Prog.bind_ok, deref_ok, storeNoting_ok, Prog.pure_ok] at hd
      obtain ⟨s', _, ⟨hs', rfl⟩, _, _, rfl, _, _, hlink, -, rfl⟩ := hd
      cases hs.symm.trans hs'
      obtain ⟨hsound, ht⟩ := Sound.stored rfl h hp hs
      obtain ⟨l', hsound', ht'⟩ := Sound.link hlink hsound hp (Function.update_self _ _ _)
      refine ⟨l', hsound', session_moves hp hs (.accept _ _ payload) (ht'.trans ?_)⟩
      rw [ht]
      simp only [Function.update_idem]
      rfl

/-- Sessions of the table were created actively, so none waits for this response. -/
theorem passiveCreate_simulated {backend : UInt16} {env : MsgEnv}
    (hc : backendProxySessMsgProcessPassiveCreate backend env e = .ok (st, e'))
    (h : Sound e l) : Simulated P e l e' := by
  simp only [backendProxySessMsgProcessPassiveCreate, Prog.bind_ok] at hc
  obtain ⟨found, _, hsearch, hc⟩ := hc
  obtain ⟨hfound, rfl⟩ := search_ok hsearch
  cases found with
  | none =>
    obtain ⟨-, rfl⟩ := Prog.pure_ok.mp hc
    exact .still h
  | some p =>
    simp only [Prog.bind_ok, deref_ok] at hc
    obtain ⟨s, _, ⟨hs, rfl⟩, hc⟩ := hc
    have hmode := h.active p s (lookup_live hfound).1 hs
    rw [if_pos (by rw [hmode]; decide), Prog.pure_ok] at hc
    obtain ⟨-, rfl⟩ := hc
    exact .still h

theorem msg_simulated {m : Mem} {env : MsgEnv} (hr : receiveMsg m env e = .ok (st, e'))
    (hm : P.Meets e (.msg m env)) (h : Sound e l) : Simulated P e l e' := by
  unfold receiveMsg at hr
  cases hd : backendProxyMsgProcess m with
  | none =>
    simp only [hd, Prog.pure_ok] at hr
    obtain ⟨-, rfl⟩ := hr
    exact .still h
  | some dispatch =>
    simp only [hd] at hr
    unfold handleDispatch at hr
    split at hr
    · exact searchAndDelete_simulated hr h
    · unfold backendProxySessMsgProcessActiveCreate at hr
      split at hr
      · exact createActive_simulated hr hm h
      · obtain ⟨-, rfl⟩ := Prog.pure_ok.mp hr
        exact .still h
    · exact passiveCreate_simulated hr h
    · exact data_simulated hr h
    · obtain ⟨-, rfl⟩ := Prog.pure_ok.mp hr
      exact .still h

/-! The poller. -/

/-- No session is unlinked on the way. -/
def LinksKept (e e' : Engine) : Prop :=
  ∀ q t', e'.heap q = some t' → ∃ t, e.heap q = some t ∧
    (isLinked (t.state .b2f) = true → isLinked (t'.state .b2f) = true)

theorem LinksKept.refl (e : Engine) : LinksKept e e := fun _ t ht => ⟨t, ht, id⟩

theorem LinksKept.trans (h : LinksKept e e') (h' : LinksKept e' e'') : LinksKept e e'' := by
  intro q t'' ht''
  obtain ⟨t', ht', hl'⟩ := h' q t'' ht''
  obtain ⟨t, ht, hl⟩ := h q t' ht'
  exact ⟨t, ht, fun hlink => hl' (hl hlink)⟩

theorem LinksKept.session {s' : BackendSession} (hs : e.heap p = some s)
    (hheap : e'.heap = Function.update e.heap p (some s'))
    (hl : isLinked (s.state .b2f) = true → isLinked (s'.state .b2f) = true) :
    LinksKept e e' := by
  intro q t' ht'
  rw [hheap] at ht'
  by_cases hq : q = p
  · subst hq
    cases (Function.update_self q _ _).symm.trans ht'
    exact ⟨s, hs, hl⟩
  · rw [Function.update_of_ne hq] at ht'
    exact ⟨t', ht', id⟩

theorem LinksKept.link (hl : linkToQueue p .b2f e = .ok (u, e')) (hs : e.heap p = some s) :
    LinksKept e e' ∧ e'.epoll = e.epoll := by
  obtain ⟨-, rfl⟩ | ⟨-, Q, -, rfl⟩ := linkToQueue_ok hl hs
  · exact ⟨.refl e, rfl⟩
  · exact ⟨.session hs rfl (fun _ => by simp [BackendSession.setState]), rfl⟩

/-- Reading a socket leaves the registrations alone. -/
theorem nns_simulated {bytesAvailable : Option Int} {outcomes : List ReadOutcome}
    (hn : highSpeedDataProcessNns p bytesAvailable outcomes e = .ok (st, e')) (h : Sound e l)
    (hp : p ∈ e.htable) (hs : e.heap p = some s)
    (hm : ∀ n, bytesAvailable = some n → P.read (isLinked (s.state .b2f)) n outcomes) :
    Simulated P e l e' ∧ LinksKept e e' ∧ e'.epoll = e.epoll := by
  simp only [highSpeedDataProcessNns, Prog.bind_ok, deref_ok] at hn
  obtain ⟨s', _, ⟨hs', rfl⟩, hn⟩ := hn
  cases hs.symm.trans hs'
  cases bytesAvailable with
  | none =>
    obtain ⟨-, rfl⟩ := Prog.pure_ok.mp hn
    exact ⟨.still h, .refl e, rfl⟩
  | some n =>
    simp only [Prog.bind_ok, storeNoting_ok] at hn
    obtain ⟨_, e₁, he₁, hn⟩ := hn
    obtain ⟨hsound, ht⟩ := Sound.stored he₁.symm h hp hs
    have hkept : LinksKept e e₁ := by
      subst he₁
      exact .session hs rfl id
    subst he₁
    have hstep : SessStep P e.blockSize p _ _ _ _ :=
      .read (s.traffic fun d => decide (p ∈ l d)) (e.history p) n outcomes (hm n rfl)
    unfold SessTraffic.afterRead at hstep
    split at hn <;> rename_i hok
    · simp only [Prog.bind_ok, Prog.pure_ok] at hn
      obtain ⟨_, _, hlink, -, rfl⟩ := hn
      obtain ⟨l', hsound', ht'⟩ := Sound.link hlink hsound hp (Function.update_self _ _ _)
      obtain ⟨hkept', hpoll'⟩ := LinksKept.link hlink (Function.update_self _ _ _)
      refine ⟨⟨l', hsound', session_moves hp hs hstep (ht'.trans ?_)⟩, hkept.trans hkept',
        hpoll'⟩
      rw [ht, if_pos hok]
      simp only [Function.update_idem]
      rfl
    · obtain ⟨-, rfl⟩ := Prog.pure_ok.mp hn
      rw [if_neg hok] at hstep
      exact ⟨⟨l, hsound, session_moves hp hs hstep ht⟩, hkept, rfl⟩

/-- The premises for the reads of the events, in the state before the first of them. -/
def ReadsMet (P : Premises) (e : Engine) (evs : List PollEvent) : Prop :=
  ∀ ev ∈ evs, ∀ s n, e.heap ev.sess = some s → ev.bytesAvailable = some n →
    P.read (isLinked (s.state .b2f)) n ev.outcomes

theorem ReadsMet.kept {evs : List PollEvent} (hm : ReadsMet P e evs) (hk : LinksKept e e') :
    ReadsMet P e' evs := by
  intro ev hev s' n hs' hn
  obtain ⟨s, hs, hlink⟩ := hk ev.sess s' hs'
  have hread := hm ev hev s n hs hn
  cases hl : isLinked (s.state .b2f) with
  | true => rwa [hlink hl, ← hl]
  | false =>
    rw [hl] at hread
    cases isLinked (s'.state .b2f) with
    | true => exact P.read_linked n ev.outcomes hread
    | false => exact hread

theorem pollEvent_simulated {ev : PollEvent} {evs : List PollEvent}
    (hp : pollEvent ev e = .ok (u, e')) (h : Sound e l) (hreg : (ev.fd, ev.sess) ∈ e.epoll)
    (hm : ReadsMet P e (ev :: evs)) :
    Simulated P e l e' ∧ ReadsMet P e' evs ∧ e'.epoll = e.epoll := by
  have hrest : ReadsMet P e evs := fun ev' hev' => hm ev' (List.mem_cons_of_mem _ hev')
  obtain ⟨hlisted, s, hs, -, hch⟩ := h.polled _ hreg
  simp only [pollEvent, Prog.bind_ok, deref_ok, Prog.ofOption_ok] at hp
  obtain ⟨s', _, ⟨hs', rfl⟩, p, _, ⟨hp', rfl⟩, hp⟩ := hp
  cases hs.symm.trans hs'
  cases hch.symm.trans hp'
  split at hp
  · obtain ⟨-, rfl⟩ := Prog.pure_ok.mp hp
    exact ⟨.still h, hrest, rfl⟩
  · split at hp
    · simp only [Prog.bind_ok, Prog.pure_ok] at hp
      obtain ⟨_, _, hn, -, rfl⟩ := hp
      obtain ⟨hsim, hkept, hpoll⟩ := nns_simulated hn h hlisted hs
        (fun n hn => hm ev List.mem_cons_self s n hs hn)
      exact ⟨hsim, hrest.kept hkept, hpoll⟩
    · obtain ⟨-, rfl⟩ := Prog.pure_ok.mp hp
      exact ⟨.still h, hrest, rfl⟩

theorem pollEvents_simulated {evs : List PollEvent} (hp : pollEvents evs e = .ok (u, e'))
    (h : Sound e l) (hreg : ∀ ev ∈ evs, (ev.fd, ev.sess) ∈ e.epoll) (hm : ReadsMet P e evs) :
    Simulated P e l e' := by
  induction evs generalizing e l with
  | nil =>
    obtain ⟨-, rfl⟩ := Prog.pure_ok.mp hp
    exact .still h
  | cons ev evs ih =>
    simp only [pollEvents, Prog.bind_ok] at hp
    obtain ⟨_, e₁, hev, hp⟩ := hp
    obtain ⟨hsim, hm₁, hpoll⟩ :=
      pollEvent_simulated hev h (hreg ev List.mem_cons_self) hm
    refine hsim.trans (fun l₁ h₁ => ih hp h₁ ?_ hm₁)
    intro ev' hev'
    rw [hpoll]
    exact hreg ev' (List.mem_cons_of_mem ev hev')

theorem poll_simulated {ready : List PollEvent} (hp : pollerRun ready e = .ok (u, e'))
    (hm : P.Meets e (.poll ready)) (h : Sound e l) : Simulated P e l e' := by
  simp only [pollerRun, Prog.bind_ok, Prog.get_ok] at hp
  obtain ⟨_, _, ⟨rfl, rfl⟩, hp⟩ := hp
  refine pollEvents_simulated hp h ?_ ?_
  · intro ev hev
    simpa using (List.mem_filter.mp (List.mem_of_mem_take hev)).2
  · intro ev hev
    exact hm ev (List.mem_of_mem_filter (List.mem_of_mem_take hev))

/-! The active queues. -/

/-- What processing a queued session leaves: the queues as they were, and no segment if it ran to
its end. -/
structure Processed (P : Premises) (d : Dir) (p : SessPtr) (st : ProcessStatus) (e : Engine)
    (l : Dir → List SessPtr) (e' : Engine) : Prop where
  sound : Sound e' l
  moves : (e.traffic l).Moves P (e'.traffic l)
  empty : st = .ok → ∀ s, e'.heap p = some s → s.msg d = []

theorem f2b_processed {env : SendEnv} (hf : highSpeedDataProcessF2b p env e = .ok (st, e'))
    (hm : P.send p env) (h : Sound e l) (hmem : p ∈ l .f2b) : Processed P .f2b p st e l e' := by
  obtain ⟨hp, s, hs, -⟩ := h.queued .f2b p hmem
  simp only [highSpeedDataProcessF2b, Prog.bind_ok, deref_ok] at hf
  obtain ⟨s', _, ⟨hs', rfl⟩, hf⟩ := hf
  cases hs.symm.trans hs'
  cases hbuf : env.sndbuf with
  | none =>
    simp only [hbuf, Prog.pure_ok] at hf
    obtain ⟨rfl, rfl⟩ := hf
    exact ⟨h, .refl, fun hok => by cases hok⟩
  | some bufSize =>
    simp only [hbuf, Prog.bind_ok, storeNoting_ok, Prog.pure_ok] at hf
    obtain ⟨_, e₁, he₁, rfl, rfl⟩ := hf
    obtain ⟨hsound, ht⟩ := Sound.stored he₁.symm h hp hs
    refine ⟨hsound, session_moves hp hs (.send _ _ env bufSize hm) ht, ?_⟩
    intro hok t ht
    rw [← he₁] at ht
    cases (Function.update_self p _ _).symm.trans ht
    rw [BackendSession.setMsg_msg]
    exact sendSegments_ok hok

theorem b2f_processed {full : Nat → Bool} (hb : highSpeedDataProcessB2f p full e = .ok (st, e'))
    (h : Sound e l) (hmem : p ∈ l .b2f) : Processed P .b2f p st e l e' := by
  obtain ⟨hp, s, hs, -⟩ := h.queued .b2f p hmem
  simp only [highSpeedDataProcessB2f, Prog.bind_ok, deref_ok, Prog.get_ok, storeNoting_ok,
    Prog.pure_ok] at hb
  obtain ⟨s', _, ⟨hs', rfl⟩, _, _, ⟨rfl, rfl⟩, _, e₁, he₁, rfl, rfl⟩ := hb
  cases hs.symm.trans hs'
  obtain ⟨hsound, ht⟩ := Sound.stored he₁.symm h hp hs
  refine ⟨hsound, session_moves hp hs (.transmit _ _ full) ht, ?_⟩
  intro hok t ht
  rw [← he₁] at ht
  cases (Function.update_self p _ _).symm.trans ht
  rw [BackendSession.setMsg_msg]
  exact transmitSegments_ok hok

/-- Once a session is settled, the rest of the queue behind it is as before. -/
theorem settle_simulated {a b : List SessPtr} {env : DeleteEnv}
    (hset : settle d p st env e = .ok (u, e')) (h : Sound e l) (hl : l d = a ++ p :: b)
    (hempty : st = .ok → ∀ s, e.heap p = some s → s.msg d = []) :
    ∃ l' a', l' d = a' ++ b ∧ Sound e' l' ∧ (e.traffic l).Moves P (e'.traffic l') := by
  have hmem : p ∈ l d := by
    rw [hl]
    simp
  have hp := (h.queued d p hmem).1
  cases st with
  | ok =>
    simp only [settle, Prog.bind_ok] at hset
    obtain ⟨_, _, hrem, hclear⟩ := hset
    obtain ⟨Q, hQ, rfl⟩ := removeFromQueue_ok hrem
    obtain ⟨s, hs, he'⟩ := clearLinked_ok hclear
    obtain ⟨hsound, ht⟩ := Sound.drop he' h hl hs hQ
    refine ⟨_, a, Function.update_self _ _ _, hsound,
      session_moves hp hs (.drop _ (e.history p) d (hempty rfl s hs)) (ht.trans ?_)⟩
    rw [Function.update_eq_self]
    rfl
  | error =>
    simp only [settle, Prog.bind_ok, Prog.pure_ok] at hset
    obtain ⟨_, _, hrem, _, _, hdel, -, rfl⟩ := hset
    obtain ⟨Q, hQ, rfl⟩ := removeFromQueue_ok hrem
    obtain ⟨s, hd⟩ := delete_ok hdel
    obtain ⟨hsound, ht⟩ := h.deleted (h.deleted_after_removal hmem hQ hd)
    have hnd := (h.holds d).nodup
    rw [hl] at hnd
    have hna : p ∉ a := fun ha => (List.nodup_middle.mp hnd).notMem (List.mem_append_left b ha)
    refine ⟨_, a, ?_, hsound, ?_⟩
    · rw [hl, List.erase_append_right _ hna, List.erase_cons_head]
    · rw [ht]
      exact .single (.delete p)
  | again =>
    obtain ⟨-, rfl⟩ := Prog.pure_ok.mp hset
    exact ⟨l, a ++ [p], by rw [hl]; simp, h, .refl⟩

/-- The loop goes through the rest of the queue, whatever happens to the part before. -/
theorem activeLoop_simulated {process : SessPtr → EngineM ProcessStatus} {stopOnAgain : Bool}
    {env : SessPtr → DeleteEnv} {fuel : Nat} {a rest : List SessPtr}
    (hproc : ∀ p st e l e', process p e = .ok (st, e') → Sound e l → p ∈ l d →
      Processed P d p st e l e')
    (hloop : activeLoop d process stopOnAgain env fuel rest.head? e = .ok (u, e'))
    (h : Sound e l) (hl : l d = a ++ rest) : Simulated P e l e' := by
  induction fuel generalizing e l a rest with
  | zero =>
    cases rest with
    | nil =>
      obtain ⟨-, rfl⟩ := Prog.pure_ok.mp hloop
      exact .still h
    | cons p rest => cases hloop
  | succ fuel ih =>
    cases rest with
    | nil =>
      obtain ⟨-, rfl⟩ := Prog.pure_ok.mp hloop
      exact .still h
    | cons p rest =>
      simp only [List.head?_cons, activeLoop, Prog.bind_ok, Prog.get_ok] at hloop
      obtain ⟨_, _, ⟨rfl, rfl⟩, st, e₁, hp, _, e₂, hset, hloop⟩ := hloop
      have hmem : p ∈ l d := by
        rw [hl]
        simp
      have hnext : (e.queue d).next p = rest.head? := (hl ▸ h.holds d).next
      obtain ⟨h₁, hmoves₁, hempty⟩ := hproc p st e l e₁ hp h hmem
      obtain ⟨l₂, a₂, hl₂, h₂, hmoves₂⟩ := settle_simulated hset h₁ hl hempty
      split at hloop
      · obtain ⟨-, rfl⟩ := Prog.pure_ok.mp hloop
        exact ⟨l₂, h₂, hmoves₁.trans hmoves₂⟩
      · rw [hnext] at hloop
        obtain ⟨l', h', hmoves'⟩ := ih hloop h₂ hl₂
        exact ⟨l', h', (hmoves₁.trans hmoves₂).trans hmoves'⟩

theorem activeRun_simulated {process : SessPtr → EngineM ProcessStatus} {stopOnAgain : Bool}
    {env : SessPtr → DeleteEnv}
    (hproc : ∀ p st e l e', process p e = .ok (st, e') → Sound e l → p ∈ l d →
      Processed P d p st e l e')
    (hrun : activeRun d process stopOnAgain env e = .ok (u, e')) (h : Sound e l) :
    Simulated P e l e' := by
  simp only [activeRun, Prog.bind_ok, Prog.get_ok] at hrun
  obtain ⟨_, _, ⟨rfl, rfl⟩, hrun⟩ := hrun
  rw [(h.holds d).first] at hrun
  exact activeLoop_simulated hproc hrun h (List.nil_append _).symm

/-- Every operation of the main loop is a sequence of moves. -/
theorem mainStep_simulated {op : MainOp} (hs : mainStep e op = .ok e') (hm : P.Meets e op)
    (h : Sound e l) : Simulated P e l e' := by
  have hop := mainStep_ok hs
  cases op with
  | pool op =>
    simp only [MainOp.perform, Prog.bind_ok, Prog.pure_ok] at hop
    obtain ⟨_, _, hop, -, rfl⟩ := hop
    exact pool_simulated hop hm h
  | msg m env =>
    simp only [MainOp.perform, Prog.bind_ok, Prog.pure_ok] at hop
    obtain ⟨_, _, hop, -, rfl⟩ := hop
    exact msg_simulated hop hm h
  | step2 send env =>
    refine activeRun_simulated (fun p st e l e' hp hsound hmem => ?_) hop h
    exact f2b_processed hp (hm p) hsound hmem
  | poll ready => exact poll_simulated hop hm h
  | step4 full env =>
    refine activeRun_simulated (fun p st e l e' hp hsound hmem => ?_) hop h
    exact b2f_processed hp hsound hmem

end Operations

section Runs

variable {P : Premises} {devNum blockSize : Nat} {config : Nat → HighSpeedNetDevice}
  {ops : List MainOp} {t : Engine}

/-- Whatever a run gets to is a sound engine, and moves of the traffic lead there. -/
theorem main_simulated
    (met : AllSteps mainStep P.Meets (highSpeedInitPool devNum config blockSize) ops)
    (reached : run mainStep (highSpeedInitPool devNum config blockSize) ops = .ok t) :
    ∃ l, Sound t l ∧ (Traffic.empty blockSize).Moves P (t.traffic l) := by
  refine run_invariant
    (I := fun e => ∃ l, Sound e l ∧ (Traffic.empty blockSize).Moves P (e.traffic l)) ?_ ?_ met
    reached
  · intro e op e' hinv hm hs
    obtain ⟨l, hsound, hmoves⟩ := hinv
    obtain ⟨l', hsound', hmoves'⟩ := mainStep_simulated hs hm hsound
    exact ⟨l', hsound', hmoves.trans hmoves'⟩
  · obtain ⟨hsound, ht⟩ := sound_init devNum config blockSize
    exact ⟨_, hsound, ht ▸ .refl⟩

/-- A rule for the traffic holds in every state a run gets to. -/
theorem main_obeys (R : SessRule P blockSize)
    (met : AllSteps mainStep P.Meets (highSpeedInitPool devNum config blockSize) ops)
    (reached : run mainStep (highSpeedInitPool devNum config blockSize) ops = .ok t) :
    ∃ l, Sound t l ∧ R.Obeyed (t.traffic l) := by
  obtain ⟨l, hsound, hmoves⟩ := main_simulated met reached
  exact ⟨l, hsound, R.obeyed_empty.moves hmoves⟩

end Runs

end BackendProxy.Pool
