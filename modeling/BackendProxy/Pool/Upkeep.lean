import BackendProxy.Pool.Extent

namespace BackendProxy.Pool

open Lib Lib.Tailq Queue Wire

/-! What the main loop does to the pool: sessions are created and deleted, and traffic passes that
leaves the pool alone. Properties of the pool are carried along runs by one rule. -/

/-- A session without what traffic changes. -/
def BackendSession.idle (s : BackendSession) : BackendSession :=
  { s with state := fun _ => 0, msg := fun _ => [] }

/-- Only segments, link bits, active queues and histories differ. -/
structure SameButTraffic (e e' : Engine) : Prop where
  fields : e' = { e with heap := e'.heap, queue := e'.queue, history := e'.history }
  sessions : ∀ q, (e'.heap q).map BackendSession.idle = (e.heap q).map BackendSession.idle

/-- One change of the pool. `Q` tells which answers of the system to a creation are admitted. -/
inductive PoolMove (Q : Engine → SessMsgPara → CreateEnv → Prop) (e e' : Engine) : Prop where
  | active (para : SessMsgPara) (env : CreateEnv) (st : ProcessStatus)
      (done : highSpeedCreateSessActive para env e = .ok (st, e')) (answers : Q e para env)
  | passive (para : PassiveSessParaIP) (env : PassiveEnv) (st : ProcessStatus)
      (done : highSpeedCreateSessPassive para env e = .ok (st, e'))
  | deleted (p : SessPtr) (s : BackendSession) (done : Deleted e p s e')
  | traffic (same : SameButTraffic e e')

abbrev PoolMoves (Q : Engine → SessMsgPara → CreateEnv → Prop) : Engine → Engine → Prop :=
  Relation.ReflTransGen (PoolMove Q)

/-- The creation a message asks for. -/
def requestOf (m : Mem) : Option SessMsgPara :=
  match backendProxyMsgProcess m with
  | some (.sess .activeCreate frontend _ hdr payload) =>
    if WholeParams hdr then
      some
        { frontendSessId := frontend, devId := u16At m payload, ipVersion := hdr.ipVersion,
          transProto := u16At m (payload + 2) }
    else none
  | _ => none

/-- The answers to the creation an operation performs are admitted. -/
def CreationsMeet (Q : Engine → SessMsgPara → CreateEnv → Prop) (e : Engine) : MainOp → Prop
  | .pool (.createActive para env) => Q e para env
  | .msg m env => ∀ para, requestOf m = some para → Q e para env.create
  | _ => True

section Moves

variable {Q : Engine → SessMsgPara → CreateEnv → Prop} {e e' e'' : Engine}
  {l : Dir → List SessPtr} {p : SessPtr} {s s' : BackendSession} {d : Dir} {st : ProcessStatus}
  {u : Unit}

theorem SameButTraffic.refl (e : Engine) : SameButTraffic e e := ⟨rfl, fun _ => rfl⟩

theorem SameButTraffic.trans (h : SameButTraffic e e') (h' : SameButTraffic e' e'') :
    SameButTraffic e e'' := by
  refine ⟨?_, fun q => (h'.sessions q).trans (h.sessions q)⟩
  rw [h'.fields, h.fields]

theorem SameButTraffic.live {q : SessPtr} (h : SameButTraffic e e') (hs' : e'.heap q = some s') :
    ∃ s, e.heap q = some s ∧ s.idle = s'.idle := by
  have hidle := h.sessions q
  rw [hs', Option.map_some] at hidle
  exact Option.map_eq_some_iff.mp hidle.symm

/-- One session is stored with other segments or link bits. -/
theorem SameButTraffic.stored {Q : Dir → Links Unit SessPtr} {H : SessPtr → SessHistory}
    (hs : e.heap p = some s)
    (he' : e' = { e with heap := Function.update e.heap p (some s'), queue := Q, history := H })
    (hidle : s'.idle = s.idle) : SameButTraffic e e' := by
  subst he'
  refine ⟨rfl, fun q => ?_⟩
  by_cases hq : q = p
  · subst hq
    simp [hs, hidle]
  · simp [hq]

theorem linkToQueue_traffic (h : linkToQueue p d e = .ok (u, e')) : SameButTraffic e e' := by
  have hderef := h
  simp only [linkToQueue, Prog.bind_ok, deref_ok] at hderef
  obtain ⟨s, _, ⟨hs, -⟩, -⟩ := hderef
  rcases linkToQueue_ok h hs with ⟨-, rfl⟩ | ⟨-, links, -, rfl⟩
  · exact .refl e
  · exact .stored hs rfl rfl

theorem data_traffic {backend : UInt16} {payload : List UInt8} {env : MsgEnv}
    (hd : backendProxyDataMsgProcess backend payload env e = .ok (st, e')) :
    SameButTraffic e e' := by
  simp only [backendProxyDataMsgProcess, Prog.bind_ok] at hd
  obtain ⟨found, _, hsearch, hd⟩ := hd
  obtain ⟨-, rfl⟩ := search_ok hsearch
  cases found with
  | none =>
    obtain ⟨-, rfl⟩ := Prog.pure_ok.mp hd
    exact .refl e
  | some p =>
    simp only at hd
    split at hd
    · simp only [Prog.bind_ok, deref_ok, storeNoting_ok, Prog.pure_ok] at hd
      obtain ⟨s, _, ⟨hs, rfl⟩, _, _, rfl, _, _, hlink, -, rfl⟩ := hd
      refine SameButTraffic.trans ?_ (linkToQueue_traffic hlink)
      exact .stored hs rfl rfl
    · obtain ⟨-, rfl⟩ := Prog.pure_ok.mp hd
      exact .refl e

theorem f2b_traffic {env : SendEnv} (h : highSpeedDataProcessF2b p env e = .ok (st, e')) :
    SameButTraffic e e' := by
  simp only [highSpeedDataProcessF2b, Prog.bind_ok, deref_ok] at h
  obtain ⟨s, _, ⟨hs, rfl⟩, h⟩ := h
  cases hbuf : env.sndbuf with
  | none =>
    simp only [hbuf, Prog.pure_ok] at h
    exact h.2 ▸ .refl e
  | some bufSize =>
    simp only [hbuf, Prog.bind_ok, storeNoting_ok, Prog.pure_ok] at h
    obtain ⟨_, _, rfl, -, rfl⟩ := h
    exact .stored hs rfl rfl

theorem b2f_traffic {full : Nat → Bool} (h : highSpeedDataProcessB2f p full e = .ok (st, e')) :
    SameButTraffic e e' := by
  simp only [highSpeedDataProcessB2f, Prog.bind_ok, deref_ok, Prog.get_ok, storeNoting_ok,
    Prog.pure_ok] at h
  obtain ⟨s, _, ⟨hs, rfl⟩, _, _, ⟨rfl, rfl⟩, _, _, rfl, -, rfl⟩ := h
  exact .stored hs rfl rfl

theorem nns_traffic {bytesAvailable : Option Int} {outcomes : List ReadOutcome}
    (h : highSpeedDataProcessNns p bytesAvailable outcomes e = .ok (st, e')) :
    SameButTraffic e e' := by
  simp only [highSpeedDataProcessNns, Prog.bind_ok, deref_ok] at h
  obtain ⟨s, _, ⟨hs, rfl⟩, h⟩ := h
  cases bytesAvailable with
  | none =>
    obtain ⟨-, rfl⟩ := Prog.pure_ok.mp h
    exact .refl e
  | some n =>
    simp only [Prog.bind_ok, storeNoting_ok] at h
    obtain ⟨_, _, rfl, h⟩ := h
    split at h
    · simp only [Prog.bind_ok, Prog.pure_ok] at h
      obtain ⟨_, _, hlink, -, rfl⟩ := h
      refine SameButTraffic.trans ?_ (linkToQueue_traffic hlink)
      exact .stored hs rfl rfl
    · obtain ⟨-, rfl⟩ := Prog.pure_ok.mp h
      exact .stored hs rfl rfl

theorem pollEvents_traffic {evs : List PollEvent} (h : pollEvents evs e = .ok (u, e')) :
    SameButTraffic e e' := by
  induction evs generalizing e with
  | nil =>
    obtain ⟨-, rfl⟩ := Prog.pure_ok.mp h
    exact .refl e
  | cons ev evs ih =>
    simp only [pollEvents, Prog.bind_ok] at h
    obtain ⟨_, e₁, hev, h⟩ := h
    refine SameButTraffic.trans ?_ (ih h)
    simp only [pollEvent, Prog.bind_ok, deref_ok, Prog.ofOption_ok] at hev
    obtain ⟨s, _, ⟨-, rfl⟩, q, _, ⟨-, rfl⟩, hev⟩ := hev
    split at hev
    · obtain ⟨-, rfl⟩ := Prog.pure_ok.mp hev
      exact .refl e
    · split at hev
      · simp only [Prog.bind_ok, Prog.pure_ok] at hev
        obtain ⟨_, _, hn, -, rfl⟩ := hev
        exact nns_traffic hn
      · obtain ⟨-, rfl⟩ := Prog.pure_ok.mp hev
        exact .refl e

/-- A session that was processed leaves the queue, is deleted, or stays. -/
theorem settle_moves {env : DeleteEnv} (hset : settle d p st env e = .ok (u, e')) (h : Sound e l)
    (hmem : p ∈ l d) : PoolMove Q e e' := by
  cases st with
  | ok =>
    simp only [settle, Prog.bind_ok] at hset
    obtain ⟨_, _, hrem, hclear⟩ := hset
    obtain ⟨links, -, rfl⟩ := removeFromQueue_ok hrem
    obtain ⟨s, hs, rfl⟩ := clearLinked_ok hclear
    exact .traffic (.stored hs rfl rfl)
  | error =>
    simp only [settle, Prog.bind_ok, Prog.pure_ok] at hset
    obtain ⟨_, _, hrem, _, _, hdel, -, rfl⟩ := hset
    obtain ⟨links, hlinks, rfl⟩ := removeFromQueue_ok hrem
    obtain ⟨s, hd⟩ := delete_ok hdel
    exact .deleted p s (h.deleted_after_removal hmem hlinks hd)
  | again =>
    obtain ⟨-, rfl⟩ := Prog.pure_ok.mp hset
    exact .traffic (.refl e)

theorem activeLoop_moves {process : SessPtr → EngineM ProcessStatus} {stopOnAgain : Bool}
    {env : SessPtr → DeleteEnv} {fuel : Nat} {a rest : List SessPtr}
    (hproc : ∀ p st e l e', process p e = .ok (st, e') → Sound e l → p ∈ l d →
      Processed anyAnswers d p st e l e' ∧ SameButTraffic e e')
    (hloop : activeLoop d process stopOnAgain env fuel rest.head? e = .ok (u, e'))
    (h : Sound e l) (hl : l d = a ++ rest) : PoolMoves Q e e' := by
  induction fuel generalizing e l a rest with
  | zero =>
    cases rest with
    | nil =>
      obtain ⟨-, rfl⟩ := Prog.pure_ok.mp hloop
      exact .refl
    | cons p rest => cases hloop
  | succ fuel ih =>
    cases rest with
    | nil =>
      obtain ⟨-, rfl⟩ := Prog.pure_ok.mp hloop
      exact .refl
    | cons p rest =>
      simp only [List.head?_cons, activeLoop, Prog.bind_ok, Prog.get_ok] at hloop
      obtain ⟨_, _, ⟨rfl, rfl⟩, st, e₁, hp, _, e₂, hset, hloop⟩ := hloop
      have hmem : p ∈ l d := by
        rw [hl]
        simp
      have hnext : (e.queue d).next p = rest.head? := (hl ▸ h.holds d).next
      obtain ⟨⟨h₁, -, hempty⟩, hsame⟩ := hproc p st e l e₁ hp h hmem
      obtain ⟨l₂, a₂, hl₂, h₂, -⟩ := settle_simulated (P := anyAnswers) hset h₁ hl hempty
      have hround : PoolMoves Q e e₂ :=
        .tail (.single (.traffic hsame)) (settle_moves hset h₁ hmem)
      split at hloop
      · obtain ⟨-, rfl⟩ := Prog.pure_ok.mp hloop
        exact hround
      · rw [hnext] at hloop
        exact hround.trans (ih hloop h₂ hl₂)

theorem activeRun_moves {process : SessPtr → EngineM ProcessStatus} {stopOnAgain : Bool}
    {env : SessPtr → DeleteEnv}
    (hproc : ∀ p st e l e', process p e = .ok (st, e') → Sound e l → p ∈ l d →
      Processed anyAnswers d p st e l e' ∧ SameButTraffic e e')
    (hrun : activeRun d process stopOnAgain env e = .ok (u, e')) (h : Sound e l) :
    PoolMoves Q e e' := by
  simp only [activeRun, Prog.bind_ok, Prog.get_ok] at hrun
  obtain ⟨_, _, ⟨rfl, rfl⟩, hrun⟩ := hrun
  rw [(h.holds d).first] at hrun
  exact activeLoop_moves hproc hrun h (List.nil_append _).symm

theorem searchAndDelete_moves {id : UInt16} {env : DeleteEnv}
    (hd : searchAndDelete id env e = .ok (st, e')) : PoolMove Q e e' := by
  simp only [searchAndDelete, Prog.bind_ok] at hd
  obtain ⟨found, _, hsearch, hd⟩ := hd
  obtain ⟨-, rfl⟩ := search_ok hsearch
  cases found with
  | none =>
    obtain ⟨-, rfl⟩ := Prog.pure_ok.mp hd
    exact .traffic (.refl e)
  | some p =>
    obtain ⟨s, hdel⟩ := delete_ok hd
    exact .deleted p s hdel

/-- No session of the table waits for a response, so none is heard. -/
theorem response_ignored {backend : UInt16} {env : MsgEnv}
    (hr : backendProxySessMsgProcessPassiveCreate backend env e = .ok (st, e'))
    (h : Sound e l) : e' = e := by
  simp only [backendProxySessMsgProcessPassiveCreate, Prog.bind_ok] at hr
  obtain ⟨found, _, hsearch, hr⟩ := hr
  obtain ⟨hfound, rfl⟩ := search_ok hsearch
  cases found with
  | none => exact (Prog.pure_ok.mp hr).2.symm
  | some p =>
    simp only [Prog.bind_ok, deref_ok] at hr
    obtain ⟨s, _, ⟨hs, rfl⟩, hr⟩ := hr
    have hmode := h.active p s (lookup_live hfound).1 hs
    rw [if_pos (by rw [hmode]; decide), Prog.pure_ok] at hr
    exact hr.2.symm

theorem receiveMsg_moves {m : Mem} {env : MsgEnv} (hr : receiveMsg m env e = .ok (st, e'))
    (hm : CreationsMeet Q e (.msg m env)) (h : Sound e l) : PoolMove Q e e' := by
  have hmeet : ∀ para, requestOf m = some para → Q e para env.create := hm
  unfold receiveMsg at hr
  cases hd : backendProxyMsgProcess m with
  | none =>
    simp only [hd, Prog.pure_ok] at hr
    exact hr.2 ▸ .traffic (.refl e)
  | some dispatch =>
    simp only [hd] at hr
    unfold requestOf at hmeet
    rw [hd] at hmeet
    unfold handleDispatch at hr
    split at hr
    · exact searchAndDelete_moves hr
    · rename_i hdr _
      by_cases hw : WholeParams hdr
      · rw [activeCreate_whole hw] at hr
        exact .active _ _ st hr (hmeet _ (if_pos hw))
      · rw [activeCreate_short hw] at hr
        exact (Prog.pure_ok.mp hr).2 ▸ .traffic (.refl e)
    · rw [response_ignored hr h]
      exact .traffic (.refl e)
    · exact .traffic (data_traffic hr)
    · exact (Prog.pure_ok.mp hr).2 ▸ .traffic (.refl e)

/-- Every operation of the main loop is a sequence of changes of the pool. -/
theorem mainStep_moves {op : MainOp} (hs : mainStep e op = .ok e') (hm : CreationsMeet Q e op)
    (h : Sound e l) : PoolMoves Q e e' := by
  have hop := mainStep_ok hs
  cases op with
  | pool op =>
    simp only [MainOp.perform, Prog.bind_ok, Prog.pure_ok] at hop
    obtain ⟨st, _, hop, -, rfl⟩ := hop
    cases op with
    | createActive para env => exact .single (.active para env st hop hm)
    | createPassive para env => exact .single (.passive para env st hop)
    | delete id env => exact .single (searchAndDelete_moves hop)
  | msg m env =>
    simp only [MainOp.perform, Prog.bind_ok, Prog.pure_ok] at hop
    obtain ⟨_, _, hop, -, rfl⟩ := hop
    exact .single (receiveMsg_moves hop hm h)
  | step2 send env =>
    refine activeRun_moves (fun p st e l e' hp hsound hmem => ?_) hop h
    exact ⟨f2b_processed hp trivial hsound hmem, f2b_traffic hp⟩
  | poll ready =>
    simp only [MainOp.perform, pollerRun, Prog.bind_ok, Prog.get_ok] at hop
    obtain ⟨_, _, ⟨rfl, rfl⟩, hop⟩ := hop
    exact .single (.traffic (pollEvents_traffic hop))
  | step4 full env =>
    refine activeRun_moves (fun p st e l e' hp hsound hmem => ?_) hop h
    exact ⟨b2f_processed hp hsound hmem, b2f_traffic hp⟩

/-- Sessions join the table when they are made, or never. -/
theorem PoolMove.joins (h : PoolMove Q e e') :
    e.nextSess ≤ e'.nextSess ∧ ∀ q ∈ e'.htable, q ∈ e.htable ∨ q = e.nextSess := by
  cases h with
  | active para env st hc _ =>
    cases createActive_ok hc with
    | noMemory _ => exact ⟨Nat.le_refl _, fun q hq => .inl hq⟩
    | noId _ => exact ⟨Nat.le_succ _, fun q hq => .inl hq⟩
    | failed _ _ _ => exact ⟨Nat.le_succ _, fun q hq => .inl hq⟩
    | leaked _ _ _ _ => exact ⟨Nat.le_succ _, fun q hq => by simpa using hq⟩
    | created _ _ _ _ _ _ _ => exact ⟨Nat.le_succ _, fun q hq => by simpa using hq⟩
  | passive para env st hc =>
    cases createPassive_ok hc with
    | rejected => exact ⟨Nat.le_refl _, fun q hq => .inl hq⟩
    | noMemory _ => exact ⟨Nat.le_refl _, fun q hq => .inl hq⟩
    | noId _ => exact ⟨Nat.le_succ _, fun q hq => .inl hq⟩
    | failed _ _ => exact ⟨Nat.le_succ _, fun q hq => .inl hq⟩
    | completed _ => exact ⟨Nat.le_succ _, fun q hq => .inl hq⟩
  | deleted p s hd =>
    refine ⟨Nat.le_of_eq hd.nextSess.symm, fun q hq => .inl ?_⟩
    rw [hd.htable] at hq
    exact List.mem_of_mem_erase hq
  | traffic hsame =>
    rw [hsame.fields]
    exact ⟨Nat.le_refl _, fun q hq => .inl hq⟩

end Moves

section Runs

variable {Q : Engine → SessMsgPara → CreateEnv → Prop} {devNum blockSize : Nat}
  {config : Nat → HighSpeedNetDevice} {ops : List MainOp} {e t : Engine}
  {l : Dir → List SessPtr}

/-- What every change of the pool keeps holds wherever a run gets to. -/
theorem Sound.upkeep {J : Engine → Prop} (h : Sound e l) (start : J e)
    (keep : ∀ e e', J e → PoolMove Q e e' → J e')
    (met : AllSteps mainStep (CreationsMeet Q) e ops) (reached : run mainStep e ops = .ok t) :
    J t := by
  refine (run_invariant (I := fun e => (∃ l, Sound e l) ∧ J e) ?_ ⟨⟨l, h⟩, start⟩ met reached).2
  intro e op e' hI hm hs
  obtain ⟨⟨l, hsound⟩, hJ⟩ := hI
  constructor
  · obtain ⟨l', hsound', -⟩ := mainStep_simulated hs (anyAnswers_met e [op]).1 hsound
    exact ⟨l', hsound'⟩
  · have hmoves := mainStep_moves hs hm hsound
    clear hs hm hsound
    induction hmoves with
    | refl => exact hJ
    | tail _ hmove ih => exact keep _ _ ih hmove

theorem main_upkeep {J : Engine → Prop} (start : J (highSpeedInitPool devNum config blockSize))
    (keep : ∀ e e', J e → PoolMove Q e e' → J e')
    (met : AllSteps mainStep (CreationsMeet Q) (highSpeedInitPool devNum config blockSize) ops)
    (reached : run mainStep (highSpeedInitPool devNum config blockSize) ops = .ok t) : J t :=
  (sound_init devNum config blockSize).1.upkeep start keep met reached

/-- The system may answer a creation as it likes. -/
def anyCreation (_ : Engine) (_ : SessMsgPara) (_ : CreateEnv) : Prop := True

theorem anyCreation_met (e : Engine) (ops : List MainOp) :
    AllSteps mainStep (CreationsMeet anyCreation) e ops := by
  induction ops generalizing e with
  | nil => trivial
  | cons op ops ih =>
    refine ⟨?_, fun e' _ => ih e'⟩
    cases op with
    | pool op =>
      cases op with
      | createActive para env | createPassive para env | delete id env => trivial
    | msg m env => exact fun _ _ => trivial
    | step2 send env => trivial
    | poll ready => trivial
    | step4 full env => trivial

/-- A session outside the table never gets into it later. -/
theorem Sound.stays_out {p : SessPtr} (h : Sound e l) (hold : p < e.nextSess) (hout : p ∉ e.htable)
    (reached : run mainStep e ops = .ok t) : p < t.nextSess ∧ p ∉ t.htable := by
  have keep : ∀ e e' : Engine, (p < e.nextSess ∧ p ∉ e.htable) → PoolMove anyCreation e e' →
      (p < e'.nextSess ∧ p ∉ e'.htable) := by
    intro e e' hp hmove
    obtain ⟨hnext, hjoin⟩ := hmove.joins
    refine ⟨Nat.lt_of_lt_of_le hp.1 hnext, fun hin => ?_⟩
    rcases hjoin p hin with hin | heq
    · exact hp.2 hin
    · exact absurd heq (Nat.ne_of_lt hp.1)
  exact h.upkeep (J := fun e => p < e.nextSess ∧ p ∉ e.htable) ⟨hold, hout⟩ keep
    (anyCreation_met e ops) reached

end Runs

/-- A CREATE command for a TCP session on a device, from frontend session 7. -/
def createOn (devId : UInt16) : Mem :=
  Lib.store (fun _ => 0) 0
    (ProxyMsgHeader.bytes
        { version := 1, proxyMsgType := 2, frontendSessId := 7, backendSessId := 0xFFFF,
          payloadLen := 20 } ++
      SessMsgHeader.bytes
        { version := 1, msgType := 1, actionType := 0, ipVersion := 4, payloadLen := 10 } ++
      le16 devId ++ le16 1)

theorem createOn_first : requestOf (createOn 0) = some tcpRequest := rfl

end BackendProxy.Pool
