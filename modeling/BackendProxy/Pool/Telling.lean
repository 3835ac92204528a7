import BackendProxy.Pool.WorldMoves

namespace BackendProxy.Pool

open Lib Lib.Tailq Queue Wire

/-! What TX tells of a session's data is what the session's history notes, in order. -/

/-- The DATA messages of a session on TX. -/
def dataOf (p : SessPtr) (log : List Posting) : List Transmission :=
  log.filterMap fun x =>
    match x.msg with
    | .data t => if x.sess = some p then some t else none
    | _ => none

def Told (w : World) : Prop := ∀ q, dataOf q w.tx = (w.engine.history q).transmitted

theorem dataOf_append (p : SessPtr) (log log' : List Posting) :
    dataOf p (log ++ log') = dataOf p log ++ dataOf p log' := List.filterMap_append

/-- Messages that carry no data tell none. -/
theorem dataOf_silent {log : List Posting} (h : ∀ x ∈ log, ∀ t, x.msg ≠ .data t) (p : SessPtr) :
    dataOf p log = [] := by
  apply List.filterMap_eq_nil_iff.mpr
  intro x hx
  have hne := h x hx
  cases hm : x.msg with
  | data t => exact absurd hm (hne t)
  | _ => rfl

theorem dataOf_sent (p q : SessPtr) (ts : List Transmission) :
    dataOf q (ts.map fun t => ⟨some p, .data t⟩) = if q = p then ts else [] := by
  unfold dataOf
  rw [List.filterMap_map]
  split
  · rename_i heq
    subst heq
    simp
  · rename_i hne
    simp [Ne.symm hne]

/-! The engine's own operations put nothing on TX. -/

/-- What each session has put on TX so far. -/
def Transmitted (T : SessPtr → List Transmission) (e : Engine) : Prop :=
  ∀ q, (e.history q).transmitted = T q

section Frames

open Prog

variable {T : SessPtr → List Transmission} {p : SessPtr} {d : Dir}

theorem deref_transmitted : Keeps (Transmitted T) (deref p) :=
  keeps_get.bind fun _ => keeps_ofOption _ _

theorem storeNoting_transmitted {s : BackendSession} {f : SessHistory → SessHistory}
    (hf : ∀ h, (f h).transmitted = h.transmitted) :
    Keeps (Transmitted T) (storeNoting p s f) := by
  refine keeps_modify fun e he q => ?_
  by_cases hq : q = p
  · subst hq
    simp only [Function.update_self, hf]
    exact he q
  · simp only [Function.update_of_ne hq]
    exact he q

theorem linkToQueue_transmitted : Keeps (Transmitted T) (linkToQueue p d) := by
  refine deref_transmitted.bind fun s => .ite (keeps_pure _) ?_
  refine Keeps.bind (keeps_modify fun e he => he) fun _ => ?_
  exact keeps_get.bind fun e => (keeps_ofOption _ _).bind fun _ => keeps_modify fun e he => he

theorem removeFromQueue_transmitted : Keeps (Transmitted T) (removeFromQueue p d) :=
  keeps_get.bind fun _ => (keeps_ofOption _ _).bind fun _ => keeps_modify fun _ he => he

theorem clearLinked_transmitted : Keeps (Transmitted T) (clearLinked p d) :=
  deref_transmitted.bind fun _ => keeps_modify fun _ he => he

theorem search_transmitted {id : UInt16} {touchesFreed : Bool} :
    Keeps (Transmitted T) (highSpeedSearchSess id touchesFreed) := by
  refine Keeps.bind ?_ fun _ => keeps_get.bind fun _ => keeps_pure _
  exact keeps_get.bind fun _ => .ite (keeps_halt _) (keeps_pure _)

theorem registerEpoll_transmitted {epollCtl : Bool} :
    Keeps (Transmitted T) (registerEpoll p epollCtl) := by
  have hpoller : ∀ ch, Keeps (Transmitted T) (derefPoller ch) := fun ch =>
    .ite (keeps_pure _) (keeps_halt _)
  have hstore : ∀ s, Keeps (Transmitted T) (store p s) := fun s => keeps_modify fun _ he => he
  have hadd : ∀ f : Engine → Engine, (∀ e, (f e).history = e.history) →
      Keeps (Transmitted T) (do
        modify f
        pure ProcessStatus.ok : EngineM ProcessStatus) := by
    intro f hf
    refine Keeps.bind (keeps_modify fun e he q => ?_) fun _ => keeps_pure _
    rw [hf]
    exact he q
  refine deref_transmitted.bind fun s => .ite ?_ (.ite ?_ ?_)
  · refine (hstore _).bind fun _ => (hpoller _).bind fun _ => .ite (hadd _ ?_) (keeps_pure _)
    exact fun _ => rfl
  · refine (hstore _).bind fun _ => (hpoller _).bind fun _ => .ite (hadd _ ?_) (keeps_pure _)
    exact fun _ => rfl
  · exact (hstore _).bind fun _ => keeps_pure _

theorem f2b_transmitted {env : SendEnv} :
    Keeps (Transmitted T) (highSpeedDataProcessF2b p env) := by
  refine deref_transmitted.bind fun s => ?_
  cases env.sndbuf with
  | none => exact keeps_pure _
  | some bufSize =>
    refine Keeps.bind (storeNoting_transmitted ?_) fun _ => keeps_pure _
    exact fun _ => rfl

theorem nns_transmitted {bytesAvailable : Option Int} {outcomes : List ReadOutcome} :
    Keeps (Transmitted T) (highSpeedDataProcessNns p bytesAvailable outcomes) := by
  refine deref_transmitted.bind fun s => ?_
  cases bytesAvailable with
  | none => exact keeps_pure _
  | some n =>
    refine Keeps.bind (storeNoting_transmitted ?_) fun _ => Keeps.ite ?_ (keeps_pure _)
    · exact fun _ => rfl
    · exact linkToQueue_transmitted.bind fun _ => keeps_pure _

theorem pollEvent_transmitted {ev : PollEvent} : Keeps (Transmitted T) (pollEvent ev) := by
  refine deref_transmitted.bind fun s => (keeps_ofOption _ _).bind fun p => ?_
  exact .ite (keeps_pure _) (.ite (nns_transmitted.bind fun _ => keeps_pure _) (keeps_pure _))

theorem pollEvents_transmitted (evs : List PollEvent) :
    Keeps (Transmitted T) (pollEvents evs) := by
  induction evs with
  | nil => exact keeps_pure _
  | cons ev evs ih => exact pollEvent_transmitted.bind fun _ => ih

theorem data_transmitted {backend : UInt16} {payload : List UInt8} {env : MsgEnv} :
    Keeps (Transmitted T) (backendProxyDataMsgProcess backend payload env) := by
  refine search_transmitted.bind fun found => ?_
  cases found with
  | none => exact keeps_pure _
  | some p =>
    refine .ite ?_ (keeps_pure _)
    refine deref_transmitted.bind fun s => Keeps.bind (storeNoting_transmitted ?_) fun _ => ?_
    · exact fun _ => rfl
    · exact linkToQueue_transmitted.bind fun _ => keeps_pure _

theorem passiveCreate_transmitted {backend : UInt16} {env : MsgEnv} :
    Keeps (Transmitted T) (backendProxySessMsgProcessPassiveCreate backend env) := by
  refine search_transmitted.bind fun found => ?_
  cases found with
  | none => exact keeps_pure _
  | some p =>
    exact deref_transmitted.bind fun s => .ite (keeps_pure _) registerEpoll_transmitted

end Frames

/-! The world tells what it does. -/

section World

open Prog

variable {p : SessPtr} {d : Dir} {st : ProcessStatus} {env : DeleteEnv} {notice : Notice}
  {w w' : World} {l : Dir → List SessPtr}

/-- Messages that carry no data, while no session transmits. -/
theorem Told.silent (h : Told w) {xs : List Posting} (htx : w'.tx = w.tx ++ xs)
    (hhist : w'.engine.history = w.engine.history) (hxs : ∀ x ∈ xs, ∀ t, x.msg ≠ .data t) :
    Told w' := by
  intro q
  rw [htx, hhist, dataOf_append, dataOf_silent hxs, List.append_nil]
  exact h q

theorem within_told {α : Type} {x : EngineM α}
    (hx : ∀ T, Keeps (Transmitted T) x) : Keeps Told (within x) := by
  intro w a w' hw h
  obtain ⟨e, he, rfl⟩ := within_ok.mp h
  intro q
  have hsame := hx _ w.engine a e (fun _ => rfl) he q
  exact (hw q).trans hsame.symm

theorem delete_told : Keeps Told (World.highSpeedDeleteSess p env notice) := by
  intro w st w' hw h
  obtain ⟨s, e, hs, hdel, rfl⟩ := World.delete_ok h
  obtain ⟨s', hd⟩ := Pool.delete_ok hdel
  refine hw.silent rfl hd.history ?_
  intro x hx t
  split at hx
  · cases List.mem_singleton.mp hx
    exact nofun
  · cases hx

theorem searchAndDelete_told {id : UInt16} {notice : SessPtr → Notice} :
    Keeps Told (World.searchAndDelete id env notice) := by
  refine (within_told fun _ => search_transmitted).bind fun found => ?_
  cases found with
  | none => exact keeps_pure _
  | some p => exact delete_told

theorem noticed_dataless (para : SessMsgPara) (put : ProcessStatus) (respDat : SessOpRespData) :
    ∀ x ∈ noticed para put respDat, ∀ t, x.msg ≠ .data t := by
  intro x hx t
  unfold noticed at hx
  split at hx
  · cases List.mem_singleton.mp hx
    exact nofun
  · cases hx

theorem createActive_told {para : SessMsgPara} {env : CreateEnv}
    (h : World.highSpeedCreateSessActive para env notice w = .ok (st, w')) (hs : Sound w.engine l)
    (hw : Told w) : Told w' := by
  cases World.createActive_exit h fun hin => Nat.lt_irrefl _ (hs.old _ hin) with
  | noMemory | noId => exact hw.silent rfl rfl (noticed_dataless _ _ _)
  | failed => exact hw.silent rfl rfl (noticed_dataless _ _ _)
  | refused => exact hw.silent rfl rfl (noticed_dataless _ _ _)
  | created =>
    refine hw.silent rfl rfl ?_
    intro x hx t
    cases List.mem_singleton.mp hx
    exact nofun

theorem createPassive_told {para : PassiveSessParaIP} {env : PassiveEnv}
    (h : World.highSpeedCreateSessPassive para env w = .ok (st, w')) (hw : Told w) : Told w' := by
  simp only [World.highSpeedCreateSessPassive, Prog.bind_ok, Prog.get_ok, within_ok, post_ok,
    Prog.pure_ok] at h
  obtain ⟨_, _, ⟨rfl, rfl⟩, st', _, ⟨e, he, rfl⟩, _, _, rfl, rfl, rfl⟩ := h
  have hhist : e.history = w.engine.history := by
    cases createPassive_exit he <;> rfl
  refine hw.silent rfl hhist ?_
  intro x hx t
  split at hx
  · cases List.mem_singleton.mp hx
    intro heq
    cases heq
  · cases hx

theorem receiveMsg_told {m : Mem} {env : MsgEnv} {notice : SessPtr → Notice}
    (h : World.receiveMsg m env notice w = .ok (st, w')) (hs : Sound w.engine l)
    (hw : Told w) : Told w' := by
  unfold World.receiveMsg at h
  cases hd : backendProxyMsgProcess m with
  | none =>
    simp only [hd] at h
    exact keeps_pure _ w st w' hw h
  | some dispatch =>
    simp only [hd] at h
    unfold World.handleDispatch at h
    split at h
    · exact searchAndDelete_told w st w' hw h
    · unfold World.backendProxySessMsgProcessActiveCreate at h
      split at h
      · simp only [Prog.bind_ok, Prog.get_ok] at h
        obtain ⟨_, _, ⟨rfl, rfl⟩, h⟩ := h
        exact createActive_told h hs hw
      · exact keeps_pure _ w st w' hw h
    · rename_i hclose hcreate
      refine within_told (fun T => ?_) w st w' hw h
      unfold Pool.handleDispatch
      split
      · exact absurd rfl (hclose _ _ _ _)
      · exact absurd rfl (hcreate _ _ _ _)
      · exact passiveCreate_transmitted
      · exact data_transmitted
      · exact keeps_pure _

/-- What the history notes as transmitted is what is put on TX. -/
theorem b2f_told {full : Nat → Bool} :
    Keeps Told (World.highSpeedDataProcessB2f p full) := by
  intro w st w' hw h
  simp only [World.highSpeedDataProcessB2f, World.recordSent, Prog.bind_ok, Prog.get_ok, within_ok,
    record_ok, Prog.pure_ok] at h
  obtain ⟨_, _, ⟨rfl, rfl⟩, st', _, ⟨e, hb, rfl⟩, _, _, ⟨_, _, ⟨rfl, rfl⟩, rfl⟩, rfl, rfl⟩ := h
  simp only [Pool.highSpeedDataProcessB2f, Prog.bind_ok, deref_ok, Prog.get_ok, storeNoting_ok,
    Prog.pure_ok] at hb
  obtain ⟨s, _, ⟨-, rfl⟩, _, _, ⟨rfl, rfl⟩, _, _, rfl, -, rfl⟩ := hb
  intro q
  simp only [Function.update_self, List.drop_left]
  rw [dataOf_append, List.map_map]
  refine (congrArg (dataOf q w.tx ++ ·) (dataOf_sent p q _)).trans ?_
  by_cases hq : q = p
  · subst hq
    simp only [if_true, Function.update_self, hw q]
  · simp only [if_neg hq, Function.update_of_ne hq, List.append_nil]
    exact hw q

theorem settle_told : Keeps Told (World.settle d p st env notice) := by
  cases st with
  | ok =>
    exact (within_told fun _ => removeFromQueue_transmitted).bind fun _ =>
      within_told fun _ => clearLinked_transmitted
  | error =>
    exact (within_told fun _ => removeFromQueue_transmitted).bind fun _ =>
      delete_told.bind fun _ => keeps_pure _
  | again => exact keeps_pure _

section Loop

variable {process : SessPtr → WorldM ProcessStatus} {stopOnAgain : Bool}
  {env : SessPtr → DeleteEnv} {notice : SessPtr → Notice}

theorem activeLoop_told (hp : ∀ p, Keeps Told (process p)) (fuel : Nat) (cur : Option SessPtr) :
    Keeps Told (World.activeLoop d process stopOnAgain env notice fuel cur) := by
  induction fuel generalizing cur with
  | zero =>
    cases cur with
    | none => exact keeps_pure _
    | some p => exact keeps_halt _
  | succ fuel ih =>
    cases cur with
    | none => exact keeps_pure _
    | some p =>
      refine keeps_get.bind fun w => (hp p).bind fun st => settle_told.bind fun _ => ?_
      exact .ite (keeps_pure _) (ih _)

theorem activeRun_told (hp : ∀ p, Keeps Told (process p)) :
    Keeps Told (World.activeRun d process stopOnAgain env notice) :=
  keeps_get.bind fun _ => activeLoop_told hp _ _

end Loop

theorem worldStep_told {op : WorldOp} (hstep : worldStep w op = .ok w') (hs : Sound w.engine l)
    (hw : Told w) : Told w' := by
  have hop := worldStep_ok hstep
  obtain ⟨op, notice⟩ := op
  cases op with
  | pool op =>
    cases op with
    | createActive para env =>
      simp only [WorldOp.perform, Prog.bind_ok, Prog.get_ok, Prog.pure_ok] at hop
      obtain ⟨_, _, ⟨rfl, rfl⟩, _, _, hop, -, rfl⟩ := hop
      exact createActive_told hop hs hw
    | createPassive para env =>
      simp only [WorldOp.perform, Prog.bind_ok, Prog.pure_ok] at hop
      obtain ⟨_, _, hop, -, rfl⟩ := hop
      exact createPassive_told hop hw
    | delete id env =>
      exact searchAndDelete_told.bind (fun _ => keeps_pure _) w _ w' hw hop
  | msg m env =>
    simp only [WorldOp.perform, Prog.bind_ok, Prog.pure_ok] at hop
    obtain ⟨_, _, hop, -, rfl⟩ := hop
    exact receiveMsg_told hop hs hw
  | step2 send env =>
    exact activeRun_told (fun _ => within_told fun _ => f2b_transmitted) w _ w' hw hop
  | poll ready =>
    exact within_told (fun _ => keeps_get.bind fun _ => pollEvents_transmitted _) w _ w' hw hop
  | step4 full env => exact activeRun_told (fun _ => b2f_told) w _ w' hw hop

theorem told_init (devNum : Nat) (config : Nat → HighSpeedNetDevice) (blockSize : Nat) :
    Told (World.init devNum config blockSize) := fun _ => rfl

end World

end BackendProxy.Pool
