import BackendProxy.Pool.Attempts
import BackendProxy.Pool.Upkeep

namespace BackendProxy.Pool

open Lib Lib.Tailq Queue Wire

/-! The world does to its engine what the main loop does, and everything it shows the outside comes
from a few kinds of moves. -/

/-! The engine of the world. -/

section Erasure

open Prog

variable {α β : Type} {para : SessMsgPara} {p : SessPtr} {n : NodePtr} {d : Nat}
  {newSessId : UInt16} {fd : Int} {env : CreateEnv} {notice : Notice} {idMemory : Bool}
  {put : ProcessStatus} {respDat : SessOpRespData}

/-- The world function does to the engine what the engine function does. -/
abbrev Mirrors (x : WorldM α) (y : EngineM α) : Prop := Erases World.engine x y

theorem mirrors_within (x : EngineM α) : Mirrors (within x) x := erases_onPart (fun _ _ => rfl) x

theorem record_silent {p : Option SessPtr} {msgs : List TxMessage} (w : World) (u : Unit)
    (w' : World) (h : record p msgs w = .ok (u, w')) : w'.engine = w.engine := by
  rw [← record_ok.mp h]

theorem post_silent {p : Option SessPtr} {msg : TxMessage} {put : ProcessStatus} (w : World)
    (u : Unit) (w' : World) (h : post p msg put w = .ok (u, w')) : w'.engine = w.engine := by
  rw [← post_ok.mp h]

theorem shutFd_silent {fd : Int} (w : World) (u : Unit) (w' : World)
    (h : shutFd fd w = .ok (u, w')) : w'.engine = w.engine := by
  rw [← shutFd_ok.mp h]

theorem get_silent (w v w' : World) (h : (get : WorldM World) w = .ok (v, w')) :
    w'.engine = w.engine := by
  rw [← (get_ok.mp h).2]

/-- A result may be handed on once nothing happens to the engine any more. -/
theorem mirrors_then {x : WorldM α} {y : EngineM α} {f : α → WorldM α} (hx : Mirrors x y)
    (hf : ∀ a w b w', f a w = .ok (b, w') → b = a ∧ w'.engine = w.engine) :
    Mirrors (x >>= f) y := by
  intro w b w' h
  obtain ⟨a, v, hxv, hfv⟩ := bind_ok.mp h
  obtain ⟨rfl, he⟩ := hf a v b w' hfv
  rw [he]
  exact hx w b v hxv

theorem createSessError_mirrors :
    Mirrors (World.createSessError para p newSessId fd idMemory put respDat)
      (createSessError p newSessId fd idMemory) := by
  refine .silent post_silent fun _ => mirrors_then (mirrors_within _) ?_
  intro st w b w' h
  obtain ⟨_, v, hshut, hpure⟩ := bind_ok.mp h
  obtain ⟨rfl, rfl⟩ := pure_ok.mp hpure
  exact ⟨rfl, shutFd_silent w _ _ hshut⟩

theorem recycleSessNode_mirrors :
    Mirrors (World.recycleSessNode para d n p newSessId fd idMemory put respDat)
      (recycleSessNode d n p newSessId fd idMemory) :=
  .bind (mirrors_within _) fun _ => .bind (mirrors_within _) fun _ =>
    createSessError_mirrors

theorem publish_mirrors :
    Mirrors (World.publish para d n p newSessId fd env notice)
      (publish d n p newSessId fd env) := by
  refine .bind (mirrors_within _) fun registered => .ite ?_ (recycleSessNode_mirrors)
  refine .bind (mirrors_within _) fun inserted => .ite ?_ ?_
  · refine .silent ?_ fun s => .silent post_silent fun _ => ?_
    · intro w s w' h
      obtain ⟨e, he, rfl⟩ := within_ok.mp h
      rw [(deref_ok.mp he).2]
    · exact .ite (erases_pure _) (recycleSessNode_mirrors)
  · exact .bind (mirrors_within _) fun _ => recycleSessNode_mirrors

theorem bindToDevice_mirrors :
    Mirrors (World.bindToDevice para d p newSessId fd env notice)
      (bindToDevice d p newSessId fd env) := by
  refine .bind (mirrors_within _) fun node => ?_
  cases node with
  | none => exact createSessError_mirrors
  | some n =>
    refine .bind (mirrors_within _) fun _ => .bind (mirrors_within _) fun inserted => ?_
    exact .ite (publish_mirrors)
      (.bind (mirrors_within _) fun _ => createSessError_mirrors)

/-- What the engine's function returns where the world's also fills in a response. -/
def World.Opening.plain : World.Opening → Pool.Opening
  | .opened d fd => .opened d fd
  | .failed fd _ => .failed fd

theorem openSocket_mirrors {w w' : World} {o : World.Opening}
    (h : World.openSocket para env notice w = .ok (o, w')) :
    openSocket para env w.engine = .ok (o.plain, w'.engine) := by
  simp only [World.openSocket, bind_ok, get_ok] at h
  obtain ⟨_, _, ⟨rfl, rfl⟩, h⟩ := h
  refine bind_ok.mpr ⟨w.engine, w.engine, rfl, ?_⟩
  split at h
  · obtain ⟨rfl, rfl⟩ := pure_ok.mp h
    rename_i hdevs
    rw [if_pos hdevs]
    rfl
  rename_i hdevs
  rw [if_neg hdevs]
  cases hsel : selectDev para env with
  | none =>
    simp only [hsel, pure_ok] at h
    obtain ⟨rfl, rfl⟩ := h
    rfl
  | some d =>
    simp only [hsel, bind_ok, within_ok] at h
    obtain ⟨nsId, _, ⟨e, hns, rfl⟩, h⟩ := h
    refine bind_ok.mpr ⟨nsId, e, hns, ?_⟩
    split at h <;> rename_i herr
    · obtain ⟨rfl, rfl⟩ := pure_ok.mp h
      rw [if_pos herr]
      rfl
    rw [if_neg herr]
    cases hsock : createSocketNetns para env.socket with
    | none =>
      simp only [hsock, pure_ok] at h
      obtain ⟨rfl, rfl⟩ := h
      rfl
    | some fd =>
      simp only [hsock, bind_ok, openFd_ok] at h
      obtain ⟨_, _, rfl, h⟩ := h
      split at h <;> rename_i hconn <;> obtain ⟨rfl, rfl⟩ := pure_ok.mp h
      · simp only [if_pos hconn]
        rfl
      · simp only [if_neg hconn]
        rfl

theorem createActive_mirrors :
    Mirrors (World.highSpeedCreateSessActive para env notice)
      (highSpeedCreateSessActive para env) := by
  unfold World.highSpeedCreateSessActive highSpeedCreateSessActive
  cases env.malloc with
  | none =>
    exact .silent post_silent fun _ => .bind (mirrors_within _) fun _ => erases_pure _
  | some block =>
    refine .bind (mirrors_within _) fun p => .bind (mirrors_within _) fun id => ?_
    refine .ite (createSessError_mirrors) ?_
    intro w st w' h
    obtain ⟨o, v, hopen, h⟩ := bind_ok.mp h
    refine bind_ok.mpr ⟨o.plain, v.engine, openSocket_mirrors hopen, ?_⟩
    cases o with
    | failed fd respDat => exact createSessError_mirrors v st w' h
    | opened d fd =>
      exact Erases.bind (mirrors_within _) (fun _ => bindToDevice_mirrors) v st w' h

theorem delete_mirrors {env : DeleteEnv} :
    Mirrors (World.highSpeedDeleteSess p env notice) (highSpeedDeleteSess p env) := by
  intro w st w' h
  obtain ⟨s, e', -, hdel, rfl⟩ := World.delete_ok h
  exact hdel

theorem searchAndDelete_mirrors {id : UInt16} {env : DeleteEnv} {notice : SessPtr → Notice} :
    Mirrors (World.searchAndDelete id env notice) (searchAndDelete id env) := by
  refine .bind (mirrors_within _) fun found => ?_
  cases found with
  | none => exact erases_pure _
  | some p => exact delete_mirrors

theorem createPassive_mirrors {para : PassiveSessParaIP} {env : PassiveEnv} :
    Mirrors (World.highSpeedCreateSessPassive para env) (highSpeedCreateSessPassive para env) := by
  refine .silent get_silent fun w => mirrors_then (mirrors_within _) ?_
  intro st w b w' h
  obtain ⟨_, v, hpost, hpure⟩ := bind_ok.mp h
  obtain ⟨rfl, rfl⟩ := pure_ok.mp hpure
  exact ⟨rfl, post_silent w _ _ hpost⟩

/-- Where the next action depends on the state, it depends on the engine. -/
theorem mirrors_get {x : World → WorldM α} {y : Engine → EngineM α}
    (h : ∀ w, Mirrors (x w) (y w.engine)) :
    Mirrors (do let w ← get; x w) (do let e ← get; y e) := by
  intro w a w' hx
  obtain ⟨_, _, hget, hx⟩ := bind_ok.mp hx
  obtain ⟨rfl, rfl⟩ := get_ok.mp hget
  exact bind_ok.mpr ⟨w.engine, w.engine, rfl, h w w a w' hx⟩

theorem b2f_mirrors {full : Nat → Bool} :
    Mirrors (World.highSpeedDataProcessB2f p full) (highSpeedDataProcessB2f p full) := by
  refine .silent get_silent fun w => mirrors_then (mirrors_within _) ?_
  intro st w b w' h
  obtain ⟨_, v, hsent, hpure⟩ := bind_ok.mp h
  obtain ⟨rfl, rfl⟩ := pure_ok.mp hpure
  obtain ⟨_, _, hget, hrec⟩ := bind_ok.mp hsent
  obtain ⟨rfl, rfl⟩ := get_ok.mp hget
  exact ⟨rfl, record_silent w _ _ hrec⟩

theorem settle_mirrors {d : Dir} {st : ProcessStatus} {env : DeleteEnv} :
    Mirrors (World.settle d p st env notice) (settle d p st env) := by
  cases st with
  | ok => exact .bind (mirrors_within _) fun _ => mirrors_within _
  | error =>
    exact .bind (mirrors_within _) fun _ => .bind delete_mirrors fun _ => erases_pure _
  | again => exact erases_pure _

section Loop

variable {d : Dir} {process : SessPtr → WorldM ProcessStatus}
  {plain : SessPtr → EngineM ProcessStatus} {stopOnAgain : Bool} {env : SessPtr → DeleteEnv}
  {notice : SessPtr → Notice}

theorem activeLoop_mirrors (hp : ∀ p, Mirrors (process p) (plain p)) (fuel : Nat)
    (cur : Option SessPtr) :
    Mirrors (World.activeLoop d process stopOnAgain env notice fuel cur)
      (activeLoop d plain stopOnAgain env fuel cur) := by
  induction fuel generalizing cur with
  | zero =>
    cases cur with
    | none => exact erases_pure _
    | some p =>
      intro w u w' h
      cases h
  | succ fuel ih =>
    cases cur with
    | none => exact erases_pure _
    | some p =>
      refine mirrors_get fun w => .bind (hp p) fun st => .bind settle_mirrors fun _ => ?_
      exact .ite (erases_pure _) (ih _)

theorem activeRun_mirrors (hp : ∀ p, Mirrors (process p) (plain p)) :
    Mirrors (World.activeRun d process stopOnAgain env notice)
      (activeRun d plain stopOnAgain env) :=
  mirrors_get fun w => activeLoop_mirrors hp w.engine.nextSess ((w.engine.queue d).first ())

end Loop

theorem handleDispatch_mirrors {m : Mem} {env : MsgEnv} {notice : SessPtr → Notice}
    (dispatch : Dispatch) :
    Mirrors (World.handleDispatch m env notice dispatch) (handleDispatch m env dispatch) := by
  cases dispatch with
  | sess handler frontend backend hdr payload =>
    cases handler with
    | close => exact searchAndDelete_mirrors
    | activeCreate =>
      exact .ite (.silent get_silent fun _ => createActive_mirrors) (erases_pure _)
    | _ => exact mirrors_within _
  | _ => exact mirrors_within _

theorem receiveMsg_mirrors {m : Mem} {env : MsgEnv} {notice : SessPtr → Notice} :
    Mirrors (World.receiveMsg m env notice) (receiveMsg m env) := by
  unfold World.receiveMsg receiveMsg
  cases backendProxyMsgProcess m with
  | none => exact erases_pure _
  | some dispatch => exact handleDispatch_mirrors dispatch

theorem perform_mirrors (op : WorldOp) : Mirrors op.perform op.op.perform := by
  unfold WorldOp.perform
  cases op.op with
  | pool op =>
    cases op with
    | createActive para env =>
      exact .silent get_silent fun _ => .bind createActive_mirrors fun _ => erases_pure _
    | createPassive para env => exact .bind createPassive_mirrors fun _ => erases_pure _
    | delete id env => exact .bind searchAndDelete_mirrors fun _ => erases_pure _
  | msg m env => exact .bind receiveMsg_mirrors fun _ => erases_pure _
  | step2 send env => exact activeRun_mirrors fun p => mirrors_within _
  | poll ready => exact mirrors_within _
  | step4 full env => exact activeRun_mirrors fun p => b2f_mirrors

theorem worldStep_ok {w w' : World} {op : WorldOp} (h : worldStep w op = .ok w') :
    op.perform w = .ok ((), w') := by
  unfold worldStep at h
  split at h <;> rename_i hp
  · cases h
    exact hp
  · cases h

/-- A step of the world is a step of its engine. -/
theorem worldStep_erased {w w' : World} {op : WorldOp} (h : worldStep w op = .ok w') :
    mainStep w.engine op.op = .ok w'.engine := by
  unfold mainStep
  rw [perform_mirrors op w () w' (worldStep_ok h)]

theorem worldRun_erased {w w' : World} {ops : List WorldOp} (h : run worldStep w ops = .ok w') :
    run mainStep w.engine (ops.map WorldOp.op) = .ok w'.engine :=
  run_viewed (fun _ _ _ hstep => worldStep_erased hstep) h

end Erasure

/-! What shows of the world. -/

/-- What a history notes as put on TX stays noted. -/
def Grown (e e' : Engine) : Prop :=
  ∀ q, (e.history q).transmitted ⊆ (e'.history q).transmitted

/-- The response to a deletion, if TX takes it. -/
def closing (p : SessPtr) (s : BackendSession) (put : ProcessStatus) : List Posting :=
  if put = .ok then
    [⟨some p, .response .close s.frontendSessId proxyHandoverSessionId (UInt16.ofInt s.ipVersion)
      ⟨sessOpStatusSuccess, sessOpCodeSuccess⟩⟩]
  else []

/-- The command of a passive creation, if TX takes it. -/
def commanding (e : Engine) (st : ProcessStatus) : List Posting :=
  if st = .ok then [⟨some e.nextSess, .command (e.idQueue.headD 0)⟩] else []

/-- One change of the world. -/
inductive WorldMove (w : World) : World → Prop where
  | quiet {e : Engine} (same : SameButTraffic w.engine e) (grown : Grown w.engine e) :
      WorldMove w { w with engine := e }
  /-- A session of the table puts DATA messages on TX. -/
  | sent {p : SessPtr} {s : BackendSession} {e : Engine} {ts : List Transmission}
      (listed : p ∈ w.engine.htable) (live : w.engine.heap p = some s)
      (same : SameButTraffic w.engine e) (grown : Grown w.engine e)
      (noted : ∀ t ∈ ts, t ∈ (e.history p).transmitted)
      (own : ∀ t ∈ ts, t.frontendSessId = s.frontendSessId ∧ t.backendSessId = s.backendSessId) :
      WorldMove w { w with engine := e, tx := w.tx ++ ts.map fun t => ⟨some p, .data t⟩ }
  | active {para : SessMsgPara} {env : CreateEnv} {notice : Notice} {st : ProcessStatus}
      {w' : World} (done : CreateExit para env notice w st w') : WorldMove w w'
  | passive {para : PassiveSessParaIP} {env : PassiveEnv} {st : ProcessStatus} {e : Engine}
      (done : PassiveExit para env w.engine st e) :
      WorldMove w { w with engine := e, tx := w.tx ++ commanding w.engine st }
  | deleted {p : SessPtr} {s : BackendSession} {e : Engine} (put : ProcessStatus)
      (done : Deleted w.engine p s e) :
      WorldMove w
        { engine := e
          tx := w.tx ++ closing p s put
          sockets := shut s.sockFd w.sockets
          ended := w.ended ++ [(p, w.tx.length)] }

abbrev WorldMoves : World → World → Prop := Relation.ReflTransGen WorldMove

section Moves

variable {P : Premises} {v v' : Traffic} {e e' : Engine} {l : Dir → List SessPtr} {w w' : World}
  {p : SessPtr} {st : ProcessStatus} {u : Unit} {d : Dir}

theorem SessStep.grown {blockSize : Nat} {x y : SessTraffic} {h h' : SessHistory}
    (hs : SessStep P blockSize p x h y h') : h.transmitted ⊆ h'.transmitted := by
  cases hs with
  | accept _ | send _ _ _ | read _ _ _ | drop _ _ => exact List.Subset.refl _
  | transmit full => exact List.subset_append_left _ _

theorem Traffic.Moves.grown (hm : v.Moves P v') (q : SessPtr) :
    (v.history q).transmitted ⊆ (v'.history q).transmitted := by
  induction hm with
  | refl => exact List.Subset.refl _
  | tail _ hmove ih =>
    refine List.Subset.trans ih ?_
    cases hmove with
    | create _ _ _ _ _ _ _ | delete _ => exact List.Subset.refl _
    | session p x y h _ hstep =>
      by_cases hq : q = p
      · subst hq
        simp only [Function.update_self]
        exact hstep.grown
      · simp only [Function.update_of_ne hq]
        exact List.Subset.refl _

theorem Simulated.grown (h : Simulated P e l e') : Grown e e' := by
  obtain ⟨l', -, hmoves⟩ := h
  exact fun q => Traffic.Moves.grown hmoves q

theorem Grown.refl (e : Engine) : Grown e e := fun _ => List.Subset.refl _

theorem WorldMove.still (w : World) : WorldMove w w := .quiet (.refl w.engine) (.refl w.engine)

theorem World.delete_moves {env : DeleteEnv} {notice : Notice}
    (h : World.highSpeedDeleteSess p env notice w = .ok (st, w')) : WorldMove w w' := by
  obtain ⟨s, e', hs, hdel, rfl⟩ := World.delete_ok h
  obtain ⟨s', hd⟩ := Pool.delete_ok hdel
  cases hs.symm.trans hd.live
  exact .deleted notice.put hd

theorem World.searchAndDelete_moves {id : UInt16} {env : DeleteEnv} {notice : SessPtr → Notice}
    (h : World.searchAndDelete id env notice w = .ok (st, w')) : WorldMove w w' := by
  simp only [World.searchAndDelete, Prog.bind_ok, within_ok] at h
  obtain ⟨found, _, ⟨e, hsearch, rfl⟩, h⟩ := h
  obtain ⟨-, rfl⟩ := search_ok hsearch
  cases found with
  | none =>
    obtain ⟨-, rfl⟩ := Prog.pure_ok.mp h
    exact .still w
  | some p => exact World.delete_moves h

theorem World.createActive_moves {para : SessMsgPara} {env : CreateEnv} {notice : Notice}
    (h : World.highSpeedCreateSessActive para env notice w = .ok (st, w')) (hs : Sound w.engine l) :
    WorldMove w w' :=
  .active (World.createActive_exit h fun hin => Nat.lt_irrefl _ (hs.old _ hin))

theorem World.createPassive_moves {para : PassiveSessParaIP} {env : PassiveEnv}
    (h : World.highSpeedCreateSessPassive para env w = .ok (st, w')) : WorldMove w w' := by
  simp only [World.highSpeedCreateSessPassive, Prog.bind_ok, Prog.get_ok, within_ok, post_ok,
    Prog.pure_ok] at h
  obtain ⟨_, _, ⟨rfl, rfl⟩, st', _, ⟨e, he, rfl⟩, _, _, rfl, rfl, rfl⟩ := h
  exact .passive (createPassive_exit he)

/-- A message that neither creates nor deletes is traffic at most. -/
theorem World.receiveMsg_moves {m : Mem} {env : MsgEnv} {notice : SessPtr → Notice}
    (h : World.receiveMsg m env notice w = .ok (st, w')) (hs : Sound w.engine l) :
    WorldMove w w' := by
  unfold World.receiveMsg at h
  cases hd : backendProxyMsgProcess m with
  | none =>
    simp only [hd, Prog.pure_ok] at h
    exact h.2 ▸ .still w
  | some dispatch =>
    simp only [hd] at h
    unfold World.handleDispatch at h
    split at h
    · exact World.searchAndDelete_moves h
    · unfold World.backendProxySessMsgProcessActiveCreate at h
      split at h
      · simp only [Prog.bind_ok, Prog.get_ok] at h
        obtain ⟨_, _, ⟨rfl, rfl⟩, h⟩ := h
        exact World.createActive_moves h hs
      · exact (Prog.pure_ok.mp h).2 ▸ .still w
    · rename_i hclose hcreate
      obtain ⟨e, he, rfl⟩ := within_ok.mp h
      unfold Pool.handleDispatch at he
      split at he
      · exact absurd rfl (hclose _ _ _ _)
      · exact absurd rfl (hcreate _ _ _ _)
      · rw [response_ignored he hs]
        exact .still w
      · exact .quiet (data_traffic he) (data_simulated (P := anyAnswers) he hs).grown
      · exact (Prog.pure_ok.mp he).2 ▸ .still w

theorem World.b2f_moves {full : Nat → Bool}
    (h : World.highSpeedDataProcessB2f p full w = .ok (st, w')) (hs : Sound w.engine l)
    (hmem : p ∈ l .b2f) : WorldMove w w' := by
  simp only [World.highSpeedDataProcessB2f, World.recordSent, Prog.bind_ok, Prog.get_ok, within_ok,
    record_ok, Prog.pure_ok] at h
  obtain ⟨_, _, ⟨rfl, rfl⟩, st', _, ⟨e, hb, rfl⟩, _, _, ⟨_, _, ⟨rfl, rfl⟩, rfl⟩, rfl, rfl⟩ := h
  obtain ⟨hlisted, -⟩ := hs.queued .b2f p hmem
  have hgrown : Grown w.engine e := fun q =>
    Traffic.Moves.grown (b2f_processed (P := anyAnswers) hb hs hmem).moves q
  have hsame := b2f_traffic hb
  simp only [Pool.highSpeedDataProcessB2f, Prog.bind_ok, deref_ok, Prog.get_ok, storeNoting_ok,
    Prog.pure_ok] at hb
  obtain ⟨s, _, ⟨hlive, rfl⟩, _, _, ⟨rfl, rfl⟩, _, _, rfl, -, rfl⟩ := hb
  simp only [Function.update_self, List.drop_left]
  rw [List.map_map]
  refine .sent hlisted hlive hsame hgrown ?_ ?_
  · intro t ht
    simp only [Function.update_self]
    exact List.mem_append_right _ ht
  · intro t ht
    obtain ⟨msg, -, rfl⟩ := List.mem_map.mp ht
    exact ⟨rfl, rfl⟩

theorem World.settle_moves {env : DeleteEnv} {notice : Notice}
    (h : World.settle d p st env notice w = .ok (u, w')) (hs : Sound w.engine l)
    (hmem : p ∈ l d) : WorldMove w w' := by
  cases st with
  | ok =>
    simp only [World.settle, Prog.bind_ok, within_ok] at h
    obtain ⟨_, _, ⟨_, hrem, rfl⟩, _, hclear, rfl⟩ := h
    obtain ⟨links, -, rfl⟩ := removeFromQueue_ok hrem
    obtain ⟨s, hlive, rfl⟩ := clearLinked_ok hclear
    exact .quiet (.stored hlive rfl rfl) (.refl w.engine)
  | error =>
    simp only [World.settle, Prog.bind_ok, within_ok, Prog.pure_ok] at h
    obtain ⟨_, _, ⟨_, hrem, rfl⟩, _, _, hend, -, rfl⟩ := h
    obtain ⟨links, hlinks, rfl⟩ := removeFromQueue_ok hrem
    obtain ⟨s, e', hlive, hdel, rfl⟩ := World.delete_ok hend
    obtain ⟨s', hd⟩ := Pool.delete_ok hdel
    cases hlive.symm.trans hd.live
    exact .deleted notice.put (hs.deleted_after_removal hmem hlinks hd)
  | again =>
    obtain ⟨-, rfl⟩ := Prog.pure_ok.mp h
    exact .still w

section Loop

variable {process : SessPtr → WorldM ProcessStatus} {stopOnAgain : Bool}
  {env : SessPtr → DeleteEnv} {notice : SessPtr → Notice}

theorem World.activeLoop_moves {fuel : Nat} {a rest : List SessPtr}
    (hproc : ∀ p st w l w', process p w = .ok (st, w') → Sound w.engine l → p ∈ l d →
      Processed anyAnswers d p st w.engine l w'.engine ∧ WorldMove w w')
    (hloop : World.activeLoop d process stopOnAgain env notice fuel rest.head? w = .ok (u, w'))
    (h : Sound w.engine l) (hl : l d = a ++ rest) : WorldMoves w w' := by
  induction fuel generalizing w l a rest with
  | zero =>
    cases rest with
    | nil =>
      obtain ⟨-, rfl⟩ := Prog.pure_ok.mp hloop
      exact .refl
    | cons p rest => cases hloop
  | succ fuel ih =>
    cases rest with
    | nil =>
      obtain ⟨-, rfl⟩ := Prog.pure_ok.mp hloop
      exact .refl
    | cons p rest =>
      simp only [List.head?_cons, World.activeLoop, Prog.bind_ok, Prog.get_ok] at hloop
      obtain ⟨_, _, ⟨rfl, rfl⟩, st, w₁, hp, _, w₂, hset, hloop⟩ := hloop
      have hmem : p ∈ l d := by
        rw [hl]
        simp
      have hnext : (w.engine.queue d).next p = rest.head? := (hl ▸ h.holds d).next
      obtain ⟨⟨h₁, -, hempty⟩, hmove⟩ := hproc p st w l w₁ hp h hmem
      obtain ⟨l₂, a₂, hl₂, h₂, -⟩ :=
        settle_simulated (P := anyAnswers) (settle_mirrors w₁ _ w₂ hset) h₁ hl hempty
      have hround : WorldMoves w w₂ := .tail (.single hmove) (World.settle_moves hset h₁ hmem)
      split at hloop
      · obtain ⟨-, rfl⟩ := Prog.pure_ok.mp hloop
        exact hround
      · rw [hnext] at hloop
        exact hround.trans (ih hloop h₂ hl₂)

theorem World.activeRun_moves
    (hproc : ∀ p st w l w', process p w = .ok (st, w') → Sound w.engine l → p ∈ l d →
      Processed anyAnswers d p st w.engine l w'.engine ∧ WorldMove w w')
    (hrun : World.activeRun d process stopOnAgain env notice w = .ok (u, w'))
    (h : Sound w.engine l) : WorldMoves w w' := by
  simp only [World.activeRun, Prog.bind_ok, Prog.get_ok] at hrun
  obtain ⟨_, _, ⟨rfl, rfl⟩, hrun⟩ := hrun
  rw [(h.holds d).first] at hrun
  exact World.activeLoop_moves hproc hrun h (List.nil_append _).symm

end Loop

/-- Every operation of the main loop is a sequence of changes of the world. -/
theorem worldStep_moves {op : WorldOp} (hstep : worldStep w op = .ok w') (h : Sound w.engine l) :
    WorldMoves w w' := by
  have hop := worldStep_ok hstep
  obtain ⟨op, notice⟩ := op
  cases op with
  | pool op =>
    cases op with
    | createActive para env =>
      simp only [WorldOp.perform, Prog.bind_ok, Prog.get_ok, Prog.pure_ok] at hop
      obtain ⟨_, _, ⟨rfl, rfl⟩, _, _, hop, -, rfl⟩ := hop
      exact .single (World.createActive_moves hop h)
    | createPassive para env =>
      simp only [WorldOp.perform, Prog.bind_ok, Prog.pure_ok] at hop
      obtain ⟨_, _, hop, -, rfl⟩ := hop
      exact .single (World.createPassive_moves hop)
    | delete id env =>
      simp only [WorldOp.perform, Prog.bind_ok, Prog.pure_ok] at hop
      obtain ⟨_, _, hop, -, rfl⟩ := hop
      exact .single (World.searchAndDelete_moves hop)
  | msg m env =>
    simp only [WorldOp.perform, Prog.bind_ok, Prog.pure_ok] at hop
    obtain ⟨_, _, hop, -, rfl⟩ := hop
    exact .single (World.receiveMsg_moves hop h)
  | step2 send env =>
    refine World.activeRun_moves (fun p st w l w' hp hsound hmem => ?_) hop h
    obtain ⟨e, he, rfl⟩ := within_ok.mp hp
    have hproc := f2b_processed (P := anyAnswers) he trivial hsound hmem
    exact ⟨hproc, .quiet (f2b_traffic he) fun q => Traffic.Moves.grown hproc.moves q⟩
  | poll ready =>
    obtain ⟨e, he, rfl⟩ := within_ok.mp hop
    have hgrown := (poll_simulated (P := anyAnswers) he (fun _ _ _ _ _ _ => trivial) h).grown
    simp only [pollerRun, Prog.bind_ok, Prog.get_ok] at he
    obtain ⟨_, _, ⟨rfl, rfl⟩, he⟩ := he
    exact .single (.quiet (pollEvents_traffic he) hgrown)
  | step4 full env =>
    refine World.activeRun_moves (fun p st w l w' hp hsound hmem => ?_) hop h
    exact ⟨b2f_processed (b2f_mirrors w st w' hp) hsound hmem, World.b2f_moves hp hsound hmem⟩

end Moves

section Runs

variable {devNum blockSize : Nat} {config : Nat → HighSpeedNetDevice} {ops : List WorldOp}
  {w : World}

/-- What every change of the world keeps holds wherever a run gets to. -/
theorem world_upkeep {J : World → Prop} (start : J (World.init devNum config blockSize))
    (keep : ∀ w w', J w → WorldMove w w' → J w')
    (reached : run worldStep (World.init devNum config blockSize) ops = .ok w) : J w := by
  have hsteps : AllSteps worldStep (fun _ _ => True) (World.init devNum config blockSize) ops :=
    allSteps_true _ ops
  refine (run_invariant (I := fun w => (∃ l, Sound w.engine l) ∧ J w) ?_
    ⟨⟨_, (sound_init devNum config blockSize).1⟩, start⟩ hsteps reached).2
  intro w op w' hI _ hstep
  obtain ⟨⟨l, hsound⟩, hJ⟩ := hI
  constructor
  · obtain ⟨l', hsound', -⟩ :=
      mainStep_simulated (worldStep_erased hstep) (anyAnswers_met w.engine [op.op]).1 hsound
    exact ⟨l', hsound'⟩
  · have hmoves := worldStep_moves hstep hsound
    clear hstep hsound
    induction hmoves with
    | refl => exact hJ
    | tail _ hmove ih => exact keep _ _ ih hmove

end Runs

end BackendProxy.Pool
