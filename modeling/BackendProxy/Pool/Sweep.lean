import BackendProxy.Pool.Attempts
import BackendProxy.Pool.Disposal

namespace BackendProxy.Pool

open Lib Lib.Tailq Queue

/-! The loop over an active queue, against the loop over the list of sessions the queue held when
it started. -/

/-- The sessions one after the other, with what each call returned. -/
def World.sweep (d : Dir) (process : SessPtr → WorldM ProcessStatus) (stopOnAgain : Bool)
    (env : SessPtr → DeleteEnv) (notice : SessPtr → Notice) :
    List SessPtr → WorldM (List (SessPtr × ProcessStatus))
  | [] => pure []
  | p :: ps => do
    let status ← process p
    settle d p status (env p) (notice p)
    if stopOnAgain && status == .again then pure [(p, status)]
    else do
      let calls ← sweep d process stopOnAgain env notice ps
      pure ((p, status) :: calls)

/-- The sessions for which the call returned `status`, in the order of the calls. -/
def returning (status : ProcessStatus) (calls : List (SessPtr × ProcessStatus)) : List SessPtr :=
  (calls.filter fun c => c.2 == status).map Prod.fst

/-- Processing a session replaces its segments of one direction, and may add to its history and
to TX. -/
def Processes (d : Dir) (process : SessPtr → WorldM ProcessStatus) : Prop :=
  ∀ w p s, w.engine.heap p = some s → ∃ status segs history tx,
    process p w = .ok (status,
      { w with
        engine := { w.engine with
          heap := Function.update w.engine.heap p (some (s.setMsg d segs))
          history }
        tx })

theorem step2_processes (send : SessPtr → SendEnv) :
    Processes .f2b fun p => within (highSpeedDataProcessF2b p (send p)) := by
  intro w p s hs
  have hderef : deref p w.engine = .ok (s, w.engine) := deref_ok.mpr ⟨hs, rfl⟩
  cases hbuf : (send p).sndbuf with
  | none =>
    have hsame : s.setMsg .f2b (s.msg .f2b) = s := by
      simp only [BackendSession.setMsg, Function.update_eq_self]
    refine ⟨.error, s.msg .f2b, w.engine.history, w.tx, within_ok.mpr ⟨w.engine, ?_, ?_⟩⟩
    · unfold highSpeedDataProcessF2b
      rw [Prog.bind_of_ok hderef, hbuf]
      rfl
    · rw [hsame, ← hs, Function.update_eq_self]
  | some bufSize =>
    let result := sendSegments (send p).send 0 bufSize (s.msg .f2b)
    let sent (h : SessHistory) := { h with sent := h.sent ++ result.2.2 }
    refine ⟨result.1, result.2.1,
      Function.update w.engine.history p (sent (w.engine.history p)), w.tx,
      within_ok.mpr ⟨_, ?_, rfl⟩⟩
    unfold highSpeedDataProcessF2b
    rw [Prog.bind_of_ok hderef, hbuf]
    rfl

theorem step4_processes (full : SessPtr → Nat → Bool) :
    Processes .b2f fun p => World.highSpeedDataProcessB2f p (full p) := by
  intro w p s hs
  have hderef : deref p w.engine = .ok (s, w.engine) := deref_ok.mpr ⟨hs, rfl⟩
  let result := transmitSegments w.engine.blockSize (full p) 0 (s.msg .b2f)
  let msgs := result.2.2.map fun msg => Transmission.mk s.frontendSessId s.backendSessId msg
  let transmitted (h : SessHistory) := { h with transmitted := h.transmitted ++ msgs }
  let e : Engine := { w.engine with
    heap := Function.update w.engine.heap p (some (s.setMsg .b2f result.2.1))
    history := Function.update w.engine.history p (transmitted (w.engine.history p)) }
  have hrun : Pool.highSpeedDataProcessB2f p (full p) w.engine = .ok (result.1, e) := by
    unfold Pool.highSpeedDataProcessB2f
    rw [Prog.bind_of_ok hderef]
    rfl
  let sent := (e.history p).transmitted.drop (w.engine.history p).transmitted.length
  refine ⟨result.1, result.2.1, e.history,
    w.tx ++ (sent.map TxMessage.data).map fun msg => ⟨some p, msg⟩, ?_⟩
  change World.highSpeedDataProcessB2f p (full p) w = _
  unfold World.highSpeedDataProcessB2f
  rw [Prog.bind_of_ok (a := w) (t := w) rfl, Prog.bind_of_ok (within_ok.mpr ⟨e, hrun, rfl⟩)]
  rfl

/-! One session. -/

/-- What changes from `w` to `w'`, and from the queues `l` to `l'`, over some calls for the sessions
of the queue `d`. -/
structure Swept (d : Dir) (calls : List (SessPtr × ProcessStatus)) (w w' : World)
    (l l' : Dir → List SessPtr) : Prop where
  table : w'.engine.htable = w.engine.htable.filter (· ∉ returning .error calls)
  others : ∀ d', d' ≠ d → l' d' = (l d').filter (· ∉ returning .error calls)
  failed : ∀ p ∈ returning .error calls, w'.engine.heap p = none
  /-- What was freed stays so. -/
  dead : ∀ p, w.engine.heap p = none → w'.engine.heap p = none
  /-- Each failed session is deleted once. -/
  ended : w'.ended.map Prod.fst = w.ended.map Prod.fst ++ returning .error calls

section Session

variable {d : Dir} {w w' w'' : World} {l l' l'' : Dir → List SessPtr}
  {calls calls' : List (SessPtr × ProcessStatus)} {C : Nat × NodeQueue → List NodePtr}
  {p : SessPtr} {s : BackendSession}

theorem returning_append (status : ProcessStatus) :
    returning status (calls ++ calls') = returning status calls ++ returning status calls' := by
  simp [returning]

theorem Swept.refl (d : Dir) (w : World) (l : Dir → List SessPtr) : Swept d [] w w l l := by
  refine ⟨?_, ?_, ?_, fun _ h => h, ?_⟩
  · simp [returning]
  · simp [returning]
  · intro p hp
    cases hp
  · simp [returning]

theorem Swept.trans (h : Swept d calls w w' l l') (h' : Swept d calls' w' w'' l' l'') :
    Swept d (calls ++ calls') w w'' l l'' := by
  have hboth : ∀ ps : List SessPtr,
      (ps.filter (· ∉ returning .error calls)).filter (· ∉ returning .error calls') =
        ps.filter (· ∉ returning .error (calls ++ calls')) := by
    intro ps
    rw [List.filter_filter]
    refine List.filter_congr fun p _ => ?_
    rw [returning_append]
    simp [Bool.and_comm]
  refine ⟨?_, ?_, ?_, fun p hp => h'.dead p (h.dead p hp), ?_⟩
  · rw [h'.table, h.table, hboth]
  · intro d' hd'
    rw [h'.others d' hd', h.others d' hd', hboth]
  · intro p hp
    rw [returning_append] at hp
    rcases List.mem_append.mp hp with hp | hp
    · exact h'.dead p (h.failed p hp)
    · exact h'.failed p hp
  · rw [h'.ended, h.ended, returning_append, List.append_assoc]

variable {e : Engine} {t : BackendSession}

theorem removeFromQueue_run {Q : Links Unit SessPtr} (h : (e.queue d).remove () p = some Q) :
    removeFromQueue p d e = .ok ((), { e with queue := Function.update e.queue d Q }) := by
  unfold removeFromQueue
  rw [Prog.bind_of_ok (a := e) (t := e) rfl,
    Prog.bind_of_ok (a := Q) (t := e) (Prog.ofOption_ok.mpr ⟨h, rfl⟩)]
  rfl

theorem clearLinked_run (hs : e.heap p = some s) :
    clearLinked p d e = .ok ((), { e with
      heap := Function.update e.heap p (some
        (s.setState d (s.state d &&& ~~~backendSessLinkedToQueue))) }) := by
  unfold clearLinked
  rw [Prog.bind_of_ok (deref_ok.mpr ⟨hs, rfl⟩)]
  rfl

/-- The queues may change around one session, and so may the session, its device part and its
channel excepted. -/
theorem Intact.updated {queue : Dir → Links Unit SessPtr} (h : Intact e l C)
    (hs : e.heap p = some s) (hchannel : t.netChannel = s.netChannel)
    (hlink : t.sessDevLinkState = s.sessDevLinkState) (hdev : t.devId = s.devId)
    (hproto : t.protoType = s.protoType) (hnode : t.sessNode = s.sessNode)
    (hholds : ∀ d, Holds (queue d) () (l' d)) (hothers : ∀ d q, q ≠ p → (q ∈ l' d ↔ q ∈ l d))
    (hself : ∀ d, p ∈ l' d ↔ p ∈ e.htable ∧ isLinked (t.state d) = true)
    (history : SessPtr → SessHistory) :
    Intact { e with heap := Function.update e.heap p (some t), queue, history } l' C := by
  refine ⟨h.toQueuesMatch.updated hs hchannel hholds hothers hself history, h.shelves, ?_⟩
  intro q r hq hr hl
  by_cases hqp : q = p
  · subst hqp
    cases (Function.update_self _ _ _).symm.trans hr
    obtain ⟨d, k, n, hd, hmax, hdev', hk, hin, hnode', hlink', hn⟩ :=
      h.tied q s hq hs (hlink ▸ hl)
    exact ⟨d, k, n, hd, hmax, hdev.trans hdev', hproto ▸ hk, hin, hnode.trans hnode',
      hlink ▸ hlink', hn⟩
  · exact h.tied q r hq ((Function.update_of_ne hqp _ _).symm.trans hr) hl

/-- After its data was processed a session is still where it was. -/
theorem Intact.processed (h : Intact e l C) (hp : p ∈ e.htable) (hs : e.heap p = some s)
    (segs : List (List UInt8)) (history : SessPtr → SessHistory) :
    Intact { e with heap := Function.update e.heap p (some (s.setMsg d segs)), history } l C := by
  refine h.updated (t := s.setMsg d segs) hs rfl rfl rfl rfl rfl h.holds
    (fun _ _ _ => Iff.rfl) ?_ history
  intro d'
  rw [h.mem_queue hp hs d']
  exact (and_iff_right hp).symm

/-- A finished session leaves the queue with its bit clear. -/
theorem Intact.finish (h : Intact e l C) (hp : p ∈ l d) (hs : e.heap p = some s) :
    ∃ e', (removeFromQueue p d >>= fun _ => clearLinked p d) e = .ok ((), e') ∧
      Intact e' (Function.update l d ((l d).erase p)) C ∧ e'.htable = e.htable ∧
      ∀ q, e.heap q = none → e'.heap q = none := by
  have htable : p ∈ e.htable := ((h.linked d p).mp hp).1
  obtain ⟨queue, hqueue, hholds⟩ := h.unlink htable hs
  have hrem := hqueue.removed d ((h.mem_queue htable hs d).mp hp)
  let flags := s.state d &&& ~~~backendSessLinkedToQueue
  refine ⟨{ e with
    heap := Function.update e.heap p (some (s.setState d flags))
    queue := Function.update e.queue d (queue d) }, ?_, ?_, rfl, ?_⟩
  · rw [Prog.bind_of_ok (removeFromQueue_run hrem)]
    exact clearLinked_run hs
  · refine h.updated (t := s.setState d flags) hs rfl rfl rfl rfl rfl ?_ ?_ ?_ e.history
    · intro d'
      by_cases hd : d' = d
      · subst hd
        simpa using hholds d'
      · simpa [Function.update_of_ne hd] using h.holds d'
    · intro d' q hq
      by_cases hd : d' = d
      · subst hd
        rw [Function.update_self]
        exact List.mem_erase_of_ne hq
      · rw [Function.update_of_ne hd]
    · intro d'
      by_cases hd : d' = d
      · subst hd
        rw [Function.update_self]
        simp [BackendSession.setState, flags, (h.holds d').nodup.mem_erase_iff]
      · rw [Function.update_of_ne hd, h.mem_queue htable hs d']
        simp [BackendSession.setState, Function.update_of_ne hd, htable]
  · intro q hq
    have hqp : q ≠ p := by
      rintro rfl
      cases hs.symm.trans hq
    exact (Function.update_of_ne hqp _ _).trans hq

/-- A session that was taken out of a queue before its deletion, with its bit still set, is
deleted as if it had stayed there: the second removal changes nothing. -/
theorem delete_after_remove (env : DeleteEnv) (h : Intact e l C) (hp : p ∈ l d)
    (hs : e.heap p = some s) :
    ∃ e₁, removeFromQueue p d e = .ok ((), e₁) ∧ e₁.heap p = some s ∧
      if env.idMemory then ∃ e' C', highSpeedDeleteSess p env e₁ = .ok (.ok, e') ∧
        Intact e' (fun d => (l d).erase p) C' ∧ e'.htable = e.htable.erase p ∧
        e'.heap = Function.update e.heap p none
      else highSpeedDeleteSess p env e₁ = .error .exit := by
  have htable : p ∈ e.htable := ((h.linked d p).mp hp).1
  obtain ⟨queue, hqueue, hholds⟩ := h.unlink htable hs
  obtain ⟨nodes, C', hgiven, hmoved, hshelves⟩ := h.giveBack htable hs
  obtain ⟨s', hs', harg⟩ := h.live p htable
  cases hs.symm.trans hs'
  have hlive : ∀ q ∈ e.htable, ∃ t, e.heap q = some t := by
    intro q hq
    obtain ⟨t, ht, -⟩ := h.live q hq
    exact ⟨t, ht⟩
  have hrem := hqueue.removed d ((h.mem_queue htable hs d).mp hp)
  have hagain : Unlinked { e with queue := Function.update e.queue d (queue d) } p s queue := by
    refine ⟨?_, ?_⟩
    · intro d' hl
      by_cases hd : d' = d
      · subst hd
        simpa using (h.holds d').remove_twice hp hrem
      · simpa [Function.update_of_ne hd] using hqueue.removed d' hl
    · intro d' hl
      by_cases hd : d' = d
      · subst hd
        rw [(h.mem_queue htable hs d').mp hp] at hl
        cases hl
      · simpa [Function.update_of_ne hd] using hqueue.kept d' hl
  have hrun := delete_run env (e := { e with queue := Function.update e.queue d (queue d) }) hs harg
    htable hlive hagain (hgiven.engine rfl)
  refine ⟨_, removeFromQueue_run hrem, hs, ?_⟩
  cases hm : env.idMemory with
  | false =>
    rw [hm] at hrun
    exact hrun
  | true =>
    rw [hm, if_pos rfl] at hrun
    exact ⟨_, C', hrun, h.without htable hs hholds hmoved hshelves env.epollDel, rfl, rfl⟩

theorem erase_eq_filter_failed {ps : List SessPtr} (h : ps.Nodup) :
    ps.erase p = ps.filter (· ∉ returning .error [(p, .error)]) := by
  have hone : returning .error [(p, .error)] = [p] := rfl
  rw [h.erase_eq_filter, hone]
  refine List.filter_congr fun q _ => ?_
  simp [bne, beq_eq_decide]

/-- Calls that fail for no session leave all of them where they are. -/
theorem Swept.of_kept (hnone : returning .error calls = [])
    (htable : w'.engine.htable = w.engine.htable)
    (hothers : ∀ d', d' ≠ d → l' d' = l d')
    (hdead : ∀ p, w.engine.heap p = none → w'.engine.heap p = none) (hended : w'.ended = w.ended) :
    Swept d calls w w' l l' := by
  refine ⟨?_, ?_, ?_, hdead, ?_⟩
  · simp [htable, hnone]
  · intro d' hd'
    simp [hothers d' hd', hnone]
  · simp [hnone]
  · simp [hended, hnone]

/-- What is done with a session once its data was processed. -/
theorem settle_swept (h : Intact w.engine l C) (hp : p ∈ l d) (status : ProcessStatus)
    (env : DeleteEnv) (notice : Notice) :
    env.idMemory = false ∧ World.settle d p status env notice w = .error .exit ∨
      ∃ w' l' C', World.settle d p status env notice w = .ok ((), w') ∧ Intact w'.engine l' C' ∧
        Swept d [(p, status)] w w' l l' ∧
        l' d = if status = .again then l d else (l d).erase p := by
  obtain ⟨htable, s, hs, -⟩ := (h.linked d p).mp hp
  cases status with
  | again =>
    right
    exact ⟨w, l, C, rfl, h, .of_kept rfl rfl (fun _ _ => rfl) (fun _ hq => hq) rfl,
      (if_pos rfl).symm⟩
  | ok =>
    right
    obtain ⟨e', hfinish, hintact, htable', hdead⟩ := h.finish hp hs
    obtain ⟨_, e₁, hrem, hclear⟩ := Prog.bind_ok.mp hfinish
    refine ⟨{ w with engine := e' }, _, C, ?_, hintact,
      .of_kept rfl htable' (fun d' hd' => Function.update_of_ne hd' _ _) hdead rfl,
      Function.update_self _ _ _⟩
    exact Prog.bind_ok.mpr ⟨(), _, within_ok.mpr ⟨e₁, hrem, rfl⟩, within_ok.mpr ⟨e', hclear, rfl⟩⟩
  | error =>
    obtain ⟨e₁, hrem, hs₁, hdel⟩ := delete_after_remove env h hp hs
    have hremoved : within (removeFromQueue p d) w = .ok ((), { w with engine := e₁ }) :=
      within_ok.mpr ⟨e₁, hrem, rfl⟩
    simp only [World.settle]
    rw [Prog.bind_of_ok hremoved]
    cases hm : env.idMemory with
    | false =>
      rw [hm] at hdel
      have hexit := World.delete_exits (w := { w with engine := e₁ }) notice hs₁ hdel
      exact .inl ⟨rfl, Prog.bind_of_error hexit⟩
    | true =>
      rw [hm, if_pos rfl] at hdel
      obtain ⟨e', C', hdeleted, hintact, htable', hheap⟩ := hdel
      have hfiltered : ∀ d', (l d').erase p = (l d').filter (· ∉ returning .error [(p, .error)]) :=
        fun d' => erase_eq_filter_failed (h.holds d').nodup
      rw [Prog.bind_of_ok (World.delete_run (w := { w with engine := e₁ }) hs₁ hdeleted)]
      refine .inr ⟨_, _, C', rfl, hintact, ⟨?_, fun d' _ => hfiltered d', ?_, ?_, ?_⟩, rfl⟩
      · exact htable'.trans (erase_eq_filter_failed h.nodup)
      · intro q hq
        cases List.mem_singleton.mp hq
        exact (congrFun hheap p).trans (Function.update_self _ _ _)
      · intro q hq
        rw [hheap]
        by_cases hqp : q = p
        · subst hqp
          exact Function.update_self _ _ _
        · exact (Function.update_of_ne hqp _ _).trans hq
      · exact List.map_append

/-- The data of a session is processed, and nothing else happens yet. -/
theorem process_swept {process : SessPtr → WorldM ProcessStatus} (hproc : Processes d process)
    (h : Intact w.engine l C) (hp : p ∈ l d) :
    ∃ status w', process p w = .ok (status, w') ∧ Intact w'.engine l C ∧ Swept d [] w w' l l := by
  obtain ⟨htable, s, hs, -⟩ := (h.linked d p).mp hp
  obtain ⟨status, segs, history, tx, hrun⟩ := hproc w p s hs
  refine ⟨status, _, hrun, h.processed htable hs segs history,
    .of_kept rfl rfl (fun _ _ => rfl) ?_ rfl⟩
  intro q hq
  have hqp : q ≠ p := by
    rintro rfl
    cases hs.symm.trans hq
  exact (Function.update_of_ne hqp _ _).trans hq

end Session

/-! The loop. -/

/-- The calls end with the first that returns `again`, if there is one; `later` are the sessions
behind it. -/
structure UntilAgain (calls : List (SessPtr × ProcessStatus)) (later : List SessPtr) : Prop where
  before : ∀ c ∈ calls.dropLast, c.2 ≠ .again
  last : later ≠ [] → ∃ p, calls.getLast? = some (p, .again)

theorem UntilAgain.cons {c : SessPtr × ProcessStatus} {calls : List (SessPtr × ProcessStatus)}
    {later : List SessPtr} (h : UntilAgain calls later) (hc : c.2 ≠ .again) :
    UntilAgain (c :: calls) later := by
  cases calls with
  | nil =>
    refine ⟨by simp, fun hne => ?_⟩
    obtain ⟨p, hp⟩ := h.last hne
    cases hp
  | cons c' calls =>
    refine ⟨?_, fun hne => ?_⟩
    · intro x hx
      rcases List.mem_cons.mp hx with rfl | hx
      · exact hc
      · exact h.before x hx
    · obtain ⟨p, hp⟩ := h.last hne
      exact ⟨p, hp⟩

/-- What a sweep of the queue `d` leads to. The calls were made in the order of the queue, each
session having one, and `later` are the sessions it did not come to. -/
structure SweepOutcome (d : Dir) (calls : List (SessPtr × ProcessStatus)) (later : List SessPtr)
    (w w' : World) (l l' : Dir → List SessPtr) : Prop where
  order : l d = calls.map Prod.fst ++ later
  holds : ∀ d', Holds (w'.engine.queue d') () (l' d')
  queue : l' d = returning .again calls ++ later
  others : ∀ d', d' ≠ d → l' d' = (l d').filter (· ∉ returning .error calls)
  table : w'.engine.htable = w.engine.htable.filter (· ∉ returning .error calls)
  waiting : ∀ p ∈ l' d, ∃ s, w'.engine.heap p = some s ∧ isLinked (s.state d) = true
  finished : ∀ p ∈ returning .ok calls, p ∈ w'.engine.htable ∧
    ∃ s, w'.engine.heap p = some s ∧ isLinked (s.state d) = false
  failed : ∀ p ∈ returning .error calls,
    w'.engine.heap p = none ∧ p ∉ w'.engine.htable ∧ ∀ d', p ∉ l' d'
  /-- Each failed session is deleted once. -/
  ended : w'.ended.map Prod.fst = w.ended.map Prod.fst ++ returning .error calls

section Loop

variable {d : Dir} {process : SessPtr → WorldM ProcessStatus} {stopOnAgain : Bool}
  {env : SessPtr → DeleteEnv} {notice : SessPtr → Notice}

/-- The loop over the rest `ps` of the queue, with `kept` before it: the calls it made, those it did
not come to, and what it left. -/
structure Rounds (d : Dir) (stopOnAgain : Bool) (kept ps : List SessPtr)
    (calls : List (SessPtr × ProcessStatus)) (later : List SessPtr) (w w' : World)
    (l l' : Dir → List SessPtr) (C' : Nat × NodeQueue → List NodePtr) : Prop where
  order : ps = calls.map Prod.fst ++ later
  ends : if stopOnAgain then UntilAgain calls later else later = []
  intact : Intact w'.engine l' C'
  queue : l' d = kept ++ (returning .again calls ++ later)
  swept : Swept d calls w w' l l'

section Rounds

variable {w w₁ w' : World} {l l₁ l' : Dir → List SessPtr} {C C' : Nat × NodeQueue → List NodePtr}
  {kept ps later : List SessPtr} {p : SessPtr} {status : ProcessStatus}
  {calls : List (SessPtr × ProcessStatus)}

theorem Rounds.none (h : Intact w.engine l C) (hl : l d = kept ++ []) :
    Rounds d stopOnAgain kept [] [] [] w w l l C := by
  refine ⟨rfl, ?_, h, hl, .refl d w l⟩
  cases stopOnAgain with
  | false => rfl
  | true => exact ⟨by simp, fun hne => absurd rfl hne⟩

theorem Rounds.stop (h : Intact w'.engine l' C') (hl : l' d = kept ++ p :: ps)
    (hround : Swept d [(p, .again)] w w' l l') :
    Rounds d true kept (p :: ps) [(p, .again)] ps w w' l l' C' :=
  ⟨rfl, ⟨by simp, fun _ => ⟨p, rfl⟩⟩, h, hl, hround⟩

theorem Rounds.cons (hround : Swept d [(p, status)] w w₁ l l₁)
    (hgo : ¬ (stopOnAgain && status == .again) = true)
    (h : Rounds d stopOnAgain (kept ++ returning .again [(p, status)]) ps calls later w₁ w' l₁ l'
      C') :
    Rounds d stopOnAgain kept (p :: ps) ((p, status) :: calls) later w w' l l' C' := by
  refine ⟨?_, ?_, h.intact, ?_, hround.trans h.swept⟩
  · rw [h.order]
    rfl
  · have hends := h.ends
    cases stopOnAgain with
    | false => exact hends
    | true =>
      refine UntilAgain.cons hends fun hagain => hgo ?_
      cases hagain
      rfl
  · rw [h.queue, List.append_assoc, ← List.append_assoc (returning .again _), ← returning_append]
    rfl

/-- The queue behind one round: the session stays in it only if its call returned `again`. -/
theorem queue_settled (h : Intact w.engine l C) (hl : l d = kept ++ p :: ps)
    (hl₁ : l₁ d = if status = .again then l d else (l d).erase p) :
    l₁ d = kept ++ returning .again [(p, status)] ++ ps := by
  rw [hl₁, hl]
  split
  · simp [*, returning]
  · have hnot : p ∉ kept := by
      intro hmem
      have hnd := hl ▸ (h.holds d).nodup
      exact (List.nodup_append.mp hnd).2.2 p hmem p List.mem_cons_self rfl
    simp [*, returning, List.erase_append_right]

end Rounds

theorem activeLoop_sweeps (stopOnAgain : Bool) (env : SessPtr → DeleteEnv)
    (notice : SessPtr → Notice) (hproc : Processes d process) (ps : List SessPtr) :
    ∀ (fuel : Nat) (kept : List SessPtr) (w : World) (l : Dir → List SessPtr)
      (C : Nat × NodeQueue → List NodePtr), Intact w.engine l C → l d = kept ++ ps →
      ps.length ≤ fuel →
      (∃ p ∈ ps, (env p).idMemory = false) ∧
          World.activeLoop d process stopOnAgain env notice fuel ps.head? w = .error .exit ∧
          World.sweep d process stopOnAgain env notice ps w = .error .exit ∨
        ∃ calls later w' l' C',
          World.activeLoop d process stopOnAgain env notice fuel ps.head? w = .ok ((), w') ∧
          World.sweep d process stopOnAgain env notice ps w = .ok (calls, w') ∧
          Rounds d stopOnAgain kept ps calls later w w' l l' C' := by
  induction ps with
  | nil =>
    intro fuel kept w l C h hl _
    refine .inr ⟨[], [], w, l, C, ?_, rfl, .none h hl⟩
    cases fuel <;> rfl
  | cons p ps ih =>
    intro fuel kept w l C h hl hfuel
    cases fuel with
    | zero => simp at hfuel
    | succ fuel =>
      have hp : p ∈ l d := by simp [hl]
      obtain ⟨status, w₁, hprocess, hintact₁, hswept₁⟩ := process_swept hproc h hp
      have hnext : (w.engine.queue d).next p = ps.head? := (hl ▸ h.holds d).next
      simp only [List.head?_cons, World.activeLoop, World.sweep]
      rw [Prog.bind_of_ok (a := w) (t := w) rfl, hnext, Prog.bind_of_ok hprocess,
        Prog.bind_of_ok hprocess]
      rcases settle_swept hintact₁ hp status (env p) (notice p) with
        ⟨hm, hexit⟩ | ⟨w₂, l₂, C₂, hsettle, hintact₂, hswept₂, hl₂⟩
      · exact .inl ⟨⟨p, List.mem_cons_self, hm⟩, Prog.bind_of_error hexit,
          Prog.bind_of_error hexit⟩
      · rw [Prog.bind_of_ok hsettle, Prog.bind_of_ok hsettle]
        have hround : Swept d [(p, status)] w w₂ l l₂ := hswept₁.trans hswept₂
        by_cases hstop : (stopOnAgain && status == .again) = true
        · rw [if_pos hstop, if_pos hstop]
          obtain ⟨rfl, hagain⟩ := Bool.and_eq_true_iff.mp hstop
          cases eq_of_beq hagain
          exact .inr ⟨_, ps, w₂, l₂, C₂, rfl, rfl, .stop hintact₂ (hl₂.trans hl) hround⟩
        · rw [if_neg hstop, if_neg hstop]
          rcases ih fuel _ w₂ l₂ C₂ hintact₂ (queue_settled h hl hl₂)
              (Nat.le_of_succ_le_succ hfuel) with
            ⟨⟨q, hq, hm⟩, hexit, hsweep⟩ | ⟨calls, later, w', l', C', hloop, hsweep, hrounds⟩
          · exact .inl ⟨⟨q, List.mem_cons_of_mem p hq, hm⟩, hexit, Prog.bind_of_error hsweep⟩
          · refine .inr ⟨_, later, w', l', C', hloop, ?_, hrounds.cons hround hstop⟩
            rw [Prog.bind_of_ok hsweep]
            rfl

theorem mem_returning {status : ProcessStatus} {calls : List (SessPtr × ProcessStatus)}
    {p : SessPtr} : p ∈ returning status calls ↔ (p, status) ∈ calls := by
  simp [returning]

/-- Each session has one call. -/
theorem returning_once {status status' : ProcessStatus} {calls : List (SessPtr × ProcessStatus)}
    {p : SessPtr} (hnd : (calls.map Prod.fst).Nodup) (hne : status ≠ status')
    (h : p ∈ returning status calls) : p ∉ returning status' calls := by
  intro h'
  have := List.inj_on_of_nodup_map hnd (mem_returning.mp h) (mem_returning.mp h') rfl
  exact hne (congrArg Prod.snd this)

theorem returning_called {status : ProcessStatus} {calls : List (SessPtr × ProcessStatus)}
    {p : SessPtr} (h : p ∈ returning status calls) : p ∈ calls.map Prod.fst :=
  List.mem_map_of_mem (mem_returning.mp h)

theorem sweep_outcome {w w' : World} {l l' : Dir → List SessPtr}
    {C C' : Nat × NodeQueue → List NodePtr} {calls : List (SessPtr × ProcessStatus)}
    {later : List SessPtr} (h : Intact w.engine l C)
    (hrounds : Rounds d stopOnAgain [] (l d) calls later w w' l l' C') :
    SweepOutcome d calls later w w' l l' := by
  obtain ⟨horder, -, h', hqueue, hswept⟩ := hrounds
  rw [List.nil_append] at hqueue
  obtain ⟨hnd, -, hapart⟩ := List.nodup_append.mp (horder ▸ (h.holds d).nodup)
  -- a session that is done with is not behind the last call, nor did it return `again`
  have hleft : ∀ status p, status ≠ .again → p ∈ returning status calls → p ∉ l' d := by
    intro status p hne hp
    rw [hqueue, List.mem_append, not_or]
    exact ⟨returning_once hnd hne hp, fun hlater => hapart p (returning_called hp) p hlater rfl⟩
  refine ⟨horder, h'.holds, hqueue, hswept.others, hswept.table, ?_, ?_, ?_, hswept.ended⟩
  · intro p hp
    exact ((h'.linked d p).mp hp).2
  · intro p hp
    have hin : p ∈ l d := by
      rw [horder]
      exact List.mem_append_left _ (returning_called hp)
    have htable : p ∈ w'.engine.htable := by
      rw [hswept.table, List.mem_filter]
      exact ⟨((h.linked d p).mp hin).1, decide_eq_true (returning_once hnd (by decide) hp)⟩
    obtain ⟨s, hs, -⟩ := h'.live p htable
    refine ⟨htable, s, hs, ?_⟩
    rw [← Bool.not_eq_true, ← h'.mem_queue htable hs d]
    exact hleft .ok p (by decide) hp
  · intro p hp
    have hout : p ∉ w'.engine.htable := by
      rw [hswept.table, List.mem_filter]
      rintro ⟨-, hnot⟩
      exact of_decide_eq_true hnot hp
    exact ⟨hswept.failed p hp, hout, fun d' hin => hout ((h'.linked d' p).mp hin).1⟩

/-- The run over the queue `d` does what the loop over the list `l d` does, with the outcome above.
It ends the process only where there is no memory for the ID of a failed session. -/
def SweepsQueue (run : WorldM Unit) (d : Dir) (process : SessPtr → WorldM ProcessStatus)
    (stopOnAgain : Bool) (env : SessPtr → DeleteEnv) (notice : SessPtr → Notice) (w : World)
    (l : Dir → List SessPtr) : Prop :=
  (∃ p ∈ l d, (env p).idMemory = false) ∧ run w = .error .exit ∨
    ∃ calls later w' l', run w = .ok ((), w') ∧
      World.sweep d process stopOnAgain env notice (l d) w = .ok (calls, w') ∧
      (if stopOnAgain then UntilAgain calls later else later = []) ∧
      SweepOutcome d calls later w w' l l'

theorem activeRun_sweeps (stopOnAgain : Bool) (env : SessPtr → DeleteEnv)
    (notice : SessPtr → Notice) (hproc : Processes d process) {w : World}
    {l : Dir → List SessPtr} {C : Nat × NodeQueue → List NodePtr} (h : Intact w.engine l C)
    (hold : ∀ p ∈ w.engine.htable, p < w.engine.nextSess) :
    SweepsQueue (World.activeRun d process stopOnAgain env notice) d process stopOnAgain env notice
      w l := by
  have hfuel : (l d).length ≤ w.engine.nextSess := by
    have hsub : l d ⊆ List.range w.engine.nextSess := fun p hp =>
      List.mem_range.mpr (hold p ((h.linked d p).mp hp).1)
    have := (List.subperm_of_subset (h.holds d).nodup hsub).length_le
    rwa [List.length_range] at this
  have hrun : World.activeRun d process stopOnAgain env notice w =
      World.activeLoop d process stopOnAgain env notice w.engine.nextSess (l d).head? w := by
    rw [← (h.holds d).first]
    rfl
  unfold SweepsQueue
  rw [hrun]
  rcases activeLoop_sweeps stopOnAgain env notice hproc (l d) _ [] w l C h rfl hfuel with
    ⟨hm, hexit, -⟩ | ⟨calls, later, w', l', C', hloop, hsweep, hrounds⟩
  · exact .inl ⟨hm, hexit⟩
  · exact .inr ⟨calls, later, w', l', hloop, hsweep, hrounds.ends, sweep_outcome h hrounds⟩

end Loop

/-- The loop goes through its queue in order, whatever the calls return, step 2 through all of it
and step 4 up to the first `again`. -/
theorem activeQueues_swept (w : World) (l : Dir → List SessPtr)
    (C : Nat × NodeQueue → List NodePtr) (h : Intact w.engine l C)
    (hold : ∀ p ∈ w.engine.htable, p < w.engine.nextSess) (env : SessPtr → DeleteEnv)
    (notice : SessPtr → Notice) :
    (∀ d process stopOnAgain, Processes d process →
      SweepsQueue (World.activeRun d process stopOnAgain env notice) d process stopOnAgain env
        notice w l) ∧
    (∀ send, SweepsQueue (World.engineRunStep2 send env notice) .f2b
      (fun p => within (highSpeedDataProcessF2b p (send p))) false env notice w l) ∧
    (∀ full, SweepsQueue (World.engineRunStep4 full env notice) .b2f
      (fun p => World.highSpeedDataProcessB2f p (full p)) true env notice w l) := by
  refine ⟨fun d process stopOnAgain hproc => ?_, fun send => ?_, fun full => ?_⟩
  · exact activeRun_sweeps stopOnAgain env notice hproc h hold
  · exact activeRun_sweeps false env notice (step2_processes send) h hold
  · exact activeRun_sweeps true env notice (step4_processes full) h hold

/-- A socket that takes nothing. -/
def failingSend (_ : SessPtr) : SendEnv := { sndbuf := some 4096, send := fun _ => .failed }

/-- The socket of the only session fails. -/
theorem activeQueues_swept_failing :
    ∃ e l C, Intact e l C ∧ (l .f2b).head? = some 0 ∧
      SweepsQueue
        (World.engineRunStep2 failingSend (fun _ => ⟨true, false, true⟩)
          fun _ => ⟨.ok, ⟨0, 0⟩⟩)
        .f2b (fun p => within (highSpeedDataProcessF2b p (failingSend p))) false
        (fun _ => ⟨true, false, true⟩) (fun _ => ⟨.ok, ⟨0, 0⟩⟩) (worldOf e) l := by
  obtain ⟨e, he, hfirst⟩ := reached_of_view (f := fun e => (e.queue .f2b).first ()) (b := some 0)
    (show (run mainStep oneDevice
        [.pool (.createActive tcpRequest goodEnv),
          .msg (dataFor1 [1, 2]) goodMsgEnv]).toOption.map _ = _ by decide +kernel)
  have hproper : AllSteps mainStep Proper oneDevice
      [.pool (.createActive tcpRequest goodEnv), .msg (dataFor1 [1, 2]) goodMsgEnv] := by
    refine ⟨⟨?_, ?_, rfl⟩, fun _ _ => ⟨⟨goodEnv_clear, ?_⟩, fun _ _ => trivial⟩⟩
    · exact goodEnv_clear
    · intro block d hblock hd
      cases hblock
      cases hd
      rfl
    · intro para hreq
      have hnone : requestOf (dataFor1 [1, 2]) = none := by decide +kernel
      cases hnone.symm.trans hreq
  obtain ⟨C₀, hshelved⟩ := (main_fit hproper he).shelved
  obtain ⟨l, C, hintact⟩ := intact_of (main_fit hproper he)
    (activeQueues_linked 1 _ 4096 _ e (hproper.mono fun _ _ h => h.1) he)
  refine ⟨e, l, C, hintact, ?_, ?_⟩
  · rw [← (hintact.holds .f2b).first]
    exact hfirst
  · exact (activeQueues_swept (worldOf e) l C hintact hshelved.old _ _).2.1 _

end BackendProxy.Pool
