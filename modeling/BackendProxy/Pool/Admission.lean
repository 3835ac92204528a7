import BackendProxy.Pool.Upkeep

namespace BackendProxy.Pool

open Lib Lib.Tailq Queue Wire

/-! Which messages may change a session, and which session. -/

/-- The session is in the active queue of a direction. -/
def Queued (e : Engine) (d : Dir) (q : SessPtr) : Prop :=
  ∃ l, Holds (e.queue d) () l ∧ q ∈ l

/-- The session's contents changed, or its descriptor was registered. -/
def Changed (e e' : Engine) (q : SessPtr) : Prop :=
  e'.heap q ≠ e.heap q ∨ ∃ fd, (fd, q) ∈ e'.epoll ∧ (fd, q) ∉ e.epoll

def LenInRange (len : UInt16) : Prop := 1 ≤ len.toNat ∧ len.toNat ≤ proxyMsgMaxSize

/-- Neither the ID of the admin session nor that of a handover. -/
def AppId (id : UInt16) : Prop := id ≠ proxyAdminSessionId ∧ id ≠ proxyHandoverSessionId

def IsData (m : Mem) : Prop :=
  ProxyMsgType.ofCode (ProxyMsgHeader.read m 0).proxyMsgType = some .data

def IsClose (m : Mem) : Prop :=
  ProxyMsgType.ofCode (ProxyMsgHeader.read m 0).proxyMsgType = some .sess ∧
    SessMsgType.ofCode (SessMsgHeader.read m proxyMsgHdrSize).msgType = some .close

/-- A message that took the engine from `e` to `e'` changed only what it was entitled to. -/
structure Isolated (m : Mem) (e e' : Engine) : Prop where
  admitted : ∀ q, Changed e e' q →
    LenInRange (ProxyMsgHeader.read m 0).payloadLen ∧
      (IsData m → AppId (ProxyMsgHeader.read m 0).frontendSessId ∧
        AppId (ProxyMsgHeader.read m 0).backendSessId) ∧
      (IsData m ∨ IsClose m → ∃ s, e.heap q = some s ∧
        s.backendSessId = (ProxyMsgHeader.read m 0).backendSessId ∧
        s.frontendSessId = (ProxyMsgHeader.read m 0).frontendSessId)
  isolated : IsData m ∨ IsClose m → ∀ q,
    e.lookup (ProxyMsgHeader.read m 0).backendSessId ≠ some q →
      e'.heap q = e.heap q ∧ ∀ d, Queued e' d q ↔ Queued e d q

/-- The node that a deletion would give back belongs to no other session. -/
def OwnNode (e : Engine) (p : SessPtr) (s : BackendSession) : Prop :=
  ∀ n q, 0 ≤ s.devId → s.devId < maxHsDevNum → isLinked s.sessDevLinkState = true →
    s.sessNode = some n → e.nodes.sess n = some q → q = p

/-- The checks that the macros and the handlers leave out. -/
def Admissible (e : Engine) (m : Mem) : Prop :=
  let hdr := ProxyMsgHeader.read m 0
  let inner := SessMsgHeader.read m proxyMsgHdrSize
  match ProxyMsgType.ofCode hdr.proxyMsgType with
  | some .data =>
    ∀ p s, e.lookup hdr.backendSessId = some p → e.heap p = some s →
      LenInRange hdr.payloadLen ∧ AppId hdr.frontendSessId ∧ AppId hdr.backendSessId ∧
        s.frontendSessId = hdr.frontendSessId
  | some .sess =>
    (CreateCommand hdr.backendSessId inner → LenInRange hdr.payloadLen) ∧
      (CloseMessage inner → ∀ p s, e.lookup hdr.backendSessId = some p → e.heap p = some s →
        LenInRange hdr.payloadLen ∧ s.frontendSessId = hdr.frontendSessId ∧ OwnNode e p s)
  | _ => True

/-- Nothing happened, or only to the session of that ID. -/
def TouchesOnly (backend : UInt16) (e e' : Engine) : Prop :=
  e' = e ∨ ∃ p, e.lookup backend = some p ∧ e'.epoll ⊆ e.epoll ∧
    ∀ q, q ≠ p → e'.heap q = e.heap q ∧ ∀ d, Queued e' d q ↔ Queued e d q

section Steps

variable {e e' : Engine} {l : Dir → List SessPtr} {p : SessPtr} {s : BackendSession} {m : Mem}
  {st : ProcessStatus} {u : Unit}

theorem Sound.queued_iff (h : Sound e l) (d : Dir) (q : SessPtr) : Queued e d q ↔ q ∈ l d := by
  constructor
  · intro hq
    obtain ⟨k, hk, hmem⟩ := hq
    rwa [(h.holds d).unique hk]
  · intro hmem
    exact ⟨l d, h.holds d, hmem⟩

theorem not_changed_self (e : Engine) (q : SessPtr) : ¬ Changed e e q := by
  intro h
  rcases h with h | ⟨fd, hin, hout⟩
  · exact h rfl
  · exact hout hin

theorem isolated_still (m : Mem) (e : Engine) : Isolated m e e :=
  ⟨fun q hq => absurd hq (not_changed_self e q), fun _ _ _ => ⟨rfl, fun _ => Iff.rfl⟩⟩

theorem lookup_id {id : UInt16} (h : e.lookup id = some p) (hs : e.heap p = some s) :
    s.backendSessId = id := by
  have hfound := List.find?_some h
  rw [hs] at hfound
  simpa using hfound

theorem Sound.mem_iff_traffic (h : Sound e l) (d : Dir) (q : SessPtr) :
    q ∈ l d ↔ ∃ t, (e.traffic l).sess q = some t ∧ t.queued d = true := by
  constructor
  · intro hmem
    obtain ⟨hlisted, s, hs, -⟩ := h.queued d q hmem
    exact ⟨_, traffic_sess hlisted hs, by simp [BackendSession.traffic, hmem]⟩
  · intro ht
    obtain ⟨t, ht, hqueued⟩ := ht
    simp only [Engine.traffic] at ht
    split at ht
    · obtain ⟨s, -, rfl⟩ := Option.map_eq_some_iff.mp ht
      simpa [BackendSession.traffic] using hqueued
    · cases ht

/-- A session whose traffic is as before is in the queues it was in. -/
theorem queued_iff_of_traffic {l' : Dir → List SessPtr} {q : SessPtr} (h : Sound e l)
    (h' : Sound e' l') (ht : (e'.traffic l').sess q = (e.traffic l).sess q) (d : Dir) :
    Queued e' d q ↔ Queued e d q := by
  rw [h'.queued_iff, h.queued_iff, h'.mem_iff_traffic, h.mem_iff_traffic, ht]

theorem data_touches {backend : UInt16} {payload : List UInt8} {env : MsgEnv}
    (hd : backendProxyDataMsgProcess backend payload env e = .ok (st, e')) (h : Sound e l) :
    TouchesOnly backend e e' := by
  simp only [backendProxyDataMsgProcess, Prog.bind_ok] at hd
  obtain ⟨found, _, hsearch, hd⟩ := hd
  obtain ⟨hfound, rfl⟩ := search_ok hsearch
  cases found with
  | none => exact .inl (Prog.pure_ok.mp hd).2.symm
  | some p =>
    cases hseg : env.segment with
    | false =>
      simp only [hseg, Bool.false_eq_true, if_false, Prog.pure_ok] at hd
      exact .inl hd.2.symm
    | true =>
      simp only [hseg, if_true, Prog.bind_ok, deref_ok, storeNoting_ok, Prog.pure_ok] at hd
      obtain ⟨s, _, ⟨hs, rfl⟩, _, e₁, he₁, _, _, hlink, -, rfl⟩ := hd
      obtain ⟨hp, -⟩ := lookup_live hfound
      obtain ⟨hsound, ht⟩ := Sound.stored he₁.symm h hp hs
      have hs₁ : e₁.heap p = some (s.setMsg .f2b (s.msg .f2b ++ [payload])) := by
        rw [← he₁]
        exact Function.update_self _ _ _
      obtain ⟨l', hsound', ht'⟩ := Sound.link hlink hsound (he₁ ▸ hp) hs₁
      refine .inr ⟨p, hfound, ?_, fun q hq => ⟨?_, ?_⟩⟩
      · rcases linkToQueue_ok hlink hs₁ with ⟨-, rfl⟩ | ⟨-, Q, -, rfl⟩
        · rw [← he₁]
          exact List.Subset.refl _
        · rw [← he₁]
          exact List.Subset.refl _
      · rcases linkToQueue_ok hlink hs₁ with ⟨-, rfl⟩ | ⟨-, Q, -, rfl⟩
        · rw [← he₁]
          exact Function.update_of_ne hq _ _
        · rw [← he₁]
          simp [hq]
      · refine queued_iff_of_traffic h hsound' ?_
        rw [ht', ht]
        simp [hq]

theorem removeSessionNode_own {d : Nat} {n : NodePtr}
    (hr : removeSessionNode d n e = .ok (u, e'))
    (hown : ∀ q, e.nodes.sess n = some q → q = p) :
    ∀ q, q ≠ p → e'.heap q = e.heap q := by
  intro q hq
  simp only [removeSessionNode, Prog.bind_ok, Prog.get_ok] at hr
  obtain ⟨_, _, ⟨rfl, rfl⟩, hr⟩ := hr
  cases hn : e.nodes.sess n with
  | none =>
    simp only [hn, Prog.pure_ok] at hr
    rw [hr.2]
  | some r =>
    have hrp := hown r hn
    subst hrp
    simp only [hn, Prog.bind_ok, deref_ok] at hr
    obtain ⟨s, _, ⟨hs, rfl⟩, hr⟩ := hr
    cases hk : NodeQueue.ofProto s.protoType with
    | none =>
      simp only [hk, Prog.pure_ok] at hr
      rw [hr.2]
    | some k =>
      simp only [hk] at hr
      split at hr
      · simp only [Prog.bind_ok, store_ok] at hr
        obtain ⟨_, _, hrem, rfl⟩ := hr
        obtain ⟨links, -, rfl⟩ := removeNode_ok hrem
        exact Function.update_of_ne hq _ _
      · rw [(Prog.pure_ok.mp hr).2]

theorem recycleNodeOf_own (hr : recycleNodeOf p e = .ok (u, e')) (hs : e.heap p = some s)
    (hown : OwnNode e p s) : ∀ q, q ≠ p → e'.heap q = e.heap q := by
  intro q hq
  simp only [recycleNodeOf, Prog.bind_ok, deref_ok] at hr
  obtain ⟨s', _, ⟨hs', rfl⟩, hr⟩ := hr
  cases hs.symm.trans hs'
  split at hr
  · rw [(Prog.pure_ok.mp hr).2]
  · rename_i hrange
    split at hr
    · rename_i hlink
      simp only [Prog.bind_ok, Prog.ofOption_ok, setNodeSess_ok, pushFreeSessionNode] at hr
      obtain ⟨n, _, ⟨hn, rfl⟩, _, e₁, hrem, _, _, rfl, hi⟩ := hr
      obtain ⟨links, -, rfl⟩ := insertNode_ok hi
      have hown' : ∀ r, e.nodes.sess n = some r → r = p :=
        fun r hr => hown n r (by omega) (by omega) hlink hn hr
      exact removeSessionNode_own hrem hown' q hq
    · rw [(Prog.pure_ok.mp hr).2]

/-- A deletion that gives back a node of its own leaves every other session alone. -/
theorem delete_own {env : DeleteEnv} (hd : highSpeedDeleteSess p env e = .ok (st, e'))
    (hs : e.heap p = some s) (hown : OwnNode e p s) : ∀ q, q ≠ p → e'.heap q = e.heap q := by
  intro q hq
  obtain ⟨s', t, v, hdet, hnode, rfl⟩ := delete_steps hd
  cases hs.symm.trans hdet.live
  obtain ⟨s₁, hs₁, hdev, -, hsn, hstate⟩ := hdet.own
  have hnodes : t.nodes = e.nodes := by rw [hdet.fields]
  have hown' : OwnNode t p s₁ := by
    unfold OwnNode
    rwa [hdev, hsn, hstate, hnodes]
  have hothers := recycleNodeOf_own hnode hs₁ hown' q hq
  simpa [hq, hdet.others q hq] using hothers

theorem close_touches {backend : UInt16} {env : DeleteEnv}
    (hd : searchAndDelete backend env e = .ok (st, e')) (h : Sound e l)
    (hown : ∀ p s, e.lookup backend = some p → e.heap p = some s → OwnNode e p s) :
    TouchesOnly backend e e' := by
  simp only [searchAndDelete, Prog.bind_ok] at hd
  obtain ⟨found, _, hsearch, hd⟩ := hd
  obtain ⟨hfound, rfl⟩ := search_ok hsearch
  cases found with
  | none => exact .inl (Prog.pure_ok.mp hd).2.symm
  | some p =>
    obtain ⟨s, hdel⟩ := delete_ok hd
    obtain ⟨hsound, ht⟩ := h.deleted hdel
    refine .inr ⟨p, hfound, fun r hr => (hdel.epoll r hr).1, fun q hq => ⟨?_, ?_⟩⟩
    · exact delete_own hd hdel.live (hown p s hfound hdel.live) q hq
    · refine queued_iff_of_traffic h hsound ?_
      rw [ht]
      exact Function.update_of_ne hq _ _

/-- A message that touches only the session of its ID is isolated if it passes the checks there. -/
theorem TouchesOnly.isolated (h : TouchesOnly (ProxyMsgHeader.read m 0).backendSessId e e')
    (hchecks : ∀ p s, e.lookup (ProxyMsgHeader.read m 0).backendSessId = some p →
      e.heap p = some s →
        LenInRange (ProxyMsgHeader.read m 0).payloadLen ∧
          (IsData m → AppId (ProxyMsgHeader.read m 0).frontendSessId ∧
            AppId (ProxyMsgHeader.read m 0).backendSessId) ∧
          s.frontendSessId = (ProxyMsgHeader.read m 0).frontendSessId) :
    Isolated m e e' := by
  rcases h with rfl | ⟨p, hfound, hpoll, hothers⟩
  · exact isolated_still m e'
  obtain ⟨-, s, hs⟩ := lookup_live hfound
  obtain ⟨hlen, hids, hfrontend⟩ := hchecks p s hfound hs
  constructor
  · intro q hq
    have hqp : q = p := by
      by_contra hne
      rcases hq with hheap | ⟨fd, hin, hout⟩
      · exact hheap (hothers q hne).1
      · exact hout (hpoll hin)
    subst hqp
    exact ⟨hlen, hids, fun _ => ⟨s, hs, lookup_id hfound hs, hfrontend⟩⟩
  · intro _ q hq
    refine hothers q (fun hqp => hq ?_)
    rw [hqp]
    exact hfound

theorem sess_isolated {env : MsgEnv} {dispatch : Dispatch}
    (ht : ProxyMsgType.ofCode (ProxyMsgHeader.read m 0).proxyMsgType = some .sess)
    (htaken : SessTaken (ProxyMsgHeader.read m 0).frontendSessId
      (ProxyMsgHeader.read m 0).backendSessId (SessMsgHeader.read m proxyMsgHdrSize)
      (proxyMsgHdrSize + sessMsgHeaderSize) (some dispatch))
    (hadm : Admissible e m) (hr : handleDispatch m env dispatch e = .ok (st, e'))
    (h : Sound e l) : Isolated m e e' := by
  simp only [Admissible, ht] at hadm
  obtain ⟨hcreate, hclose⟩ := hadm
  have hdata : ¬ IsData m := by simp [IsData, ht]
  cases htaken with
  | create hcommand _ =>
    have hother : ¬ IsClose m := by simp [IsClose, hcommand.2.1]
    refine ⟨fun q _ => ⟨hcreate hcommand, fun hd => absurd hd hdata, fun hd => ?_⟩, fun hd => ?_⟩
    · exact absurd hd (not_or.mpr ⟨hdata, hother⟩)
    · exact absurd hd (not_or.mpr ⟨hdata, hother⟩)
  | response _ =>
    rw [response_ignored hr h]
    exact isolated_still m e
  | close hmsg =>
    have hfits := hclose hmsg
    refine (close_touches hr h (fun p s hp hs => (hfits p s hp hs).2.2)).isolated ?_
    intro p s hp hs
    obtain ⟨hlen, hfrontend, -⟩ := hfits p s hp hs
    exact ⟨hlen, fun hd => absurd hd hdata, hfrontend⟩
  | short _ _ _ hshort =>
    simp only [handleDispatch, activeCreate_short hshort, Prog.pure_ok] at hr
    rw [← hr.2]
    exact isolated_still m e

theorem Sound.isolated {env : MsgEnv} (h : Sound e l) (hadm : Admissible e m)
    (hr : receiveMsg m env e = .ok (st, e')) : Isolated m e e' := by
  unfold receiveMsg at hr
  cases hd : backendProxyMsgProcess m with
  | none =>
    simp only [hd, Prog.pure_ok] at hr
    rw [← hr.2]
    exact isolated_still m e
  | some dispatch =>
    simp only [hd] at hr
    cases ht : ProxyMsgType.ofCode (ProxyMsgHeader.read m 0).proxyMsgType with
    | none =>
      simp [backendProxyMsgProcess, ht] at hd
    | some t =>
      rw [msgProcess_eq rfl ht] at hd
      cases t with
      | sess =>
        have htaken : SessTaken (ProxyMsgHeader.read m 0).frontendSessId
            (ProxyMsgHeader.read m 0).backendSessId (SessMsgHeader.read m proxyMsgHdrSize)
            (proxyMsgHdrSize + sessMsgHeaderSize) _ := sessMsgProcess_taken rfl
        simp only at hd
        rw [hd] at htaken
        exact sess_isolated ht htaken hadm hr h
      | data =>
        cases hd
        simp only [Admissible, ht] at hadm
        refine (data_touches hr h).isolated ?_
        intro p s hp hs
        obtain ⟨hlen, hf, hb, hfrontend⟩ := hadm p s hp hs
        exact ⟨hlen, fun _ => ⟨hf, hb⟩, hfrontend⟩
      | dev =>
        simp only at hd
        split at hd
        · cases hd
        rcases devMsgProcess_taken (m := m) rfl with ⟨-, handler, htaken⟩ | ⟨-, hnone⟩
        · cases htaken.symm.trans hd
          rw [← (Prog.pure_ok.mp hr).2]
          exact isolated_still m e
        · cases hnone.symm.trans hd
      | strgy =>
        simp only at hd
        split at hd
        · cases hd
        rcases strgyMsgProcess_taken (m := m) rfl with ⟨-, handler, htaken⟩ | ⟨-, hnone⟩
        · cases htaken.symm.trans hd
          rw [← (Prog.pure_ok.mp hr).2]
          exact isolated_still m e
        · cases hnone.symm.trans hd
      | iot =>
        cases hd
        rw [← (Prog.pure_ok.mp hr).2]
        exact isolated_still m e

end Steps

/-- In every state a run gets to, a message that passes the missing checks changes only what it is
entitled to, whatever the system answers. -/
theorem messages_isolated (devNum : Nat) (config : Nat → HighSpeedNetDevice) (blockSize : Nat)
    (ops : List MainOp) (m : Mem) (env : MsgEnv) (st : ProcessStatus) (e e' : Engine)
    (reached : run mainStep (highSpeedInitPool devNum config blockSize) ops = .ok e)
    (admissible : Admissible e m) (processed : receiveMsg m env e = .ok (st, e')) :
    Isolated m e e' := by
  obtain ⟨l, hsound, -⟩ := main_simulated (anyAnswers_met _ ops) reached
  exact hsound.isolated admissible processed

/-- One session, with frontend ID 7 and backend ID 1. -/
def oneSession : List MainOp := [.pool (.createActive tcpRequest goodEnv)]

/-- The session is found by its ID, has this frontend ID and no segment, and one with the byte 9
after the message. -/
def QueuesNine (m : Mem) (e : Engine) : Prop :=
  e.lookup 1 = some 0 ∧
    (e.heap 0).map (fun s => (s.frontendSessId, s.msg .f2b)) = some (7, []) ∧
    (receiveMsg m goodMsgEnv e).toOption.map (fun r => (r.2.heap 0).map (·.msg .f2b)) =
      some (some [[9]])

instance (m : Mem) (e : Engine) : Decidable (QueuesNine m e) :=
  inferInstanceAs (Decidable (_ ∧ _ ∧ _))

/-- A DATA message for that session is queued there, and nowhere else. -/
theorem messages_isolated_data :
    ∃ e st e', run mainStep oneDevice oneSession = .ok e ∧
      receiveMsg (dataFor1 [9]) goodMsgEnv e = .ok (st, e') ∧
      (e'.heap 0).map (·.msg .f2b) = some [[9]] ∧ Isolated (dataFor1 [9]) e e' := by
  obtain ⟨e, he, hview⟩ := reached_of_view (f := fun e => decide (QueuesNine (dataFor1 [9]) e))
    (b := true)
    (show (run mainStep oneDevice oneSession).toOption.map _ = _ by decide +kernel)
  obtain ⟨hfound, hsess, hafter⟩ := of_decide_eq_true hview
  obtain ⟨⟨st, e'⟩, he', hsegs⟩ := reached_of_view hafter
  have hadm : Admissible e (dataFor1 [9]) := by
    intro p s hp hs
    cases hfound.symm.trans hp
    rw [hs] at hsess
    obtain ⟨hfrontend, -⟩ := Prod.mk.inj (Option.some.inj hsess)
    refine ⟨?_, ?_, ?_, hfrontend⟩
    · unfold LenInRange
      decide
    · unfold AppId
      decide
    · unfold AppId
      decide
  exact ⟨e, st, e', he, he', hsegs, messages_isolated 1 _ 4096 _ _ _ _ e e' he hadm he'⟩

/-- A DATA message with the backend ID of that session and another frontend ID. -/
def strayData : Mem := Lib.store (fun _ => 0) 0 (dataMessage 8 1 [9])

/-- It is queued for the session all the same. -/
theorem stray_frontend_admitted :
    ¬ ∀ ops m env st e e', run mainStep oneDevice ops = .ok e →
      receiveMsg m env e = .ok (st, e') → Isolated m e e' := by
  intro h
  obtain ⟨e, he, hview⟩ := reached_of_view (f := fun e => decide (QueuesNine strayData e))
    (b := true)
    (show (run mainStep oneDevice oneSession).toOption.map _ = _ by decide +kernel)
  obtain ⟨-, hsess, hafter⟩ := of_decide_eq_true hview
  obtain ⟨⟨st, e'⟩, he', hsegs⟩ := reached_of_view hafter
  obtain ⟨s, hs, hsess⟩ := Option.map_eq_some_iff.mp hsess
  obtain ⟨hfrontend, hempty⟩ := Prod.mk.inj hsess
  have hchanged : Changed e e' 0 := by
    left
    intro hsame
    rw [hsame, hs, Option.map_some, hempty] at hsegs
    cases hsegs
  obtain ⟨-, -, hentitled⟩ := (h _ _ _ _ e e' he he').admitted 0 hchanged
  obtain ⟨s', hs', -, hf⟩ := hentitled (.inl (by unfold IsData; decide))
  cases hs.symm.trans hs'
  rw [hf] at hfrontend
  revert hfrontend
  decide

end BackendProxy.Pool
