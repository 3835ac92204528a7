import BackendProxy.Pool.Attempts
import BackendProxy.Pool.Upkeep

namespace BackendProxy.Pool

open Lib Queue Wire

/-! What the responses to CREATE and CLOSE say, and whether it is true. -/

/-- A session of the table has these IDs. -/
def Lists (e : Engine) (frontend backend : UInt16) : Prop :=
  ∃ p ∈ e.htable, ∃ s, e.heap p = some s ∧ s.frontendSessId = frontend ∧ s.backendSessId = backend

def Unnamed (e : Engine) (frontend : UInt16) : Prop := ∀ backend, ¬ Lists e frontend backend

/-- The status is a `SessOpStatus`, the code a `SessOpCode`, and they agree. -/
structure SessOpRespData.WellFormed (r : SessOpRespData) : Prop where
  status : r.status = sessOpStatusSuccess ∨ r.status = sessOpStatusFail
  code : r.code < sessOpCodeMax
  agree : r.code = sessOpCodeSuccess ↔ r.status = sessOpStatusSuccess

def Posting.responds (msgType : SessMsgType) (x : Posting) : Bool :=
  match x.msg with
  | .response t _ _ _ _ => t = msgType
  | _ => false

/-- The answer to a CREATE command that returned `st`, among the messages `xs`. -/
structure CreateTruthful (para : SessMsgPara) (st : ProcessStatus) (e' : Engine)
    (xs : List Posting) : Prop where
  once : (xs.filter (Posting.responds .create)).length ≤ 1
  frontend : ∀ q f b ip r, ⟨q, .response .create f b ip r⟩ ∈ xs → f = para.frontendSessId
  wellFormed : ∀ q f b ip r, ⟨q, .response .create f b ip r⟩ ∈ xs → r.WellFormed
  success : ∀ q f b ip r, ⟨q, .response .create f b ip r⟩ ∈ xs →
    ∀ b', (r.status = sessOpStatusSuccess ∧ b = b') ↔ Lists e' para.frontendSessId b'
  failure : ∀ q f b ip r, ⟨q, .response .create f b ip r⟩ ∈ xs →
    (b = proxyHandoverSessionId ↔ st ≠ .ok)

/-- The answer to a CLOSE message of this frontend session, which closed the session `s`. -/
structure CloseTruthful (frontend : UInt16) (s : BackendSession) (xs : List Posting) : Prop where
  once : (xs.filter (Posting.responds .close)).length ≤ 1
  frontend : ∀ q f b ip r, ⟨q, .response .close f b ip r⟩ ∈ xs → f = frontend
  wellFormed : ∀ q f b ip r, ⟨q, .response .close f b ip r⟩ ∈ xs → r.WellFormed
  backend : ∀ q f b ip r, ⟨q, .response .close f b ip r⟩ ∈ xs → b = s.backendSessId

/-- The IDs of a CLOSE message. -/
def closeOf (m : Mem) : Option (UInt16 × UInt16) :=
  match backendProxyMsgProcess m with
  | some (.sess .close frontend backend _ _) => some (frontend, backend)
  | _ => none

/-- The answers put on TX while the message was processed are right. -/
def Truthful (m : Mem) (w : World) (st : ProcessStatus) (w' : World) : Prop :=
  ∃ xs, w'.tx = w.tx ++ xs ∧
    (∀ para, requestOf m = some para → CreateTruthful para st w'.engine xs) ∧
    ∀ f b p s, closeOf m = some (f, b) → w.engine.lookup b = some p →
      w.engine.heap p = some s → CloseTruthful f s xs

/-! The condition. -/

/-- The notice about this check is filled in field by field. -/
def Check.Filled : Check → Prop
  | .connect | .epoll | .table | .response => False
  | _ => True

/-- A creation that works is for a frontend session without one, and gets an ID that is not the
handover ID; of one that fails, TX takes the notice only where the notice is filled in, and only if
the frontend session has no session already. -/
def CreateCandid (para : SessMsgPara) (env : CreateEnv) (notice : Notice) (e : Engine) : Prop :=
  match failingCheck para env e with
  | none => Unnamed e para.frontendSessId ∧ e.idQueue.headD 0 ≠ proxyHandoverSessionId
  | some c => notice.put = .ok → c.Filled ∧ Unnamed e para.frontendSessId

/-- TX refuses the response, or the handover ID it carries is the session's own. -/
def CloseCandid (frontend : UInt16) (s : BackendSession) (notice : Notice) : Prop :=
  notice.put = .ok → s.frontendSessId = frontend ∧ s.backendSessId = proxyHandoverSessionId

def Candid (m : Mem) (env : MsgEnv) (notice : SessPtr → Notice) (e : Engine) : Prop :=
  (∀ para, requestOf m = some para → CreateCandid para env.create (notice e.nextSess) e) ∧
    ∀ f b p s, closeOf m = some (f, b) → e.lookup b = some p → e.heap p = some s →
      CloseCandid f s (notice p)

/-! Creation. -/

section Create

variable {e e' : Engine} {para : SessMsgPara} {env : CreateEnv} {notice : Notice}
  {st : ProcessStatus} {w w' : World} {q : Option SessPtr} {f b ip : UInt16} {r : SessOpRespData}

theorem fail_wellFormed {code : UInt8} (h : code < sessOpCodeMax) (h0 : code ≠ sessOpCodeSuccess) :
    SessOpRespData.WellFormed ⟨sessOpStatusFail, code⟩ :=
  ⟨.inr rfl, h, ⟨fun hc => absurd hc h0,
    fun hs => absurd hs (show sessOpStatusFail ≠ sessOpStatusSuccess by decide)⟩⟩

theorem respDat_wellFormed (notice : Notice) (c : Check) :
    (c.respDat notice).WellFormed ↔ c.Filled := by
  cases c with
  | memory | sessId | socket | node | device =>
    exact ⟨fun _ => trivial, fun _ => fail_wellFormed (by decide) (by decide)⟩
  | connect =>
    refine ⟨fun h => ?_, fun h => h.elim⟩
    have hslip : sessOpCodeNetworkUnreachable = sessOpStatusSuccess ∨
      sessOpCodeNetworkUnreachable = sessOpStatusFail := h.status
    exact absurd hslip (by decide)
  | epoll | table | response =>
    refine ⟨fun h => ?_, fun h => h.elim⟩
    have hslip : sessOpCodeResourceInsufficient = sessOpStatusSuccess ∨
      sessOpCodeResourceInsufficient = sessOpStatusFail := h.status
    exact absurd hslip (by decide)

theorem respDat_status {c : Check} (h : c.Filled) :
    (c.respDat notice).status = sessOpStatusFail := by
  cases c with
  | memory | sessId | device | socket | node => rfl
  | connect | epoll | table | response => exact h.elim

theorem createTruthful_nil : CreateTruthful para st e' [] := by
  refine ⟨by simp, ?_, ?_, ?_, ?_⟩ <;>
    · intro q f b ip r hr
      cases hr

theorem createTruthful_single :
    CreateTruthful para st e' [⟨q, .response .create f b ip r⟩] ↔
      f = para.frontendSessId ∧ r.WellFormed ∧
        (∀ b', (r.status = sessOpStatusSuccess ∧ b = b') ↔ Lists e' para.frontendSessId b') ∧
        (b = proxyHandoverSessionId ↔ st ≠ .ok) := by
  constructor
  · intro h
    have hin := List.mem_singleton_self (⟨q, .response .create f b ip r⟩ : Posting)
    exact ⟨h.frontend _ _ _ _ _ hin, h.wellFormed _ _ _ _ _ hin, h.success _ _ _ _ _ hin,
      h.failure _ _ _ _ _ hin⟩
  · intro h
    obtain ⟨hf, hr, hs, hfail⟩ := h
    refine ⟨List.length_filter_le _ _, ?_, ?_, ?_, ?_⟩ <;>
      · intro q' f' b' ip' r' hin
        cases List.mem_singleton.mp hin
        assumption

/-- An attempt that leaves no session does not change which IDs the table lists. -/
theorem lists_undone (hout : e.nextSess ∉ e.htable)
    (hheap : e'.heap = Function.update e.heap e.nextSess none)
    (ht : e'.htable = e.htable ∨ e'.htable = e.htable ++ [e.nextSess]) :
    Lists e' f b ↔ Lists e f b := by
  have hne : ∀ p ∈ e.htable, p ≠ e.nextSess := by
    intro p hp he
    exact hout (he ▸ hp)
  constructor
  · intro hl
    obtain ⟨p, hp, s, hs, hids⟩ := hl
    have hpn : p ≠ e.nextSess := by
      intro he
      rw [he, hheap, Function.update_self] at hs
      cases hs
    have hin : p ∈ e.htable := by
      rcases ht with ht | ht <;> rw [ht] at hp
      · exact hp
      · exact (List.mem_append.mp hp).resolve_right fun h => hpn (List.mem_singleton.mp h)
    rw [hheap, Function.update_of_ne hpn] at hs
    exact ⟨p, hin, s, hs, hids⟩
  · intro hl
    obtain ⟨p, hp, s, hs, hids⟩ := hl
    refine ⟨p, ?_, s, ?_, hids⟩
    · rcases ht with ht | ht <;> rw [ht]
      · exact hp
      · exact List.mem_append_left _ hp
    · rw [hheap, Function.update_of_ne (hne p hp)]
      exact hs

/-- The notice of failure. -/
theorem noticed_truthful {c : Check}
    (hlists : ∀ b, Lists e' para.frontendSessId b ↔ Lists e para.frontendSessId b) :
    CreateTruthful para .error e' (noticed para notice.put (c.respDat notice)) ↔
      (notice.put = .ok → c.Filled ∧ Unnamed e para.frontendSessId) := by
  unfold noticed
  split <;> rename_i hput
  · rw [createTruthful_single, respDat_wellFormed]
    constructor
    · intro h _
      obtain ⟨-, hfill, hs, -⟩ := h
      refine ⟨hfill, fun b hl => ?_⟩
      have hst := ((hs b).mpr ((hlists b).mpr hl)).1
      rw [respDat_status hfill] at hst
      exact absurd hst (by decide)
    · intro h
      obtain ⟨hfill, hun⟩ := h hput
      refine ⟨rfl, hfill, fun b' => ⟨fun hs => ?_, fun hl => ?_⟩, by simp⟩
      · have hst := hs.1
        rw [respDat_status hfill] at hst
        exact absurd hst (by decide)
      · exact absurd ((hlists b').mp hl) (hun b')
  · exact ⟨fun _ h => absurd h hput, fun _ => createTruthful_nil⟩

theorem lookup_none {id : UInt16} (h : e.lookup id = none) : ¬ Lists e f id := by
  intro hl
  obtain ⟨p, hp, s, hs, -, hb⟩ := hl
  have := List.find?_eq_none.mp h p hp
  simp [hs, hb] at this

/-- The response of a creation that worked. -/
theorem created_truthful {id : UInt16} {s : BackendSession} (hout : e.nextSess ∉ e.htable)
    (hheap : e'.heap = Function.update e.heap e.nextSess (some s))
    (ht : e'.htable = e.htable ++ [e.nextSess]) (hf : s.frontendSessId = para.frontendSessId)
    (hb : s.backendSessId = id) (hunused : e.lookup id = none) :
    CreateTruthful para .ok e'
        [⟨q, .response .create para.frontendSessId id ip
          ⟨sessOpStatusSuccess, sessOpCodeSuccess⟩⟩] ↔
      Unnamed e para.frontendSessId ∧ id ≠ proxyHandoverSessionId := by
  have hlists : ∀ b', Lists e' para.frontendSessId b' ↔
      Lists e para.frontendSessId b' ∨ id = b' := by
    intro b'
    constructor
    · intro hl
      obtain ⟨p, hp, t, hs, hids⟩ := hl
      rw [hheap] at hs
      by_cases hpn : p = e.nextSess
      · subst hpn
        rw [Function.update_self] at hs
        cases hs
        exact .inr (hb.symm.trans hids.2)
      · rw [Function.update_of_ne hpn] at hs
        rw [ht] at hp
        have hin := (List.mem_append.mp hp).resolve_right fun h => hpn (List.mem_singleton.mp h)
        exact .inl ⟨p, hin, t, hs, hids⟩
    · intro hl
      rcases hl with ⟨p, hp, t, hs, hids⟩ | rfl
      · refine ⟨p, by rw [ht]; exact List.mem_append_left _ hp, t, ?_, hids⟩
        have hpn : p ≠ e.nextSess := by
          intro he
          exact hout (he ▸ hp)
        rw [hheap, Function.update_of_ne hpn]
        exact hs
      · refine ⟨e.nextSess, by rw [ht]; simp, s, ?_, hf, hb⟩
        rw [hheap, Function.update_self]
  rw [createTruthful_single]
  constructor
  · intro h
    obtain ⟨-, -, hs, hfail⟩ := h
    refine ⟨fun b' hl => ?_, fun he => (hfail.mp he) rfl⟩
    obtain ⟨-, rfl⟩ := (hs b').mpr ((hlists b').mpr (.inl hl))
    exact lookup_none hunused hl
  · intro h
    obtain ⟨hun, hid⟩ := h
    refine ⟨rfl, ⟨.inl rfl, by decide, by decide⟩, fun b' => ?_, ?_⟩
    · rw [hlists]
      constructor
      · intro hs
        exact .inr hs.2
      · intro hl
        rcases hl with hl | rfl
        · exact absurd hl (hun b')
        · exact ⟨rfl, rfl⟩
    · exact ⟨fun he => absurd he hid, fun hne => absurd rfl hne⟩

/-- A creation answers truthfully just when it is candid. -/
theorem createActive_truthful (h : World.highSpeedCreateSessActive para env notice w = .ok (st, w'))
    (hout : w.engine.nextSess ∉ w.engine.htable) :
    ∃ xs, w'.tx = w.tx ++ xs ∧
      (CreateTruthful para st w'.engine xs ↔ CreateCandid para env notice w.engine) := by
  unfold CreateCandid
  cases World.createActive_exit h hout with
  | noMemory hcheck =>
    refine ⟨_, rfl, ?_⟩
    rw [hcheck]
    exact noticed_truthful fun _ => Iff.rfl
  | noId hcheck =>
    refine ⟨_, rfl, ?_⟩
    rw [hcheck]
    exact noticed_truthful fun _ => lists_undone hout rfl (.inl rfl)
  | failed hcheck _ _ _ _ _ =>
    refine ⟨_, rfl, ?_⟩
    rw [hcheck]
    exact noticed_truthful fun _ => lists_undone hout rfl (.inl rfl)
  | refused hcheck _ _ =>
    refine ⟨_, rfl, ?_⟩
    rw [hcheck]
    exact noticed_truthful fun _ => lists_undone hout rfl (.inr rfl)
  | created hcheck hids hunused =>
    refine ⟨_, rfl, ?_⟩
    rw [hcheck, hids]
    exact created_truthful hout rfl rfl rfl rfl hunused

end Create

/-! Deletion. -/

section Close

variable {w w' : World} {st : ProcessStatus} {env : DeleteEnv} {notice : Notice} {p : SessPtr}
  {s : BackendSession}

theorem delete_truthful (h : World.highSpeedDeleteSess p env notice w = .ok (st, w'))
    (hs : w.engine.heap p = some s) (frontend : UInt16) :
    ∃ xs, w'.tx = w.tx ++ xs ∧
      (CloseTruthful frontend s xs ↔ CloseCandid frontend s notice) := by
  obtain ⟨s', e', hs', -, rfl⟩ := World.delete_ok h
  cases hs.symm.trans hs'
  refine ⟨_, rfl, ?_⟩
  unfold CloseCandid
  split <;> rename_i hput
  · constructor
    · intro ht _
      exact ⟨ht.frontend _ _ _ _ _ (List.mem_singleton_self _),
        (ht.backend _ _ _ _ _ (List.mem_singleton_self _)).symm⟩
    · intro hc
      obtain ⟨hf, hb⟩ := hc hput
      refine ⟨List.length_filter_le _ _, ?_, ?_, ?_⟩ <;>
        · intro q f b ip r hin
          cases List.mem_singleton.mp hin
          first
            | exact hf
            | exact hb.symm
            | exact ⟨.inl rfl, by decide, by decide⟩
  · refine ⟨fun _ hok => absurd hok hput, fun _ => ⟨by simp, ?_, ?_, ?_⟩⟩ <;>
      · intro q f b ip r hin
        cases hin

end Close

section Messages

variable {w w' : World} {st : ProcessStatus} {m : Mem} {env : MsgEnv} {notice : SessPtr → Notice}

/-- With the messages put on TX named. -/
theorem truthful_iff {xs : List Posting} (htx : w'.tx = w.tx ++ xs) :
    Truthful m w st w' ↔
      (∀ para, requestOf m = some para → CreateTruthful para st w'.engine xs) ∧
        ∀ f b p s, closeOf m = some (f, b) → w.engine.lookup b = some p →
          w.engine.heap p = some s → CloseTruthful f s xs := by
  constructor
  · intro h
    obtain ⟨ys, hys, hcreate, hclose⟩ := h
    cases List.append_cancel_left (htx.symm.trans hys)
    exact ⟨hcreate, hclose⟩
  · intro h
    exact ⟨xs, htx, h⟩

theorem requestOf_create {frontend backend : UInt16} {hdr : SessMsgHeader} {payload : Nat}
    (hd : backendProxyMsgProcess m = some (.sess .activeCreate frontend backend hdr payload))
    (hw : WholeParams hdr) :
    requestOf m = some
      { frontendSessId := frontend, devId := u16At m payload, ipVersion := hdr.ipVersion,
        transProto := u16At m (payload + 2) } := by
  unfold requestOf
  simp only [hd, if_pos hw]

/-- A CLOSE message is answered if its session is found. -/
theorem close_truthful {frontend backend : UInt16}
    (h : World.searchAndDelete backend env.delete notice w = .ok (st, w'))
    (hreq : requestOf m = none) (hclose : closeOf m = some (frontend, backend)) :
    Truthful m w st w' ↔ Candid m env notice w.engine := by
  simp only [World.searchAndDelete, Prog.bind_ok, within_ok] at h
  obtain ⟨found, _, ⟨_, hsearch, rfl⟩, h⟩ := h
  obtain ⟨hfound, rfl⟩ := search_ok hsearch
  cases found with
  | none =>
    obtain ⟨-, rfl⟩ := Prog.pure_ok.mp h
    rw [truthful_iff (List.append_nil _).symm, Candid, hreq, hclose]
    constructor <;>
      · intro _
        refine ⟨by simp, ?_⟩
        intro f b p s hm hp
        cases hm
        cases hfound.symm.trans hp
  | some p =>
    obtain ⟨-, s, hs⟩ := lookup_live hfound
    obtain ⟨xs, htx, hiff⟩ := delete_truthful h hs frontend
    rw [truthful_iff htx, Candid, hreq, hclose]
    constructor <;>
      · intro hx
        refine ⟨by simp, ?_⟩
        intro f b p' s' hm hp' hs'
        cases hm
        cases hfound.symm.trans hp'
        cases hs.symm.trans hs'
        first
          | exact hiff.mp (hx.2 _ _ _ _ rfl hfound hs)
          | exact hiff.mpr (hx.2 _ _ _ _ rfl hfound hs)

/-- A message that asks for nothing is answered with nothing. -/
theorem unanswered_truthful (hreq : requestOf m = none) (hclose : closeOf m = none)
    (htx : w'.tx = w.tx) : Truthful m w st w' ↔ Candid m env notice w.engine := by
  rw [truthful_iff (htx.trans (List.append_nil _).symm), Candid, hreq, hclose]
  simp

/-- Processing a message answers truthfully just when the message and the answers of the system are
candid. -/
theorem receiveMsg_truthful (h : World.receiveMsg m env notice w = .ok (st, w'))
    (hout : w.engine.nextSess ∉ w.engine.htable) :
    Truthful m w st w' ↔ Candid m env notice w.engine := by
  unfold World.receiveMsg at h
  cases hd : backendProxyMsgProcess m with
  | none =>
    simp only [hd, Prog.pure_ok] at h
    obtain ⟨-, rfl⟩ := h
    exact unanswered_truthful (by simp [requestOf, hd]) (by simp [closeOf, hd]) rfl
  | some dispatch =>
    simp only [hd] at h
    unfold World.handleDispatch at h
    split at h
    · rename_i frontend backend _ _
      have hclose : closeOf m = some (frontend, backend) := by simp [closeOf, hd]
      exact close_truthful h (by simp [requestOf, hd]) hclose
    · rename_i frontend backend hdr payload
      have hclose : closeOf m = none := by simp [closeOf, hd]
      unfold World.backendProxySessMsgProcessActiveCreate at h
      split at h <;> rename_i hw
      · have hreq := requestOf_create hd hw
        simp only [Prog.bind_ok, Prog.get_ok] at h
        obtain ⟨_, _, ⟨rfl, rfl⟩, h⟩ := h
        obtain ⟨xs, htx, hiff⟩ := createActive_truthful h hout
        rw [truthful_iff htx, Candid, hreq, hclose]
        simpa using hiff
      · obtain ⟨-, rfl⟩ := Prog.pure_ok.mp h
        refine unanswered_truthful ?_ hclose rfl
        unfold requestOf
        simp only [hd]
        exact if_neg hw
    · rename_i hnotclose hnotcreate
      obtain ⟨e', -, rfl⟩ := within_ok.mp h
      refine unanswered_truthful ?_ ?_ rfl
      · unfold requestOf
        rw [hd]
        split <;> rename_i heq
        · cases heq
          exact absurd rfl (hnotcreate _ _ _ _)
        · rfl
      · unfold closeOf
        rw [hd]
        split <;> rename_i heq
        · cases heq
          exact absurd rfl (hnotclose _ _ _ _)
        · rfl

end Messages

/-- In every state a run gets to, a message is answered truthfully just when it is candid. -/
theorem responses_truthful_iff (devNum : Nat) (config : Nat → HighSpeedNetDevice)
    (blockSize : Nat) (ops : List MainOp) (w w' : World) (m : Mem) (env : MsgEnv)
    (notice : SessPtr → Notice) (st : ProcessStatus)
    (reached : run mainStep (highSpeedInitPool devNum config blockSize) ops = .ok w.engine)
    (processed : World.receiveMsg m env notice w = .ok (st, w')) :
    Truthful m w st w' ↔ Candid m env notice w.engine := by
  obtain ⟨l, hsound, -⟩ := main_simulated (anyAnswers_met _ ops) reached
  exact receiveMsg_truthful processed fun hin => Nat.lt_irrefl _ (hsound.old _ hin)

/-- One device, and TX takes every message. -/
def firstWorld : World := { engine := oneDevice, tx := [], sockets := [], ended := [] }

def goodNotice : SessPtr → Notice := fun _ => ⟨.ok, ⟨0, 0⟩⟩

/-- A first session is created, and the response says so. -/
theorem responses_truthful_iff_first :
    ∃ st w', World.receiveMsg (createOn 0) goodMsgEnv goodNotice firstWorld = .ok (st, w') ∧
      w'.tx.length = 1 ∧ Truthful (createOn 0) firstWorld st w' := by
  have hrun : ∃ st w', World.receiveMsg (createOn 0) goodMsgEnv goodNotice firstWorld =
      .ok (st, w') ∧ w'.tx.length = 1 := ⟨_, _, rfl, rfl⟩
  obtain ⟨st, w', hw, hlen⟩ := hrun
  refine ⟨st, w', hw, hlen, (responses_truthful_iff 1 _ 4096 [] firstWorld w' (createOn 0)
    goodMsgEnv goodNotice st rfl hw).mpr ⟨?_, ?_⟩⟩
  · intro para hpara
    cases createOn_first.symm.trans hpara
    have hcheck : failingCheck tcpRequest goodMsgEnv.create firstWorld.engine = none := by
      decide +kernel
    unfold CreateCandid
    rw [hcheck]
    refine ⟨?_, by decide +kernel⟩
    intro b hl
    obtain ⟨p, hp, -⟩ := hl
    cases hp
  · intro f b p s hm
    cases hm

/-- The notice that the peer cannot be reached has the status 4. -/
theorem unreachable_peer_garbled :
    ¬ ∀ ops w w' m env notice st, run mainStep oneDevice ops = .ok w.engine →
      World.receiveMsg m env notice w = .ok (st, w') → Truthful m w st w' := by
  intro h
  have hrun : ∃ st w', World.receiveMsg (createOn 0)
      { goodMsgEnv with create := { goodEnv with connect := false } } goodNotice firstWorld =
        .ok (st, w') := ⟨_, _, rfl⟩
  obtain ⟨st, w', hw⟩ := hrun
  have hcandid := (receiveMsg_truthful hw (by intro hin; cases hin)).mp
    (h [] firstWorld w' _ _ _ st rfl hw)
  have hfill := hcandid.1 tcpRequest createOn_first
  have hcheck : failingCheck tcpRequest { goodEnv with connect := false } firstWorld.engine =
      some .connect := by decide +kernel
  unfold CreateCandid at hfill
  rw [hcheck] at hfill
  exact (hfill rfl).1

end BackendProxy.Pool
