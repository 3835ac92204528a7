import BackendProxy.Pool.Upkeep

namespace BackendProxy.Pool

open Lib Queue Wire

/-! The handshake of a passive creation: the command goes out at once, and the answer of the
frontend has to find the session again. -/

/-- The message is an answer to the command with that backend ID. -/
def AnswersCommand (m : Mem) (backend : UInt16) : Prop :=
  ProxyMsgType.ofCode (ProxyMsgHeader.read m 0).proxyMsgType = some .sess ∧
    (ProxyMsgHeader.read m 0).backendSessId = backend ∧
    CreateResponse backend (SessMsgHeader.read m proxyMsgHdrSize)

/-- The status the frontend reports; 0 is success. -/
def reportedStatus (m : Mem) : UInt8 := m (proxyMsgHdrSize + sessMsgHeaderSize)

/-- The session `p` waits for the answer to its command, and hears it. -/
structure Handshake (p : SessPtr) (fd : Int) (backend : UInt16) (t : Engine) : Prop where
  found : t.lookup backend = some p
  prepared : ∃ s, t.heap p = some s ∧ (∀ d, s.msg d = []) ∧ s.netChannel.sockFd = fd ∧
    s.netChannel.sess = some p ∧ s.netChannel.arg = true
  success : ∀ m env st t', AnswersCommand m backend → reportedStatus m = 0 → env.epollCtl = true →
    receiveMsg m env t = .ok (st, t') →
      (fd, p) ∈ t'.epoll ∧ ∃ s, t'.heap p = some s ∧
        s.frontendSessId = (ProxyMsgHeader.read m 0).frontendSessId
  failure : ∀ m env st t', AnswersCommand m backend → reportedStatus m ≠ 0 →
    receiveMsg m env t = .ok (st, t') → (fd, p) ∈ t'.epoll → (fd, p) ∈ t.epoll

section Waiting

variable {e e' t : Engine} {l : Dir → List SessPtr} {para : PassiveSessParaIP} {env : PassiveEnv}
  {st : ProcessStatus}

/-- A session whose command was sent is made, but not put into the table. -/
theorem createPassive_unlisted (h : highSpeedCreateSessPassive para env e = .ok (.ok, e'))
    (hsound : Sound e l) : e.nextSess < e'.nextSess ∧ e.nextSess ∉ e'.htable := by
  generalize hst : ProcessStatus.ok = st at h
  cases createPassive_exit h with
  | rejected _ | noMemory _ _ | noId _ _ | failed _ _ _ _ => cases hst
  | completed _ _ _ _ _ =>
    exact ⟨Nat.lt_succ_self _, fun hin => Nat.lt_irrefl _ (hsound.old _ hin)⟩

/-- The table leads to no session that is outside it. -/
theorem lookup_unlisted {p : SessPtr} (h : p ∉ t.htable) (backend : UInt16) :
    t.lookup backend ≠ some p := fun hfound => h (lookup_live hfound).1

theorem createPassive_sound (h : highSpeedCreateSessPassive para env e = .ok (st, e'))
    (hsound : Sound e l) : ∃ l', Sound e' l' := by
  obtain ⟨l', hsound', -⟩ := createPassive_simulated (P := anyAnswers) h hsound
  exact ⟨l', hsound'⟩

end Waiting

/-- Whatever happens after the command was sent, no answer of the frontend finds the session. -/
theorem passive_handshake_fails (devNum : Nat) (config : Nat → HighSpeedNetDevice)
    (blockSize : Nat) (before later : List MainOp) (para : PassiveSessParaIP) (env : PassiveEnv)
    (e e' t : Engine) (backend : UInt16)
    (reached : run mainStep (highSpeedInitPool devNum config blockSize) before = .ok e)
    (sent : highSpeedCreateSessPassive para env e = .ok (.ok, e'))
    (went : run mainStep e' later = .ok t) : ¬ Handshake e.nextSess para.fd backend t := by
  intro h
  obtain ⟨l, hsound, -⟩ := main_simulated (anyAnswers_met _ before) reached
  obtain ⟨hold, hout⟩ := createPassive_unlisted sent hsound
  obtain ⟨l', hsound'⟩ := createPassive_sound sent hsound
  obtain ⟨-, hout'⟩ := hsound'.stays_out hold hout went
  exact lookup_unlisted hout' backend h.found

/-- An accepted connection on the first device. -/
def acceptedConnection : PassiveSessParaIP :=
  { fd := 9, devId := 0, transProto := 1, ipVersion := 4 }

def goodPassiveEnv : PassiveEnv :=
  { malloc := some zeroSession, newSessId := 0, response := .ok, idMemory := true }

/-- The command for the first connection goes out with the ID 1. -/
theorem passive_handshake_fails_first :
    ∃ e', highSpeedCreateSessPassive acceptedConnection goodPassiveEnv oneDevice = .ok (.ok, e') ∧
      (e'.heap 0).map (·.backendSessId) = some 1 ∧ ¬ Handshake 0 9 1 e' := by
  have hsent : ∃ e', highSpeedCreateSessPassive acceptedConnection goodPassiveEnv oneDevice =
      .ok (.ok, e') ∧ (e'.heap 0).map (·.backendSessId) = some 1 := ⟨_, rfl, by decide +kernel⟩
  obtain ⟨e', he', hid⟩ := hsent
  exact ⟨e', he', hid,
    passive_handshake_fails 1 _ 4096 [] [] acceptedConnection _ oneDevice e' e' 1 rfl he' rfl⟩

/-- The session of the first connection is not found by its ID. -/
theorem first_connection_not_found :
    ¬ ∀ para env e', highSpeedCreateSessPassive para env oneDevice = .ok (.ok, e') →
      ∀ s, e'.heap 0 = some s → Handshake 0 para.fd s.backendSessId e' := by
  intro h
  have hsent : ∃ e', highSpeedCreateSessPassive acceptedConnection goodPassiveEnv oneDevice =
      .ok (.ok, e') ∧ e'.htable = [] ∧ (e'.heap 0).isSome := ⟨_, rfl, rfl, by decide +kernel⟩
  obtain ⟨e', he', hempty, hlive⟩ := hsent
  obtain ⟨s, hs⟩ := Option.isSome_iff_exists.mp hlive
  have hfound := (h _ _ e' he' s hs).found
  have hlisted := (lookup_live hfound).1
  rw [hempty] at hlisted
  cases hlisted

end BackendProxy.Pool
