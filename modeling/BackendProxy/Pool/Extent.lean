import BackendProxy.Pool.Identifiers
import BackendProxy.Pool.MainLoop
import BackendProxy.Wire.Iot

namespace BackendProxy.Pool

open Lib Queue Wire

/-! How far into the message buffer `backend_proxy_msg_process` and its handlers read. -/

/-- The buffer a message is received in. -/
def msgBufferSize : Nat := proxyMsgHdrSize + proxyMsgMaxSize

/-- `sessions` tells which protocols have a session, `sendToRemote` what sending returns. -/
structure IotEnv where
  sessions : IotProtoType → Bool
  sendToRemote : IotSend → ProcessStatus

/-- The whole of `backend_proxy_msg_process`, with what is handed to an IoT device. -/
def processMsg (m : Mem) (iot : IotEnv) (env : MsgEnv) :
    EngineM (ProcessStatus × Option IotSend) :=
  match backendProxyMsgProcess m with
  | none => pure (.error, none)
  | some (.iot _ _ msgLen msg) =>
    match backendProxyIotMsgProcess iot.sessions m msgLen msg with
    | .error => pure (.error, none)
    | .accepted => pure (.ok, none)
    | .send s => pure (iot.sendToRemote s, some s)
  | some dispatch => do
    let status ← handleDispatch m env dispatch
    pure (status, none)

/-- The create parameters have the size of their IP version. -/
def WholeParams (hdr : SessMsgHeader) : Prop :=
  hdr.ipVersion = sessIpv4Proto ∧ hdr.payloadLen = 10 ∨
    hdr.ipVersion = sessIpv6Proto ∧ hdr.payloadLen = 22

instance (hdr : SessMsgHeader) : Decidable (WholeParams hdr) :=
  inferInstanceAs (Decidable (_ ∨ _))

/-- What is read behind the header of a session message: the parameters of a creation by the
frontend. The other handlers look at the IDs only. -/
def sessRanges : Option Dispatch → List (Nat × Nat)
  | some (.sess .activeCreate _ _ hdr payload) =>
    if WholeParams hdr then [(payload, hdr.payloadLen.toNat)] else []
  | _ => []

/-- What a sending IoT handler reads: the length in the header, then the address and the bytes it
hands on. -/
def iotSendRanges (present : Bool) (proto : IotProtoType) (hdr : IotMsgHeader) :
    List (Nat × Nat) :=
  if !present then []
  else
    (proxyMsgHdrSize + 8, 2) ::
      if hdr.payloadLen.toNat > iotMaxPayload proto ∨ hdr.payloadLen.toNat < iotAddrSize proto
      then []
      else
        [(proxyMsgHdrSize + iotMsgHeaderSize, iotAddrSize proto),
          (proxyMsgHdrSize + iotMsgHeaderSize + iotAddrSize proto, handedLen proto hdr)]

/-- The protocol type is read before any length is looked at. -/
def iotRanges (sessions : IotProtoType → Bool) (m : Mem) (msgLen : UInt16) : List (Nat × Nat) :=
  let hdr := IotMsgHeader.read m proxyMsgHdrSize
  (proxyMsgHdrSize + 2, 2) ::
    match IotProtoType.ofCode hdr.protoType with
    | none => []
    | some proto =>
      if msgLen.toNat < iotMsgHeaderSize + iotAddrSize proto then []
      else if proto = .bluetooth ∨ proto = .can ∨ proto = .modbustcp then
        iotSendRanges (sessions proto) proto hdr
      else []

/-- Start and length of every part of the message read behind the outer header. -/
def readRanges (m : Mem) (e : Engine) (iot : IotEnv) (env : MsgEnv) : List (Nat × Nat) :=
  let hdr := ProxyMsgHeader.read m 0
  match ProxyMsgType.ofCode hdr.proxyMsgType with
  | none => []
  | some .dev =>
    if hdr.frontendSessId ≠ proxyAdminSessionId ∨ hdr.backendSessId ≠ proxyAdminSessionId then []
    else [(proxyMsgHdrSize, devMsgHeaderSize)]
  | some .strgy =>
    if hdr.frontendSessId ≠ proxyAdminSessionId ∨ hdr.backendSessId ≠ proxyAdminSessionId then []
    else [(proxyMsgHdrSize, devMsgHeaderSize)]
  | some .sess =>
    (proxyMsgHdrSize, sessMsgHeaderSize) ::
      sessRanges
        (backendProxySessMsgProcess hdr.frontendSessId hdr.backendSessId m proxyMsgHdrSize)
  | some .data =>
    if (e.lookup hdr.backendSessId).isSome && env.segment then
      [(proxyMsgHdrSize, hdr.payloadLen.toNat)]
    else []
  | some .iot => iotRanges iot.sessions m hdr.payloadLen

/-- Every byte read belongs to the message the outer header announces, and that message fits the
buffer or is refused without a trace. -/
structure StaysInside (m : Mem) (e : Engine) (iot : IotEnv) : Prop where
  inside : ∀ env, ∀ r ∈ readRanges m e iot env,
    r.1 + r.2 ≤ proxyMsgHdrSize + (ProxyMsgHeader.read m 0).payloadLen.toNat
  bounded : proxyMsgHdrSize + (ProxyMsgHeader.read m 0).payloadLen.toNat ≤ msgBufferSize ∨
    ∀ env, processMsg m iot env e = .ok ((.error, none), e)

/-! The condition, on the fields of the message and the sessions there are. -/

def DevCommand (hdr : DevMsgHeader) : Prop :=
  ActionType.ofCode hdr.actionType = some .command ∧ hdr.version = 1 ∧
    devMsgPayloadLen hdr.msgType hdr.actionType = hdr.payloadLen.toNat

def StrgyCommand (hdr : StrgyMsgHeader) : Prop :=
  ActionType.ofCode hdr.actionType = some .command ∧ hdr.version = 1 ∧
    strgyMsgPayloadLen hdr.msgType hdr.actionType = hdr.payloadLen.toNat

/-- A session message of version 1 with the length its table prescribes. -/
def SessWellFormed (hdr : SessMsgHeader) : Prop :=
  hdr.version = 1 ∧
    sessMsgPayloadLen hdr.msgType hdr.actionType hdr.ipVersion = hdr.payloadLen.toNat

def CreateCommand (backend : UInt16) (hdr : SessMsgHeader) : Prop :=
  backend = proxyHandoverSessionId ∧ SessMsgType.ofCode hdr.msgType = some .create ∧
    ActionType.ofCode hdr.actionType = some .command ∧ SessWellFormed hdr

def CreateResponse (backend : UInt16) (hdr : SessMsgHeader) : Prop :=
  backend ≠ proxyHandoverSessionId ∧ SessMsgType.ofCode hdr.msgType = some .create ∧
    ActionType.ofCode hdr.actionType = some .response ∧ SessWellFormed hdr

def CloseMessage (hdr : SessMsgHeader) : Prop :=
  SessMsgType.ofCode hdr.msgType = some .close ∧ ActionType.ofCode hdr.actionType ≠ none ∧
    SessWellFormed hdr

def NotFound (e : Engine) (backend : UInt16) : Prop :=
  e.dangling = false ∧ e.lookup backend = none

/-- A channel in neither of the two registration states, with its events already set. -/
def StuckChannel (ch : NetChannel) : Prop :=
  ch.status ≠ epollRegStatusUnregistered ∧ ch.status ≠ epollRegStatusRegistered ∧
    ch.events = epollIn

/-- No session of that ID waits for the answer to a passive creation. -/
def NoneWaiting (e : Engine) (backend : UInt16) : Prop :=
  e.dangling = false ∧
    ∀ p s, e.lookup backend = some p → e.heap p = some s →
      s.establishMode ≠ sessEstablishPassive ∨ StuckChannel s.netChannel

/-- The IoT message is taken by a handler of a session. -/
def IotAdmitted (sessions : IotProtoType → Bool) (payloadLen : UInt16) (hdr : IotMsgHeader)
    (proto : IotProtoType) : Prop :=
  IotProtoType.ofCode hdr.protoType = some proto ∧
    iotMsgHeaderSize + iotAddrSize proto ≤ payloadLen.toNat ∧ sessions proto = true ∧
    (Sends proto →
      iotAddrSize proto ≤ hdr.payloadLen.toNat ∧ hdr.payloadLen.toNat ≤ iotMaxPayload proto)

/-- Nothing happens but the return of an error. -/
def Refused (m : Mem) (e : Engine) (iot : IotEnv) : Prop :=
  let hdr := ProxyMsgHeader.read m 0
  match ProxyMsgType.ofCode hdr.proxyMsgType with
  | none => True
  | some .dev =>
    (hdr.frontendSessId ≠ proxyAdminSessionId ∨ hdr.backendSessId ≠ proxyAdminSessionId) ∨
      ¬ DevCommand (DevMsgHeader.read m proxyMsgHdrSize)
  | some .strgy =>
    (hdr.frontendSessId ≠ proxyAdminSessionId ∨ hdr.backendSessId ≠ proxyAdminSessionId) ∨
      ¬ StrgyCommand (DevMsgHeader.read m proxyMsgHdrSize)
  | some .sess =>
    ¬ CreateCommand hdr.backendSessId (SessMsgHeader.read m proxyMsgHdrSize) ∧
      (CloseMessage (SessMsgHeader.read m proxyMsgHdrSize) → NotFound e hdr.backendSessId) ∧
      (CreateResponse hdr.backendSessId (SessMsgHeader.read m proxyMsgHdrSize) →
        NoneWaiting e hdr.backendSessId)
  | some .data => NotFound e hdr.backendSessId
  | some .iot =>
    ∀ proto, ¬ IotAdmitted iot.sessions hdr.payloadLen (IotMsgHeader.read m proxyMsgHdrSize) proto

/-- The announced length covers the inner header and what that header announces in turn. -/
def LengthsCover (m : Mem) (iot : IotEnv) : Prop :=
  let hdr := ProxyMsgHeader.read m 0
  let len := hdr.payloadLen.toNat
  match ProxyMsgType.ofCode hdr.proxyMsgType with
  | none => True
  | some .dev =>
    (hdr.frontendSessId ≠ proxyAdminSessionId ∨ hdr.backendSessId ≠ proxyAdminSessionId) ∨
      devMsgHeaderSize ≤ len
  | some .strgy =>
    (hdr.frontendSessId ≠ proxyAdminSessionId ∨ hdr.backendSessId ≠ proxyAdminSessionId) ∨
      devMsgHeaderSize ≤ len
  | some .sess =>
    sessMsgHeaderSize ≤ len ∧
      (CreateCommand hdr.backendSessId (SessMsgHeader.read m proxyMsgHdrSize) →
        sessMsgHeaderSize + (SessMsgHeader.read m proxyMsgHdrSize).payloadLen.toNat ≤ len)
  | some .data => True
  | some .iot =>
    4 ≤ len ∧ ∀ proto, Sends proto →
      IotAdmitted iot.sessions hdr.payloadLen (IotMsgHeader.read m proxyMsgHdrSize) proto →
        iotMsgHeaderSize + iotAddrSize proto +
          handedLen proto (IotMsgHeader.read m proxyMsgHdrSize) ≤ len

/-- The bytes a DATA message puts into a segment lie in the buffer it was received in. -/
def DataFits (m : Mem) (e : Engine) (env : MsgEnv) : Prop :=
  let hdr := ProxyMsgHeader.read m 0
  ProxyMsgType.ofCode hdr.proxyMsgType = some .data → e.lookup hdr.backendSessId ≠ none →
    env.segment = true → hdr.payloadLen.toNat ≤ proxyMsgMaxSize

/-! Session messages: three of them reach a handler that acts. -/

section Session

variable {frontend backend : UInt16} {m : Mem} {hdr : SessMsgHeader}

/-- How the decoder takes a session message. -/
inductive SessTaken (frontend backend : UInt16) (hdr : SessMsgHeader) (payload : Nat) :
    Option Dispatch → Prop where
  | create (command : CreateCommand backend hdr) (whole : WholeParams hdr) :
    SessTaken frontend backend hdr payload
      (some (.sess .activeCreate frontend backend hdr payload))
  | response (response : CreateResponse backend hdr) :
    SessTaken frontend backend hdr payload
      (some (.sess .passiveCreate frontend backend hdr payload))
  | close (close : CloseMessage hdr) :
    SessTaken frontend backend hdr payload (some (.sess .close frontend backend hdr payload))
  | short (command : ¬ CreateCommand backend hdr) (response : ¬ CreateResponse backend hdr)
      (close : ¬ CloseMessage hdr) (params : ¬ WholeParams hdr) :
    SessTaken frontend backend hdr payload
      (some (.sess .activeCreate frontend backend hdr payload))
  | refused (command : ¬ CreateCommand backend hdr) (response : ¬ CreateResponse backend hdr)
      (close : ¬ CloseMessage hdr) : SessTaken frontend backend hdr payload none

theorem createCommand_whole (h : CreateCommand backend hdr) : WholeParams hdr := by
  obtain ⟨-, htype, haction, -, hlen⟩ := h
  simp only [sessMsgPayloadLen, htype, haction] at hlen
  have hword : ∀ n : Nat, n < 65536 → (n : Int) = hdr.payloadLen.toNat →
      hdr.payloadLen = UInt16.ofNat n := by
    intro n hn h
    rw [← UInt16.toNat_inj, UInt16.toNat_ofNat', Nat.mod_eq_of_lt hn]
    omega
  split at hlen
  · rename_i h4
    exact .inl ⟨h4, hword 10 (by omega) hlen⟩
  · split at hlen
    · rename_i h6
      exact .inr ⟨h6, hword 22 (by omega) hlen⟩
    · simp only [proxyMsgInvalidLen] at hlen
      omega

theorem sessMsgProcess_taken (hr : SessMsgHeader.read m proxyMsgHdrSize = hdr) :
    SessTaken frontend backend hdr (proxyMsgHdrSize + sessMsgHeaderSize)
      (backendProxySessMsgProcess frontend backend m proxyMsgHdrSize) := by
  simp only [backendProxySessMsgProcess, hr]
  cases haction : ActionType.ofCode hdr.actionType with
  | none =>
    simp only [if_true]
    exact .refused (by simp [CreateCommand, haction]) (by simp [CreateResponse, haction])
      (by simp [CloseMessage, haction])
  | some action =>
    by_cases hversion : hdr.version = 1
    · by_cases hlen : sessMsgPayloadLen hdr.msgType hdr.actionType hdr.ipVersion =
          hdr.payloadLen.toNat
      · have hok := (corrLenOk_iff _ _).mpr hlen
        have hwell : SessWellFormed hdr := ⟨hversion, hlen⟩
        cases htype : SessMsgType.ofCode hdr.msgType with
        | none =>
          simp only [hversion, hok, reduceCtorEq, not_true_eq_false, ne_eq, Bool.not_true,
            Bool.false_eq_true, if_false]
          exact .refused (by simp [CreateCommand, htype]) (by simp [CreateResponse, htype])
            (by simp [CloseMessage, htype])
        | some msgType =>
          cases msgType with
          | close =>
            simp only [hversion, hok, reduceCtorEq, not_true_eq_false, ne_eq, Bool.not_true,
              Bool.false_eq_true, if_false]
            exact .close ⟨htype, by simp [haction], hwell⟩
          | create =>
            by_cases hb : backend = proxyHandoverSessionId
            · simp only [hversion, hok, hb, reduceCtorEq, not_true_eq_false, ne_eq, Bool.not_true,
                Bool.false_eq_true, if_false]
              cases action with
              | command =>
                have hcmd : CreateCommand proxyHandoverSessionId hdr := ⟨rfl, htype, haction, hwell⟩
                exact .create hcmd (createCommand_whole hcmd)
              | response =>
                refine .short (by simp [CreateCommand, haction]) (by simp [CreateResponse])
                  (by simp [CloseMessage, htype]) ?_
                -- the table prescribes two bytes for a response
                simp only [sessMsgPayloadLen, htype, haction] at hlen
                intro hwhole
                rcases hwhole with ⟨-, h10⟩ | ⟨-, h22⟩
                · rw [h10] at hlen
                  cases hlen
                · rw [h22] at hlen
                  cases hlen
            · cases action with
              | command =>
                simp only [hversion, hok, hb, reduceCtorEq, not_true_eq_false, not_false_eq_true,
                  ne_eq, Bool.not_true, Bool.false_eq_true, if_false, if_true, Option.some.injEq]
                exact .refused (by simp [CreateCommand, hb])
                  (by simp [CreateResponse, haction]) (by simp [CloseMessage, htype])
              | response =>
                simp only [hversion, hok, hb, reduceCtorEq, not_true_eq_false, not_false_eq_true,
                  ne_eq, Bool.not_true, Bool.false_eq_true, if_false, if_true]
                exact .response ⟨hb, htype, haction, hwell⟩
      · have hbad : corrLenOk (sessMsgPayloadLen hdr.msgType hdr.actionType hdr.ipVersion)
            hdr.payloadLen = false := by
          rw [Bool.eq_false_iff]
          exact fun h => hlen ((corrLenOk_iff _ _).mp h)
        simp only [hversion, hbad, reduceCtorEq, not_true_eq_false, ne_eq, Bool.not_false,
          if_false, if_true]
        exact .refused (fun h => hlen h.2.2.2.2) (fun h => hlen h.2.2.2.2)
          (fun h => hlen h.2.2.2)
    · simp only [hversion, reduceCtorEq, not_false_eq_true, ne_eq, if_false, if_true]
      exact .refused (fun h => hversion h.2.2.2.1) (fun h => hversion h.2.2.2.1)
        (fun h => hversion h.2.2.1)

end Session

/-! When a handler returns an error and leaves everything as it was, whatever the system answers. -/

section Handlers

variable {e : Engine} {backend : UInt16}

theorem search_quiet (h : e.dangling = false) (touchesFreed : Bool) :
    highSpeedSearchSess backend touchesFreed e = .ok (e.lookup backend, e) := by
  simp only [highSpeedSearchSess, Prog.bind_ok, walkTable, Prog.get_ok, Prog.pure_ok]
  refine ⟨(), e, ⟨e, e, ⟨rfl, rfl⟩, ?_⟩, e, e, ⟨rfl, rfl⟩, rfl, rfl⟩
  rw [h, Bool.and_false]
  rfl

/-- A walk over a table with a freed session may meet it. -/
theorem search_dangling (h : e.dangling = true) :
    highSpeedSearchSess backend true e = .error .undefined := by
  simp only [highSpeedSearchSess, walkTable, bind, StateT.bind, get, getThe, MonadStateOf.get,
    StateT.get, pure, Except.pure, Except.bind, h, Bool.and_true, if_true]
  rfl

theorem bind_halted {α β : Type} {x : EngineM α} {f : α → EngineM β} {halt : Halt}
    (h : x e = .error halt) : (x >>= f) e = .error halt := by
  simp only [bind, StateT.bind, h, Except.bind]

theorem data_rejects_iff {payload : List UInt8} :
    (∀ env, backendProxyDataMsgProcess backend payload env e = .ok (.error, e)) ↔
      NotFound e backend := by
  constructor
  · intro h
    have hdangling : e.dangling = false := by
      cases hd : e.dangling with
      | false => rfl
      | true =>
        have hfreed := h { goodMsgEnv with touchesFreed := true }
        rw [backendProxyDataMsgProcess, bind_halted (search_dangling hd)] at hfreed
        cases hfreed
    refine ⟨hdangling, ?_⟩
    have hgood := h goodMsgEnv
    simp only [backendProxyDataMsgProcess, Prog.bind_ok] at hgood
    obtain ⟨found, _, hsearch, hgood⟩ := hgood
    obtain ⟨hfound, -⟩ := search_ok hsearch
    cases found with
    | none => exact hfound
    | some p =>
      have hseg : goodMsgEnv.segment = true := rfl
      simp only [hseg, if_true, Prog.bind_ok, Prog.pure_ok, reduceCtorEq, false_and, and_false,
        exists_false] at hgood
  · intro h env
    simp only [backendProxyDataMsgProcess, Prog.bind_ok]
    refine ⟨none, e, ?_, rfl⟩
    rw [search_quiet h.1, h.2]

theorem delete_never_refuses {p : SessPtr} {env : DeleteEnv} {e' : Engine} :
    highSpeedDeleteSess p env e ≠ .ok (.error, e') := by
  intro h
  simp only [highSpeedDeleteSess, Prog.bind_ok, Prog.pure_ok, reduceCtorEq, false_and, and_false,
    exists_false] at h

theorem close_rejects_iff :
    (∀ env, searchAndDelete backend env e = .ok (.error, e)) ↔ NotFound e backend := by
  constructor
  · intro h
    have hdangling : e.dangling = false := by
      cases hd : e.dangling with
      | false => rfl
      | true =>
        have hfreed := h ⟨true, true, true⟩
        rw [searchAndDelete, bind_halted (search_dangling hd)] at hfreed
        cases hfreed
    refine ⟨hdangling, ?_⟩
    have hgood := h ⟨true, false, true⟩
    simp only [searchAndDelete, Prog.bind_ok] at hgood
    obtain ⟨found, _, hsearch, hgood⟩ := hgood
    obtain ⟨hfound, rfl⟩ := search_ok hsearch
    cases found with
    | none => exact hfound
    | some p => exact absurd hgood delete_never_refuses
  · intro h env
    simp only [searchAndDelete, Prog.bind_ok]
    refine ⟨none, e, ?_, rfl⟩
    rw [search_quiet h.1, h.2]

theorem store_same {p : SessPtr} {s : BackendSession} (hs : e.heap p = some s) :
    { e with heap := Function.update e.heap p (some s) } = e := by
  rw [← hs, Function.update_eq_self]

/-- A registration that the kernel takes is answered with an error only for a stuck channel. -/
theorem register_rejects_iff {p : SessPtr} {s : BackendSession} (hs : e.heap p = some s) :
    (∀ ctl, registerEpoll p ctl e = .ok (.error, e)) ↔ StuckChannel s.netChannel := by
  constructor
  · intro h
    have htaken := h true
    simp only [registerEpoll, Prog.bind_ok, deref_ok] at htaken
    obtain ⟨s', _, ⟨hs', rfl⟩, htaken⟩ := htaken
    cases hs.symm.trans hs'
    by_cases h0 : s.netChannel.status = epollRegStatusUnregistered
    · simp only [h0, if_true, Prog.bind_ok, Prog.pure_ok, reduceCtorEq, false_and, and_false,
        exists_false] at htaken
    · by_cases h1 : s.netChannel.status = epollRegStatusRegistered
      · rw [if_neg h0, if_pos h1] at htaken
        simp only [if_true, Prog.bind_ok, Prog.pure_ok, reduceCtorEq, false_and, and_false,
          exists_false] at htaken
      · simp only [h0, h1, if_false, Prog.bind_ok, store_ok, Prog.pure_ok] at htaken
        obtain ⟨_, _, rfl, -, hsame⟩ := htaken
        refine ⟨h0, h1, ?_⟩
        have hheap := congrArg (fun e => (e.heap p).map fun s => s.netChannel.events) hsame
        simpa [hs] using hheap.symm
  · intro h ctl
    obtain ⟨h0, h1, hevents⟩ := h
    simp only [registerEpoll, Prog.bind_ok, deref_ok]
    refine ⟨s, e, ⟨hs, rfl⟩, ?_⟩
    simp only [h0, h1, if_false, Prog.bind_ok, store_ok, Prog.pure_ok]
    refine ⟨(), _, rfl, trivial, ?_⟩
    rw [← hevents]
    exact store_same hs

theorem passive_rejects_iff :
    (∀ env, backendProxySessMsgProcessPassiveCreate backend env e = .ok (.error, e)) ↔
      NoneWaiting e backend := by
  constructor
  · intro h
    have hdangling : e.dangling = false := by
      cases hd : e.dangling with
      | false => rfl
      | true =>
        have hfreed := h { goodMsgEnv with touchesFreed := true }
        rw [backendProxySessMsgProcessPassiveCreate, bind_halted (search_dangling hd)] at hfreed
        cases hfreed
    refine ⟨hdangling, fun p s hp hs => ?_⟩
    by_cases hmode : s.establishMode = sessEstablishPassive
    · refine .inr ((register_rejects_iff hs).mp fun ctl => ?_)
      have hctl := h { goodMsgEnv with epollCtl := ctl }
      simp only [backendProxySessMsgProcessPassiveCreate, Prog.bind_ok] at hctl
      obtain ⟨found, _, hsearch, hctl⟩ := hctl
      obtain ⟨hfound, rfl⟩ := search_ok hsearch
      cases hp.symm.trans hfound
      simp only [Prog.bind_ok, deref_ok] at hctl
      obtain ⟨s', _, ⟨hs', rfl⟩, hctl⟩ := hctl
      cases hs.symm.trans hs'
      simpa only [hmode, ne_eq, not_true_eq_false, if_false] using hctl
    · exact .inl hmode
  · intro h env
    simp only [backendProxySessMsgProcessPassiveCreate, Prog.bind_ok]
    refine ⟨e.lookup backend, e, search_quiet h.1 _, ?_⟩
    cases hfound : e.lookup backend with
    | none => rfl
    | some p =>
      obtain ⟨-, s, hs⟩ := lookup_live hfound
      simp only [Prog.bind_ok, deref_ok]
      refine ⟨s, e, ⟨hs, rfl⟩, ?_⟩
      rcases h.2 p s hfound hs with hmode | hstuck
      · simp only [hmode, ne_eq, not_false_eq_true, if_true]
        rfl
      · split
        · rfl
        · exact (register_rejects_iff hs).mpr hstuck env.epollCtl

theorem activeCreate_whole {frontend : UInt16} {hdr : SessMsgHeader} (h : WholeParams hdr) (m : Mem)
    (payload : Nat) (env : MsgEnv) :
    backendProxySessMsgProcessActiveCreate frontend hdr m payload env =
      highSpeedCreateSessActive
        { frontendSessId := frontend, devId := u16At m payload, ipVersion := hdr.ipVersion,
          transProto := u16At m (payload + 2) } env.create := if_pos h

theorem activeCreate_short {frontend : UInt16} {hdr : SessMsgHeader} (h : ¬ WholeParams hdr)
    (m : Mem) (payload : Nat) (env : MsgEnv) :
    backendProxySessMsgProcessActiveCreate frontend hdr m payload env = pure .error := if_neg h

/-- A creation leaves a trace at least where its ID variable was never set. -/
theorem create_never_silent {frontend : UInt16} {hdr : SessMsgHeader} {m : Mem} {payload : Nat}
    (h : WholeParams hdr) :
    ¬ ∀ env, backendProxySessMsgProcessActiveCreate frontend hdr m payload env e =
      .ok (.error, e) := by
  intro hall
  have hempty := hall { goodMsgEnv with create := { goodEnv with malloc := none, newSessId := 1 } }
  rw [activeCreate_whole h] at hempty
  simp only [highSpeedCreateSessActive, Prog.bind_ok] at hempty
  obtain ⟨_, _, hrel, hempty⟩ := hempty
  obtain ⟨-, rfl⟩ := Prog.pure_ok.mp hempty
  simp only [releaseIdIfSet, goodEnv, releaseId, if_true] at hrel
  have hids := congrArg (fun e => e.idQueue.length) (Prog.modify_ok.mp hrel)
  simp at hids

end Handlers

section Messages

variable {m : Mem} {e : Engine} {iot : IotEnv}

theorem devMsgProcess_taken {hdr : DevMsgHeader} (hr : DevMsgHeader.read m proxyMsgHdrSize = hdr) :
    (DevCommand hdr ∧ ∃ handler, backendProxyDevMsgProcess m proxyMsgHdrSize =
        some (.dev handler hdr (proxyMsgHdrSize + devMsgHeaderSize))) ∨
      (¬ DevCommand hdr ∧ backendProxyDevMsgProcess m proxyMsgHdrSize = none) := by
  by_cases hc : DevCommand hdr
  · obtain ⟨ha, hv, hl⟩ := id hc
    cases ht : DevMsgType.ofCode hdr.msgType with
    | none =>
      simp only [devMsgPayloadLen, ht, proxyMsgInvalidLen] at hl
      omega
    | some handler => exact .inl ⟨hc, handler, devMsgProcess_eq hr ha hv hl ht⟩
  · refine .inr ⟨hc, ?_⟩
    simp only [backendProxyDevMsgProcess, hr]
    split
    · rfl
    · rename_i ha
      split
      · rfl
      · rename_i hv
        split
        · rfl
        · rename_i hl
          refine absurd ⟨not_not.mp ha, not_not.mp hv, (corrLenOk_iff _ _).mp ?_⟩ hc
          simpa using hl

theorem strgyMsgProcess_taken {hdr : StrgyMsgHeader}
    (hr : DevMsgHeader.read m proxyMsgHdrSize = hdr) :
    (StrgyCommand hdr ∧ ∃ handler, backendProxyStrgyMsgProcess m proxyMsgHdrSize =
        some (.strgy handler hdr (proxyMsgHdrSize + devMsgHeaderSize))) ∨
      (¬ StrgyCommand hdr ∧ backendProxyStrgyMsgProcess m proxyMsgHdrSize = none) := by
  by_cases hc : StrgyCommand hdr
  · obtain ⟨ha, hv, hl⟩ := id hc
    cases ht : StrgyMsgType.ofCode hdr.msgType with
    | none =>
      simp only [strgyMsgPayloadLen, ht, proxyMsgInvalidLen] at hl
      omega
    | some handler => exact .inl ⟨hc, handler, strgyMsgProcess_eq hr ha hv hl ht⟩
  · refine .inr ⟨hc, ?_⟩
    simp only [backendProxyStrgyMsgProcess, hr]
    split
    · rfl
    · rename_i ha
      split
      · rfl
      · rename_i hv
        split
        · rfl
        · rename_i hl
          refine absurd ⟨not_not.mp ha, not_not.mp hv, (corrLenOk_iff _ _).mp ?_⟩ hc
          simpa using hl

theorem processMsg_none (h : backendProxyMsgProcess m = none) (env : MsgEnv) :
    processMsg m iot env e = .ok ((.error, none), e) := by
  simp only [processMsg, h]
  rfl

/-- Outside the IoT protocols the status is that of the handler. -/
theorem processMsg_error_iff {dispatch : Dispatch} (h : backendProxyMsgProcess m = some dispatch)
    (hiot : ∀ f b n o, dispatch ≠ .iot f b n o) (env : MsgEnv) :
    processMsg m iot env e = .ok ((.error, none), e) ↔
      handleDispatch m env dispatch e = .ok (.error, e) := by
  have hbind : processMsg m iot env =
      (do
        let status ← handleDispatch m env dispatch
        pure (status, none)) := by
    cases dispatch with
    | iot f b n o => exact absurd rfl (hiot f b n o)
    | dev | strgy | sess | data => simp only [processMsg, h]
  rw [hbind]
  simp only [Prog.bind_ok, Prog.pure_ok, Prod.mk.injEq, and_true]
  constructor
  · intro hx
    obtain ⟨status, e', hd, rfl, rfl⟩ := hx
    exact hd
  · intro hd
    exact ⟨.error, e, hd, rfl, rfl⟩

theorem iotSend_error_iff (present : Bool) (proto : IotProtoType) (hdr : IotMsgHeader)
    (addr : IotAddr) (iotData len : Nat) :
    iotSendToRemote present proto hdr addr iotData len = .error ↔
      ¬ (present = true ∧ iotAddrSize proto ≤ hdr.payloadLen.toNat ∧
        hdr.payloadLen.toNat ≤ iotMaxPayload proto) := by
  unfold iotSendToRemote
  cases present with
  | false => simp
  | true =>
    simp only [Bool.not_true, Bool.false_eq_true, if_false, true_and]
    split
    · rename_i hmax
      simp only [true_iff]
      omega
    · split
      · rename_i hmin
        simp only [true_iff]
        omega
      · simp only [reduceCtorEq, false_iff, not_not]
        omega

theorem iotAdmitted_iff {sessions : IotProtoType → Bool} {msgLen : UInt16} {hdr : IotMsgHeader}
    {proto : IotProtoType} (hp : IotProtoType.ofCode hdr.protoType = some proto) :
    (∀ proto', ¬ IotAdmitted sessions msgLen hdr proto') ↔
      ¬ IotAdmitted sessions msgLen hdr proto := by
  constructor
  · intro h
    exact h proto
  · intro h proto' hadm
    cases hp.symm.trans hadm.1
    exact h hadm

theorem iotMsgProcess_error_iff {msgLen : UInt16} {hdr : IotMsgHeader}
    (hr : IotMsgHeader.read m proxyMsgHdrSize = hdr) :
    backendProxyIotMsgProcess iot.sessions m msgLen proxyMsgHdrSize = .error ↔
      ∀ proto, ¬ IotAdmitted iot.sessions msgLen hdr proto := by
  cases hp : IotProtoType.ofCode hdr.protoType with
  | none =>
    simp only [backendProxyIotMsgProcess, hr, hp, true_iff]
    intro proto hadm
    cases hp.symm.trans hadm.1
  | some proto =>
    rw [iotAdmitted_iff hp]
    by_cases hl : msgLen.toNat < iotMsgHeaderSize + iotAddrSize proto
    · simp only [backendProxyIotMsgProcess, hr, hp, hl, if_true, true_iff]
      intro hadm
      exact Nat.not_lt.mpr hadm.2.1 hl
    · by_cases hs : Sends proto
      · rw [iotMsgProcess_eq hs hr hp (Nat.not_lt.mp hl), iotSend_error_iff]
        refine not_congr ⟨fun h => ⟨hp, Nat.not_lt.mp hl, h.1, fun _ => h.2⟩, fun h => ?_⟩
        exact ⟨h.2.2.1, h.2.2.2 hs⟩
      · have hvac : IotAdmitted iot.sessions msgLen hdr proto ↔ iot.sessions proto = true :=
          ⟨fun h => h.2.2.1, fun h => ⟨hp, Nat.not_lt.mp hl, h, fun hs' => absurd hs' hs⟩⟩
        rw [hvac]
        cases proto with
        | bluetooth | can | modbustcp => simp [Sends] at hs
        | zigbee | lora | powerlink =>
          simp only [backendProxyIotMsgProcess, hr, hp, hl, if_false]
          split <;> simp [*]

theorem sess_rejected_iff {frontend backend : UInt16}
    (hp : backendProxyMsgProcess m =
      backendProxySessMsgProcess frontend backend m proxyMsgHdrSize) :
    (∀ env, processMsg m iot env e = .ok ((.error, none), e)) ↔
      ¬ CreateCommand backend (SessMsgHeader.read m proxyMsgHdrSize) ∧
        (CloseMessage (SessMsgHeader.read m proxyMsgHdrSize) → NotFound e backend) ∧
        (CreateResponse backend (SessMsgHeader.read m proxyMsgHdrSize) →
          NoneWaiting e backend) := by
  have htaken : SessTaken frontend backend (SessMsgHeader.read m proxyMsgHdrSize) _
      (backendProxySessMsgProcess frontend backend m proxyMsgHdrSize) := sessMsgProcess_taken rfl
  generalize hdr_eq : SessMsgHeader.read m proxyMsgHdrSize = hdr at htaken ⊢
  rw [← hp] at htaken
  cases hd : backendProxyMsgProcess m with
  | none =>
    rw [hd] at htaken
    cases htaken with
    | refused command response close =>
      exact ⟨fun _ => ⟨command, fun h => absurd h close, fun h => absurd h response⟩,
        fun _ => processMsg_none hd⟩
  | some dispatch =>
    rw [hd] at htaken
    cases htaken with
    | create command whole =>
      refine ⟨fun h => ?_, fun h => absurd command h.1⟩
      have hsilent : ∀ env, backendProxySessMsgProcessActiveCreate frontend hdr m
          (proxyMsgHdrSize + sessMsgHeaderSize) env e = .ok (.error, e) :=
        fun env => (processMsg_error_iff hd (by simp) env).mp (h env)
      exact absurd hsilent (create_never_silent whole)
    | response response =>
      have hcmd : ¬ CreateCommand backend hdr := fun h => response.1 h.1
      have hclose : ¬ CloseMessage hdr := fun h => by cases response.2.1.symm.trans h.1
      rw [forall_congr' fun env => processMsg_error_iff hd (by simp) env]
      exact passive_rejects_iff.trans
        ⟨fun h => ⟨hcmd, fun hc => absurd hc hclose, fun _ => h⟩, fun h => h.2.2 response⟩
    | close close =>
      have hcmd : ¬ CreateCommand backend hdr := fun h => by cases close.1.symm.trans h.2.1
      have hresp : ¬ CreateResponse backend hdr := fun h => by cases close.1.symm.trans h.2.1
      rw [forall_congr' fun env => processMsg_error_iff hd (by simp) env]
      refine Iff.trans ⟨fun h env => ?_, fun h env => h env.delete⟩ (close_rejects_iff.trans
        ⟨fun h => ⟨hcmd, fun _ => h, fun hr => absurd hr hresp⟩, fun h => h.2.1 close⟩)
      exact h { goodMsgEnv with delete := env }
    | short command response close params =>
      refine ⟨fun _ => ⟨command, fun h => absurd h close, fun h => absurd h response⟩,
        fun _ env => (processMsg_error_iff hd (by simp) env).mpr ?_⟩
      simp only [handleDispatch, activeCreate_short params]
      rfl

/-- Nothing but an error comes of a message, whatever the system answers, exactly if it is
refused. -/
theorem rejected_iff :
    (∀ env, processMsg m iot env e = .ok ((.error, none), e)) ↔ Refused m e iot := by
  cases ht : ProxyMsgType.ofCode (ProxyMsgHeader.read m 0).proxyMsgType with
  | none =>
    simp only [Refused, ht, iff_true]
    exact processMsg_none (by simp [backendProxyMsgProcess, ht])
  | some t =>
    have hp := msgProcess_eq rfl ht
    cases t with
    | dev =>
      simp only [Refused, ht]
      by_cases hadmin : (ProxyMsgHeader.read m 0).frontendSessId ≠ proxyAdminSessionId ∨
          (ProxyMsgHeader.read m 0).backendSessId ≠ proxyAdminSessionId
      · simp only [hadmin, true_or, iff_true]
        exact processMsg_none (by rw [hp]; exact if_pos hadmin)
      · simp only [hadmin, false_or, if_false] at hp ⊢
        rcases devMsgProcess_taken (m := m) rfl with ⟨hc, handler, htaken⟩ | ⟨hc, hnone⟩
        · rw [htaken] at hp
          refine ⟨fun h => ?_, fun h => absurd hc h⟩
          have hh := (processMsg_error_iff hp (by simp) goodMsgEnv).mp (h goodMsgEnv)
          cases hh
        · rw [hnone] at hp
          exact ⟨fun _ => hc, fun _ => processMsg_none hp⟩
    | strgy =>
      simp only [Refused, ht]
      by_cases hadmin : (ProxyMsgHeader.read m 0).frontendSessId ≠ proxyAdminSessionId ∨
          (ProxyMsgHeader.read m 0).backendSessId ≠ proxyAdminSessionId
      · simp only [hadmin, true_or, iff_true]
        exact processMsg_none (by rw [hp]; exact if_pos hadmin)
      · simp only [hadmin, false_or, if_false] at hp ⊢
        rcases strgyMsgProcess_taken (m := m) rfl with ⟨hc, handler, htaken⟩ | ⟨hc, hnone⟩
        · rw [htaken] at hp
          refine ⟨fun h => ?_, fun h => absurd hc h⟩
          have hh := (processMsg_error_iff hp (by simp) goodMsgEnv).mp (h goodMsgEnv)
          cases hh
        · rw [hnone] at hp
          exact ⟨fun _ => hc, fun _ => processMsg_none hp⟩
    | sess =>
      simp only [Refused, ht]
      simp only at hp
      exact sess_rejected_iff hp
    | data =>
      simp only [Refused, ht]
      simp only at hp
      rw [← data_rejects_iff]
      exact forall_congr' fun env => processMsg_error_iff hp (by simp) env
    | iot =>
      simp only [Refused, ht]
      simp only at hp
      rw [← iotMsgProcess_error_iff (m := m) rfl]
      simp only [processMsg, hp]
      cases ho : backendProxyIotMsgProcess iot.sessions m (ProxyMsgHeader.read m 0).payloadLen
          proxyMsgHdrSize with
      | error => exact ⟨fun _ => rfl, fun _ _ => rfl⟩
      | accepted =>
        refine ⟨fun h => ?_, fun h => by cases h⟩
        cases h goodMsgEnv
      | send s =>
        refine ⟨fun h => ?_, fun h => by cases h⟩
        obtain ⟨hpair, -⟩ := Prog.pure_ok.mp (h goodMsgEnv)
        cases (Prod.mk.inj hpair).2

/-! Where the ranges end. -/

theorem sess_inside_iff {frontend backend : UInt16} {len : Nat} :
    (∀ r ∈ (proxyMsgHdrSize, sessMsgHeaderSize) ::
        sessRanges (backendProxySessMsgProcess frontend backend m proxyMsgHdrSize),
      r.1 + r.2 ≤ proxyMsgHdrSize + len) ↔
      sessMsgHeaderSize ≤ len ∧
        (CreateCommand backend (SessMsgHeader.read m proxyMsgHdrSize) →
          sessMsgHeaderSize + (SessMsgHeader.read m proxyMsgHdrSize).payloadLen.toNat ≤ len) := by
  have htaken : SessTaken frontend backend (SessMsgHeader.read m proxyMsgHdrSize) _
      (backendProxySessMsgProcess frontend backend m proxyMsgHdrSize) := sessMsgProcess_taken rfl
  generalize SessMsgHeader.read m proxyMsgHdrSize = hdr at htaken ⊢
  generalize backendProxySessMsgProcess frontend backend m proxyMsgHdrSize = d at htaken ⊢
  simp only [List.forall_mem_cons, Nat.add_le_add_iff_left]
  refine and_congr_right fun _ => ?_
  cases htaken with
  | create command whole =>
    simp only [sessRanges, whole, if_true, List.mem_singleton, forall_eq, command, forall_const,
      Nat.add_assoc, Nat.add_le_add_iff_left]
  | response response =>
    refine ⟨fun _ h => absurd h.1 response.1, fun _ r hr => ?_⟩
    cases hr
  | close close =>
    refine ⟨fun _ h => ?_, fun _ r hr => ?_⟩
    · cases close.1.symm.trans h.2.1
    · cases hr
  | short command response close params =>
    refine ⟨fun _ h => absurd h command, fun _ r hr => ?_⟩
    simp [sessRanges, params] at hr
  | refused command response close =>
    refine ⟨fun _ h => absurd h command, fun _ r hr => ?_⟩
    cases hr

theorem iotSend_inside_iff {sessions : IotProtoType → Bool} {payloadLen : UInt16}
    {hdr : IotMsgHeader} {proto : IotProtoType}
    (hp : IotProtoType.ofCode hdr.protoType = some proto) (hs : Sends proto)
    (hl : iotMsgHeaderSize + iotAddrSize proto ≤ payloadLen.toNat) :
    (∀ r ∈ iotSendRanges (sessions proto) proto hdr,
      r.1 + r.2 ≤ proxyMsgHdrSize + payloadLen.toNat) ↔
      (IotAdmitted sessions payloadLen hdr proto →
        iotMsgHeaderSize + iotAddrSize proto + handedLen proto hdr ≤ payloadLen.toNat) := by
  unfold iotSendRanges
  cases hpresent : sessions proto with
  | false => simp [IotAdmitted, hpresent]
  | true =>
    simp only [Bool.not_true, Bool.false_eq_true, if_false, List.forall_mem_cons]
    have hfirst : proxyMsgHdrSize + 8 + 2 ≤ proxyMsgHdrSize + payloadLen.toNat := by
      simp only [iotMsgHeaderSize] at hl
      omega
    by_cases hbad : hdr.payloadLen.toNat > iotMaxPayload proto ∨
        hdr.payloadLen.toNat < iotAddrSize proto
    · simp only [hbad, if_true, List.not_mem_nil, false_imp_iff, implies_true, and_true, hfirst,
        true_iff]
      intro hadm
      have hrange := hadm.2.2.2 hs
      omega
    · have hadm : IotAdmitted sessions payloadLen hdr proto :=
        ⟨hp, hl, hpresent, fun _ => by omega⟩
      simp only [hbad, if_false, List.forall_mem_cons, List.not_mem_nil, false_imp_iff,
        implies_true, and_true, hfirst, true_and, hadm, forall_const]
      omega

theorem iot_inside_iff {sessions : IotProtoType → Bool} {payloadLen : UInt16} :
    (∀ r ∈ iotRanges sessions m payloadLen, r.1 + r.2 ≤ proxyMsgHdrSize + payloadLen.toNat) ↔
      4 ≤ payloadLen.toNat ∧ ∀ proto, Sends proto →
        IotAdmitted sessions payloadLen (IotMsgHeader.read m proxyMsgHdrSize) proto →
          iotMsgHeaderSize + iotAddrSize proto +
            handedLen proto (IotMsgHeader.read m proxyMsgHdrSize) ≤ payloadLen.toNat := by
  unfold iotRanges
  simp only [List.forall_mem_cons, Nat.add_assoc, Nat.add_le_add_iff_left, Nat.reduceAdd]
  refine and_congr_right fun _ => ?_
  generalize IotMsgHeader.read m proxyMsgHdrSize = hdr
  cases hp : IotProtoType.ofCode hdr.protoType with
  | none =>
    refine ⟨fun _ proto _ hadm => ?_, fun _ r hr => by cases hr⟩
    cases hp.symm.trans hadm.1
  | some proto =>
    have hone : ∀ {Q : IotProtoType → Prop},
        (∀ proto', Sends proto' → IotAdmitted sessions payloadLen hdr proto' → Q proto') ↔
          (Sends proto → IotAdmitted sessions payloadLen hdr proto → Q proto) := by
      intro Q
      refine ⟨fun h => h proto, fun h proto' hs hadm => ?_⟩
      cases hp.symm.trans hadm.1
      exact h hs hadm
    rw [hone]
    by_cases hl : payloadLen.toNat < iotMsgHeaderSize + iotAddrSize proto
    · simp only [hl, if_true, List.not_mem_nil, false_imp_iff, implies_true, true_iff]
      intro _ hadm
      exact absurd hl (Nat.not_lt.mpr hadm.2.1)
    · by_cases hs : Sends proto
      · have hsend : proto = .bluetooth ∨ proto = .can ∨ proto = .modbustcp := hs
        simp only [hl, if_false, hsend, if_true, hs, forall_const]
        rw [iotSend_inside_iff hp hs (Nat.not_lt.mp hl)]
        simp only [Nat.add_assoc]
      · have hsend : ¬ (proto = .bluetooth ∨ proto = .can ∨ proto = .modbustcp) := hs
        simp [hl, hsend, hs]

theorem inside_iff :
    (∀ env, ∀ r ∈ readRanges m e iot env,
      r.1 + r.2 ≤ proxyMsgHdrSize + (ProxyMsgHeader.read m 0).payloadLen.toNat) ↔
      LengthsCover m iot := by
  cases ht : ProxyMsgType.ofCode (ProxyMsgHeader.read m 0).proxyMsgType with
  | none => simp [readRanges, LengthsCover, ht]
  | some t =>
    cases t with
    | dev | strgy =>
      simp only [readRanges, LengthsCover, ht]
      split
      · rename_i hadmin
        simp [hadmin]
      · rename_i hadmin
        simp only [List.mem_singleton, forall_eq, Nat.add_le_add_iff_left, hadmin, false_or]
        exact ⟨fun h => h goodMsgEnv, fun h _ => h⟩
    | sess =>
      simp only [readRanges, LengthsCover, ht]
      exact Iff.trans ⟨fun h => h goodMsgEnv, fun h _ => h⟩ sess_inside_iff
    | data =>
      simp only [readRanges, LengthsCover, ht, iff_true]
      intro env r hr
      split at hr
      · rw [List.mem_singleton] at hr
        subst r
        exact Nat.le_refl _
      · cases hr
    | iot =>
      simp only [readRanges, LengthsCover, ht]
      exact Iff.trans ⟨fun h => h goodMsgEnv, fun h _ => h⟩ iot_inside_iff

/-! Only a DATA message can lead out of the buffer: all other lengths are compared with a limit. -/

theorem sess_in_buffer {frontend backend : UInt16} :
    ∀ r ∈ sessRanges (backendProxySessMsgProcess frontend backend m proxyMsgHdrSize),
      r.1 + r.2 ≤ msgBufferSize := by
  have htaken : SessTaken frontend backend (SessMsgHeader.read m proxyMsgHdrSize) _
      (backendProxySessMsgProcess frontend backend m proxyMsgHdrSize) := sessMsgProcess_taken rfl
  generalize SessMsgHeader.read m proxyMsgHdrSize = hdr at htaken
  generalize backendProxySessMsgProcess frontend backend m proxyMsgHdrSize = d at htaken
  intro r hr
  cases htaken with
  | create command whole =>
    simp only [sessRanges, whole, if_true, List.mem_singleton] at hr
    subst r
    rcases whole with ⟨-, h10⟩ | ⟨-, h22⟩
    · rw [h10]
      decide
    · rw [h22]
      decide
  | response response => cases hr
  | close close => cases hr
  | short command response close params => simp [sessRanges, params] at hr
  | refused command response close => cases hr

theorem handedLen_le {proto : IotProtoType} {hdr : IotMsgHeader}
    (h : hdr.payloadLen.toNat ≤ iotMaxPayload proto) : handedLen proto hdr ≤ 253 := by
  have hmax : iotMaxPayload proto ≤ 253 := by cases proto <;> decide
  unfold handedLen
  split <;> omega

theorem iot_in_buffer {sessions : IotProtoType → Bool} {msgLen : UInt16} :
    ∀ r ∈ iotRanges sessions m msgLen, r.1 + r.2 ≤ msgBufferSize := by
  have hhdr : proxyMsgHdrSize = 8 := rfl
  have hiot : iotMsgHeaderSize = 12 := rfl
  have hbuffer : msgBufferSize = 4096 := rfl
  intro r hr
  simp only [iotRanges, iotSendRanges] at hr
  rcases List.mem_cons.mp hr with rfl | hr
  · decide
  split at hr
  · cases hr
  · rename_i proto _
    have haddr := iotAddrSize_le proto
    split at hr
    · cases hr
    split at hr
    · split at hr
      · cases hr
      rcases List.mem_cons.mp hr with rfl | hr
      · decide
      split at hr <;> rename_i hlen
      · cases hr
      have hhanded := handedLen_le (Nat.not_lt.mp fun h => hlen (.inl h))
      simp only [List.mem_cons, List.not_mem_nil, or_false] at hr
      rcases hr with rfl | rfl
      · dsimp only
        omega
      · dsimp only
        omega
    · cases hr

/-- Every part of the message read lies in the buffer exactly if the data does. -/
theorem ranges_in_buffer_iff {env : MsgEnv} :
    (∀ r ∈ readRanges m e iot env, r.1 + r.2 ≤ msgBufferSize) ↔ DataFits m e env := by
  cases ht : ProxyMsgType.ofCode (ProxyMsgHeader.read m 0).proxyMsgType with
  | none => simp [readRanges, DataFits, ht]
  | some t =>
    cases t with
    | dev | strgy =>
      simp only [readRanges, DataFits, ht, Option.some.injEq, reduceCtorEq, false_imp_iff, iff_true]
      intro r hr
      split at hr
      · cases hr
      · rw [List.mem_singleton] at hr
        subst r
        decide
    | sess =>
      simp only [readRanges, DataFits, ht, Option.some.injEq, reduceCtorEq, false_imp_iff, iff_true,
        List.forall_mem_cons]
      exact ⟨by decide, sess_in_buffer⟩
    | data =>
      simp only [readRanges, DataFits, ht, forall_const]
      cases hfound : e.lookup (ProxyMsgHeader.read m 0).backendSessId with
      | none => simp
      | some p =>
        cases env.segment with
        | false => simp
        | true => simp [msgBufferSize]
    | iot =>
      simp only [readRanges, DataFits, ht, Option.some.injEq, reduceCtorEq, false_imp_iff, iff_true]
      exact iot_in_buffer

/-! The ranges leave nothing out: the outcome depends on the outer header and on them only. -/

/-- Two memories agree on a range. -/
def Agree (m m' : Mem) (off len : Nat) : Prop := ∀ i < len, m (off + i) = m' (off + i)

variable {m' : Mem}

theorem Agree.u16At {off len : Nat} (h : Agree m m' off len) (k : Nat) (hk : k + 2 ≤ len) :
    Lib.u16At m (off + k) = Lib.u16At m' (off + k) := u16At_copied h k hk

theorem proxyMsgHeader_congr (h : Agree m m' 0 proxyMsgHdrSize) :
    ProxyMsgHeader.read m 0 = ProxyMsgHeader.read m' 0 := by
  have h0 := h 0 (by decide)
  have h1 := h 1 (by decide)
  simp only [ProxyMsgHeader.read, h.u16At 2 (by decide), h.u16At 4 (by decide),
    h.u16At 6 (by decide)]
  rw [Nat.zero_add] at h0 h1
  rw [h0, h1]

theorem devMsgHeader_congr (h : Agree m m' proxyMsgHdrSize devMsgHeaderSize) :
    DevMsgHeader.read m proxyMsgHdrSize = DevMsgHeader.read m' proxyMsgHdrSize := by
  have h0 := h.u16At 0 (by decide)
  rw [Nat.add_zero] at h0
  simp only [DevMsgHeader.read, h0, h.u16At 2 (by decide), h.u16At 4 (by decide),
    h.u16At 6 (by decide), h.u16At 8 (by decide)]

theorem sessMsgHeader_congr (h : Agree m m' proxyMsgHdrSize sessMsgHeaderSize) :
    SessMsgHeader.read m proxyMsgHdrSize = SessMsgHeader.read m' proxyMsgHdrSize := by
  have h0 := h.u16At 0 (by decide)
  rw [Nat.add_zero] at h0
  simp only [SessMsgHeader.read, h0, h.u16At 2 (by decide), h.u16At 4 (by decide),
    h.u16At 6 (by decide), h.u16At 8 (by decide)]

theorem addrOf_congr {proto : IotProtoType} {off : Nat} (hs : Sends proto)
    (h : Agree m m' off (iotAddrSize proto)) : addrOf proto m off = addrOf proto m' off := by
  rcases hs with heq | heq | heq
  · subst heq
    have hmac : load m off 18 = load m' off 18 :=
      load_congr fun i hi => h i (Nat.lt_of_lt_of_le hi (by decide))
    simp only [addrOf, IotBtAddr.read, hmac, h.u16At 18 (by decide)]
  · subst heq
    have h0 := h.u16At 0 (by decide)
    rw [Nat.add_zero] at h0
    simp only [addrOf, IotCanAddr.read, h0, u32At_copied h 2 (by decide), h 6 (by decide)]
  · subst heq
    have hip : load m off 4 = load m' off 4 :=
      load_congr fun i hi => h i (Nat.lt_of_lt_of_le hi (by decide))
    simp only [addrOf, IotModbusTcpAddr.read, hip, h.u16At 4 (by decide), h 6 (by decide),
      h.u16At 7 (by decide), h.u16At 9 (by decide)]

theorem iot_reads_only (sessions : IotProtoType → Bool) {msgLen : UInt16}
    (h : ∀ r ∈ iotRanges sessions m msgLen, Agree m m' r.1 r.2) :
    backendProxyIotMsgProcess sessions m msgLen proxyMsgHdrSize =
      backendProxyIotMsgProcess sessions m' msgLen proxyMsgHdrSize := by
  simp only [iotRanges, List.forall_mem_cons] at h
  obtain ⟨htype, h⟩ := h
  have hproto : (IotMsgHeader.read m proxyMsgHdrSize).protoType =
      (IotMsgHeader.read m' proxyMsgHdrSize).protoType := by
    have h0 := htype.u16At 0 (by decide)
    rwa [Nat.add_zero] at h0
  cases hp : IotProtoType.ofCode (IotMsgHeader.read m proxyMsgHdrSize).protoType with
  | none => simp only [backendProxyIotMsgProcess, ← hproto, hp]
  | some proto =>
    have hp' := hproto ▸ hp
    simp only [hp] at h
    by_cases hl : msgLen.toNat < iotMsgHeaderSize + iotAddrSize proto
    · simp only [backendProxyIotMsgProcess, hp, hp', hl, if_true]
    · by_cases hs : Sends proto
      · have hsend : proto = .bluetooth ∨ proto = .can ∨ proto = .modbustcp := hs
        simp only [hl, if_false, hsend, if_true, iotSendRanges] at h
        rw [iotMsgProcess_eq hs rfl hp (Nat.not_lt.mp hl),
          iotMsgProcess_eq hs rfl hp' (Nat.not_lt.mp hl)]
        cases hpresent : sessions proto with
        | false => rfl
        | true =>
          simp only [hpresent, Bool.not_true, Bool.false_eq_true, if_false,
            List.forall_mem_cons] at h
          obtain ⟨hlen, h⟩ := h
          have hpl : (IotMsgHeader.read m proxyMsgHdrSize).payloadLen =
              (IotMsgHeader.read m' proxyMsgHdrSize).payloadLen := by
            have h0 := hlen.u16At 0 (by decide)
            rwa [Nat.add_zero] at h0
          by_cases hbad : (IotMsgHeader.read m proxyMsgHdrSize).payloadLen.toNat >
                iotMaxPayload proto ∨
              (IotMsgHeader.read m proxyMsgHdrSize).payloadLen.toNat < iotAddrSize proto
          · have hrej : ∀ addr len, iotSendToRemote true proto
                (IotMsgHeader.read m proxyMsgHdrSize) addr
                (proxyMsgHdrSize + iotMsgHeaderSize) len = .error := by
              intro addr len
              rw [iotSend_error_iff]
              omega
            have hrej' : ∀ addr len, iotSendToRemote true proto
                (IotMsgHeader.read m' proxyMsgHdrSize) addr
                (proxyMsgHdrSize + iotMsgHeaderSize) len = .error := by
              intro addr len
              rw [iotSend_error_iff, ← hpl]
              omega
            rw [hrej, hrej']
          · simp only [hbad, if_false, List.forall_mem_cons] at h
            simp only [iotSendToRemote, handedLen, hpl, addrOf_congr hs h.1]
      · cases proto with
        | bluetooth | can | modbustcp => simp [Sends] at hs
        | zigbee | lora | powerlink =>
          simp only [backendProxyIotMsgProcess, hp, hp', hl, if_false]

theorem dispatch_reads_only {env : MsgEnv} (hhdr : Agree m m' 0 proxyMsgHdrSize)
    (h : ∀ r ∈ readRanges m e iot env, Agree m m' r.1 r.2) :
    backendProxyMsgProcess m = backendProxyMsgProcess m' := by
  have houter := proxyMsgHeader_congr hhdr
  cases ht : ProxyMsgType.ofCode (ProxyMsgHeader.read m 0).proxyMsgType with
  | none => simp only [backendProxyMsgProcess, ← houter, ht]
  | some t =>
    rw [msgProcess_eq rfl ht, msgProcess_eq houter.symm ht]
    cases t with
    | dev | strgy =>
      simp only [readRanges, ht] at h
      dsimp only
      split
      · rfl
      · rename_i hadmin
        rw [if_neg hadmin] at h
        have hinner := devMsgHeader_congr (h _ (List.mem_singleton.mpr rfl))
        simp only [backendProxyDevMsgProcess, backendProxyStrgyMsgProcess, hinner]
    | sess =>
      simp only [readRanges, ht, List.forall_mem_cons] at h
      simp only [backendProxySessMsgProcess, sessMsgHeader_congr h.1]
    | data | iot => rfl

theorem data_reads_only {backend : UInt16} {env : MsgEnv} {payload payload' : List UInt8}
    (h : ((e.lookup backend).isSome && env.segment) = true → payload = payload') :
    backendProxyDataMsgProcess backend payload env e =
      backendProxyDataMsgProcess backend payload' env e := by
  cases hsearch : highSpeedSearchSess backend env.touchesFreed e with
  | error halt =>
    unfold backendProxyDataMsgProcess
    rw [bind_halted hsearch, bind_halted hsearch]
  | ok r =>
    obtain ⟨found, e'⟩ := r
    obtain ⟨hfound, rfl⟩ := search_ok hsearch
    by_cases hread : ((e.lookup backend).isSome && env.segment) = true
    · rw [h hread]
    · simp only [backendProxyDataMsgProcess, bind, StateT.bind, hsearch, Except.bind]
      cases found with
      | none => rfl
      | some p =>
        rw [hfound] at hread
        simp only [Option.isSome_some, Bool.true_and] at hread
        simp only [hread, Bool.false_eq_true, if_false]

theorem create_reads_only {frontend : UInt16} {hdr : SessMsgHeader} {payload : Nat} {env : MsgEnv}
    (h : WholeParams hdr → Agree m m' payload hdr.payloadLen.toNat) :
    backendProxySessMsgProcessActiveCreate frontend hdr m payload env =
      backendProxySessMsgProcessActiveCreate frontend hdr m' payload env := by
  by_cases hwhole : WholeParams hdr
  · have hlen : 4 ≤ hdr.payloadLen.toNat := by
      rcases hwhole with ⟨-, h10⟩ | ⟨-, h22⟩
      · rw [h10]
        decide
      · rw [h22]
        decide
    have h0 := (h hwhole).u16At 0 (by omega)
    rw [Nat.add_zero] at h0
    rw [activeCreate_whole hwhole, activeCreate_whole hwhole, h0, (h hwhole).u16At 2 (by omega)]
  · rw [activeCreate_short hwhole, activeCreate_short hwhole]

/-- The message type behind a dispatch. -/
def dispatchType : Dispatch → ProxyMsgType
  | .dev .. => .dev
  | .strgy .. => .strgy
  | .sess .. => .sess
  | .data .. => .data
  | .iot .. => .iot

/-- The outer header alone decides which handler gets the message. -/
theorem dispatch_type {dispatch : Dispatch} (hp : backendProxyMsgProcess m = some dispatch) :
    ProxyMsgType.ofCode (ProxyMsgHeader.read m 0).proxyMsgType = some (dispatchType dispatch) := by
  cases ht : ProxyMsgType.ofCode (ProxyMsgHeader.read m 0).proxyMsgType with
  | none => simp [backendProxyMsgProcess, ht] at hp
  | some t =>
    have hstage := (msgProcess_eq rfl ht).symm.trans hp
    cases t with
    | data | iot =>
      cases hstage
      rfl
    | sess =>
      dsimp only at hstage
      have htaken : SessTaken (ProxyMsgHeader.read m 0).frontendSessId
          (ProxyMsgHeader.read m 0).backendSessId (SessMsgHeader.read m proxyMsgHdrSize) _
          (some dispatch) := hstage ▸ sessMsgProcess_taken rfl
      cases htaken <;> rfl
    | dev =>
      dsimp only at hstage
      split at hstage
      · cases hstage
      · rcases devMsgProcess_taken (m := m) rfl with ⟨-, handler, htaken⟩ | ⟨-, hnone⟩
        · cases htaken.symm.trans hstage
          rfl
        · cases hnone.symm.trans hstage
    | strgy =>
      dsimp only at hstage
      split at hstage
      · cases hstage
      · rcases strgyMsgProcess_taken (m := m) rfl with ⟨-, handler, htaken⟩ | ⟨-, hnone⟩
        · cases htaken.symm.trans hstage
          rfl
        · cases hnone.symm.trans hstage

/-- The parameters of a creation are among what is read. -/
theorem create_mem_ranges {frontend backend : UInt16} {hdr : SessMsgHeader} {payload : Nat}
    (hp : backendProxyMsgProcess m = some (.sess .activeCreate frontend backend hdr payload))
    (hwhole : WholeParams hdr) (env : MsgEnv) :
    (payload, hdr.payloadLen.toNat) ∈ readRanges m e iot env := by
  have ht := dispatch_type hp
  have hstage := (msgProcess_eq rfl ht).symm.trans hp
  dsimp only [dispatchType] at hstage ht
  simp [readRanges, ht, hstage, sessRanges, hwhole]

/-- Each handler of the engine reads only what lies in the ranges. -/
theorem handleDispatch_reads_only {env : MsgEnv} {dispatch : Dispatch}
    (hp : backendProxyMsgProcess m = some dispatch)
    (h : ∀ r ∈ readRanges m e iot env, Agree m m' r.1 r.2) :
    handleDispatch m env dispatch e = handleDispatch m' env dispatch e := by
  have ht := dispatch_type hp
  cases dispatch with
  | dev | strgy | iot => rfl
  | sess handler frontend backend hdr payload =>
    cases handler with
    | activeCreate =>
      simp only [handleDispatch]
      rw [create_reads_only fun hwhole => h _ (create_mem_ranges hp hwhole env)]
    | passiveCreate | close => rfl
  | data =>
    cases (msgProcess_eq rfl ht).symm.trans hp
    simp only [readRanges, ht, dispatchType] at h
    simp only [handleDispatch]
    refine data_reads_only fun hread => ?_
    rw [if_pos hread] at h
    exact load_congr (h _ (List.mem_singleton.mpr rfl))

/-- Two buffers with the same outer header that agree on the ranges are processed alike. -/
theorem processMsg_reads_only {env : MsgEnv} (hhdr : Agree m m' 0 proxyMsgHdrSize)
    (h : ∀ r ∈ readRanges m e iot env, Agree m m' r.1 r.2) :
    processMsg m iot env e = processMsg m' iot env e := by
  have hd := dispatch_reads_only hhdr h
  cases hp : backendProxyMsgProcess m with
  | none => rw [processMsg_none hp, processMsg_none (hd ▸ hp)]
  | some dispatch =>
    have hp' := hd ▸ hp
    have hhandled := handleDispatch_reads_only hp h
    cases dispatch with
    | iot frontend backend msgLen msg =>
      have ht := dispatch_type hp
      cases (msgProcess_eq rfl ht).symm.trans hp
      simp only [readRanges, ht, dispatchType] at h
      simp only [processMsg, hp, hp', iot_reads_only _ h]
    | dev | strgy | sess | data =>
      simp only [processMsg, hp, hp', bind, StateT.bind, hhandled]

end Messages

/-- The decoder stays inside the message exactly if the announced lengths cover each other, and a
message larger than the buffer is one that is refused anyway. -/
theorem decoder_stays_inside_iff (m : Mem) (e : Engine) (iot : IotEnv) :
    StaysInside m e iot ↔
      LengthsCover m iot ∧
        ((ProxyMsgHeader.read m 0).payloadLen.toNat ≤ proxyMsgMaxSize ∨ Refused m e iot) := by
  have hsize : proxyMsgHdrSize + (ProxyMsgHeader.read m 0).payloadLen.toNat ≤ msgBufferSize ↔
      (ProxyMsgHeader.read m 0).payloadLen.toNat ≤ proxyMsgMaxSize := Nat.add_le_add_iff_left
  rw [← inside_iff (e := e), ← hsize, ← rejected_iff]
  exact ⟨fun h => ⟨h.inside, h.bounded⟩, fun h => ⟨h.1, h.2⟩⟩

/-- A DATA message for the session with ID 1 that announces 65535 bytes. -/
def oversizedData : Mem :=
  Lib.store (fun _ => 0) 0
    (ProxyMsgHeader.bytes
      { version := 1, proxyMsgType := 3, frontendSessId := 7, backendSessId := 1,
        payloadLen := 0xFFFF })

/-- All of them are copied into a segment, far behind the end of the buffer. -/
theorem oversized_data_leaves_buffer :
    ¬ ∀ m e iot, StaysInside m e iot := by
  intro h
  obtain ⟨e, -, hview⟩ := reached_of_view (f := fun e => e.lookup 1)
    (show (run poolStep oneDevice [.createActive tcpRequest goodEnv]).toOption.map _ =
      some (some 0) by decide +kernel)
  rcases (h oversizedData e ⟨fun _ => false, fun _ => .ok⟩).bounded with hsize | hrejected
  · revert hsize
    decide
  · have hrefused := rejected_iff.mp hrejected
    have hnone : e.lookup 1 = none := hrefused.2
    rw [hview] at hnone
    cases hnone

end BackendProxy.Pool
