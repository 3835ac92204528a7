import BackendProxy.Wire.Message

namespace BackendProxy.Wire

open Lib

/-! `backend_proxy_msg_process` up to the call of a handler. -/

inductive SessHandler where
  | close
  | activeCreate
  | passiveCreate
  deriving DecidableEq, Repr

/-- The handler a message reaches, with its arguments. Pointers into the message are offsets. -/
inductive Dispatch where
  | dev (handler : DevMsgType) (hdr : DevMsgHeader) (payload : Nat)
  | strgy (handler : StrgyMsgType) (hdr : StrgyMsgHeader) (payload : Nat)
  | sess (handler : SessHandler) (frontend backend : UInt16) (hdr : SessMsgHeader) (payload : Nat)
  | data (frontend backend dataLen : UInt16) (payload : Nat)
  | iot (frontend backend msgLen : UInt16) (msg : Nat)
  deriving DecidableEq, Repr

/-- `PROXY_MSG_LEN_VALID` -/
def proxyMsgLenValid (len : Nat) : Bool := decide (1 ≤ len) || decide (len ≤ proxyMsgMaxSize)

/-- `APP_SESSION_ID_VALID` -/
def appSessionIdValid (id : UInt16) : Bool :=
  decide (id ≠ proxyAdminSessionId) || decide (id ≠ proxyHandoverSessionId)

/-- The length a table prescribes is known and is the declared one. -/
def corrLenOk (corrLen : Int) (payloadLen : UInt16) : Bool :=
  !(proxyMsgInvalidLen == corrLen || corrLen != payloadLen.toNat)

def backendProxyDevMsgProcess (m : Mem) (off : Nat) : Option Dispatch :=
  let hdr := DevMsgHeader.read m off
  if ActionType.ofCode hdr.actionType ≠ some .command then none
  else if hdr.version ≠ 1 then none
  else if !corrLenOk (devMsgPayloadLen hdr.msgType hdr.actionType) hdr.payloadLen then none
  else
    match DevMsgType.ofCode hdr.msgType with
    | some handler => some (.dev handler hdr (off + devMsgHeaderSize))
    | none => none

def backendProxyStrgyMsgProcess (m : Mem) (off : Nat) : Option Dispatch :=
  let hdr := DevMsgHeader.read m off
  if ActionType.ofCode hdr.actionType ≠ some .command then none
  else if hdr.version ≠ 1 then none
  else if !corrLenOk (strgyMsgPayloadLen hdr.msgType hdr.actionType) hdr.payloadLen then none
  else
    match StrgyMsgType.ofCode hdr.msgType with
    | some handler => some (.strgy handler hdr (off + devMsgHeaderSize))
    | none => none

def backendProxySessMsgProcess (frontend backend : UInt16) (m : Mem) (off : Nat) :
    Option Dispatch :=
  let hdr := SessMsgHeader.read m off
  let payload := off + sessMsgHeaderSize
  if ActionType.ofCode hdr.actionType = none then none
  else if hdr.version ≠ 1 then none
  else if !corrLenOk (sessMsgPayloadLen hdr.msgType hdr.actionType hdr.ipVersion) hdr.payloadLen
  then none
  else
    match SessMsgType.ofCode hdr.msgType with
    | some .create =>
      if backend ≠ proxyHandoverSessionId then
        -- an allocated backend ID belongs to a passive creation, answered by a response
        if ActionType.ofCode hdr.actionType ≠ some .response then none
        else some (.sess .passiveCreate frontend backend hdr payload)
      else some (.sess .activeCreate frontend backend hdr payload)
    | some .close => some (.sess .close frontend backend hdr payload)
    | none => none

def backendProxyMsgProcess (m : Mem) : Option Dispatch :=
  let hdr := ProxyMsgHeader.read m 0
  let frontend := hdr.frontendSessId
  let backend := hdr.backendSessId
  if (ProxyMsgType.ofCode hdr.proxyMsgType).isNone then none
  else if !proxyMsgLenValid hdr.payloadLen.toNat then none
  else
    match ProxyMsgType.ofCode hdr.proxyMsgType with
    | some .dev =>
      if frontend ≠ proxyAdminSessionId ∨ backend ≠ proxyAdminSessionId then none
      else backendProxyDevMsgProcess m proxyMsgHdrSize
    | some .strgy =>
      if frontend ≠ proxyAdminSessionId ∨ backend ≠ proxyAdminSessionId then none
      else backendProxyStrgyMsgProcess m proxyMsgHdrSize
    | some .sess => backendProxySessMsgProcess frontend backend m proxyMsgHdrSize
    | some .data =>
      if !appSessionIdValid frontend || !appSessionIdValid backend then none
      else some (.data frontend backend hdr.payloadLen proxyMsgHdrSize)
    | some .iot => some (.iot frontend backend hdr.payloadLen proxyMsgHdrSize)
    | none => none

/-- Both range checks are disjunctions that hold of everything. -/
@[simp] theorem proxyMsgLenValid_true (len : Nat) : proxyMsgLenValid len = true := by
  rcases Nat.lt_or_ge len 1 with h | h
  · simp [proxyMsgLenValid, proxyMsgMaxSize, show len ≤ 4088 by omega]
  · simp [proxyMsgLenValid, h]

@[simp] theorem appSessionIdValid_true (id : UInt16) : appSessionIdValid id = true := by
  simp only [appSessionIdValid, Bool.or_eq_true, decide_eq_true_eq]
  by_cases h : id = proxyAdminSessionId
  · right
    rw [h]
    decide
  · exact Or.inl h

theorem corrLenOk_iff (corrLen : Int) (payloadLen : UInt16) :
    corrLenOk corrLen payloadLen = true ↔ corrLen = payloadLen.toNat := by
  simp only [corrLenOk, proxyMsgInvalidLen, Bool.not_eq_true', Bool.or_eq_false_iff,
    beq_eq_false_iff_ne, bne_eq_false_iff_eq]
  omega

/-! When each stage of the decoder lets a message through. -/

section Stages

variable {m : Mem} {off : Nat} {frontend backend : UInt16}

theorem devMsgProcess_eq {hdr : DevMsgHeader} {handler : DevMsgType}
    (hr : DevMsgHeader.read m off = hdr) (ha : ActionType.ofCode hdr.actionType = some .command)
    (hv : hdr.version = 1) (hl : devMsgPayloadLen hdr.msgType hdr.actionType = hdr.payloadLen.toNat)
    (ht : DevMsgType.ofCode hdr.msgType = some handler) :
    backendProxyDevMsgProcess m off = some (.dev handler hdr (off + devMsgHeaderSize)) := by
  simp [backendProxyDevMsgProcess, hr, ha, hv, (corrLenOk_iff _ _).mpr hl, ht]

theorem strgyMsgProcess_eq {hdr : StrgyMsgHeader} {handler : StrgyMsgType}
    (hr : DevMsgHeader.read m off = hdr) (ha : ActionType.ofCode hdr.actionType = some .command)
    (hv : hdr.version = 1)
    (hl : strgyMsgPayloadLen hdr.msgType hdr.actionType = hdr.payloadLen.toNat)
    (ht : StrgyMsgType.ofCode hdr.msgType = some handler) :
    backendProxyStrgyMsgProcess m off = some (.strgy handler hdr (off + devMsgHeaderSize)) := by
  simp [backendProxyStrgyMsgProcess, hr, ha, hv, (corrLenOk_iff _ _).mpr hl, ht]

/-- A command that creates a session is let through for the handover ID only. -/
theorem sessMsgProcess_command {hdr : SessMsgHeader} {msgType : SessMsgType}
    (hr : SessMsgHeader.read m off = hdr) (ha : ActionType.ofCode hdr.actionType = some .command)
    (hv : hdr.version = 1)
    (hl : sessMsgPayloadLen hdr.msgType hdr.actionType hdr.ipVersion = hdr.payloadLen.toNat)
    (ht : SessMsgType.ofCode hdr.msgType = some msgType) :
    backendProxySessMsgProcess frontend backend m off =
      match msgType with
      | .close => some (.sess .close frontend backend hdr (off + sessMsgHeaderSize))
      | .create =>
        if backend = proxyHandoverSessionId then
          some (.sess .activeCreate frontend backend hdr (off + sessMsgHeaderSize))
        else none := by
  cases msgType with
  | close => simp [backendProxySessMsgProcess, hr, ha, hv, (corrLenOk_iff _ _).mpr hl, ht]
  | create =>
    by_cases hb : backend = proxyHandoverSessionId <;>
      simp [backendProxySessMsgProcess, hr, ha, hv, (corrLenOk_iff _ _).mpr hl, ht, hb]

theorem msgProcess_eq {hdr : ProxyMsgHeader} {t : ProxyMsgType}
    (hr : ProxyMsgHeader.read m 0 = hdr) (ht : ProxyMsgType.ofCode hdr.proxyMsgType = some t) :
    backendProxyMsgProcess m =
      match t with
      | .dev =>
        if hdr.frontendSessId ≠ proxyAdminSessionId ∨ hdr.backendSessId ≠ proxyAdminSessionId
        then none else backendProxyDevMsgProcess m proxyMsgHdrSize
      | .strgy =>
        if hdr.frontendSessId ≠ proxyAdminSessionId ∨ hdr.backendSessId ≠ proxyAdminSessionId
        then none else backendProxyStrgyMsgProcess m proxyMsgHdrSize
      | .sess => backendProxySessMsgProcess hdr.frontendSessId hdr.backendSessId m proxyMsgHdrSize
      | .data => some (.data hdr.frontendSessId hdr.backendSessId hdr.payloadLen proxyMsgHdrSize)
      | .iot =>
        some (.iot hdr.frontendSessId hdr.backendSessId hdr.payloadLen proxyMsgHdrSize) := by
  cases t <;> simp [backendProxyMsgProcess, hr, ht]

end Stages

end BackendProxy.Wire
