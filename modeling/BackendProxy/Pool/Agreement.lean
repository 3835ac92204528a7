import BackendProxy.Pool.Extent
import BackendProxy.Wire.Inspect

namespace BackendProxy.Pool

open Lib Queue Wire

/-! The decoder that acts on a message and the one that prints it. -/

/-- The decoder lets the message through to a handler, and an IoT handler takes its lengths.
`sessions` tells which protocols have a session. -/
def Accepted (sessions : IotProtoType → Bool) (m : Mem) : Prop :=
  match backendProxyMsgProcess m with
  | none => False
  | some (.iot _ _ msgLen msg) => backendProxyIotMsgProcess sessions m msgLen msg ≠ .error
  | some _ => True

/-- What is acted on is printed, and the printer keeps to the announced message. -/
structure DecodersAgree (sessions : IotProtoType → Bool) (m : Mem) : Prop where
  printed : Accepted sessions m → Printed m
  inside : PrintedInside m

/-- The session messages some handler is called for. -/
def SessHandled (backend : UInt16) (hdr : SessMsgHeader) : Prop :=
  SessWellFormed hdr ∧
    (backend ≠ proxyHandoverSessionId → SessMsgType.ofCode hdr.msgType = some .create →
      ActionType.ofCode hdr.actionType = some .response)

/-- The outer length covers what the printer asks for: of a message that is acted on the inner
header, in a session message and an IoT message also the payload that header announces; of every
IoT message the address and the data shown behind it. The IP version is one the printer knows. -/
def PrinterServed (sessions : IotProtoType → Bool) (m : Mem) : Prop :=
  let hdr := ProxyMsgHeader.read m 0
  let len := hdr.payloadLen.toNat
  match ProxyMsgType.ofCode hdr.proxyMsgType with
  | none => True
  | some .dev =>
    hdr.frontendSessId = proxyAdminSessionId → hdr.backendSessId = proxyAdminSessionId →
      DevCommand (DevMsgHeader.read m proxyMsgHdrSize) → devMsgHeaderSize ≤ len
  | some .strgy =>
    hdr.frontendSessId = proxyAdminSessionId → hdr.backendSessId = proxyAdminSessionId →
      StrgyCommand (DevMsgHeader.read m proxyMsgHdrSize) → devMsgHeaderSize ≤ len
  | some .sess =>
    let sess := SessMsgHeader.read m proxyMsgHdrSize
    SessHandled hdr.backendSessId sess →
      (sess.ipVersion = sessIpv4Proto ∨ sess.ipVersion = sessIpv6Proto) ∧
        sessMsgHeaderSize + sess.payloadLen.toNat ≤ len
  | some .data => True
  | some .iot =>
    let iot := IotMsgHeader.read m proxyMsgHdrSize
    ∀ proto, IotProtoType.ofCode iot.protoType = some proto →
      (IotAdmitted sessions hdr.payloadLen iot proto →
        iotMsgHeaderSize + iot.payloadLen.toNat ≤ len) ∧
      (iotMsgHeaderSize + iot.payloadLen.toNat ≤ len →
        iotMsgHeaderSize + iotAddrSize proto + min iot.payloadLen.toNat 16 ≤ len)

theorem sessMsgProcess_handled {frontend backend : UInt16} {m : Mem} {hdr : SessMsgHeader}
    (hr : SessMsgHeader.read m proxyMsgHdrSize = hdr) :
    (backendProxySessMsgProcess frontend backend m proxyMsgHdrSize).isSome = true ↔
      SessHandled backend hdr := by
  simp only [backendProxySessMsgProcess, hr, SessHandled, SessWellFormed]
  cases haction : ActionType.ofCode hdr.actionType with
  | none =>
    have hlen : sessMsgPayloadLen hdr.msgType hdr.actionType hdr.ipVersion = -1 := by
      cases htype : SessMsgType.ofCode hdr.msgType with
      | none => simp [sessMsgPayloadLen, htype, proxyMsgInvalidLen]
      | some t => cases t <;> simp [sessMsgPayloadLen, htype, haction, proxyMsgInvalidLen]
    simp only [if_true, Option.isSome_none, Bool.false_eq_true, hlen, false_iff]
    omega
  | some action =>
    by_cases hversion : hdr.version = 1
    · by_cases hlen : sessMsgPayloadLen hdr.msgType hdr.actionType hdr.ipVersion =
          hdr.payloadLen.toNat
      · have hok : corrLenOk hdr.payloadLen.toNat hdr.payloadLen = true :=
          (corrLenOk_iff _ _).mpr rfl
        cases htype : SessMsgType.ofCode hdr.msgType with
        | none =>
          simp only [sessMsgPayloadLen, htype, proxyMsgInvalidLen] at hlen
          omega
        | some msgType =>
          cases msgType with
          | close => simp [hversion, hok, hlen]
          | create =>
            by_cases hb : backend = proxyHandoverSessionId
            · simp [hversion, hok, hlen, hb]
            · cases action <;> simp [hversion, hok, hlen, hb]
      · have hbad : corrLenOk (sessMsgPayloadLen hdr.msgType hdr.actionType hdr.ipVersion)
            hdr.payloadLen = false := by
          rw [Bool.eq_false_iff]
          exact fun h => hlen ((corrLenOk_iff _ _).mp h)
        simp [hversion, hbad, hlen]
    · simp [hversion]

theorem devMsgProcess_isSome {m : Mem} :
    (backendProxyDevMsgProcess m proxyMsgHdrSize).isSome = true ↔
      DevCommand (DevMsgHeader.read m proxyMsgHdrSize) := by
  rcases devMsgProcess_taken (m := m) rfl with ⟨hc, handler, htaken⟩ | ⟨hc, hnone⟩
  · simp [hc, htaken]
  · simp [hc, hnone]

theorem strgyMsgProcess_isSome {m : Mem} :
    (backendProxyStrgyMsgProcess m proxyMsgHdrSize).isSome = true ↔
      StrgyCommand (DevMsgHeader.read m proxyMsgHdrSize) := by
  rcases strgyMsgProcess_taken (m := m) rfl with ⟨hc, handler, htaken⟩ | ⟨hc, hnone⟩
  · simp [hc, htaken]
  · simp [hc, hnone]

/-- The decoder passes a device or strategy message on from the admin session only. -/
theorem admin_isSome {hdr : ProxyMsgHeader} {d : Option Dispatch} :
    (if hdr.frontendSessId ≠ proxyAdminSessionId ∨ hdr.backendSessId ≠ proxyAdminSessionId
      then none else d).isSome = true ↔
      hdr.frontendSessId = proxyAdminSessionId ∧ hdr.backendSessId = proxyAdminSessionId ∧
        d.isSome = true := by
  split
  · rename_i h
    simp only [Option.isSome_none, Bool.false_eq_true, false_iff]
    intro hall
    rcases h with h | h
    · exact h hall.1
    · exact h hall.2.1
  · rename_i h
    rw [not_or, not_not, not_not] at h
    simp [h]

section Types

variable {sessions : IotProtoType → Bool} {m : Mem}

theorem only_iot {t : ProxyMsgType} {f b n : UInt16} {o : Nat}
    (ht : ProxyMsgType.ofCode (ProxyMsgHeader.read m 0).proxyMsgType = some t)
    (hd : backendProxyMsgProcess m = some (.iot f b n o)) : t = .iot := by
  rw [msgProcess_eq rfl ht] at hd
  cases t with
  | iot => rfl
  | data => cases hd
  | dev =>
    simp only at hd
    split at hd
    · cases hd
    · rcases devMsgProcess_taken (m := m) rfl with ⟨-, handler, htaken⟩ | ⟨-, hnone⟩
      · cases htaken.symm.trans hd
      · cases hnone.symm.trans hd
  | strgy =>
    simp only at hd
    split at hd
    · cases hd
    · rcases strgyMsgProcess_taken (m := m) rfl with ⟨-, handler, htaken⟩ | ⟨-, hnone⟩
      · cases htaken.symm.trans hd
      · cases hnone.symm.trans hd
  | sess =>
    have htaken : SessTaken (ProxyMsgHeader.read m 0).frontendSessId
        (ProxyMsgHeader.read m 0).backendSessId (SessMsgHeader.read m proxyMsgHdrSize) _ _ :=
      sessMsgProcess_taken rfl
    simp only at hd
    rw [hd] at htaken
    cases htaken

/-- Outside the IoT protocols a message is accepted with the call of its handler. -/
theorem accepted_iff {t : ProxyMsgType}
    (ht : ProxyMsgType.ofCode (ProxyMsgHeader.read m 0).proxyMsgType = some t) (hiot : t ≠ .iot) :
    Accepted sessions m ↔ (backendProxyMsgProcess m).isSome = true := by
  unfold Accepted
  split
  · rename_i hd
    simp [hd]
  · rename_i hd
    exact absurd (only_iot ht hd) hiot
  · rename_i hd
    simp [hd]

/-- An IoT message is accepted by the handler of a session. -/
theorem accepted_iot
    (ht : ProxyMsgType.ofCode (ProxyMsgHeader.read m 0).proxyMsgType = some .iot) :
    Accepted sessions m ↔
      ∃ proto, IotAdmitted sessions (ProxyMsgHeader.read m 0).payloadLen
        (IotMsgHeader.read m proxyMsgHdrSize) proto := by
  let iot : IotEnv := ⟨sessions, fun _ => .ok⟩
  have hrefused : backendProxyIotMsgProcess iot.sessions m (ProxyMsgHeader.read m 0).payloadLen
      proxyMsgHdrSize = .error ↔ _ := iotMsgProcess_error_iff rfl
  simp only [Accepted, msgProcess_eq rfl ht]
  rw [ne_eq, hrefused, not_forall]
  exact exists_congr fun _ => not_not

theorem bodyOf_eq {t : ProxyMsgType}
    (ht : ProxyMsgType.ofCode (ProxyMsgHeader.read m 0).proxyMsgType = some t) :
    bodyOf m =
      printBody (some t) (ProxyMsgHeader.read m 0).payloadLen.toNat proxyMsgHdrSize := by
  simp only [bodyOf, ht]

end Types

/-- The two decoders agree on a message exactly if its outer length serves the printer. -/
theorem decodersAgree_iff (sessions : IotProtoType → Bool) (m : Mem) :
    DecodersAgree sessions m ↔ PrinterServed sessions m := by
  have hsplit : DecodersAgree sessions m ↔
      (Accepted sessions m → Printed m) ∧ PrintedInside m :=
    ⟨fun h => ⟨h.printed, h.inside⟩, fun h => ⟨h.1, h.2⟩⟩
  rw [hsplit, printed_iff, printedInside_iff]
  cases ht : ProxyMsgType.ofCode (ProxyMsgHeader.read m 0).proxyMsgType with
  | none =>
    have hnone : backendProxyMsgProcess m = none := by simp [backendProxyMsgProcess, ht]
    simp [PrinterServed, Accepted, bodyOf, printBody, ht, hnone]
  | some t =>
    have hp := msgProcess_eq rfl ht
    cases t with
    | dev =>
      rw [accepted_iff ht (by decide), hp, admin_isSome, devMsgProcess_isSome, bodyOf_eq ht]
      simp only [printBody, printDevMsg_isSome, printDevMsg_below, PrinterServed, ht, and_true,
        and_imp]
    | strgy =>
      rw [accepted_iff ht (by decide), hp, admin_isSome, strgyMsgProcess_isSome, bodyOf_eq ht]
      simp only [printBody, printStrgyMsg_isSome, printStrgyMsg_below, PrinterServed, ht, and_true,
        and_imp]
    | sess =>
      rw [accepted_iff ht (by decide), hp, sessMsgProcess_handled rfl, bodyOf_eq ht]
      simp only [printBody, printSessMsg_below, PrinterServed, ht, and_true]
      exact forall_congr' fun hh => printSessMsg_isSome rfl hh.1.2
    | data =>
      rw [bodyOf_eq ht]
      simp [printBody, printDataMsg_isSome, printDataMsg_below, PrinterServed, ht]
    | iot =>
      rw [accepted_iot ht, bodyOf_eq ht]
      simp only [printBody, PrinterServed, ht]
      cases hproto : IotProtoType.ofCode (IotMsgHeader.read m proxyMsgHdrSize).protoType with
      | none =>
        simp only [printIotMsg_unknown rfl hproto, and_true, reduceCtorEq, false_implies,
          implies_true, iff_true]
        intro hadm
        obtain ⟨proto, hadm⟩ := hadm
        cases hproto.symm.trans hadm.1
      | some proto =>
        rw [printIotMsg_isSome rfl hproto, printIotMsg_below rfl hproto]
        simp only [Option.some.injEq, forall_eq']
        refine and_congr_left fun _ => ⟨fun h hadm => h ⟨proto, hadm⟩, fun h hadm => ?_⟩
        obtain ⟨proto', hadm⟩ := hadm
        cases hproto.symm.trans hadm.1
        exact h hadm

/-- A command that enables devices, whose outer header announces nothing. -/
def unannouncedEnable : Mem :=
  Lib.store (fun _ => 0) 0 [0, 0, 0, 0, 0, 0, 0, 0, 1, 0, 1, 0, 0, 0, 0, 0, 2, 0, 1, 0]

/-- A CAN message of one byte, with both lengths as the builder sets them. -/
def shortCan : Mem :=
  Lib.store (fun _ => 0) 0
    [0, 4, 0, 0, 0, 0, 20, 0, 1, 0, 3, 0, 0, 0, 0, 0, 8, 0, 0, 0, 0, 0, 35, 1, 0, 0, 0, 170]

/-- The first is acted on and not printed; the second is both, with bytes behind its end. -/
theorem decoders_disagree :
    (Accepted (fun _ => true) unannouncedEnable ∧ ¬ Printed unannouncedEnable) ∧
      (Accepted (fun _ => true) shortCan ∧ Printed shortCan ∧ ¬ PrintedInside shortCan) := by
  have hdev : backendProxyMsgProcess unannouncedEnable = some (.dev .enable
      { version := 1, msgType := 1, msgId := 0, actionType := 0, payloadLen := 2 } 18) := by
    decide +kernel
  have hcan : backendProxyMsgProcess shortCan = some (.iot 0 0 20 8) := by decide +kernel
  have hsent : backendProxyIotMsgProcess (fun _ => true) shortCan 20 8 ≠ .error := by
    decide +kernel
  refine ⟨⟨?_, by decide +kernel⟩, ?_, by decide +kernel, by decide +kernel⟩
  · simp [Accepted, hdev]
  · simpa [Accepted, hcan] using hsent

end BackendProxy.Pool
