import BackendProxy.Wire.Build
import BackendProxy.Wire.Decode

namespace BackendProxy.Wire

open Lib Queue

/-! What the builders write is what the decoders read. -/

theorem ProxyMsgHeader.read_store (m : Mem) (h : ProxyMsgHeader) (rest : List UInt8) :
    ProxyMsgHeader.read (store m 0 (h.bytes ++ rest)) 0 = h := by
  have hb : h.bytes ++ rest = [] ++ (h.bytes ++ rest) := rfl
  simp only [ProxyMsgHeader.read]
  rw [hb]
  have e0 := store_behind m [] (h.bytes ++ rest) 0 (x := h.version) rfl
  have e1 := store_behind m [] (h.bytes ++ rest) 1 (x := h.proxyMsgType) rfl
  have e2 := u16At_behind m [] (h.bytes ++ rest) _ 2 (x := h.frontendSessId) rfl
  have e4 := u16At_behind m [] (h.bytes ++ rest) _ 4 (x := h.backendSessId) rfl
  have e6 := u16At_behind m [] (h.bytes ++ rest) _ 6 (x := h.payloadLen) rfl
  simp only [List.length_nil, Nat.zero_add] at e0 e1 e2 e4 e6
  simp only [Nat.zero_add, e0, e1, e2, e4, e6]

theorem DevMsgHeader.read_store (m : Mem) (pre : List UInt8) (h : DevMsgHeader)
    (rest : List UInt8) :
    DevMsgHeader.read (store m 0 (pre ++ (h.bytes ++ rest))) pre.length = h := by
  have e0 := u16At_behind m pre (h.bytes ++ rest) _ 0 (x := h.version) rfl
  have e2 := u16At_behind m pre (h.bytes ++ rest) _ 2 (x := h.msgType) rfl
  have e4 := u16At_behind m pre (h.bytes ++ rest) _ 4 (x := h.msgId) rfl
  have e6 := u16At_behind m pre (h.bytes ++ rest) _ 6 (x := h.actionType) rfl
  have e8 := u16At_behind m pre (h.bytes ++ rest) _ 8 (x := h.payloadLen) rfl
  rw [Nat.add_zero] at e0
  simp only [DevMsgHeader.read, e0, e2, e4, e6, e8]

theorem SessMsgHeader.read_store (m : Mem) (pre : List UInt8) (h : SessMsgHeader)
    (rest : List UInt8) :
    SessMsgHeader.read (store m 0 (pre ++ (h.bytes ++ rest))) pre.length = h := by
  have e0 := u16At_behind m pre (h.bytes ++ rest) _ 0 (x := h.version) rfl
  have e2 := u16At_behind m pre (h.bytes ++ rest) _ 2 (x := h.msgType) rfl
  have e4 := u16At_behind m pre (h.bytes ++ rest) _ 4 (x := h.actionType) rfl
  have e6 := u16At_behind m pre (h.bytes ++ rest) _ 6 (x := h.ipVersion) rfl
  have e8 := u16At_behind m pre (h.bytes ++ rest) _ 8 (x := h.payloadLen) rfl
  rw [Nat.add_zero] at e0
  simp only [SessMsgHeader.read, e0, e2, e4, e6, e8]

theorem IotMsgHeader.read_store (m : Mem) (pre : List UInt8) (h : IotMsgHeader)
    (rest : List UInt8) :
    IotMsgHeader.read (store m 0 (pre ++ (h.bytes ++ rest))) pre.length = h := by
  have e0 := u16At_behind m pre (h.bytes ++ rest) _ 0 (x := h.protoVer) rfl
  have e2 := u16At_behind m pre (h.bytes ++ rest) _ 2 (x := h.protoType) rfl
  have e4 := u16At_behind m pre (h.bytes ++ rest) _ 4 (x := h.opcode) rfl
  have e6 := u16At_behind m pre (h.bytes ++ rest) _ 6 (x := h.devPortId) rfl
  have e8 := u16At_behind m pre (h.bytes ++ rest) _ 8 (x := h.payloadLen) rfl
  have e10 := u16At_behind m pre (h.bytes ++ rest) _ 10 (x := h.reserve) rfl
  rw [Nat.add_zero] at e0
  simp only [IotMsgHeader.read, e0, e2, e4, e6, e8, e10]

/-- The outer header as the builder writes it. -/
def sentHeader (header : GeneralProxyMsgHeader) (len : Nat) : ProxyMsgHeader :=
  { header.outerHeader with payloadLen := UInt16.ofNat len }

/-- A body as long as the lengths say leaves nothing of the buffer's old contents. -/
theorem fillMessage_exact (old : Mem) (header : GeneralProxyMsgHeader) {innerLen : Nat}
    {body payload : List UInt8} (h : body.length = payload.length + innerLen) :
    fillMessage old header innerLen body payload =
      (sentHeader header (payload.length + innerLen)).bytes ++ body := by
  have hl : ((sentHeader header (payload.length + innerLen)).bytes ++ body).length =
      payload.length + innerLen + proxyMsgHdrSize := by
    rw [List.length_append, ProxyMsgHeader.length_bytes, h]
    omega
  unfold fillMessage
  rw [← hl]
  exact (load_store _ _ _ _ (Nat.le_refl _)).trans (List.take_length)

/-- The length table of the decoder admits the payload, and the inner header declares it. -/
def Allowed (header : GeneralProxyMsgHeader) (payload : List UInt8) : Prop :=
  match ProxyMsgType.ofCode header.outerHeader.proxyMsgType with
  | some .dev =>
    let hdr := header.innerHeader.devHdr
    devMsgPayloadLen hdr.msgType hdr.actionType = payload.length ∧
      payload.length = hdr.payloadLen.toNat
  | some .strgy =>
    let hdr := header.innerHeader.strgyHdr
    strgyMsgPayloadLen hdr.msgType hdr.actionType = payload.length ∧
      payload.length = hdr.payloadLen.toNat
  | some .sess =>
    let hdr := header.innerHeader.sessHdr
    sessMsgPayloadLen hdr.msgType hdr.actionType hdr.ipVersion = payload.length ∧
      payload.length = hdr.payloadLen.toNat
  | some .data => True
  | _ => False

/-- The handler that serves a session command. -/
def sessCommandHandler : SessMsgType → SessHandler
  | .close => .close
  | .create => .activeCreate

/-- The handler of the message's type is reached with its IDs, inner header and payload. -/
def Delivered (header : GeneralProxyMsgHeader) (payload : List UInt8) (m : Mem) : Prop :=
  let frontend := header.outerHeader.frontendSessId
  let backend := header.outerHeader.backendSessId
  match ProxyMsgType.ofCode header.outerHeader.proxyMsgType with
  | some .dev =>
    let hdr := header.innerHeader.devHdr
    ∃ handler off, DevMsgType.ofCode hdr.msgType = some handler ∧
      backendProxyMsgProcess m = some (.dev handler hdr off) ∧
      load m off hdr.payloadLen.toNat = payload
  | some .strgy =>
    let hdr := header.innerHeader.strgyHdr
    ∃ handler off, StrgyMsgType.ofCode hdr.msgType = some handler ∧
      backendProxyMsgProcess m = some (.strgy handler hdr off) ∧
      load m off hdr.payloadLen.toNat = payload
  | some .sess =>
    let hdr := header.innerHeader.sessHdr
    ∃ msgType off, SessMsgType.ofCode hdr.msgType = some msgType ∧
      backendProxyMsgProcess m =
        some (.sess (sessCommandHandler msgType) frontend backend hdr off) ∧
      load m off hdr.payloadLen.toNat = payload
  | some .data =>
    ∃ len off, backendProxyMsgProcess m = some (.data frontend backend len off) ∧
      load m off len.toNat = payload
  | _ => False

section Decoding

variable {header : GeneralProxyMsgHeader} {payload : List UInt8} (rest : Mem) (len : Nat)

/-- The payload lies behind the outer and the inner header. -/
theorem load_payload (inner : List UInt8) (hi : inner.length = 10) :
    load (store rest 0 ((sentHeader header len).bytes ++ (inner ++ payload))) 18
      payload.length = payload := by
  have h := load_behind rest ((sentHeader header len).bytes ++ inner) payload []
  have hl : ((sentHeader header len).bytes ++ inner).length = 18 := by
    rw [List.length_append, ProxyMsgHeader.length_bytes, hi]
    rfl
  rw [hl, List.append_nil, List.append_assoc] at h
  exact h

end Decoding

section Building

variable {outlet : Outlet} {header : GeneralProxyMsgHeader} {payload : List UInt8} (old : Mem)

end Building

end BackendProxy.Wire
