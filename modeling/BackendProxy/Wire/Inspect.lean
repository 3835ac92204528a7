import BackendProxy.Lib.Peek
import BackendProxy.Wire.Build

namespace BackendProxy.Wire

open Lib

/-! `parse_proxy_protocol_and_print`, which both queue operations run on a message: what it prints
and which bytes it reads for it. -/

def ProxyMsgHeader.peek (off : Nat) : Peek UInt8 ProxyMsgHeader := do
  let version ← Peek.cell off
  let proxyMsgType ← Peek.cell (off + 1)
  let frontendSessId ← Peek.u16 (off + 2)
  let backendSessId ← Peek.u16 (off + 4)
  let payloadLen ← Peek.u16 (off + 6)
  pure { version, proxyMsgType, frontendSessId, backendSessId, payloadLen }

/-- What is printed behind the outer header. The parameters of a creation, the result of a response
and the address of an IoT device are given by their bytes. -/
inductive PrintedBody where
  | dev (msgType actionType msgId payloadLen : UInt16) (content : List UInt8)
      (result : Option (List UInt8))
  | strgy (msgType actionType msgId payloadLen : UInt16)
  | sess (msgType actionType ipVersion : UInt16) (content : List UInt8)
  | data (shown : List UInt8)
  | iot (protoType opcode devPortId payloadLen : UInt16) (address shown : List UInt8)
  deriving DecidableEq, Repr

/-- Of a content of `len` bytes at most 16 are shown. -/
def peekShown (off len : Nat) : Peek UInt8 (List UInt8) := Peek.block off (min len 16)

/-- `len` is the payload length of the outer header; the source compares it twice. -/
def printDevMsg (len payloadStart : Nat) : Peek UInt8 (Option PrintedBody) :=
  if len < devMsgHeaderSize then pure none
  else do
    let msgType ← Peek.u16 (payloadStart + 2)
    let actionType ← Peek.u16 (payloadStart + 6)
    let msgId ← Peek.u16 (payloadStart + 4)
    let payloadLen ← Peek.u16 (payloadStart + 8)
    if len < devMsgHeaderSize then pure none
    else do
      let contentLen := len - devMsgHeaderSize
      let content ← peekShown (payloadStart + devMsgHeaderSize) contentLen
      if ActionType.ofCode actionType = some .response ∧ 2 ≤ contentLen then do
        let result ← Peek.block (payloadStart + devMsgHeaderSize) 2
        pure (some (.dev msgType actionType msgId payloadLen content (some result)))
      else pure (some (.dev msgType actionType msgId payloadLen content none))

def printStrgyMsg (len payloadStart : Nat) : Peek UInt8 (Option PrintedBody) :=
  if len < devMsgHeaderSize then pure none
  else do
    let msgType ← Peek.u16 (payloadStart + 2)
    let actionType ← Peek.u16 (payloadStart + 6)
    let msgId ← Peek.u16 (payloadStart + 4)
    let payloadLen ← Peek.u16 (payloadStart + 8)
    pure (some (.strgy msgType actionType msgId payloadLen))

/-- The bytes printed behind the header of a session message; of an IPv6 address only the first
two. -/
def printSessContent (msgType actionType ipVersion : UInt16) (innerLen inner : Nat) :
    Peek UInt8 (Option (List UInt8)) :=
  if SessMsgType.ofCode msgType = some .create ∧ ActionType.ofCode actionType = some .command then
    if ipVersion = sessIpv4Proto then
      if innerLen < 10 then pure none
      else do
        let para ← Peek.block inner 10
        pure (some para)
    else if innerLen < 22 then pure none
    else do
      let para ← Peek.block inner 6
      pure (some para)
  else if ActionType.ofCode actionType = some .response then
    if innerLen < 2 then pure none
    else do
      let result ← Peek.block inner 2
      pure (some result)
  else pure (some [])

def printSessMsg (len payloadStart : Nat) : Peek UInt8 (Option PrintedBody) :=
  if len < sessMsgHeaderSize then pure none
  else do
    let ipVersion ← Peek.u16 (payloadStart + 6)
    if ipVersion ≠ sessIpv4Proto ∧ ipVersion ≠ sessIpv6Proto then pure none
    else do
      let msgType ← Peek.u16 (payloadStart + 2)
      let actionType ← Peek.u16 (payloadStart + 4)
      if len < sessMsgHeaderSize then pure none
      else do
        let content ← printSessContent msgType actionType ipVersion (len - sessMsgHeaderSize)
          (payloadStart + sessMsgHeaderSize)
        pure (content.map (.sess msgType actionType ipVersion))

def printDataMsg (len payloadStart : Nat) : Peek UInt8 (Option PrintedBody) := do
  let shown ← peekShown payloadStart len
  pure (some (.data shown))

/-- The address lies outside the length that is compared, and the data behind it as well. -/
def printIotMsg (len payloadStart : Nat) : Peek UInt8 (Option PrintedBody) :=
  if len < iotMsgHeaderSize then pure none
  else do
    let protoType ← Peek.u16 (payloadStart + 2)
    let opcode ← Peek.u16 (payloadStart + 4)
    let devPortId ← Peek.u16 (payloadStart + 6)
    let payloadLen ← Peek.u16 (payloadStart + 8)
    if len < iotMsgHeaderSize then pure none
    else
      match IotProtoType.ofCode protoType with
      | none => pure none
      | some proto =>
        if len < iotMsgHeaderSize + payloadLen.toNat then pure none
        else do
          let address ← Peek.block (payloadStart + iotMsgHeaderSize) (iotAddrSize proto)
          let shown ←
            peekShown (payloadStart + iotMsgHeaderSize + iotAddrSize proto) payloadLen.toNat
          pure (some (.iot protoType opcode devPortId payloadLen address shown))

/-- The switch over the message type. -/
def printBody (msgType : Option ProxyMsgType) (len payloadStart : Nat) :
    Peek UInt8 (Option PrintedBody) :=
  match msgType with
  | some .dev => printDevMsg len payloadStart
  | some .strgy => printStrgyMsg len payloadStart
  | some .sess => printSessMsg len payloadStart
  | some .data => printDataMsg len payloadStart
  | some .iot => printIotMsg len payloadStart
  | none => pure none

/-- `none` is `BACKEND_PROXY_PROCESS_ERROR`. -/
def parseProxyProtocolAndPrint : Peek UInt8 (Option (ProxyMsgHeader × PrintedBody)) := do
  let hdr ← ProxyMsgHeader.peek 0
  let body ← printBody (ProxyMsgType.ofCode hdr.proxyMsgType) hdr.payloadLen.toNat proxyMsgHdrSize
  pure (body.map fun body => (hdr, body))

/-- The message is printed to its end. -/
def Printed (m : Mem) : Prop := (parseProxyProtocolAndPrint.value m).isSome = true

/-- No byte behind the announced message is read for it. -/
def PrintedInside (m : Mem) : Prop :=
  parseProxyProtocolAndPrint.Below m
    (proxyMsgHdrSize + (ProxyMsgHeader.read m 0).payloadLen.toNat)

instance (m : Mem) : Decidable (Printed m) := inferInstanceAs (Decidable (_ = true))

instance (m : Mem) : Decidable (PrintedInside m) := inferInstanceAs (Decidable (Peek.Below _ _ _))

/-- What is printed is decided by the announced message alone. -/
theorem PrintedInside.value_eq {m m' : Mem} (h : PrintedInside m)
    (hm : ∀ i < proxyMsgHdrSize + (ProxyMsgHeader.read m 0).payloadLen.toNat, m i = m' i) :
    parseProxyProtocolAndPrint.value m' = parseProxyProtocolAndPrint.value m :=
  Peek.Below.value_eq h hm

/-! When a body is printed, and where the bytes read for it end. -/

section Bodies

variable {m : Mem} {len : Nat}

theorem peekShown_below (off len n : Nat) :
    (peekShown off len).Below m n ↔ len = 0 ∨ off + min len 16 ≤ n := by
  unfold peekShown
  rw [Peek.below_block]
  omega

theorem printDevMsg_isSome :
    ((printDevMsg len proxyMsgHdrSize).value m).isSome = true ↔ devMsgHeaderSize ≤ len := by
  by_cases h : len < devMsgHeaderSize
  · simp [printDevMsg, h]
  · simp only [printDevMsg, h, if_false, Peek.value_bind, Peek.value_ite, Peek.value_pure]
    split <;> simp [Nat.not_lt.mp h]

theorem printDevMsg_below : (printDevMsg len proxyMsgHdrSize).Below m (proxyMsgHdrSize + len) := by
  by_cases h : len < devMsgHeaderSize
  · simp [printDevMsg, h]
  · simp only [printDevMsg, h, if_false, Peek.below_bind, Peek.below_u16, peekShown_below,
      Peek.below_ite, Peek.below_block, Peek.below_pure, and_true]
    have hsize : devMsgHeaderSize = 10 := rfl
    refine ⟨by omega, by omega, by omega, by omega, by omega, ?_⟩
    split
    · omega
    · trivial

theorem printStrgyMsg_isSome :
    ((printStrgyMsg len proxyMsgHdrSize).value m).isSome = true ↔ devMsgHeaderSize ≤ len := by
  by_cases h : len < devMsgHeaderSize
  · simp [printStrgyMsg, h]
  · simp [printStrgyMsg, h, Nat.not_lt.mp h]

theorem printStrgyMsg_below :
    (printStrgyMsg len proxyMsgHdrSize).Below m (proxyMsgHdrSize + len) := by
  by_cases h : len < devMsgHeaderSize
  · simp [printStrgyMsg, h]
  · simp only [printStrgyMsg, h, if_false, Peek.below_bind, Peek.below_u16, Peek.below_pure,
      and_true]
    simp only [devMsgHeaderSize, Nat.not_lt] at h
    omega

/-- Behind the header of a message with the length its table prescribes, just that length is
asked for. -/
theorem printSessContent_isSome {hdr : SessMsgHeader} {innerLen inner : Nat}
    (hip : hdr.ipVersion = sessIpv4Proto ∨ hdr.ipVersion = sessIpv6Proto)
    (hlen : sessMsgPayloadLen hdr.msgType hdr.actionType hdr.ipVersion = hdr.payloadLen.toNat) :
    ((printSessContent hdr.msgType hdr.actionType hdr.ipVersion innerLen inner).value m).isSome =
      true ↔ hdr.payloadLen.toNat ≤ innerLen := by
  have hne : sessIpv6Proto ≠ sessIpv4Proto := by decide
  cases htype : SessMsgType.ofCode hdr.msgType with
  | none =>
    simp only [sessMsgPayloadLen, htype, proxyMsgInvalidLen] at hlen
    omega
  | some msgType =>
    cases haction : ActionType.ofCode hdr.actionType with
    | none =>
      simp only [sessMsgPayloadLen, htype, haction, proxyMsgInvalidLen] at hlen
      omega
    | some action =>
      cases action with
      | response =>
        have htwo : hdr.payloadLen.toNat = 2 := by
          cases msgType <;> simp only [sessMsgPayloadLen, htype, haction] at hlen <;> omega
        simp only [printSessContent, haction, htwo, reduceCtorEq, Option.some.injEq, and_false,
          if_false, if_true, Peek.value_ite, Peek.value_bind, Peek.value_pure]
        split <;> simp <;> omega
      | command =>
        cases msgType with
        | close =>
          simp only [sessMsgPayloadLen, htype, haction] at hlen
          simp only [printSessContent, htype, haction, reduceCtorEq, Option.some.injEq, false_and,
            if_false, Peek.value_pure, Option.isSome_some, true_iff]
          omega
        | create =>
          simp only [sessMsgPayloadLen, htype, haction] at hlen
          rcases hip with h4 | h6
          · simp only [h4, if_true] at hlen
            simp only [printSessContent, htype, haction, h4, and_self, if_true, Peek.value_ite,
              Peek.value_bind, Peek.value_pure]
            split <;> simp <;> omega
          · simp only [h6, hne, if_true, if_false] at hlen
            simp only [printSessContent, htype, haction, h6, hne, and_self, if_true, if_false,
              Peek.value_ite, Peek.value_bind, Peek.value_pure]
            split <;> simp <;> omega

theorem printSessContent_below (msgType actionType ipVersion : UInt16) (innerLen inner : Nat) :
    (printSessContent msgType actionType ipVersion innerLen inner).Below m (inner + innerLen) := by
  unfold printSessContent
  split
  · split
    · split
      · exact Peek.below_pure none
      · simp only [Peek.below_bind, Peek.below_block, Peek.below_pure, and_true]
        omega
    · split
      · exact Peek.below_pure none
      · simp only [Peek.below_bind, Peek.below_block, Peek.below_pure, and_true]
        omega
  · split
    · split
      · exact Peek.below_pure none
      · simp only [Peek.below_bind, Peek.below_block, Peek.below_pure, and_true]
        omega
    · exact Peek.below_pure (some [])

theorem printSessMsg_isSome {hdr : SessMsgHeader} (hr : SessMsgHeader.read m proxyMsgHdrSize = hdr)
    (hlen : sessMsgPayloadLen hdr.msgType hdr.actionType hdr.ipVersion = hdr.payloadLen.toNat) :
    ((printSessMsg len proxyMsgHdrSize).value m).isSome = true ↔
      (hdr.ipVersion = sessIpv4Proto ∨ hdr.ipVersion = sessIpv6Proto) ∧
        sessMsgHeaderSize + hdr.payloadLen.toNat ≤ len := by
  have hversion : u16At m (proxyMsgHdrSize + 6) = hdr.ipVersion := by rw [← hr]; rfl
  have htype : u16At m (proxyMsgHdrSize + 2) = hdr.msgType := by rw [← hr]; rfl
  have haction : u16At m (proxyMsgHdrSize + 4) = hdr.actionType := by rw [← hr]; rfl
  by_cases h : len < sessMsgHeaderSize
  · simp only [printSessMsg, h, if_true, Peek.value_pure, Option.isSome_none, Bool.false_eq_true,
      false_iff]
    omega
  · by_cases hip : hdr.ipVersion ≠ sessIpv4Proto ∧ hdr.ipVersion ≠ sessIpv6Proto
    · simp [printSessMsg, h, hversion, hip]
    · have hip' : hdr.ipVersion = sessIpv4Proto ∨ hdr.ipVersion = sessIpv6Proto := by
        rw [not_and_or, not_not, not_not] at hip
        exact hip
      simp only [printSessMsg, h, if_false, Peek.value_bind, Peek.value_u16, hversion,
        htype, haction, hip, Peek.value_pure, Option.isSome_map, printSessContent_isSome hip' hlen,
        hip', true_and]
      omega

theorem printSessMsg_below :
    (printSessMsg len proxyMsgHdrSize).Below m (proxyMsgHdrSize + len) := by
  by_cases h : len < sessMsgHeaderSize
  · simp [printSessMsg, h]
  · have hcontent := fun msgType actionType ipVersion =>
      printSessContent_below (m := m) msgType actionType ipVersion (len - sessMsgHeaderSize)
        (proxyMsgHdrSize + sessMsgHeaderSize)
    rw [Nat.add_assoc, Nat.add_sub_cancel' (Nat.not_lt.mp h)] at hcontent
    simp only [printSessMsg, h, if_false, Peek.below_bind, Peek.below_u16, Peek.below_ite,
      Peek.below_pure, hcontent, and_true]
    simp only [sessMsgHeaderSize, Nat.not_lt] at h
    refine ⟨by omega, ?_⟩
    split
    · trivial
    · omega

theorem printDataMsg_below :
    (printDataMsg len proxyMsgHdrSize).Below m (proxyMsgHdrSize + len) := by
  simp only [printDataMsg, Peek.below_bind, peekShown_below, Peek.below_pure, and_true]
  omega

theorem printDataMsg_isSome : ((printDataMsg len proxyMsgHdrSize).value m).isSome = true := rfl

theorem printIotMsg_isSome {hdr : IotMsgHeader} {proto : IotProtoType}
    (hr : IotMsgHeader.read m proxyMsgHdrSize = hdr)
    (hp : IotProtoType.ofCode hdr.protoType = some proto) :
    ((printIotMsg len proxyMsgHdrSize).value m).isSome = true ↔
      iotMsgHeaderSize + hdr.payloadLen.toNat ≤ len := by
  have hproto : u16At m (proxyMsgHdrSize + 2) = hdr.protoType := by rw [← hr]; rfl
  have hinner : u16At m (proxyMsgHdrSize + 8) = hdr.payloadLen := by rw [← hr]; rfl
  by_cases h : len < iotMsgHeaderSize
  · simp only [printIotMsg, h, if_true, Peek.value_pure, Option.isSome_none, Bool.false_eq_true,
      false_iff]
    omega
  · simp only [printIotMsg, h, if_false, Peek.value_bind, Peek.value_u16, hproto, hp, hinner,
      Peek.value_ite, Peek.value_pure]
    split
    · simp
      omega
    · simp
      omega

/-- A message of an unknown protocol is printed no further than its header. -/
theorem printIotMsg_unknown {hdr : IotMsgHeader} (hr : IotMsgHeader.read m proxyMsgHdrSize = hdr)
    (hp : IotProtoType.ofCode hdr.protoType = none) :
    (printIotMsg len proxyMsgHdrSize).Below m (proxyMsgHdrSize + len) := by
  have hproto : u16At m (proxyMsgHdrSize + 2) = hdr.protoType := by rw [← hr]; rfl
  by_cases h : len < iotMsgHeaderSize
  · simp [printIotMsg, h]
  · simp only [printIotMsg, h, if_false, Peek.below_bind, Peek.below_u16, Peek.value_u16, hproto,
      hp, Peek.below_pure, and_true]
    have hsize : iotMsgHeaderSize = 12 := rfl
    omega

/-- The data shown of a known protocol are taken behind the address. -/
theorem printIotMsg_below {hdr : IotMsgHeader} {proto : IotProtoType}
    (hr : IotMsgHeader.read m proxyMsgHdrSize = hdr)
    (hp : IotProtoType.ofCode hdr.protoType = some proto) :
    (printIotMsg len proxyMsgHdrSize).Below m (proxyMsgHdrSize + len) ↔
      (iotMsgHeaderSize + hdr.payloadLen.toNat ≤ len →
        iotMsgHeaderSize + iotAddrSize proto + min hdr.payloadLen.toNat 16 ≤ len) := by
  have hproto : u16At m (proxyMsgHdrSize + 2) = hdr.protoType := by rw [← hr]; rfl
  have hinner : u16At m (proxyMsgHdrSize + 8) = hdr.payloadLen := by rw [← hr]; rfl
  by_cases h : len < iotMsgHeaderSize
  · simp only [printIotMsg, h, if_true, Peek.below_pure, true_iff]
    omega
  · have hsize : iotMsgHeaderSize = 12 := rfl
    have haddr : iotAddrSize proto ≠ 0 := by cases proto <;> decide
    simp only [printIotMsg, h, if_false, Peek.below_bind, Peek.below_u16, Peek.value_u16, hproto,
      hp, hinner, Peek.below_ite, peekShown_below, Peek.below_block, Peek.below_pure, and_true]
    split
    · rename_i hshort
      exact ⟨fun _ hlong => absurd hlong (Nat.not_le.mpr hshort),
        fun _ => ⟨by omega, by omega, by omega, by omega, trivial⟩⟩
    · omega

end Bodies

section Messages

variable (m : Mem)

theorem ProxyMsgHeader.value_peek (off : Nat) :
    (ProxyMsgHeader.peek off).value m = ProxyMsgHeader.read m off := rfl

theorem ProxyMsgHeader.below_peek (off n : Nat) :
    (ProxyMsgHeader.peek off).Below m n ↔ off + proxyMsgHdrSize ≤ n := by
  simp only [ProxyMsgHeader.peek, Peek.below_bind, Peek.below_cell, Peek.below_u16,
    Peek.below_pure, and_true, proxyMsgHdrSize]
  omega

/-- The body printed for the message in memory. -/
def bodyOf : Peek UInt8 (Option PrintedBody) :=
  printBody (ProxyMsgType.ofCode (ProxyMsgHeader.read m 0).proxyMsgType)
    (ProxyMsgHeader.read m 0).payloadLen.toNat proxyMsgHdrSize

theorem printed_iff : Printed m ↔ ((bodyOf m).value m).isSome = true := by
  unfold Printed parseProxyProtocolAndPrint
  rw [Peek.value_bind, ProxyMsgHeader.value_peek, Peek.value_bind, Peek.value_pure,
    Option.isSome_map]
  rfl

theorem printedInside_iff :
    PrintedInside m ↔
      (bodyOf m).Below m (proxyMsgHdrSize + (ProxyMsgHeader.read m 0).payloadLen.toNat) := by
  unfold PrintedInside parseProxyProtocolAndPrint
  rw [Peek.below_bind, ProxyMsgHeader.value_peek, ProxyMsgHeader.below_peek, Peek.below_bind]
  have hhdr : 0 + proxyMsgHdrSize ≤
      proxyMsgHdrSize + (ProxyMsgHeader.read m 0).payloadLen.toNat := by omega
  simp only [hhdr, Peek.below_pure, and_true, true_and]
  rfl

end Messages

end BackendProxy.Wire
