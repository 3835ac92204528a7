import BackendProxy.Queue.ShmQueue
import BackendProxy.Wire.Message

namespace BackendProxy.Wire

open Lib Queue

/-! `build_proxy_general_message` and the builders of the single message types. -/

/-- Both length checks of the inner builders, then the inner header and the payload. -/
def checkedBody (corrLen : Int) (declared : UInt16) (header payload : List UInt8) :
    Option (List UInt8) :=
  if payload.length ≠ toSizeT corrLen then none
  else if payload.length ≠ declared.toNat then none
  else some (header ++ payload)

def buildProxyDevMessage (hdr : DevMsgHeader) (payload : List UInt8) : Option (List UInt8) :=
  checkedBody (devMsgHeaderPayloadLen hdr) hdr.payloadLen
    { hdr with payloadLen := UInt16.ofNat payload.length }.bytes payload

def buildProxyStrgyMessage (hdr : StrgyMsgHeader) (payload : List UInt8) : Option (List UInt8) :=
  checkedBody (strgyMsgHeaderPayloadLen hdr) hdr.payloadLen
    { hdr with payloadLen := UInt16.ofNat payload.length }.bytes payload

def buildProxySessMessage (hdr : SessMsgHeader) (payload : List UInt8) : Option (List UInt8) :=
  checkedBody (sessMsgHeaderPayloadLen hdr) hdr.payloadLen hdr.bytes payload

def buildProxyDataMessage (payload : List UInt8) : Option (List UInt8) := some payload

/-- Size of the address structure of a protocol. -/
def iotAddrSize : IotProtoType → Nat
  | .bluetooth => 20
  | .can => 7
  | .zigbee => 11
  | .lora => 11
  | .powerlink => 10
  | .modbustcp => 11

/-- Address bytes put into the message: the structure, or less when the caller says so. -/
def iotAddrInfoLen (proto : IotProtoType) (iotAddrLen : UInt16) : Nat :=
  if 0 < iotAddrLen.toNat ∧ iotAddrLen.toNat < iotAddrSize proto then iotAddrLen.toNat
  else iotAddrSize proto

def buildProxyIotMessage (header : GeneralProxyMsgHeader) (payload : List UInt8) :
    Option (List UInt8) :=
  match IotProtoType.ofCode header.innerHeader.iotHdr.protoType with
  | none => none
  | some proto =>
    let addrInfoLen := iotAddrInfoLen proto header.iotAddrLen
    let hdr : IotMsgHeader :=
      { protoVer := 0, protoType := header.innerHeader.iotHdr.protoType, opcode := 0,
        devPortId := 0, payloadLen := UInt16.ofNat (payload.length + addrInfoLen), reserve := 0 }
    some (hdr.bytes ++ load header.addrInfo 0 addrInfoLen ++ payload)

/-- The body of the message, with the inner header length the outer header accounts for. -/
def buildBody (header : GeneralProxyMsgHeader) (payload : List UInt8) :
    Option (Nat × List UInt8) :=
  match ProxyMsgType.ofCode header.outerHeader.proxyMsgType with
  | some .dev =>
    (buildProxyDevMessage header.innerHeader.devHdr payload).map (devMsgHeaderSize, ·)
  | some .strgy =>
    (buildProxyStrgyMessage header.innerHeader.strgyHdr payload).map (devMsgHeaderSize, ·)
  | some .sess =>
    (buildProxySessMessage header.innerHeader.sessHdr payload).map (sessMsgHeaderSize, ·)
  | some .data => (buildProxyDataMessage payload).map (0, ·)
  | some .iot =>
    match IotProtoType.ofCode header.innerHeader.iotHdr.protoType with
    | none => none
    | some proto =>
      (buildProxyIotMessage header payload).map (iotMsgHeaderSize + iotAddrSize proto, ·)
  | none => none

/-- TX with the data region behind it. -/
structure TxQueue where
  queue : HyperampShmQueue
  region : DataRegion

/-- The buffer the allocation mode selects and what it does with the finished message. -/
inductive Outlet where
  | shared (slotFree : Bool)
  | caller (allocated : Bool)
  | ampqueue (queueReady : Bool) (enqueue : List UInt8 → HyperampStatus)

structure BuildResult where
  status : ProcessStatus
  message : List UInt8
  deriving DecidableEq, Repr

/-- Write the message over what the buffer held and take as many bytes as the lengths say. -/
def fillMessage (old : Mem) (header : GeneralProxyMsgHeader) (innerLen : Nat)
    (body payload : List UInt8) : List UInt8 :=
  let outer := { header.outerHeader with payloadLen := UInt16.ofNat (payload.length + innerLen) }
  load (store old 0 (outer.bytes ++ body)) 0 (payload.length + innerLen + proxyMsgHdrSize)

/-- `old` is what the selected buffer held before the call. -/
def buildProxyGeneralMessage (outlet : Outlet) (old : Mem) (header : GeneralProxyMsgHeader)
    (payload : List UInt8) : BuildResult :=
  match outlet with
  | .shared false | .caller false | .ampqueue false _ => { status := .error, message := [] }
  | .shared true | .caller true =>
    match buildBody header payload with
    | none => { status := .error, message := [] }
    | some (innerLen, body) =>
      { status := .ok, message := fillMessage old header innerLen body payload }
  | .ampqueue true enqueue =>
    match buildBody header payload with
    | none => { status := .error, message := [] }
    | some (innerLen, body) =>
      -- the global buffer is cleared first
      let message := fillMessage (fun _ => 0) header innerLen body payload
      { status := ofHyperamp (enqueue message), message }

theorem checkedBody_eq (corrLen : Int) (declared : UInt16) (inner payload : List UInt8) :
    checkedBody corrLen declared inner payload =
      if payload.length = toSizeT corrLen ∧ payload.length = declared.toNat then
        some (inner ++ payload)
      else none := by
  unfold checkedBody
  by_cases hcorr : payload.length = toSizeT corrLen
  · by_cases hdecl : payload.length = declared.toNat
    · rw [if_neg (not_not.mpr hcorr), if_neg (not_not.mpr hdecl), if_pos ⟨hcorr, hdecl⟩]
    · rw [if_neg (not_not.mpr hcorr), if_pos hdecl, if_neg (fun h => hdecl h.2)]
  · rw [if_pos hcorr, if_neg (fun h => hcorr h.1)]

theorem iotAddrSize_le (proto : IotProtoType) : iotAddrSize proto ≤ 20 := by
  cases proto <;> decide

theorem iotAddrInfoLen_le (proto : IotProtoType) (n : UInt16) :
    iotAddrInfoLen proto n ≤ iotAddrSize proto := by
  unfold iotAddrInfoLen
  split <;> omega

end BackendProxy.Wire
