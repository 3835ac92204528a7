import BackendProxy.Lib.Words
import Mathlib.Algebra.Ring.Int.Defs

namespace BackendProxy.Wire

open Lib

/-! Message formats: the outer header, the inner headers, and the payload length tables. -/

/-- Memory as seen from the first byte of a message. -/
abbrev Mem := Nat → UInt8

structure ProxyMsgHeader where
  version : UInt8
  proxyMsgType : UInt8
  frontendSessId : UInt16
  backendSessId : UInt16
  payloadLen : UInt16
  deriving DecidableEq, Repr

/-- Device and strategy messages share one header layout. -/
structure DevMsgHeader where
  version : UInt16
  msgType : UInt16
  msgId : UInt16
  actionType : UInt16
  payloadLen : UInt16
  deriving DecidableEq, Repr

abbrev StrgyMsgHeader := DevMsgHeader

structure SessMsgHeader where
  version : UInt16
  msgType : UInt16
  actionType : UInt16
  ipVersion : UInt16
  payloadLen : UInt16
  deriving DecidableEq, Repr

structure IotMsgHeader where
  protoVer : UInt16
  protoType : UInt16
  opcode : UInt16
  devPortId : UInt16
  payloadLen : UInt16
  reserve : UInt16
  deriving DecidableEq, Repr

/-- The union of the inner headers, word by word. -/
structure InnerHeader where
  w0 : UInt16
  w1 : UInt16
  w2 : UInt16
  w3 : UInt16
  w4 : UInt16
  w5 : UInt16
  deriving DecidableEq, Repr

def InnerHeader.devHdr (u : InnerHeader) : DevMsgHeader :=
  { version := u.w0, msgType := u.w1, msgId := u.w2, actionType := u.w3, payloadLen := u.w4 }

def InnerHeader.strgyHdr (u : InnerHeader) : StrgyMsgHeader := u.devHdr

def InnerHeader.sessHdr (u : InnerHeader) : SessMsgHeader :=
  { version := u.w0, msgType := u.w1, actionType := u.w2, ipVersion := u.w3, payloadLen := u.w4 }

def InnerHeader.iotHdr (u : InnerHeader) : IotMsgHeader :=
  { protoVer := u.w0, protoType := u.w1, opcode := u.w2, devPortId := u.w3, payloadLen := u.w4,
    reserve := u.w5 }

/-- `addrInfo` is the address union, by byte; `addrType` is only compared, never sent. -/
structure GeneralProxyMsgHeader where
  outerHeader : ProxyMsgHeader
  innerHeader : InnerHeader
  addrInfo : Mem
  iotAddrLen : UInt16

inductive ProxyMsgType where
  | dev
  | strgy
  | sess
  | data
  | iot
  deriving DecidableEq, Repr

def ProxyMsgType.ofCode (c : UInt8) : Option ProxyMsgType :=
  if c = 0 then some .dev
  else if c = 1 then some .strgy
  else if c = 2 then some .sess
  else if c = 3 then some .data
  else if c = 4 then some .iot
  else none

inductive ActionType where
  | command
  | response
  deriving DecidableEq, Repr

def ActionType.ofCode (c : UInt16) : Option ActionType :=
  if c = 0 then some .command else if c = 1 then some .response else none

inductive DevMsgType where
  | disable
  | enable
  | query
  deriving DecidableEq, Repr

def DevMsgType.ofCode (c : UInt16) : Option DevMsgType :=
  if c = 0 then some .disable else if c = 1 then some .enable
  else if c = 2 then some .query else none

inductive StrgyMsgType where
  | set
  | query
  deriving DecidableEq, Repr

def StrgyMsgType.ofCode (c : UInt16) : Option StrgyMsgType :=
  if c = 0 then some .set else if c = 1 then some .query else none

inductive SessMsgType where
  | close
  | create
  deriving DecidableEq, Repr

def SessMsgType.ofCode (c : UInt16) : Option SessMsgType :=
  if c = 0 then some .close else if c = 1 then some .create else none

inductive IotProtoType where
  | bluetooth
  | zigbee
  | can
  | lora
  | powerlink
  | modbustcp
  deriving DecidableEq, Repr

def IotProtoType.ofCode (c : UInt16) : Option IotProtoType :=
  if c = 1 then some .bluetooth
  else if c = 2 then some .zigbee
  else if c = 3 then some .can
  else if c = 4 then some .lora
  else if c = 5 then some .powerlink
  else if c = 6 then some .modbustcp
  else none

def sessIpv4Proto : UInt16 := 4
def sessIpv6Proto : UInt16 := 6
def proxyAdminSessionId : UInt16 := 0
def proxyHandoverSessionId : UInt16 := 0xFFFF
def proxyMsgHdrSize : Nat := 8
def proxyMsgMaxSize : Nat := 4088
def proxyMsgInvalidLen : Int := -1

/-- `DEV_MSG_PAYLOAD_LEN` -/
def devMsgPayloadLen (msgType actionType : UInt16) : Int :=
  match DevMsgType.ofCode msgType, ActionType.ofCode actionType with
  | some .enable, some .command => 2
  | some .enable, some .response => 2
  | some .disable, some .command => 2
  | some .disable, some .response => 2
  | some .query, some .command => 0
  | some .query, some .response => 4
  | _, _ => proxyMsgInvalidLen

/-- `STRGY_MSG_PAYLOAD_LEN` -/
def strgyMsgPayloadLen (msgType actionType : UInt16) : Int :=
  match StrgyMsgType.ofCode msgType, ActionType.ofCode actionType with
  | some .set, some .command => 2
  | some .set, some .response => 2
  | some .query, some .command => 0
  | some .query, some .response => 4
  | _, _ => proxyMsgInvalidLen

/-- `SESS_MSG_PAYLOAD_LEN` -/
def sessMsgPayloadLen (msgType actionType ipVersion : UInt16) : Int :=
  match SessMsgType.ofCode msgType, ActionType.ofCode actionType with
  | some .close, some .command => 0
  | some .close, some .response => 2
  | some .create, some .response => 2
  | some .create, some .command =>
    if ipVersion = sessIpv4Proto then 10
    else if ipVersion = sessIpv6Proto then 22
    else proxyMsgInvalidLen
  | _, _ => proxyMsgInvalidLen

/-- `DEV_MSG_HEADER_PAYLOAD_LEN` -/
def devMsgHeaderPayloadLen (h : DevMsgHeader) : Int := devMsgPayloadLen h.msgType h.actionType

/-- `STRGY_MSG_HEADER_PAYLOAD_LEN`, which reads the device table. -/
def strgyMsgHeaderPayloadLen (h : StrgyMsgHeader) : Int := devMsgPayloadLen h.msgType h.actionType

/-- `SESS_MSG_HEADER_PAYLOAD_LEN` -/
def sessMsgHeaderPayloadLen (h : SessMsgHeader) : Int :=
  sessMsgPayloadLen h.msgType h.actionType h.ipVersion

/-- Conversion of an `int` to `size_t`. -/
def toSizeT (n : Int) : Nat := (n % 2 ^ 64).toNat

/-! Layout in memory, all fields packed and little-endian. -/

def ProxyMsgHeader.bytes (h : ProxyMsgHeader) : List UInt8 :=
  [h.version, h.proxyMsgType] ++ le16 h.frontendSessId ++ le16 h.backendSessId ++
    le16 h.payloadLen

def ProxyMsgHeader.read (m : Mem) (off : Nat) : ProxyMsgHeader :=
  { version := m off, proxyMsgType := m (off + 1), frontendSessId := u16At m (off + 2),
    backendSessId := u16At m (off + 4), payloadLen := u16At m (off + 6) }

def DevMsgHeader.bytes (h : DevMsgHeader) : List UInt8 :=
  le16 h.version ++ le16 h.msgType ++ le16 h.msgId ++ le16 h.actionType ++ le16 h.payloadLen

def DevMsgHeader.read (m : Mem) (off : Nat) : DevMsgHeader :=
  { version := u16At m off, msgType := u16At m (off + 2), msgId := u16At m (off + 4),
    actionType := u16At m (off + 6), payloadLen := u16At m (off + 8) }

def SessMsgHeader.bytes (h : SessMsgHeader) : List UInt8 :=
  le16 h.version ++ le16 h.msgType ++ le16 h.actionType ++ le16 h.ipVersion ++ le16 h.payloadLen

def SessMsgHeader.read (m : Mem) (off : Nat) : SessMsgHeader :=
  { version := u16At m off, msgType := u16At m (off + 2), actionType := u16At m (off + 4),
    ipVersion := u16At m (off + 6), payloadLen := u16At m (off + 8) }

def IotMsgHeader.bytes (h : IotMsgHeader) : List UInt8 :=
  le16 h.protoVer ++ le16 h.protoType ++ le16 h.opcode ++ le16 h.devPortId ++
    le16 h.payloadLen ++ le16 h.reserve

def IotMsgHeader.read (m : Mem) (off : Nat) : IotMsgHeader :=
  { protoVer := u16At m off, protoType := u16At m (off + 2), opcode := u16At m (off + 4),
    devPortId := u16At m (off + 6), payloadLen := u16At m (off + 8),
    reserve := u16At m (off + 10) }

def devMsgHeaderSize : Nat := 10
def sessMsgHeaderSize : Nat := 10
def iotMsgHeaderSize : Nat := 12

@[simp] theorem ProxyMsgHeader.length_bytes (h : ProxyMsgHeader) :
    h.bytes.length = proxyMsgHdrSize := rfl

@[simp] theorem DevMsgHeader.length_bytes (h : DevMsgHeader) :
    h.bytes.length = devMsgHeaderSize := rfl

@[simp] theorem SessMsgHeader.length_bytes (h : SessMsgHeader) :
    h.bytes.length = sessMsgHeaderSize := rfl

@[simp] theorem IotMsgHeader.length_bytes (h : IotMsgHeader) :
    h.bytes.length = iotMsgHeaderSize := rfl

end BackendProxy.Wire
