import BackendProxy.Wire.RoundTrip

namespace BackendProxy.Wire

open Lib Queue

/-! IoT messages: the decoder behind `backend_proxy_iot_msg_process`, and what it makes of a
message of the builder. -/

structure IotBtAddr where
  mac : List UInt8
  port : UInt16
  deriving DecidableEq, Repr

structure IotCanAddr where
  port : UInt16
  canId : UInt32
  busId : UInt8
  deriving DecidableEq, Repr

structure IotModbusTcpAddr where
  ip : List UInt8
  port : UInt16
  unitId : UInt8
  regAddr : UInt16
  regNum : UInt16
  deriving DecidableEq, Repr

inductive IotAddr where
  | bluetooth (addr : IotBtAddr)
  | can (addr : IotCanAddr)
  | modbustcp (addr : IotModbusTcpAddr)
  deriving DecidableEq, Repr

def IotBtAddr.read (m : Mem) (off : Nat) : IotBtAddr :=
  { mac := load m off 18, port := u16At m (off + 18) }

def IotCanAddr.read (m : Mem) (off : Nat) : IotCanAddr :=
  { port := u16At m off, canId := u32At m (off + 2), busId := m (off + 6) }

def IotModbusTcpAddr.read (m : Mem) (off : Nat) : IotModbusTcpAddr :=
  { ip := load m off 4, port := u16At m (off + 4), unitId := m (off + 6),
    regAddr := u16At m (off + 7), regNum := u16At m (off + 9) }

/-- The argument of `send_to_remote`; `data` points into the message. -/
structure IotSend where
  addr : IotAddr
  data : Nat
  len : Nat
  deriving DecidableEq, Repr

inductive IotOutcome where
  | error
  | accepted
  | send (msg : IotSend)
  deriving DecidableEq, Repr

/-- Limit on address and payload together. -/
def iotMaxPayload : IotProtoType → Nat
  | .bluetooth => 244
  | .can => 64
  | .modbustcp => 253
  | _ => 0

/-- What the three sending handlers have in common. -/
def iotSendToRemote (present : Bool) (proto : IotProtoType) (hdr : IotMsgHeader) (addr : IotAddr)
    (iotData len : Nat) : IotOutcome :=
  if !present then .error
  else if hdr.payloadLen.toNat > iotMaxPayload proto then .error
  else if hdr.payloadLen.toNat < iotAddrSize proto then .error
  else .send { addr, data := iotData + iotAddrSize proto, len }

def backendProxyBluetoothMsgProcess (present : Bool) (m : Mem) (hdr : IotMsgHeader)
    (iotData : Nat) : IotOutcome :=
  iotSendToRemote present .bluetooth hdr (.bluetooth (IotBtAddr.read m iotData)) iotData
    (hdr.payloadLen.toNat - iotAddrSize .bluetooth)

def backendProxyCanMsgProcess (present : Bool) (m : Mem) (hdr : IotMsgHeader)
    (iotData : Nat) : IotOutcome :=
  iotSendToRemote present .can hdr (.can (IotCanAddr.read m iotData)) iotData
    (hdr.payloadLen.toNat - iotAddrSize .can)

/-- Here the length handed on still counts the address. -/
def backendProxyModbustcpMsgProcess (present : Bool) (m : Mem) (hdr : IotMsgHeader)
    (iotData : Nat) : IotOutcome :=
  iotSendToRemote present .modbustcp hdr (.modbustcp (IotModbusTcpAddr.read m iotData)) iotData
    hdr.payloadLen.toNat

/-- `sessions` tells which protocols have a session. -/
def backendProxyIotMsgProcess (sessions : IotProtoType → Bool) (m : Mem) (msgLen : UInt16)
    (msg : Nat) : IotOutcome :=
  let hdr := IotMsgHeader.read m msg
  let iotData := msg + iotMsgHeaderSize
  match IotProtoType.ofCode hdr.protoType with
  | none => .error
  | some proto =>
    if msgLen.toNat < iotMsgHeaderSize + iotAddrSize proto then .error
    else
      match proto with
      | .bluetooth => backendProxyBluetoothMsgProcess (sessions .bluetooth) m hdr iotData
      | .can => backendProxyCanMsgProcess (sessions .can) m hdr iotData
      | .modbustcp => backendProxyModbustcpMsgProcess (sessions .modbustcp) m hdr iotData
      | .zigbee => if sessions .zigbee then .accepted else .error
      | .lora => if sessions .lora then .accepted else .error
      | .powerlink => if sessions .powerlink then .accepted else .error

/-- The protocols whose handlers send to a remote device. -/
def Sends (proto : IotProtoType) : Prop :=
  proto = .bluetooth ∨ proto = .can ∨ proto = .modbustcp

/-- The address union read as the address of a protocol. -/
def addrOf (proto : IotProtoType) (m : Mem) (off : Nat) : IotAddr :=
  match proto with
  | .can => .can (IotCanAddr.read m off)
  | .modbustcp => .modbustcp (IotModbusTcpAddr.read m off)
  | _ => .bluetooth (IotBtAddr.read m off)

/-- The message in memory `m` carries the caller's header and reaches the remote device with the
caller's address and payload. -/
structure Carried (sessions : IotProtoType → Bool) (proto : IotProtoType)
    (header : GeneralProxyMsgHeader) (payload : List UInt8) (m : Mem) : Prop where
  outerLen : (ProxyMsgHeader.read m 0).payloadLen.toNat =
    iotMsgHeaderSize + (IotMsgHeader.read m proxyMsgHdrSize).payloadLen.toNat
  protoVer : (IotMsgHeader.read m proxyMsgHdrSize).protoVer = header.innerHeader.iotHdr.protoVer
  opcode : (IotMsgHeader.read m proxyMsgHdrSize).opcode = header.innerHeader.iotHdr.opcode
  devPortId : (IotMsgHeader.read m proxyMsgHdrSize).devPortId = header.innerHeader.iotHdr.devPortId
  sent : ∃ data, backendProxyIotMsgProcess sessions m (ProxyMsgHeader.read m 0).payloadLen
      proxyMsgHdrSize =
      .send { addr := addrOf proto header.addrInfo 0, data, len := payload.length } ∧
    load m data payload.length = payload

/-- The inner header the builder writes. -/
def sentIotHeader (header : GeneralProxyMsgHeader) (len : Nat) : IotMsgHeader :=
  { protoVer := 0, protoType := header.innerHeader.iotHdr.protoType, opcode := 0, devPortId := 0,
    payloadLen := UInt16.ofNat len, reserve := 0 }

section Reading

variable (rest : Mem) (outer : ProxyMsgHeader) (inner : IotMsgHeader) (addr tail : List UInt8)

end Reading

/-- Length each handler hands to its device. -/
def handedLen (proto : IotProtoType) (hdr : IotMsgHeader) : Nat :=
  if proto = .modbustcp then hdr.payloadLen.toNat
  else hdr.payloadLen.toNat - iotAddrSize proto

theorem iotMsgProcess_eq {sessions : IotProtoType → Bool} {m : Mem} {msgLen : UInt16} {msg : Nat}
    {proto : IotProtoType} {hdr : IotMsgHeader} (hs : Sends proto)
    (hr : IotMsgHeader.read m msg = hdr) (hp : IotProtoType.ofCode hdr.protoType = some proto)
    (hl : iotMsgHeaderSize + iotAddrSize proto ≤ msgLen.toNat) :
    backendProxyIotMsgProcess sessions m msgLen msg =
      iotSendToRemote (sessions proto) proto hdr (addrOf proto m (msg + iotMsgHeaderSize))
        (msg + iotMsgHeaderSize) (handedLen proto hdr) := by
  have hn := Nat.not_lt.mpr hl
  rcases hs with rfl | rfl | rfl
  · simp only [backendProxyIotMsgProcess, hr, hp, hn, if_false, backendProxyBluetoothMsgProcess,
      addrOf, handedLen]
    rfl
  · simp only [backendProxyIotMsgProcess, hr, hp, hn, if_false, backendProxyCanMsgProcess,
      addrOf, handedLen]
    rfl
  · simp only [backendProxyIotMsgProcess, hr, hp, hn, if_false, backendProxyModbustcpMsgProcess,
      addrOf, handedLen, if_true]

section Decoded

variable {sessions : IotProtoType → Bool} {proto : IotProtoType}
  {header : GeneralProxyMsgHeader} {payload pad : List UInt8} {n : Nat}

end Decoded

end BackendProxy.Wire
