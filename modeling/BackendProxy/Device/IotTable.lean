import BackendProxy.Device.Ini
import BackendProxy.Queue.ShmQueue
import BackendProxy.Wire.Message
import Mathlib.Data.List.Forall2
import Mathlib.Logic.Function.Basic

namespace BackendProxy.Device

open Queue Wire

/-! The table of IoT devices that `engine_init_iot_devices` fills from `iot_dev.ini`. -/

def maxIotDevNum : Nat := 16
def keySize : Nat := 128
def iotDevNameSize : Nat := 32
def configPathSize : Nat := 256

structure BluetoothDevAttr where
  btPort : UInt16
  btMac : List UInt8
  btVersion : UInt8
  connInterval : UInt16

structure CANDevAttr where
  canPort : UInt16
  canBitrate : UInt32
  canMode : UInt8
  canFilterId : UInt32

structure ZigbeeDevAttr where
  zigbeePanId : UInt16
  zigbeeChannel : UInt8
  zigbeeMac : List UInt8
  zigbeeRole : UInt8

structure LoRaDevAttr where
  loraPort : UInt16
  loraFreqBand : UInt8
  loraSf : UInt8
  loraCr : UInt8
  loraDevEui : UInt32

structure PowerLinkDevAttr where
  plkPort : UInt16
  plkMac : List UInt8
  plkNodeId : UInt16
  plkRole : UInt8
  plkCycleMs : UInt32
  plkRxPdoLen : UInt16
  plkTxPdoLen : UInt16

structure ModbusTCPDevAttr where
  mbPort : UInt16
  mbMac : List UInt8
  mbUnitId : UInt8
  mbProtoVer : UInt8
  mbTimeoutMs : UInt32
  mbRetryCnt : UInt8

/-- The union of the attributes; zeroed memory belongs to no protocol. -/
inductive IotDevSpecificAttr where
  | zero
  | bt (attr : BluetoothDevAttr)
  | can (attr : CANDevAttr)
  | zigbee (attr : ZigbeeDevAttr)
  | lora (attr : LoRaDevAttr)
  | plk (attr : PowerLinkDevAttr)
  | mb (attr : ModbusTCPDevAttr)

inductive IotDevStatus where
  | offline
  | online
  | error
  | configuring
  deriving DecidableEq, Repr

structure IotDevConfig where
  workingMode : Int32
  configPath : CString
  autoConnect : Int32

structure IotDevice where
  devId : Int32
  devType : Option IotProtoType
  nsName : Option CString
  devStatus : IotDevStatus
  name : CString
  config : IotDevConfig
  specificAttr : IotDevSpecificAttr
  sessId : Int32
  physicalPort : Int32
  fd : Int32

/-- Zeroed memory. The type is unknown. -/
def zeroIotDevice : IotDevice :=
  { devId := 0, devType := none, nsName := none, devStatus := .offline, name := []
    config := { workingMode := 0, configPath := [], autoConnect := 0 }, specificAttr := .zero
    sessId := 0, physicalPort := 0, fd := 0 }

section Parsers

variable (ini : Dictionary) (sec : CString)

/-- An integer entry of a section. -/
def entryInt (name : String) (notfound : Int32) : Int :=
  (ini.getint (snprintfKey keySize sec name) notfound).toInt

def entryStr (name : String) (notfound : String) : CString :=
  ini.getstring (snprintfKey keySize sec name) notfound.toList

/-- The address is not checked; bytes not converted stay zero. -/
def parseBluetoothAttr : Option BluetoothDevAttr :=
  let btPort := UInt16.ofInt (entryInt ini sec "bt_port" 0)
  let btVersion := UInt8.ofInt (entryInt ini sec "bt_version" 5)
  let connInterval := UInt16.ofInt (entryInt ini sec "conn_interval" 50)
  let mac := scanMac 6 (entryStr ini sec "bt_mac" "00:00:00:00:00:00")
  some { btPort, btMac := mac ++ List.replicate (6 - mac.length) 0, btVersion, connInterval }

def parseCanAttr : Option CANDevAttr :=
  let canPort := UInt16.ofInt (entryInt ini sec "can_port" 0)
  let canBitrate := UInt32.ofInt (entryInt ini sec "can_bitrate" 500000)
  if canBitrate ≠ 125000 ∧ canBitrate ≠ 250000 ∧ canBitrate ≠ 500000 ∧
      canBitrate ≠ 1000000 then none
  else
    let mode := entryStr ini sec "can_mode" "normal"
    let canMode : Option UInt8 :=
      if mode = "loopback".toList then some 2
      else if mode = "silent".toList then some 3
      else if mode = "normal".toList then some 1
      else none
    canMode.map fun canMode =>
      { canPort, canBitrate, canMode
        canFilterId := UInt32.ofInt (entryInt ini sec "can_filter_id" 0) }

/-- The channel is checked after it has been narrowed to a byte. -/
def parseZigbeeAttr : Option ZigbeeDevAttr :=
  let zigbeePanId := UInt16.ofInt (entryInt ini sec "zigbee_pan_id" 0x1234)
  let zigbeeChannel := UInt8.ofInt (entryInt ini sec "zigbee_channel" 18)
  if zigbeeChannel < 11 ∨ zigbeeChannel > 26 then none
  else
    let role := entryStr ini sec "zigbee_role" "coordinator"
    let zigbeeRole : Option UInt8 :=
      if role = "router".toList then some 2
      else if role = "enddevice".toList then some 3
      else if role = "coordinator".toList then some 1
      else none
    zigbeeRole.bind fun zigbeeRole =>
      let zigbeeMac := scanMac 8 (entryStr ini sec "zigbee_mac" "00:00:00:00:00:00:00:00")
      if zigbeeMac.length ≠ 8 then none
      else some { zigbeePanId, zigbeeChannel, zigbeeMac, zigbeeRole }

/-- Spreading factor and coding rate are checked after they have been narrowed to a byte. -/
def parseLoraAttr : Option LoRaDevAttr :=
  let loraPort := UInt16.ofInt (entryInt ini sec "lora_port" 2)
  let freq := entryStr ini sec "lora_freq_band" "EU868"
  let loraFreqBand : Option UInt8 :=
    if freq = "US915".toList then some 2
    else if freq = "CN470".toList then some 3
    else if freq = "EU868".toList then some 1
    else none
  loraFreqBand.bind fun loraFreqBand =>
    let loraSf := UInt8.ofInt (entryInt ini sec "lora_sf" 9)
    if loraSf < 7 ∨ loraSf > 12 then none
    else
      let loraCr := UInt8.ofInt (entryInt ini sec "lora_cr" 1)
      if loraCr < 1 ∨ loraCr > 4 then none
      else
        some
          { loraPort, loraFreqBand, loraSf, loraCr
            loraDevEui := UInt32.ofInt (entryInt ini sec "lora_dev_eui" 0) }

/-- The node ID is checked after it has been narrowed to 16 bits. -/
def parsePowerlinkAttr : Option PowerLinkDevAttr :=
  let plkPort := UInt16.ofInt (entryInt ini sec "plk_port" 0)
  let plkNodeId := UInt16.ofInt (entryInt ini sec "plk_node_id" 1)
  if plkNodeId < 1 ∨ plkNodeId > 240 then none
  else
    let role := entryStr ini sec "plk_role" "mn"
    let plkRole : Option UInt8 :=
      if role = "mn".toList then some 0 else if role = "cn".toList then some 1 else none
    plkRole.bind fun plkRole =>
      let plkCycleMs := UInt32.ofInt (entryInt ini sec "plk_cycle_ms" 1)
      if plkCycleMs < 1 ∨ plkCycleMs > 10 then none
      else
        let plkRxPdoLen := UInt16.ofInt (entryInt ini sec "plk_rx_pdo_len" 64)
        let plkTxPdoLen := UInt16.ofInt (entryInt ini sec "plk_tx_pdo_len" 64)
        let plkMac := scanMac 6 (entryStr ini sec "plk_mac" "00:00:00:00:00:00")
        if plkMac.length ≠ 6 then none
        else some { plkPort, plkMac, plkNodeId, plkRole, plkCycleMs, plkRxPdoLen, plkTxPdoLen }

/-- The unit ID is checked before it is narrowed; a timeout of zero and a negative retry count are
replaced. -/
def parseModbustcpAttr : Option ModbusTCPDevAttr :=
  let mbPort := UInt16.ofInt (entryInt ini sec "mb_port" 502)
  let unitIdVal := entryInt ini sec "mb_unit_id" 1
  if unitIdVal < 0 ∨ unitIdVal > 255 then none
  else
    let proto := entryStr ini sec "mb_proto_ver" "tcp"
    let mbProtoVer : Option UInt8 :=
      if proto = "rtu_over_tcp".toList ∨ proto = "rtu".toList then some 1
      else if proto = "tcp".toList then some 0
      else none
    mbProtoVer.bind fun mbProtoVer =>
      let timeout := UInt32.ofInt (entryInt ini sec "mb_timeout_ms" 1000)
      let mbTimeoutMs := if timeout = 0 then 1000 else timeout
      let retryVal := entryInt ini sec "mb_retry_cnt" 0
      let mbRetryCnt := UInt8.ofInt (if retryVal < 0 then 0 else retryVal)
      let mbMac := scanMac 6 (entryStr ini sec "mb_mac" "00:00:00:00:00:00")
      if mbMac.length ≠ 6 then none
      else
        some
          { mbPort, mbMac, mbUnitId := UInt8.ofInt unitIdVal, mbProtoVer, mbTimeoutMs, mbRetryCnt }

/-- The switch over the protocols. -/
def parseSpecificAttr : IotProtoType → Option IotDevSpecificAttr
  | .bluetooth => (parseBluetoothAttr ini sec).map .bt
  | .can => (parseCanAttr ini sec).map .can
  | .zigbee => (parseZigbeeAttr ini sec).map .zigbee
  | .lora => (parseLoraAttr ini sec).map .lora
  | .powerlink => (parsePowerlinkAttr ini sec).map .plk
  | .modbustcp => (parseModbustcpAttr ini sec).map .mb

def devTypeOf (s : CString) : Option IotProtoType :=
  if strcasecmp s "bluetooth" then some .bluetooth
  else if strcasecmp s "zigbee" then some .zigbee
  else if strcasecmp s "can" then some .can
  else if strcasecmp s "lora" then some .lora
  else if strcasecmp s "powerlink" then some .powerlink
  else if strcasecmp s "modbustcp" then some .modbustcp
  else none

def devStatusOf (s : CString) : IotDevStatus :=
  if strcasecmp s "online" then .online
  else if strcasecmp s "error" then .error
  else if strcasecmp s "configuring" then .configuring
  else .offline

def workingModeOf (s : CString) : Int32 :=
  if strcasecmp s "gateway" ∨ strcasecmp s "server" then 1 else 0

/-- `strdup` tells for each of the two calls whether there is memory. -/
def dupNsName (strdup : Bool × Bool) (s : CString) : Option CString :=
  if s = [] then if strdup.1 then some [] else none
  else if strdup.1 then some s
  else if strdup.2 then some []
  else none

def configuredOr (s : CString) (size : Nat) (other : String) : CString :=
  (if s = [] then other.toList else s).take (size - 1)

/-- What one section leaves in its entry of the table, and whether it counts as parsed. -/
def parseSection (strdup : Bool × Bool) : IotDevice × Bool :=
  let devId := ini.getint (snprintfKey keySize sec "dev_id") (-1)
  let dev := { zeroIotDevice with devId, sessId := -1, physicalPort := -1, fd := -1 }
  if devId = -1 then (dev, false)
  else
    match devTypeOf (entryStr ini sec "dev_type" "unknown") with
    | none => (dev, false)
    | some proto =>
      match parseSpecificAttr ini sec proto with
      | none => (zeroIotDevice, false)
      | some specificAttr =>
        ({ dev with
          devType := some proto
          nsName := dupNsName strdup (entryStr ini sec "ns_name" "")
          devStatus := devStatusOf (entryStr ini sec "dev_status" "offline")
          name :=
            configuredOr (entryStr ini sec "name" "") iotDevNameSize ("device_" ++ toString devId)
          config :=
            { workingMode := workingModeOf (entryStr ini sec "working_mode" "client")
              configPath :=
                configuredOr (entryStr ini sec "config_path" "") configPathSize
                  ("/etc/iot/dev_" ++ toString devId ++ ".conf")
              autoConnect := ini.getint (snprintfKey keySize sec "auto_connect") 0 }
          specificAttr
          physicalPort := ini.getint (snprintfKey keySize sec "physical_port") (-1) }, true)

end Parsers

/-- The fields of the engine; the set is absent until it is allocated. -/
structure IotEngine where
  iotDevSet : Option (Nat → IotDevice)
  iotDevNum : Nat

/-- `strncmp(section, "device_", 7) == 0` -/
def isDeviceSection (sec : CString) : Bool := sec.take 7 == "device_".toList

/-- The loop over the sections: the table, the devices parsed and the sections that failed. -/
def parseSections (ini : Dictionary) (strdup : CString → Bool × Bool) :
    List CString → (Nat → IotDevice) → Nat → Nat → (Nat → IotDevice) × Nat × Nat
  | [], set, parsed, failed => (set, parsed, failed)
  | sec :: secs, set, parsed, failed =>
    if parsed < maxIotDevNum then
      if isDeviceSection sec then
        let (dev, ok) := parseSection ini sec (strdup sec)
        let set := Function.update set parsed dev
        if ok then parseSections ini strdup secs set (parsed + 1) failed
        else parseSections ini strdup secs set parsed (failed + 1)
      else parseSections ini strdup secs set parsed failed
    else (set, parsed, failed)

/-- `calloc` tells whether there is memory for the set, `load` what loading the file gives. The set
stays where it is when the function fails. -/
def engineInitIotDevices (engine : Option IotEngine) (calloc : Bool) (load : Option Dictionary)
    (strdup : CString → Bool × Bool) : ProcessStatus × Option IotEngine :=
  match engine with
  | none => (.error, none)
  | some eng =>
    let set :=
      match eng.iotDevSet with
      | some set => some set
      | none => if calloc then some fun _ => zeroIotDevice else none
    match set with
    | none => (.error, some eng)
    | some set =>
      match load with
      | none => (.error, some { eng with iotDevSet := some set })
      | some ini =>
        let (set, parsed, failed) := parseSections ini strdup ini.sections set 0 0
        if parsed = 0 ∨ failed > 0 then (.error, some { eng with iotDevSet := some set })
        else (.ok, some { iotDevSet := some set, iotDevNum := parsed })

end BackendProxy.Device
