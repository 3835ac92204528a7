import BackendProxy.Device.Ini
import BackendProxy.Device.Selector
import BackendProxy.Pool.Nodes

namespace BackendProxy.Device.NetDevices

open Lib Lib.Tailq Queue Pool

/-! The setup of the network devices as it is done: the fields of the engine are written and the
session nodes allocated one after the other, and an error takes back what it knows of. -/

def maxDevicePropertyNameLength : Nat := 8

/-- `sizeof(dev_pro_item)` -/
def devProItemSize : Nat := maxDevName + maxDevicePropertyNameLength

inductive AddressFamily where
  | inet
  | inet6

/-- How the calls made for one section end. `isIp` are the calls inside `DEV_IP_TYPE`, `malloc`
those for the session nodes. -/
structure SectionCalls where
  isIp : AddressFamily → CString → Bool
  inetPton : AddressFamily → CString → Option (List UInt8)
  openNamedNetns : CString → Int
  malloc : Nat → Bool

structure HighSpeedNetDevice where
  devId : Int32
  devType : HSNetDevType
  nsName : CString
  nsId : Int
  devStatus : HSNetDevStatus
  name : CString
  address : List UInt8
  tcpListeningPort : Int32
  tcpListener : Int32

/-- Zeroed memory. -/
def zeroDevice : HighSpeedNetDevice :=
  { devId := 0, devType := .traditionalEthernet, nsName := [], nsId := 0, devStatus := .inactive
    name := [], address := [], tcpListeningPort := 0, tcpListener := 0 }

section Section

variable (ini : Dictionary) (calls : SectionCalls) (devName : CString)

def devInt (key : String) : Int32 := ini.getint (snprintfKey devProItemSize devName key) (-1)

def devStr (key : String) : Option CString := ini.str (snprintfKey devProItemSize devName key)

def devIpType (ipAddr : CString) : IpType :=
  if calls.isIp .inet ipAddr then .ipv4
  else if calls.isIp .inet6 ipAddr then .ipv6
  else .nonIp

def readAddress (ipAddr : CString) : Except DevInitError (List UInt8) :=
  match devIpType calls ipAddr with
  | .nonIp => .error .invalidIpAddr
  | .ipv4 =>
    match calls.inetPton .inet ipAddr with
    | none => .error .invalidIpv4
    | some address => .ok address
  | .ipv6 =>
    match calls.inetPton .inet6 ipAddr with
    | none => .error .invalidIpv6
    | some address => .ok address

/-- The checks up to the status of the device, in their order. -/
def readSection : Except DevInitError HighSpeedNetDevice :=
  if devName.length > maxDevName then .error .nameTooLong
  else
    match devStr ini devName "ip_addr" with
    | none => .error .noIpAddr
    | some ipAddr =>
      match readAddress calls ipAddr with
      | .error err => .error err
      | .ok address =>
        if devInt ini devName "dev_id" = -1 then .error .noDevId
        else
          match HSNetDevType.ofInt (devInt ini devName "dev_type") with
          | none => .error .invalidDevType
          | some devType =>
            match HSNetDevStatus.ofInt (devInt ini devName "dev_status") with
            | none => .error .invalidDevStatus
            | some devStatus =>
              .ok
                { zeroDevice with
                  devId := devInt ini devName "dev_id"
                  devType
                  devStatus
                  name := devName.take (maxDevName - 1)
                  address }

def readNamespace : Except DevInitError (CString × Int) :=
  match devStr ini devName "ns_name" with
  | none => .error .noNsName
  | some nsName =>
    if calls.openNamedNetns nsName = -1 then .error .noNamespace
    else .ok (nsName, calls.openNamedNetns nsName)

def readTcpPort : Int32 :=
  if devInt ini devName "tcp_listening_port" > 0 then devInt ini devName "tcp_listening_port"
  else 0

end Section

/-- What the function works on: the mask of the engine, the device set, the session nodes, and which
of these were allocated and freed. -/
structure Setup where
  activeMask : UInt16
  set : Nat → HighSpeedNetDevice
  nodes : NodePool
  allocated : List NodePtr
  freed : List NodePtr

abbrev SetupM := Prog Setup Halt

/-- `TAILQ_FOREACH_SAFE` over a free queue, from the given node on. -/
def releaseNodes (d : Nat) : Nat → Option NodePtr → SetupM Unit
  | _, none => pure ()
  | 0, some _ => Prog.halt .endless
  | fuel + 1, some n => do
    let s ← get
    let next := s.nodes.links.next n
    let links ← Prog.ofOption .undefined (s.nodes.links.remove (d, .free) n)
    set { s with nodes := { s.nodes with links }, freed := s.freed ++ [n] }
    releaseNodes d fuel next

/-- A free queue never has more than `MAX_SESS_NODE_NUM` nodes. -/
def emptyFreeQueue (d : Nat) : SetupM Unit := do
  let s ← get
  releaseNodes d maxSessNodeNum (s.nodes.links.first (d, .free))

/-- The nodes of a device from the `k`-th on; a failure takes back the earlier ones. -/
def allocNodes (malloc : Nat → Bool) (d : Nat) : Nat → Nat → SetupM Bool
  | 0, _ => pure true
  | n + 1, k =>
    if malloc k then do
      let s ← get
      let sess := Function.update s.nodes.sess (d, k) none
      let links ← Prog.ofOption .undefined (s.nodes.links.insertTail (d, .free) (d, k))
      set { s with nodes := { links, sess }, allocated := s.allocated ++ [(d, k)] }
      allocNodes malloc d n (k + 1)
    else do
      emptyFreeQueue d
      pure false

/-- `1u << cnt` into a mask of 16 bits. -/
def markActive (d : Nat) (status : HSNetDevStatus) (mask : UInt16) : UInt16 :=
  if status = .active then mask ||| UInt16.ofNat (1 <<< d) else mask

/-- One round of the loop over the sections, up to the error if there is one. -/
def initDevice (ini : Dictionary) (calls : SectionCalls) (devName : CString) (d : Nat) :
    SetupM (Option DevInitError) :=
  match readSection ini calls devName with
  | .error err => pure (some err)
  | .ok dev => do
    modify fun s => { s with activeMask := markActive d dev.devStatus s.activeMask }
    match readNamespace ini calls devName with
    | .error err => pure (some err)
    | .ok (nsName, nsId) => do
      modify fun s =>
        { s with
          set := Function.update s.set d
            { dev with
              nsName, nsId, tcpListeningPort := readTcpPort ini devName, tcpListener := -1 }
          nodes := { s.nodes with
            links := ((s.nodes.links.init (d, .tcp)).init (d, .udp)).init (d, .free) } }
      let stocked ← allocNodes calls.malloc d maxSessNodeNum 0
      pure (if stocked then none else some .noSessionNode)

/-- The loop from section `d` on, and `cnt` behind it. -/
def initDevices (ini : Dictionary) (calls : Nat → SectionCalls) :
    Nat → List CString → SetupM (Option DevInitError × Nat)
  | d, [] => pure (none, d)
  | d, devName :: rest => do
    match ← initDevice ini (calls d) devName d with
    | some err => pure (some err, d)
    | none => initDevices ini calls (d + 1) rest

/-- The loop behind `hs_net_error`, over the devices in front of the one that failed. -/
def releaseDevices : Nat → SetupM Unit
  | 0 => pure ()
  | cnt + 1 => do
    releaseDevices cnt
    emptyFreeQueue cnt

/-- The fields of the engine; the set is `none` as long as the pointer is NULL. -/
structure NetEngine where
  devSet : Option (Nat → HighSpeedNetDevice)
  devNum : Nat
  activeMask : UInt16

/-- `failed` is `none` if the function returns `BACKEND_PROXY_PROCESS_OK`. -/
structure Outcome where
  failed : Option DevInitError
  eng : NetEngine
  setup : Setup

/-- Everything zeroed, the nodes not yet allocated. -/
def freshSetup (memory : NodePtr → Option SessPtr) (activeMask : UInt16) : Setup :=
  { activeMask, set := fun _ => zeroDevice, nodes := { links := Links.zero, sess := memory }
    allocated := [], freed := [] }

/-- The part from the first section on. -/
def initSections (ini : Dictionary) (calls : Nat → SectionCalls)
    (memory : NodePtr → Option SessPtr) (eng : NetEngine) : Except Halt Outcome :=
  match initDevices ini calls 0 ini.sections (freshSetup memory 0) with
  | .error h => .error h
  | .ok ((none, cnt), s) =>
    .ok
      { failed := none
        eng := { devSet := some s.set, devNum := cnt, activeMask := s.activeMask }
        setup := s }
  | .ok ((some err, cnt), s) =>
    match releaseDevices cnt s with
    | .error h => .error h
    | .ok (_, s) =>
      .ok { failed := some err, eng := { eng with activeMask := s.activeMask }, setup := s }

/-- `malloc` tells whether there is memory for the set, `load` what loading the file gives, `memory`
what the `sess` field of a node holds when it is allocated. -/
def engineInitHsNetDev (malloc : Bool) (load : Option Dictionary) (calls : Nat → SectionCalls)
    (memory : NodePtr → Option SessPtr) (eng : NetEngine) : Except Halt Outcome :=
  let setup := freshSetup memory eng.activeMask
  if malloc then
    match load with
    | none =>
      .ok { failed := none, eng := { eng with devSet := some setup.set, devNum := 0 }, setup }
    | some ini =>
      if ini.sections.length = 0 then .ok { failed := some .noDevice, eng, setup }
      else if ini.sections.length > maxHsDevNum then
        .ok { failed := some .tooManyDevices, eng, setup }
      else initSections ini calls memory eng
  else .ok { failed := some .noDeviceSet, eng, setup }

/-! What the function promises. -/

structure DeviceStocked (s : Setup) (d : Nat) : Prop where
  free : ∃ ns, Holds s.nodes.links (d, .free) ns ∧ ns.length = maxSessNodeNum ∧
    ∀ n ∈ ns, s.nodes.sess n = none ∧ n ∈ s.allocated ∧ n ∉ s.freed
  udp : Holds s.nodes.links (d, .udp) []
  tcp : Holds s.nodes.links (d, .tcp) []

/-- After `BACKEND_PROXY_PROCESS_OK`. -/
structure Completed (o : Outcome) : Prop where
  devSet : o.eng.devSet = some o.setup.set
  mask : ∀ i, o.eng.activeMask.toNat.testBit i = true ↔
    i < o.eng.devNum ∧ (o.setup.set i).devStatus = .active
  stocked : ∀ d < o.eng.devNum, DeviceStocked o.setup d

/-- After `BACKEND_PROXY_PROCESS_ERROR`. -/
structure Undone (before : NetEngine) (o : Outcome) : Prop where
  eng : o.eng = before
  freed : ∀ n ∈ o.setup.allocated, o.setup.freed.count n = 1

def AllOrNothing (before : NetEngine) (o : Outcome) : Prop :=
  match o.failed with
  | none => Completed o
  | some _ => Undone before o

/-! When it keeps the promise. -/

/-- The section is taken over without an error. -/
structure Accepted (ini : Dictionary) (calls : SectionCalls) (devName : CString) : Prop where
  section_ok : ∃ dev, readSection ini calls devName = .ok dev
  namespace_ok : ∃ ns, readNamespace ini calls devName = .ok ns
  malloc_ok : ∀ k < maxSessNodeNum, calls.malloc k = true

def AllAccepted (ini : Dictionary) (calls : Nat → SectionCalls) : Prop :=
  ∀ i devName, ini.sections[i]? = some devName → Accepted ini (calls i) devName

/-- All sections in front of section `i` are accepted, and section `i` itself gets as far as being
configured as active. -/
def Marked (ini : Dictionary) (calls : Nat → SectionCalls) (i : Nat) : Prop :=
  (∀ j < i, ∀ devName, ini.sections[j]? = some devName → Accepted ini (calls j) devName) ∧
    ∃ devName dev, ini.sections[i]? = some devName ∧
      readSection ini (calls i) devName = .ok dev ∧ dev.devStatus = .active

/-- The mask is written to the engine at once. It is right at the end only if no section fails, or
if it was what the sections read make of it anyway; without a file it is not written at all. -/
def MaskSettled (malloc : Bool) (load : Option Dictionary) (calls : Nat → SectionCalls)
    (eng : NetEngine) : Prop :=
  malloc = true →
    match load with
    | none => eng.activeMask = 0
    | some ini =>
      0 < ini.sections.length → ini.sections.length ≤ maxHsDevNum →
        AllAccepted ini calls ∨
          ∀ i, eng.activeMask.toNat.testBit i = true ↔ Marked ini calls i

end BackendProxy.Device.NetDevices
