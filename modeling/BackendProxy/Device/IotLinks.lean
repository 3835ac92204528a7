import BackendProxy.Device.IotSessions
import BackendProxy.Lib.Descriptors
import BackendProxy.Wire.Receive

namespace BackendProxy.Device

open Lib Queue Wire

/-! The initialisers of the IoT sessions, with the sockets they open and the Modbus contexts they
make. -/

/-- The calls of an initialiser that can fail. `ifUp` is the flag of the interface. -/
inductive LinkCall where
  | socket
  | bind
  | listen
  | connect
  | getFlags
  | setFlags
  | ifFlags
  | ifUp
  | ifIndex
  | modbusNew
  | modbusConnect
  deriving DecidableEq, Repr

structure LinkSocket where
  proto : IotProtoType
  bound : Bool
  listening : Bool
  connected : Bool
  nonblock : Bool
  deriving DecidableEq, Repr

/-- Open sockets by descriptor, and Modbus contexts that are not freed. -/
structure LinkKernel where
  fds : Descriptors LinkSocket
  ctxs : Descriptors Unit

/-- What an initialiser leaves in the session; a descriptor -1, a pointer NULL and a field it does
not set are `none`. -/
structure IotLink where
  workingMode : Option IotWorkMode
  devFd : Option Nat
  listenFd : Option Nat
  priData : Option Nat
  deriving DecidableEq, Repr

def iotWorkModeServer : Int32 := 1
def iotWorkModeClient : Int32 := 0

def LinkKernel.socket (k : LinkKernel) (proto : IotProtoType) : LinkKernel :=
  { k with
    fds := k.fds.opened
      { proto, bound := false, listening := false, connected := false, nonblock := false } }

def LinkKernel.close (k : LinkKernel) (sk : Nat) : LinkKernel :=
  { k with fds := k.fds.closed sk }

def LinkKernel.change (k : LinkKernel) (sk : Nat) (f : LinkSocket → LinkSocket) : LinkKernel :=
  { k with fds := k.fds.changed sk f }

section Initialisers

variable (call : LinkCall → Bool) (workingMode : Int32)

/-- The end of the Bluetooth initialiser: not to block, and where the socket goes. -/
def bluetoothNonblock (mode : IotWorkMode) (sk : Nat) (k : LinkKernel) :
    Option IotLink × LinkKernel :=
  if !call .getFlags then (none, k.close sk)
  else if !call .setFlags then (none, k.close sk)
  else
    let k := k.change sk fun s => { s with nonblock := true }
    match mode with
    | .client =>
      (some { workingMode := some mode, devFd := some sk, listenFd := none, priData := none }, k)
    | .server =>
      (some { workingMode := some mode, devFd := none, listenFd := some sk, priData := none }, k)

def engineInitBluetoothSession (k : LinkKernel) : Option IotLink × LinkKernel :=
  if !call .socket then (none, k)
  else
    let sk := k.fds.lowest
    let k := k.socket .bluetooth
    if !call .bind then (none, k.close sk)
    else
      let k := k.change sk fun s => { s with bound := true }
      if workingMode = iotWorkModeServer then
        if !call .listen then (none, k.close sk)
        else
          bluetoothNonblock call .server sk (k.change sk fun s => { s with listening := true })
      else if workingMode = iotWorkModeClient then
        if !call .connect then (none, k.close sk)
        else
          bluetoothNonblock call .client sk (k.change sk fun s => { s with connected := true })
      else (none, k.close sk)

def engineInitCanSession (k : LinkKernel) : Option IotLink × LinkKernel :=
  if !call .socket then (none, k)
  else
    let sk := k.fds.lowest
    let k := k.socket .can
    if !call .ifFlags then (none, k.close sk)
    else if !call .ifUp then (none, k.close sk)
    else if !call .ifIndex then (none, k.close sk)
    else if workingMode = iotWorkModeServer then
      if !call .bind then (none, k.close sk)
      else
        (some { workingMode := some .server, devFd := some sk, listenFd := none, priData := none },
          k.change sk fun s => { s with bound := true })
    else if workingMode = iotWorkModeClient then
      if !call .bind then (none, k.close sk)
      else
        let k := k.change sk fun s => { s with bound := true }
        if !call .getFlags then (none, k.close sk)
        else if !call .setFlags then (none, k.close sk)
        else
          (some { workingMode := some .client, devFd := some sk, listenFd := none
                  priData := none },
            k.change sk fun s => { s with nonblock := true })
    else (none, k.close sk)

def engineInitModbustcpSession (k : LinkKernel) : Option IotLink × LinkKernel :=
  if workingMode = iotWorkModeClient then
    if !call .modbusNew then (none, k)
    else
      let ctx := k.ctxs.lowest
      let k := { k with ctxs := k.ctxs.opened () }
      if !call .modbusConnect then (none, { k with ctxs := k.ctxs.closed ctx })
      else
        (some { workingMode := some .client, devFd := none, listenFd := none
                priData := some ctx }, k)
  else (none, k)

/-- The initialiser of a protocol. Those of ZigBee, LoRa and PowerLink only bind the device. -/
def initSession (proto : IotProtoType) (k : LinkKernel) : Option IotLink × LinkKernel :=
  match proto with
  | .bluetooth => engineInitBluetoothSession call workingMode k
  | .can => engineInitCanSession call workingMode k
  | .modbustcp => engineInitModbustcpSession call workingMode k
  | .zigbee | .lora | .powerlink =>
    (some { workingMode := none, devFd := none, listenFd := none, priData := none }, k)

end Initialisers

/-- For the `i`-th device, whether there is memory for a session, and which calls succeed. -/
structure LinkEnv where
  malloc : Nat → Bool
  call : Nat → LinkCall → Bool

/-- The sessions, with what their initialisers left in the objects and of the kernel. -/
structure LinkedSessions where
  sessions : IotSessions
  links : Nat → Option IotLink
  kernel : LinkKernel

/-- A case of the switch of `engine_init_iot_sessions`, with the initialiser it calls. -/
def LinkedSessions.createSession (env : LinkEnv) (i : Nat) (dev : IotDevice) (proto : IotProtoType)
    (st : LinkedSessions) : LinkedSessions :=
  if (st.sessions.sess proto).isSome ∨ env.malloc i = false then
    { st with
      sessions := st.sessions.createSession { malloc := env.malloc, init := fun _ _ => false } i
        proto }
  else
    let (link, kernel) := initSession (env.call i) dev.config.workingMode proto st.kernel
    { sessions := st.sessions.createSession
        { malloc := env.malloc, init := fun _ _ => link.isSome } i proto
      links := Function.update st.links st.sessions.next link
      kernel }

def LinkedSessions.initDevice (env : LinkEnv) (i : Nat) (dev : IotDevice) (st : LinkedSessions) :
    LinkedSessions :=
  if dev.devStatus = .online then
    match dev.devType with
    | some proto => st.createSession env i dev proto
    | none => st
  else st

/-- The loop, over the first `n` devices. -/
def linkDevices (env : LinkEnv) (set : Nat → IotDevice) (k : LinkKernel) : Nat → LinkedSessions
  | 0 => { sessions := noIotSessions, links := fun _ => none, kernel := k }
  | n + 1 => (linkDevices env set k n).initDevice env n (set n)

/-! What the sessions hold of the kernel. -/

/-- The socket of a session, whichever field it is in. -/
def IotLink.fd (link : IotLink) : Option Nat := link.devFd.or link.listenFd

/-- A socket as a session of the protocol needs it. That of a CAN session in server mode may
block. -/
structure LinkSocket.Serves (s : LinkSocket) (proto : IotProtoType) (link : IotLink) : Prop where
  owner : s.proto = proto
  bound : s.bound = true
  client : link.workingMode = some .client → link.devFd = link.fd ∧ s.nonblock = true
  connected : link.workingMode = some .client → proto = .bluetooth → s.connected = true
  listening : link.workingMode = some .server → proto = .bluetooth →
    link.listenFd = link.fd ∧ link.devFd = none ∧ s.listening = true ∧ s.nonblock = true

/-- What the session of a protocol holds is open. -/
structure LinkHolds (k : LinkKernel) (proto : IotProtoType) (link : IotLink) : Prop where
  socket : proto = .bluetooth ∨ proto = .can ↔ link.fd.isSome
  context : proto = .modbustcp ↔ link.priData.isSome
  mode : Sends proto → link.workingMode.isSome
  modbus : proto = .modbustcp → link.workingMode = some .client
  serves : ∀ n, link.fd = some n → ∃ s, k.fds.get n = some s ∧ s.Serves proto link
  live : ∀ n, link.priData = some n → k.ctxs.get n = some ()

/-- The session of a protocol and what its initialiser left in it. -/
def LinkedSessions.Has (st : LinkedSessions) (proto : IotProtoType) (link : IotLink) : Prop :=
  ∃ p, st.sessions.sess proto = some p ∧ st.links p = some link

/-- Of `start` nothing is lost, and what is open besides belongs to a session. -/
structure Ledger (start : LinkKernel) (st : LinkedSessions) : Prop where
  linked : ∀ proto p, st.sessions.sess proto = some p → ∃ link, st.links p = some link
  holds : ∀ proto link, st.Has proto link → LinkHolds st.kernel proto link
  fds : ∀ n, st.kernel.fds.get n = start.fds.get n ∨
    start.fds.get n = none ∧ ∃ proto link, st.Has proto link ∧ link.fd = some n
  ctxs : ∀ n, st.kernel.ctxs.get n = start.ctxs.get n ∨
    start.ctxs.get n = none ∧ ∃ link, st.Has .modbustcp link ∧ link.priData = some n

/-! The initialisers. -/

/-- When an initialiser succeeds. -/
def linkOk (call : LinkCall → Bool) (workingMode : Int32) : IotProtoType → Bool
  | .bluetooth =>
    call .socket && call .bind &&
      (if workingMode = iotWorkModeServer then call .listen
        else decide (workingMode = iotWorkModeClient) && call .connect) &&
      call .getFlags && call .setFlags
  | .can =>
    call .socket && call .ifFlags && call .ifUp && call .ifIndex && call .bind &&
      (decide (workingMode = iotWorkModeServer) ||
        decide (workingMode = iotWorkModeClient) && call .getFlags && call .setFlags)
  | .modbustcp =>
    decide (workingMode = iotWorkModeClient) && call .modbusNew && call .modbusConnect
  | .zigbee | .lora | .powerlink => true

/-- The same objects are open. -/
structure LinkKernel.Same (k k' : LinkKernel) : Prop where
  fds : ∀ n, k'.fds.get n = k.fds.get n
  ctxs : ∀ n, k'.ctxs.get n = k.ctxs.get n

/-- A session is linked, and nothing else is changed. -/
structure Links (k k' : LinkKernel) (proto : IotProtoType) (link : IotLink) : Prop where
  holds : LinkHolds k' proto link
  fds : ∀ n, k'.fds.get n = k.fds.get n ∨ k.fds.get n = none ∧ link.fd = some n
  ctxs : ∀ n, k'.ctxs.get n = k.ctxs.get n ∨
    k.ctxs.get n = none ∧ proto = .modbustcp ∧ link.priData = some n

/-- What an initialiser may do: nothing in the end, or link the session. -/
def InitSpec (k : LinkKernel) (proto : IotProtoType) (ok : Bool)
    (r : Option IotLink × LinkKernel) : Prop :=
  (ok = false ∧ r.1 = none ∧ k.Same r.2) ∨
    ∃ link, ok = true ∧ r.1 = some link ∧ Links k r.2 proto link

section Spec

variable {call : LinkCall → Bool} {workingMode : Int32} {k k' : LinkKernel} {proto : IotProtoType}
  {link : IotLink}

theorem same_refl (k : LinkKernel) : k.Same k := ⟨fun _ => rfl, fun _ => rfl⟩

/-- While an initialiser is at work, its socket is the only thing it has changed. -/
structure Working (k k' : LinkKernel) (s : LinkSocket) : Prop where
  fds : ∀ n, k'.fds.get n = if n = k.fds.lowest then some s else k.fds.get n
  ctxs : k'.ctxs = k.ctxs

theorem working_socket (k : LinkKernel) (proto : IotProtoType) :
    Working k (k.socket proto)
      { proto, bound := false, listening := false, connected := false, nonblock := false } where
  fds := fun n => k.fds.get_opened _ n
  ctxs := rfl

theorem Working.change {s : LinkSocket} (h : Working k k' s) (f : LinkSocket → LinkSocket) :
    Working k (k'.change k.fds.lowest f) (f s) where
  fds := by
    intro n
    change (k'.fds.changed k.fds.lowest f).get n = _
    rw [Descriptors.get_changed, h.fds, if_pos rfl, h.fds]
    split <;> rfl
  ctxs := h.ctxs

theorem Working.close {s : LinkSocket} (h : Working k k' s) :
    k.Same (k'.close k.fds.lowest) where
  fds := by
    intro n
    change (k'.fds.closed k.fds.lowest).get n = _
    rw [Descriptors.get_closed, h.fds]
    split
    · rename_i heq
      rw [heq, Descriptors.get_lowest]
    · rfl
  ctxs := by
    intro n
    change k'.ctxs.get n = _
    rw [h.ctxs]

/-- A failure closes the socket. -/
theorem Working.failed {s : LinkSocket} (h : Working k k' s) (proto : IotProtoType) :
    InitSpec k proto false (none, k'.close k.fds.lowest) := .inl ⟨rfl, rfl, h.close⟩

theorem Working.linked {s : LinkSocket} (h : Working k k' s) (hproto : proto = .bluetooth ∨
    proto = .can) (hfd : link.fd = some k.fds.lowest) (hctx : link.priData = none)
    (hmode : link.workingMode.isSome) (hserves : s.Serves proto link) :
    InitSpec k proto true (some link, k') := by
  refine .inr ⟨link, rfl, rfl, ?_, ?_, ?_⟩
  · constructor
    case socket => simp [hproto, hfd]
    case context =>
      rw [hctx]
      rcases hproto with rfl | rfl <;> simp
    case mode => exact fun _ => hmode
    case modbus =>
      intro hmodbus
      rcases hproto with rfl | rfl <;> cases hmodbus
    case serves =>
      intro n hn
      rw [hfd] at hn
      cases hn
      exact ⟨s, by rw [h.fds, if_pos rfl], hserves⟩
    case live =>
      intro n hn
      rw [hctx] at hn
      cases hn
  · intro n
    rw [h.fds]
    split
    · rename_i heq
      rw [heq]
      exact .inr ⟨Descriptors.get_lowest _, hfd⟩
    · exact .inl rfl
  · intro n
    rw [h.ctxs]
    exact .inl rfl

theorem bluetoothNonblock_spec {s : LinkSocket} (h : Working k k' s) (mode : IotWorkMode)
    (howner : s.proto = .bluetooth) (hbound : s.bound = true)
    (hclient : mode = .client → s.connected = true)
    (hserver : mode = .server → s.listening = true) :
    InitSpec k .bluetooth (call .getFlags && call .setFlags)
      (bluetoothNonblock call mode k.fds.lowest k') := by
  unfold bluetoothNonblock
  cases call .getFlags with
  | false => exact h.failed .bluetooth
  | true =>
    cases call .setFlags with
    | false => exact h.failed .bluetooth
    | true =>
      have hdone := h.change fun s => { s with nonblock := true }
      cases mode with
      | client =>
        refine hdone.linked (.inl rfl) rfl rfl rfl ⟨howner, hbound, ?_, ?_, ?_⟩
        · exact fun _ => ⟨rfl, rfl⟩
        · exact fun _ _ => hclient rfl
        · intro hmode
          cases hmode
      | server =>
        refine hdone.linked (.inl rfl) rfl rfl rfl ⟨howner, hbound, ?_, ?_, ?_⟩
        · intro hmode
          cases hmode
        · intro hmode
          cases hmode
        · exact fun _ _ => ⟨rfl, rfl, hserver rfl, rfl⟩

theorem engineInitBluetoothSession_spec (k : LinkKernel) :
    InitSpec k .bluetooth (linkOk call workingMode .bluetooth)
      (engineInitBluetoothSession call workingMode k) := by
  have hopen := working_socket k .bluetooth
  have hbound := hopen.change fun s => { s with bound := true }
  unfold engineInitBluetoothSession linkOk
  cases call .socket with
  | false => exact .inl ⟨rfl, rfl, same_refl k⟩
  | true =>
    cases call .bind with
    | false => exact hopen.failed .bluetooth
    | true =>
      by_cases hserver : workingMode = iotWorkModeServer
      · simp only [if_pos hserver]
        cases call .listen with
        | false => exact hbound.failed .bluetooth
        | true =>
          apply bluetoothNonblock_spec (hbound.change fun s => { s with listening := true })
            .server rfl rfl
          · intro hmode
            cases hmode
          · exact fun _ => rfl
      · simp only [if_neg hserver]
        by_cases hclient : workingMode = iotWorkModeClient
        · simp only [if_pos hclient, decide_eq_true hclient]
          cases call .connect with
          | false => exact hbound.failed .bluetooth
          | true =>
            apply bluetoothNonblock_spec (hbound.change fun s => { s with connected := true })
              .client rfl rfl
            · exact fun _ => rfl
            · intro hmode
              cases hmode
        · simp only [if_neg hclient, decide_eq_false hclient]
          exact hbound.failed .bluetooth

theorem engineInitCanSession_spec (k : LinkKernel) :
    InitSpec k .can (linkOk call workingMode .can) (engineInitCanSession call workingMode k) := by
  have hopen := working_socket k .can
  have hbound := hopen.change fun s => { s with bound := true }
  unfold engineInitCanSession linkOk
  cases call .socket with
  | false => exact .inl ⟨rfl, rfl, same_refl k⟩
  | true =>
    cases call .ifFlags with
    | false => exact hopen.failed .can
    | true =>
      cases call .ifUp with
      | false => exact hopen.failed .can
      | true =>
        cases call .ifIndex with
        | false => exact hopen.failed .can
        | true =>
          by_cases hserver : workingMode = iotWorkModeServer
          · simp only [if_pos hserver, decide_eq_true hserver]
            cases call .bind with
            | false => exact hopen.failed .can
            | true =>
              refine hbound.linked (.inr rfl) rfl rfl rfl ⟨rfl, rfl, ?_, ?_, ?_⟩
              · intro hmode
                cases hmode
              · intro hmode
                cases hmode
              · intro _ hproto
                cases hproto
          · simp only [if_neg hserver, decide_eq_false hserver]
            by_cases hclient : workingMode = iotWorkModeClient
            · simp only [if_pos hclient, decide_eq_true hclient]
              cases call .bind with
              | false => exact hopen.failed .can
              | true =>
                cases call .getFlags with
                | false => exact hbound.failed .can
                | true =>
                  cases call .setFlags with
                  | false => exact hbound.failed .can
                  | true =>
                    refine (hbound.change fun s => { s with nonblock := true }).linked (.inr rfl)
                      rfl rfl rfl ⟨rfl, rfl, ?_, ?_, ?_⟩
                    · exact fun _ => ⟨rfl, rfl⟩
                    · intro _ hproto
                      cases hproto
                    · intro _ hproto
                      cases hproto
            · simp only [if_neg hclient, decide_eq_false hclient]
              have hnone : (call .bind && (false || false && call .getFlags && call .setFlags)) =
                  false := by simp
              simp only [Bool.not_true, Bool.true_and, hnone]
              exact hopen.failed .can

theorem engineInitModbustcpSession_spec (k : LinkKernel) :
    InitSpec k .modbustcp (linkOk call workingMode .modbustcp)
      (engineInitModbustcpSession call workingMode k) := by
  unfold engineInitModbustcpSession linkOk
  by_cases hclient : workingMode = iotWorkModeClient
  · simp only [if_pos hclient, decide_eq_true hclient]
    cases call .modbusNew with
    | false => exact .inl ⟨rfl, rfl, same_refl k⟩
    | true =>
      cases call .modbusConnect with
      | false =>
        exact .inl ⟨rfl, rfl, fun _ => rfl, fun n => k.ctxs.get_closed_opened () n⟩
      | true =>
        refine .inr ⟨_, rfl, rfl, ?_, fun _ => .inl rfl, ?_⟩
        · constructor
          case socket => simp [IotLink.fd]
          case context => simp
          case mode => exact fun _ => rfl
          case modbus => exact fun _ => rfl
          case serves =>
            intro n hn
            cases hn
          case live =>
            intro n hn
            cases hn
            change (k.ctxs.opened ()).get k.ctxs.lowest = some ()
            rw [Descriptors.get_opened, if_pos rfl]
        · intro n
          change (k.ctxs.opened ()).get n = _ ∨ _
          rw [Descriptors.get_opened]
          split
          · rename_i heq
            rw [heq]
            exact .inr ⟨Descriptors.get_lowest _, rfl, rfl⟩
          · exact .inl rfl
  · simp only [if_neg hclient, decide_eq_false hclient]
    exact .inl ⟨rfl, rfl, same_refl k⟩

theorem initSession_spec (proto : IotProtoType) (k : LinkKernel) :
    InitSpec k proto (linkOk call workingMode proto) (initSession call workingMode proto k) := by
  have hbare : ∀ proto, ¬ Sends proto → proto ≠ .bluetooth → proto ≠ .can → proto ≠ .modbustcp →
      InitSpec k proto true
        (some { workingMode := none, devFd := none, listenFd := none, priData := none }, k) := by
    intro proto hsends hbluetooth hcan hmodbus
    refine .inr ⟨_, rfl, rfl, ?_, fun _ => .inl rfl, fun _ => .inl rfl⟩
    constructor
    case socket => simp [IotLink.fd, hbluetooth, hcan]
    case context => simp [hmodbus]
    case mode => exact fun h => absurd h hsends
    case modbus => exact fun h => absurd h hmodbus
    case serves =>
      intro n hn
      cases hn
    case live =>
      intro n hn
      cases hn
  cases proto with
  | bluetooth => exact engineInitBluetoothSession_spec k
  | can => exact engineInitCanSession_spec k
  | modbustcp => exact engineInitModbustcpSession_spec k
  | zigbee | lora | powerlink => apply hbare <;> simp [Sends]

end Spec

/-! The loop over the devices. -/

/-- What the model of the sessions alone takes as given. -/
def LinkEnv.sessionEnv (env : LinkEnv) (set : Nat → IotDevice) : SessionEnv :=
  { malloc := env.malloc
    init := fun proto i => linkOk (env.call i) (set i).config.workingMode proto }

section Loop

variable {env : LinkEnv} {set : Nat → IotDevice} {start : LinkKernel} {st : LinkedSessions}
  {n : Nat} {proto : IotProtoType} {link : IotLink}

theorem linked_createSession_nothing (i : Nat) (dev : IotDevice)
    (h : (st.sessions.sess proto).isSome ∨ env.malloc i = false) :
    st.createSession env i dev proto = st := by
  unfold LinkedSessions.createSession
  rw [if_pos h, createSession_nothing h]

/-- A call of an initialiser. -/
theorem linked_createSession_call (i : Nat) (dev : IotDevice)
    (hnone : st.sessions.sess proto = none) (hmem : env.malloc i = true) :
    ∃ r, initSession (env.call i) dev.config.workingMode proto st.kernel = r ∧
      InitSpec st.kernel proto (linkOk (env.call i) dev.config.workingMode proto) r ∧
      st.createSession env i dev proto =
        { sessions := st.sessions.record
            { proto, dev := i, sess := st.sessions.next
              ok := linkOk (env.call i) dev.config.workingMode proto }
          links := Function.update st.links st.sessions.next r.1
          kernel := r.2 } := by
  cases hr : initSession (env.call i) dev.config.workingMode proto st.kernel with
  | mk made kernel =>
    have hspec := @initSession_spec (env.call i) dev.config.workingMode proto st.kernel
    rw [hr] at hspec
    refine ⟨(made, kernel), rfl, hspec, ?_⟩
    have hsome : made.isSome = linkOk (env.call i) dev.config.workingMode proto := by
      rcases hspec with ⟨hok, rfl, -⟩ | ⟨link, hok, rfl, -⟩
      · exact hok.symm
      · exact hok.symm
    unfold LinkedSessions.createSession
    rw [if_neg (by simp [hnone, hmem]), hr]
    dsimp only
    rw [@createSession_record { malloc := env.malloc, init := fun _ _ => made.isSome } _ _ _ hnone
      hmem, hsome]

/-- Without its links a step is one of the sessions alone. -/
theorem linked_initDevice_sessions (env : LinkEnv) (set : Nat → IotDevice) (n : Nat)
    (st : LinkedSessions) :
    (st.initDevice env n (set n)).sessions =
      st.sessions.initDevice (env.sessionEnv set) n (set n) := by
  have hcreate : ∀ proto, (st.createSession env n (set n) proto).sessions =
      st.sessions.createSession (env.sessionEnv set) n proto := by
    intro proto
    by_cases hskip : (st.sessions.sess proto).isSome ∨ env.malloc n = false
    · rw [linked_createSession_nothing n (set n) hskip,
        @createSession_nothing (env.sessionEnv set) _ _ _ hskip]
    · rw [not_or, Option.not_isSome_iff_eq_none, Bool.not_eq_false] at hskip
      obtain ⟨r, -, -, heq⟩ := linked_createSession_call n (set n) hskip.1 hskip.2
      rw [heq, @createSession_record (env.sessionEnv set) _ _ _ hskip.1 hskip.2]
      rfl
  rw [initDevice_eq]
  unfold LinkedSessions.initDevice
  split
  · cases htype : (set n).devType with
    | none => rfl
    | some proto => exact hcreate proto
  · rfl

/-- The sessions are those of the model without links. -/
theorem linkDevices_sessions (env : LinkEnv) (set : Nat → IotDevice) (start : LinkKernel)
    (n : Nat) :
    (linkDevices env set start n).sessions = initDevices (env.sessionEnv set) set n := by
  induction n with
  | zero => rfl
  | succ n ih =>
    change ((linkDevices env set start n).initDevice env n (set n)).sessions = _
    rw [linked_initDevice_sessions, ih]
    rfl

theorem linkDevices_older (env : LinkEnv) (set : Nat → IotDevice) (start : LinkKernel) (n : Nat)
    {p : Nat} (h : (linkDevices env set start n).sessions.sess proto = some p) :
    p < (linkDevices env set start n).sessions.next := by
  rw [linkDevices_sessions] at h ⊢
  have hfilled := initDevices_filled (env.sessionEnv set) set n
  obtain ⟨call, hcall, -, rfl, -⟩ := (hfilled.sess proto p).mp h
  exact hfilled.older hcall

/-- What a session holds stays open as long as nothing that is open is changed. -/
theorem LinkHolds.mono {k k' : LinkKernel} (h : LinkHolds k proto link)
    (hfds : ∀ n s, k.fds.get n = some s → k'.fds.get n = some s)
    (hctxs : ∀ n, k.ctxs.get n = some () → k'.ctxs.get n = some ()) : LinkHolds k' proto link :=
  { h with
    serves := by
      intro n hn
      obtain ⟨s, hs, hserves⟩ := h.serves n hn
      exact ⟨s, hfds n s hs, hserves⟩
    live := fun n hn => hctxs n (h.live n hn) }

theorem ledger_start (start : LinkKernel) :
    Ledger start { sessions := noIotSessions, links := fun _ => none, kernel := start } where
  linked := by
    intro proto p h
    cases h
  holds := by
    rintro proto link ⟨p, h, -⟩
    cases h
  fds := fun _ => .inl rfl
  ctxs := fun _ => .inl rfl

/-- A call whose object is a new one. -/
theorem Ledger.call (h : Ledger start st) {i : Nat} {dev : IotDevice}
    (hnone : st.sessions.sess proto = none) (hmem : env.malloc i = true)
    (holder : ∀ proto p, st.sessions.sess proto = some p → p < st.sessions.next) :
    Ledger start (st.createSession env i dev proto) := by
  obtain ⟨⟨made, kernel⟩, -, hspec, heq⟩ := linked_createSession_call i dev hnone hmem
  rw [heq]
  have hother : ∀ {proto' : IotProtoType} {p : Nat}, st.sessions.sess proto' = some p →
      Function.update st.links st.sessions.next made p = st.links p := by
    intro proto' p hp
    exact Function.update_of_ne (Nat.ne_of_lt (holder proto' p hp)) _ _
  rcases hspec with ⟨hok, rfl, hsame⟩ | ⟨link, hok, rfl, hlinks⟩
  · rw [hok]
    have hhas : ∀ {proto' : IotProtoType} {link : IotLink},
        (∃ p, st.sessions.sess proto' = some p ∧
          Function.update st.links st.sessions.next none p = some link) ↔ st.Has proto' link := by
      intro proto' link
      constructor
      · rintro ⟨p, hp, hlink⟩
        exact ⟨p, hp, (hother hp).symm.trans hlink⟩
      · rintro ⟨p, hp, hlink⟩
        exact ⟨p, hp, (hother hp).trans hlink⟩
    constructor
    case linked =>
      intro proto' p hp
      obtain ⟨link, hlink⟩ := h.linked proto' p hp
      exact ⟨link, (hother hp).trans hlink⟩
    case holds =>
      intro proto' link hp
      refine (h.holds proto' link (hhas.mp hp)).mono ?_ ?_
      · intro n s hs
        exact (hsame.fds n).trans hs
      · intro n hs
        exact (hsame.ctxs n).trans hs
    case fds =>
      intro n
      rcases h.fds n with hn | ⟨hn, proto', link, hp, hfd⟩
      · exact .inl ((hsame.fds n).trans hn)
      · exact .inr ⟨hn, proto', link, hhas.mpr hp, hfd⟩
    case ctxs =>
      intro n
      rcases h.ctxs n with hn | ⟨hn, link, hp, hctx⟩
      · exact .inl ((hsame.ctxs n).trans hn)
      · exact .inr ⟨hn, link, hhas.mpr hp, hctx⟩
  · rw [hok]
    have hsess := @record_sess st.sessions
      { proto, dev := i, sess := st.sessions.next, ok := true } hnone
    have hold : ∀ {proto' : IotProtoType} {link' : IotLink}, st.Has proto' link' →
        ∃ p, (st.sessions.record { proto, dev := i, sess := st.sessions.next, ok := true }).sess
            proto' = some p ∧
          Function.update st.links st.sessions.next (some link) p = some link' := by
      rintro proto' link' ⟨p, hp, hlink⟩
      exact ⟨p, (hsess proto' p).mpr (.inl hp), (hother hp).trans hlink⟩
    have hnew : ∃ p, (st.sessions.record
          { proto, dev := i, sess := st.sessions.next, ok := true }).sess proto = some p ∧
        Function.update st.links st.sessions.next (some link) p = some link :=
      ⟨_, (hsess proto _).mpr (.inr ⟨rfl, rfl, rfl⟩), Function.update_self _ _ _⟩
    constructor
    case linked =>
      intro proto' p hp
      rcases (hsess proto' p).mp hp with hp | ⟨-, rfl, -⟩
      · obtain ⟨link', hlink⟩ := h.linked proto' p hp
        exact ⟨link', (hother hp).trans hlink⟩
      · exact ⟨link, Function.update_self _ _ _⟩
    case holds =>
      rintro proto' link' ⟨p, hp, hlink⟩
      rcases (hsess proto' p).mp hp with hp | ⟨rfl, rfl, -⟩
      · refine (h.holds proto' link' ⟨p, hp, (hother hp).symm.trans hlink⟩).mono ?_ ?_
        · intro n s hs
          rcases hlinks.fds n with hn | ⟨hn, -⟩
          · exact hn.trans hs
          · rw [hn] at hs
            cases hs
        · intro n hs
          rcases hlinks.ctxs n with hn | ⟨hn, -⟩
          · exact hn.trans hs
          · rw [hn] at hs
            cases hs
      · have hsame : some link = some link' :=
          (Function.update_self st.sessions.next (some link) st.links).symm.trans hlink
        cases hsame
        exact hlinks.holds
    case fds =>
      intro n
      rcases h.fds n with hn | ⟨hn, proto', link', hp, hfd⟩
      · rcases hlinks.fds n with hn' | ⟨hn', hfd⟩
        · exact .inl (hn'.trans hn)
        · exact .inr ⟨hn.symm.trans hn', proto, link, hnew, hfd⟩
      · exact .inr ⟨hn, proto', link', hold hp, hfd⟩
    case ctxs =>
      intro n
      rcases h.ctxs n with hn | ⟨hn, link', hp, hctx⟩
      · rcases hlinks.ctxs n with hn' | ⟨hn', rfl, hctx⟩
        · exact .inl (hn'.trans hn)
        · exact .inr ⟨hn.symm.trans hn', link, hnew, hctx⟩
      · exact .inr ⟨hn, link', hold hp, hctx⟩

theorem Ledger.step (h : Ledger start st) (i : Nat) (dev : IotDevice)
    (holder : ∀ proto p, st.sessions.sess proto = some p → p < st.sessions.next) :
    Ledger start (st.initDevice env i dev) := by
  unfold LinkedSessions.initDevice
  split
  · cases dev.devType with
    | none => exact h
    | some proto =>
      by_cases hskip : (st.sessions.sess proto).isSome ∨ env.malloc i = false
      · change Ledger start (st.createSession env i dev proto)
        rw [linked_createSession_nothing i dev hskip]
        exact h
      · rw [not_or, Option.not_isSome_iff_eq_none, Bool.not_eq_false] at hskip
        exact h.call hskip.1 hskip.2 holder
  · exact h

theorem linkDevices_ledger (env : LinkEnv) (set : Nat → IotDevice) (start : LinkKernel) (n : Nat) :
    Ledger start (linkDevices env set start n) := by
  induction n with
  | zero => exact ledger_start start
  | succ n ih =>
    apply ih.step
    intro proto p
    exact linkDevices_older env set start n

end Loop

/-- Whatever devices there are and whichever calls fail, each protocol gets the session of its
first device that works. A Bluetooth or CAN session holds an open socket of its own, not to block
unless it is a CAN server's; a Modbus TCP session holds a context; those of the other protocols
hold nothing. What is open besides was so before. -/
theorem linkedSessions_ledger (env : LinkEnv) (set : Nat → IotDevice) (num : Nat)
    (start : LinkKernel) :
    FirstSessions (env.sessionEnv set) set num (linkDevices env set start num).sessions ∧
      Ledger start (linkDevices env set start num) := by
  rw [linkDevices_sessions]
  exact ⟨(initDevices_filled _ set num).firstSessions, linkDevices_ledger env set start num⟩

end BackendProxy.Device
