import BackendProxy.Lib.Descriptors
import BackendProxy.Pool.Endpoint

namespace BackendProxy.Pool

open Lib Queue Wire

/-! The sockets of the sessions that the frontend asks for: the descriptors of the process, the
network namespace its thread is in, and where a socket is connected to. -/

namespace Netns

inductive SockDomain where
  | afInet
  | afInet6
  deriving DecidableEq

inductive SockType where
  | sockStream
  | sockDgram
  deriving DecidableEq

inductive IpProto where
  | ipprotoTcp
  | ipprotoUdp
  deriving DecidableEq

structure SocketShape where
  domain : SockDomain
  type : SockType
  protocol : IpProto
  deriving DecidableEq

/-- `probes` counts the test messages sent from the socket before it is used. -/
structure NetSocket where
  ns : Nat
  shape : SocketShape
  peer : Option UniSockAddr
  nonblock : Bool
  probes : Nat
  deriving DecidableEq

inductive Object where
  | netns (ns : Nat)
  | socket (s : NetSocket)
  deriving DecidableEq

/-- Open objects by descriptor, and the namespace of the thread. -/
structure Kernel where
  ns : Nat
  fds : Descriptors Object

/-- Which calls succeed: to open the own namespace, to enter the device's and to return from it,
`socket`, the test messages sent from there and from home, and `connect`. -/
structure Calls where
  openSelf : Bool
  enter : Bool
  socket : Bool
  back : Bool
  probeThere : Bool
  probeHome : Bool
  connect : Bool

def Kernel.opened (k : Kernel) (x : Object) : Kernel := { k with fds := k.fds.opened x }

def Kernel.close (k : Kernel) (fd : Nat) : Kernel := { k with fds := k.fds.closed fd }

def Object.onSocket (f : NetSocket → NetSocket) : Object → Object
  | .socket s => .socket (f s)
  | .netns ns => .netns ns

def Kernel.onSocket (k : Kernel) (fd : Nat) (f : NetSocket → NetSocket) : Kernel :=
  { k with fds := k.fds.changed fd (Object.onSocket f) }

def Kernel.setns (k : Kernel) (ok : Bool) (fd : Nat) : Option Kernel :=
  match k.fds.get fd with
  | some (.netns ns) => if ok then some { k with ns } else none
  | _ => none

/-- What `snprintf` leaves of the path in its buffer. -/
def netnsPath (name : List Char) : List Char := ("/var/run/netns/".toList ++ name).take 255

/-- `open_named_netns`; `files` are the namespaces by path. -/
def openNamedNetns (files : List Char → Option Nat) (name : List Char) (k : Kernel) :
    Option Nat × Kernel :=
  match files (netnsPath name) with
  | none => (none, k)
  | some ns => (some k.fds.lowest, k.opened (.netns ns))

/-- `test_udp_connectivity`. Nothing of an answer is kept. -/
def testUdpConnectivity (sendto : Bool) (fd : Nat) (k : Kernel) : Kernel :=
  if sendto then k.onSocket fd fun s => { s with probes := s.probes + 1 } else k

/-- The sockets that are tested. -/
def SocketShape.Tested (shape : SocketShape) : Prop :=
  shape.domain = .afInet ∧ shape.type = .sockDgram

instance (shape : SocketShape) : Decidable shape.Tested := inferInstanceAs (Decidable (_ ∧ _))

/-- The test as `__create_socket_netns` has it. -/
def testSocket (shape : SocketShape) (sendto : Bool) (fd : Nat) (k : Kernel) : Kernel :=
  if shape.Tested then testUdpConnectivity sendto fd k else k

/-- `__create_socket_netns` -/
def newSocketNetns (calls : Calls) (nsId : Nat) (shape : SocketShape) (k : Kernel) :
    Option Nat × Kernel :=
  if !calls.openSelf then (none, k)
  else
    let origNetns := k.fds.lowest
    let k := k.opened (.netns k.ns)
    match k.setns calls.enter nsId with
    | none => (none, k.close origNetns)
    | some k =>
      if !calls.socket then
        let k := (k.setns calls.back origNetns).getD k
        (none, k.close origNetns)
      else
        let newfd := k.fds.lowest
        let k := k.opened (.socket { ns := k.ns, shape, peer := none, nonblock := false
                                     probes := 0 })
        let k := testSocket shape calls.probeThere newfd k
        match k.setns calls.back origNetns with
        | none => (none, (k.close origNetns).close newfd)
        | some k => (some newfd, testSocket shape calls.probeHome newfd (k.close origNetns))

def sockDomain (ipVersion : UInt16) : Option SockDomain :=
  if ipVersion = sessIpv4Proto then some .afInet
  else if ipVersion = sessIpv6Proto then some .afInet6
  else none

/-- The fast path reports success and leaves the descriptor unset. -/
def createSocketNetns (calls : Calls) (nsId : Nat) (para : SessMsgPara) (k : Kernel) :
    Option (Option Nat) × Kernel :=
  match sockDomain para.ipVersion with
  | none => (none, k)
  | some domain =>
    if para.transProto.toNat = sessTcpProto then
      let r := newSocketNetns calls nsId
        { domain, type := .sockStream, protocol := .ipprotoTcp } k
      (r.1.map some, r.2)
    else if para.transProto.toNat = sessUdpProto then
      let r := newSocketNetns calls nsId
        { domain, type := .sockDgram, protocol := .ipprotoUdp } k
      (r.1.map some, r.2)
    else if para.transProto.toNat = sessFastpathProto then (some none, k)
    else (none, k)

def connectSocketNetns (calls : Calls) (fd : Option Nat) (para : SessMsgEndpoint) (k : Kernel) :
    Option Kernel :=
  match fd with
  | none => none
  | some fd =>
    if calls.connect then
      some (k.onSocket fd fun s =>
        { s with peer := some (uniSockAddr para.ipPortTuple), nonblock := true })
    else none

def closeIfOpen (fd : Option Nat) (k : Kernel) : Kernel :=
  match fd with
  | none => k
  | some fd => k.close fd

/-- What `high_speed_create_sess_active` does from the device to its end, as far as the socket goes;
`done` says that the rest of it succeeds. -/
def openSession (calls : Calls) (nsId : Nat) (para : SessMsgEndpoint) (done : Bool) (k : Kernel) :
    Option Nat × Kernel :=
  match createSocketNetns calls nsId para.toSessMsgPara k with
  | (none, k) => (none, k)
  | (some fd, k) =>
    match connectSocketNetns calls fd para k with
    | none => (none, closeIfOpen fd k)
    | some k => if done then (fd, k) else (none, closeIfOpen fd k)

/-! Runs. -/

structure NetDev where
  nsId : Option Nat
  active : Bool

/-- A session's socket, with the device and the request it was opened for. -/
structure Holder where
  fd : Nat
  dev : Nat
  para : SessMsgEndpoint

structure State where
  kernel : Kernel
  held : List Holder

/-- `ready` says that there are memory and an ID for the session, `chosen` is the answer of the
strategy. -/
inductive Op where
  | create (m : Mem) (ready : Bool) (chosen : Option UInt16) (calls : Calls) (done : Bool)
  | delete (i : Nat)

def devOf (para : SessMsgPara) (chosen : Option UInt16) : Option UInt16 :=
  if para.devId = devIdAutoHandover then chosen else some para.devId

/-- `GET_NS_ID`. Behind the devices the set is zeroed memory. -/
def getNsId (devs : List NetDev) (d : Nat) : Except Halt (Option Nat) :=
  let dev := (devs[d]?).getD { nsId := some 0, active := false }
  if d < maxHsDevNum ∧ dev.active = true then .ok dev.nsId else .error .abort

def State.create (devs : List NetDev) (para : SessMsgEndpoint) (d : Nat) (calls : Calls)
    (done : Bool) (st : State) : Except Halt State :=
  match getNsId devs d with
  | .error e => .error e
  | .ok none => .ok st
  | .ok (some nsId) =>
    match openSession calls nsId para done st.kernel with
    | (none, kernel) => .ok { st with kernel }
    | (some fd, kernel) => .ok { kernel, held := { fd, dev := d, para } :: st.held }

/-- The device a creation gets to. -/
def Op.target (devs : List NetDev) : Op → Option (SessMsgEndpoint × Nat × Calls × Bool)
  | .create m ready chosen calls done =>
    match endpointOf m with
    | none => none
    | some para =>
      if !ready || devs.isEmpty then none
      else (devOf para.toSessMsgPara chosen).map fun d => (para, d.toNat, calls, done)
  | .delete _ => none

def step (devs : List NetDev) (st : State) (op : Op) : Except Halt State :=
  match op with
  | .create .. =>
    match op.target devs with
    | none => .ok st
    | some (para, d, calls, done) => st.create devs para d calls done
  | .delete i =>
    match st.held[i]? with
    | none => .ok st
    | some h => .ok { kernel := st.kernel.close h.fd, held := st.held.eraseIdx i }

/-! What a creation leaves of the descriptors. -/

/-- The same descriptors are open. -/
def Kernel.Same (k k' : Kernel) : Prop := ∀ n, k'.fds.get n = k.fds.get n

/-- One socket is open besides. -/
structure Kernel.Added (k k' : Kernel) (n : Nat) (s : NetSocket) : Prop where
  free : k.fds.get n = none
  fds : ∀ m, k'.fds.get m = if m = n then some (.socket s) else k.fds.get m

/-- A socket in the namespace, with at most one test message from there and one from home. -/
structure NetSocket.Of (s : NetSocket) (ns : Nat) (shape : SocketShape) (most : Nat) : Prop where
  ns : s.ns = ns
  shape : s.shape = shape
  probes : s.probes ≤ most
  untested : ¬ s.shape.Tested → s.probes = 0

section Creation

variable {k k' : Kernel} {n nsId ns : Nat} {s : NetSocket} {x : Object} {shape : SocketShape}
  {calls : Calls}

theorem Kernel.Same.refl (k : Kernel) : k.Same k := fun _ => rfl

theorem get_opened (k : Kernel) (x : Object) (m : Nat) :
    (k.opened x).fds.get m = if m = k.fds.lowest then some x else k.fds.get m :=
  k.fds.get_opened x m

theorem get_close (k : Kernel) (fd m : Nat) :
    (k.close fd).fds.get m = if m = fd then none else k.fds.get m :=
  k.fds.get_closed fd m

theorem Kernel.Added.get (h : k.Added k' n s) : k'.fds.get n = some (.socket s) := by
  rw [h.fds, if_pos rfl]

theorem Kernel.Added.onSocket (h : k.Added k' n s) (f : NetSocket → NetSocket) :
    k.Added (k'.onSocket n f) n (f s) where
  free := h.free
  fds := by
    intro m
    have hget := k'.fds.get_changed n m (Object.onSocket f)
    rw [h.get] at hget
    refine hget.trans ?_
    split
    · rfl
    · rename_i hne
      rw [h.fds, if_neg hne]

/-- Where the thread is does not matter to the descriptors. -/
theorem Kernel.Added.at (h : k.Added k' n s) (ns' : Nat) : k.Added { k' with ns := ns' } n s :=
  ⟨h.free, h.fds⟩

/-- Closed again, the socket leaves nothing. -/
theorem Kernel.Added.close (h : k.Added k' n s) : k.Same (k'.close n) := by
  intro m
  rw [get_close]
  split
  · rename_i heq
    rw [heq, h.free]
  · rename_i hne
    rw [h.fds, if_neg hne]

theorem NetSocket.Of.mono {most most' : Nat} (h : s.Of ns shape most) (hle : most ≤ most') :
    s.Of ns shape most' :=
  ⟨h.ns, h.shape, Nat.le_trans h.probes hle, h.untested⟩

/-- The test sends a message from the socket, or does nothing. -/
theorem Kernel.Added.test {most : Nat} (h : k.Added k' n s) (hs : s.Of ns shape most)
    (sendto : Bool) :
    ∃ s', k.Added (testSocket shape sendto n k') n s' ∧ s'.Of ns shape (most + 1) ∧
      s'.peer = s.peer := by
  unfold testSocket testUdpConnectivity
  by_cases htested : shape.Tested
  · rw [if_pos htested]
    cases sendto with
    | false => exact ⟨s, h, hs.mono (Nat.le_succ _), rfl⟩
    | true =>
      have hof : NetSocket.Of { s with probes := s.probes + 1 } ns shape (most + 1) :=
        ⟨hs.ns, hs.shape, Nat.succ_le_succ hs.probes, fun hnot => absurd (hs.shape ▸ htested) hnot⟩
      exact ⟨_, h.onSocket fun s => { s with probes := s.probes + 1 }, hof, rfl⟩
  · rw [if_neg htested]
    exact ⟨s, h, hs.mono (Nat.le_succ _), rfl⟩

/-- The kernel after a call of `__create_socket_netns`, with what the call returned. -/
def NewSocket (k : Kernel) (ns : Nat) (shape : SocketShape) (r : Option Nat × Kernel) : Prop :=
  (r.1 = none ∧ k.Same r.2) ∨
    ∃ n s, r.1 = some n ∧ k.Added r.2 n s ∧ s.Of ns shape 2 ∧ s.peer = none

theorem NewSocket.failed (h : k.Same k') : NewSocket k ns shape (none, k') := .inl ⟨rfl, h⟩

/-- What kind of socket a request asks for; none for the fast path. -/
def shapeOf (para : SessMsgPara) : Option SocketShape :=
  match sockDomain para.ipVersion with
  | none => none
  | some domain =>
    if para.transProto.toNat = sessTcpProto then
      some { domain, type := .sockStream, protocol := .ipprotoTcp }
    else if para.transProto.toNat = sessUdpProto then
      some { domain, type := .sockDgram, protocol := .ipprotoUdp }
    else none

theorem createSocketNetns_some {para : SessMsgPara} (h : shapeOf para = some shape) :
    createSocketNetns calls nsId para k =
      ((newSocketNetns calls nsId shape k).1.map some, (newSocketNetns calls nsId shape k).2) := by
  unfold shapeOf at h
  unfold createSocketNetns
  cases hdomain : sockDomain para.ipVersion with
  | none =>
    rw [hdomain] at h
    cases h
  | some domain =>
    simp only [hdomain] at h ⊢
    split
    · rename_i htcp
      rw [if_pos htcp] at h
      cases h
      rfl
    · rename_i htcp
      rw [if_neg htcp] at h
      split
      · rename_i hudp
        rw [if_pos hudp] at h
        cases h
        rfl
      · rename_i hudp
        rw [if_neg hudp] at h
        cases h

def fdInt : Option Nat → Int
  | none => errorSocketFd
  | some fd => fd

/-- What `__create_socket_netns` returns for a request. -/
def socketAnswer (calls : Calls) (nsId : Nat) (para : SessMsgPara) (k : Kernel) : Int :=
  match shapeOf para with
  | none => errorSocketFd
  | some shape => fdInt (newSocketNetns calls nsId shape k).1

theorem fdInt_error (fd : Option Nat) : fdInt fd = errorSocketFd ↔ fd = none := by
  cases fd with
  | none => simp [fdInt]
  | some fd =>
    simp only [fdInt, errorSocketFd]
    constructor
    · intro h
      omega
    · intro h
      cases h

theorem sockDomain_isSome (ipVersion : UInt16) :
    (sockDomain ipVersion).isSome ↔ ipVersion = sessIpv4Proto ∨ ipVersion = sessIpv6Proto := by
  unfold sockDomain
  by_cases h4 : ipVersion = sessIpv4Proto
  · rw [if_pos h4]
    exact iff_of_true rfl (.inl h4)
  · rw [if_neg h4]
    by_cases h6 : ipVersion = sessIpv6Proto
    · rw [if_pos h6]
      exact iff_of_true rfl (.inr h6)
    · rw [if_neg h6]
      exact iff_of_false Bool.false_ne_true (not_or.mpr ⟨h4, h6⟩)

theorem createSocketNetns_view (calls : Calls) (nsId : Nat) (para : SessMsgPara) (k : Kernel) :
    Pool.createSocketNetns para (socketAnswer calls nsId para k) =
      (createSocketNetns calls nsId para k).1.map fdInt := by
  have hanswer : ∀ fd : Option Nat,
      (if fdInt fd = errorSocketFd then none else some (fdInt fd)) = (fd.map some).map fdInt := by
    intro fd
    simp only [fdInt_error]
    cases fd <;> rfl
  have hversion := sockDomain_isSome para.ipVersion
  unfold Pool.createSocketNetns createSocketNetns socketAnswer shapeOf
  cases hdomain : sockDomain para.ipVersion with
  | none =>
    rw [hdomain] at hversion
    rw [if_neg fun h => Bool.false_ne_true (hversion.mpr h)]
    rfl
  | some domain =>
    rw [hdomain] at hversion
    rw [if_pos (hversion.mp rfl)]
    by_cases htcp : para.transProto.toNat = sessTcpProto
    · simp only [if_pos htcp, if_pos (Or.inl htcp), hanswer]
    · by_cases hudp : para.transProto.toNat = sessUdpProto
      · simp only [if_neg htcp, if_pos hudp, if_pos (Or.inr hudp), hanswer]
      · rw [if_neg (not_or.mpr ⟨htcp, hudp⟩)]
        simp only [if_neg htcp, if_neg hudp]
        split <;> rfl

theorem connectSocketNetns_view (calls : Calls) (fd : Option Nat) (para : SessMsgEndpoint)
    (k : Kernel) :
    Pool.connectSocketNetns (fdInt fd) calls.connect =
      (connectSocketNetns calls fd para k).isSome := by
  unfold Pool.connectSocketNetns connectSocketNetns
  cases fd with
  | none => simp [fdInt]
  | some fd =>
    have hfd : fdInt (some fd) ≠ errorSocketFd := by
      rw [Ne, fdInt_error]
      exact Option.some_ne_none fd
    cases calls.connect with
    | false => simp
    | true => simp [hfd]

/-- The socket of a session: in the namespace, of the kind asked for, connected to the endpoint and
not to block. -/
structure NetSocket.Serves (s : NetSocket) (ns : Nat) (para : SessMsgEndpoint) : Prop where
  ns : s.ns = ns
  shape : shapeOf para.toSessMsgPara = some s.shape
  peer : s.peer = some (uniSockAddr para.ipPortTuple)
  nonblock : s.nonblock = true
  probes : s.probes ≤ 2
  untested : ¬ s.shape.Tested → s.probes = 0

end Creation

/-! The invariant of the runs. -/

/-- The namespace of a device, from its name. -/
def netnsOf (files : List Char → Option Nat) (names : List (List Char × Bool)) (d : Nat) :
    Option Nat :=
  (names[d]?).bind fun name => files (netnsPath name.1)

/-- Each device holds its namespace. -/
def DevicesOpen (files : List Char → Option Nat) (names : List (List Char × Bool))
    (devs : List NetDev) (k : Kernel) : Prop :=
  ∀ d dev, devs[d]? = some dev → ∃ nsId ns, dev.nsId = some nsId ∧
    netnsOf files names d = some ns ∧ k.fds.get nsId = some (.netns ns)

/-- Each session holds a socket of its own that serves it, and apart from these and the namespaces
of the devices the same is open as when the process began. -/
structure Placed (files : List Char → Option Nat) (names : List (List Char × Bool))
    (devs : List NetDev) (boot : Kernel) (st : State) : Prop where
  devices : DevicesOpen files names devs st.kernel
  served : ∀ h ∈ st.held, ∃ ns s, netnsOf files names h.dev = some ns ∧
    st.kernel.fds.get h.fd = some (.socket s) ∧ s.Serves ns h.para
  distinct : (st.held.map Holder.fd).Nodup
  new : ∀ h ∈ st.held, boot.fds.get h.fd = none
  only : ∀ n, st.kernel.fds.get n = boot.fds.get n ∨ boot.fds.get n = none ∧
    ((∃ dev ∈ devs, dev.nsId = some n) ∨ ∃ h ∈ st.held, h.fd = n)

section Runs

variable {files : List Char → Option Nat} {names : List (List Char × Bool)} {devs : List NetDev}
  {boot k k' : Kernel} {st st' : State} {para : SessMsgEndpoint} {calls : Calls} {done : Bool}
  {d : Nat} {op : Op}

theorem DevicesOpen.same (h : DevicesOpen files names devs k) (hsame : k.Same k') :
    DevicesOpen files names devs k' := by
  intro d dev hdev
  obtain ⟨nsId, ns, hid, hns, hget⟩ := h d dev hdev
  exact ⟨nsId, ns, hid, hns, (hsame nsId).trans hget⟩

/-- Where the descriptors are the same, so is what the sessions hold. -/
theorem Placed.same (h : Placed files names devs boot st) (hsame : st.kernel.Same k') :
    Placed files names devs boot { st with kernel := k' } where
  devices := h.devices.same hsame
  served := by
    intro holder hmem
    obtain ⟨ns, s, hns, hget, hserves⟩ := h.served holder hmem
    exact ⟨ns, s, hns, (hsame holder.fd).trans hget, hserves⟩
  distinct := h.distinct
  new := h.new
  only := by
    intro n
    rw [hsame n]
    exact h.only n

/-- A session more, with its socket. -/
theorem Placed.opened {n ns : Nat} {s : NetSocket} (h : Placed files names devs boot st)
    (hadded : st.kernel.Added k' n s) (hns : netnsOf files names d = some ns)
    (hserves : s.Serves ns para) :
    Placed files names devs boot
      { kernel := k', held := { fd := n, dev := d, para } :: st.held } := by
  have hother : ∀ {m x}, st.kernel.fds.get m = some x → k'.fds.get m = some x := by
    intro m x hx
    rw [hadded.fds]
    split
    · rename_i heq
      rw [heq, hadded.free] at hx
      cases hx
    · exact hx
  constructor
  case devices =>
    intro d dev hdev
    obtain ⟨nsId, ns, hid, hns, hget⟩ := h.devices d dev hdev
    exact ⟨nsId, ns, hid, hns, hother hget⟩
  case served =>
    intro holder hmem
    rcases List.mem_cons.mp hmem with rfl | hmem
    · exact ⟨ns, s, hns, hadded.get, hserves⟩
    · obtain ⟨ns', s', hns', hget, hserves'⟩ := h.served holder hmem
      exact ⟨ns', s', hns', hother hget, hserves'⟩
  case distinct =>
    rw [List.map_cons, List.nodup_cons]
    refine ⟨?_, h.distinct⟩
    intro hmem
    obtain ⟨holder, hholder, heq⟩ := List.mem_map.mp hmem
    obtain ⟨ns', s', -, hget, -⟩ := h.served holder hholder
    rw [heq, hadded.free] at hget
    cases hget
  case new =>
    intro holder hmem
    rcases List.mem_cons.mp hmem with rfl | hmem
    · rcases h.only n with heq | ⟨hnone, -⟩
      · rw [← heq, hadded.free]
      · exact hnone
    · exact h.new holder hmem
  case only =>
    intro m
    rw [hadded.fds]
    split
    · rename_i heq
      refine .inr ⟨?_, .inr ⟨_, List.mem_cons_self, heq.symm⟩⟩
      rcases h.only m with hsame | ⟨hnone, -⟩
      · rw [← hsame, heq, hadded.free]
      · exact hnone
    · rcases h.only m with hsame | ⟨hnone, hdev | ⟨holder, hmem, hfd⟩⟩
      · exact .inl hsame
      · exact .inr ⟨hnone, .inl hdev⟩
      · exact .inr ⟨hnone, .inr ⟨holder, List.mem_cons_of_mem _ hmem, hfd⟩⟩

/-- A session less: of the others none has its descriptor. -/
theorem Placed.deleted {i : Nat} {holder : Holder} (h : Placed files names devs boot st)
    (hi : st.held[i]? = some holder) :
    Placed files names devs boot
      { kernel := st.kernel.close holder.fd, held := st.held.eraseIdx i } := by
  have hmem : holder ∈ st.held := List.mem_of_getElem? hi
  obtain ⟨ns, s, -, hget, -⟩ := h.served holder hmem
  have hperm : (holder :: st.held.eraseIdx i).Perm st.held := by
    obtain ⟨hlt, rfl⟩ := List.getElem?_eq_some_iff.mp hi
    exact List.getElem_cons_eraseIdx_perm hlt
  have hne : ∀ other ∈ st.held.eraseIdx i, other.fd ≠ holder.fd := by
    have hnodup := (hperm.map Holder.fd).nodup_iff.mpr h.distinct
    rw [List.map_cons, List.nodup_cons] at hnodup
    intro other hother heq
    exact hnodup.1 (heq ▸ List.mem_map_of_mem hother)
  constructor
  case devices =>
    intro d dev hdev
    obtain ⟨nsId, ns', hid, hns, hnet⟩ := h.devices d dev hdev
    refine ⟨nsId, ns', hid, hns, ?_⟩
    rw [get_close]
    split
    · rename_i heq
      rw [heq, hget] at hnet
      cases hnet
    · exact hnet
  case served =>
    intro other hother
    obtain ⟨ns', s', hns', hget', hserves⟩ := h.served other (List.mem_of_mem_eraseIdx hother)
    refine ⟨ns', s', hns', ?_, hserves⟩
    rw [get_close, if_neg (hne other hother), hget']
  case distinct =>
    exact h.distinct.sublist ((List.eraseIdx_sublist _ _).map _)
  case new => exact fun other hother => h.new other (List.mem_of_mem_eraseIdx hother)
  case only =>
    intro n
    rw [get_close]
    split
    · rename_i heq
      rw [heq, h.new holder hmem]
      exact .inl rfl
    · rename_i hn
      rcases h.only n with hsame | ⟨hnone, hdev | ⟨other, hother, hfd⟩⟩
      · exact .inl hsame
      · exact .inr ⟨hnone, .inl hdev⟩
      · refine .inr ⟨hnone, .inr ⟨other, ?_, hfd⟩⟩
        rcases List.mem_cons.mp (hperm.mem_iff.mpr hother) with rfl | hrest
        · exact absurd hfd.symm hn
        · exact hrest

end Runs

def oneSession : State :=
  { kernel :=
      { ns := 0
        fds :=
          { entries :=
              [some (.netns 1), none,
                some (.socket
                  { ns := 1
                    shape := { domain := .afInet, type := .sockStream, protocol := .ipprotoTcp }
                    peer := some (.ipv4Addr
                      { sinFamily := 2, sinPort := 20480, sinAddr := 16777343 })
                    nonblock := true, probes := 0 })] } }
    held := [{ fd := 2, dev := 0
               para :=
                { frontendSessId := 7, devId := 0, ipVersion := 4, transProto := 1
                  ipPortTuple := .ipv4 { data := #v[127, 0, 0, 1] } 80
                  agrees := rfl } }] }

end Netns

end BackendProxy.Pool
