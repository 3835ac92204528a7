import BackendProxy.Lib.NetOrder
import BackendProxy.Wire.Message

namespace BackendProxy.Wire

open Lib

/-! The endpoints of sessions: in the messages an address lies as it is written and a port lowest
byte first; `connect` and `accept` deal in socket addresses, in the order of the network. -/

structure IPv4Address where
  data : Vector UInt8 4
  deriving DecidableEq

structure IPv6Address where
  data : Vector UInt8 16
  deriving DecidableEq

/-- The members of the union, each with its IP version. -/
inductive IPPortTuple where
  | ipv4 (ipv4Addr : IPv4Address) (port : UInt16)
  | ipv6 (ipv6Addr : IPv6Address) (port : UInt16)
  deriving DecidableEq

def IPPortTuple.ipVersion : IPPortTuple → UInt16
  | .ipv4 .. => sessIpv4Proto
  | .ipv6 .. => sessIpv6Proto

/-- `COPY_IN_TO_IPV4` -/
def copyInToIpv4 (sAddr : UInt32) : IPv4Address :=
  let addr := ntohl sAddr
  { data := #v[byteAbove 24 addr, byteAbove 16 addr, byteAbove 8 addr, byteAbove 0 addr] }

/-- `COPY_IPV4_TO_IN` -/
def copyIpv4ToIn (src : IPv4Address) : UInt32 :=
  let addr := word32 src.data[0] src.data[1] src.data[2] src.data[3]
  htonl addr

/-! Socket addresses; what a function does not set is zeroed memory. -/

def afInet : UInt16 := 2
def afInet6 : UInt16 := 10

structure SockaddrIn where
  sinFamily : UInt16
  sinPort : UInt16
  sinAddr : UInt32
  deriving DecidableEq

structure SockaddrIn6 where
  sin6Family : UInt16
  sin6Port : UInt16
  sin6Addr : Vector UInt8 16
  deriving DecidableEq

inductive UniSockAddr where
  | ipv4Addr (a : SockaddrIn)
  | ipv6Addr (a : SockaddrIn6)
  deriving DecidableEq

def SockaddrIn.bytes (a : SockaddrIn) : List UInt8 :=
  le16 a.sinFamily ++ le16 a.sinPort ++ leBytes 4 a.sinAddr.toNat ++ List.replicate 8 0

def SockaddrIn6.bytes (a : SockaddrIn6) : List UInt8 :=
  le16 a.sin6Family ++ le16 a.sin6Port ++ List.replicate 4 0 ++ a.sin6Addr.toList ++
    List.replicate 4 0

/-- What `connect` is given. -/
def UniSockAddr.bytes : UniSockAddr → List UInt8
  | .ipv4Addr a => a.bytes
  | .ipv6Addr a => a.bytes

/-- The address `connect_socket_netns` fills in. -/
def uniSockAddr : IPPortTuple → UniSockAddr
  | .ipv4 ipv4Addr port =>
    .ipv4Addr { sinFamily := afInet, sinPort := htons port, sinAddr := copyIpv4ToIn ipv4Addr }
  | .ipv6 ipv6Addr port =>
    .ipv6Addr { sin6Family := afInet6, sin6Port := htons port, sin6Addr := ipv6Addr.data }

/-! Endpoints in the messages. -/

def IPv4Address.read (m : Mem) (off : Nat) : IPv4Address :=
  { data := Vector.ofFn fun i => m (off + i) }

def IPv6Address.read (m : Mem) (off : Nat) : IPv6Address :=
  { data := Vector.ofFn fun i => m (off + i) }

/-- The endpoint of an accepted connection, as `engine_listener_run` notes it. -/
def passiveTuple (clientAddr : SockaddrIn) : IPPortTuple :=
  .ipv4 (copyInToIpv4 clientAddr.sinAddr) (ntohs clientAddr.sinPort)

/-- The payload that `high_speed_create_sess_passive` puts behind the headers, a
`SessIPv4Params`. -/
def sessIpv4Params (devId transProto : UInt16) (ipv4Addr : IPv4Address) (port : UInt16) :
    List UInt8 :=
  le16 devId ++ le16 transProto ++ ipv4Addr.data.toList ++ le16 port

/-! Addresses. -/

theorem four_bytes (v : Vector UInt8 4) : #v[v[0], v[1], v[2], v[3]] = v := by
  apply Vector.ext
  intro i hi
  rcases i with _ | _ | _ | _ | i
  · rfl
  · rfl
  · rfl
  · rfl
  · omega

theorem toList_four (v : Vector UInt8 4) : v.toList = [v[0], v[1], v[2], v[3]] := by
  calc v.toList = (#v[v[0], v[1], v[2], v[3]]).toList := by rw [four_bytes]
    _ = [v[0], v[1], v[2], v[3]] := rfl

@[simp] theorem copyIpv4ToIn_copyInToIpv4 (sAddr : UInt32) :
    copyIpv4ToIn (copyInToIpv4 sAddr) = sAddr := by
  have hword : copyIpv4ToIn (copyInToIpv4 sAddr) =
      htonl (word32 (byteAbove 24 (ntohl sAddr)) (byteAbove 16 (ntohl sAddr))
        (byteAbove 8 (ntohl sAddr)) (byteAbove 0 (ntohl sAddr))) := rfl
  rw [hword, word32_bytes, htonl_ntohl]

@[simp] theorem copyInToIpv4_copyIpv4ToIn (src : IPv4Address) :
    copyInToIpv4 (copyIpv4ToIn src) = src := by
  have hword : ntohl (copyIpv4ToIn src) =
      word32 src.data[0] src.data[1] src.data[2] src.data[3] := ntohl_htonl _
  unfold copyInToIpv4
  simp only [hword, byteAbove_zero, byteAbove_eight, byteAbove_sixteen, byteAbove_twentyfour]
  exact congrArg IPv4Address.mk (four_bytes src.data)

/-- In a socket address the bytes of an address lie as they are written. -/
theorem leBytes_copyIpv4ToIn (src : IPv4Address) :
    leBytes 4 (copyIpv4ToIn src).toNat = src.data.toList := by
  unfold copyIpv4ToIn
  rw [htonl_word32, leBytes_word32, toList_four]

theorem toList_read4 (m : Mem) (off : Nat) :
    (IPv4Address.read m off).data.toList = load m off 4 := by
  rw [toList_four]
  rfl

theorem toList_read16 (m : Mem) (off : Nat) :
    (IPv6Address.read m off).data.toList = load m off 16 := by
  unfold IPv6Address.read
  rw [Vector.toList_ofFn]
  apply List.ext_getElem
  · simp
  · intro i hi _
    rw [List.getElem_ofFn, getElem_load]

theorem read4_eq {m : Mem} {off : Nat} {src : IPv4Address} (h : load m off 4 = src.data.toList) :
    IPv4Address.read m off = src := by
  cases src with
  | mk data =>
    apply congrArg IPv4Address.mk
    apply Vector.toList_inj.mp
    exact (toList_read4 m off).trans h

/-- A port of a message in the order of the network. -/
theorem le16_htons_u16At (m : Mem) (off : Nat) :
    le16 (htons (u16At m off)) = [m (off + 1), m off] := by
  have h0 := UInt8.toNat_lt (m off)
  have h1 := UInt8.toNat_lt (m (off + 1))
  have hport : (u16At m off).toNat = (m off).toNat + 256 * (m (off + 1)).toNat := by
    unfold u16At
    rw [UInt16.toNat_ofNat']
    omega
  have hhigh : (u16At m off).toNat / 256 = (m (off + 1)).toNat := by omega
  have hlow : (u16At m off).toNat % 256 = (m off).toNat := by omega
  rw [le16_htons, hhigh, hlow, UInt8.ofNat_toNat, UInt8.ofNat_toNat]

/-- The bytes `connect` is given for an endpoint of a message. -/
theorem bytes_ipv4 (m : Mem) (off : Nat) :
    (uniSockAddr (.ipv4 (.read m off) (u16At m (off + 4)))).bytes =
      [2, 0, m (off + 5), m (off + 4)] ++ load m off 4 ++ List.replicate 8 0 := by
  change le16 afInet ++ le16 (htons (u16At m (off + 4))) ++
    leBytes 4 (copyIpv4ToIn (.read m off)).toNat ++ List.replicate 8 0 = _
  rw [le16_htons_u16At, leBytes_copyIpv4ToIn, toList_read4]
  rfl

theorem bytes_ipv6 (m : Mem) (off : Nat) :
    (uniSockAddr (.ipv6 (.read m off) (u16At m (off + 16)))).bytes =
      [10, 0, m (off + 17), m (off + 16)] ++ List.replicate 4 0 ++ load m off 16 ++
        List.replicate 4 0 := by
  change le16 afInet6 ++ le16 (htons (u16At m (off + 16))) ++ List.replicate 4 0 ++
    (IPv6Address.read m off).data.toList ++ List.replicate 4 0 = _
  rw [le16_htons_u16At, toList_read16]
  rfl

/-- The endpoint that is noted of a connection leads back to its other end. -/
theorem uniSockAddr_passiveTuple (clientAddr : SockaddrIn) :
    uniSockAddr (passiveTuple clientAddr) =
      .ipv4Addr { clientAddr with sinFamily := afInet } := by
  simp only [passiveTuple, uniSockAddr, copyIpv4ToIn_copyInToIpv4, htons_ntohs]

/-- The payload of a create command is read back. -/
theorem read_sessIpv4Params {m : Mem} {off : Nat} {devId transProto port : UInt16}
    {ipv4Addr : IPv4Address} (h : load m off 10 = sessIpv4Params devId transProto ipv4Addr port) :
    u16At m off = devId ∧ u16At m (off + 2) = transProto ∧
      IPv4Address.read m (off + 4) = ipv4Addr ∧ u16At m (off + 8) = port := by
  unfold sessIpv4Params at h
  rw [toList_four] at h
  have hcell : ∀ i < 10, some (m (off + i)) = (load m off 10)[i]? := by
    intro i hi
    rw [List.getElem?_eq_getElem (by rw [length_load]; exact hi), getElem_load]
  rw [h] at hcell
  refine ⟨?_, ?_, ?_, ?_⟩
  · exact u16At_of_bytes (Option.some.inj (hcell 0 (by decide)))
      (Option.some.inj (hcell 1 (by decide)))
  · exact u16At_of_bytes (Option.some.inj (hcell 2 (by decide)))
      (Option.some.inj (hcell 3 (by decide)))
  · apply read4_eq
    rw [toList_four]
    have h0 := Option.some.inj (hcell 4 (by decide))
    have h1 := Option.some.inj (hcell 5 (by decide))
    have h2 := Option.some.inj (hcell 6 (by decide))
    have h3 := Option.some.inj (hcell 7 (by decide))
    change [m (off + 4), m (off + 5), m (off + 6), m (off + 7)] = _
    rw [h0, h1, h2, h3]
  · exact u16At_of_bytes (Option.some.inj (hcell 8 (by decide)))
      (Option.some.inj (hcell 9 (by decide)))

end BackendProxy.Wire
