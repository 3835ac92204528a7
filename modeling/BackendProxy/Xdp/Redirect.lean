import BackendProxy.Lib.Bytes
import BackendProxy.Lib.Runs
import BackendProxy.Xdp.Rings

namespace BackendProxy.Xdp

open Lib

/-! The receiver of `xdp_redirect_sock_user.c` and the kernel, one access to the shared rings after
the other. The kernel takes frames from the FILL ring, writes packets into them, and puts
descriptors of them on the RX ring; the receiver gives the frames back. -/

/-- `XSK_RING_PROD__DEFAULT_NUM_DESCS`, and the same for consumers. -/
@[irreducible] def numDescs : Nat := 2048

def optXskFrameSize : Nat := 4096

def batchSize : Nat := 64

/-- What is in front of the payload of an Ethernet frame. -/
def ethHlen : Nat := 14

/-- `struct xdp_desc` without its options. -/
structure XdpDesc where
  addr : UInt64
  len : UInt32
  deriving DecidableEq, Repr

/-- What is printed of a packet. -/
structure EthInfo where
  len : Nat
  hDest : List UInt8
  hSource : List UInt8
  hProto : Nat
  deriving DecidableEq, Repr

def processPacket (m : Nat → UInt8) (packet len : Nat) : EthInfo :=
  { len, hDest := load m packet 6, hSource := load m (packet + 6) 6
    hProto := 256 * (m (packet + 12)).toNat + (m (packet + 13)).toNat }

def xskUmemExtractAddr (addr : UInt64) : UInt64 := addr &&& 0xFFFFFFFFFFFF

def xskUmemExtractOffset (addr : UInt64) : UInt64 := addr >>> 48

def xskUmemAddOffsetToAddr (addr : UInt64) : UInt64 :=
  xskUmemExtractAddr addr + xskUmemExtractOffset addr

/-- The frame an address lies in. -/
def frameOf (addr : UInt64) : Nat := addr.toNat / optXskFrameSize

/-- Where the receiver is: in `xsk_configure_socket`, then in `rx_drop`. -/
inductive RxPc where
  | configure
  | fill (idx : UInt32) (i : Nat)
  | peek
  | reserve (rcvd idxRx idxFq : UInt32)
  | loop (rcvd idxRx idxFq : UInt32) (i : Nat)
  | packet (rcvd idxRx idxFq : UInt32) (i : Nat) (desc : XdpDesc)
  | release (rcvd : UInt32)
  | exited
  deriving DecidableEq, Repr

/-- The receiver, the rings and the frames, and what the kernel has for itself: how many entries of
FILL it took, and the frames of these it holds. The last four fields say what was ever put on FILL
and RX, with which packet, and what was printed; no access reads them. -/
structure Xsk where
  fq : XskRing
  rx : XskRing
  fill : RingMem UInt64
  rxRing : RingMem XdpDesc
  buffer : Nat → UInt8
  pc : RxPc
  rxNpkts : UInt64
  taken : Nat
  held : List Nat
  filled : List UInt64
  described : List XdpDesc
  delivered : List (List UInt8)
  processed : List EthInfo

/-- Store in a slot of the FILL ring. -/
def Xsk.putFill (s : Xsk) (idx : UInt32) (addr : UInt64) : Xsk :=
  { s with
    fill := { s.fill with ring := Function.update s.fill.ring (s.fq.slot idx) addr }
    filled := s.filled ++ [addr] }

/-- The next access of the receiver. The `poll` in between waits, and changes nothing; what
`xsk_ring_prod__reserve` returns is never negative. -/
def receiverAccess (s : Xsk) : Xsk :=
  match s.pc with
  | .configure =>
    let (ret, idx, fq) := xskRingProdReserve s.fq s.fill.consumer (.ofNat numDescs) 0
    { s with fq, pc := if ret ≠ .ofNat numDescs then .exited else .fill idx 0 }
  | .fill idx i =>
    if i < numDescs then
      { s.putFill idx (.ofNat (i * optXskFrameSize)) with pc := .fill (idx + 1) (i + 1) }
    else { s with fill := xskRingProdSubmit s.fill (.ofNat numDescs), pc := .peek }
  | .peek =>
    let (rcvd, idxRx, rx) := xskRingConsPeek s.rx s.rxRing.producer (.ofNat batchSize) 0
    { s with rx, pc := if rcvd = 0 then .peek else .reserve rcvd idxRx 0 }
  | .reserve rcvd idxRx idxFq =>
    let (ret, idxFq, fq) := xskRingProdReserve s.fq s.fill.consumer rcvd idxFq
    { s with fq, pc := if ret = rcvd then .loop rcvd idxRx idxFq 0 else .reserve rcvd idxRx idxFq }
  | .loop rcvd idxRx idxFq i =>
    if i < rcvd.toNat then
      { s with pc := .packet rcvd (idxRx + 1) idxFq i (s.rxRing.ring (s.rx.slot idxRx)) }
    else { s with fill := xskRingProdSubmit s.fill rcvd, pc := .release rcvd }
  | .packet rcvd idxRx idxFq i desc =>
    let orig := xskUmemExtractAddr desc.addr
    let addr := xskUmemAddOffsetToAddr desc.addr
    { s.putFill idxFq orig with
      processed := s.processed ++ [processPacket s.buffer addr.toNat desc.len.toNat]
      pc := .loop rcvd idxRx (idxFq + 1) (i + 1) }
  | .release rcvd =>
    { s with
      rxRing := xskRingConsRelease s.rxRing rcvd
      rxNpkts := s.rxNpkts + rcvd.toUInt64
      pc := .peek }
  | .exited => s

/-- What the kernel does: take a frame from FILL, tell how far it got there, write into a frame,
describe a packet on RX, and show what it described. -/
inductive KernelAct where
  | take
  | release
  | write (frame off : Nat) (bytes : List UInt8)
  | deliver (frame off len : Nat)
  | submit
  deriving DecidableEq, Repr

def frameAddr (frame off : Nat) : Nat := frame * optXskFrameSize + off

/-- It works on the frames it holds, and on RX only as far as there is room. -/
def kernelAccess (s : Xsk) : KernelAct → Except Unit Xsk
  | .take =>
    if UInt32.ofNat s.taken ≠ s.fill.producer then
      .ok
        { s with
          held := frameOf (s.fill.ring (s.taken % numDescs)) :: s.held
          taken := s.taken + 1 }
    else .error ()
  | .release => .ok { s with fill := { s.fill with consumer := .ofNat s.taken } }
  | .write frame off bytes =>
    if frame ∈ s.held ∧ off + bytes.length ≤ optXskFrameSize then
      .ok { s with buffer := store s.buffer (frameAddr frame off) bytes }
    else .error ()
  | .deliver frame off len =>
    if frame ∈ s.held ∧ ethHlen ≤ len ∧ off + len ≤ optXskFrameSize ∧
        (UInt32.ofNat s.described.length - s.rxRing.consumer).toNat < numDescs then
      let desc : XdpDesc := { addr := .ofNat (frameAddr frame off), len := .ofNat len }
      .ok
        { s with
          rxRing :=
            { s.rxRing with
              ring := Function.update s.rxRing.ring (s.described.length % numDescs) desc }
          held := s.held.erase frame
          described := s.described ++ [desc]
          delivered := s.delivered ++ [load s.buffer (frameAddr frame off) len] }
    else .error ()
  | .submit => .ok { s with rxRing := { s.rxRing with producer := .ofNat s.described.length } }

inductive XskAct where
  | receiver
  | kernel (act : KernelAct)
  deriving DecidableEq, Repr

def xskStep (s : Xsk) : XskAct → Except Unit Xsk
  | .receiver => .ok (receiverAccess s)
  | .kernel act => kernelAccess s act

/-- What `xsk_umem__create` and `xsk_socket__create` leave: rings nothing was ever put on. -/
structure Created (s : Xsk) : Prop where
  fq : s.fq = { cachedProd := 0, cachedCons := 2048, mask := 2047, size := 2048 }
  rx : s.rx = { cachedProd := 0, cachedCons := 0, mask := 2047, size := 2048 }
  fill : s.fill.producer = 0 ∧ s.fill.consumer = 0
  rxRing : s.rxRing.producer = 0 ∧ s.rxRing.consumer = 0
  pc : s.pc = .configure
  rxNpkts : s.rxNpkts = 0
  taken : s.taken = 0
  held : s.held = []
  filled : s.filled = []
  described : s.described = []
  delivered : s.delivered = []
  processed : s.processed = []

/-! What is to hold of every run. -/

/-- What is to be printed of a packet. -/
def infoOf (packet : List UInt8) : EthInfo :=
  processPacket (store (fun _ => 0) 0 packet) 0 packet.length

/-- The frames `xsk_configure_socket` has not put on FILL yet. -/
def RxPc.unfilled : RxPc → List Nat
  | .configure => List.range numDescs
  | .fill _ i => List.range' i (numDescs - i)
  | _ => []

/-- All frames, by where they are: not in use yet, on FILL, with the kernel, and on RX or with the
receiver. -/
def Xsk.custody (s : Xsk) : List Nat :=
  s.pc.unfilled ++ ((s.filled.drop s.taken).map frameOf ++ (s.held ++
    (s.described.drop s.processed.length).map fun desc => frameOf desc.addr))

/-- The kernel has told all it did. -/
def Xsk.Told (s : Xsk) : Prop :=
  s.fill.consumer = .ofNat s.taken ∧ s.rxRing.producer = .ofNat s.described.length

/-- So many accesses of the receiver in a row. -/
def receiverRun : Nat → Xsk → Xsk
  | 0, s => s
  | n + 1, s => receiverRun n (receiverAccess s)

end BackendProxy.Xdp
