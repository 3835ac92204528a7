import BackendProxy.Wire.Receive

namespace BackendProxy.Wire

open Lib Queue

/-! The CAN gateway: frames written for IoT messages, and messages built for frames read. -/

def canMaxDlen : Nat := 8

/-- `struct can_frame` as it is written; what the data does not fill is zero. -/
structure CanFrame where
  canId : UInt32
  canDlc : UInt8
  data : List UInt8
  length_data : data.length = canMaxDlen
  deriving DecidableEq

/-- A send: its status, and the frames handed to `write`. -/
structure CanSent where
  status : ProcessStatus
  written : List CanFrame

/-- `write` tells whether the write succeeds. The address of the message is not looked at. -/
def canSendToRemote (write : Bool) (m : Mem) (msg : IotSend) : CanSent :=
  let canDlc := UInt8.ofNat msg.len
  if h : canMaxDlen < canDlc.toNat then { status := .error, written := [] }
  else
    { status := if write then .ok else .error
      written :=
        [{ canId := 0x123, canDlc
           data := load m msg.data canDlc.toNat ++ List.replicate (canMaxDlen - canDlc.toNat) 0
           length_data := by
             rw [List.length_append, length_load, List.length_replicate]
             omega }] }

/-! What a transparent gateway does. -/

/-- One frame with the address and the bytes of the message if they fit a frame, nothing written
and an error otherwise. -/
structure DownlinkTransparent (sent : CanSent) (canId : UInt32) (payload : List UInt8) : Prop where
  fits : payload.length ≤ canMaxDlen → ∃ frame, sent.written = [frame] ∧ frame.canId = canId ∧
    frame.canDlc.toNat = payload.length ∧ frame.data.take payload.length = payload
  refused : canMaxDlen < payload.length → sent.status = .error ∧ sent.written = []

/-- A read of a whole frame, of at most eight bytes of data. -/
structure WholeFrame (d : Delivery 1 canFrameSize) : Prop where
  len : d.len = canFrameSize
  canDlc : (d.mem 4).toNat ≤ canMaxDlen

/-- Where the payload of a CAN message starts. -/
def canPayloadOff : Nat := proxyMsgHdrSize + iotMsgHeaderSize + iotAddrSize .can

/-- The address of the message is the one of the frame, and its payload the data of the frame. -/
def CarriesFrame (message : List UInt8) (d : Delivery 1 canFrameSize) : Prop :=
  (IotCanAddr.read (store (fun _ => 0) 0 message) (proxyMsgHdrSize + iotMsgHeaderSize)).canId =
      u32At d.mem 0 ∧
    message.drop canPayloadOff = load d.mem canDataOff (d.mem 4).toNat

/-- What is copied lies in the data field of the frame, and a message enqueued carries the frame. -/
structure PassTransparent (pass : Pass 1 canFrameSize) (d : Delivery 1 canFrameSize) : Prop where
  inside : ∀ i ∈ pass.receipt.payload.cells pass.receipt.mem,
    canDataOff ≤ i ∧ i < canDataOff + canMaxDlen
  carries : ∀ message, pass.put = some message → CarriesFrame message d

/-- In every run of the loop, every whole frame is passed on so. -/
def UplinkTransparent (txReady : Bool) (peers : Nat → TxQueue → TxQueue) (sess : IotSession)
    (source : IotSource 1 canFrameSize) (tx : TxQueue) : Prop :=
  ∀ fuel run, canLoop.drive canRecvFromRemote txReady peers fuel 0 sess source tx = some run →
    ∀ pass ∈ run.passes, ∀ d, pass.receipt.made = some d → WholeFrame d → PassTransparent pass d

/-! Downlink. -/

section Downlink

variable {write : Bool} {m : Mem} {s : IotSend}

theorem canSend_refused (h : canMaxDlen < s.len) (hlen : s.len < 256) :
    canSendToRemote write m s = { status := .error, written := [] } := by
  have hdlc : (UInt8.ofNat s.len).toNat = s.len := by simpa using hlen
  rw [canSendToRemote, dif_pos (by rwa [hdlc])]

theorem canSend_written (write : Bool) (m : Mem) (h : s.len ≤ canMaxDlen) :
    ∃ frame, (canSendToRemote write m s).written = [frame] ∧ frame.canId = 0x123 ∧
      frame.canDlc.toNat = s.len ∧ frame.data.take s.len = load m s.data s.len := by
  have hsize : canMaxDlen = 8 := rfl
  have hdlc : (UInt8.ofNat s.len).toNat = s.len := by
    rw [UInt8.toNat_ofNat']
    omega
  have hfits : ¬ canMaxDlen < (UInt8.ofNat s.len).toNat := by omega
  rw [canSendToRemote, dif_neg hfits]
  refine ⟨_, rfl, rfl, hdlc, ?_⟩
  change (load m s.data (UInt8.ofNat s.len).toNat ++ List.replicate _ 0).take s.len = _
  rw [hdlc, List.take_append_of_le_length (by simp), List.take_of_length_le (by simp)]

/-- A frame has one identifier, the same for all. -/
theorem downlinkTransparent_iff (canId : UInt32) (hlen : s.len < 256) :
    DownlinkTransparent (canSendToRemote write m s) canId (load m s.data s.len) ↔
      canMaxDlen < s.len ∨ canId = 0x123 := by
  constructor
  · intro h
    by_cases hfits : s.len ≤ canMaxDlen
    · obtain ⟨frame, hwritten, hid, -⟩ := h.fits (by rwa [length_load])
      obtain ⟨frame', hwritten', hid', -⟩ := canSend_written write m hfits
      rw [hwritten'] at hwritten
      cases hwritten
      exact .inr (hid.symm.trans hid')
    · exact .inl (Nat.lt_of_not_le hfits)
  · intro h
    constructor
    · intro hfits
      rw [length_load] at hfits
      obtain ⟨frame, hwritten, hid, hdlc, hdata⟩ :=
        canSend_written write m hfits
      have hcan : canId = 0x123 := by
        rcases h with hlong | hcan
        · omega
        · exact hcan
      exact ⟨frame, hwritten, hid.trans hcan.symm, by rw [length_load]; exact hdlc,
        by rw [length_load]; exact hdata⟩
    · intro hlong
      rw [length_load] at hlong
      rw [canSend_refused hlong hlen]
      exact ⟨rfl, rfl⟩

end Downlink

/-- What the CAN handler sends. -/
theorem backendProxyCanMsgProcess_send {present : Bool} {m : Mem} {hdr : IotMsgHeader}
    {iotData : Nat} {s : IotSend}
    (h : backendProxyCanMsgProcess present m hdr iotData = .send s) :
    s = { addr := .can (IotCanAddr.read m iotData), data := iotData + iotAddrSize .can
          len := hdr.payloadLen.toNat - iotAddrSize .can } ∧ s.len < 256 := by
  unfold backendProxyCanMsgProcess iotSendToRemote at h
  split at h
  · cases h
  · split at h
    · cases h
    · rename_i hmax
      split at h
      · cases h
      · cases h
        refine ⟨rfl, ?_⟩
        have hlimit : iotMaxPayload .can = 64 := rfl
        rw [hlimit] at hmax
        exact Nat.lt_of_le_of_lt (Nat.sub_le ..) (by omega)

/-! Uplink. -/

section Uplink

variable {txReady : Bool} {peers : Nat → TxQueue → TxQueue} {k fuel : Nat}
  {sess sess' : IotSession} {source source' : IotSource 1 canFrameSize} {tx : TxQueue}
  {run : DriveRun 1 canFrameSize}

/-- One pass for each delivery, in order. -/
theorem can_drive_made (hclient : sess.workingMode = .client)
    (h : canLoop.drive canRecvFromRemote txReady peers fuel k sess source tx = some run) :
    run.passes.map (fun pass => pass.receipt.made) = source.deliveries.map some := by
  induction fuel generalizing k source tx run with
  | zero => cases h
  | succ fuel ih =>
    cases hd : source.deliveries with
    | nil =>
      rw [drive_last (canRecv_none fun _ => hd)] at h
      cases h
      rfl
    | cons d rest =>
      obtain ⟨receipt, hstep⟩ := canRecv_step hclient hd
      obtain ⟨d', hd', hmade, -⟩ := canRecv_ok hstep
      rw [drive_next hstep, Option.map_eq_some_iff] at h
      obtain ⟨later, hlater, rfl⟩ := h
      rw [hd] at hd'
      cases hd'
      rw [List.map_cons, List.map_cons, ih hlater, hmade]

/-- A pass takes as much from the data field on as was read. -/
theorem can_drive_pass
    (h : canLoop.drive canRecvFromRemote txReady peers fuel k sess source tx = some run) :
    ∀ pass ∈ run.passes, ∃ d, pass.receipt.made = some d ∧ pass.receipt.mem = d.mem ∧
      pass.receipt.payload = Peek.block canDataOff (1 * d.len) := by
  refine drive_all (I := fun _ => True) (P := fun receipt => ∃ d, receipt.made = some d ∧
    receipt.mem = d.mem ∧ receipt.payload = Peek.block canDataOff (1 * d.len)) ?_ trivial h
  intro sess source receipt sess' source' _ hstep
  obtain ⟨d, -, hmade, hmem, hpayload⟩ := canRecv_ok hstep
  exact ⟨trivial, d, hmade, hmem, hpayload⟩

/-- For a whole frame eight bytes are taken from behind its data field. -/
theorem wholeFrame_not_inside {receipt : Receipt 1 canFrameSize} {d : Delivery 1 canFrameSize}
    (hpayload : receipt.payload = Peek.block canDataOff (1 * d.len)) (hwhole : WholeFrame d) :
    ¬ ∀ i ∈ receipt.payload.cells receipt.mem, canDataOff ≤ i ∧ i < canDataOff + canMaxDlen := by
  intro h
  have hlen := hwhole.len
  have hframe : canFrameSize = 16 := rfl
  have hdata : canMaxDlen = 8 := rfl
  rw [hpayload] at h
  have hlast := h (canDataOff + canMaxDlen) (by
    change _ ∈ List.range' canDataOff (1 * d.len)
    rw [List.mem_range'_1]
    omega)
  omega

/-- A message built for a whole frame has twice the bytes a frame can have for a payload. -/
theorem wholeFrame_not_carried {receipt : Receipt 1 canFrameSize} {d : Delivery 1 canFrameSize}
    (hpayload : receipt.payload = Peek.block canDataOff (1 * d.len)) (hwhole : WholeFrame d) :
    ¬ CarriesFrame (canLoop.message receipt.msg) d := by
  intro h
  have hlen := congrArg List.length h.2
  have hdata : receipt.msg.data.length = 16 := by
    simp [Receipt.msg, hpayload, hwhole.len, canFrameSize]
  have hdlc := hwhole.canDlc
  have hmax : canMaxDlen = 8 := rfl
  rw [List.length_drop, length_load, canLoop.length_message, hdata] at hlen
  have hproto : canLoop.proto = .can := rfl
  rw [hproto, canPayloadOff] at hlen
  omega

theorem not_passTransparent {pass : Pass 1 canFrameSize} {d : Delivery 1 canFrameSize}
    (h : canLoop.drive canRecvFromRemote txReady peers fuel k sess source tx = some run)
    (hpass : pass ∈ run.passes) (hmade : pass.receipt.made = some d) (hwhole : WholeFrame d) :
    ¬ PassTransparent pass d ∧
      ∀ message, pass.put = some message → ¬ CarriesFrame message d := by
  obtain ⟨d', hmade', -, hpayload⟩ := can_drive_pass h pass hpass
  cases hmade.symm.trans hmade'
  constructor
  · exact fun htransparent => wholeFrame_not_inside hpayload hwhole htransparent.inside
  · intro message hmessage
    rw [(drive_puts h pass hpass).built hmessage]
    exact wholeFrame_not_carried hpayload hwhole

/-- No whole frame gets through as it should. -/
theorem uplinkTransparent_iff :
    UplinkTransparent txReady peers sess source tx ↔
      (sess.workingMode = .client → ∀ d ∈ source.deliveries, ¬ WholeFrame d) := by
  constructor
  · intro h hclient d hd hwhole
    have hreturns : ∃ run, canLoop.drive canRecvFromRemote txReady peers
        (source.deliveries.length + 1) 0 sess source tx = some run :=
      drive_returns can_consumes 0 sess source tx trivial
    obtain ⟨run, hrun⟩ := hreturns
    have hmade : some d ∈ run.passes.map fun pass => pass.receipt.made := by
      rw [can_drive_made hclient hrun]
      exact List.mem_map.mpr ⟨d, hd, rfl⟩
    obtain ⟨pass, hpass, hmade⟩ := List.mem_map.mp hmade
    exact (not_passTransparent hrun hpass hmade hwhole).1 (h _ run hrun pass hpass d hmade hwhole)
  · intro h fuel run hrun pass hpass d hmade hwhole
    by_cases hclient : sess.workingMode = .client
    · have hmem : some d ∈ run.passes.map fun pass => pass.receipt.made :=
        List.mem_map.mpr ⟨pass, hpass, hmade⟩
      rw [can_drive_made hclient hrun] at hmem
      obtain ⟨d', hd', heq⟩ := List.mem_map.mp hmem
      cases heq
      exact absurd hwhole (h hclient d hd')
    · cases fuel with
      | zero => cases hrun
      | succ fuel =>
        rw [drive_last (canRecv_none fun hc => absurd hc hclient)] at hrun
        cases hrun
        cases hpass

end Uplink

/-- An accepted message goes out as it should exactly if it does not fit a frame or is for the one
identifier every frame gets; a whole frame read never comes in as it should, and what is enqueued
for it is something else. -/
theorem canGateway_transparent_iff {present : Bool} {m : Mem} {hdr : IotMsgHeader} {iotData : Nat}
    {s : IotSend} (h : backendProxyCanMsgProcess present m hdr iotData = .send s) (write : Bool)
    (txReady : Bool) (peers : Nat → TxQueue → TxQueue) (sess : IotSession)
    (source : IotSource 1 canFrameSize) (tx : TxQueue) :
    (DownlinkTransparent (canSendToRemote write m s) (IotCanAddr.read m iotData).canId
        (load m (iotData + iotAddrSize .can) (hdr.payloadLen.toNat - iotAddrSize .can)) ↔
      canMaxDlen < hdr.payloadLen.toNat - iotAddrSize .can ∨
        (IotCanAddr.read m iotData).canId = 0x123) ∧
    (UplinkTransparent txReady peers sess source tx ↔
      (sess.workingMode = .client → ∀ d ∈ source.deliveries, ¬ WholeFrame d)) ∧
    ∀ fuel run, canLoop.drive canRecvFromRemote txReady peers fuel 0 sess source tx = some run →
      ∀ pass ∈ run.passes, ∀ d, pass.receipt.made = some d → WholeFrame d →
        ∀ message, pass.put = some message → ¬ CarriesFrame message d := by
  obtain ⟨rfl, hlen⟩ := backendProxyCanMsgProcess_send h
  refine ⟨downlinkTransparent_iff _ hlen, uplinkTransparent_iff, ?_⟩
  intro fuel run hrun pass hpass d hmade hwhole
  exact (not_passTransparent hrun hpass hmade hwhole).2

/-- One byte `0xAA` for the identifier `canId`. -/
def canByte (canId : UInt32) : Mem :=
  store (fun _ => 0) 2
    [UInt8.ofNat canId.toNat, UInt8.ofNat (canId.toNat / 256), UInt8.ofNat (canId.toNat / 65536),
      UInt8.ofNat (canId.toNat / 16777216), 0, 0xAA]

def canByteHeader : IotMsgHeader :=
  { protoVer := 1, protoType := 3, opcode := 0, devPortId := 0, payloadLen := 8, reserve := 0 }

def canByteSend (canId : UInt32) : IotSend :=
  { addr := .can (IotCanAddr.read (canByte canId) 0), data := 7, len := 1 }

theorem canByte_sent (canId : UInt32) :
    backendProxyCanMsgProcess true (canByte canId) canByteHeader 0 = .send (canByteSend canId) :=
  rfl

theorem canGateway_transparent_iff_byte :
    backendProxyCanMsgProcess true (canByte 0x123) canByteHeader 0 = .send (canByteSend 0x123) ∧
      (DownlinkTransparent (canSendToRemote true (canByte 0x123) (canByteSend 0x123))
          (IotCanAddr.read (canByte 0x123) 0).canId
          (load (canByte 0x123) (0 + iotAddrSize .can)
            (canByteHeader.payloadLen.toNat - iotAddrSize .can)) ↔
        canMaxDlen < canByteHeader.payloadLen.toNat - iotAddrSize .can ∨
          (IotCanAddr.read (canByte 0x123) 0).canId = 0x123) :=
  ⟨canByte_sent 0x123, (canGateway_transparent_iff (canByte_sent 0x123) true true (fun _ => id)
    clientSession oneFrame fullTx).1⟩

/-- A byte for `0x200` goes out under `0x123`, and two bytes come in as sixteen. -/
theorem canGateway_slip :
    backendProxyCanMsgProcess true (canByte 0x200) canByteHeader 0 = .send (canByteSend 0x200) ∧
      ¬ DownlinkTransparent (canSendToRemote true (canByte 0x200) (canByteSend 0x200))
        (IotCanAddr.read (canByte 0x200) 0).canId [0xAA] ∧
      ¬ UplinkTransparent true (fun _ => id) clientSession oneFrame fullTx := by
  refine ⟨canByte_sent 0x200, fun h => ?_, fun h => ?_⟩
  · have hiff := (@downlinkTransparent_iff true (canByte 0x200) (canByteSend 0x200)
      (IotCanAddr.read (canByte 0x200) 0).canId (by decide)).mp h
    revert hiff
    decide
  · exact uplinkTransparent_iff.mp h rfl _ (List.mem_singleton.mpr rfl) ⟨rfl, by decide⟩

end BackendProxy.Wire
