import BackendProxy.Pool.Identifiers
import BackendProxy.Pool.MainLoop
import BackendProxy.Wire.RoundTrip
import Mathlib.Data.List.Infix

namespace BackendProxy.Pool

open Lib Queue Wire

/-! The stream to the frontend: what is read from the socket goes out on TX, in DATA messages. -/

def Transmission.payload (x : Transmission) : List UInt8 := x.message.drop proxyMsgHdrSize

/-- A DATA message of version 1 with the IDs of its session, that announces its payload right,
whatever lies behind it in memory. -/
structure Transmission.Framed (x : Transmission) : Prop where
  version : ∀ m, (ProxyMsgHeader.read (Lib.store m 0 x.message) 0).version = 1
  data : ∀ m, ProxyMsgType.ofCode
    (ProxyMsgHeader.read (Lib.store m 0 x.message) 0).proxyMsgType = some .data
  frontend : ∀ m,
    (ProxyMsgHeader.read (Lib.store m 0 x.message) 0).frontendSessId = x.frontendSessId
  backend : ∀ m,
    (ProxyMsgHeader.read (Lib.store m 0 x.message) 0).backendSessId = x.backendSessId
  payloadLen : ∀ m,
    (ProxyMsgHeader.read (Lib.store m 0 x.message) 0).payloadLen.toNat = x.payload.length
  bounded : x.payload.length ≤ proxyMsgMaxSize
  size : x.message.length = x.payload.length + proxyMsgHdrSize

/-- The backend-to-frontend stream of a session. -/
structure TransmittedInOrder (e : Engine) (p : SessPtr) : Prop where
  stream : ((e.history p).transmitted.map Transmission.payload).flatten <+:
    (e.history p).received.flatten
  framed : ∀ x ∈ (e.history p).transmitted, x.Framed
  own : ∀ s, p ∈ e.htable → e.heap p = some s → ∀ x ∈ (e.history p).transmitted,
    x.frontendSessId = s.frontendSessId ∧ x.backendSessId = s.backendSessId
  /-- While the session is there, what was read and is not on TX yet still waits. -/
  kept : ∀ s, p ∈ e.htable → e.heap p = some s →
    (e.history p).transmitted.map Transmission.message ++ s.msg .b2f =
      (e.history p).received.map (dataMessage s.frontendSessId s.backendSessId)

theorem length_dataMessage (frontend backend : UInt16) (payload : List UInt8) :
    (dataMessage frontend backend payload).length = payload.length + proxyMsgHdrSize := by
  simp [dataMessage, Nat.add_comm]

theorem payload_dataMessage (frontend backend f b : UInt16) (payload : List UInt8) :
    Transmission.payload ⟨f, b, dataMessage frontend backend payload⟩ = payload := by
  simp only [Transmission.payload, dataMessage]
  exact List.drop_left' rfl

theorem framed_dataMessage (frontend backend : UInt16) {payload : List UInt8}
    (h : payload.length ≤ proxyMsgMaxSize) :
    Transmission.Framed ⟨frontend, backend, dataMessage frontend backend payload⟩ := by
  have hlen : (UInt16.ofNat payload.length).toNat = payload.length := by
    rw [UInt16.toNat_ofNat', Nat.mod_eq_of_lt]
    unfold proxyMsgMaxSize at h
    omega
  have hpay := payload_dataMessage frontend backend frontend backend payload
  refine ⟨?_, ?_, ?_, ?_, ?_, by rw [hpay]; exact h, by rw [hpay, length_dataMessage]⟩
  all_goals
    intro m
    simp only [dataMessage, ProxyMsgHeader.read_store]
  · rfl
  · rw [hlen]
    exact congrArg List.length hpay.symm

/-- Every read gives at most what one message holds. -/
theorem readSegments_bounded {n : Int} {outcomes : List ReadOutcome} :
    ∀ seg ∈ (readSegments n outcomes).2, seg.length ≤ proxyMsgMaxSize := by
  induction outcomes generalizing n with
  | nil =>
    intro seg hseg
    simp only [readSegments] at hseg
    split at hseg <;> cases hseg
  | cons outcome outcomes ih =>
    intro seg hseg
    simp only [readSegments] at hseg
    split at hseg
    · cases outcome with
      | noMemory | failed => cases hseg
      | got bytes =>
        rcases List.mem_cons.mp hseg with rfl | hseg
        · exact List.length_take_le _ _
        · exact ih seg hseg
    · cases hseg

/-- Segments that fit are put on TX in order, or stay. -/
theorem transmitSegments_conserved {blockSize : Nat} {full : Nat → Bool}
    {segs : List (List UInt8)} {i : Nat}
    (h : ∀ seg ∈ segs, 0 < seg.length ∧ seg.length ≤ blockSize) :
    (transmitSegments blockSize full i segs).2.2 ++ (transmitSegments blockSize full i segs).2.1 =
      segs := by
  induction segs generalizing i with
  | nil => rfl
  | cons seg segs ih =>
    obtain ⟨hpos, hfit⟩ := h seg List.mem_cons_self
    have hrest := ih (i := i + 1) (fun seg' hseg' => h seg' (List.mem_cons_of_mem seg hseg'))
    have hput : txPutStatus blockSize (full i) seg = if full i then .again else .ok := by
      unfold txPutStatus
      rw [if_neg (by omega), if_neg (by omega)]
    simp only [transmitSegments, hput]
    cases full i with
    | true => rfl
    | false => exact congrArg (seg :: ·) hrest

/-- The messages put on TX and those that wait are together one for each read, in order. -/
structure Relayed (frontend backend : UInt16) (waiting : List (List UInt8)) (h : SessHistory) :
    Prop where
  order : h.transmitted.map Transmission.message ++ waiting =
    h.received.map (dataMessage frontend backend)
  own : ∀ x ∈ h.transmitted, x.frontendSessId = frontend ∧ x.backendSessId = backend
  bounded : ∀ seg ∈ h.received, seg.length ≤ proxyMsgMaxSize

section Relayed

variable {frontend backend : UInt16} {waiting : List (List UInt8)} {h : SessHistory}

theorem relayed_blank (frontend backend : UInt16) : Relayed frontend backend [] .blank := by
  refine ⟨rfl, ?_, ?_⟩
  · intro x hx
    cases hx
  · intro seg hseg
    cases hseg

theorem Relayed.read (hr : Relayed frontend backend waiting h) (n : Int)
    (outcomes : List ReadOutcome) :
    Relayed frontend backend
      (waiting ++ (readSegments n outcomes).2.map (dataMessage frontend backend))
      { h with received := h.received ++ (readSegments n outcomes).2 } := by
  refine ⟨?_, hr.own, ?_⟩
  · rw [List.map_append, ← hr.order, List.append_assoc]
  · intro seg hseg
    rcases List.mem_append.mp hseg with hseg | hseg
    · exact hr.bounded seg hseg
    · exact readSegments_bounded seg hseg

/-- A waiting message fits into a block. -/
theorem Relayed.fits (hr : Relayed frontend backend waiting h) {blockSize : Nat}
    (room : 4096 ≤ blockSize) {msg : List UInt8} (hm : msg ∈ waiting) :
    0 < msg.length ∧ msg.length ≤ blockSize := by
  have hin : msg ∈ h.received.map (dataMessage frontend backend) := by
    rw [← hr.order]
    exact List.mem_append_right _ hm
  obtain ⟨seg, hseg, rfl⟩ := List.mem_map.mp hin
  have hlen := hr.bounded seg hseg
  rw [length_dataMessage]
  unfold proxyMsgMaxSize at hlen
  unfold proxyMsgHdrSize
  omega

theorem Relayed.transmit (hr : Relayed frontend backend waiting h) {blockSize : Nat}
    (room : 4096 ≤ blockSize) {full : Nat → Bool} :
    Relayed frontend backend (transmitSegments blockSize full 0 waiting).2.1
      { h with transmitted := h.transmitted ++
          (transmitSegments blockSize full 0 waiting).2.2.map fun msg =>
            ⟨frontend, backend, msg⟩ } := by
  refine ⟨?_, ?_, hr.bounded⟩
  · have hmessages : ∀ msgs : List (List UInt8),
        (msgs.map fun msg => (⟨frontend, backend, msg⟩ : Transmission)).map
          Transmission.message = msgs := by
      intro msgs
      rw [List.map_map]
      exact List.map_id msgs
    rw [List.map_append, hmessages, List.append_assoc,
      transmitSegments_conserved (fun msg hm => hr.fits room hm)]
    exact hr.order
  · intro x hx
    rcases List.mem_append.mp hx with hx | hx
    · exact hr.own x hx
    · obtain ⟨msg, -, rfl⟩ := List.mem_map.mp hx
      exact ⟨rfl, rfl⟩

theorem Relayed.step {P : Premises} {blockSize : Nat} {p : SessPtr} {x y : SessTraffic}
    {h' : SessHistory} (hs : SessStep P blockSize p x h y h') (room : 4096 ≤ blockSize)
    (hr : Relayed x.frontendSessId x.backendSessId (x.msg .b2f) h) :
    Relayed y.frontendSessId y.backendSessId (y.msg .b2f) h' := by
  cases hs with
  | accept payload => exact ⟨hr.order, hr.own, hr.bounded⟩
  | send env bufSize _ => exact ⟨hr.order, hr.own, hr.bounded⟩
  | read n outcomes _ =>
    have hread := hr.read n outcomes
    unfold SessTraffic.afterRead
    split
    · rw [SessTraffic.link_msg, SessTraffic.setMsg_msg]
      exact hread
    · rw [SessTraffic.setMsg_msg]
      exact hread
  | transmit full =>
    rw [SessTraffic.setMsg_msg]
    exact hr.transmit room
  | drop d _ => exact hr

/-- Each message put on TX carries one read, in the order of the reads. -/
theorem Relayed.payloads (hr : Relayed frontend backend waiting h) :
    ∃ segs, segs <+: h.received ∧
      h.transmitted =
        segs.map fun seg => ⟨frontend, backend, dataMessage frontend backend seg⟩ := by
  obtain ⟨segs, rest, hsplit, hsegs, -⟩ := List.map_eq_append_iff.mp hr.order.symm
  refine ⟨segs, ⟨rest, hsplit.symm⟩, ?_⟩
  have hself : ∀ x ∈ h.transmitted, (⟨frontend, backend, x.message⟩ : Transmission) = x := by
    intro x hx
    obtain ⟨hf, hb⟩ := hr.own x hx
    rw [← hf, ← hb]
  calc
    h.transmitted = h.transmitted.map fun x => ⟨frontend, backend, x.message⟩ :=
      ((List.map_congr_left hself).trans (List.map_id' _)).symm
    _ = (h.transmitted.map Transmission.message).map fun msg => ⟨frontend, backend, msg⟩ :=
      List.map_map.symm
    _ = (segs.map (dataMessage frontend backend)).map fun msg => ⟨frontend, backend, msg⟩ := by
      rw [hsegs]
    _ = segs.map fun seg => ⟨frontend, backend, dataMessage frontend backend seg⟩ :=
      List.map_map

theorem Relayed.stream (hr : Relayed frontend backend waiting h) :
    (h.transmitted.map Transmission.payload).flatten <+: h.received.flatten := by
  obtain ⟨segs, ⟨rest, hrest⟩, hsegs⟩ := hr.payloads
  have hpay : h.transmitted.map Transmission.payload = segs := by
    rw [hsegs, List.map_map]
    refine (List.map_congr_left (fun seg _ => ?_)).trans (List.map_id segs)
    exact payload_dataMessage frontend backend frontend backend seg
  rw [hpay, ← hrest, List.flatten_append]
  exact List.prefix_append _ _

theorem Relayed.framed (hr : Relayed frontend backend waiting h) :
    ∀ x ∈ h.transmitted, x.Framed := by
  obtain ⟨segs, hpre, hsegs⟩ := hr.payloads
  intro x hx
  rw [hsegs] at hx
  obtain ⟨seg, hseg, rfl⟩ := List.mem_map.mp hx
  exact framed_dataMessage frontend backend (hr.bounded seg (hpre.subset hseg))

end Relayed

def relayRule (blockSize : Nat) (room : 4096 ≤ blockSize) : SessRule anyAnswers blockSize :=
  { Live := fun _ x h => Relayed x.frontendSessId x.backendSessId (x.msg .b2f) h
    Past := fun _ h => ∃ frontend backend waiting, Relayed frontend backend waiting h
    blank := fun _ => ⟨0, 0, [], relayed_blank 0 0⟩
    start := fun _ frontend backend _ _ => relayed_blank frontend backend
    step := fun _ _ _ _ _ hs hr => hr.step hs room
    past := fun _ _ _ hr => ⟨_, _, _, hr⟩ }

/-- Whatever the system answers, the stream of a session reaches TX in order, well framed, and
without loss while the session lives. -/
theorem backendStream_preserved (devNum : Nat) (config : Nat → HighSpeedNetDevice)
    (blockSize : Nat) (room : 4096 ≤ blockSize) (ops : List MainOp) (t : Engine) (p : SessPtr)
    (reached : run mainStep (highSpeedInitPool devNum config blockSize) ops = .ok t) :
    TransmittedInOrder t p := by
  obtain ⟨l, -, hobeyed⟩ := main_obeys (relayRule blockSize room) (anyAnswers_met _ ops) reached
  obtain ⟨frontend, backend, waiting, hpast⟩ := hobeyed.past p
  refine ⟨hpast.stream, hpast.framed, ?_, ?_⟩
  · intro s hp hs
    exact (hobeyed.live p _ (traffic_sess hp hs)).own
  · intro s hp hs
    exact (hobeyed.live p _ (traffic_sess hp hs)).order

/-- Two reads of a session; the second message finds the TX queue full. -/
theorem backendStream_preserved_full :
    ∃ t, run mainStep oneDevice
        [.pool (.createActive tcpRequest goodEnv),
          .poll [⟨5, 0, false, true, some 5, [.got [1, 2], .got [3, 4, 5]]⟩],
          .step4 (fun _ i => i == 1) (fun _ => goodMsgEnv.delete)] = .ok t ∧
      (t.history 0).transmitted.map Transmission.payload = [[1, 2]] ∧
      TransmittedInOrder t 0 := by
  obtain ⟨t, ht, hsent⟩ := reached_of_view
    (f := fun t => (t.history 0).transmitted.map Transmission.payload) (b := [[1, 2]])
    (show (run mainStep oneDevice
        [.pool (.createActive tcpRequest goodEnv),
          .poll [⟨5, 0, false, true, some 5, [.got [1, 2], .got [3, 4, 5]]⟩],
          .step4 (fun _ i => i == 1) (fun _ => goodMsgEnv.delete)]).toOption.map _ = _ by
      decide +kernel)
  exact ⟨t, ht, hsent, backendStream_preserved 1 _ 4096 (Nat.le_refl _) _ t 0 ht⟩

end BackendProxy.Pool
