import BackendProxy.Wire.Gateway

namespace BackendProxy.Wire

open Lib Queue

/-! Runs of the gateway: what gets through, what is answered, and which rounds do not end. -/

section Step

variable {g t u : Gateway} {a : GatewayOp} {r : GatewayRound}

/-- What no operation changes of the sessions. -/
structure Kept (g t : Gateway) : Prop where
  bluetoothSess : t.bluetoothSess = g.bluetoothSess
  canSess : t.canSess = g.canSess
  mode : t.modbustcpSess.map (fun s => s.workingMode) =
    g.modbustcpSess.map fun s => s.workingMode
  priData : t.modbustcpSess.map (fun s => s.priData) = g.modbustcpSess.map fun s => s.priData
  others : t.others = g.others
  txReady : t.txReady = g.txReady

theorem Kept.sessions (h : Kept g t) : t.sessions = g.sessions := by
  have hmodbus : t.modbustcpSess.isSome = g.modbustcpSess.isSome := by
    rw [← Option.isSome_map (f := fun s : IotSession => s.workingMode), h.mode, Option.isSome_map]
  funext proto
  cases proto <;> simp [Gateway.sessions, h.bluetoothSess, h.canSess, hmodbus, h.others]

theorem Kept.command (h : Kept g t) : t.command = g.command := by
  have hclient : IsClient t.modbustcpSess ↔ IsClient g.modbustcpSess := by
    unfold IsClient
    rw [h.mode]
  funext m
  unfold Gateway.command
  rw [h.sessions, decide_eq_decide.mpr hclient]

theorem Kept.downlink (h : Kept g t) : t.downlink = g.downlink := by
  funext a
  cases a <;> simp [Gateway.downlink, h.sessions, h.bluetoothSess]

theorem Kept.readable (h : Kept g t) : t.readable = g.readable := by
  have hmode := h.mode
  have hdata := h.priData
  unfold Gateway.readable
  cases ht : t.modbustcpSess with
  | none =>
    rw [ht] at hmode
    rw [Option.map_eq_none_iff.mp hmode.symm]
  | some s =>
    rw [ht, Option.map_some] at hmode hdata
    obtain ⟨s', hs', hsame⟩ := Option.map_eq_some_iff.mp hmode.symm
    rw [hs', Option.map_some, Option.some.injEq] at hdata
    rw [hs', Option.any_some, Option.any_some, decide_eq_decide, Readable, Readable, hsame, hdata]

theorem Conveyed.cons {width size : Nat} {carries : Pass width size → Delivery width size → Prop}
    {keeps : Delivery width size → Bool}
    {waited came came' now waiting : List (Delivery width size)}
    {passes passes' : List (Pass width size)} (h : Conveyed carries keeps waited came now passes)
    (hrest : Conveyed carries keeps now came' waiting passes') :
    Conveyed carries keeps waited (came ++ came') waiting (passes ++ passes') := by
  obtain ⟨read, hread, hall⟩ := h
  obtain ⟨read', hread', hall'⟩ := hrest
  refine ⟨read ++ read', ?_, ?_⟩
  · rw [← List.append_assoc, hread, List.append_assoc, hread', List.append_assoc]
  · rw [List.filter_append]
    exact List.rel_append hall hall'

/-- What one operation does. -/
structure Moved (g : Gateway) (a : GatewayOp) (t : Gateway) : Prop where
  relayed : Relayed g [a] t
  kept : Kept g t
  wanted : t.wanted = (registerStep g.command g.readable g.wanted a).1

/-- What a run has relayed, from what its first operation and the rest of it have. -/
theorem Moved.cons {ops : List GatewayOp} (h : Moved g a u) (hrest : Relayed u ops t) :
    Relayed g (a :: ops) t := by
  obtain ⟨hone, hkept, hwanted⟩ := h
  obtain ⟨⟨bts, hbts, hbt⟩, ⟨cans, hcans, hcan⟩, ⟨regs, hregs, hreg⟩, hwritten⟩ := hone
  obtain ⟨⟨bts', hbts', hbt'⟩, ⟨cans', hcans', hcan'⟩, ⟨regs', hregs', hreg'⟩, hwritten'⟩ := hrest
  have hcons : ∀ {β : Type} (f : GatewayOp → Option β),
      (a :: ops).filterMap f = [a].filterMap f ++ ops.filterMap f := by
    intro β f
    rw [← List.filterMap_append]
    rfl
  rw [hkept.txReady] at hbt' hcan' hreg'
  refine ⟨⟨bts ++ bts', ?_, ?_⟩, ⟨cans ++ cans', ?_, ?_⟩, ⟨regs ++ regs', ?_, ?_⟩, ?_⟩
  · rw [hbts', hbts, List.append_assoc]
  · rw [hcons]
    exact hbt.cons hbt'
  · rw [hcans', hcans, List.append_assoc]
  · rw [hcons]
    exact hcan.cons hcan'
  · rw [hregs', hregs, List.append_assoc]
  · rw [hkept.command, hkept.readable, hwanted] at hreg'
    rw [registerAnswers, registerAnswers, List.append_nil] at hreg
    exact List.rel_append hreg hreg'
  · rw [hwritten', hwritten, hkept.downlink, List.append_assoc, ← List.flatMap_append]
    rfl

theorem Kept.trans (h : Kept g u) (h' : Kept u t) : Kept g t where
  bluetoothSess := h'.bluetoothSess.trans h.bluetoothSess
  canSess := h'.canSess.trans h.canSess
  mode := h'.mode.trans h.mode
  priData := h'.priData.trans h.priData
  others := h'.others.trans h.others
  txReady := h'.txReady.trans h.txReady

end Step

/-! Rounds that do not end. -/

section Ending

variable {g t : Gateway} {a : GatewayOp} {r : GatewayRound}

/-- A loop is given up only if no number of iterations ends it. -/
theorem bluetooth_serve_error_iff (txReady : Bool) (peers : Nat → TxQueue → TxQueue)
    (sess : IotSession) (source : IotSource 1 1024) (tx : TxQueue) :
    bluetoothLoop.serve bluetoothRecvFromRemote txReady peers sess source tx = .error .bluetooth ↔
      ∀ fuel, bluetoothLoop.drive bluetoothRecvFromRemote txReady peers fuel 0 sess source tx =
        none := by
  constructor
  · intro h fuel
    apply bluetooth_endless
    intro hclient
    obtain ⟨out, hout⟩ := serve_ends bluetooth_consumes bluetoothLoop txReady peers sess hclient
      source tx
    rw [hout] at h
    cases h
  · intro h
    unfold IotLoop.serve
    rw [h]
    rfl

end Ending

/-! Messages a handler hands on, and commands as they are built. -/

def IotAddr.proto : IotAddr → IotProtoType
  | .bluetooth _ => .bluetooth
  | .can _ => .can
  | .modbustcp _ => .modbustcp

section Handed

variable {m : Mem} {s : IotSend}

end Handed

section Built

variable {outlet : Outlet} {old : Mem} {header : GeneralProxyMsgHeader} {payload : List UInt8}
  {proto : IotProtoType}

end Built

end BackendProxy.Wire
