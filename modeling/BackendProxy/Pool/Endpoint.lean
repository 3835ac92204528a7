import BackendProxy.Pool.Upkeep
import BackendProxy.Wire.Endpoint
import BackendProxy.Wire.RoundTrip

namespace BackendProxy.Pool

open Lib Queue Wire

/-! The endpoints in the messages that create sessions, both ways: a connection the backend accepted
and told the frontend of can be asked for again with the same parameters. -/

/-- `struct SessMsgPara` with the endpoint. -/
structure SessMsgEndpoint extends SessMsgPara where
  ipPortTuple : IPPortTuple
  agrees : ipPortTuple.ipVersion = ipVersion

/-- How the payload of a creation is read, a `SessParaIPv4` or a `SessParaIPv6`. -/
def activeCreateEndpoint (frontend : UInt16) (hdr : SessMsgHeader) (m : Mem) (payload : Nat) :
    Option SessMsgEndpoint :=
  if hdr.ipVersion = sessIpv4Proto then
    if hdr.payloadLen ≠ 10 then none
    else
      some
        { frontendSessId := frontend, devId := u16At m payload, ipVersion := sessIpv4Proto
          transProto := u16At m (payload + 2)
          ipPortTuple := .ipv4 (.read m (payload + 4)) (u16At m (payload + 8))
          agrees := rfl }
  else if hdr.ipVersion = sessIpv6Proto then
    if hdr.payloadLen ≠ 22 then none
    else
      some
        { frontendSessId := frontend, devId := u16At m payload, ipVersion := sessIpv6Proto
          transProto := u16At m (payload + 2)
          ipPortTuple := .ipv6 (.read m (payload + 4)) (u16At m (payload + 20))
          agrees := rfl }
  else none

/-- The creation a message asks for, with the endpoint. -/
def endpointOf (m : Mem) : Option SessMsgEndpoint :=
  match backendProxyMsgProcess m with
  | some (.sess .activeCreate frontend _ hdr payload) =>
    activeCreateEndpoint frontend hdr m payload
  | _ => none

theorem requestOf_eq (m : Mem) :
    requestOf m = (endpointOf m).map SessMsgEndpoint.toSessMsgPara := by
  unfold requestOf endpointOf
  cases backendProxyMsgProcess m with
  | none => rfl
  | some dispatch =>
    cases dispatch with
    | dev | strgy | data | iot => rfl
    | sess handler frontend backend hdr payload =>
      cases handler with
      | close | passiveCreate => rfl
      | activeCreate =>
        have hne : sessIpv4Proto ≠ sessIpv6Proto := by decide
        simp only [activeCreateEndpoint, WholeParams]
        by_cases h4 : hdr.ipVersion = sessIpv4Proto
        · by_cases hlen : hdr.payloadLen = 10
          · simp [h4, hlen]
          · simp [h4, hne, hlen]
        · by_cases h6 : hdr.ipVersion = sessIpv6Proto
          · by_cases hlen : hdr.payloadLen = 22
            · simp [h6, hne.symm, hlen]
            · simp [h6, hne.symm, hlen]
          · simp [h4, h6]

/-- What `connect` is given for a message, byte by byte. -/
theorem endpoint_bytes {m : Mem} {frontend backend : UInt16} {hdr : SessMsgHeader} {payload : Nat}
    {para : SessMsgEndpoint}
    (hd : backendProxyMsgProcess m = some (.sess .activeCreate frontend backend hdr payload))
    (h : endpointOf m = some para) :
    (uniSockAddr para.ipPortTuple).bytes =
      if hdr.ipVersion = sessIpv4Proto then
        [2, 0, m (payload + 9), m (payload + 8)] ++ load m (payload + 4) 4 ++ List.replicate 8 0
      else
        [10, 0, m (payload + 21), m (payload + 20)] ++ List.replicate 4 0 ++
          load m (payload + 4) 16 ++ List.replicate 4 0 := by
  unfold endpointOf at h
  rw [hd] at h
  simp only [activeCreateEndpoint] at h
  split at h
  · rename_i h4
    rw [if_pos h4]
    split at h
    · cases h
    · cases h
      exact bytes_ipv4 m (payload + 4)
  · rename_i h4
    rw [if_neg h4]
    split at h
    · split at h
      · cases h
      · cases h
        exact bytes_ipv6 m (payload + 4)
    · cases h

/-! There and back. -/

/-- The headers of the create command that `high_speed_create_sess_passive` sends. The length of the
outer header is not set. -/
def passiveCreateHeader (newSessId unset : UInt16) : GeneralProxyMsgHeader :=
  { outerHeader :=
      { version := 1, proxyMsgType := 2, frontendSessId := proxyHandoverSessionId
        backendSessId := newSessId, payloadLen := unset }
    innerHeader := { w0 := 1, w1 := 1, w2 := 0, w3 := 4, w4 := 10, w5 := 0 }
    addrInfo := fun _ => 0
    iotAddrLen := 0 }

/-- The create command of the connection from `clientAddr`. -/
def passiveCreateCommand (enqueue : List UInt8 → HyperampStatus) (old : Mem)
    (newSessId unset devId transProto : UInt16) (clientAddr : SockaddrIn) : BuildResult :=
  buildProxyGeneralMessage (.ampqueue true enqueue) old (passiveCreateHeader newSessId unset)
    (sessIpv4Params devId transProto (copyInToIpv4 clientAddr.sinAddr) (ntohs clientAddr.sinPort))

/-- The headers of a create command of the frontend. -/
def activeCreateOuter (frontend : UInt16) : ProxyMsgHeader :=
  { version := 1, proxyMsgType := 2, frontendSessId := frontend
    backendSessId := proxyHandoverSessionId, payloadLen := 20 }

def activeCreateInner : SessMsgHeader :=
  { version := 1, msgType := 1, actionType := 0, ipVersion := sessIpv4Proto, payloadLen := 10 }

def activeCreateCommand (frontend : UInt16) (params : List UInt8) : List UInt8 :=
  (activeCreateOuter frontend).bytes ++ (activeCreateInner.bytes ++ params)

theorem length_sessIpv4Params (devId transProto port : UInt16) (ipv4Addr : IPv4Address) :
    (sessIpv4Params devId transProto ipv4Addr port).length = 10 := by
  simp [sessIpv4Params]

/-- The command is built whatever the buffer held, and its parameters lie behind the headers. -/
theorem passiveCreate_built (enqueue : List UInt8 → HyperampStatus) (old rest : Mem)
    (newSessId unset : UInt16) {params : List UInt8} (hlen : params.length = 10) :
    ∃ msg, buildProxyGeneralMessage (.ampqueue true enqueue) old
        (passiveCreateHeader newSessId unset) params =
          { status := ofHyperamp (enqueue msg), message := msg } ∧
      load (Lib.store rest 0 msg) 18 10 = params := by
  have hbody : buildBody (passiveCreateHeader newSessId unset) params =
      some (10, (passiveCreateHeader newSessId unset).innerHeader.sessHdr.bytes ++ params) := by
    have hchecked : checkedBody 10 10
        (passiveCreateHeader newSessId unset).innerHeader.sessHdr.bytes params =
        some ((passiveCreateHeader newSessId unset).innerHeader.sessHdr.bytes ++ params) := by
      rw [checkedBody_eq, if_pos ⟨hlen, hlen⟩]
    exact congrArg (Option.map (Prod.mk 10)) hchecked
  have hfill := @fillMessage_exact (fun _ => 0) (passiveCreateHeader newSessId unset) 10
    ((passiveCreateHeader newSessId unset).innerHeader.sessHdr.bytes ++ params) params (by
      rw [List.length_append, Nat.add_comm]
      rfl)
  refine ⟨(sentHeader (passiveCreateHeader newSessId unset) (params.length + 10)).bytes ++
    ((passiveCreateHeader newSessId unset).innerHeader.sessHdr.bytes ++ params), ?_, ?_⟩
  · unfold buildProxyGeneralMessage
    simp only [hbody, hfill]
  · have hpayload := @load_payload (passiveCreateHeader newSessId unset) params rest
      (params.length + 10) (passiveCreateHeader newSessId unset).innerHeader.sessHdr.bytes rfl
    rwa [hlen] at hpayload

/-- A create command of the frontend is taken as one, with the parameters it was given. -/
theorem activeCreateCommand_taken (rest : Mem) (frontend : UInt16) {params : List UInt8}
    (hlen : params.length = 10) :
    backendProxyMsgProcess (Lib.store rest 0 (activeCreateCommand frontend params)) =
        some (.sess .activeCreate frontend proxyHandoverSessionId activeCreateInner 18) ∧
      load (Lib.store rest 0 (activeCreateCommand frontend params)) 18 10 = params := by
  constructor
  · have houter := ProxyMsgHeader.read_store rest (activeCreateOuter frontend)
      (activeCreateInner.bytes ++ params)
    have hinner := SessMsgHeader.read_store rest (activeCreateOuter frontend).bytes
      activeCreateInner params
    rw [ProxyMsgHeader.length_bytes] at hinner
    have htaken := @sessMsgProcess_command _ _ frontend proxyHandoverSessionId _ .create hinner
      rfl rfl rfl rfl
    exact (msgProcess_eq (t := .sess) houter rfl).trans htaken
  · have hbehind := load_behind rest ((activeCreateOuter frontend).bytes ++ activeCreateInner.bytes)
      params []
    rw [hlen, List.append_nil, List.append_assoc] at hbehind
    exact hbehind

/-- The endpoint of a connection, taken from the create command that the frontend was sent for it
and asked for with the same parameters, is what `connect` is given: the other end of the
connection, whatever its address and port. -/
theorem endpoint_carried (clientAddr : SockaddrIn) (devId transProto newSessId unset : UInt16)
    (enqueue : List UInt8 → HyperampStatus) (old rest rest' : Mem) (frontend : UInt16) :
    ∃ msg para,
      passiveCreateCommand enqueue old newSessId unset devId transProto clientAddr =
        { status := ofHyperamp (enqueue msg), message := msg } ∧
      endpointOf (Lib.store rest' 0
        (activeCreateCommand frontend (load (Lib.store rest 0 msg) 18 10))) = some para ∧
      para.toSessMsgPara =
        { frontendSessId := frontend, devId, ipVersion := sessIpv4Proto, transProto } ∧
      uniSockAddr para.ipPortTuple = .ipv4Addr { clientAddr with sinFamily := afInet } := by
  have hlen := length_sessIpv4Params devId transProto (ntohs clientAddr.sinPort)
    (copyInToIpv4 clientAddr.sinAddr)
  obtain ⟨msg, hmsg, hparams⟩ := passiveCreate_built enqueue old rest newSessId unset hlen
  obtain ⟨htaken, hload⟩ := activeCreateCommand_taken rest' frontend hlen
  obtain ⟨hdev, hproto, haddr, hport⟩ := read_sessIpv4Params hload
  refine ⟨msg, { frontendSessId := frontend, devId, ipVersion := sessIpv4Proto, transProto
                 ipPortTuple := passiveTuple clientAddr, agrees := rfl }, hmsg, ?_, rfl, ?_⟩
  · rw [hparams]
    unfold endpointOf
    rw [htaken]
    simp only [activeCreateEndpoint, activeCreateInner, if_true, ne_eq, not_true_eq_false, if_false,
      hdev, hproto, haddr, hport, passiveTuple]
  · exact uniSockAddr_passiveTuple clientAddr

end BackendProxy.Pool
