import BackendProxy.Wire.BuilderRing

namespace BackendProxy.Wire

open Lib Queue

/-! Where `build_proxy_general_message` writes, and which length it states. -/

/-- Every store lies in the buffer that was selected. -/
def StaysInBuffer (o : BuilderOutcome) : Prop :=
  ∀ w ∈ o.writes, ∃ buffer ∈ o.buffer, w.stop ≤ buffer.size

/-- The outer header in the buffer states the bytes behind it. -/
def StatesLength (c : BuilderCall) : Prop :=
  (u16At (c.outcome.memory c.old) 6).toNat = c.outcome.body.length

/-- The caller is told where the message is. -/
def DesignatesMessage (o : BuilderOutcome) : Prop :=
  o.ret = .ok → ∃ buffer ∈ o.buffer, o.resultMsg = some buffer.addr

/-- The size of the buffer a mode works on. -/
def bufferSize (c : BuilderCall) (header : GeneralProxyMsgHeader) : Option Nat :=
  match c.allocMode with
  | some .shared => c.ring.map fun ring => ring.blockSize.toNat
  | some .caller => some (proxyMsgHdrSize + header.outerHeader.payloadLen.toNat)
  | some .ampqueue => some msgHdrPlusMaxSize
  | none => none

/-- The message does not go into the buffer, or its length does not go into the length field. -/
def TooLarge (c : BuilderCall) (header : GeneralProxyMsgHeader) (payload : List UInt8) : Prop :=
  ∃ len stated, bodyLengths header payload.length = some (len, stated) ∧
    (65535 < len ∨ ∃ size, bufferSize c header = some size ∧ size < proxyMsgHdrSize + len)

/-- A call is refused, or builds the message it reports inside its buffer; what is too large is
refused before anything is copied. -/
def BuildsTrueMessage (c : BuilderCall) : Prop :=
  (c.outcome.ret = .error ∨
      StaysInBuffer c.outcome ∧ StatesLength c ∧ DesignatesMessage c.outcome) ∧
    ∀ header payload, c.header = some header → c.payload = some payload →
      TooLarge c header payload → c.outcome.ret = .error ∧ c.outcome.body = []

/-- A body of `len` bytes with `stated` bytes in the outer header: a slot or the global buffer holds
it, its length is a word, and nothing of the address is left out, unless TX takes no message of the
stated length. In the caller's mode there is no such body. -/
def FitsMode (c : BuilderCall) (header : GeneralProxyMsgHeader) (len stated : Nat) : Prop :=
  match c.allocMode with
  | none => True
  | some .shared =>
    ∀ ring ∈ c.ring, (shmPoolQueueAllocFromHeader ring).1 = errorSharedMemAddr ∨
      proxyMsgHdrSize + len ≤ ring.blockSize.toNat ∧ len ≤ 65535 ∧ stated = len
  | some .caller => c.malloc (proxyMsgHdrSize + header.outerHeader.payloadLen.toNat) = none
  | some .ampqueue =>
    ∀ tx ∈ c.txQueue, proxyMsgHdrSize + len ≤ msgHdrPlusMaxSize ∧
      (stated = len ∨ tx.queue.blockSize.toNat < proxyMsgHdrSize + stated)

def BuilderCall.FitsBuffer (c : BuilderCall) : Prop :=
  ∀ header payload len stated, c.Checked header payload →
    bodyLengths header payload.length = some (len, stated) → LengthsMatch header payload →
    FitsMode c header len stated

section Built

variable {c : BuilderCall} {header : GeneralProxyMsgHeader} {payload : List UInt8}
  {ring : Option SharedMemoryPoolQueue} {buffer : MessageBuffer} {resultMsg : Option UInt64}

theorem copied_headWrites (mode : Option MemoryAllocMode) (outer : ProxyMsgHeader) :
    (headWrites mode outer).flatMap BufferWrite.copied = [] := by
  unfold headWrites
  split <;> rfl

/-- A refused call has copied nothing. -/
theorem buildsTrueMessage_of_refused (hret : c.outcome.ret = .error) (hbody : c.outcome.body = []) :
    BuildsTrueMessage c :=
  ⟨.inl hret, fun _ _ _ _ _ => ⟨hret, hbody⟩⟩

theorem fillBuffer_body_refused
    (h : switchOnType header payload = .unsupported ∨ switchOnType header payload = .refused) :
    (fillBuffer c header payload ring buffer resultMsg).ret = .error ∧
      (fillBuffer c header payload ring buffer resultMsg).body = [] := by
  rcases h with h | h
  · simp [fillBuffer, h, BuilderOutcome.body, copied_headWrites]
  · simp [fillBuffer, h, BuilderOutcome.body, copied_headWrites]

/-- What a call with a body leaves, whatever the queue says. -/
theorem fillBuffer_built_fields {innerLen : Nat} {body : List UInt8}
    (h : switchOnType header payload = .built innerLen body) :
    let o := fillBuffer c header payload ring buffer resultMsg
    o.buffer = some buffer ∧ o.resultMsg = resultMsg ∧
      o.writes = headWrites c.allocMode header.outerHeader ++
        [.body body, .field 6 (le16 (UInt16.ofNat (payload.length + innerLen)))] := by
  unfold fillBuffer
  rw [h]
  dsimp only
  split <;> exact ⟨rfl, rfl, rfl⟩

/-- The queue refuses a message by its length alone. -/
theorem hyperampQueueEnqueue_error_iff {queue : HyperampShmQueue} {region : DataRegion}
    {data : List UInt8} :
    (hyperampQueueEnqueue queue region data).1 = .error ↔
      data.length = 0 ∨ queue.blockSize.toNat < data.length := by
  unfold hyperampQueueEnqueue
  split
  · simp_all
  · split
    · simp_all
    · dsimp only
      split <;> simp_all

/-- What TX says is what the call returns. -/
theorem fillBuffer_built_error_iff {innerLen : Nat} {body : List UInt8}
    (h : switchOnType header payload = .built innerLen body) (hmode : c.allocMode = some .ampqueue)
    {tx : TxQueue} (htx : c.txQueue = some tx)
    (hsize : proxyMsgHdrSize + (innerLen + payload.length) < 2 ^ 64) :
    (fillBuffer c header payload ring buffer resultMsg).ret = .error ↔
      tx.queue.blockSize.toNat < proxyMsgHdrSize + (innerLen + payload.length) := by
  have hret : ∀ st : HyperampStatus, ofHyperamp st = .error ↔ st = .error := by
    intro st
    cases st <;> simp [ofHyperamp]
  have hlen : (payload.length + innerLen + proxyMsgHdrSize) % 2 ^ 64 =
      proxyMsgHdrSize + (innerLen + payload.length) := by
    rw [Nat.mod_eq_of_lt (by omega)]
    omega
  have hpos : proxyMsgHdrSize + (innerLen + payload.length) ≠ 0 := by
    unfold proxyMsgHdrSize
    omega
  unfold fillBuffer
  rw [h]
  simp only [hmode, htx, enqueueMessage, hret, hyperampQueueEnqueue_error_iff, length_load, hlen]
  exact or_iff_right hpos

theorem staysInBuffer_iff {o : BuilderOutcome} {body : List UInt8} {outer : ProxyMsgHeader}
    {payloadLen : UInt16} (hbuffer : o.buffer = some buffer)
    (hwrites : o.writes = headWrites c.allocMode outer ++
      [.body body, .field 6 (le16 payloadLen)])
    (hsize : c.allocMode = some .ampqueue → buffer.size = msgHdrPlusMaxSize) :
    StaysInBuffer o ↔ proxyMsgHdrSize + body.length ≤ buffer.size := by
  unfold StaysInBuffer
  rw [hwrites]
  simp only [hbuffer, Option.mem_def, Option.some.injEq, exists_eq_left']
  constructor
  · intro hall
    exact hall (.body body) (by simp)
  · intro hbody w hw
    have hmin : proxyMsgHdrSize ≤ buffer.size := Nat.le_trans (Nat.le_add_right _ _) hbody
    unfold headWrites at hw
    simp only [List.append_assoc, List.mem_append, List.mem_cons, List.not_mem_nil,
      or_false] at hw
    rcases hw with hclear | rfl | rfl | rfl
    · split at hclear
      · rename_i hmode
        rw [List.mem_singleton.mp hclear, hsize hmode]
        exact Nat.le_refl _
      · cases hclear
    · exact Nat.le_trans (by simp [BufferWrite.stop, leadingFields, proxyMsgHdrSize]) hmin
    · exact hbody
    · exact hmin

theorem statesLength_iff {body : List UInt8} {outer : ProxyMsgHeader} {len : Nat}
    (hwrites : c.outcome.writes = headWrites c.allocMode outer ++
      [.body body, .field 6 (le16 (UInt16.ofNat len))]) :
    StatesLength c ↔ len % 65536 = body.length := by
  have hbody : c.outcome.body = body := by
    simp [BuilderOutcome.body, hwrites, copied_headWrites, BufferWrite.copied]
  have hmem : u16At (c.outcome.memory c.old) 6 = UInt16.ofNat len := by
    rw [BuilderOutcome.memory, hwrites, memory_built]
    exact u16At_behind _ (leadingFields outer) (le16 (UInt16.ofNat len) ++ body) body 0 rfl
  rw [StatesLength, hmem, hbody, UInt16.toNat_ofNat']

/-- A call that builds a body, in terms of the lengths. -/
theorem buildsTrueMessage_built_iff (hc : c.Checked header payload)
    (hselect : selectBuffer c header = (ring, some (buffer, resultMsg)))
    (hsize : bufferSize c header = some buffer.size) {innerLen : Nat} {body : List UInt8}
    (hswitch : switchOnType header payload = .built innerLen body) :
    BuildsTrueMessage c ↔
      (c.outcome.ret = .error ∨ proxyMsgHdrSize + body.length ≤ buffer.size ∧
        (innerLen + payload.length) % 65536 = body.length ∧
        (c.outcome.ret = .ok → resultMsg = some buffer.addr)) ∧
      (65535 < body.length ∨ buffer.size < proxyMsgHdrSize + body.length →
        c.outcome.ret = .error ∧ body = []) := by
  have houtcome := hc.outcome_some hselect
  obtain ⟨hbuffer, hresult, hwrites⟩ : c.outcome.buffer = some buffer ∧
      c.outcome.resultMsg = resultMsg ∧
      c.outcome.writes = headWrites c.allocMode header.outerHeader ++
        [.body body, .field 6 (le16 (UInt16.ofNat (payload.length + innerLen)))] := by
    rw [houtcome]
    exact fillBuffer_built_fields hswitch
  have hlengths := switchOnType_lengths header payload
  rw [hswitch] at hlengths
  have hglobal : c.allocMode = some .ampqueue → buffer.size = msgHdrPlusMaxSize := by
    intro hmode
    have hsize' := hsize
    simp only [bufferSize, hmode, Option.some.injEq] at hsize'
    exact hsize'.symm
  have hstays := staysInBuffer_iff hbuffer hwrites hglobal
  have hstates := statesLength_iff hwrites
  have hdesignates : DesignatesMessage c.outcome ↔
      (c.outcome.ret = .ok → resultMsg = some buffer.addr) := by
    simp [DesignatesMessage, hbuffer, hresult]
  have hbody : c.outcome.body = body := by
    simp [BuilderOutcome.body, hwrites, copied_headWrites, BufferWrite.copied]
  have hlarge : TooLarge c header payload ↔
      65535 < body.length ∨ buffer.size < proxyMsgHdrSize + body.length := by
    simp [TooLarge, hlengths.2, hsize]
  unfold BuildsTrueMessage
  rw [hstays, hstates, hdesignates, hbody, Nat.add_comm payload.length, hc.header, hc.payload]
  simp [hlarge]

theorem BuilderCall.Checked.fitsBuffer_iff (hc : c.Checked header payload) {innerLen : Nat}
    {body : List UInt8} (hswitch : switchOnType header payload = .built innerLen body) :
    c.FitsBuffer ↔ FitsMode c header body.length (innerLen + payload.length) := by
  have hlengths := switchOnType_lengths header payload
  rw [hswitch] at hlengths
  constructor
  · intro h
    exact h header payload _ _ hc hlengths.2 hlengths.1
  · intro h header' payload' len stated hc' hlens _
    obtain ⟨rfl, rfl⟩ := hc.unique hc'
    cases hlengths.2.symm.trans hlens
    exact h

/-- Where no buffer is selected no body can be too large for it. -/
theorem fitsMode_of_none (hselect : selectBuffer c header = (ring, none)) (len stated : Nat) :
    FitsMode c header len stated := by
  unfold FitsMode
  cases hmode : c.allocMode with
  | none => trivial
  | some mode =>
    cases mode with
    | shared =>
      intro q hq
      rw [selectBuffer_shared _ hmode hq, Prod.mk.injEq] at hselect
      by_cases haddr : errorSharedMemAddr = (shmPoolQueueAllocFromHeader q).1
      · exact .inl haddr.symm
      · rw [if_neg haddr] at hselect
        cases hselect.2
    | caller =>
      rw [selectBuffer_caller _ hmode, Prod.mk.injEq] at hselect
      exact Option.map_eq_none_iff.mp hselect.2
    | ampqueue =>
      rw [selectBuffer_ampqueue _ hmode, Prod.mk.injEq] at hselect
      intro tx htx
      rw [Option.map_eq_none_iff.mp hselect.2] at htx
      cases htx

/-- In the mode of the ring the message must fit the slot, since nothing refuses it later. -/
theorem buildsTrueMessage_shared (hc : c.Checked header payload)
    (hmode : c.allocMode = some .shared)
    (hselect : selectBuffer c header = (ring, some (buffer, resultMsg)))
    {innerLen : Nat} {body : List UInt8}
    (hswitch : switchOnType header payload = .built innerLen body)
    (hbound : body.length ≤ innerLen + payload.length ∧
      innerLen + payload.length ≤ body.length + 20) :
    BuildsTrueMessage c ↔ FitsMode c header body.length (innerLen + payload.length) := by
  have hret : c.outcome.ret = .ok := by
    rw [hc.outcome_some hselect]
    exact (fillBuffer_built hswitch).2 (by rw [hmode]; decide)
  cases hring : c.ring with
  | none =>
    rw [selectBuffer_shared_null hmode hring] at hselect
    cases hselect
  | some q =>
    have hsel := hselect
    rw [selectBuffer_shared _ hmode hring, Prod.mk.injEq] at hsel
    by_cases haddr : errorSharedMemAddr = (shmPoolQueueAllocFromHeader q).1
    · rw [if_pos haddr] at hsel
      cases hsel.2
    · rw [if_neg haddr] at hsel
      cases hsel.2
      rw [buildsTrueMessage_built_iff hc hselect (by simp [bufferSize, hmode, hring]) hswitch]
      simp only [FitsMode, hmode, hring, Option.mem_def, Option.some.injEq, forall_eq', hret,
        Ne.symm haddr, false_or, reduceCtorEq, imp_self, and_true, false_and, imp_false]
      omega

theorem buildsTrueMessage_caller (hc : c.Checked header payload)
    (hmode : c.allocMode = some .caller)
    (hselect : selectBuffer c header = (ring, some (buffer, resultMsg)))
    {innerLen : Nat} {body : List UInt8}
    (hswitch : switchOnType header payload = .built innerLen body) :
    BuildsTrueMessage c ↔ FitsMode c header body.length (innerLen + payload.length) := by
  have hret : c.outcome.ret = .ok := by
    rw [hc.outcome_some hselect]
    exact (fillBuffer_built hswitch).2 (by rw [hmode]; decide)
  have hsel := hselect
  rw [selectBuffer_caller _ hmode, Prod.mk.injEq] at hsel
  obtain ⟨addr, hmalloc, hbuffer⟩ := Option.map_eq_some_iff.mp hsel.2
  cases hbuffer
  rw [buildsTrueMessage_built_iff hc hselect (by simp [bufferSize, hmode]) hswitch]
  simp [FitsMode, hmode, hmalloc, hret]

/-- In the mode of the queue the enqueue may still refuse the stated length. -/
theorem buildsTrueMessage_ampqueue (hc : c.Checked header payload)
    (hmode : c.allocMode = some .ampqueue)
    (hselect : selectBuffer c header = (ring, some (buffer, resultMsg)))
    {innerLen : Nat} {body : List UInt8}
    (hswitch : switchOnType header payload = .built innerLen body)
    (hbound : body.length ≤ innerLen + payload.length ∧
      innerLen + payload.length ≤ body.length + 20) :
    BuildsTrueMessage c ↔ FitsMode c header body.length (innerLen + payload.length) := by
  have hsel := hselect
  rw [selectBuffer_ampqueue _ hmode, Prod.mk.injEq] at hsel
  obtain ⟨tx, htx, hbuffer⟩ := Option.map_eq_some_iff.mp hsel.2
  cases hbuffer
  rw [buildsTrueMessage_built_iff hc hselect (by simp [bufferSize, hmode]) hswitch]
  have hmax : msgHdrPlusMaxSize = 4096 := rfl
  have hhdr : proxyMsgHdrSize = 8 := rfl
  simp only [FitsMode, hmode, htx, Option.mem_def, Option.some.injEq, forall_eq', implies_true,
    and_true]
  by_cases hfits : proxyMsgHdrSize + body.length ≤ msgHdrPlusMaxSize
  · have herr : c.outcome.ret = .error ↔
        tx.queue.blockSize.toNat < proxyMsgHdrSize + (innerLen + payload.length) := by
      rw [hc.outcome_some hselect]
      exact fillBuffer_built_error_iff hswitch hmode htx (by omega)
    have hsmall : ¬ (65535 < body.length ∨
        msgHdrPlusMaxSize < proxyMsgHdrSize + body.length) := by omega
    rw [herr]
    simp only [hsmall, false_imp_iff, and_true]
    omega
  · have hlong : body ≠ [] := by
      intro hnil
      rw [hnil] at hfits
      simp only [List.length_nil] at hfits
      omega
    refine iff_of_false (fun h => ?_) (fun h => hfits h.1)
    exact hlong (h.2 (.inr (by omega))).2

end Built

/-- The builder stays in its buffer and states true lengths exactly where the message fits. -/
theorem buildsTrueMessage_iff (c : BuilderCall) : BuildsTrueMessage c ↔ c.FitsBuffer := by
  by_cases hc : ∃ header payload, c.Checked header payload
  swap
  · refine iff_of_true ?_ fun header payload _ _ h => absurd ⟨header, payload, h⟩ hc
    have houtcome := outcome_unchecked hc
    exact buildsTrueMessage_of_refused (by rw [houtcome]) (by rw [houtcome]; rfl)
  obtain ⟨header, payload, hc⟩ := hc
  have hlengths := switchOnType_lengths header payload
  rcases hselect : selectBuffer c header with ⟨ring, _ | ⟨buffer, resultMsg⟩⟩
  · have houtcome := hc.outcome_none hselect
    refine iff_of_true ?_ fun header' payload' len stated hc' _ _ => ?_
    · exact buildsTrueMessage_of_refused (by rw [houtcome]) (by rw [houtcome]; rfl)
    · obtain ⟨rfl, -⟩ := hc.unique hc'
      exact fitsMode_of_none hselect len stated
  have hrefused : switchOnType header payload = .unsupported ∨
      switchOnType header payload = .refused → BuildsTrueMessage c := by
    intro h
    have hrefused : c.outcome.ret = .error ∧ c.outcome.body = [] := by
      rw [hc.outcome_some hselect]
      exact fillBuffer_body_refused h
    exact buildsTrueMessage_of_refused hrefused.1 hrefused.2
  cases hswitch : switchOnType header payload with
  | unsupported =>
    rw [hswitch] at hlengths
    refine iff_of_true (hrefused (.inl hswitch)) fun header' payload' len stated hc' hlens _ => ?_
    obtain ⟨rfl, rfl⟩ := hc.unique hc'
    cases hlengths.symm.trans hlens
  | refused =>
    rw [hswitch] at hlengths
    refine iff_of_true (hrefused (.inr hswitch)) fun header' payload' len stated hc' _ hmatch => ?_
    obtain ⟨rfl, rfl⟩ := hc.unique hc'
    exact absurd hmatch hlengths.2
  | built innerLen body =>
    rw [hswitch] at hlengths
    obtain ⟨hle, hbound, -⟩ := bodyLengths_bound hlengths.2
    rw [hc.fitsBuffer_iff hswitch]
    cases hmode : c.allocMode with
    | none =>
      rw [selectBuffer_other hmode] at hselect
      cases hselect
    | some mode =>
      cases mode with
      | shared => exact buildsTrueMessage_shared hc hmode hselect hswitch ⟨hle, hbound⟩
      | caller => exact buildsTrueMessage_caller hc hmode hselect hswitch
      | ampqueue => exact buildsTrueMessage_ampqueue hc hmode hselect hswitch ⟨hle, hbound⟩

/-- Sixty bytes of data leave a slot of 64, and the caller's mode tells nobody of its buffer. -/
theorem builder_leaves_slot :
    ¬ BuildsTrueMessage (exampleCall .shared 3 (List.replicate 60 7) (fourSlots 0 0)) ∧
      ¬ BuildsTrueMessage (exampleCall .caller 3 [] (fourSlots 0 0)) := by
  constructor
  · intro h
    obtain ⟨hstays, -, -⟩ := h.1.resolve_left (by decide)
    obtain ⟨buffer, hbuffer, hstop⟩ := hstays (.body (List.replicate 60 7)) (by decide)
    cases hbuffer
    revert hstop
    decide
  · intro h
    obtain ⟨-, -, hdesignates⟩ := h.1.resolve_left (by decide)
    obtain ⟨buffer, -, hresult⟩ := hdesignates rfl
    cases hresult

end BackendProxy.Wire
