import BackendProxy.Pool.Backward
import BackendProxy.Pool.Lifecycle
import BackendProxy.Pool.Telling
import BackendProxy.Queue.Channel

namespace BackendProxy.Pool

open Lib Queue Wire

/-! The backend with the channel it shares with the frontend. Steps 1 to 5 of the main loop put
their messages on the TX queue itself, and the frontend may be at work on both queues while a step
of the backend runs. -/

/-- `HYPERAMP_MSG_HDR_PLUS_MAX_SIZE` -/
def hyperampMsgHdrPlusMaxSize : Nat := proxyMsgHdrSize + proxyMsgMaxSize

/-- The bytes of a message on TX. Of the create command of a passive session, the endpoint is not
looked at. -/
def TxMessage.written : TxMessage → List UInt8 → Bool
  | .response msgType frontend backend ipVersion opResp, bytes =>
    bytes ==
      ProxyMsgHeader.bytes
          { version := 1, proxyMsgType := 2, frontendSessId := frontend, backendSessId := backend,
            payloadLen := 12 } ++
        SessMsgHeader.bytes
          { version := 1, msgType := sessMsgTypeCode msgType, actionType := 1,
            ipVersion := ipVersion, payloadLen := 2 } ++ [opResp.status, opResp.code]
  | .command backend, bytes =>
    let m := Lib.store (fun _ => 0) 0 bytes
    let outer := ProxyMsgHeader.read m 0
    let inner := SessMsgHeader.read m proxyMsgHdrSize
    outer.proxyMsgType == 2 && outer.frontendSessId == proxyHandoverSessionId &&
      outer.backendSessId == backend && inner.msgType == sessMsgTypeCode .create &&
      inner.actionType == 0
  | .data transmission, bytes => bytes == transmission.message

/-- What the backend puts on TX: a message of the pool, or one from an IoT device. -/
inductive Put where
  | session (x : Posting)
  | iot

def Put.written : Put → List UInt8 → Bool
  | .session x, bytes => x.msg.written bytes
  | .iot, bytes => (ProxyMsgHeader.read (Lib.store (fun _ => 0) 0 bytes) 0).proxyMsgType == 4

def Put.posting? : Put → Option Posting
  | .session x => some x
  | .iot => none

def writtenAll : List Put → List (List UInt8) → Bool
  | [], [] => true
  | put :: puts, bytes :: rest => put.written bytes && writtenAll puts rest
  | _, _ => false

/-- `trace`, `ops` and `puts` record what was done on the channel, by the backend, and what the
backend put on TX; no step looks at them. -/
structure System where
  channel : ChannelRun
  world : World
  msgBuf : Mem
  trace : List ChannelOp
  ops : List WorldOp
  puts : List Put

/-- A step that halts, or one whose messages are not those that went to TX. -/
inductive Stop where
  | halt (h : Halt)
  | mismatch

inductive SystemOp where
  | frontend (during : List ChannelOp)
  | step1 (env : MsgEnv) (notice : SessPtr → Notice) (during : List ChannelOp)
  | backend (op : WorldOp) (during : List ChannelOp)
  | step5 (messages : Nat) (during : List ChannelOp)

def isBackendGet : ChannelOp → Bool
  | .backendGet _ => true
  | _ => false

def isMessage : WorldOp → Bool
  | ⟨.msg _ _, _⟩ => true
  | _ => false

/-- What a step puts on TX is what TX accepts while the step runs. A put that TX refuses leaves the
queue as it is. -/
def System.exchange (s : System) (puts : List Put) (during : List ChannelOp) :
    Except Stop System :=
  let channel := after ChannelRun.step s.channel during
  let accepted :=
    (channel.history.accepted .tx).drop (s.channel.history.accepted .tx).length
  if during.any isBackendGet = false ∧ writtenAll puts accepted = true then
    .ok { s with channel, trace := s.trace ++ during, puts := s.puts ++ puts }
  else .error .mismatch

def System.perform (s : System) (op : WorldOp) (during : List ChannelOp) : Except Stop System :=
  match worldStep s.world op with
  | .error h => .error (.halt h)
  | .ok w =>
    { s with world := w, ops := s.ops ++ [op] }.exchange
      ((w.tx.drop s.world.tx.length).map .session) during

/-- One pass of step 1: get a message into `msg_buf`, which still holds the one before, and process
it. -/
def System.step1 (s : System) (env : MsgEnv) (notice : SessPtr → Notice)
    (during : List ChannelOp) : Except Stop System :=
  let ch := s.channel.channel
  let (status, _, data) :=
    backendEngineHyperampRxQueueGet ch.rx ch.region hyperampMsgHdrPlusMaxSize
  let got : System :=
    { s with
      channel := (s.channel.step (.backendGet hyperampMsgHdrPlusMaxSize)).1
      trace := s.trace ++ [.backendGet hyperampMsgHdrPlusMaxSize] }
  if status = .ok then
    let msgBuf := Lib.store s.msgBuf 0 data
    { got with msgBuf }.perform ⟨.msg msgBuf env, notice⟩ during
  else got.exchange [] during

def systemStep (s : System) : SystemOp → Except Stop System
  | .frontend during => s.exchange [] during
  | .step1 env notice during => s.step1 env notice during
  | .backend op during => if isMessage op then .error .mismatch else s.perform op during
  | .step5 messages during => s.exchange (List.replicate messages .iot) during

def System.start (channel : Channel) (world : World) (msgBuf : Mem) : System :=
  { channel := ChannelRun.start channel, world, msgBuf, trace := [], ops := [], puts := [] }

/-- The buffer of a message, as it was processed. -/
def WorldOp.buffer? : WorldOp → Option Mem
  | ⟨.msg m _, _⟩ => some m
  | _ => none

/-- The frontend and the sessions of the backend talk to each other in order. -/
structure EndToEnd (world : World) (t : System) : Prop where
  /-- The pool did what it does when the frontend's messages are handed to it one by one. -/
  refines : run worldStep world t.ops = .ok t.world
  /-- The frontend's messages are processed in order, each at the start of the buffer. -/
  processed : ∃ done waiting, t.channel.history.accepted .rx = done ++ waiting ∧
    List.Forall₂ (fun m msg => ∃ rest, m = Lib.store rest 0 msg) (t.ops.filterMap WorldOp.buffer?)
      done
  postings : t.puts.filterMap Put.posting? = t.world.tx
  /-- What the backend puts on TX reaches the frontend in order, and with it of each session's
  socket the bytes read first. -/
  delivered : ∃ told waiting, t.puts = told ++ waiting ∧
    List.Forall₂ (fun put delivery => ∃ bytes, put.written bytes = true ∧ Returns delivery bytes)
      told (t.channel.history.delivered .tx) ∧
    ∀ p, ((dataOf p (told.filterMap Put.posting?)).map Transmission.payload).flatten <+:
      (t.world.engine.history p).received.flatten

/-! The channel. -/

theorem writtenAll_iff {puts : List Put} {msgs : List (List UInt8)} :
    writtenAll puts msgs = true ↔ List.Forall₂ (fun put bytes => put.written bytes = true) puts
      msgs := by
  induction puts generalizing msgs with
  | nil =>
    cases msgs with
    | nil => simp [writtenAll]
    | cons bytes rest => simp [writtenAll]
  | cons put puts ih =>
    cases msgs with
    | nil => simp [writtenAll]
    | cons bytes rest => simp [writtenAll, ih]

section Channel

variable {r : ChannelRun}

theorem enqueue_blockSize (q : HyperampShmQueue) (region : DataRegion) (data : List UInt8) :
    (hyperampQueueEnqueue q region data).2.1.blockSize = q.blockSize := by
  unfold hyperampQueueEnqueue
  split
  · rfl
  · split
    · rfl
    · simp only
      split <;> rfl

theorem dequeue_blockSize (q : HyperampShmQueue) (region : DataRegion) (n : Nat) :
    (hyperampQueueDequeue q region n).2.1.blockSize = q.blockSize := by
  unfold hyperampQueueDequeue
  split
  · rfl
  · split <;> rfl

/-- What one operation does to the records and the block sizes of the channel. -/
structure Advances (r : ChannelRun) (op : ChannelOp) (r' : ChannelRun) : Prop where
  blockSize : ∀ side, (r'.channel.queue side).blockSize = (r.channel.queue side).blockSize
  accepted : ∀ side, ∃ msgs, r'.history.accepted side = r.history.accepted side ++ msgs ∧
    ∀ msg ∈ msgs, msg.length ≤ (r.channel.queue side).blockSize.toNat
  delivered : isBackendGet op = false → r'.history.delivered .rx = r.history.delivered .rx

theorem setQueue_blockSize {side : Side} {q : HyperampShmQueue}
    (h : q.blockSize = (r.channel.queue side).blockSize) (region : DataRegion) (other : Side) :
    (({ r.channel.setQueue side q with region } : Channel).queue other).blockSize =
      (r.channel.queue other).blockSize := by
  rw [queue_withRegion, queue_setQueue]
  split
  · rename_i heq
    rw [h, heq]
  · rfl

theorem put_advances (side : Side) {op : ChannelOp} (data : List UInt8) :
    Advances r op (r.put side data
      (ofHyperamp (hyperampQueueEnqueue (r.channel.queue side) r.channel.region data).1,
        (hyperampQueueEnqueue (r.channel.queue side) r.channel.region data).2)).1 := by
  have hsize := setQueue_blockSize (r := r)
    (enqueue_blockSize (r.channel.queue side) r.channel.region data)
    (hyperampQueueEnqueue (r.channel.queue side) r.channel.region data).2.2
  unfold ChannelRun.put
  split
  · rename_i hok
    refine ⟨hsize, fun other => ?_, fun _ => rfl⟩
    by_cases ho : other = side
    · subst ho
      refine ⟨[data], Function.update_self _ _ _, ?_⟩
      intro msg hmsg
      cases List.mem_singleton.mp hmsg
      have hst : (hyperampQueueEnqueue (r.channel.queue other) r.channel.region data).1 = .ok := by
        cases hst : (hyperampQueueEnqueue (r.channel.queue other) r.channel.region data).1 with
        | ok => rfl
        | again | error => simp [hst, ofHyperamp] at hok
      exact (hyperampQueueEnqueue_ok_iff.mp hst).2.1
    · exact ⟨[], by simp [History.accept, ho], List.forall_mem_nil _⟩
  · exact ⟨hsize, fun other => ⟨[], (List.append_nil _).symm, List.forall_mem_nil _⟩, fun _ => rfl⟩

theorem get_advances (side : Side) {op : ChannelOp} (room : Nat)
    (hside : isBackendGet op = false → side = .tx) :
    Advances r op (r.get side room
      (ofHyperamp (hyperampQueueDequeue (r.channel.queue side) r.channel.region room).1,
        (hyperampQueueDequeue (r.channel.queue side) r.channel.region room).2)).1 := by
  have hsize := setQueue_blockSize (r := r)
    (dequeue_blockSize (r.channel.queue side) r.channel.region room) r.channel.region
  have hregion : ∀ q, ({ r.channel.setQueue side q with region := r.channel.region } : Channel) =
      r.channel.setQueue side q := fun q => by cases side <;> rfl
  rw [hregion] at hsize
  unfold ChannelRun.get
  split
  · refine ⟨hsize, fun other => ⟨[], (List.append_nil _).symm, List.forall_mem_nil _⟩, ?_⟩
    intro hop
    simp [History.deliver, hside hop]
  · exact ⟨hsize, fun other => ⟨[], (List.append_nil _).symm, List.forall_mem_nil _⟩, fun _ => rfl⟩

theorem step_advances (op : ChannelOp) : Advances r op (r.step op).1 := by
  cases op with
  | frontendPut data => exact put_advances .rx data
  | backendPut data =>
    simp only [ChannelRun.step, txQueuePut_eq]
    exact put_advances .tx data
  | backendGet n => exact get_advances .rx n fun h => Bool.noConfusion h
  | frontendGet n => exact get_advances .tx n fun _ => rfl

theorem after_accepted (side : Side) (during : List ChannelOp) :
    r.history.accepted side <+: (after ChannelRun.step r during).history.accepted side := by
  induction during generalizing r with
  | nil => exact List.prefix_refl _
  | cons op during ih =>
    obtain ⟨msgs, hmsgs, -⟩ := (step_advances (r := r) op).accepted side
    exact List.IsPrefix.trans ⟨msgs, hmsgs.symm⟩ ih

theorem after_delivered {during : List ChannelOp} (h : during.any isBackendGet = false) :
    (after ChannelRun.step r during).history.delivered .rx = r.history.delivered .rx := by
  induction during generalizing r with
  | nil => rfl
  | cons op during ih =>
    rw [List.any_cons, Bool.or_eq_false_iff] at h
    exact (ih h.2).trans ((step_advances op).delivered h.1)

/-- Both queues carry messages of one block at most, in order. -/
structure Carrying (size : UInt16) (r : ChannelRun) : Prop where
  duplex : Duplex r
  blockSize : ∀ side, (r.channel.queue side).blockSize = size
  fits : ∀ side, ∀ msg ∈ r.history.accepted side, msg.length ≤ size.toNat

theorem Carrying.step {size : UInt16} (h : Carrying size r) (op : ChannelOp)
    (free : SlotFree r op) : Carrying size (r.step op).1 := by
  have hadv := step_advances (r := r) op
  refine ⟨h.duplex.step op free, fun side => (hadv.blockSize side).trans (h.blockSize side), ?_⟩
  intro side msg hmsg
  obtain ⟨msgs, hmsgs, hfit⟩ := hadv.accepted side
  rw [hmsgs] at hmsg
  rcases List.mem_append.mp hmsg with hmsg | hmsg
  · exact h.fits side msg hmsg
  · rw [← h.blockSize side]
    exact hfit msg hmsg

theorem carrying_start (physAddr shmBase : UInt64) (old : Channel) :
    Carrying defaultBlockSize
      (ChannelRun.start (hyperampLinuxInit physAddr shmBase old).2) := by
  have hduplex := (hyperampLinuxInit_duplex physAddr shmBase old).2
  refine ⟨hduplex, ?_, nofun⟩
  have htx : (hyperampLinuxInit physAddr shmBase old).2.tx.blockSize = defaultBlockSize := by
    simp only [hyperampLinuxInit]
    generalize (if physAddr = 0 then shmStartPaddr else physAddr) = p
    have hc := channelQueueCapacity_ne_zero p
    simp [hyperampQueueInit, hc, defaultBlockSize]
  intro side
  cases side with
  | rx => exact hduplex.blockSize.trans htx
  | tx => exact htx

/-- The message a get took off RX lies at the start of the buffer. -/
theorem processed_at_start {data msg : List UInt8} (m : Mem)
    (hret : Returns (hyperampMsgHdrPlusMaxSize, data) msg) (hfit : msg.length ≤ 4096) :
    ∃ rest, Lib.store m 0 data = Lib.store rest 0 msg := by
  have hroom : min hyperampMsgHdrPlusMaxSize msg.length = msg.length := Nat.min_eq_right hfit
  have hstart : data = msg ++ data.drop msg.length := by
    have h : data.take (min hyperampMsgHdrPlusMaxSize msg.length) =
        msg.take (min hyperampMsgHdrPlusMaxSize msg.length) := hret
    rw [hroom, List.take_length] at h
    exact (List.take_append_drop msg.length data).symm.trans (by rw [h])
  refine ⟨Lib.store m msg.length (data.drop msg.length), ?_⟩
  calc
    Lib.store m 0 data = Lib.store m 0 (msg ++ data.drop msg.length) := by rw [← hstart]
    _ = Lib.store (Lib.store m 0 msg) (0 + msg.length) (data.drop msg.length) :=
      store_append m 0 msg _
    _ = Lib.store (Lib.store m msg.length (data.drop msg.length)) 0 msg := by
      rw [Nat.zero_add]
      exact store_comm m 0 msg.length msg _ (Or.inl (Nat.le_of_eq (Nat.zero_add _)))

end Channel

/-! One step of the system. -/

theorem WorldMove.tx {w w' : World} (h : WorldMove w w') : w.tx <+: w'.tx := by
  cases h with
  | quiet => exact List.prefix_refl _
  | sent | passive | deleted => exact List.prefix_append _ _
  | active done => cases done <;> exact List.prefix_append _ _

theorem worldStep_tx {w w' : World} {op : WorldOp} {l : Dir → List SessPtr}
    (h : worldStep w op = .ok w') (hs : Sound w.engine l) : w.tx <+: w'.tx := by
  have hmoves := worldStep_moves h hs
  clear h hs
  induction hmoves with
  | refl => exact List.prefix_refl _
  | tail _ hmove ih => exact ih.trans hmove.tx

/-- What was recorded of a run, against what it started from. -/
structure Recorded (start : ChannelRun) (world : World) (s : System) : Prop where
  channel : s.channel = after ChannelRun.step start s.trace
  refines : run worldStep world s.ops = .ok s.world
  sound : ∃ l, Sound s.world.engine l
  told : Told s.world
  written : List.Forall₂ (fun put bytes => put.written bytes = true) s.puts
    (s.channel.history.accepted .tx)
  postings : s.puts.filterMap Put.posting? = s.world.tx

/-- Each buffer that was processed holds what was got from RX. -/
def Gotten (buffers : List Mem) (s : System) : Prop :=
  List.Forall₂
    (fun m delivery => delivery.1 = hyperampMsgHdrPlusMaxSize ∧
      ∃ rest, m = Lib.store rest 0 delivery.2)
    buffers (s.channel.history.delivered .rx)

section Steps

variable {start : ChannelRun} {world : World} {s t : System} {puts : List Put}
  {during : List ChannelOp} {op : WorldOp} {buffers : List Mem}

theorem exchange_ok (hx : s.exchange puts during = .ok t) :
    during.any isBackendGet = false ∧
      t = { s with
            channel := after ChannelRun.step s.channel during
            trace := s.trace ++ during
            puts := s.puts ++ puts } ∧
      ∃ msgs, t.channel.history.accepted .tx = s.channel.history.accepted .tx ++ msgs ∧
        List.Forall₂ (fun put bytes => put.written bytes = true) puts msgs := by
  simp only [System.exchange] at hx
  split at hx
  · rename_i hmatch
    obtain ⟨hget, hwritten⟩ := hmatch
    cases hx
    obtain ⟨more, hmore⟩ := after_accepted (r := s.channel) .tx during
    rw [← hmore, List.drop_left] at hwritten
    exact ⟨hget, rfl, more, hmore.symm, writtenAll_iff.mp hwritten⟩
  · cases hx

theorem Gotten.exchange (h : Gotten buffers s) (hx : s.exchange puts during = .ok t) :
    Gotten buffers t := by
  obtain ⟨hget, rfl, -⟩ := exchange_ok hx
  unfold Gotten
  rw [after_delivered hget]
  exact h

/-- The world made its step already, and the messages of the step go to TX. -/
theorem Recorded.exchange {w : World} (h : Recorded start world s)
    (htx : w.tx = s.world.tx ++ puts.filterMap Put.posting?) (ops : List WorldOp)
    (refines : run worldStep world ops = .ok w) (sound : ∃ l, Sound w.engine l) (told : Told w)
    (hx : { s with world := w, ops := ops }.exchange puts during = .ok t) :
    Recorded start world t := by
  obtain ⟨-, rfl, msgs, hmsgs, hwritten⟩ := exchange_ok hx
  refine ⟨?_, refines, sound, told, ?_, ?_⟩
  · rw [after_append, ← h.channel]
  · rw [hmsgs]
    exact List.rel_append h.written hwritten
  · rw [List.filterMap_append, h.postings]
    exact htx.symm

theorem Recorded.perform (h : Recorded start world s) (hx : s.perform op during = .ok t) :
    Recorded start world t ∧
      (∀ buffers, Gotten buffers s → Gotten buffers t) ∧ t.ops = s.ops ++ [op] := by
  unfold System.perform at hx
  split at hx
  · cases hx
  · rename_i w hstep
    obtain ⟨l, hsound⟩ := h.sound
    obtain ⟨xs, hxs⟩ := worldStep_tx hstep hsound
    obtain ⟨l', hsound', -⟩ :=
      mainStep_simulated (worldStep_erased hstep) (anyAnswers_met s.world.engine [op.op]).1 hsound
    refine ⟨h.exchange ?_ _ (run_snoc h.refines hstep) ⟨l', hsound'⟩
      (worldStep_told hstep hsound h.told) hx, ?_, ?_⟩
    · rw [← hxs, List.drop_left, List.filterMap_map]
      exact congrArg _ (List.filterMap_some).symm
    · intro buffers hb
      exact Gotten.exchange (s := { s with world := w, ops := s.ops ++ [op] }) hb hx
    · obtain ⟨-, rfl, -⟩ := exchange_ok hx
      rfl

theorem exchange_recorded (h : Recorded start world s) (hp : puts.filterMap Put.posting? = [])
    (hx : s.exchange puts during = .ok t) : Recorded start world t ∧ t.ops = s.ops := by
  refine ⟨h.exchange (w := s.world) ?_ s.ops h.refines h.sound h.told hx, ?_⟩
  · rw [hp, List.append_nil]
  · obtain ⟨-, rfl, -⟩ := exchange_ok hx
    rfl

/-- The get itself. -/
theorem backendGet_history (r : ChannelRun) (n : Nat) :
    (r.step (.backendGet n)).1.history.accepted = r.history.accepted ∧
      (r.step (.backendGet n)).1.history.delivered .rx =
        r.history.delivered .rx ++
          if (backendEngineHyperampRxQueueGet r.channel.rx r.channel.region n).1 = .ok then
            [(n, (backendEngineHyperampRxQueueGet r.channel.rx r.channel.region n).2.2)]
          else [] := by
  simp only [ChannelRun.step, ChannelRun.get]
  split
  · exact ⟨rfl, by simp [History.deliver]⟩
  · exact ⟨rfl, (List.append_nil _).symm⟩

theorem filterMap_buffer (ops : List WorldOp) (hop : op.buffer? = none) :
    (ops ++ [op]).filterMap WorldOp.buffer? = ops.filterMap WorldOp.buffer? := by
  simp [hop]

/-- Every step of the system keeps the records true. -/
theorem systemStep_recorded {a : SystemOp} (h : Recorded start world s)
    (hg : Gotten (s.ops.filterMap WorldOp.buffer?) s) (hx : systemStep s a = .ok t) :
    Recorded start world t ∧ Gotten (t.ops.filterMap WorldOp.buffer?) t := by
  cases a with
  | frontend during =>
    obtain ⟨ht, hops⟩ := exchange_recorded h rfl hx
    exact ⟨ht, hops ▸ hg.exchange hx⟩
  | step5 messages during =>
    have hp : (List.replicate messages Put.iot).filterMap Put.posting? = [] :=
      List.filterMap_eq_nil_iff.mpr fun put hput => by
        rw [List.eq_of_mem_replicate hput]
        rfl
    obtain ⟨ht, hops⟩ := exchange_recorded h hp hx
    exact ⟨ht, hops ▸ hg.exchange hx⟩
  | backend op during =>
    simp only [systemStep] at hx
    split at hx
    · cases hx
    · rename_i hmsg
      obtain ⟨ht, hkeep, hops⟩ := h.perform hx
      have hop : op.buffer? = none := by
        obtain ⟨op, notice⟩ := op
        cases op with
        | msg m env => exact absurd rfl hmsg
        | _ => rfl
      refine ⟨ht, ?_⟩
      rw [hops, filterMap_buffer s.ops hop]
      exact hkeep _ hg
  | step1 env notice during =>
    obtain ⟨haccepted, hdelivered⟩ :=
      backendGet_history s.channel hyperampMsgHdrPlusMaxSize
    have hrecorded : ∀ m, Recorded start world
        { s with
          channel := (s.channel.step (.backendGet hyperampMsgHdrPlusMaxSize)).1
          trace := s.trace ++ [.backendGet hyperampMsgHdrPlusMaxSize]
          msgBuf := m } := by
      intro m
      refine ⟨?_, h.refines, h.sound, h.told, ?_, h.postings⟩
      · rw [after_append, ← h.channel]
        rfl
      · rw [haccepted]
        exact h.written
    simp only [systemStep, System.step1] at hx
    split at hx
    · rename_i hok
      rw [if_pos hok] at hdelivered
      obtain ⟨ht, hkeep, hops⟩ := (hrecorded _).perform hx
      refine ⟨ht, hkeep _ ?_⟩
      unfold Gotten
      rw [hdelivered, hops, List.filterMap_append]
      exact List.rel_append hg (.cons ⟨rfl, s.msgBuf, rfl⟩ .nil)
    · rename_i hok
      rw [if_neg hok, List.append_nil] at hdelivered
      obtain ⟨ht, hops⟩ := exchange_recorded (hrecorded s.msgBuf) rfl hx
      refine ⟨ht, ?_⟩
      rw [hops]
      refine Gotten.exchange (s := { s with
          channel := (s.channel.step (.backendGet hyperampMsgHdrPlusMaxSize)).1
          trace := s.trace ++ [.backendGet hyperampMsgHdrPlusMaxSize] }) ?_ hx
      unfold Gotten
      rw [hdelivered]
      exact hg

end Steps

/-! Runs. -/

section Runs

variable {devNum : Nat} {config : Nat → HighSpeedNetDevice} {ops : List SystemOp} {t : System}
  (physAddr shmBase : UInt64) (old : Channel) (msgBuf : Mem)

theorem gotten_returned {buffers : List Mem} {gets : List (Nat × List UInt8)}
    {done : List (List UInt8)}
    (hgot : List.Forall₂
      (fun m delivery => delivery.1 = hyperampMsgHdrPlusMaxSize ∧
        ∃ rest, m = Lib.store rest 0 delivery.2) buffers gets)
    (hret : List.Forall₂ Returns gets done) (hfits : ∀ msg ∈ done, msg.length ≤ 4096) :
    List.Forall₂ (fun m msg => ∃ rest, m = Lib.store rest 0 msg) buffers done := by
  induction hgot generalizing done with
  | nil =>
    cases hret
    exact .nil
  | @cons m delivery buffers gets hm _ ih =>
    cases hret with
    | @cons _ msg _ done hmsg hret =>
      obtain ⟨hroom, stale, rfl⟩ := hm
      obtain ⟨room, data⟩ := delivery
      cases hroom
      refine .cons (processed_at_start stale hmsg (hfits msg List.mem_cons_self)) ?_
      exact ih hret fun x hx => hfits x (List.mem_cons_of_mem _ hx)

theorem told_delivered {told : List Put} {gets : List (Nat × List UInt8)}
    {done : List (List UInt8)}
    (hwritten : List.Forall₂ (fun put bytes => put.written bytes = true) told done)
    (hret : List.Forall₂ Returns gets done) :
    List.Forall₂ (fun put delivery => ∃ bytes, put.written bytes = true ∧ Returns delivery bytes)
      told gets := by
  induction hwritten generalizing gets with
  | nil =>
    cases hret
    exact .nil
  | cons hput _ ih =>
    cases hret with
    | cons hmsg hret => exact .cons ⟨_, hput, hmsg⟩ (ih hret)

/-- The stream of a session of the world. -/
theorem relayed_stream {wops : List WorldOp} {w : World}
    (h : run worldStep (World.init devNum config defaultBlockSize.toNat) wops = .ok w)
    (p : SessPtr) :
    ((w.engine.history p).transmitted.map Transmission.payload).flatten <+:
      (w.engine.history p).received.flatten := by
  have hroom : 4096 ≤ defaultBlockSize.toNat := Nat.le_refl _
  obtain ⟨l, -, hobeyed⟩ :=
    main_obeys (relayRule _ hroom) (anyAnswers_met _ _) (worldRun_erased h)
  obtain ⟨frontend, backend, waiting, hpast⟩ := hobeyed.past p
  exact hpast.stream

/-- What the frontend was told of a session's data is the beginning of what was read. -/
theorem told_prefix {world : World} {p : SessPtr} {n : Nat} (hworld : Told world)
    (hstream : ((world.engine.history p).transmitted.map Transmission.payload).flatten <+:
      (world.engine.history p).received.flatten) {puts : List Put}
    (hp : puts.filterMap Put.posting? = world.tx) :
    ((dataOf p ((puts.take n).filterMap Put.posting?)).map Transmission.payload).flatten <+:
      (world.engine.history p).received.flatten := by
  have hsplit : dataOf p ((puts.take n).filterMap Put.posting?) ++
      dataOf p ((puts.drop n).filterMap Put.posting?) = (world.engine.history p).transmitted := by
    rw [← dataOf_append, ← List.filterMap_append, List.take_append_drop, hp]
    exact hworld p
  rw [← hsplit, List.map_append, List.flatten_append] at hstream
  exact (List.prefix_append _ _).trans hstream

/-- Whatever the system calls answer and whoever is at work when: as long as no message is put into
a slot whose message in the other direction still waits, the frontend and the sessions of the
backend talk to each other in order. -/
theorem system_endToEnd (devNum : Nat) (config : Nat → HighSpeedNetDevice)
    (ops : List SystemOp)
    (reached : run systemStep (System.start (hyperampLinuxInit physAddr shmBase old).2
      (World.init devNum config defaultBlockSize.toNat) msgBuf) ops = .ok t)
    (free : AllAnswered ChannelRun.step SlotFree
      (ChannelRun.start (hyperampLinuxInit physAddr shmBase old).2) t.trace) :
    EndToEnd (World.init devNum config defaultBlockSize.toNat) t := by
  have hinit : Recorded (ChannelRun.start (hyperampLinuxInit physAddr shmBase old).2)
      (World.init devNum config defaultBlockSize.toNat)
      (System.start (hyperampLinuxInit physAddr shmBase old).2
        (World.init devNum config defaultBlockSize.toNat) msgBuf) :=
    ⟨rfl, rfl, ⟨_, (sound_init devNum config _).1⟩, told_init _ _ _, .nil, rfl⟩
  obtain ⟨hrec, hgot⟩ := run_invariant
    (C := fun _ _ => True)
    (I := fun s => Recorded (ChannelRun.start (hyperampLinuxInit physAddr shmBase old).2)
      (World.init devNum config defaultBlockSize.toNat) s ∧
        Gotten (s.ops.filterMap WorldOp.buffer?) s)
    (fun s a s' hs _ hst => systemStep_recorded hs.1 hs.2 hst) ⟨hinit, .nil⟩ (allSteps_true _ _)
    reached
  have hcarry : Carrying defaultBlockSize t.channel := by
    rw [hrec.channel]
    exact after_invariant (I := Carrying defaultBlockSize) (fun _ op h hf => h.step op hf)
      (carrying_start physAddr shmBase old) free
  refine ⟨hrec.refines, ?_, hrec.postings, ?_⟩
  · obtain ⟨done, waiting, hsplit, hret, -⟩ := hcarry.duplex.side .rx
    have hfits : ∀ msg ∈ done, msg.length ≤ 4096 := fun msg hmsg =>
      hcarry.fits .rx msg (hsplit ▸ List.mem_append_left _ hmsg)
    exact ⟨done, waiting, hsplit, gotten_returned hgot hret hfits⟩
  · obtain ⟨done, waiting, hsplit, hret, -⟩ := hcarry.duplex.side .tx
    have hwritten := hrec.written
    rw [hsplit] at hwritten
    refine ⟨t.puts.take done.length, t.puts.drop done.length,
      (List.take_append_drop _ _).symm, ?_, fun p => told_prefix hrec.told ?_ hrec.postings⟩
    · exact told_delivered (List.forall₂_take_append _ _ _ hwritten) hret
    · exact relayed_stream hrec.refines p

end Runs

/-- The frontend asks for a session, which reads a byte; both messages reach the frontend. -/
def conversation : List SystemOp :=
  [.frontend [.frontendPut (load (createOn 0) 0 28)],
    .step1 goodMsgEnv goodNotice
      [.backendPut [1, 2, 7, 0, 1, 0, 12, 0, 1, 0, 1, 0, 1, 0, 4, 0, 2, 0, 0, 0]],
    .backend ⟨.poll [⟨5, 0, false, true, some 1, [.got [9]]⟩], goodNotice⟩ [],
    .backend ⟨.step4 (fun _ _ => false) fun _ => goodMsgEnv.delete, goodNotice⟩
      [.frontendGet 4096, .backendPut (dataMessage 7 1 [9])],
    .frontend [.frontendGet 9]]

theorem system_endToEnd_conversation :
    ∃ t, run systemStep (System.start
        (hyperampLinuxInit shmCh1Paddr 0
          { rx := blankControl, tx := blankControl, region := fun _ => 0 }).2
        firstWorld fun _ => 0) conversation = .ok t ∧
      (t.channel.history.delivered .tx).map (fun got => got.2.take 9) =
        [[1, 2, 7, 0, 1, 0, 12, 0, 1], [1, 3, 7, 0, 1, 0, 1, 0, 9]] ∧
      EndToEnd firstWorld t := by
  obtain ⟨t, ht, hview⟩ := reached_of_view
    (f := fun t => (t.trace, (t.channel.history.delivered .tx).map fun got => got.2.take 9))
    (b := ([.frontendPut (load (createOn 0) 0 28), .backendGet 4096,
        .backendPut [1, 2, 7, 0, 1, 0, 12, 0, 1, 0, 1, 0, 1, 0, 4, 0, 2, 0, 0, 0],
        .frontendGet 4096, .backendPut (dataMessage 7 1 [9]), .frontendGet 9],
      [[1, 2, 7, 0, 1, 0, 12, 0, 1], [1, 3, 7, 0, 1, 0, 1, 0, 9]]))
    (r := run systemStep (System.start
        (hyperampLinuxInit shmCh1Paddr 0
          { rx := blankControl, tx := blankControl, region := fun _ => 0 }).2
        firstWorld fun _ => 0) conversation)
    (by decide +kernel)
  obtain ⟨htrace, hgot⟩ := Prod.mk.inj hview
  refine ⟨t, ht, hgot, system_endToEnd shmCh1Paddr 0 _ _ 1 _ _ ht ?_⟩
  rw [htrace]
  exact ⟨by decide +kernel, trivial, by decide +kernel, trivial, by decide +kernel, trivial,
    trivial⟩

end BackendProxy.Pool
