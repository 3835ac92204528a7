import BackendProxy.Lib.Peek
import BackendProxy.Wire.Uplink

namespace BackendProxy.Wire

open Lib Queue

/-! The receive functions of the IoT sessions, and the loops of the engine that call them until
nothing comes. -/

inductive IotWorkMode where
  | client
  | server
  deriving DecidableEq, Repr

def iotSessStateIdle : Int := 0
def iotSessStatePending : Int := 1

/-- `priData` tells whether the Modbus context is set. -/
structure IotSession where
  workingMode : IotWorkMode
  sessState : Int
  priData : Bool

/-- A read with a positive result: `len` items of `width` bytes each at the start of the memory it
was made into, at most `size` of them. `peer` is the address of the other end of a Bluetooth
socket, if it can be told. -/
structure Delivery (width size : Nat) where
  mem : Mem
  len : Nat
  peer : Option Mem
  positive : 0 < len
  fits : len ≤ size

/-- How a read ends that has nothing to give; an interrupted one counts as no data. -/
inductive NoData where
  | again
  | closed
  | error
  deriving DecidableEq, Repr

/-- What the reads of a device give: so many deliveries, then nothing. -/
structure IotSource (width size : Nat) where
  deliveries : List (Delivery width size)
  ending : NoData

/-- A message buffer filled by a receive function: the read made for it, if any, the memory its
payload is taken from, and the address. -/
structure Receipt (width size : Nat) where
  made : Option (Delivery width size)
  mem : Mem
  payload : Peek UInt8 (List UInt8)
  addr : Mem
  fits : (payload.value mem).length ≤ 1024

inductive Received (width size : Nat) where
  | ok (receipt : Receipt width size)
  | again
  | error

/-- A receive function, with the session and the device it leaves. -/
abbrev RecvFromRemote (width size : Nat) :=
  IotSession → IotSource width size → Received width size × IotSession × IotSource width size

/-- The payload consists of bytes of the read made for it. -/
def Receipt.Delivered {width size : Nat} (r : Receipt width size) : Prop :=
  ∃ d, r.made = some d ∧ r.mem = d.mem ∧ r.payload.Below d.mem (width * d.len)

def Receipt.msg {width size : Nat} (r : Receipt width size) : IotMsgBuffer :=
  { data := r.payload.value r.mem, addr := r.addr, fits := r.fits }

def NoData.received {width size : Nat} : NoData → Received width size
  | .again => .again
  | .closed | .error => .error

/-- The zeroed buffer, with the length it came with. -/
def untouchedBuffer : Receipt 1 1024 :=
  { made := none, mem := fun _ => 0, payload := Peek.block 0 1024, addr := fun _ => 0
    fits := by simp }

/-- Outside client mode nothing is read. -/
def bluetoothRecvFromRemote : RecvFromRemote 1 1024 := fun sess source =>
  if sess.workingMode = .client then
    match source.deliveries with
    | [] => (source.ending.received, sess, source)
    | d :: rest =>
      let source := { source with deliveries := rest }
      match d.peer with
      | none => (.error, sess, source)
      | some addr =>
        (.ok
          { made := some d, mem := d.mem, payload := Peek.block 0 d.len, addr
            fits := by simpa using d.fits }, sess, source)
  else (.ok untouchedBuffer, sess, source)

/-- Offset of `data` in `struct can_frame`. -/
def canDataOff : Nat := 8
def canFrameSize : Nat := 16

/-- As many bytes are copied from the data field on as the read of the whole frame gave. -/
def canRecvFromRemote : RecvFromRemote 1 canFrameSize := fun sess source =>
  if sess.workingMode = .client then
    match source.deliveries with
    | [] => (source.ending.received, sess, source)
    | d :: rest =>
      (.ok
        { made := some d, mem := d.mem, payload := Peek.block canDataOff d.len
          addr := store (fun _ => 0) 2 (load d.mem 0 4)
          fits := by
            have hfits : d.len ≤ 16 := d.fits
            simp only [Peek.value_block, length_load]
            omega }, sess, { source with deliveries := rest })
  else (.error, sess, source)

/-- The address of the one device there is, `192.168.137.2:502`, with one register from 0 on. -/
def modbusDeviceAddr : Mem := store (fun _ => 0) 0 [192, 168, 137, 2, 246, 1, 0, 0, 0, 1, 0]

/-- Registers are read once for each read command. -/
def modbustcpRecvFromRemote : RecvFromRemote 2 1 := fun sess source =>
  if sess.workingMode = .client ∧ sess.sessState = iotSessStatePending then
    if !sess.priData then (.error, sess, source)
    else
      match source.deliveries with
      | [] => (.error, sess, source)
      | d :: rest =>
        (.ok
          { made := some d, mem := d.mem, payload := Peek.block 0 (2 * d.len)
            addr := modbusDeviceAddr
            fits := by
              have hfits := d.fits
              simp only [Peek.value_block, length_load]
              omega }, { sess with sessState := iotSessStateIdle },
          { source with deliveries := rest })
  else (.error, sess, source)

/-- One iteration that received something: the receipt, TX as the other side has left it, and the
message put there. -/
structure Pass (width size : Nat) where
  receipt : Receipt width size
  tx : TxQueue
  put : Option (List UInt8)

structure DriveRun (width size : Nat) where
  tx : TxQueue
  passes : List (Pass width size)

section Drive

variable {width size : Nat}

/-- The loop of the engine, for `fuel` iterations at most; in the `k`-th one the other side has
done `peers k` to TX by the time the message is put. -/
def IotLoop.drive (loop : IotLoop) (recv : RecvFromRemote width size) (txReady : Bool)
    (peers : Nat → TxQueue → TxQueue) :
    Nat → Nat → IotSession → IotSource width size → TxQueue → Option (DriveRun width size)
  | 0, _, _, _, _ => none
  | fuel + 1, k, sess, source, tx =>
    match recv sess source with
    | (.again, _, _) | (.error, _, _) => some { tx, passes := [] }
    | (.ok receipt, sess', source') =>
      let (put, tx') := loop.put txReady (peers k tx) receipt.msg
      (loop.drive recv txReady peers fuel (k + 1) sess' source' tx').map fun later =>
        { tx := later.tx, passes := { receipt, tx := peers k tx, put } :: later.passes }

/-- The message built for what was received is put on TX if TX takes it, and nothing else is. -/
structure Pass.PutsMessage (loop : IotLoop) (txReady : Bool) (pass : Pass width size) : Prop where
  taken : TakesMessage loop txReady pass.tx pass.receipt.msg →
    pass.put = some (loop.message pass.receipt.msg)
  refused : ¬ TakesMessage loop txReady pass.tx pass.receipt.msg → pass.put = none

/-- The loop returns, and the messages it built belong one by one to the first reads of the device,
with bytes of their read for a payload. -/
structure ForwardsReads (loop : IotLoop) (recv : RecvFromRemote width size) (txReady : Bool)
    (peers : Nat → TxQueue → TxQueue) (sess : IotSession) (source : IotSource width size)
    (tx : TxQueue) : Prop where
  returns : ∃ fuel run, loop.drive recv txReady peers fuel 0 sess source tx = some run
  reads : ∀ fuel run, loop.drive recv txReady peers fuel 0 sess source tx = some run →
    ∃ n, run.passes.map (fun pass => pass.receipt.made) = (source.deliveries.take n).map some
  payload : ∀ fuel run, loop.drive recv txReady peers fuel 0 sess source tx = some run →
    ∀ pass ∈ run.passes, pass.receipt.Delivered
  built : ∀ fuel run, loop.drive recv txReady peers fuel 0 sess source tx = some run →
    ∀ pass ∈ run.passes, pass.PutsMessage loop txReady

/-! A loop whose receive function takes a delivery for each message. -/

/-- In the sessions of `I`, which it keeps, a message is received with the next read. -/
def ConsumesReads (recv : RecvFromRemote width size) (I : IotSession → Prop) : Prop :=
  ∀ sess source receipt sess' source', I sess → recv sess source = (.ok receipt, sess', source') →
    I sess' ∧ ∃ d, source.deliveries = d :: source'.deliveries ∧ receipt.made = some d

variable {loop : IotLoop} {recv : RecvFromRemote width size} {txReady : Bool}
  {peers : Nat → TxQueue → TxQueue} {I : IotSession → Prop} {k fuel : Nat}
  {sess sess' : IotSession} {source source' : IotSource width size} {tx : TxQueue}
  {receipt : Receipt width size} {run : DriveRun width size}

theorem recv_cases (recv : RecvFromRemote width size) (sess : IotSession)
    (source : IotSource width size) :
    (∃ receipt sess' source', recv sess source = (.ok receipt, sess', source')) ∨
      ∀ receipt, (recv sess source).1 ≠ .ok receipt := by
  cases h : recv sess source with
  | mk received left =>
    cases received with
    | ok receipt => exact .inl ⟨receipt, left.1, left.2, rfl⟩
    | again | error => exact .inr fun receipt => by simp

theorem drive_next (h : recv sess source = (.ok receipt, sess', source')) :
    loop.drive recv txReady peers (fuel + 1) k sess source tx =
      (loop.drive recv txReady peers fuel (k + 1) sess' source'
        (loop.put txReady (peers k tx) receipt.msg).2).map fun later =>
          { tx := later.tx
            passes :=
              { receipt, tx := peers k tx, put := (loop.put txReady (peers k tx) receipt.msg).1 } ::
                later.passes } := by
  simp only [IotLoop.drive, h]

theorem drive_last (h : ∀ receipt, (recv sess source).1 ≠ .ok receipt) :
    loop.drive recv txReady peers (fuel + 1) k sess source tx = some { tx, passes := [] } := by
  simp only [IotLoop.drive]
  split
  · rfl
  · rfl
  · rename_i receipt _ _ hr
    exact absurd (congrArg Prod.fst hr) (h receipt)

/-- The deliveries left bound the iterations. -/
theorem drive_returns (hrecv : ConsumesReads recv I) (k : Nat) (sess : IotSession)
    (source : IotSource width size) (tx : TxQueue) (hI : I sess) :
    ∃ run, loop.drive recv txReady peers (source.deliveries.length + 1) k sess source tx =
      some run := by
  generalize hn : source.deliveries.length = n
  induction n generalizing k sess source tx with
  | zero =>
    refine ⟨{ tx, passes := [] }, drive_last fun receipt hr => ?_⟩
    obtain ⟨-, d, hd, -⟩ := hrecv sess source receipt _ _ hI (Prod.ext hr rfl)
    rw [hd] at hn
    cases hn
  | succ n ih =>
    rcases recv_cases recv sess source with ⟨receipt, sess', source', hstep⟩ | hnone
    · obtain ⟨hI', d, hd, -⟩ := hrecv sess source receipt sess' source' hI hstep
      have hrest : source'.deliveries.length = n := by
        rw [hd, List.length_cons] at hn
        omega
      obtain ⟨later, hlater⟩ := ih (k + 1) _ _
        (loop.put txReady (peers k tx) receipt.msg).2 hI' hrest
      rw [drive_next hstep, hlater]
      exact ⟨_, rfl⟩
    · exact ⟨_, drive_last hnone⟩

/-- The iterations that received something, as the deliveries they took. -/
theorem drive_reads (hrecv : ConsumesReads recv I) (hI : I sess)
    (h : loop.drive recv txReady peers fuel k sess source tx = some run) :
    ∃ n, run.passes.map (fun pass => pass.receipt.made) = (source.deliveries.take n).map some := by
  induction fuel generalizing k sess source tx run with
  | zero => cases h
  | succ fuel ih =>
    rcases recv_cases recv sess source with ⟨receipt, sess', source', hstep⟩ | hnone
    · obtain ⟨hI', d, hd, hmade⟩ := hrecv sess source receipt _ _ hI hstep
      rw [drive_next hstep, Option.map_eq_some_iff] at h
      obtain ⟨later, hlater, rfl⟩ := h
      obtain ⟨n, hn⟩ := ih hI' hlater
      refine ⟨n + 1, ?_⟩
      rw [hd, List.take_succ_cons, List.map_cons, List.map_cons, hn, hmade]
    · rw [drive_last hnone] at h
      cases h
      exact ⟨0, rfl⟩

/-- What every message received has, every message of a run has. -/
theorem drive_all {P : Receipt width size → Prop}
    (hrecv : ∀ sess source receipt sess' source', I sess →
      recv sess source = (.ok receipt, sess', source') → I sess' ∧ P receipt) (hI : I sess)
    (h : loop.drive recv txReady peers fuel k sess source tx = some run) :
    ∀ pass ∈ run.passes, P pass.receipt := by
  induction fuel generalizing k sess source tx run with
  | zero => cases h
  | succ fuel ih =>
    rcases recv_cases recv sess source with ⟨receipt, sess', source', hstep⟩ | hnone
    · obtain ⟨hI', hP⟩ := hrecv sess source receipt _ _ hI hstep
      rw [drive_next hstep, Option.map_eq_some_iff] at h
      obtain ⟨later, hlater, rfl⟩ := h
      intro pass hpass
      rcases List.mem_cons.mp hpass with rfl | hpass
      · exact hP
      · exact ih hI' hlater pass hpass
    · rw [drive_last hnone] at h
      cases h
      intro pass hpass
      cases hpass

theorem put_putsMessage (loop : IotLoop) (txReady : Bool) (tx : TxQueue)
    (receipt : Receipt width size) :
    Pass.PutsMessage loop txReady
      { receipt, tx, put := (loop.put txReady tx receipt.msg).1 } := by
  constructor
  · intro htaken
    obtain ⟨tx', hput⟩ := loop.put_taken htaken
    rw [hput]
  · intro hrefused
    rw [loop.put_refused hrefused]

/-- A message on TX is the one built for what was received. -/
theorem Pass.PutsMessage.built {pass : Pass width size} (h : pass.PutsMessage loop txReady)
    {message : List UInt8} (hput : pass.put = some message) :
    message = loop.message pass.receipt.msg := by
  by_cases htaken : TakesMessage loop txReady pass.tx pass.receipt.msg
  · rw [h.taken htaken] at hput
    exact (Option.some.inj hput).symm
  · rw [h.refused htaken] at hput
    cases hput

theorem drive_puts (h : loop.drive recv txReady peers fuel k sess source tx = some run) :
    ∀ pass ∈ run.passes, pass.PutsMessage loop txReady := by
  induction fuel generalizing k sess source tx run with
  | zero => cases h
  | succ fuel ih =>
    rcases recv_cases recv sess source with ⟨receipt, sess', source', hstep⟩ | hnone
    · rw [drive_next hstep, Option.map_eq_some_iff] at h
      obtain ⟨later, hlater, rfl⟩ := h
      intro pass hpass
      rcases List.mem_cons.mp hpass with rfl | hpass
      · exact put_putsMessage loop txReady (peers k tx) receipt
      · exact ih hlater pass hpass
    · rw [drive_last hnone] at h
      cases h
      intro pass hpass
      cases hpass

/-- A run to the end is a run over what was received. -/
theorem drive_run (h : loop.drive recv txReady peers fuel k sess source tx = some run) :
    ∃ turns, loop.run txReady turns tx =
      { tx := run.tx, enqueued := run.passes.filterMap fun pass => pass.put, rest := [] } := by
  induction fuel generalizing k sess source tx run with
  | zero => cases h
  | succ fuel ih =>
    rcases recv_cases recv sess source with ⟨receipt, sess', source', hstep⟩ | hnone
    · rw [drive_next hstep, Option.map_eq_some_iff] at h
      obtain ⟨later, hlater, rfl⟩ := h
      obtain ⟨turns, hturns⟩ := ih hlater
      refine ⟨{ recv := .ok receipt.msg, peer := peers k } :: turns, ?_⟩
      simp only [IotLoop.run, hturns, List.filterMap_cons]
      cases (loop.put txReady (peers k tx) receipt.msg).1 <;> rfl
    · rw [drive_last hnone] at h
      cases h
      exact ⟨[{ recv := .again, peer := id }], rfl⟩

end Drive

/-! The three receive functions. -/

/-- The message was received with the next read, and its payload is as many bytes as the read gave,
taken from `off` on. -/
def FromNextRead {width size : Nat} (source source' : IotSource width size)
    (receipt : Receipt width size) (off : Nat) : Prop :=
  ∃ d, source.deliveries = d :: source'.deliveries ∧ receipt.made = some d ∧
    receipt.mem = d.mem ∧ receipt.payload = Peek.block off (width * d.len)

/-- Such a payload is delivered if it is taken from the start. -/
theorem FromNextRead.delivered_iff {width size off : Nat} {source source' : IotSource width size}
    {receipt : Receipt width size} (h : FromNextRead source source' receipt off)
    (hwidth : 0 < width) : receipt.Delivered ↔ off = 0 := by
  obtain ⟨d, -, hmade, hmem, hpayload⟩ := h
  have hpos := Nat.mul_pos hwidth d.positive
  constructor
  · intro hdel
    obtain ⟨d', hmade', -, hbelow⟩ := hdel
    cases hmade.symm.trans hmade'
    rw [hpayload, Peek.below_block] at hbelow
    omega
  · intro hoff
    refine ⟨d, hmade, hmem, ?_⟩
    rw [hpayload, Peek.below_block, hoff]
    omega

theorem FromNextRead.consumes {width size off : Nat} {recv : RecvFromRemote width size}
    {I : IotSession → Prop}
    (hrecv : ∀ sess source receipt sess' source', I sess →
      recv sess source = (.ok receipt, sess', source') →
        I sess' ∧ FromNextRead source source' receipt off) : ConsumesReads recv I := by
  intro sess source receipt sess' source' hI h
  obtain ⟨hI', d, hd, hmade, -⟩ := hrecv sess source receipt sess' source' hI h
  exact ⟨hI', d, hd, hmade⟩

section Functions

variable {txReady : Bool} {peers : Nat → TxQueue → TxQueue} {sess sess' : IotSession}
  {tx : TxQueue}

theorem bluetoothRecv_ok {source source' : IotSource 1 1024} {receipt : Receipt 1 1024}
    (hclient : sess.workingMode = .client)
    (h : bluetoothRecvFromRemote sess source = (.ok receipt, sess', source')) :
    sess' = sess ∧ FromNextRead source source' receipt 0 := by
  simp only [bluetoothRecvFromRemote, hclient, if_true] at h
  cases hd : source.deliveries with
  | nil =>
    rw [hd] at h
    cases he : source.ending <;> simp [he, NoData.received] at h
  | cons d rest =>
    rw [hd] at h
    cases hp : d.peer with
    | none => simp [hp] at h
    | some addr =>
      simp only [hp, Prod.mk.injEq, Received.ok.injEq] at h
      obtain ⟨rfl, rfl, rfl⟩ := h
      exact ⟨rfl, d, hd, rfl, rfl, by rw [Nat.one_mul]⟩

theorem canRecv_ok {source source' : IotSource 1 canFrameSize}
    {receipt : Receipt 1 canFrameSize}
    (h : canRecvFromRemote sess source = (.ok receipt, sess', source')) :
    FromNextRead source source' receipt canDataOff := by
  unfold canRecvFromRemote at h
  split at h
  · split at h
    · cases he : source.ending <;> simp [he, NoData.received] at h
    · rename_i d rest hd
      simp only [Prod.mk.injEq, Received.ok.injEq] at h
      obtain ⟨rfl, rfl, rfl⟩ := h
      exact ⟨d, hd, rfl, rfl, by rw [Nat.one_mul]⟩
  · simp at h

theorem modbustcpRecv_ok {source source' : IotSource 2 1} {receipt : Receipt 2 1}
    (h : modbustcpRecvFromRemote sess source = (.ok receipt, sess', source')) :
    FromNextRead source source' receipt 0 := by
  unfold modbustcpRecvFromRemote at h
  split at h
  · split at h
    · simp at h
    · split at h
      · simp at h
      · rename_i d rest hd
        simp only [Prod.mk.injEq, Received.ok.injEq] at h
        obtain ⟨rfl, rfl, rfl⟩ := h
        exact ⟨d, hd, rfl, rfl, rfl⟩
  · simp at h

theorem bluetooth_next {source source' : IotSource 1 1024} {receipt : Receipt 1 1024}
    (hclient : sess.workingMode = .client)
    (h : bluetoothRecvFromRemote sess source = (.ok receipt, sess', source')) :
    sess'.workingMode = .client ∧ FromNextRead source source' receipt 0 := by
  obtain ⟨rfl, hnext⟩ := bluetoothRecv_ok hclient h
  exact ⟨hclient, hnext⟩

theorem bluetooth_consumes :
    ConsumesReads bluetoothRecvFromRemote fun sess => sess.workingMode = .client :=
  FromNextRead.consumes fun _ _ _ _ _ hclient h => bluetooth_next hclient h

theorem can_consumes : ConsumesReads canRecvFromRemote fun _ => True :=
  FromNextRead.consumes fun _ _ _ _ _ _ h => ⟨trivial, canRecv_ok h⟩

/-- In server mode every iteration receives the empty buffer. -/
theorem bluetooth_endless (loop : IotLoop) (hserver : sess.workingMode ≠ .client) (fuel k : Nat)
    (source : IotSource 1 1024) (tx : TxQueue) :
    loop.drive bluetoothRecvFromRemote txReady peers fuel k sess source tx = none := by
  induction fuel generalizing k tx with
  | zero => rfl
  | succ fuel ih =>
    have hstep : bluetoothRecvFromRemote sess source = (.ok untouchedBuffer, sess, source) :=
      if_neg hserver
    rw [drive_next hstep, ih]
    rfl

/-- A loop whose messages are taken from the start of what the reads gave. -/
theorem forwardsReads_of_start {width size : Nat} (loop : IotLoop)
    {recv : RecvFromRemote width size} {I : IotSession → Prop} (hwidth : 0 < width)
    (hrecv : ∀ sess source receipt sess' source', I sess →
      recv sess source = (.ok receipt, sess', source') →
        I sess' ∧ FromNextRead source source' receipt 0)
    (hI : I sess) (source : IotSource width size) :
    ForwardsReads loop recv txReady peers sess source tx := by
  have hconsumes := FromNextRead.consumes hrecv
  refine ⟨⟨_, drive_returns hconsumes 0 sess source tx hI⟩, fun fuel run h => ?_,
    fun fuel run h => ?_, fun fuel run h => drive_puts h⟩
  · exact drive_reads hconsumes hI h
  · refine drive_all (fun sess source receipt sess' source' hI h => ?_) hI h
    obtain ⟨hI', hnext⟩ := hrecv sess source receipt sess' source' hI h
    exact ⟨hI', (hnext.delivered_iff hwidth).mpr rfl⟩

theorem forwardsReads_of_nothing {width size : Nat} (loop : IotLoop)
    {recv : RecvFromRemote width size} {source : IotSource width size}
    (h : ∀ receipt, (recv sess source).1 ≠ .ok receipt) :
    ForwardsReads loop recv txReady peers sess source tx := by
  have hrun : ∀ fuel run, loop.drive recv txReady peers fuel 0 sess source tx = some run →
      run.passes = [] := by
    intro fuel run hrun
    cases fuel with
    | zero => cases hrun
    | succ fuel =>
      rw [drive_last h] at hrun
      cases hrun
      rfl
  refine ⟨⟨1, _, drive_last h⟩, fun fuel run hr => ⟨0, ?_⟩, fun fuel run hr pass hpass => ?_,
    fun fuel run hr => drive_puts hr⟩
  · rw [hrun fuel run hr]
    rfl
  · rw [hrun fuel run hr] at hpass
    cases hpass

theorem bluetooth_forwards_iff (source : IotSource 1 1024) :
    ForwardsReads bluetoothLoop bluetoothRecvFromRemote txReady peers sess source tx ↔
      sess.workingMode = .client := by
  constructor
  · intro h
    by_contra hserver
    obtain ⟨fuel, run, hrun⟩ := h.returns
    rw [bluetooth_endless bluetoothLoop hserver] at hrun
    cases hrun
  · intro hclient
    exact forwardsReads_of_start bluetoothLoop (I := fun sess => sess.workingMode = .client)
      Nat.one_pos (fun _ _ _ _ _ hclient h => bluetooth_next hclient h) hclient source

theorem canRecv_step {source : IotSource 1 canFrameSize}
    (hclient : sess.workingMode = .client) {d : Delivery 1 canFrameSize}
    {rest : List (Delivery 1 canFrameSize)} (hd : source.deliveries = d :: rest) :
    ∃ receipt, canRecvFromRemote sess source =
      (.ok receipt, sess, { source with deliveries := rest }) := by
  simp [canRecvFromRemote, hclient, hd]

theorem canRecv_none {source : IotSource 1 canFrameSize}
    (h : sess.workingMode = .client → source.deliveries = [])
    (receipt : Receipt 1 canFrameSize) : (canRecvFromRemote sess source).1 ≠ .ok receipt := by
  by_cases hclient : sess.workingMode = .client
  · cases he : source.ending <;>
      simp [canRecvFromRemote, hclient, h hclient, he, NoData.received]
  · simp [canRecvFromRemote, hclient]

/-- The first frame already makes the loop forward bytes from behind it. -/
theorem can_forwards_iff (source : IotSource 1 canFrameSize) :
    ForwardsReads canLoop canRecvFromRemote txReady peers sess source tx ↔
      (sess.workingMode = .client → source.deliveries = []) := by
  constructor
  · intro h hclient
    cases hd : source.deliveries with
    | nil => rfl
    | cons d rest =>
      obtain ⟨receipt, hstep⟩ := canRecv_step hclient hd
      obtain ⟨fuel, run, hrun⟩ := h.returns
      have hdelivered := h.payload fuel run hrun
      cases fuel with
      | zero => cases hrun
      | succ fuel =>
        rw [drive_next hstep, Option.map_eq_some_iff] at hrun
        obtain ⟨later, -, rfl⟩ := hrun
        have hfirst := hdelivered _ (List.mem_cons_self ..)
        have hoff := ((canRecv_ok hstep).delivered_iff Nat.one_pos).mp hfirst
        cases hoff
  · exact fun h => forwardsReads_of_nothing canLoop (canRecv_none h)

theorem modbustcp_forwards (source : IotSource 2 1) :
    ForwardsReads modbustcpLoop modbustcpRecvFromRemote txReady peers sess source tx :=
  forwardsReads_of_start modbustcpLoop Nat.two_pos
    (fun _ _ _ _ _ _ h => ⟨trivial, modbustcpRecv_ok h⟩) (I := fun _ => True) trivial source

end Functions

/-- The Bluetooth loop returns in client mode only, the CAN loop forwards what it reads as long as
it reads no frame, and the Modbus TCP loop does always as it should. -/
theorem receiveLoops_forward_iff (txReady : Bool) (peers : Nat → TxQueue → TxQueue)
    (sess : IotSession) (tx : TxQueue) :
    (∀ source, ForwardsReads bluetoothLoop bluetoothRecvFromRemote txReady peers sess source tx ↔
        sess.workingMode = .client) ∧
      (∀ source, ForwardsReads canLoop canRecvFromRemote txReady peers sess source tx ↔
        (sess.workingMode = .client → source.deliveries = [])) ∧
      ∀ source, ForwardsReads modbustcpLoop modbustcpRecvFromRemote txReady peers sess source tx :=
  ⟨bluetooth_forwards_iff, can_forwards_iff, modbustcp_forwards⟩

def serverSession : IotSession := { workingMode := .server, sessState := 0, priData := false }

def clientSession : IotSession := { workingMode := .client, sessState := 0, priData := false }

/-- A frame with two bytes of data. -/
def oneFrame : IotSource 1 canFrameSize :=
  { deliveries :=
      [{ mem := store (fun _ => 0xEE) 0 [0, 2, 0, 0, 2, 0, 0, 0, 0xAA, 0xBB, 0, 0, 0, 0, 0, 0]
         len := 16, peer := none, positive := by decide, fits := by decide }]
    ending := .again }

/-- A Bluetooth session in server mode keeps the engine in its loop; of a CAN frame eight bytes
come from behind it. -/
theorem receiveLoops_slip :
    (∀ fuel, bluetoothLoop.drive bluetoothRecvFromRemote true (fun _ => id) fuel 0 serverSession
        { deliveries := [], ending := .again } fullTx = none) ∧
      ¬ ForwardsReads canLoop canRecvFromRemote true (fun _ => id) clientSession oneFrame
        fullTx := by
  refine ⟨fun fuel => bluetooth_endless bluetoothLoop (by decide) fuel 0 _ _, fun h => ?_⟩
  have hempty := (can_forwards_iff oneFrame).mp h rfl
  cases hempty

end BackendProxy.Wire
