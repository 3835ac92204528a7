import BackendProxy.Lib.Handover
import BackendProxy.Pool.Effects
import BackendProxy.Pool.Streams

namespace BackendProxy.Pool

open Lib Queue

/-! `high_speed_data_process_b2f` under any answers of `backend_engine_hyperamp_tx_queue_put`. -/

/-- The loop over the segments, with the answer of the put for each pass: the status, the segments
left, and those on TX. -/
def putSegments (put : Nat → List UInt8 → ProcessStatus) :
    Nat → List (List UInt8) → ProcessStatus × List (List UInt8) × List (List UInt8)
  | _, [] => (.ok, [], [])
  | i, seg :: segs =>
    match put i seg with
    | .again => (.again, seg :: segs, [])
    | .ok =>
      let (status, left, sent) := putSegments put (i + 1) segs
      (status, left, seg :: sent)
    -- only AGAIN is looked at: the segment is freed like one that was put
    | .error => putSegments put (i + 1) segs

def dataProcessB2f (p : SessPtr) (put : Nat → List UInt8 → ProcessStatus) :
    EngineM ProcessStatus := do
  let s ← deref p
  let result := putSegments put 0 (s.msg .b2f)
  storeNoting p (s.setMsg .b2f result.2.1) fun h =>
    { h with transmitted := h.transmitted ++
        result.2.2.map fun msg => ⟨s.frontendSessId, s.backendSessId, msg⟩ }
  pure result.1

theorem transmitSegments_eq (blockSize : Nat) (full : Nat → Bool) (i : Nat)
    (segs : List (List UInt8)) :
    transmitSegments blockSize full i segs =
      putSegments (fun i seg => txPutStatus blockSize (full i) seg) i segs := by
  induction segs generalizing i with
  | nil => rfl
  | cons seg segs ih =>
    cases hput : txPutStatus blockSize (full i) seg with
    | again => simp only [transmitSegments, putSegments, hput]
    | ok | error => simp only [transmitSegments, putSegments, hput, ih]

/-- The main loop's function is the one with the answers of a queue of the engine's block size. -/
theorem highSpeedDataProcessB2f_eq (p : SessPtr) (full : Nat → Bool) (e : Engine) :
    highSpeedDataProcessB2f p full e =
      dataProcessB2f p (fun i seg => txPutStatus e.blockSize (full i) seg) e := by
  unfold highSpeedDataProcessB2f dataProcessB2f
  cases hs : e.heap p with
  | none => simp [bind, StateT.bind, deref, hs, Prog.ofOption, Prog.halt, get, getThe,
      MonadStateOf.get, StateT.get, pure, Except.pure, Except.bind]
  | some s =>
    have hderef : deref p e = .ok (s, e) := deref_ok.mpr ⟨hs, rfl⟩
    simp only [bind, StateT.bind, hderef, Except.bind, get, getThe, MonadStateOf.get, StateT.get,
      pure, Except.pure, transmitSegments_eq]

/-- The status, the segments left and those on TX fit together. -/
structure AccountedFor (put : Nat → List UInt8 → ProcessStatus) (segs left sent : List (List UInt8))
    (status : ProcessStatus) : Prop where
  removed : segs = sent ++ left
  ok : status = .ok ↔ left = []
  again : status = .again ↔ ∃ seg later, left = seg :: later ∧ put sent.length seg = .again
  error : status = .error ↔ ∃ seg later, left = seg :: later ∧ put sent.length seg = .error

/-- No put fails before one finds the queue full. -/
def NoneFails (put : Nat → List UInt8 → ProcessStatus) (segs : List (List UInt8)) : Prop :=
  ∀ i seg, segs[i]? = some seg → put i seg = .error →
    ∃ j < i, ∃ seg', segs[j]? = some seg' ∧ put j seg' = .again

/-! The loop as a hand-over to TX. -/

/-- What becomes of a segment. -/
def putFate (put : Nat → List UInt8 → ProcessStatus) (i : Nat) (seg : List UInt8) : Fate × Nat :=
  match put i seg with
  | .ok => (.taken, i + 1)
  | .again => (.kept, i)
  | .error => (.dropped, i + 1)

section Loop

variable {put : Nat → List UInt8 → ProcessStatus}

theorem putSegments_eq (put : Nat → List UInt8 → ProcessStatus) (i : Nat)
    (segs : List (List UInt8)) :
    putSegments put i segs =
      (if (handOn (putFate put) i segs).left = [] then .ok else .again,
        (handOn (putFate put) i segs).left, (handOn (putFate put) i segs).taken) := by
  induction segs generalizing i with
  | nil => rfl
  | cons seg segs ih =>
    cases hput : put i seg with
    | ok =>
      have hfate : putFate put i seg = (.taken, i + 1) := by simp [putFate, hput]
      simp only [putSegments, hput, ih, Handover.handOn_taken hfate]
    | again =>
      have hfate : putFate put i seg = (.kept, i) := by simp [putFate, hput]
      simp [putSegments, hput, Handover.handOn_kept hfate]
    | error =>
      have hfate : putFate put i seg = (.dropped, i + 1) := by simp [putFate, hput]
      simp only [putSegments, hput, ih, Handover.handOn_dropped hfate]

/-- The loop stops at nothing but a full queue. -/
theorem left_head_again {i : Nat} {segs later : List (List UInt8)} {seg : List UInt8}
    (hnone : NoneDropped (putFate put) i segs)
    (hleft : (handOn (putFate put) i segs).left = seg :: later) :
    put (i + (handOn (putFate put) i segs).taken.length) seg = .again := by
  induction segs generalizing i with
  | nil => cases hleft
  | cons first segs ih =>
    cases hput : put i first with
    | ok =>
      have hfate : putFate put i first = (.taken, i + 1) := by simp [putFate, hput]
      simp only [NoneDropped, hfate] at hnone
      rw [Handover.handOn_taken hfate] at hleft ⊢
      have hlater := ih hnone hleft
      rwa [Nat.add_assoc, Nat.add_comm 1] at hlater
    | again =>
      have hfate : putFate put i first = (.kept, i) := by simp [putFate, hput]
      rw [Handover.handOn_kept hfate] at hleft ⊢
      cases hleft
      exact hput
    | error =>
      have hfate : putFate put i first = (.dropped, i + 1) := by simp [putFate, hput]
      simp only [NoneDropped, hfate] at hnone

/-- The condition, read off the passes from `i` on. -/
theorem noneDropped_iff (put : Nat → List UInt8 → ProcessStatus) (i : Nat)
    (segs : List (List UInt8)) :
    NoneDropped (putFate put) i segs ↔ NoneFails (fun k => put (i + k)) segs := by
  induction segs generalizing i with
  | nil => simp [NoneDropped, NoneFails]
  | cons first segs ih =>
    have hshift : ∀ k, put (i + (k + 1)) = put (i + 1 + k) := by
      intro k
      rw [Nat.add_assoc i 1, Nat.add_comm 1]
    cases hput : put i first with
    | again =>
      have hfate : putFate put i first = (.kept, i) := by simp [putFate, hput]
      simp only [NoneDropped, hfate, true_iff]
      intro k seg hseg herr
      cases k with
      | zero =>
        cases hseg
        cases hput.symm.trans herr
      | succ k => exact ⟨0, by omega, first, rfl, hput⟩
    | error =>
      have hfate : putFate put i first = (.dropped, i + 1) := by simp [putFate, hput]
      simp only [NoneDropped, hfate, false_iff]
      intro h
      obtain ⟨j, hj, -⟩ := h 0 first rfl hput
      omega
    | ok =>
      have hfate : putFate put i first = (.taken, i + 1) := by simp [putFate, hput]
      simp only [NoneDropped, hfate, ih]
      constructor
      · intro h k seg hseg herr
        cases k with
        | zero =>
          cases hseg
          cases hput.symm.trans herr
        | succ k =>
          obtain ⟨j, hj, seg', hseg', hagain⟩ :=
            h k seg hseg ((congrFun (hshift k) seg).symm.trans herr)
          exact ⟨j + 1, by omega, seg', hseg', (congrFun (hshift j) seg').trans hagain⟩
      · intro h k seg hseg herr
        obtain ⟨j, hj, seg', hseg', hagain⟩ :=
          h (k + 1) seg hseg ((congrFun (hshift k) seg).trans herr)
        cases j with
        | zero =>
          cases hseg'
          cases hput.symm.trans hagain
        | succ j =>
          exact ⟨j, by omega, seg', hseg', (congrFun (hshift j) seg').symm.trans hagain⟩

theorem accountedFor_iff (put : Nat → List UInt8 → ProcessStatus) (segs : List (List UInt8)) :
    AccountedFor put segs (putSegments put 0 segs).2.1 (putSegments put 0 segs).2.2
      (putSegments put 0 segs).1 ↔ NoneFails put segs := by
  have hcond := noneDropped_iff put 0 segs
  simp only [Nat.zero_add] at hcond
  rw [putSegments_eq, ← hcond]
  constructor
  · intro h
    exact (Handover.complete_iff _ _ _).mp h.removed
  · intro h
    refine ⟨(Handover.complete_iff _ _ _).mpr h, ?_, ?_, ?_⟩
    · simp
    · cases hleft : (handOn (putFate put) 0 segs).left with
      | nil => simp
      | cons seg later =>
        have hagain := left_head_again h hleft
        rw [Nat.zero_add] at hagain
        simpa using hagain
    · cases hleft : (handOn (putFate put) 0 segs).left with
      | nil => simp
      | cons seg later =>
        have hagain := left_head_again h hleft
        rw [Nat.zero_add] at hagain
        simp [hagain]

end Loop

/-- What a call leaves behind. -/
theorem dataProcessB2f_run (put : Nat → List UInt8 → ProcessStatus) {p : SessPtr} {e : Engine}
    {s : BackendSession} (hs : e.heap p = some s) :
    dataProcessB2f p put e =
      .ok ((putSegments put 0 (s.msg .b2f)).1,
        { e with
          heap := Function.update e.heap p
            (some (s.setMsg .b2f (putSegments put 0 (s.msg .b2f)).2.1))
          history := Function.update e.history p
            { e.history p with
              transmitted := (e.history p).transmitted ++
                (putSegments put 0 (s.msg .b2f)).2.2.map fun msg =>
                  ⟨s.frontendSessId, s.backendSessId, msg⟩ } }) := by
  have hderef : deref p e = .ok (s, e) := deref_ok.mpr ⟨hs, rfl⟩
  unfold dataProcessB2f storeNoting
  simp only [bind, StateT.bind, hderef, Except.bind]
  rfl

/-- A call accounts for every segment exactly if no put fails before one finds the queue full. -/
theorem dataProcessB2f_accounts_iff (p : SessPtr) (put : Nat → List UInt8 → ProcessStatus)
    (e : Engine) (s : BackendSession) (hs : e.heap p = some s) :
    ∃ status e' s' sent, dataProcessB2f p put e = .ok (status, e') ∧ e'.heap p = some s' ∧
      (e'.history p).transmitted = (e.history p).transmitted ++
        sent.map (fun msg => ⟨s.frontendSessId, s.backendSessId, msg⟩) ∧
      (AccountedFor put (s.msg .b2f) (s'.msg .b2f) sent status ↔ NoneFails put (s.msg .b2f)) := by
  refine ⟨_, _, s.setMsg .b2f (putSegments put 0 (s.msg .b2f)).2.1,
    (putSegments put 0 (s.msg .b2f)).2.2, dataProcessB2f_run put hs, ?_, ?_, ?_⟩
  · exact Function.update_self _ _ _
  · simp
  · rw [BackendSession.setMsg_msg]
    exact accountedFor_iff put (s.msg .b2f)

/-- An engine with blocks of two bytes and one session, which has `segs` for the frontend. -/
def backlogged (segs : List (List UInt8)) : Engine :=
  { highSpeedInitPool 1 (fun _ => { active := true, nsId := 3 }) 2 with
    heap := fun q => if q = 0 then some (zeroSession.setMsg .b2f segs) else none }

/-- Two segments for a queue that is full at the second. -/
theorem dataProcessB2f_accounts_full :
    ∃ s, (backlogged [[1], [2]]).heap 0 = some s ∧
      ∃ status e' s' sent,
        dataProcessB2f 0 (fun i _ => if i = 0 then .ok else .again) (backlogged [[1], [2]]) =
          .ok (status, e') ∧ e'.heap 0 = some s' ∧
        AccountedFor (fun i _ => if i = 0 then .ok else .again) (s.msg .b2f) (s'.msg .b2f) sent
          status := by
  refine ⟨_, rfl, ?_⟩
  obtain ⟨status, e', s', sent, hrun, hs', -, hiff⟩ := dataProcessB2f_accounts_iff 0
    (fun i _ => if i = 0 then .ok else .again) (backlogged [[1], [2]]) _ rfl
  refine ⟨status, e', s', sent, hrun, hs', hiff.mpr ?_⟩
  intro i seg _ herr
  dsimp only at herr
  split at herr <;> cases herr

/-- A segment larger than a block is freed and the call reports success. -/
theorem oversized_segment_vanishes :
    ∃ e' s', highSpeedDataProcessB2f 0 (fun _ => false) (backlogged [[1, 2, 3], [4]]) =
        .ok (.ok, e') ∧
      e'.heap 0 = some s' ∧ s'.msg .b2f = [] ∧
      (e'.history 0).transmitted.map Transmission.message = [[4]] ∧
      ¬ AccountedFor (fun _ seg => txPutStatus 2 false seg) [[1, 2, 3], [4]] (s'.msg .b2f)
        ((e'.history 0).transmitted.map Transmission.message) .ok := by
  rw [highSpeedDataProcessB2f_eq, dataProcessB2f_run _ (s := zeroSession.setMsg .b2f _) rfl]
  refine ⟨_, _, rfl, rfl, rfl, rfl, ?_⟩
  intro h
  have hremoved : [[1, 2, 3], [4]] = [[(4 : UInt8)]] ++ [] := h.removed
  revert hremoved
  decide

end BackendProxy.Pool
