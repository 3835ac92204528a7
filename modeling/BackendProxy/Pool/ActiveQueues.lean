import BackendProxy.Pool.Identifiers
import BackendProxy.Pool.MainLoop

namespace BackendProxy.Pool

open Lib Lib.Tailq Queue

/-! Which sessions the active queues hold, and whether they see all the data that waits. -/

/-- Each active queue holds exactly the sessions of the table whose bit is set, each once. -/
def LinksIntact (e : Engine) : Prop :=
  ∀ d, ∃ l, Holds (e.queue d) () l ∧
    ∀ p, p ∈ l ↔ p ∈ e.htable ∧ ∃ s, e.heap p = some s ∧ isLinked (s.state d) = true

/-- Every session of the table with a segment to forward is in the queue of that direction. -/
def NothingStranded (e : Engine) : Prop :=
  ∀ d, ∃ l, Holds (e.queue d) () l ∧
    ∀ p s, p ∈ e.htable → e.heap p = some s → s.msg d ≠ [] → p ∈ l

/-- Both bits happen to be clear in the memory a session is made of. -/
def BitsClear (block : BackendSession) : Prop := ∀ d, isLinked (block.state d) = false

/-- Every allocation and every read succeeds until nothing announced is left. -/
def ReadsThrough : Int → List ReadOutcome → Prop
  | n, [] => n ≤ 0
  | n, .got bytes :: outcomes =>
    n ≤ 0 ∨ ReadsThrough (n - (bytes.take Wire.proxyMsgMaxSize).length) outcomes
  | n, _ :: _ => n ≤ 0

instance decidableReadsThrough :
    (n : Int) → (outcomes : List ReadOutcome) → Decidable (ReadsThrough n outcomes)
  | n, [] => inferInstanceAs (Decidable (n ≤ 0))
  | n, .got bytes :: outcomes =>
    have := decidableReadsThrough (n - (bytes.take Wire.proxyMsgMaxSize).length) outcomes
    inferInstanceAs (Decidable (_ ∨ _))
  | n, .noMemory :: _ => inferInstanceAs (Decidable (n ≤ 0))
  | n, .failed :: _ => inferInstanceAs (Decidable (n ≤ 0))

/-- The first allocation or read fails already. -/
def FailsAtOnce : List ReadOutcome → Prop
  | .got _ :: _ => False
  | _ => True

theorem readSegments_through {n : Int} {outcomes : List ReadOutcome}
    (h : ReadsThrough n outcomes) : (readSegments n outcomes).1 = .ok := by
  induction outcomes generalizing n with
  | nil =>
    simp only [ReadsThrough] at h
    simp only [readSegments]
    rw [if_neg (by omega)]
  | cons outcome outcomes ih =>
    simp only [readSegments]
    split <;> rename_i hn
    · cases outcome with
      | noMemory =>
        simp only [ReadsThrough] at h
        omega
      | failed =>
        simp only [ReadsThrough] at h
        omega
      | got bytes =>
        rcases h with h | h
        · omega
        · exact ih h
    · rfl

theorem readSegments_at_once {n : Int} {outcomes : List ReadOutcome} (h : FailsAtOnce outcomes) :
    (readSegments n outcomes).2 = [] := by
  cases outcomes with
  | nil =>
    simp only [readSegments]
    split <;> rfl
  | cons outcome outcomes =>
    simp only [readSegments]
    cases outcome with
    | noMemory | failed => split <;> rfl
    | got bytes => exact h.elim

/-- Nothing is asked of the system but memory with clear bits. -/
def clearBlocks : Premises :=
  { block := BitsClear
    send := fun _ _ => True
    read := fun _ _ _ => True
    read_linked := fun _ _ _ => trivial }

/-- A read that breaks off with segments already queued is for a session that is linked. -/
def linkedReads : Premises :=
  { block := BitsClear
    send := fun _ _ => True
    read := fun linked n outcomes =>
      linked = true ∨ ReadsThrough n outcomes ∨ FailsAtOnce outcomes
    read_linked := fun _ _ _ => Or.inl rfl }

/-! The bit and the queue. -/

/-- The bit is set only for a session in the queue. -/
def SessTraffic.Tied (x : SessTraffic) : Prop := ∀ d, x.linked d = true → x.queued d = true

section Tied

variable {x : SessTraffic} {d : Dir}

theorem SessTraffic.Tied.setMsg (h : x.Tied) {segs : List (List UInt8)} :
    (x.setMsg d segs).Tied := h

theorem SessTraffic.Tied.link (h : x.Tied) : (x.link d).Tied ∧ (x.link d).queued d = true := by
  have hd : (x.link d).queued d = true := by
    simp only [SessTraffic.link, Function.update_self]
    cases hl : x.linked d with
    | true => simp [h d hl]
    | false => simp
  refine ⟨fun d' hl => ?_, hd⟩
  by_cases he : d' = d
  · subst he
    exact hd
  · simp only [SessTraffic.link, Function.update_of_ne he] at hl ⊢
    exact h d' hl

theorem SessTraffic.Tied.drop (h : x.Tied) : (x.drop d).Tied := by
  intro d' hl
  by_cases he : d' = d
  · subst he
    simp [SessTraffic.drop] at hl
  · simp only [SessTraffic.drop, Function.update_of_ne he] at hl ⊢
    exact h d' hl

theorem SessTraffic.Tied.step {P : Premises} {blockSize : Nat} {p : SessPtr} {y : SessTraffic}
    {hist hist' : SessHistory} (hs : SessStep P blockSize p x hist y hist') (h : x.Tied) :
    y.Tied := by
  cases hs with
  | accept payload => exact h.setMsg.link.1
  | send env bufSize _ => exact h.setMsg
  | read n outcomes _ =>
    unfold SessTraffic.afterRead
    split
    · exact h.setMsg.link.1
    · exact h.setMsg
  | transmit full => exact h.setMsg
  | drop d _ => exact h.drop

theorem SessTraffic.start_tied {frontend backend : UInt16} {block : BackendSession}
    (hb : BitsClear block) : (SessTraffic.start frontend backend block).Tied := by
  intro d hl
  change isLinked (block.state d) = true at hl
  rw [hb d] at hl
  cases hl

end Tied

def tiedRule (blockSize : Nat) : SessRule clearBlocks blockSize :=
  { Live := fun _ x _ => x.Tied
    Past := fun _ _ => True
    blank := fun _ => trivial
    start := fun _ _ _ _ hb => SessTraffic.start_tied hb
    step := fun _ _ _ _ _ hs h => h.step hs
    past := fun _ _ _ _ => trivial }

/-- In a sound engine whose sessions are tied to the queues, these are intact. -/
theorem Sound.links_intact {e : Engine} {l : Dir → List SessPtr} (h : Sound e l)
    (ht : ∀ p x, (e.traffic l).sess p = some x → x.Tied) : LinksIntact e := by
  intro d
  refine ⟨l d, h.holds d, fun p => ⟨h.queued d p, ?_⟩⟩
  intro hin
  obtain ⟨hp, s, hs, hlink⟩ := hin
  have hq := ht p _ (traffic_sess hp hs) d hlink
  simpa [BackendSession.traffic] using hq

/-- Along every run over blocks whose bits are clear, the bits tell what the queues hold. -/
theorem activeQueues_linked (devNum : Nat) (config : Nat → HighSpeedNetDevice) (blockSize : Nat)
    (ops : List MainOp) (t : Engine)
    (met : AllSteps mainStep clearBlocks.Meets (highSpeedInitPool devNum config blockSize) ops)
    (reached : run mainStep (highSpeedInitPool devNum config blockSize) ops = .ok t) :
    LinksIntact t := by
  obtain ⟨l, hsound, hobeyed⟩ := main_obeys (tiedRule blockSize) met reached
  exact hsound.links_intact hobeyed.live

theorem zeroSession_clear : BitsClear zeroSession := by
  intro d
  change isLinked 0 = false
  decide

theorem goodEnv_clear (block : BackendSession) (h : goodEnv.malloc = some block) :
    BitsClear block := by
  cases h
  exact zeroSession_clear

/-- A session receives data to forward. -/
theorem activeQueues_linked_data :
    ∃ t, run mainStep oneDevice
        [.pool (.createActive tcpRequest goodEnv), .msg (dataFor1 [1, 2]) goodMsgEnv] = .ok t ∧
      (t.queue .f2b).first () = some 0 ∧ LinksIntact t := by
  obtain ⟨t, ht, hfirst⟩ := reached_of_view (f := fun t => (t.queue .f2b).first ()) (b := some 0)
    (show (run mainStep oneDevice
        [.pool (.createActive tcpRequest goodEnv),
          .msg (dataFor1 [1, 2]) goodMsgEnv]).toOption.map _ = _ by decide +kernel)
  refine ⟨t, ht, hfirst, activeQueues_linked 1 _ 4096 _ t ?_ ht⟩
  exact ⟨goodEnv_clear, fun _ _ => ⟨goodEnv_clear, fun _ _ => trivial⟩⟩

/-- The bits of a new session keep what the memory held: it counts as linked without ever having
been inserted. -/
theorem garbage_bit_breaks_links :
    ¬ ∀ ops t, run mainStep oneDevice ops = .ok t → LinksIntact t := by
  intro h
  obtain ⟨t, ht, hview⟩ := reached_of_view
    (f := fun t => (t.htable, (t.heap 0).map fun s => isLinked (s.state .f2b),
      (t.queue .f2b).first ()))
    (b := ([0], some true, none))
    (show (run mainStep oneDevice
        [.pool (.createActive tcpRequest
          { goodEnv with malloc := some { zeroSession with state := fun _ => 1 } })]).toOption.map
            _ = _ by decide +kernel)
  simp only [Prod.mk.injEq, Option.map_eq_some_iff] at hview
  obtain ⟨hlisted, ⟨s, hs, hlink⟩, hfirst⟩ := hview
  obtain ⟨l, hholds, hl⟩ := h _ t ht .f2b
  have hmem : 0 ∈ l := (hl 0).mpr ⟨by rw [hlisted]; exact List.mem_singleton_self 0, s, hs, hlink⟩
  rw [hholds.first, List.head?_eq_none_iff] at hfirst
  rw [hfirst] at hmem
  cases hmem

/-! Waiting data. -/

/-- Segments wait only for a session in the queue. -/
def SessTraffic.Carried (x : SessTraffic) : Prop := ∀ d, x.msg d ≠ [] → x.queued d = true

section Carried

variable {x : SessTraffic} {d : Dir} {segs : List (List UInt8)}

theorem SessTraffic.Carried.setMsg (h : x.Carried) (hq : segs ≠ [] → x.queued d = true) :
    (x.setMsg d segs).Carried := by
  intro d' hmsg
  by_cases he : d' = d
  · subst he
    simp only [SessTraffic.setMsg, Function.update_self] at hmsg
    exact hq hmsg
  · simp only [SessTraffic.setMsg, Function.update_of_ne he] at hmsg
    exact h d' hmsg

theorem SessTraffic.Carried.setMsg_link (h : x.Carried) (ht : x.Tied) :
    ((x.setMsg d segs).link d).Carried := by
  intro d' hmsg
  by_cases he : d' = d
  · subst he
    exact ht.setMsg.link.2
  · simp only [SessTraffic.link, SessTraffic.setMsg, Function.update_of_ne he] at hmsg ⊢
    exact h d' hmsg

theorem SessTraffic.Carried.drop (h : x.Carried) (hempty : x.msg d = []) : (x.drop d).Carried := by
  intro d' hmsg
  by_cases he : d' = d
  · subst he
    exact absurd hempty hmsg
  · simp only [SessTraffic.drop, Function.update_of_ne he]
    exact h d' hmsg

theorem SessTraffic.Carried.step {blockSize : Nat} {p : SessPtr} {y : SessTraffic}
    {hist hist' : SessHistory} (hs : SessStep linkedReads blockSize p x hist y hist')
    (ht : x.Tied) (h : x.Carried) : y.Carried := by
  cases hs with
  | accept payload => exact h.setMsg_link ht
  | send env bufSize _ =>
    refine h.setMsg (fun hleft => h .f2b (fun hnil => hleft ?_))
    rw [hnil]
    rfl
  | read n outcomes hm =>
    unfold SessTraffic.afterRead
    split <;> rename_i hst
    · exact h.setMsg_link ht
    -- the loop broke off: the session is linked, or nothing was queued
    · refine h.setMsg (fun hsegs => ?_)
      rcases hm with hl | hthrough | honce
      · exact ht .b2f hl
      · exact absurd (readSegments_through hthrough) hst
      · rw [readSegments_at_once honce, List.map_nil, List.append_nil] at hsegs
        exact h .b2f hsegs
  | transmit full =>
    refine h.setMsg (fun hleft => h .b2f (fun hnil => hleft ?_))
    rw [hnil]
    rfl
  | drop d hempty => exact h.drop hempty

end Carried

def carriedRule (blockSize : Nat) : SessRule linkedReads blockSize :=
  { Live := fun _ x _ => x.Tied ∧ x.Carried
    Past := fun _ _ => True
    blank := fun _ => trivial
    start := fun _ _ _ _ hb => ⟨SessTraffic.start_tied hb, fun _ hmsg => absurd rfl hmsg⟩
    step := fun _ _ _ _ _ hs h => ⟨h.1.step hs, h.2.step hs h.1⟩
    past := fun _ _ _ _ => trivial }

/-- Along every run that meets the premises, waiting data is in sight of the step that forwards
it. -/
theorem waitingData_queued (devNum : Nat) (config : Nat → HighSpeedNetDevice) (blockSize : Nat)
    (ops : List MainOp) (t : Engine)
    (met : AllSteps mainStep linkedReads.Meets (highSpeedInitPool devNum config blockSize) ops)
    (reached : run mainStep (highSpeedInitPool devNum config blockSize) ops = .ok t) :
    NothingStranded t := by
  obtain ⟨l, hsound, hobeyed⟩ := main_obeys (carriedRule blockSize) met reached
  intro d
  refine ⟨l d, hsound.holds d, ?_⟩
  intro p s hp hs hmsg
  have hq := (hobeyed.live p _ (traffic_sess hp hs)).2 d hmsg
  simpa [BackendSession.traffic] using hq

/-- The socket of the first session has five bytes; `outcomes` is what reading them meets. -/
def fiveBytes (outcomes : List ReadOutcome) : PollEvent :=
  { fd := 5, sess := 0, errorOrHangup := false, input := true, bytesAvailable := some 5, outcomes }

/-- Two reads take all there is. -/
theorem waitingData_queued_twice :
    ∃ t, run mainStep oneDevice
        [.pool (.createActive tcpRequest goodEnv),
          .poll [fiveBytes [.got [1, 2], .got [3, 4, 5]]]] = .ok t ∧
      (t.queue .b2f).first () = some 0 ∧ NothingStranded t := by
  obtain ⟨t, ht, hfirst⟩ := reached_of_view (f := fun t => (t.queue .b2f).first ()) (b := some 0)
    (show (run mainStep oneDevice
        [.pool (.createActive tcpRequest goodEnv),
          .poll [fiveBytes [.got [1, 2], .got [3, 4, 5]]]]).toOption.map _ = _ by decide +kernel)
  refine ⟨t, ht, hfirst, waitingData_queued 1 _ 4096 _ t ?_ ht⟩
  refine ⟨goodEnv_clear, fun _ _ => ⟨?_, fun _ _ => trivial⟩⟩
  intro ev hev s n _ hn
  cases List.mem_singleton.mp hev
  cases hn
  exact Or.inr (Or.inl (by decide +kernel))

/-- When memory runs out after the first read, what was read waits outside the queue. -/
theorem broken_off_read_strands_data :
    ¬ ∀ ops t, run mainStep oneDevice ops = .ok t → NothingStranded t := by
  intro h
  obtain ⟨t, ht, hview⟩ := reached_of_view
    (f := fun t => (t.htable, (t.heap 0).map fun s => s.msg .b2f, (t.queue .b2f).first ()))
    (b := ([0], some [dataMessage 7 1 [1, 2]], none))
    (show (run mainStep oneDevice
        [.pool (.createActive tcpRequest goodEnv),
          .poll [fiveBytes [.got [1, 2], .noMemory]]]).toOption.map _ = _ by decide +kernel)
  simp only [Prod.mk.injEq, Option.map_eq_some_iff] at hview
  obtain ⟨hlisted, ⟨s, hs, hmsg⟩, hfirst⟩ := hview
  obtain ⟨l, hholds, hl⟩ := h _ t ht .b2f
  have hmem : 0 ∈ l :=
    hl 0 s (by rw [hlisted]; exact List.mem_singleton_self 0) hs (by rw [hmsg]; simp)
  rw [hholds.first, List.head?_eq_none_iff] at hfirst
  rw [hfirst] at hmem
  cases hmem

end BackendProxy.Pool
