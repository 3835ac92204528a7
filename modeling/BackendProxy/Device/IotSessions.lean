import BackendProxy.Device.IotTable
import Mathlib.Data.List.Nodup

namespace BackendProxy.Device

open Queue Wire

/-! The sessions that `engine_init_iot_sessions` creates for the devices of the table. -/

/-- `boundDev` is the index of the device in the table; `eng` tells whether the engine is set. -/
structure IoTBackendSession where
  sessType : IotProtoType
  boundDev : Nat
  eng : Bool
  deriving DecidableEq, Repr

/-- For the `i`-th device, whether there is memory for a session, and whether the initialiser of
its protocol succeeds. -/
structure SessionEnv where
  malloc : Nat → Bool
  init : IotProtoType → Nat → Bool

/-- A call of the initialiser of a protocol, for a device and a session object. -/
structure InitCall where
  proto : IotProtoType
  dev : Nat
  sess : Nat
  ok : Bool
  deriving DecidableEq, Repr

/-- The six global pointers, the allocated objects, the calls made and the objects freed. -/
structure IotSessions where
  sess : IotProtoType → Option Nat
  heap : Nat → Option IoTBackendSession
  next : Nat
  calls : List InitCall
  freed : List Nat
  successCount : Nat

/-- All pointers are NULL. -/
def noIotSessions : IotSessions :=
  { sess := fun _ => none, heap := fun _ => none, next := 0, calls := [], freed := []
    successCount := 0 }

/-- What a case of the switch does with the pointer of its protocol. -/
def IotSessions.createSession (env : SessionEnv) (i : Nat) (proto : IotProtoType)
    (st : IotSessions) : IotSessions :=
  if (st.sess proto).isSome then st
  else if !env.malloc i then { st with sess := Function.update st.sess proto none }
  else
    let p := st.next
    let call : InitCall := { proto, dev := i, sess := p, ok := env.init proto i }
    let st :=
      { st with
        sess := Function.update st.sess proto (some p)
        heap := Function.update st.heap p (some { sessType := proto, boundDev := i, eng := false })
        next := p + 1
        calls := st.calls ++ [call] }
    if call.ok then
      { st with
        heap := Function.update st.heap p (some { sessType := proto, boundDev := i, eng := true })
        successCount := st.successCount + 1 }
    else
      { st with
        heap := Function.update st.heap p none
        freed := st.freed ++ [p]
        sess := Function.update st.sess proto none }

/-- The switch over the type of an online device. The Modbus TCP case also clears the object before
it is initialised. -/
def IotSessions.initDevice (env : SessionEnv) (i : Nat) (dev : IotDevice) (st : IotSessions) :
    IotSessions :=
  if dev.devStatus = .online then
    match dev.devType with
    | some .bluetooth => st.createSession env i .bluetooth
    | some .can => st.createSession env i .can
    | some .zigbee => st.createSession env i .zigbee
    | some .lora => st.createSession env i .lora
    | some .powerlink => st.createSession env i .powerlink
    | some .modbustcp => st.createSession env i .modbustcp
    | none => st
  else st

/-- The loop, over the first `n` devices. -/
def initDevices (env : SessionEnv) (set : Nat → IotDevice) : Nat → IotSessions
  | 0 => noIotSessions
  | n + 1 => (initDevices env set n).initDevice env n (set n)

def engineInitIotSessions (engine : Option IotEngine) (env : SessionEnv) :
    ProcessStatus × IotSessions :=
  match engine with
  | none => (.error, noIotSessions)
  | some eng =>
    match eng.iotDevSet with
    | none => (.error, noIotSessions)
    | some set =>
      let st := initDevices env set eng.iotDevNum
      (if st.successCount > 0 ∨ eng.iotDevNum = 0 then .ok else .error, st)

/-- The `i`-th device is online and of the protocol. -/
def Candidate (set : Nat → IotDevice) (proto : IotProtoType) (i : Nat) : Prop :=
  (set i).devStatus = .online ∧ (set i).devType = some proto

/-- A session can be had for the `i`-th device. -/
def Works (env : SessionEnv) (set : Nat → IotDevice) (proto : IotProtoType) (i : Nat) : Prop :=
  Candidate set proto i ∧ env.malloc i = true ∧ env.init proto i = true

/-- The first device of the protocol a session can be had for. -/
def FirstWorking (env : SessionEnv) (set : Nat → IotDevice) (num : Nat) (proto : IotProtoType)
    (i : Nat) : Prop :=
  i < num ∧ Works env set proto i ∧ ∀ j < i, ¬ Works env set proto j

/-- What the function is to leave for a table of `num` devices. -/
structure FirstSessions (env : SessionEnv) (set : Nat → IotDevice) (num : Nat)
    (st : IotSessions) : Prop where
  /-- A pointer is set exactly if an initialisation for its protocol has succeeded. -/
  initialised : ∀ proto, (st.sess proto).isSome ↔
    ∃ call ∈ st.calls, call.proto = proto ∧ call.dev < num ∧ Candidate set proto call.dev ∧
      call.ok = true
  /-- Which is so exactly if it can. -/
  works : ∀ proto, (st.sess proto).isSome ↔ ∃ i, FirstWorking env set num proto i
  first : ∀ proto i, FirstWorking env set num proto i → ∃ p, st.sess proto = some p ∧
    st.heap p = some { sessType := proto, boundDev := i, eng := true }
  once : st.calls.Pairwise fun call later => call.ok = true → later.proto ≠ call.proto
  released : ∀ call ∈ st.calls, st.freed.count call.sess = if call.ok then 0 else 1
  gone : ∀ p ∈ st.freed, st.heap p = none

/-! The invariant of the loop. -/

/-- After `n` devices. Every object allocated was handed to one initialiser. -/
structure Filled (env : SessionEnv) (set : Nat → IotDevice) (n : Nat) (st : IotSessions) :
    Prop where
  sess : ∀ proto p, st.sess proto = some p ↔
    ∃ call ∈ st.calls, call.proto = proto ∧ call.sess = p ∧ call.ok = true
  candidates : ∀ call ∈ st.calls, call.dev < n ∧ Candidate set call.proto call.dev ∧
    env.malloc call.dev = true ∧ call.ok = env.init call.proto call.dev
  first : ∀ call ∈ st.calls, call.ok = true → ∀ j < call.dev, ¬ Works env set call.proto j
  unmet : ∀ proto, st.sess proto = none → ∀ j < n, ¬ Works env set proto j
  heap : ∀ call ∈ st.calls, st.heap call.sess =
    if call.ok then some { sessType := call.proto, boundDev := call.dev, eng := true } else none
  objects : st.calls.map (fun call => call.sess) = List.range st.next
  freed : st.freed = (st.calls.filter fun call => !call.ok).map fun call => call.sess
  once : st.calls.Pairwise fun call later => call.ok = true → later.proto ≠ call.proto
  count : st.successCount = (st.calls.filter fun call => call.ok).length

section Filled

variable {env : SessionEnv} {set : Nat → IotDevice} {n : Nat} {st : IotSessions}

theorem filled_init : Filled env set 0 noIotSessions where
  sess := by simp [noIotSessions]
  candidates := by simp [noIotSessions]
  first := by simp [noIotSessions]
  unmet := by simp
  heap := by simp [noIotSessions]
  objects := rfl
  freed := rfl
  once := .nil
  count := rfl

/-- A device that gives no session and asks for none. -/
theorem Filled.pass (h : Filled env set n st)
    (hpass : ∀ proto, st.sess proto = none → ¬ Works env set proto n) :
    Filled env set (n + 1) st where
  sess := h.sess
  candidates := by
    intro call hcall
    obtain ⟨hlt, hrest⟩ := h.candidates call hcall
    exact ⟨Nat.lt_succ_of_lt hlt, hrest⟩
  first := h.first
  unmet := by
    intro proto hnone j hj
    rcases Nat.lt_succ_iff_lt_or_eq.mp hj with hlt | rfl
    · exact h.unmet proto hnone j hlt
    · exact hpass proto hnone
  heap := h.heap
  objects := h.objects
  freed := h.freed
  once := h.once
  count := h.count

/-- A call of an initialiser and what is made of its result. -/
def IotSessions.record (st : IotSessions) (call : InitCall) : IotSessions :=
  { sess := if call.ok then Function.update st.sess call.proto (some call.sess) else st.sess
    heap := Function.update st.heap call.sess
      (if call.ok then some { sessType := call.proto, boundDev := call.dev, eng := true } else none)
    next := call.sess + 1
    calls := st.calls ++ [call]
    freed := if call.ok then st.freed else st.freed ++ [call.sess]
    successCount := if call.ok then st.successCount + 1 else st.successCount }

theorem createSession_record {i : Nat} {proto : IotProtoType} (hnone : st.sess proto = none)
    (hmem : env.malloc i = true) :
    st.createSession env i proto =
      st.record { proto, dev := i, sess := st.next, ok := env.init proto i } := by
  have hsame : Function.update st.sess proto none = st.sess := by
    rw [← hnone, Function.update_eq_self]
  cases hok : env.init proto i <;>
    simp [IotSessions.createSession, IotSessions.record, hnone, hmem, hok, Function.update_idem,
      hsame]

theorem createSession_nothing {i : Nat} {proto : IotProtoType}
    (h : (st.sess proto).isSome ∨ env.malloc i = false) : st.createSession env i proto = st := by
  unfold IotSessions.createSession
  split
  · rfl
  · rename_i hnone
    have hsame : Function.update st.sess proto none = st.sess := by
      rw [← Option.not_isSome_iff_eq_none.mp hnone, Function.update_eq_self]
    rw [h.resolve_left hnone, hsame]
    rfl

/-- The objects of earlier calls are older ones. -/
theorem Filled.older (h : Filled env set n st) {call : InitCall} (hcall : call ∈ st.calls) :
    call.sess < st.next := by
  have hmem : call.sess ∈ st.calls.map fun call => call.sess := List.mem_map.mpr ⟨call, hcall, rfl⟩
  rw [h.objects] at hmem
  exact List.mem_range.mp hmem

theorem mem_record {call c : InitCall} : c ∈ (st.record call).calls ↔ c ∈ st.calls ∨ c = call := by
  simp [IotSessions.record]

/-- A pointer is NULL behind a call if it was before, and the call has not set it. -/
theorem record_unset {call : InitCall} {proto : IotProtoType}
    (hunset : (st.record call).sess proto = none) :
    st.sess proto = none ∧ (call.ok = true → proto ≠ call.proto) := by
  cases hok : call.ok with
  | false => exact ⟨by simpa [IotSessions.record, hok] using hunset, by simp⟩
  | true =>
    simp only [IotSessions.record, hok, if_true] at hunset
    by_cases hproto : proto = call.proto
    · rw [hproto, Function.update_self] at hunset
      cases hunset
    · rw [Function.update_of_ne hproto] at hunset
      exact ⟨hunset, fun _ => hproto⟩

theorem record_sess {call : InitCall} (hnone : st.sess call.proto = none) (proto : IotProtoType)
    (p : Nat) : (st.record call).sess proto = some p ↔
      st.sess proto = some p ∨ (call.proto = proto ∧ call.sess = p ∧ call.ok = true) := by
  cases hok : call.ok with
  | false => simp [IotSessions.record, hok]
  | true =>
    simp only [IotSessions.record, hok, if_true]
    by_cases hproto : proto = call.proto
    · subst hproto
      simp [hnone]
    · rw [Function.update_of_ne hproto]
      simp [Ne.symm hproto]

theorem Filled.record (h : Filled env set n st) {call : InitCall}
    (hnone : st.sess call.proto = none) (hdev : call.dev = n) (hsess : call.sess = st.next)
    (hcand : Candidate set call.proto n) (hmem : env.malloc n = true)
    (hok : call.ok = env.init call.proto n) : Filled env set (n + 1) (st.record call) := by
  have hnever : ∀ c ∈ st.calls, c.ok = true → c.proto ≠ call.proto := by
    intro c hc hcok hproto
    have hset := (h.sess call.proto c.sess).mpr ⟨c, hc, hproto, rfl, hcok⟩
    rw [hnone] at hset
    cases hset
  constructor
  case sess =>
    intro proto p
    rw [record_sess hnone, h.sess proto p]
    constructor
    · rintro (⟨c, hc, hrest⟩ | hrest)
      · exact ⟨c, mem_record.mpr (.inl hc), hrest⟩
      · exact ⟨call, mem_record.mpr (.inr rfl), hrest⟩
    · rintro ⟨c, hc, hrest⟩
      rcases mem_record.mp hc with hc | rfl
      · exact .inl ⟨c, hc, hrest⟩
      · exact .inr hrest
  case candidates =>
    intro c hc
    rcases mem_record.mp hc with hc | rfl
    · obtain ⟨hlt, hrest⟩ := h.candidates c hc
      exact ⟨Nat.lt_succ_of_lt hlt, hrest⟩
    · rw [hdev]
      exact ⟨Nat.lt_succ_self n, hcand, hmem, hok⟩
  case first =>
    intro c hc hcok
    rcases mem_record.mp hc with hc | rfl
    · exact h.first c hc hcok
    · rw [hdev]
      exact h.unmet _ hnone
  case unmet =>
    intro proto hunset j hj
    obtain ⟨hunset, hfailed⟩ := record_unset hunset
    rcases Nat.lt_succ_iff_lt_or_eq.mp hj with hlt | rfl
    · exact h.unmet proto hunset j hlt
    · intro hworks
      have hproto : proto = call.proto :=
        Option.some.inj (hworks.1.2.symm.trans hcand.2)
      subst hproto
      exact hfailed (hok.trans hworks.2.2) rfl
  case heap =>
    intro c hc
    simp only [IotSessions.record]
    rcases mem_record.mp hc with hc | rfl
    · have hne : c.sess ≠ call.sess := by
        rw [hsess]
        exact Nat.ne_of_lt (h.older hc)
      rw [Function.update_of_ne hne]
      exact h.heap c hc
    · rw [Function.update_self]
  case objects =>
    simp only [IotSessions.record, List.map_append, List.map_cons, List.map_nil, h.objects, hsess,
      List.range_succ]
  case freed =>
    cases hcok : call.ok <;> simp [IotSessions.record, hcok, h.freed]
  case once =>
    simp only [IotSessions.record, List.pairwise_append, List.mem_singleton]
    refine ⟨h.once, List.pairwise_singleton _ _, ?_⟩
    rintro c hc _ rfl hcok hproto
    exact hnever c hc hcok hproto.symm
  case count =>
    cases hcok : call.ok <;> simp [IotSessions.record, hcok, h.count]

/-- One case of the switch, for a device of its protocol. -/
theorem Filled.createSession (h : Filled env set n st) {proto : IotProtoType}
    (hcand : Candidate set proto n) : Filled env set (n + 1) (st.createSession env n proto) := by
  have hsame : ∀ proto', Works env set proto' n → proto' = proto := fun proto' hworks =>
    Option.some.inj (hworks.1.2.symm.trans hcand.2)
  cases hset : st.sess proto with
  | some p =>
    rw [createSession_nothing (.inl (by rw [hset]; rfl))]
    refine h.pass fun proto' hnone hworks => ?_
    rw [hsame proto' hworks, hset] at hnone
    cases hnone
  | none =>
    cases hmem : env.malloc n with
    | false =>
      rw [createSession_nothing (.inr hmem)]
      refine h.pass fun proto' _ hworks => ?_
      have hmem' := hworks.2.1
      rw [hmem] at hmem'
      cases hmem'
    | true =>
      rw [createSession_record hset hmem]
      exact h.record hset rfl rfl hcand hmem rfl

theorem initDevice_eq (env : SessionEnv) (i : Nat) (dev : IotDevice) (st : IotSessions) :
    st.initDevice env i dev =
      if dev.devStatus = .online then dev.devType.elim st (st.createSession env i) else st := by
  unfold IotSessions.initDevice
  split
  · split <;> simp [*]
  · rfl

theorem Filled.step (h : Filled env set n st) :
    Filled env set (n + 1) (st.initDevice env n (set n)) := by
  rw [initDevice_eq]
  by_cases honline : (set n).devStatus = .online
  · rw [if_pos honline]
    cases htype : (set n).devType with
    | none =>
      refine h.pass fun proto _ hworks => ?_
      have htype' := hworks.1.2
      rw [htype] at htype'
      cases htype'
    | some proto => exact h.createSession ⟨honline, htype⟩
  · rw [if_neg honline]
    exact h.pass fun proto _ hworks => honline hworks.1.1

theorem initDevices_filled (env : SessionEnv) (set : Nat → IotDevice) (n : Nat) :
    Filled env set n (initDevices env set n) := by
  induction n with
  | zero => exact filled_init
  | succ n ih => exact ih.step

/-! What the invariant says at the end. -/

theorem Filled.isSome_iff (h : Filled env set n st) (proto : IotProtoType) :
    (st.sess proto).isSome ↔ ∃ call ∈ st.calls, call.proto = proto ∧ call.ok = true := by
  rw [Option.isSome_iff_exists]
  constructor
  · rintro ⟨p, hp⟩
    obtain ⟨call, hcall, hproto, -, hok⟩ := (h.sess proto p).mp hp
    exact ⟨call, hcall, hproto, hok⟩
  · rintro ⟨call, hcall, hproto, hok⟩
    exact ⟨call.sess, (h.sess proto _).mpr ⟨call, hcall, hproto, rfl, hok⟩⟩

/-- A call that succeeded was for the first device that works. -/
theorem Filled.firstWorking (h : Filled env set n st) {call : InitCall} (hcall : call ∈ st.calls)
    (hok : call.ok = true) : FirstWorking env set n call.proto call.dev := by
  obtain ⟨hlt, hcand, hmem, hinit⟩ := h.candidates call hcall
  exact ⟨hlt, ⟨hcand, hmem, hinit.symm.trans hok⟩, h.first call hcall hok⟩

theorem FirstWorking.unique {proto : IotProtoType} {i j : Nat}
    (hi : FirstWorking env set n proto i) (hj : FirstWorking env set n proto j) : i = j := by
  rcases Nat.lt_trichotomy i j with hlt | heq | hgt
  · exact absurd hi.2.1 (hj.2.2 i hlt)
  · exact heq
  · exact absurd hj.2.1 (hi.2.2 j hgt)

/-- Objects are freed one by one. -/
theorem Filled.count_freed (h : Filled env set n st) {call : InitCall} (hcall : call ∈ st.calls) :
    st.freed.count call.sess = if call.ok then 0 else 1 := by
  have hnodup : (st.calls.map fun call => call.sess).Nodup := by
    rw [h.objects]
    exact List.nodup_range
  have hunique : ∀ c ∈ st.calls, c.sess = call.sess → c = call := fun c hc heq =>
    List.inj_on_of_nodup_map hnodup hc hcall heq
  rw [h.freed]
  cases hok : call.ok with
  | true =>
    refine List.count_eq_zero.mpr fun hmem => ?_
    obtain ⟨c, hc, heq⟩ := List.mem_map.mp hmem
    obtain ⟨hc, hfailed⟩ := List.mem_filter.mp hc
    rw [hunique c hc heq, hok] at hfailed
    cases hfailed
  | false =>
    have hfreed : call.sess ∈ (st.calls.filter fun call => !call.ok).map fun call => call.sess :=
      List.mem_map.mpr ⟨call, List.mem_filter.mpr ⟨hcall, by rw [hok]; rfl⟩, rfl⟩
    exact List.count_eq_one_of_mem (hnodup.sublist (List.filter_sublist.map _)) hfreed

theorem Filled.firstSessions (h : Filled env set n st) : FirstSessions env set n st := by
  have hcalled : ∀ proto i, FirstWorking env set n proto i →
      ∃ call ∈ st.calls, call.proto = proto ∧ call.ok = true := by
    intro proto i hi
    rw [← h.isSome_iff proto, ← Option.ne_none_iff_isSome]
    exact fun hnone => h.unmet proto hnone i hi.1 hi.2.1
  constructor
  case initialised =>
    intro proto
    rw [h.isSome_iff]
    constructor
    · rintro ⟨call, hcall, rfl, hok⟩
      obtain ⟨hlt, hcand, -⟩ := h.candidates call hcall
      exact ⟨call, hcall, rfl, hlt, hcand, hok⟩
    · rintro ⟨call, hcall, hproto, -, -, hok⟩
      exact ⟨call, hcall, hproto, hok⟩
  case works =>
    intro proto
    constructor
    · intro hsome
      obtain ⟨call, hcall, rfl, hok⟩ := (h.isSome_iff proto).mp hsome
      exact ⟨call.dev, h.firstWorking hcall hok⟩
    · rintro ⟨i, hi⟩
      exact (h.isSome_iff proto).mpr (hcalled proto i hi)
  case first =>
    intro proto i hi
    obtain ⟨call, hcall, rfl, hok⟩ := hcalled proto i hi
    refine ⟨call.sess, (h.sess _ _).mpr ⟨call, hcall, rfl, rfl, hok⟩, ?_⟩
    rw [h.heap call hcall, if_pos hok, hi.unique (h.firstWorking hcall hok)]
  case once => exact h.once
  case released => exact fun call hcall => h.count_freed hcall
  case gone =>
    intro p hp
    rw [h.freed] at hp
    obtain ⟨call, hcall, rfl⟩ := List.mem_map.mp hp
    obtain ⟨hcall, hfailed⟩ := List.mem_filter.mp hcall
    have hok : call.ok ≠ true := by simpa using hfailed
    rw [h.heap call hcall, if_neg hok]

theorem Filled.count_pos_iff (h : Filled env set n st) :
    st.successCount > 0 ↔ ∃ proto, (st.sess proto).isSome := by
  rw [h.count, gt_iff_lt, List.length_pos_iff_exists_mem]
  constructor
  · rintro ⟨call, hcall⟩
    obtain ⟨hcall, hok⟩ := List.mem_filter.mp hcall
    exact ⟨call.proto, (h.isSome_iff _).mpr ⟨call, hcall, rfl, hok⟩⟩
  · rintro ⟨proto, hsome⟩
    obtain ⟨call, hcall, -, hok⟩ := (h.isSome_iff proto).mp hsome
    exact ⟨call, List.mem_filter.mpr ⟨hcall, hok⟩⟩

end Filled

/-- For every table each protocol gets the session of its first device that works, objects that
fail are freed once, and the status tells whether there is a session or nothing to do. -/
theorem iotSessions_first (set : Nat → IotDevice) (num : Nat) (env : SessionEnv) :
    FirstSessions env set num
        (engineInitIotSessions (some { iotDevSet := some set, iotDevNum := num }) env).2 ∧
      ((engineInitIotSessions (some { iotDevSet := some set, iotDevNum := num }) env).1 = .ok ↔
        (∃ proto, ((engineInitIotSessions (some { iotDevSet := some set, iotDevNum := num })
          env).2.sess proto).isSome) ∨ num = 0) := by
  have hfilled := initDevices_filled env set num
  refine ⟨hfilled.firstSessions, ?_⟩
  simp only [engineInitIotSessions]
  rw [← hfilled.count_pos_iff]
  split <;> simp [*]

end BackendProxy.Device
