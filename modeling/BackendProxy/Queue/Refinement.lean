import BackendProxy.Queue.Fifo

namespace BackendProxy.Queue

open Lib

/-- One queue with a data region of its own. -/
structure QueueState where
  queue : HyperampShmQueue
  region : DataRegion

inductive QueueOp where
  | enqueue (data : List UInt8)
  | dequeue (maxLen : Nat)
  | peek (maxLen : Nat)
  | allocSlot (fill : List UInt8)
  | releaseSlot
  deriving DecidableEq, Repr

/-- What the caller sees: the return code, and the bytes `dequeue` or `peek` delivered. -/
structure Answer where
  status : HyperampStatus
  data : List UInt8
  deriving DecidableEq, Repr

def QueueState.step (s : QueueState) : QueueOp → QueueState × Answer
  | .enqueue data =>
    let (status, queue, region) := hyperampQueueEnqueue s.queue s.region data
    ({ queue, region }, { status, data := [] })
  | .dequeue maxLen =>
    let (status, queue, data) := hyperampQueueDequeue s.queue s.region maxLen
    ({ s with queue }, { status, data })
  | .peek maxLen =>
    let (status, data) := hyperampQueuePeek s.queue s.region maxLen
    (s, { status, data })
  | .allocSlot fill =>
    match hyperampQueueAllocSlot s.queue with
    -- the caller fills the slot it was given, and nothing beyond it
    | (.ok, queue, slot) =>
      ({ queue, region := store s.region slot (fill.take queue.blockSize.toNat) },
        { status := .ok, data := [] })
    | (status, queue, _) => ({ s with queue }, { status, data := [] })
  | .releaseSlot =>
    let (status, queue) := hyperampQueueReleaseSlot s.queue
    ({ s with queue }, { status, data := [] })

/-- The queue as its users think of it: a list of messages with a bound, and two totals. -/
structure Fifo where
  msgs : List (List UInt8)
  pushed : Nat
  popped : Nat
  deriving DecidableEq, Repr

namespace Fifo

def empty : Fifo := { msgs := [], pushed := 0, popped := 0 }

def push (bound : Nat) (f : Fifo) (x : List UInt8) : Fifo × Option (List UInt8) :=
  if f.msgs.length < bound then
    ({ f with msgs := f.msgs ++ [x], pushed := f.pushed + 1 }, some [])
  else (f, none)

def pop (f : Fifo) : Fifo × Option (List UInt8) :=
  match f.msgs with
  | [] => (f, none)
  | x :: rest => ({ f with msgs := rest, popped := f.popped + 1 }, some x)

/-- The specification of one operation; `none` is a refusal. -/
def step (bound blockSize : Nat) (f : Fifo) : QueueOp → Fifo × Option (List UInt8)
  | .enqueue data =>
    if data.length = 0 ∨ blockSize < data.length then (f, none) else f.push bound data
  | .dequeue maxLen => if maxLen = 0 then (f, none) else f.pop
  | .peek maxLen => if maxLen = 0 then (f, none) else (f, f.pop.2)
  | .allocSlot fill => f.push bound (fill.take blockSize)
  | .releaseSlot => f.pop

/-- The totals account for every message that is still queued. -/
theorem step_balance {bound blockSize : Nat} {f : Fifo} (op : QueueOp)
    (h : f.pushed = f.popped + f.msgs.length) :
    (f.step bound blockSize op).1.pushed =
      (f.step bound blockSize op).1.popped + (f.step bound blockSize op).1.msgs.length := by
  have hpush : ∀ x, (f.push bound x).1.pushed =
      (f.push bound x).1.popped + (f.push bound x).1.msgs.length := by
    intro x
    unfold push
    split
    · simp; omega
    · exact h
  have hpop : f.pop.1.pushed = f.pop.1.popped + f.pop.1.msgs.length := by
    unfold pop
    split
    · exact h
    · rename_i x rest e
      rw [e] at h
      simp at h ⊢
      omega
  cases op with
  | enqueue data =>
    simp only [step]
    split
    · exact h
    · exact hpush data
  | dequeue n =>
    simp only [step]
    split
    · exact h
    · exact hpop
  | peek n =>
    simp only [step]
    split <;> exact h
  | allocSlot fill => exact hpush _
  | releaseSlot => exact hpop

end Fifo

/-- The control block and the region hold the messages of the abstract queue. -/
structure Represents (c b : Nat) (s : QueueState) (f : Fifo) : Prop where
  capacity : s.queue.capacity.toNat = c
  blockSize : s.queue.blockSize.toNat = b
  waiting : Waiting s.queue s.region f.msgs
  enqueued : s.queue.enqueueCount.toNat = f.pushed % 2 ^ 32
  dequeued : s.queue.dequeueCount.toNat = f.popped % 2 ^ 32

/-- How an answer relates to the outcome of the specification. -/
def Answer.Matches (a : Answer) (out : Option (List UInt8)) : QueueOp → Prop
  | .dequeue n | .peek n =>
    (a.status = .ok ↔ out.isSome) ∧ ∀ x ∈ out, a.data.take (min n x.length) = x.take n
  | _ => a.status = .ok ↔ out.isSome

theorem counter_succ {n : UInt32} {k : Nat} (h : n.toNat = k % 2 ^ 32) :
    (n + 1).toNat = (k + 1) % 2 ^ 32 := by
  rw [UInt32.toNat_add, UInt32.toNat_one, h]
  omega

section Simulation

variable {c b : Nat} {s : QueueState} {f : Fifo}

theorem sim_enqueue (h : Represents c b s f) (data : List UInt8) :
    Represents c b (s.step (.enqueue data)).1 (f.step (c - 1) b (.enqueue data)).1 ∧
      (s.step (.enqueue data)).2.Matches (f.step (c - 1) b (.enqueue data)).2 (.enqueue data) := by
  obtain ⟨hc, hb, hw, he, hd⟩ := h
  by_cases hlen : data.length = 0 ∨ b < data.length
  · obtain ⟨st, hst, heq⟩ := enqueue_refused hw (d := data) (by rw [hb]; omega)
    simp only [QueueState.step, heq, Fifo.step, hlen, if_true, Answer.Matches]
    exact ⟨⟨hc, hb, hw, he, hd⟩, by simp [hst]⟩
  · by_cases hfull : f.msgs.length < c - 1
    · obtain ⟨heq, hw'⟩ := enqueue_accepted hw (d := data) (by omega) (by omega) (by omega)
      simp only [QueueState.step, heq, Fifo.step, hlen, if_false, Fifo.push, hfull, if_true,
        Answer.Matches]
      exact ⟨⟨hc, hb, hw', counter_succ he, hd⟩, by simp⟩
    · have hl := Ring.Holds.length_le hw
      obtain ⟨st, hst, heq⟩ := enqueue_refused hw (d := data) (by omega)
      simp only [QueueState.step, heq, Fifo.step, hlen, if_false, Fifo.push, hfull,
        Answer.Matches]
      exact ⟨⟨hc, hb, hw, he, hd⟩, by simp [hst]⟩

theorem sim_dequeue (h : Represents c b s f) (n : Nat) :
    Represents c b (s.step (.dequeue n)).1 (f.step (c - 1) b (.dequeue n)).1 ∧
      (s.step (.dequeue n)).2.Matches (f.step (c - 1) b (.dequeue n)).2 (.dequeue n) := by
  obtain ⟨hc, hb, hw, he, hd⟩ := h
  by_cases hn : n = 0
  · subst hn
    obtain ⟨st, hst, heq⟩ := dequeue_refused hw (n := 0) (Or.inl rfl)
    simp only [QueueState.step, heq, Fifo.step, if_true, Answer.Matches]
    exact ⟨⟨hc, hb, hw, he, hd⟩, by simp [hst]⟩
  · cases hm : f.msgs with
    | nil =>
      obtain ⟨st, hst, heq⟩ := dequeue_refused hw (n := n) (Or.inr hm)
      simp only [QueueState.step, heq, Fifo.step, hn, if_false, Fifo.pop, hm, Answer.Matches]
      exact ⟨⟨hc, hb, hw, he, hd⟩, by simp [hst]⟩
    | cons x rest =>
      rw [hm] at hw
      obtain ⟨heq, hw'⟩ := dequeue_accepted hw hn
      simp only [QueueState.step, heq, Fifo.step, hn, if_false, Fifo.pop, hm, Answer.Matches]
      refine ⟨⟨hc, hb, hw', he, counter_succ hd⟩, by simp, ?_⟩
      intro y hy
      cases hy
      exact hw.delivered n

theorem sim_peek (h : Represents c b s f) (n : Nat) :
    Represents c b (s.step (.peek n)).1 (f.step (c - 1) b (.peek n)).1 ∧
      (s.step (.peek n)).2.Matches (f.step (c - 1) b (.peek n)).2 (.peek n) := by
  have hw := h.waiting
  by_cases hn : n = 0
  · subst hn
    simp only [QueueState.step, peek_refused hw (Or.inl rfl), Fifo.step, if_true, Answer.Matches]
    exact ⟨h, by simp⟩
  · cases hm : f.msgs with
    | nil =>
      simp only [QueueState.step, peek_refused hw (Or.inr hm), Fifo.step, hn, if_false, Fifo.pop,
        hm, Answer.Matches]
      exact ⟨h, by simp⟩
    | cons x rest =>
      rw [hm] at hw
      simp only [QueueState.step, peek_accepted hw hn, Fifo.step, hn, if_false, Fifo.pop, hm,
        Answer.Matches]
      refine ⟨h, by simp, ?_⟩
      intro y hy
      cases hy
      exact hw.delivered n

theorem sim_allocSlot (h : Represents c b s f) (fill : List UInt8) :
    Represents c b (s.step (.allocSlot fill)).1 (f.step (c - 1) b (.allocSlot fill)).1 ∧
      (s.step (.allocSlot fill)).2.Matches (f.step (c - 1) b (.allocSlot fill)).2
        (.allocSlot fill) := by
  obtain ⟨hc, hb, hw, he, hd⟩ := h
  by_cases hfull : f.msgs.length < c - 1
  · obtain ⟨heq, hw'⟩ := allocSlot_accepted hw (by omega)
    simp only [QueueState.step, heq, Fifo.step, Fifo.push, hfull, if_true, Answer.Matches]
    refine ⟨⟨hc, hb, ?_, counter_succ he, hd⟩, by simp⟩
    rw [hb]
    exact hw' _ (by rw [List.length_take]; omega)
  · have hl := Ring.Holds.length_le hw
    have heq := allocSlot_refused hw (by omega)
    simp only [QueueState.step, heq, Fifo.step, Fifo.push, hfull, if_false, Answer.Matches]
    exact ⟨⟨hc, hb, hw, he, hd⟩, by simp⟩

theorem sim_releaseSlot (h : Represents c b s f) :
    Represents c b (s.step .releaseSlot).1 (f.step (c - 1) b .releaseSlot).1 ∧
      (s.step .releaseSlot).2.Matches (f.step (c - 1) b .releaseSlot).2 .releaseSlot := by
  obtain ⟨hc, hb, hw, he, hd⟩ := h
  cases hm : f.msgs with
  | nil =>
    rw [hm] at hw
    simp only [QueueState.step, releaseSlot_refused hw, Fifo.step, Fifo.pop, hm, Answer.Matches]
    exact ⟨⟨hc, hb, hm ▸ hw, he, hd⟩, by simp⟩
  | cons x rest =>
    rw [hm] at hw
    obtain ⟨heq, hw'⟩ := releaseSlot_accepted hw
    simp only [QueueState.step, heq, Fifo.step, Fifo.pop, hm, Answer.Matches]
    exact ⟨⟨hc, hb, hw', he, counter_succ hd⟩, by simp⟩

/-- Every operation keeps the representation and answers as the specification does. -/
theorem sim_step (h : Represents c b s f) (op : QueueOp) :
    Represents c b (s.step op).1 (f.step (c - 1) b op).1 ∧
      (s.step op).2.Matches (f.step (c - 1) b op).2 op := by
  cases op with
  | enqueue data => exact sim_enqueue h data
  | dequeue n => exact sim_dequeue h n
  | peek n => exact sim_peek h n
  | allocSlot fill => exact sim_allocSlot h fill
  | releaseSlot => exact sim_releaseSlot h

end Simulation

/-! What the control block tells about the queue in every state. -/

structure Reports (c : Nat) (s : QueueState) (f : Fifo) : Prop where
  header_lt : s.queue.header.toNat < c
  tail_lt : s.queue.tail.toNat < c
  bounded : f.msgs.length ≤ c - 1
  isEmpty_iff : isEmpty s.queue = true ↔ f.msgs.length = 0
  isFull_iff : isFull s.queue = true ↔ f.msgs.length = c - 1
  length_eq : length s.queue = f.msgs.length
  enqueueCount_eq : s.queue.enqueueCount.toNat = f.pushed % 2 ^ 32
  dequeueCount_eq : s.queue.dequeueCount.toNat = f.popped % 2 ^ 32
  counters_eq : (s.queue.enqueueCount - s.queue.dequeueCount).toNat = f.msgs.length

theorem Represents.reports {c b : Nat} {s : QueueState} {f : Fifo} (h : Represents c b s f)
    (balance : f.pushed = f.popped + f.msgs.length) : Reports c s f := by
  obtain ⟨hc, hb, hw, he, hd⟩ := h
  have hh := hw.write_lt
  have ht := hw.read_lt
  have hl := Ring.Holds.length_le hw
  have hcap := UInt16.toNat_lt s.queue.capacity
  refine ⟨by omega, by omega, by omega, ?_, ?_, ?_, he, hd, ?_⟩
  · rw [List.length_eq_zero_iff, ← hw.empty_iff]
    simp [isEmpty]
  · rw [← hc, ← Ring.Holds.full_iff hw]
    simp [isFull, Ring.next]
  · have hlen := hw.length
    unfold Ring.len at hlen
    simp only [length, ge_iff_le, UInt16.le_iff_toNat_le]
    split at hlen <;> rename_i hle
    · rw [if_pos hle]
      omega
    · rw [if_neg hle]
      omega
  · rw [UInt32.toNat_sub, he, hd]
    omega

/-- One operation from a state that holds `msgs`, as the bounded FIFO would perform it. -/
def MeetsFifo (bound blockSize : Nat) (msgs msgs' : List (List UInt8)) (s s' : QueueState)
    (a : Answer) (op : QueueOp) : Prop :=
  (match op with
    | .enqueue data =>
      (1 ≤ data.length → data.length ≤ blockSize → (a.status = .ok ↔ msgs.length < bound)) ∧
        (a.status = .ok → msgs' = msgs ++ [data])
    | .allocSlot fill =>
      (a.status = .ok ↔ msgs.length < bound) ∧
        (a.status = .ok → msgs' = msgs ++ [fill.take blockSize])
    | .dequeue maxLen =>
      (1 ≤ maxLen → (a.status = .ok ↔ msgs ≠ [])) ∧
        (a.status = .ok → ∃ x, msgs = x :: msgs' ∧
          a.data.take (min maxLen x.length) = x.take (min maxLen x.length))
    | .peek maxLen =>
      (1 ≤ maxLen → (a.status = .ok ↔ msgs ≠ [])) ∧
        (a.status = .ok → msgs' = msgs ∧ ∃ x, msgs.head? = some x ∧
          a.data.take (min maxLen x.length) = x.take (min maxLen x.length))
    | .releaseSlot =>
      (a.status = .ok ↔ msgs ≠ []) ∧ (a.status = .ok → msgs' = msgs.tail)) ∧
  (a.status ≠ .ok → s' = s ∧ msgs' = msgs)

theorem enqueue_unchanged (q : HyperampShmQueue) (region : DataRegion) (data : List UInt8) :
    (hyperampQueueEnqueue q region data).1 = .ok ∨
      (hyperampQueueEnqueue q region data).2 = (q, region) := by
  simp only [hyperampQueueEnqueue]
  split
  · exact Or.inr rfl
  · split
    · exact Or.inr rfl
    · split
      · exact Or.inr rfl
      · exact Or.inl rfl

theorem dequeue_unchanged (q : HyperampShmQueue) (region : DataRegion) (n : Nat) :
    (hyperampQueueDequeue q region n).1 = .ok ∨ (hyperampQueueDequeue q region n).2.1 = q := by
  simp only [hyperampQueueDequeue]
  split
  · exact Or.inr rfl
  · split
    · exact Or.inr rfl
    · exact Or.inl rfl

theorem refused_unchanged (s : QueueState) (op : QueueOp) (h : (s.step op).2.status ≠ .ok) :
    (s.step op).1 = s := by
  cases op with
  | enqueue data =>
    rcases enqueue_unchanged s.queue s.region data with hok | hsame
    · exact absurd hok h
    · simp [QueueState.step, hsame]
  | dequeue n =>
    rcases dequeue_unchanged s.queue s.region n with hok | hsame
    · exact absurd hok h
    · simp [QueueState.step, hsame]
  | peek n => rfl
  | allocSlot fill =>
    by_cases hf : nextByModulo s.queue s.queue.header = s.queue.tail
    · simp [QueueState.step, hyperampQueueAllocSlot, hf]
    · simp [QueueState.step, hyperampQueueAllocSlot, hf] at h
  | releaseSlot =>
    by_cases he : s.queue.tail = s.queue.header
    · simp [QueueState.step, hyperampQueueReleaseSlot, he]
    · simp [QueueState.step, hyperampQueueReleaseSlot, he] at h

section Meets

variable {bound b : Nat} {f : Fifo} {s s' : QueueState} {a : Answer}

theorem Fifo.push_snd (x : List UInt8) :
    (f.push bound x).2.isSome ↔ f.msgs.length < bound := by
  unfold Fifo.push
  split <;> simp [*]

theorem Fifo.push_msgs {x : List UInt8} (h : (f.push bound x).2.isSome) :
    (f.push bound x).1.msgs = f.msgs ++ [x] := by
  have hl := (Fifo.push_snd x).mp h
  simp [Fifo.push, hl]

theorem Fifo.pop_snd : f.pop.2.isSome ↔ f.msgs ≠ [] := by
  unfold Fifo.pop
  split <;> simp [*]

theorem Fifo.pop_some {x : List UInt8} (h : f.pop.2 = some x) : f.msgs = x :: f.pop.1.msgs := by
  unfold Fifo.pop at h ⊢
  split at h <;> simp_all

theorem Fifo.step_refused (op : QueueOp) (h : ¬ (f.step bound b op).2.isSome) :
    (f.step bound b op).1 = f := by
  have hpush : ∀ x, ¬ (f.push bound x).2.isSome → (f.push bound x).1 = f := by
    intro x hx
    rw [Fifo.push_snd] at hx
    simp [Fifo.push, hx]
  have hpop : ¬ f.pop.2.isSome → f.pop.1 = f := by
    intro hx
    rw [Fifo.pop_snd] at hx
    simp only [ne_eq, not_not] at hx
    simp [Fifo.pop, hx]
  cases op with
  | enqueue data =>
    by_cases hl : data.length = 0 ∨ b < data.length
    · simp only [Fifo.step, hl, if_true]
    · simp only [Fifo.step, hl, if_false] at h ⊢
      exact hpush data h
  | dequeue n =>
    by_cases hn : n = 0
    · simp only [Fifo.step, hn, if_true]
    · simp only [Fifo.step, hn, if_false] at h ⊢
      exact hpop h
  | peek n =>
    simp only [Fifo.step]
    split <;> rfl
  | allocSlot fill => exact hpush _ h
  | releaseSlot => exact hpop h

/-- An answer that matches the specification's outcome is what a bounded FIFO answers. -/
theorem meets_of_matches {op : QueueOp} (hm : a.Matches (f.step bound b op).2 op)
    (hs : a.status ≠ .ok → s' = s) :
    MeetsFifo bound b f.msgs (f.step bound b op).1.msgs s s' a op := by
  have hok : a.status = .ok ↔ (f.step bound b op).2.isSome := by
    cases op with
    | dequeue n => exact hm.1
    | peek n => exact hm.1
    | enqueue data => exact hm
    | allocSlot fill => exact hm
    | releaseSlot => exact hm
  refine ⟨?_, ?_⟩
  · cases op with
    | enqueue data =>
      by_cases hl : data.length = 0 ∨ b < data.length
      · simp only [Fifo.step, hl, if_true, Option.isSome_none] at hok ⊢
        exact ⟨by omega, by simp [hok]⟩
      · simp only [Fifo.step, hl, if_false] at hok ⊢
        exact ⟨fun _ _ => hok.trans (Fifo.push_snd data), fun h => Fifo.push_msgs (hok.mp h)⟩
    | allocSlot fill =>
      exact ⟨hok.trans (Fifo.push_snd _), fun h => Fifo.push_msgs (hok.mp h)⟩
    | releaseSlot =>
      refine ⟨hok.trans Fifo.pop_snd, fun h => ?_⟩
      obtain ⟨x, hx⟩ := Option.isSome_iff_exists.mp (hok.mp h)
      rw [Fifo.pop_some hx]
      rfl
    | dequeue n =>
      by_cases hn : n = 0
      · simp only [Fifo.step, hn, if_true, Option.isSome_none] at hok ⊢
        exact ⟨by omega, by simp [hok]⟩
      · obtain ⟨-, hdata⟩ := hm
        simp only [Fifo.step, hn, if_false] at hok hdata ⊢
        refine ⟨fun _ => hok.trans Fifo.pop_snd, fun h => ?_⟩
        obtain ⟨x, hx⟩ := Option.isSome_iff_exists.mp (hok.mp h)
        refine ⟨x, Fifo.pop_some hx, ?_⟩
        rw [hdata x hx]
        exact List.take_eq_take_min
    | peek n =>
      by_cases hn : n = 0
      · simp only [Fifo.step, hn, if_true, Option.isSome_none] at hok ⊢
        exact ⟨by omega, by simp [hok]⟩
      · obtain ⟨-, hdata⟩ := hm
        simp only [Fifo.step, hn, if_false] at hok hdata ⊢
        refine ⟨fun _ => hok.trans Fifo.pop_snd, fun h => ⟨trivial, ?_⟩⟩
        obtain ⟨x, hx⟩ := Option.isSome_iff_exists.mp (hok.mp h)
        refine ⟨x, by rw [Fifo.pop_some hx]; rfl, ?_⟩
        rw [hdata x hx]
        exact List.take_eq_take_min
  · intro h
    refine ⟨hs h, ?_⟩
    rw [Fifo.step_refused op (fun hsome => h (hok.mpr hsome))]

end Meets

/-- A queue the creator has just initialised, over a region with any contents. -/
def created (old : HyperampShmQueue) (config : HyperampQueueConfig) (region : DataRegion) :
    QueueState :=
  { queue := (hyperampQueueInit old config true).2, region }

theorem created_represents (old : HyperampShmQueue) {config : HyperampQueueConfig}
    (region : DataRegion) (hc : 1 ≤ config.capacity.toNat) (hb : 1 ≤ config.blockSize.toNat) :
    Represents config.capacity.toNat config.blockSize.toNat (created old config region)
      Fifo.empty := by
  have hc0 : config.capacity ≠ 0 := by
    intro e
    simp [e] at hc
  have hb0 : config.blockSize ≠ 0 := by
    intro e
    simp [e] at hb
  obtain ⟨q, hq, hcap, hbs, he, hd, hw⟩ := created_waiting old config region hc0 hb0
  have hcr : created old config region = { queue := q, region } := by
    simp [created, hq]
  rw [hcr]
  exact ⟨by rw [hcap], by rw [hbs], hw, by simp [he, Fifo.empty], by simp [hd, Fifo.empty]⟩

/-- Every run from the creator's initialisation is a run of the bounded FIFO. -/
theorem run_represents (old : HyperampShmQueue) {config : HyperampQueueConfig}
    (region : DataRegion) (hc : 1 ≤ config.capacity.toNat) (hb : 1 ≤ config.blockSize.toNat)
    (ops : List QueueOp) :
    Represents config.capacity.toNat config.blockSize.toNat
      (after QueueState.step (created old config region) ops)
      (after (Fifo.step (config.capacity.toNat - 1) config.blockSize.toNat) Fifo.empty ops) :=
  after_simulates (R := Represents config.capacity.toNat config.blockSize.toNat)
    (fun _ _ op h _ => (sim_step h op).1) (created_represents old region hc hb)
    (allAnswered_true _ _ _)

theorem run_balance (bound b : Nat) (ops : List QueueOp) {f : Fifo}
    (h : f.pushed = f.popped + f.msgs.length) :
    (after (Fifo.step bound b) f ops).pushed =
      (after (Fifo.step bound b) f ops).popped + (after (Fifo.step bound b) f ops).msgs.length := by
  induction ops generalizing f with
  | nil => exact h
  | cons op ops ih => exact ih (Fifo.step_balance op h)

/-- A HyperAMP queue simulates a FIFO of at most `capacity - 1` messages, for every capacity,
block size and sequence of operations. -/
theorem hyperampQueue_refines_fifo (old : HyperampShmQueue) (config : HyperampQueueConfig)
    (region : DataRegion) (hc : 1 ≤ config.capacity.toNat) (hb : 1 ≤ config.blockSize.toNat)
    (ops : List QueueOp) :
    let c := config.capacity.toNat
    let b := config.blockSize.toNat
    let s := after QueueState.step (created old config region) ops
    let f := after (Fifo.step (c - 1) b) Fifo.empty ops
    Reports c s f ∧
      ∀ op, MeetsFifo (c - 1) b f.msgs (f.step (c - 1) b op).1.msgs s (s.step op).1
        (s.step op).2 op := by
  intro c b s f
  have h := run_represents old region hc hb ops
  refine ⟨h.reports (run_balance _ _ ops rfl), fun op => ?_⟩
  exact meets_of_matches (sim_step h op).2 (refused_unchanged _ op)

def smallConfig : HyperampQueueConfig :=
  { mapMode := 0, capacity := 2, blockSize := 1, phyAddr := 0, virtAddr := 0 }

/-- The second message finds the queue full; with the third the tail starts over. -/
def wrappedOps : List QueueOp := [.enqueue [7], .enqueue [8], .dequeue 1, .enqueue [9]]

theorem hyperampQueue_refines_fifo_wrapped :
    let s := after QueueState.step (created blankControl smallConfig fun _ => 0) wrappedOps
    let f := after (Fifo.step 1 1) Fifo.empty wrappedOps
    f.msgs = [[9]] ∧ f.pushed = 2 ∧ f.popped = 1 ∧ Reports 2 s f ∧
      ∀ op, MeetsFifo 1 1 [[9]] (f.step 1 1 op).1.msgs s (s.step op).1 (s.step op).2 op := by
  intro s f
  have hrun := hyperampQueue_refines_fifo blankControl smallConfig (fun _ => 0) (by decide)
    (by decide) wrappedOps
  exact ⟨rfl, rfl, rfl, hrun.1, hrun.2⟩

/-- A reader that offers no room is refused although a message is waiting. -/
theorem dequeue_without_room_refused :
    ¬ ∀ (ops : List QueueOp) (maxLen : Nat),
      ((after QueueState.step (created blankControl smallConfig fun _ => 0) ops).step
          (.dequeue maxLen)).2.status = .ok ↔
        (after (Fifo.step 1 1) Fifo.empty ops).msgs ≠ [] := by
  intro h
  have h0 := (h [.enqueue [7]] 0).mpr (by decide)
  revert h0
  decide

end BackendProxy.Queue
