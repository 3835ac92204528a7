import BackendProxy.Lib.Runs
import BackendProxy.Queue.ShmQueue
import Mathlib.Tactic.Ring

namespace BackendProxy.Queue

open Lib

/-! A queue function against the list of messages waiting in its slots. -/

/-- Slot `i` starts with the message `x`, which fits into it. -/
def Carries (region : DataRegion) (blockSize i : Nat) (x : List UInt8) : Prop :=
  x.length ≤ blockSize ∧ load region ((i + 1) * blockSize) x.length = x

/-- The messages between `tail` and `header`, oldest first. -/
def Waiting (q : HyperampShmQueue) (region : DataRegion) (msgs : List (List UInt8)) : Prop :=
  Ring.Holds q.capacity.toNat q.header.toNat q.tail.toNat (Carries region q.blockSize.toNat) msgs

theorem Carries.filled (region : DataRegion) {b i : Nat} {x : List UInt8} (h : x.length ≤ b) :
    Carries (store region ((i + 1) * b) x) b i x := by
  refine ⟨h, ?_⟩
  rw [load_store _ _ _ _ (Nat.le_refl _), List.take_length]

/-- A message in another slot survives a store that stays inside its own slot. -/
theorem Carries.apart {region : DataRegion} {b i j : Nat} {x d : List UInt8}
    (h : Carries region b i x) (hij : i ≠ j) (hd : d.length ≤ b) :
    Carries (store region ((j + 1) * b) d) b i x := by
  obtain ⟨hx, hl⟩ := h
  refine ⟨hx, ?_⟩
  rw [load_store_apart, hl]
  rcases Nat.lt_or_gt_of_ne hij with hlt | hlt
  · left
    calc (i + 1) * b + x.length ≤ (i + 1 + 1) * b := by rw [Nat.add_mul (i + 1)]; omega
      _ ≤ (j + 1) * b := Nat.mul_le_mul_right _ (by omega)
  · right
    calc (j + 1) * b + d.length ≤ (j + 1 + 1) * b := by rw [Nat.add_mul (j + 1)]; omega
      _ ≤ (i + 1) * b := Nat.mul_le_mul_right _ (by omega)

/-- Reading the slot delivers the message first. -/
theorem Carries.read {region : DataRegion} {b i : Nat} {x : List UInt8}
    (h : Carries region b i x) (n : Nat) :
    (load region ((i + 1) * b) (min n b)).take (min n x.length) = x.take n := by
  obtain ⟨hx, hl⟩ := h
  have hm : min (min n x.length) (min n b) = min n x.length := by omega
  have ht : x.take n = (load region ((i + 1) * b) x.length).take n := by rw [hl]
  rw [take_load, hm, ht, take_load]

namespace Waiting

variable {q : HyperampShmQueue} {region : DataRegion} {msgs : List (List UInt8)}

theorem empty_iff (h : Waiting q region msgs) : q.tail = q.header ↔ msgs = [] := by
  rw [← UInt16.toNat_inj]
  exact h.read_eq_write_iff

theorem full_iff (h : Waiting q region msgs) :
    nextBySubtraction q q.header = q.tail ↔ msgs.length = q.capacity.toNat - 1 := by
  rw [← UInt16.toNat_inj, nextBySubtraction_toNat h.write_lt]
  exact Ring.Holds.full_iff h

theorem modulo_header (h : Waiting q region msgs) :
    nextByModulo q q.header = nextBySubtraction q q.header :=
  nextByModulo_eq h.write_lt

theorem modulo_tail (h : Waiting q region msgs) :
    nextByModulo q q.tail = nextBySubtraction q q.tail :=
  nextByModulo_eq h.read_lt

/-- Storing a message in the write slot and advancing `header` appends it. -/
theorem append (h : Waiting q region msgs) {d : List UInt8} (n : UInt32)
    (room : nextBySubtraction q q.header ≠ q.tail) (hd : d.length ≤ q.blockSize.toNat) :
    Waiting { q with header := nextBySubtraction q q.header, enqueueCount := n }
      (store region (slotOffset q q.header) d) (msgs ++ [d]) := by
  have hne : Ring.next q.capacity.toNat q.header.toNat ≠ q.tail.toNat := by
    intro e
    exact room (UInt16.toNat_inj.mp ((nextBySubtraction_toNat h.write_lt).trans e))
  unfold Waiting
  simp only [nextBySubtraction_toNat h.write_lt]
  apply Ring.Holds.push h hne (Carries.filled region hd)
  intro i y hi hy
  exact hy.apart hi hd

/-- Advancing `tail` drops the oldest message. -/
theorem drop {x : List UInt8} (h : Waiting q region (x :: msgs)) (n : UInt32) :
    Waiting { q with tail := nextBySubtraction q q.tail, dequeueCount := n } region msgs := by
  unfold Waiting
  simp only [nextBySubtraction_toNat h.read_lt]
  exact Ring.Holds.pop h

/-- A store into a slot that is not occupied keeps every waiting message. -/
theorem store_elsewhere (h : Waiting q region msgs) {j : Nat} {d : List UInt8}
    (hj : ∀ i < msgs.length, (q.tail.toNat + i) % q.capacity.toNat ≠ j)
    (hd : d.length ≤ q.blockSize.toNat) :
    Waiting q (store region ((j + 1) * q.blockSize.toNat) d) msgs :=
  Ring.Holds.frame h fun i hi hx => hx.apart (hj i hi) hd

end Waiting

/-! One lemma for each queue function. -/

section Operations

variable {q : HyperampShmQueue} {region : DataRegion} {msgs : List (List UInt8)}

theorem enqueue_refused (h : Waiting q region msgs) {d : List UInt8}
    (hd : d.length = 0 ∨ q.blockSize.toNat < d.length ∨ msgs.length = q.capacity.toNat - 1) :
    ∃ st, st ≠ .ok ∧ hyperampQueueEnqueue q region d = (st, q, region) := by
  unfold hyperampQueueEnqueue
  split
  · exact ⟨.error, by simp, rfl⟩
  · split
    · exact ⟨.error, by simp, rfl⟩
    · have hf := h.full_iff.mpr (by omega)
      exact ⟨.again, by simp, by simp [hf]⟩

theorem enqueue_accepted (h : Waiting q region msgs) {d : List UInt8}
    (h0 : d.length ≠ 0) (hb : d.length ≤ q.blockSize.toNat)
    (hc : msgs.length < q.capacity.toNat - 1) :
    hyperampQueueEnqueue q region d =
        (.ok, { q with header := nextBySubtraction q q.header, enqueueCount := q.enqueueCount + 1 },
          store region (slotOffset q q.header) d) ∧
      Waiting { q with header := nextBySubtraction q q.header, enqueueCount := q.enqueueCount + 1 }
        (store region (slotOffset q q.header) d) (msgs ++ [d]) := by
  have hf : nextBySubtraction q q.header ≠ q.tail := by
    intro e
    have := h.full_iff.mp e
    omega
  refine ⟨?_, h.append _ hf hb⟩
  simp [hyperampQueueEnqueue, hf, Nat.not_lt.mpr hb, show d ≠ [] by rintro rfl; simp at h0]

theorem dequeue_refused (h : Waiting q region msgs) {n : Nat} (hn : n = 0 ∨ msgs = []) :
    ∃ st, st ≠ .ok ∧ hyperampQueueDequeue q region n = (st, q, []) := by
  unfold hyperampQueueDequeue
  split
  · exact ⟨.error, by simp, rfl⟩
  · have he := h.empty_iff.mpr (by tauto)
    exact ⟨.again, by simp, by simp [he]⟩

theorem dequeue_accepted {x : List UInt8} (h : Waiting q region (x :: msgs)) {n : Nat}
    (hn : n ≠ 0) :
    hyperampQueueDequeue q region n =
        (.ok, { q with tail := nextBySubtraction q q.tail, dequeueCount := q.dequeueCount + 1 },
          load region (slotOffset q q.tail) (min n q.blockSize.toNat)) ∧
      Waiting { q with tail := nextBySubtraction q q.tail, dequeueCount := q.dequeueCount + 1 }
        region msgs := by
  have he : q.tail ≠ q.header := by
    intro e
    cases h.empty_iff.mp e
  have hm : (if n < q.blockSize.toNat then n else q.blockSize.toNat) = min n q.blockSize.toNat := by
    split <;> omega
  exact ⟨by simp [hyperampQueueDequeue, hn, he, hm], h.drop _⟩

theorem peek_refused (h : Waiting q region msgs) {n : Nat} (hn : n = 0 ∨ msgs = []) :
    hyperampQueuePeek q region n = (.error, []) := by
  unfold hyperampQueuePeek
  split
  · rfl
  · simp [h.empty_iff.mpr (by tauto)]

theorem peek_accepted {x : List UInt8} (h : Waiting q region (x :: msgs)) {n : Nat}
    (hn : n ≠ 0) :
    hyperampQueuePeek q region n =
      (.ok, load region (slotOffset q q.tail) (min n q.blockSize.toNat)) := by
  have he : q.tail ≠ q.header := by
    intro e
    cases h.empty_iff.mp e
  have hm : (if n < q.blockSize.toNat then n else q.blockSize.toNat) = min n q.blockSize.toNat := by
    split <;> omega
  simp [hyperampQueuePeek, hn, he, hm]

/-- What `dequeue` and `peek` deliver starts with the oldest message. -/
theorem Waiting.delivered {x : List UInt8} (h : Waiting q region (x :: msgs)) (n : Nat) :
    (load region (slotOffset q q.tail) (min n q.blockSize.toNat)).take (min n x.length) =
      x.take n :=
  (Ring.Holds.front h).read n

theorem allocSlot_refused (h : Waiting q region msgs) (hc : msgs.length = q.capacity.toNat - 1) :
    hyperampQueueAllocSlot q = (.error, q, 0) := by
  simp [hyperampQueueAllocSlot, h.modulo_header, h.full_iff.mpr hc]

theorem allocSlot_accepted (h : Waiting q region msgs)
    (hc : msgs.length < q.capacity.toNat - 1) :
    hyperampQueueAllocSlot q =
        (.ok, { q with header := nextBySubtraction q q.header, enqueueCount := q.enqueueCount + 1 },
          slotOffset q q.header) ∧
      ∀ fill : List UInt8, fill.length ≤ q.blockSize.toNat →
        Waiting
          { q with header := nextBySubtraction q q.header, enqueueCount := q.enqueueCount + 1 }
          (store region (slotOffset q q.header) fill) (msgs ++ [fill]) := by
  have hf : nextBySubtraction q q.header ≠ q.tail := by
    intro e
    have := h.full_iff.mp e
    omega
  refine ⟨?_, fun fill hl => h.append _ hf hl⟩
  simp [hyperampQueueAllocSlot, h.modulo_header, hf]

theorem releaseSlot_refused (h : Waiting q region []) :
    hyperampQueueReleaseSlot q = (.error, q) := by
  simp [hyperampQueueReleaseSlot, h.empty_iff.mpr rfl]

theorem releaseSlot_accepted {x : List UInt8} (h : Waiting q region (x :: msgs)) :
    hyperampQueueReleaseSlot q =
        (.ok, { q with tail := nextBySubtraction q q.tail, dequeueCount := q.dequeueCount + 1 }) ∧
      Waiting { q with tail := nextBySubtraction q q.tail, dequeueCount := q.dequeueCount + 1 }
        region msgs := by
  have he : q.tail ≠ q.header := by
    intro e
    cases h.empty_iff.mp e
  refine ⟨?_, h.drop _⟩
  simp [hyperampQueueReleaseSlot, h.modulo_tail, he]

/-- A queue the creator has just initialised is empty. -/
theorem created_waiting (old : HyperampShmQueue) (config : HyperampQueueConfig)
    (region : DataRegion) (hc : config.capacity ≠ 0) (hb : config.blockSize ≠ 0) :
    ∃ q, hyperampQueueInit old config true = (.ok, q) ∧ q.capacity = config.capacity ∧
      q.blockSize = config.blockSize ∧ q.enqueueCount = 0 ∧ q.dequeueCount = 0 ∧
      Waiting q region [] := by
  simp only [hyperampQueueInit, hc, hb, or_self, if_false, if_true]
  refine ⟨_, rfl, rfl, rfl, rfl, rfl, ?_⟩
  have hpos : 0 < config.capacity.toNat := by
    rw [Nat.pos_iff_ne_zero]
    intro e
    exact hc (UInt16.toNat_inj.mp e)
  exact Ring.Holds.empty hpos

end Operations

end BackendProxy.Queue
