import BackendProxy.Lib.Words
import BackendProxy.Queue.Refinement
import BackendProxy.Queue.Spinlock

namespace BackendProxy.Queue

open Lib

/-! The creator's writes in `hyperamp_queue_init`, one byte or one lock field at a time, and what a
connector sees between two of them. -/

/-- The control block in shared memory, by byte; the lock in it is written by field. -/
structure ControlMemory where
  bytes : Nat → UInt8
  lock : HyperampSpinlock

inductive InitWrite where
  | byte (off : Nat) (v : UInt8)
  | lockValue (v : UInt32)
  | ownerZoneId (v : UInt32)
  | lockCount (v : UInt32)
  | contentionCount (v : UInt32)
  deriving DecidableEq, Repr

def InitWrite.apply (m : ControlMemory) : InitWrite → ControlMemory
  | .byte off v => { m with bytes := Function.update m.bytes off v }
  | .lockValue v => { m with lock := { m.lock with lockValue := v } }
  | .ownerZoneId v => { m with lock := { m.lock with ownerZoneId := v } }
  | .lockCount v => { m with lock := { m.lock with lockCount := v } }
  | .contentionCount v => { m with lock := { m.lock with contentionCount := v } }

/-- A field written byte by byte, lowest first. -/
def fieldWrites : Nat → List UInt8 → List InitWrite
  | _, [] => []
  | off, v :: vs => .byte off v :: fieldWrites (off + 1) vs

/-- `hyperamp_spinlock_init` -/
def spinlockInitWrites : List InitWrite :=
  [.lockValue 0, .ownerZoneId 0, .lockCount 0, .contentionCount 0]

def maxMapTableEntries : Nat := 125

/-- `offsetof(HyperampShmQueue, magic)`: both mapping tables and the lock lie before it. -/
def magicOffset : Nat := 36 + 2 * (16 * maxMapTableEntries) + 16

def creatorWrites (config : HyperampQueueConfig) : List InitWrite :=
  fieldWrites 0 [config.mapMode.toUInt8, config.mapMode.toUInt8] ++
    fieldWrites 2 [0, 0] ++
    fieldWrites 4 [0, 0] ++
    fieldWrites 6 (leBytes 2 config.capacity.toNat) ++
    fieldWrites 8 (leBytes 2 config.blockSize.toNat) ++
    fieldWrites 10 [0, 0] ++
    fieldWrites 12 (leBytes 8 config.phyAddr.toNat) ++
    fieldWrites 20 (leBytes 8 config.virtAddr.toNat) ++
    fieldWrites 28 (leBytes 8 0) ++
    spinlockInitWrites ++
    fieldWrites magicOffset (leBytes 4 hyperampQueueMagic.toNat) ++
    fieldWrites (magicOffset + 4) (leBytes 4 1) ++
    fieldWrites (magicOffset + 8) (leBytes 4 0) ++
    fieldWrites (magicOffset + 12) (leBytes 4 0)

/-- An unusable configuration is refused before the first write. -/
def initWrites (config : HyperampQueueConfig) : List InitWrite :=
  if config.blockSize = 0 ∨ config.capacity = 0 then [] else creatorWrites config

/-- Shared memory after the first `k` writes. -/
def ControlMemory.after (old : ControlMemory) (config : HyperampQueueConfig) (k : Nat) :
    ControlMemory :=
  ((initWrites config).take k).foldl InitWrite.apply old

/-- The fields as the queue functions read them. -/
def ControlMemory.control (m : ControlMemory) : HyperampShmQueue :=
  { mapMode1 := m.bytes 0
    mapMode2 := m.bytes 1
    header := u16At m.bytes 2
    tail := u16At m.bytes 4
    capacity := u16At m.bytes 6
    blockSize := u16At m.bytes 8
    reserved := u16At m.bytes 10
    phyAddr := u64At m.bytes 12
    virtAddr1 := u64At m.bytes 20
    virtAddr2 := u64At m.bytes 28
    magic := u32At m.bytes magicOffset
    version := u32At m.bytes (magicOffset + 4)
    enqueueCount := u32At m.bytes (magicOffset + 8)
    dequeueCount := u32At m.bytes (magicOffset + 12) }

/-- The control block once it is initialised. -/
def ControlMemory.created (old : ControlMemory) (config : HyperampQueueConfig) :
    HyperampShmQueue :=
  (hyperampQueueInit old.control config true).2

theorem fieldWrites_append (off : Nat) (a b : List UInt8) :
    fieldWrites off (a ++ b) = fieldWrites off a ++ fieldWrites (off + a.length) b := by
  induction a generalizing off with
  | nil => rfl
  | cons v a ih =>
    simp only [List.cons_append, fieldWrites, ih, List.length_cons]
    rw [Nat.add_assoc off 1, Nat.add_comm 1]

theorem length_fieldWrites (off : Nat) (bs : List UInt8) :
    (fieldWrites off bs).length = bs.length := by
  induction bs generalizing off with
  | nil => rfl
  | cons v bs ih => simp [fieldWrites, ih]

/-- The first writes of a field store its first bytes. -/
theorem apply_fieldWrites (m : ControlMemory) (off k : Nat) (bs : List UInt8) :
    ((fieldWrites off bs).take k).foldl InitWrite.apply m =
      { m with bytes := store m.bytes off (bs.take k) } := by
  induction bs generalizing m off k with
  | nil => simp [fieldWrites]
  | cons v bs ih =>
    cases k with
    | zero => simp
    | succ k =>
      simp only [fieldWrites, List.take_succ_cons, List.foldl_cons, InitWrite.apply, ih]
      have hsplit := store_append m.bytes off [v] (bs.take k)
      rw [List.singleton_append, List.length_singleton] at hsplit
      rw [hsplit]
      congr 2
      funext a
      by_cases ha : a = off
      · subst ha
        simp [store]
      · rw [Function.update_of_ne ha, store_outside _ _ _ _ (by simp; omega)]

/-- The fields before the mapping tables. -/
def frontBytes (config : HyperampQueueConfig) : List UInt8 :=
  [config.mapMode.toUInt8, config.mapMode.toUInt8, 0, 0, 0, 0] ++
    leBytes 2 config.capacity.toNat ++ leBytes 2 config.blockSize.toNat ++ [0, 0] ++
    leBytes 8 config.phyAddr.toNat ++ leBytes 8 config.virtAddr.toNat ++ leBytes 8 0

/-- The fields behind the lock. -/
def extensionBytes : List UInt8 :=
  leBytes 4 hyperampQueueMagic.toNat ++ leBytes 4 1 ++ leBytes 4 0 ++ leBytes 4 0

theorem creatorWrites_eq (config : HyperampQueueConfig) :
    creatorWrites config = fieldWrites 0 (frontBytes config) ++
      (spinlockInitWrites ++ fieldWrites magicOffset extensionBytes) := by
  have hhead : fieldWrites 0 [config.mapMode.toUInt8, config.mapMode.toUInt8, 0, 0, 0, 0] =
      fieldWrites 0 [config.mapMode.toUInt8, config.mapMode.toUInt8] ++ fieldWrites 2 [0, 0] ++
        fieldWrites 4 [0, 0] := rfl
  simp only [creatorWrites, frontBytes, extensionBytes, fieldWrites_append, hhead,
    length_leBytes, List.length_cons, List.length_nil, List.append_assoc]

theorem length_frontBytes (config : HyperampQueueConfig) : (frontBytes config).length = 36 := by
  simp [frontBytes]

theorem apply_lockWrites_bytes (m : ControlMemory) (n : Nat) :
    ((spinlockInitWrites.take n).foldl InitWrite.apply m).bytes = m.bytes := by
  rcases n with _ | _ | _ | _ | _ | n <;> rfl

section After

variable {old : ControlMemory} {config : HyperampQueueConfig}

theorem after_eq (old : ControlMemory)
    (hvalid : ¬ (config.blockSize = 0 ∨ config.capacity = 0)) (k : Nat) :
    (old.after config k).bytes =
        store (store old.bytes 0 ((frontBytes config).take k)) magicOffset
          (extensionBytes.take (k - 36 - 4)) ∧
      (old.after config k).lock =
        ((spinlockInitWrites.take (k - 36)).foldl InitWrite.apply old).lock := by
  unfold ControlMemory.after
  rw [initWrites, if_neg hvalid, creatorWrites_eq, List.take_append, length_fieldWrites,
    length_frontBytes, List.take_append, List.foldl_append, List.foldl_append,
    apply_fieldWrites, apply_fieldWrites]
  refine ⟨?_, ?_⟩
  · rw [apply_lockWrites_bytes]
    rfl
  · generalize k - 36 = n
    rcases n with _ | _ | _ | _ | _ | n <;> rfl

/-- A byte before the tables is new or old, by whether its write was among the first `k`. -/
theorem front_after (hvalid : ¬ (config.blockSize = 0 ∨ config.capacity = 0)) {a : Nat}
    (ha : a < 36) (k : Nat) :
    (old.after config k).bytes a =
      if a < k then store old.bytes 0 (frontBytes config) a else old.bytes a := by
  have hlen := length_frontBytes config
  rw [(after_eq old hvalid k).1,
    store_outside _ magicOffset _ _ (Or.inl (by unfold magicOffset; omega))]
  split
  · rename_i hk
    have hcell := store_inside old.bytes 0 a ((frontBytes config).take k) (by simp; omega)
    have hfull := store_inside old.bytes 0 a (frontBytes config) (by omega)
    rw [Nat.zero_add] at hcell hfull
    rw [hcell, hfull, List.getElem_take]
  · rename_i hk
    rw [store_outside _ _ _ _ (Or.inr (by simp; omega))]

theorem load_late (hvalid : ¬ (config.blockSize = 0 ∨ config.capacity = 0)) {off n k : Nat}
    (hn : off + n ≤ 36) (hk : off + n ≤ k) :
    load (old.after config k).bytes off n = load (store old.bytes 0 (frontBytes config)) off n := by
  apply load_congr
  intro i hi
  rw [front_after hvalid (by omega), if_pos (by omega)]

/-- The values the initialisation gives to the fields before the tables. -/
theorem created_eq (hvalid : ¬ (config.blockSize = 0 ∨ config.capacity = 0)) :
    old.created config =
      { mapMode1 := config.mapMode.toUInt8, mapMode2 := config.mapMode.toUInt8, header := 0,
        tail := 0, capacity := config.capacity, blockSize := config.blockSize, reserved := 0,
        phyAddr := config.phyAddr, virtAddr1 := config.virtAddr, virtAddr2 := 0,
        magic := hyperampQueueMagic, version := 1, enqueueCount := 0, dequeueCount := 0 } := by
  simp only [ControlMemory.created, hyperampQueueInit, hvalid, if_false, if_true]

/-- What the bytes before the tables spell. -/
theorem front_fields (m : Nat → UInt8) (config : HyperampQueueConfig) :
    load (store m 0 (frontBytes config)) 2 2 = leBytes 2 (0 : UInt16).toNat ∧
      load (store m 0 (frontBytes config)) 4 2 = leBytes 2 (0 : UInt16).toNat ∧
      load (store m 0 (frontBytes config)) 6 2 = leBytes 2 config.capacity.toNat ∧
      load (store m 0 (frontBytes config)) 8 2 = leBytes 2 config.blockSize.toNat ∧
      load (store m 0 (frontBytes config)) 10 2 = leBytes 2 (0 : UInt16).toNat ∧
      load (store m 0 (frontBytes config)) 12 8 = leBytes 8 config.phyAddr.toNat ∧
      load (store m 0 (frontBytes config)) 20 8 = leBytes 8 config.virtAddr.toNat ∧
      load (store m 0 (frontBytes config)) 28 8 = leBytes 8 (0 : UInt64).toNat := by
  let head : List UInt8 := [config.mapMode.toUInt8, config.mapMode.toUInt8, 0, 0, 0, 0]
  let cap := leBytes 2 config.capacity.toNat
  let bs := leBytes 2 config.blockSize.toNat
  let pa := leBytes 8 config.phyAddr.toNat
  let va := leBytes 8 config.virtAddr.toNat
  refine ⟨rfl, rfl, ?_, ?_, ?_, ?_, ?_, ?_⟩
  · exact load_part m head cap (bs ++ [0, 0] ++ pa ++ va ++ leBytes 8 0)
      (by simp [frontBytes, head, cap, bs, pa, va]) (by simp [head]) (by simp [cap])
  · exact load_part m (head ++ cap) bs ([0, 0] ++ pa ++ va ++ leBytes 8 0)
      (by simp [frontBytes, head, cap, bs, pa, va]) (by simp [head, cap]) (by simp [bs])
  · exact load_part m (head ++ cap ++ bs) [0, 0] (pa ++ va ++ leBytes 8 0)
      (by simp [frontBytes, head, cap, bs, pa, va]) (by simp [head, cap, bs]) rfl
  · exact load_part m (head ++ cap ++ bs ++ [0, 0]) pa (va ++ leBytes 8 0)
      (by simp [frontBytes, head, cap, bs, pa, va]) (by simp [head, cap, bs]) (by simp [pa])
  · exact load_part m (head ++ cap ++ bs ++ [0, 0] ++ pa) va (leBytes 8 0)
      (by simp [frontBytes, head, cap, bs, pa, va]) (by simp [head, cap, bs, pa]) (by simp [va])
  · exact load_part m (head ++ cap ++ bs ++ [0, 0] ++ pa ++ va) (leBytes 8 0) []
      (by simp [frontBytes, head, cap, bs, pa, va]) (by simp [head, cap, bs, pa, va]) (by simp)

/-- All the writes together make the control block of `hyperamp_queue_init`. -/
theorem after_all (hvalid : ¬ (config.blockSize = 0 ∨ config.capacity = 0)) :
    (old.after config 56).control = old.created config ∧
      (old.after config 56).lock = hyperampSpinlockInit := by
  obtain ⟨hbytes, hlock⟩ := after_eq old hvalid 56
  refine ⟨?_, hlock⟩
  obtain ⟨hheader, htail, hcap, hblock, hreserved, hphy, hvirt1, hvirt2⟩ :=
    front_fields old.bytes config
  have hback : ∀ k n, load (old.after config 56).bytes (magicOffset + k) n =
      load (store (store old.bytes 0 (frontBytes config)) magicOffset extensionBytes)
        (magicOffset + k) n := by
    intro k n
    rw [hbytes]
    rfl
  have hmode : (old.after config 56).bytes 0 = config.mapMode.toUInt8 ∧
      (old.after config 56).bytes 1 = config.mapMode.toUInt8 := by
    rw [hbytes]
    exact ⟨rfl, rfl⟩
  have hmagic : u32At (old.after config 56).bytes magicOffset = hyperampQueueMagic :=
    u32At_eq_iff.mpr ((hback 0 4).trans rfl)
  have hversion : u32At (old.after config 56).bytes (magicOffset + 4) = 1 :=
    u32At_eq_iff.mpr ((hback 4 4).trans rfl)
  have henqueued : u32At (old.after config 56).bytes (magicOffset + 8) = 0 :=
    u32At_eq_iff.mpr ((hback 8 4).trans rfl)
  have hdequeued : u32At (old.after config 56).bytes (magicOffset + 12) = 0 :=
    u32At_eq_iff.mpr ((hback 12 4).trans rfl)
  rw [created_eq hvalid]
  unfold ControlMemory.control
  rw [hmode.1, hmode.2,
    u16At_eq_iff.mpr ((load_late hvalid (by decide) (by decide)).trans hheader),
    u16At_eq_iff.mpr ((load_late hvalid (by decide) (by decide)).trans htail),
    u16At_eq_iff.mpr ((load_late hvalid (by decide) (by decide)).trans hcap),
    u16At_eq_iff.mpr ((load_late hvalid (by decide) (by decide)).trans hblock),
    u16At_eq_iff.mpr ((load_late hvalid (by decide) (by decide)).trans hreserved),
    u64At_eq_iff.mpr ((load_late hvalid (by decide) (by decide)).trans hphy),
    u64At_eq_iff.mpr ((load_late hvalid (by decide) (by decide)).trans hvirt1),
    u64At_eq_iff.mpr ((load_late hvalid (by decide) (by decide)).trans hvirt2),
    hmagic, hversion, henqueued, hdequeued]

/-! When the capacity becomes visible. -/

end After

section Published

variable {old : ControlMemory} {config : HyperampQueueConfig}

end Published

end BackendProxy.Queue
