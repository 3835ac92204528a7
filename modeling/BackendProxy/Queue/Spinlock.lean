import BackendProxy.Lib.Runs
import Mathlib.Logic.Function.Basic

namespace BackendProxy.Queue

open Lib

/-! The portable spinlock, one read or write of `lock_value` at a time. -/

structure HyperampSpinlock where
  lockValue : UInt32
  ownerZoneId : UInt32
  lockCount : UInt32
  contentionCount : UInt32
  deriving DecidableEq, Repr

def hyperampSpinlockInit : HyperampSpinlock :=
  { lockValue := 0, ownerZoneId := 0, lockCount := 0, contentionCount := 0 }

/-- The two operating systems that share the queue. -/
inductive Party where
  | linux
  | sel4
  deriving DecidableEq, Repr

inductive LockCall where
  | lock
  | trylock
  deriving DecidableEq, Repr

/-- What a party is about to do with the lock. -/
inductive LockPc where
  | outside
  | test (call : LockCall) (zoneId : UInt32)
  | claim (call : LockCall) (zoneId : UInt32)
  | confirm (call : LockCall) (zoneId : UInt32)
  | holding
  deriving DecidableEq, Repr

structure LockState where
  lock : HyperampSpinlock
  pc : Party → LockPc

def LockState.goto (s : LockState) (p : Party) (pc : LockPc) : LockState :=
  { s with pc := Function.update s.pc p pc }

inductive LockAct where
  | call (call : LockCall) (zoneId : UInt32)
  | access
  | unlock
  deriving DecidableEq, Repr

/-- Where a call goes on after it found the lock taken: `lock` spins, `trylock` answers `AGAIN`. -/
def LockState.missed (s : LockState) (p : Party) (zoneId : UInt32) : LockCall → LockState
  | .lock =>
    { s.goto p (.test .lock zoneId) with
      lock := { s.lock with contentionCount := s.lock.contentionCount + 1 } }
  | .trylock => s.goto p .outside

/-- The next read or write of `lock_value` that a party's call makes. -/
def LockState.access (s : LockState) (p : Party) : Except Unit LockState :=
  match s.pc p with
  | .outside => .error ()
  | .test call zoneId =>
    if s.lock.lockValue = 0 then .ok (s.goto p (.claim call zoneId))
    else .ok (s.missed p zoneId call)
  | .claim call zoneId =>
    .ok { s.goto p (.confirm call zoneId) with lock := { s.lock with lockValue := 1 } }
  | .confirm call zoneId =>
    if s.lock.lockValue = 1 then
      .ok
        { s.goto p .holding with
          lock := { s.lock with ownerZoneId := zoneId, lockCount := s.lock.lockCount + 1 } }
    else .ok (s.missed p zoneId call)
  | .holding => .error ()

/-- A party outside may call, one that holds the lock may unlock it, any other goes on. -/
def spinlockStep (s : LockState) : Party × LockAct → Except Unit LockState
  | (p, .call call zoneId) =>
    if s.pc p = .outside then .ok (s.goto p (.test call zoneId)) else .error ()
  | (p, .access) => s.access p
  | (p, .unlock) =>
    if s.pc p = .holding then
      .ok
        { s.goto p .outside with lock := { s.lock with ownerZoneId := 0, lockValue := 0 } }
    else .error ()

def spinlockStart : LockState :=
  { lock := hyperampSpinlockInit, pc := fun _ => .outside }

/-- At most one party is between the return of a successful call and its unlock. -/
def Exclusive (s : LockState) : Prop :=
  ∀ p q, s.pc p = .holding → s.pc q = .holding → p = q

/-- A party that read the lock as free writes it only while it still is. -/
def ClaimsFree (s : LockState) (act : Party × LockAct) : Prop :=
  ∀ call zoneId, act.2 = .access → s.pc act.1 = .claim call zoneId → s.lock.lockValue = 0

/-- A party that wrote the lock and has neither lost nor released it since. -/
def LockPc.engaged : LockPc → Bool
  | .confirm _ _ => true
  | .holding => true
  | _ => false

/-- What one step does to the party that makes it and to `lock_value`. -/
inductive Moved (s : LockState) (p : Party) (act : LockAct) (t : LockState) : Prop where
  | waits (before : (s.pc p).engaged = false) (after : (t.pc p).engaged = false)
      (value : t.lock.lockValue = s.lock.lockValue)
  | claims (call : LockCall) (zoneId : UInt32) (accesses : act = .access)
      (before : s.pc p = .claim call zoneId) (after : t.pc p = .confirm call zoneId)
      (value : t.lock.lockValue = 1)
  | confirms (call : LockCall) (zoneId : UInt32) (before : s.pc p = .confirm call zoneId)
      (read : s.lock.lockValue = 1) (after : t.pc p = .holding) (value : t.lock.lockValue = 1)
  | loses (call : LockCall) (zoneId : UInt32) (before : s.pc p = .confirm call zoneId)
      (read : s.lock.lockValue ≠ 1) (after : (t.pc p).engaged = false)
      (value : t.lock.lockValue = s.lock.lockValue)
  | releases (before : s.pc p = .holding) (after : t.pc p = .outside)
      (value : t.lock.lockValue = 0)

@[simp] theorem goto_pc_self (s : LockState) (p : Party) (pc : LockPc) :
    (s.goto p pc).pc p = pc := by
  simp [LockState.goto]

@[simp] theorem goto_pc_other {s : LockState} {p q : Party} {pc : LockPc} (h : q ≠ p) :
    (s.goto p pc).pc q = s.pc q := by
  simp [LockState.goto, h]

@[simp] theorem goto_lock (s : LockState) (p : Party) (pc : LockPc) :
    (s.goto p pc).lock = s.lock := rfl

theorem missed_engaged (s : LockState) (p : Party) (zoneId : UInt32) (call : LockCall) :
    ((s.missed p zoneId call).pc p).engaged = false := by
  cases call <;> simp [LockState.missed, LockPc.engaged]

theorem missed_pc_other {s : LockState} {p q : Party} (zoneId : UInt32) (call : LockCall)
    (h : q ≠ p) : (s.missed p zoneId call).pc q = s.pc q := by
  cases call <;> simp [LockState.missed, h]

theorem missed_lockValue (s : LockState) (p : Party) (zoneId : UInt32) (call : LockCall) :
    (s.missed p zoneId call).lock.lockValue = s.lock.lockValue := by
  cases call <;> rfl

theorem access_moved {s t : LockState} {p : Party} (h : s.access p = .ok t) :
    (∀ q, q ≠ p → t.pc q = s.pc q) ∧ Moved s p .access t := by
  unfold LockState.access at h
  cases hpc : s.pc p with
  | outside => simp [hpc] at h
  | holding => simp [hpc] at h
  | test call zoneId =>
    simp only [hpc] at h
    split at h
    · cases h
      refine ⟨fun q hq => goto_pc_other hq, .waits (by rw [hpc]; rfl) ?_ rfl⟩
      rw [goto_pc_self]
      rfl
    · cases h
      exact ⟨fun q hq => missed_pc_other zoneId call hq,
        .waits (by rw [hpc]; rfl) (missed_engaged ..) (missed_lockValue ..)⟩
  | claim call zoneId =>
    simp only [hpc, Except.ok.injEq] at h
    subst t
    exact ⟨fun q hq => goto_pc_other hq, .claims call zoneId rfl hpc (goto_pc_self ..) rfl⟩
  | confirm call zoneId =>
    simp only [hpc] at h
    split at h
    · rename_i hv
      cases h
      exact ⟨fun q hq => goto_pc_other hq, .confirms call zoneId hpc hv (goto_pc_self ..) hv⟩
    · rename_i hv
      cases h
      exact ⟨fun q hq => missed_pc_other zoneId call hq,
        .loses call zoneId hpc hv (missed_engaged ..) (missed_lockValue ..)⟩

theorem spinlockStep_moved {s t : LockState} {p : Party} {act : LockAct}
    (h : spinlockStep s (p, act) = .ok t) :
    (∀ q, q ≠ p → t.pc q = s.pc q) ∧ Moved s p act t := by
  cases act with
  | access => exact access_moved h
  | call call zoneId =>
    simp only [spinlockStep] at h
    split at h
    · rename_i hpc
      cases h
      refine ⟨fun q hq => goto_pc_other hq, .waits (by rw [hpc]; rfl) ?_ rfl⟩
      rw [goto_pc_self]
      rfl
    · cases h
  | unlock =>
    simp only [spinlockStep] at h
    split at h
    · rename_i hpc
      cases h
      exact ⟨fun q hq => goto_pc_other hq, .releases hpc (goto_pc_self ..) rfl⟩
    · cases h

/-- The lock is taken exactly while one party is engaged with it. -/
structure Owned (s : LockState) : Prop where
  binary : s.lock.lockValue = 0 ∨ s.lock.lockValue = 1
  taken : s.lock.lockValue ≠ 0 ↔ ∃ p, (s.pc p).engaged = true
  unique : ∀ p q, (s.pc p).engaged = true → (s.pc q).engaged = true → p = q

theorem owned_start : Owned spinlockStart := by
  refine ⟨.inl rfl, ⟨fun h => absurd rfl h, ?_⟩, ?_⟩
  · intro ⟨p, hp⟩
    cases hp
  · intro p q hp
    cases hp

theorem Owned.exclusive {s : LockState} (h : Owned s) : Exclusive s := by
  intro p q hp hq
  apply h.unique p q
  · rw [hp]
    rfl
  · rw [hq]
    rfl

section Transfer

variable {s t : LockState} {p : Party} (hs : Owned s) (hother : ∀ q, q ≠ p → t.pc q = s.pc q)
include hs hother

/-- The party stays as engaged as it was and the value stays. -/
theorem Owned.same (hp : (t.pc p).engaged = (s.pc p).engaged)
    (hv : t.lock.lockValue = s.lock.lockValue) : Owned t := by
  have hall : ∀ q, (t.pc q).engaged = (s.pc q).engaged := by
    intro q
    by_cases hq : q = p
    · subst q
      exact hp
    · rw [hother q hq]
  refine ⟨by rw [hv]; exact hs.binary, ?_, ?_⟩
  · simp only [hv, hall]
    exact hs.taken
  · simp only [hall]
    exact hs.unique

theorem Owned.claims (hp : (t.pc p).engaged = true) (hfree : s.lock.lockValue = 0)
    (hv : t.lock.lockValue = 1) : Owned t := by
  have hnone : ∀ q, (s.pc q).engaged ≠ true := fun q hq => hs.taken.mpr ⟨q, hq⟩ hfree
  have honly : ∀ q, (t.pc q).engaged = true → q = p := by
    intro q hq
    by_contra hne
    rw [hother q hne] at hq
    exact hnone q hq
  refine ⟨.inr hv, ⟨fun _ => ⟨p, hp⟩, fun _ => by rw [hv]; decide⟩, ?_⟩
  intro q r hq hr
  rw [honly q hq, honly r hr]

theorem Owned.releases (hp : (s.pc p).engaged = true) (hafter : (t.pc p).engaged = false)
    (hv : t.lock.lockValue = 0) : Owned t := by
  have hnone : ∀ q, (t.pc q).engaged ≠ true := by
    intro q hq
    by_cases heq : q = p
    · subst q
      simp [hafter] at hq
    · rw [hother q heq] at hq
      exact heq (hs.unique q p hq hp)
  refine ⟨.inl hv, ⟨fun h => absurd hv h, ?_⟩, fun q r hq => absurd hq (hnone q)⟩
  intro ⟨q, hq⟩
  exact absurd hq (hnone q)

end Transfer

theorem Owned.step {s t : LockState} {act : Party × LockAct} (hs : Owned s)
    (hc : ClaimsFree s act) (h : spinlockStep s act = .ok t) : Owned t := by
  obtain ⟨p, act⟩ := act
  obtain ⟨hother, hm⟩ := spinlockStep_moved h
  cases hm with
  | waits before after value => exact hs.same hother (by rw [before, after]) value
  | claims call zoneId accesses before after value =>
    exact hs.claims hother (by rw [after]; rfl) (hc call zoneId accesses before) value
  | confirms call zoneId before read after value =>
    exact hs.same hother (by rw [before, after]; rfl) (by rw [value, read])
  | loses call zoneId before read after value =>
    -- the value is 1 as long as this party is engaged
    have hne := hs.taken.mpr ⟨p, by rw [before]; rfl⟩
    rcases hs.binary with h0 | h1
    · exact absurd h0 hne
    · exact absurd h1 read
  | releases before after value =>
    exact hs.releases hother (by rw [before]; rfl) (by rw [after]; rfl) value

theorem owned_run {acts : List (Party × LockAct)} {t : LockState}
    (hc : AllSteps spinlockStep ClaimsFree spinlockStart acts)
    (h : run spinlockStep spinlockStart acts = .ok t) : Owned t :=
  run_invariant (fun _ _ _ hs hc h => hs.step hc h) owned_start hc h

theorem access_claims {s : LockState} {p : Party} {call : LockCall} {zoneId : UInt32}
    (h : s.pc p = .claim call zoneId) :
    spinlockStep s (p, .access) =
      .ok { s.goto p (.confirm call zoneId) with lock := { s.lock with lockValue := 1 } } := by
  simp [spinlockStep, LockState.access, h]

theorem access_confirms {s : LockState} {p : Party} {call : LockCall} {zoneId : UInt32}
    (h : s.pc p = .confirm call zoneId) (hv : s.lock.lockValue = 1) :
    ∃ t, spinlockStep s (p, .access) = .ok t ∧ t.pc p = .holding ∧
      (∀ q, q ≠ p → t.pc q = s.pc q) ∧ t.lock.lockValue = 1 := by
  refine ⟨{ s.goto p .holding with
      lock := { s.lock with ownerZoneId := zoneId, lockCount := s.lock.lockCount + 1 } },
    ?_, goto_pc_self .., fun q hq => goto_pc_other hq, hv⟩
  simp only [spinlockStep, LockState.access, h, hv, if_true]

/-- Two engaged parties can both read back the 1 that either of them wrote. -/
theorem engaged_collide {s : LockState} {p q : Party} (hne : q ≠ p)
    (hq : (s.pc q).engaged = true) {call : LockCall} {zoneId : UInt32}
    (hp : s.pc p = .confirm call zoneId) (hv : s.lock.lockValue = 1) :
    ∃ more u, run spinlockStep s more = .ok u ∧ ¬ Exclusive u := by
  obtain ⟨t, ht, hpt, hother, hvt⟩ := access_confirms hp hv
  cases hpc : s.pc q with
  | holding =>
    refine ⟨[(p, .access)], t, by rw [run_cons_ok [] ht, run_nil], ?_⟩
    intro hx
    exact hne (hx q p (by rw [hother q hne, hpc]) hpt)
  | confirm call' zoneId' =>
    obtain ⟨u, hu, hqu, hother', -⟩ := access_confirms (by rw [hother q hne, hpc]) hvt
    refine ⟨[(p, .access), (q, .access)], u,
      by rw [run_cons_ok _ ht, run_cons_ok _ hu, run_nil], ?_⟩
    intro hx
    exact hne (hx q p hqu (by rw [hother' p (Ne.symm hne), hpt]))
  | outside => simp [hpc, LockPc.engaged] at hq
  | test => simp [hpc, LockPc.engaged] at hq
  | claim => simp [hpc, LockPc.engaged] at hq

theorem late_claim_collides {s : LockState} (hs : Owned s) {act : Party × LockAct}
    (hc : ¬ ClaimsFree s act) :
    ∃ more u, run spinlockStep s (act :: more) = .ok u ∧ ¬ Exclusive u := by
  obtain ⟨p, act⟩ := act
  simp only [ClaimsFree, not_forall] at hc
  obtain ⟨call, zoneId, hact, hpc, hv⟩ := hc
  subst act
  obtain ⟨q, hq⟩ := hs.taken.mp hv
  have hne : q ≠ p := by
    intro heq
    subst q
    simp [hpc, LockPc.engaged] at hq
  have hstep := access_claims hpc
  obtain ⟨more, u, hrun, hx⟩ := engaged_collide (s := { s.goto p (.confirm call zoneId) with
      lock := { s.lock with lockValue := 1 } }) hne
    (by rw [← hq]; exact congrArg _ (goto_pc_other hne)) (goto_pc_self ..) rfl
  exact ⟨more, u, by rw [run_cons_ok more hstep, hrun], hx⟩

/-- As long as no party writes a lock another one has taken since it was read, at most one of
them holds it; the first such write lets both of them hold it. -/
theorem spinlock_excludes {acts : List (Party × LockAct)} {t : LockState}
    (h : run spinlockStep spinlockStart acts = .ok t)
    (hc : AllSteps spinlockStep ClaimsFree spinlockStart acts) :
    Exclusive t ∧
      ∀ act, ¬ ClaimsFree t act →
        ∃ more u, run spinlockStep t (act :: more) = .ok u ∧ ¬ Exclusive u :=
  ⟨(owned_run hc h).exclusive, fun _ hlate => late_claim_collides (owned_run hc h) hlate⟩

/-- Linux takes the lock while seL4 is about to try it. -/
def takeWhileTried : List (Party × LockAct) :=
  [(.linux, .call .lock 0), (.sel4, .call .trylock 1), (.linux, .access), (.linux, .access),
    (.linux, .access), (.sel4, .access)]

theorem spinlock_excludes_tried :
    ∃ t, run spinlockStep spinlockStart takeWhileTried = .ok t ∧
      t.pc .linux = .holding ∧ t.pc .sel4 = .outside ∧ Exclusive t := by
  have hfree : AllSteps spinlockStep ClaimsFree spinlockStart takeWhileTried := by
    refine allSteps_cons rfl (fun _ _ h _ => by cases h) ?_
    refine allSteps_cons rfl (fun _ _ h _ => by cases h) ?_
    refine allSteps_cons rfl (fun _ _ _ _ => rfl) ?_
    refine allSteps_cons rfl (fun _ _ _ _ => rfl) ?_
    refine allSteps_cons rfl (fun _ _ _ h => by cases h) ?_
    exact allSteps_cons rfl (fun _ _ _ h => by cases h) trivial
  exact ⟨_, rfl, rfl, rfl, (spinlock_excludes rfl hfree).1⟩

/-- Both parties read the lock as free before either writes it. -/
def readBeforeWrite : List (Party × LockAct) :=
  [(.linux, .call .lock 0), (.sel4, .call .lock 1), (.linux, .access), (.sel4, .access),
    (.linux, .access), (.linux, .access), (.sel4, .access), (.sel4, .access)]

theorem read_before_write_shares_lock :
    ¬ ∀ acts t, run spinlockStep spinlockStart acts = .ok t → Exclusive t := by
  intro h
  have hx := h readBeforeWrite _ rfl .linux .sel4 rfl rfl
  cases hx

end BackendProxy.Queue
