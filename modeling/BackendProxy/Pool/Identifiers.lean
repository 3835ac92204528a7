import BackendProxy.Lib.Runs
import BackendProxy.Pool.Deletion
import Mathlib.Data.List.Perm.Basic

namespace BackendProxy.Pool

open Lib Queue

/-! Every session ID is either in the ID queue or belongs to one session of the table. -/

def Engine.sessId (e : Engine) (p : SessPtr) : Option UInt16 :=
  (e.heap p).map BackendSession.backendSessId

def Engine.tableIds (e : Engine) : List UInt16 := e.htable.filterMap e.sessId

structure IdsConserved (e : Engine) : Prop where
  ids : (e.idQueue ++ e.tableIds).Perm ((List.range' 1 1024).map UInt16.ofNat)
  sessNum : e.sessNum = e.htable.length
  live : ∀ p ∈ e.htable, ∃ s, e.heap p = some s
  owned : ∀ p s, e.heap p = some s → p ∈ e.htable

/-- The response to a creation is taken by the TX queue, no passive creation gets as far as its
command, and when there is no memory for a session the ID variable happens to hold zero. -/
def IdsKept (e : Engine) : PoolOp → Prop
  | .createActive _ env => env.response = .ok ∧ (env.malloc = none → env.newSessId = 0)
  | .createPassive para env =>
    ¬ PassiveAdmitted e para env ∧ (env.malloc = none → env.newSessId = 0)
  | .delete _ _ => True

/-- What is kept in addition along a run. -/
structure IdsInvariant (e : Engine) : Prop where
  conserved : IdsConserved e
  fresh : ∀ p, e.nextSess ≤ p → e.heap p = none
  nodup : e.htable.Nodup

theorem zero_not_id : (0 : UInt16) ∉ (List.range' 1 1024).map UInt16.ofNat := by
  intro h
  obtain ⟨i, hi, h0⟩ := List.mem_map.mp h
  have hi := List.mem_range'_1.mp hi
  have := congrArg UInt16.toNat h0
  simp only [UInt16.toNat_ofNat', UInt16.toNat_zero] at this
  omega

section Step

variable {e e' : Engine}

theorem tableIds_congr (ht : e'.htable = e.htable)
    (hs : ∀ p ∈ e.htable, e'.sessId p = e.sessId p) : e'.tableIds = e.tableIds := by
  unfold Engine.tableIds
  rw [ht]
  exact List.filterMap_congr hs

theorem sessId_untied {q : SessPtr}
    (h : (e'.heap q).map BackendSession.untied = (e.heap q).map BackendSession.untied) :
    e'.sessId q = e.sessId q := by
  have := congrArg (Option.map BackendSession.backendSessId) h
  simpa [Engine.sessId, Function.comp_def, BackendSession.untied] using this

theorem IdsInvariant.lt (h : IdsInvariant e) {p : SessPtr} (hp : p ∈ e.htable) :
    p < e.nextSess := by
  obtain ⟨s, hs⟩ := h.conserved.live p hp
  by_contra hge
  rw [h.fresh p (Nat.le_of_not_lt hge)] at hs
  cases hs

/-- An attempt that leaves no session behind and the IDs as they were, up to order. -/
theorem IdsInvariant.undone (h : IdsInvariant e) (ht : e'.htable = e.htable)
    (hn : e'.sessNum = e.sessNum) (hx : e.nextSess ≤ e'.nextSess)
    (hh : e'.heap = Function.update e.heap e.nextSess none) (hq : e'.idQueue.Perm e.idQueue) :
    IdsInvariant e' := by
  have hheap : e'.heap = e.heap := by
    rw [hh]
    exact Function.update_eq_self_iff.mpr (h.fresh _ (Nat.le_refl _)).symm
  have hids : e'.tableIds = e.tableIds :=
    tableIds_congr ht (fun p _ => by simp only [Engine.sessId, hheap])
  refine ⟨⟨?_, ?_, ?_, ?_⟩, ?_, by rw [ht]; exact h.nodup⟩
  · rw [hids]
    exact (hq.append_right _).trans h.conserved.ids
  · rw [hn, ht]
    exact h.conserved.sessNum
  · rw [ht, hheap]
    exact h.conserved.live
  · rw [ht, hheap]
    exact h.conserved.owned
  · intro p hp
    rw [hheap]
    exact h.fresh p (Nat.le_trans hx hp)

/-- Without an ID at its head the queue is empty, since zero is no ID. -/
theorem IdsInvariant.idQueue_tail (h : IdsInvariant e) (h0 : e.idQueue.headD 0 = 0) :
    e.idQueue.tail = e.idQueue := by
  cases hq : e.idQueue with
  | nil => rfl
  | cons id rest =>
    rw [hq] at h0
    cases h0
    have hmem : (0 : UInt16) ∈ e.idQueue ++ e.tableIds := by
      rw [hq]
      exact List.mem_append_left _ List.mem_cons_self
    exact absurd (h.conserved.ids.mem_iff.mp hmem) zero_not_id

/-- The ID of the head of the queue moves to a new session of the table. -/
theorem IdsInvariant.created (h : IdsInvariant e) {s : BackendSession} {rest : List UInt16}
    (hq : e.idQueue = s.backendSessId :: rest) (ht : e'.htable = e.htable ++ [e.nextSess])
    (hn : e'.sessNum = e.sessNum + 1) (hx : e'.nextSess = e.nextSess + 1)
    (hh : e'.heap = Function.update e.heap e.nextSess (some s)) (hq' : e'.idQueue = rest) :
    IdsInvariant e' := by
  have hnot : e.nextSess ∉ e.htable := fun hm => Nat.lt_irrefl _ (h.lt hm)
  have hold : ∀ p, p ∈ e.htable → e'.heap p = e.heap p := by
    intro p hp
    rw [hh]
    exact Function.update_of_ne (Nat.ne_of_lt (h.lt hp)) _ _
  have hids : e'.tableIds = e.tableIds ++ [s.backendSessId] := by
    have hnew : e'.sessId e.nextSess = some s.backendSessId := by simp [Engine.sessId, hh]
    unfold Engine.tableIds
    rw [ht, List.filterMap_append]
    congr 1
    · exact List.filterMap_congr (fun p hp => by simp only [Engine.sessId, hold p hp])
    · simp [hnew]
  refine ⟨⟨?_, ?_, ?_, ?_⟩, ?_, ?_⟩
  · rw [hids, hq', ← List.append_assoc]
    apply (List.perm_append_singleton _ _).trans
    have := h.conserved.ids
    rwa [hq, List.cons_append] at this
  · rw [hn, ht, h.conserved.sessNum]
    simp
  · intro p hp
    rw [ht] at hp
    rcases List.mem_append.mp hp with hp | hp
    · rw [hold p hp]
      exact h.conserved.live p hp
    · cases List.mem_singleton.mp hp
      exact ⟨s, by rw [hh]; exact Function.update_self _ _ _⟩
  · intro p s' hp
    rw [ht]
    by_cases he : p = e.nextSess
    · exact List.mem_append_right _ (List.mem_singleton.mpr he)
    · rw [hh, Function.update_of_ne he] at hp
      exact List.mem_append_left _ (h.conserved.owned p s' hp)
  · intro p hp
    rw [hx] at hp
    rw [hh, Function.update_of_ne (Nat.ne_of_gt hp)]
    exact h.fresh p (Nat.le_of_lt hp)
  · rw [ht, ← List.concat_eq_append]
    exact h.nodup.concat hnot

/-- What is read off an element leaves the list with it. -/
theorem filterMap_erase_perm {α β : Type*} [DecidableEq α] {f g : α → Option β} {xs : List α}
    {x : α} {b : β} (hx : x ∈ xs) (hf : f x = some b) (hrest : ∀ y ∈ xs.erase x, g y = f y) :
    (b :: (xs.erase x).filterMap g).Perm (xs.filterMap f) := by
  have hperm := (List.perm_cons_erase hx).filterMap f
  rw [List.filterMap_cons_some hf] at hperm
  refine List.Perm.trans (List.Perm.cons b ?_) hperm.symm
  exact List.Perm.of_eq (List.filterMap_congr hrest)

/-- The ID of a session leaves the table with it. -/
theorem tableIds_erase {p : SessPtr} {s : BackendSession} (hp : p ∈ e.htable)
    (hs : e.heap p = some s) (ht : e'.htable = e.htable.erase p)
    (hrest : ∀ q ∈ e.htable.erase p, e'.sessId q = e.sessId q) :
    (s.backendSessId :: e'.tableIds).Perm e.tableIds := by
  have hid : e.sessId p = some s.backendSessId := by simp [Engine.sessId, hs]
  unfold Engine.tableIds
  rw [ht]
  exact filterMap_erase_perm hp hid hrest

theorem IdsInvariant.deleted (h : IdsInvariant e) {p : SessPtr} {s : BackendSession}
    (hd : Deleted e p s e') : IdsInvariant e' := by
  have hmem : ∀ q, q ∈ e'.htable ↔ q ≠ p ∧ q ∈ e.htable := by
    intro q
    rw [hd.htable]
    exact h.nodup.mem_erase_iff
  have hids : (s.backendSessId :: e'.tableIds).Perm e.tableIds :=
    tableIds_erase hd.listed hd.live hd.htable fun q hq =>
      sessId_untied (hd.others q (h.nodup.mem_erase_iff.mp hq).1)
  have hlive : ∀ q, q ≠ p → ((∃ s, e'.heap q = some s) ↔ ∃ s, e.heap q = some s) := by
    intro q hq
    have := congrArg Option.isSome (hd.others q hq)
    simp only [Option.isSome_map] at this
    simp only [← Option.isSome_iff_exists, this]
  refine ⟨⟨?_, ?_, ?_, ?_⟩, ?_, ?_⟩
  · rw [hd.idQueue, List.append_assoc]
    exact (hids.append_left _).trans h.conserved.ids
  · rw [hd.sessNum, hd.htable, List.length_erase_of_mem hd.listed, h.conserved.sessNum]
    have := List.length_pos_of_mem hd.listed
    omega
  · intro q hq
    obtain ⟨hne, hin⟩ := (hmem q).mp hq
    exact (hlive q hne).mpr (h.conserved.live q hin)
  · intro q s' hq
    have hne : q ≠ p := by
      intro heq
      subst heq
      rw [hd.freed] at hq
      cases hq
    obtain ⟨s'', hs''⟩ := (hlive q hne).mp ⟨s', hq⟩
    exact (hmem q).mpr ⟨hne, h.conserved.owned q s'' hs''⟩
  · intro q hq
    rw [hd.nextSess] at hq
    have hne : q ≠ p := by
      intro heq
      subst heq
      exact absurd (h.lt hd.listed) (Nat.not_lt.mpr hq)
    by_contra hsome
    obtain ⟨s', hs'⟩ := Option.ne_none_iff_exists'.mp hsome
    obtain ⟨s'', hs''⟩ := (hlive q hne).mp ⟨s', hs'⟩
    rw [h.fresh q hq] at hs''
    cases hs''
  · rw [hd.htable]
    exact h.nodup.erase p

theorem perm_rotate {id : UInt16} {ids rest : List UInt16} (h : ids = id :: rest) :
    (rest ++ [id]).Perm ids :=
  h ▸ List.perm_append_singleton id rest

theorem IdsInvariant.step (h : IdsInvariant e) {op : PoolOp} (hk : IdsKept e op)
    (hs : poolStep e op = .ok e') : IdsInvariant e' := by
  have hheap : e.heap = Function.update e.heap e.nextSess none :=
    (Function.update_eq_self_iff.mpr (h.fresh _ (Nat.le_refl _)).symm).symm
  obtain ⟨st, hs⟩ := poolStep_ok hs
  cases op with
  | createActive para env =>
    obtain ⟨hresp, hjunk⟩ := hk
    cases createActive_ok hs with
    | noMemory hm => exact h.undone rfl rfl (Nat.le_refl _) hheap (by simp [hjunk hm])
    | noId h0 =>
      exact h.undone rfl rfl (Nat.le_succ _) rfl (List.Perm.of_eq (h.idQueue_tail h0))
    | failed hids _ _ => exact h.undone rfl rfl (Nat.le_succ _) rfl (perm_rotate hids)
    | leaked _ _ _ hne => exact absurd hresp hne
    | created _ hids _ _ _ _ _ => exact h.created hids rfl rfl rfl rfl rfl
  | createPassive para env =>
    obtain ⟨hadm, hjunk⟩ := hk
    cases createPassive_ok hs with
    | rejected => exact h
    | noMemory hm => exact h.undone rfl rfl (Nat.le_refl _) hheap (by simp [hjunk hm])
    | noId h0 =>
      exact h.undone rfl rfl (Nat.le_succ _) rfl (List.Perm.of_eq (h.idQueue_tail h0))
    | failed hids _ => exact h.undone rfl rfl (Nat.le_succ _) rfl (perm_rotate hids)
    | completed ha => exact absurd ha hadm
  | delete id env =>
    simp only [PoolOp.perform, searchAndDelete, Prog.bind_ok] at hs
    obtain ⟨found, _, hsearch, hs⟩ := hs
    obtain ⟨-, rfl⟩ := search_ok hsearch
    cases found with
    | none =>
      obtain ⟨-, rfl⟩ := Prog.pure_ok.mp hs
      exact h
    | some p =>
      obtain ⟨s, hd⟩ := delete_ok hs
      exact h.deleted hd

end Step

theorem initPool_ids (devNum : Nat) (config : Nat → HighSpeedNetDevice) (blockSize : Nat) :
    IdsInvariant (highSpeedInitPool devNum config blockSize) := by
  refine ⟨⟨?_, rfl, ?_, ?_⟩, fun _ _ => rfl, List.nodup_nil⟩
  · simp [highSpeedInitPool, Engine.tableIds, fillIdQueue]
  · intro p hp
    cases hp
  · intro p s hp
    cases hp

/-- No ID is lost, duplicated or left with a session outside the table, in any sequence of
operations that meet the condition. -/
theorem sessionIds_conserved (devNum : Nat) (config : Nat → HighSpeedNetDevice)
    (blockSize : Nat) (ops : List PoolOp) (t : Engine)
    (kept : AllSteps poolStep IdsKept (highSpeedInitPool devNum config blockSize) ops)
    (reached : run poolStep (highSpeedInitPool devNum config blockSize) ops = .ok t) :
    IdsConserved t :=
  (run_invariant (fun _ _ _ h hk hs => IdsInvariant.step h hk hs)
    (initPool_ids devNum config blockSize) kept reached).conserved

/-- One active device, and a request for a TCP session on it. -/
def oneDevice : Engine := highSpeedInitPool 1 (fun _ => { active := true, nsId := 3 }) 4096

def tcpRequest : SessMsgPara := { frontendSessId := 7, devId := 0, ipVersion := 4, transProto := 1 }

/-- A session is created and deleted again. -/
theorem sessionIds_conserved_created_deleted :
    ∃ t, run poolStep oneDevice
        [.createActive tcpRequest goodEnv, .delete 1 ⟨true, false, true⟩] = .ok t ∧
      t.idQueue.length = 1024 ∧ IdsConserved t := by
  have hrun : ∃ t, run poolStep oneDevice
      [.createActive tcpRequest goodEnv, .delete 1 ⟨true, false, true⟩] = .ok t ∧
        t.idQueue.length = 1024 := ⟨_, rfl, by decide +kernel⟩
  obtain ⟨t, ht, hlen⟩ := hrun
  refine ⟨t, ht, hlen, sessionIds_conserved 1 _ 4096 _ t ?_ ht⟩
  exact ⟨⟨rfl, fun h => by cases h⟩, fun _ _ => ⟨trivial, fun _ _ => trivial⟩⟩

/-- When the TX queue refuses the response, the freed session stays in the table. -/
theorem refused_response_breaks_ids :
    ¬ ∀ ops t, run poolStep oneDevice ops = .ok t → IdsConserved t := by
  intro h
  have hrun : ∃ t, run poolStep oneDevice
      [.createActive tcpRequest { goodEnv with response := .again }] = .ok t ∧
        0 ∈ t.htable ∧ t.heap 0 = none := ⟨_, rfl, by decide +kernel, rfl⟩
  obtain ⟨t, ht, hmem, hfreed⟩ := hrun
  obtain ⟨s, hs⟩ := (h _ t ht).live 0 hmem
  rw [hfreed] at hs
  cases hs

end BackendProxy.Pool
