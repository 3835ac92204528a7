import BackendProxy.Lib.Runs
import BackendProxy.Pool.Deletion
import Mathlib.Data.List.Perm.Basic

namespace BackendProxy.Pool

open Lib Lib.Tailq Queue

/-! Every session node stays with its device, and is free or serves one session of the table. -/

def devNodes (d : Nat) : List NodePtr := (List.range maxSessNodeNum).map fun i => (d, i)

/-- All queues of a device, for given contents of the queues. -/
def devQueues (C : Nat × NodeQueue → List NodePtr) (d : Nat) : List NodePtr :=
  C (d, .free) ++ C (d, .udp) ++ C (d, .tcp)

/-- The session serves as the user of the node, on the queue of its protocol. -/
def Serves (e : Engine) (n : NodePtr) (k : NodeQueue) (p : SessPtr) : Prop :=
  e.nodes.sess n = some p ∧ p ∈ e.htable ∧ ∃ s, e.heap p = some s ∧ s.sessNode = some n ∧
    NodeQueue.ofProto s.protoType = some k ∧ isLinked s.sessDevLinkState = true

/-- With `C` as the contents of the queues. -/
structure NodesPlaced (e : Engine) (C : Nat × NodeQueue → List NodePtr) : Prop where
  holds : ∀ d k, d < e.devNum → Holds e.nodes.links (d, k) (C (d, k))
  once : ∀ d, d < e.devNum → (devQueues C d).Perm (devNodes d)
  free : ∀ d n, d < e.devNum → n ∈ C (d, .free) → e.nodes.sess n = none
  bound : ∀ d k n, d < e.devNum → k ≠ .free → n ∈ C (d, k) → ∃ p, Serves e n k p

def NodesConserved (e : Engine) : Prop := ∃ C, NodesPlaced e C

/-- The block for a session happens to hold the number of the device the session is created on,
and no passive creation gets as far as its command. -/
def NodesKept (e : Engine) : PoolOp → Prop
  | .createActive para env => ∀ block d, env.malloc = some block →
      selectDev para env = some d → block.devId = d.toNat
  | .createPassive para env => ¬ PassiveAdmitted e para env
  | .delete _ _ => True

/-- A session of the table names the device its node is from. -/
def Tied (e : Engine) (C : Nat × NodeQueue → List NodePtr) (p : SessPtr) (s : BackendSession) :
    Prop :=
  ∃ (d : Nat) (k : NodeQueue) (n : NodePtr), d < e.devNum ∧ d < maxHsDevNum ∧ s.devId = d ∧
    NodeQueue.ofProto s.protoType = some k ∧ n ∈ C (d, k) ∧ s.sessNode = some n ∧
    isLinked s.sessDevLinkState = true ∧ e.nodes.sess n = some p

/-- The queues are intact, and every session of the table has its node. -/
structure Stocked (e : Engine) (C : Nat × NodeQueue → List NodePtr) : Prop where
  shelves : HoldsAll e.nodes.links C (fun h => h.1 < e.devNum)
  free : ∀ d n, d < e.devNum → n ∈ C (d, .free) → e.nodes.sess n = none
  tied : ∀ p s, p ∈ e.htable → e.heap p = some s → Tied e C p s
  old : ∀ p ∈ e.htable, p < e.nextSess
  fresh : ∀ p, e.nextSess ≤ p → e.heap p = none
  nodup : e.htable.Nodup

structure NodesInvariant (e : Engine) (C : Nat × NodeQueue → List NodePtr) : Prop where
  shelves : HoldsAll e.nodes.links C (fun h => h.1 < e.devNum)
  once : ∀ d, d < e.devNum → (devQueues C d).Perm (devNodes d)
  free : ∀ d n, d < e.devNum → n ∈ C (d, .free) → e.nodes.sess n = none
  bound : ∀ d k n, d < e.devNum → k ≠ .free → n ∈ C (d, k) → ∃ p, Serves e n k p
  tied : ∀ p s, p ∈ e.htable → e.heap p = some s → Tied e C p s
  old : ∀ p ∈ e.htable, p < e.nextSess
  fresh : ∀ p, e.nextSess ≤ p → e.heap p = none
  nodup : e.htable.Nodup

theorem NodesInvariant.placed {e : Engine} {C : Nat × NodeQueue → List NodePtr}
    (h : NodesInvariant e C) : NodesPlaced e C :=
  ⟨fun d k hd => h.shelves.holds (d, k) hd, h.once, h.free, h.bound⟩

theorem NodesInvariant.stocked {e : Engine} {C : Nat × NodeQueue → List NodePtr}
    (h : NodesInvariant e C) : Stocked e C :=
  ⟨h.shelves, h.free, h.tied, h.old, h.fresh, h.nodup⟩

theorem Stocked.conserved {e : Engine} {C : Nat × NodeQueue → List NodePtr} (h : Stocked e C)
    (once : ∀ d, d < e.devNum → (devQueues C d).Perm (devNodes d))
    (bound : ∀ d k n, d < e.devNum → k ≠ .free → n ∈ C (d, k) → ∃ p, Serves e n k p) :
    NodesInvariant e C :=
  ⟨h.shelves, once, h.free, bound, h.tied, h.old, h.fresh, h.nodup⟩

/-! Initialisation. -/

section Init

def freshShelves : Nat × NodeQueue → List NodePtr
  | (d, .free) => devNodes d
  | _ => []

/-- The first `j` nodes of device `d` are in its free queue. -/
theorem insertNodes_holds {L : Links (Nat × NodeQueue) NodePtr}
    {C : Nat × NodeQueue → List NodePtr} {on : Nat × NodeQueue → Prop} {d : Nat}
    (hL : HoldsAll L C on) (hon : on (d, .free)) (hC : C (d, .free) = [])
    (hd : ∀ h i, on h → (d, i) ∉ C h) (j : Nat) :
    ∃ M, (List.range j).foldlM (fun L i => L.insertTail (d, .free) (d, i)) L = some M ∧
      HoldsAll M (Function.update C (d, .free) ((List.range j).map fun i => (d, i))) on := by
  induction j with
  | zero => exact ⟨L, rfl, by rwa [List.range_zero, List.map_nil, ← hC, Function.update_eq_self]⟩
  | succ j ih =>
    obtain ⟨M, hM, hall⟩ := ih
    have hnew : ∀ h', on h' →
        (d, j) ∉ Function.update C (d, .free) ((List.range j).map fun i => (d, i)) h' := by
      intro h' hon' hm
      by_cases he : h' = (d, .free)
      · subst he
        rw [Function.update_self] at hm
        obtain ⟨i, hi, hij⟩ := List.mem_map.mp hm
        cases hij
        exact absurd (List.mem_range.mp hi) (Nat.lt_irrefl _)
      · rw [Function.update_of_ne he] at hm
        exact hd h' j hon' hm
    obtain ⟨M', hM', -⟩ := (hall.holds _ hon).insertTail (hnew _ hon)
    refine ⟨M', ?_, ?_⟩
    · rw [List.range_succ, List.foldlM_append, hM]
      simp [hM']
    · have := hall.insertTail hon hnew hM'
      simpa [List.range_succ] using this

theorem engineInitHsNetDev_holds (devNum : Nat) :
    ∃ L, engineInitHsNetDev devNum = some L ∧
      HoldsAll L freshShelves (fun h => h.1 < devNum) := by
  induction devNum with
  | zero =>
    refine ⟨Links.zero, rfl, (holdsAll_zero (C := freshShelves)).congr (fun h => ?_) ?_⟩
    · simp
    · intro h _
      rfl
  | succ m ih =>
    obtain ⟨L, hL, hall⟩ := ih
    have h₁ := hall.init (h := (m, NodeQueue.tcp)) (by simp)
    have h₂ := h₁.init (h := (m, NodeQueue.udp)) (by simp)
    have h₃ := h₂.init (h := (m, NodeQueue.free)) (by simp)
    have hempty : ∀ h i, (h = (m, NodeQueue.free) ∨ h = (m, .udp) ∨ h = (m, .tcp) ∨ h.1 < m) →
        (m, i) ∉ Function.update (Function.update (Function.update freshShelves (m, .tcp) [])
          (m, .udp) []) (m, .free) [] h := by
      rintro ⟨d, k⟩ i - hm
      by_cases hd : d = m
      · subst hd
        cases k <;> simp at hm
      · cases k <;> simp [hd, freshShelves, devNodes] at hm
    obtain ⟨M, hM, hall'⟩ := insertNodes_holds h₃ (Or.inl rfl) (Function.update_self _ _ _)
      hempty maxSessNodeNum
    refine ⟨M, ?_, hall'.congr ?_ ?_⟩
    · unfold engineInitHsNetDev at hL ⊢
      rw [List.range_succ, List.foldlM_append, hL]
      simpa [initDevice] using hM
    · intro hx
      obtain ⟨d, k⟩ := hx
      cases k <;> simp <;> omega
    · rintro ⟨d, k⟩ hon
      by_cases hd : d = m
      · subst hd
        cases k <;> simp [freshShelves, devNodes]
      · cases k <;> simp [freshShelves, hd]

theorem initPool_nodes (devNum : Nat) (config : Nat → HighSpeedNetDevice) (blockSize : Nat) :
    NodesInvariant (highSpeedInitPool devNum config blockSize) freshShelves := by
  obtain ⟨L, hL, hall⟩ := engineInitHsNetDev_holds devNum
  refine ⟨?_, ?_, fun _ _ _ _ => rfl, ?_, ?_, ?_, fun _ _ => rfl, List.nodup_nil⟩
  · simp only [highSpeedInitPool, hL, Option.getD_some]
    exact hall
  · intro d _
    simp [devQueues, freshShelves]
  · intro d k n _ hk hn
    cases k with
    | free => exact absurd rfl hk
    | udp => cases hn
    | tcp => cases hn
  · intro p s hp
    cases hp
  · intro p hp
    cases hp

end Init

/-! Nodes that move between the queues of a device. -/

section Shelves

variable {N N' : NodePool} {C : Nat × NodeQueue → List NodePtr} {devNum d : Nat} {n : NodePtr}

/-- A node found at the head of a free queue. -/
theorem first_shelved (hall : HoldsAll N.links C (fun h => h.1 < devNum))
    (hf : N.links.first (d, .free) = some n) :
    d < devNum ∧ ∃ rest, C (d, .free) = [] ++ n :: rest := by
  have hd : d < devNum := by
    by_contra hge
    rw [hall.unused (d, .free) hge] at hf
    cases hf
  refine ⟨hd, ?_⟩
  rw [(hall.holds (d, .free) hd).first] at hf
  exact List.head?_eq_some_iff.mp hf

/-- A move within a device leaves it the same nodes. -/
theorem devQueues_moved {j k : NodeQueue} {a b : List NodePtr} (hC : C (d, j) = a ++ n :: b)
    (d' : Nat) : (devQueues (moved C (d, j) (a ++ b) (d, k) n) d').Perm (devQueues C d') := by
  by_cases hd : d' = d
  · subst hd
    rw [List.perm_iff_count]
    intro x
    cases j with
    | free | udp | tcp =>
      cases k with
      | free | udp | tcp =>
        simp only [devQueues, moved, hC, List.count_append, ne_eq, Prod.mk.injEq, true_and,
          reduceCtorEq, not_false_eq_true, Function.update_of_ne, Function.update_self,
          List.count_cons, List.count_nil]
        omega
  · simp [devQueues, moved, hd]

/-- A failed attempt rotates a free queue at most. -/
theorem Recycled.shelved (hr : Recycled N N') (hall : HoldsAll N.links C (fun h => h.1 < devNum))
    (hfree : ∀ d n, d < devNum → n ∈ C (d, .free) → N.sess n = none) :
    ∃ C', HoldsAll N'.links C' (fun h => h.1 < devNum) ∧ N'.sess = N.sess ∧
      (∀ q, (C' q).Perm (C q)) ∧ ∀ q, q.2 ≠ .free → C' q = C q := by
  cases hr with
  | untouched => exact ⟨C, hall, rfl, fun _ => .refl _, fun _ _ => rfl⟩
  | @returned d n L₁ L₂ first take give =>
    obtain ⟨hd, rest, hC⟩ := first_shelved hall first
    refine ⟨_, hall.move hd hd hC take give, ?_, ?_, ?_⟩
    · exact Function.update_eq_self_iff.mpr (hfree d n hd (by rw [hC]; simp)).symm
    · intro q
      by_cases hq : q = (d, .free)
      · subst hq
        simp only [moved, Function.update_self, List.nil_append, hC]
        exact List.perm_append_singleton n rest
      · simp [moved, hq]
    · intro q hq
      have hne : q ≠ (d, .free) := fun he => hq (by rw [he])
      simp [moved, hne]
  | @withdrawn d k n L₁ L₂ L₃ L₄ first take proto insert remove give =>
    obtain ⟨hd, rest, hC⟩ := first_shelved hall first
    have hne : ((d, .free) : Nat × NodeQueue) ≠ (d, k) :=
      fun he => proto (congrArg Prod.snd he).symm
    have h₁ := hall.move (k := (d, k)) hd hd hC take insert
    have hlast : moved C (d, .free) ([] ++ rest) (d, k) n (d, k) = C (d, k) ++ n :: [] := by
      simp [moved, Ne.symm hne]
    refine ⟨_, h₁.move (k := (d, .free)) hd hd hlast remove give, ?_, ?_, ?_⟩
    · exact Function.update_eq_self_iff.mpr (hfree d n hd (by rw [hC]; simp)).symm
    · intro q
      by_cases hq : q = (d, .free)
      · subst hq
        simp only [moved, Function.update_self, Function.update_of_ne hne, List.nil_append, hC]
        exact List.perm_append_singleton n rest
      · by_cases hqk : q = (d, k)
        · subst hqk
          simp [moved, hq]
        · simp [moved, hq, hqk]
    · intro q hq
      have hqf : q ≠ (d, .free) := fun he => hq (by rw [he])
      by_cases hqk : q = (d, k)
      · subst hqk
        simp [moved, hqf]
      · simp [moved, hqf, hqk]

/-- A node that serves a new session goes to the queue of its protocol. -/
theorem Bound.shelved {k : NodeQueue} {p : SessPtr} (hb : Bound N d k n p N')
    (hall : HoldsAll N.links C (fun h => h.1 < devNum)) :
    d < devNum ∧ n ∈ C (d, .free) ∧ ∃ C', HoldsAll N'.links C' (fun h => h.1 < devNum) ∧
      (∀ q x, q.1 < devNum → (x ∈ C' q ↔ (x = n ∧ q = (d, k)) ∨ (x ≠ n ∧ x ∈ C q))) ∧
      ∀ d', (devQueues C' d').Perm (devQueues C d') := by
  obtain ⟨hd, rest, hC⟩ := first_shelved hall hb.first
  obtain ⟨L, htake, hput⟩ := hb.moved
  exact ⟨hd, by rw [hC]; simp, _, hall.move (k := (d, k)) hd hd hC htake hput,
    fun q x hq => hall.mem_moved (h := (d, .free)) hd hC hq, devQueues_moved hC⟩

/-- A node that is given back goes to the free queue. -/
theorem given_shelved {k : NodeQueue} {L L' : Links (Nat × NodeQueue) NodePtr}
    (hall : HoldsAll N.links C (fun h => h.1 < devNum)) (hd : d < devNum) (hin : n ∈ C (d, k))
    (htake : N.links.remove (d, k) n = some L) (hput : L.insertTail (d, .free) n = some L') :
    ∃ C', HoldsAll L' C' (fun h => h.1 < devNum) ∧
      (∀ q x, q.1 < devNum → (x ∈ C' q ↔ (x = n ∧ q = (d, .free)) ∨ (x ≠ n ∧ x ∈ C q))) ∧
      ∀ d', (devQueues C' d').Perm (devQueues C d') := by
  obtain ⟨a, b, hC⟩ := List.append_of_mem hin
  exact ⟨_, hall.move (h := (d, k)) (k := (d, .free)) hd hd hC htake hput,
    fun q x hq => hall.mem_moved (h := (d, k)) hd hC hq, devQueues_moved hC⟩

end Shelves

section Step

variable {e e' : Engine} {C : Nat × NodeQueue → List NodePtr}

/-- An attempt that leaves no session behind. -/
theorem Stocked.undone (h : Stocked e C) (hr : Recycled e.nodes e'.nodes)
    (hheap : e'.heap = Function.update e.heap e.nextSess none)
    (ht : e'.htable = e.htable ∨ e'.htable = e.htable ++ [e.nextSess])
    (hx : e.nextSess < e'.nextSess) (hn : e'.devNum = e.devNum) :
    ∃ C', Stocked e' C' ∧ e'.heap = e.heap ∧ e'.nodes.sess = e.nodes.sess ∧
      ∀ q, (C' q).Perm (C q) := by
  obtain ⟨C', hall, hsess, hperm, -⟩ := hr.shelved h.shelves h.free
  have hheap : e'.heap = e.heap := by
    rw [hheap]
    exact Function.update_eq_self_iff.mpr (h.fresh _ (Nat.le_refl _)).symm
  have hmem : ∀ q n, n ∈ C' q ↔ n ∈ C q := fun q n => (hperm q).mem_iff
  have hsup : ∀ p ∈ e'.htable, p = e.nextSess ∨ p ∈ e.htable := by
    intro p hp
    rcases ht with ht | ht <;> rw [ht] at hp
    · exact Or.inr hp
    · rcases List.mem_append.mp hp with hp | hp
      · exact Or.inr hp
      · exact Or.inl (List.mem_singleton.mp hp)
  refine ⟨C', ⟨by rw [hn]; exact hall, ?_, ?_, ?_, ?_, ?_⟩, hheap, hsess, hperm⟩
  · intro d n hd hin
    rw [hsess]
    exact h.free d n (hn ▸ hd) ((hmem _ n).mp hin)
  · intro p s hp hs
    rw [hheap] at hs
    rcases hsup p hp with rfl | hp
    · rw [h.fresh _ (Nat.le_refl _)] at hs
      cases hs
    · obtain ⟨d, k, n, hd, hmax, hdev, hk, hin, hnode, hlink, hns⟩ := h.tied p s hp hs
      exact ⟨d, k, n, hn ▸ hd, hmax, hdev, hk, (hmem _ n).mpr hin, hnode, hlink,
        by rw [hsess]; exact hns⟩
  · intro p hp
    rcases hsup p hp with rfl | hp
    · exact hx
    · exact Nat.lt_trans (h.old p hp) hx
  · intro p hp
    rw [hheap]
    exact h.fresh p (Nat.le_trans (Nat.le_of_lt hx) hp)
  · rcases ht with ht | ht <;> rw [ht]
    · exact h.nodup
    · rw [← List.concat_eq_append]
      exact h.nodup.concat (fun hin => Nat.lt_irrefl _ (h.old _ hin))

/-- A new session takes a node. Only one that joins the table has to name its device. -/
theorem Stocked.bound (h : Stocked e C) {d : Nat} {k : NodeQueue} {n : NodePtr}
    {s : BackendSession} (hb : Bound e.nodes d k n e.nextSess e'.nodes) (hmax : d < maxHsDevNum)
    (hk : NodeQueue.ofProto s.protoType = some k) (hnode : s.sessNode = some n)
    (hlink : isLinked s.sessDevLinkState = true)
    (hheap : e'.heap = Function.update e.heap e.nextSess (some s))
    (ht : e'.htable = e.htable ∨ e'.htable = e.htable ++ [e.nextSess] ∧ s.devId = d)
    (hx : e'.nextSess = e.nextSess + 1) (hn : e'.devNum = e.devNum) :
    ∃ C', Stocked e' C' ∧
      (∀ q x, q.1 < e.devNum → (x ∈ C' q ↔ (x = n ∧ q = (d, k)) ∨ (x ≠ n ∧ x ∈ C q))) ∧
      ∀ d', (devQueues C' d').Perm (devQueues C d') := by
  obtain ⟨hd, hin, C', hall, hmem, hperm⟩ := hb.shelved h.shelves
  have hfree : e.nodes.sess n = none := h.free d n hd hin
  have hold : ∀ p ∈ e.htable, e'.heap p = e.heap p := by
    intro p hp
    rw [hheap]
    exact Function.update_of_ne (Nat.ne_of_lt (h.old p hp)) _ _
  have hnew : e'.heap e.nextSess = some s := by
    rw [hheap]
    exact Function.update_self _ _ _
  have hsess : ∀ m, m ≠ n → e'.nodes.sess m = e.nodes.sess m := by
    intro m hm
    rw [hb.sess]
    exact Function.update_of_ne hm _ _
  have hsup : ∀ p ∈ e'.htable, p ∈ e.htable ∨ p = e.nextSess ∧ s.devId = d := by
    intro p hp
    rcases ht with ht | ⟨ht, hdev⟩ <;> rw [ht] at hp
    · exact .inl hp
    · rcases List.mem_append.mp hp with hp | hp
      · exact .inl hp
      · exact .inr ⟨List.mem_singleton.mp hp, hdev⟩
  refine ⟨C', ⟨by rw [hn]; exact hall, ?_, ?_, ?_, ?_, ?_⟩, hmem, hperm⟩
  · intro d' m hd' hm
    rw [hn] at hd'
    rcases (hmem (d', .free) m hd').mp hm with ⟨-, hq⟩ | ⟨hmn, hm⟩
    · exact absurd (congrArg Prod.snd hq).symm hb.proto
    · rw [hsess m hmn]
      exact h.free d' m hd' hm
  · intro p s' hp hs'
    rcases hsup p hp with hp | ⟨rfl, hdev⟩
    · rw [hold p hp] at hs'
      obtain ⟨d', k', m, hd', hmax', hdev', hk', hin', hnode', hlink', hns⟩ := h.tied p s' hp hs'
      have hmn : m ≠ n := by
        intro heq
        subst heq
        rw [hfree] at hns
        cases hns
      exact ⟨d', k', m, hn ▸ hd', hmax', hdev', hk',
        (hmem (d', k') m hd').mpr (.inr ⟨hmn, hin'⟩), hnode', hlink',
        by rw [hsess m hmn]; exact hns⟩
    · cases hnew.symm.trans hs'
      refine ⟨d, k, n, hn ▸ hd, hmax, hdev, hk, (hmem (d, k) n hd).mpr (.inl ⟨rfl, rfl⟩), hnode,
        hlink, ?_⟩
      rw [hb.sess]
      exact Function.update_self _ _ _
  · intro p hp
    rw [hx]
    rcases hsup p hp with hp | ⟨rfl, -⟩
    · exact Nat.lt_succ_of_lt (h.old p hp)
    · exact Nat.lt_succ_self _
  · intro p hp
    rw [hx] at hp
    rw [hheap, Function.update_of_ne (Nat.ne_of_gt hp)]
    exact h.fresh p (Nat.le_of_lt hp)
  · rcases ht with ht | ⟨ht, -⟩ <;> rw [ht]
    · exact h.nodup
    · rw [← List.concat_eq_append]
      exact h.nodup.concat (fun hin => Nat.lt_irrefl _ (h.old _ hin))

/-- A session gives its node back to the device it came from. -/
theorem Stocked.deleted (h : Stocked e C) {p : SessPtr} {s : BackendSession}
    (hdel : Deleted e p s e') :
    ∃ C' d n, Stocked e' C' ∧ s.sessNode = some n ∧
      (∀ q x, q.1 < e.devNum → (x ∈ C' q ↔ (x = n ∧ q = (d, .free)) ∨ (x ≠ n ∧ x ∈ C q))) ∧
      (∀ d', (devQueues C' d').Perm (devQueues C d')) ∧
      e'.nodes.sess = Function.update e.nodes.sess n none ∧ ∀ q, q ≠ p → e'.heap q = e.heap q := by
  obtain ⟨d, k, n, hd, hmax, hdev, hk, hin, hnode, hlink, hns⟩ := h.tied p s hdel.listed hdel.live
  have hd₀ : s.devId.toNat = d := by omega
  obtain ⟨hsame, L, htake, hput, hsess⟩ :=
    hdel.given n k (by omega) (by omega) hlink hnode hns hk
  rw [hd₀] at htake hput
  obtain ⟨C', hall, hmem, hperm⟩ := given_shelved h.shelves hd hin htake hput
  have hsess' : ∀ m, m ≠ n → e'.nodes.sess m = e.nodes.sess m := by
    intro m hm
    rw [hsess]
    exact Function.update_of_ne hm _ _
  have hlisted : ∀ q, q ∈ e'.htable ↔ q ≠ p ∧ q ∈ e.htable := by
    intro q
    rw [hdel.htable]
    exact h.nodup.mem_erase_iff
  have hn := hdel.devNum
  refine ⟨C', d, n, ⟨by rw [hn]; exact hall, ?_, ?_, ?_, ?_, ?_⟩, hnode, hmem, hperm, hsess, hsame⟩
  · intro d' m hd' hm
    rw [hn] at hd'
    rcases (hmem (d', .free) m hd').mp hm with ⟨rfl, -⟩ | ⟨hmn, hm⟩
    · rw [hsess]
      exact Function.update_self _ _ _
    · rw [hsess' m hmn]
      exact h.free d' m hd' hm
  · intro q s' hq hs'
    obtain ⟨hqp, hq⟩ := (hlisted q).mp hq
    rw [hsame q hqp] at hs'
    obtain ⟨d', k₂, m, hd', hmax', hdev', hk₂, hin', hnode', hlink', hns'⟩ := h.tied q s' hq hs'
    have hmn : m ≠ n := by
      intro heq
      subst heq
      exact hqp (Option.some.inj (hns'.symm.trans hns))
    exact ⟨d', k₂, m, hn ▸ hd', hmax', hdev', hk₂, (hmem (d', k₂) m hd').mpr (.inr ⟨hmn, hin'⟩),
      hnode', hlink', by rw [hsess' m hmn]; exact hns'⟩
  · intro q hq
    rw [hdel.nextSess]
    exact h.old q ((hlisted q).mp hq).2
  · intro q hq
    rw [hdel.nextSess] at hq
    have hqp : q ≠ p := by
      intro heq
      subst heq
      exact absurd (h.old q hdel.listed) (Nat.not_lt.mpr hq)
    rw [hsame q hqp]
    exact h.fresh q hq
  · rw [hdel.htable]
    exact h.nodup.erase p

theorem NodesInvariant.undone (h : NodesInvariant e C) (hr : Recycled e.nodes e'.nodes)
    (hheap : e'.heap = Function.update e.heap e.nextSess none)
    (ht : e'.htable = e.htable ∨ e'.htable = e.htable ++ [e.nextSess])
    (hx : e.nextSess < e'.nextSess) (hn : e'.devNum = e.devNum) : ∃ C', NodesInvariant e' C' := by
  obtain ⟨C', hstock, hheap, hsess, hperm⟩ := h.stocked.undone hr hheap ht hx hn
  refine ⟨C', hstock.conserved ?_ ?_⟩
  · intro d hd
    rw [hn] at hd
    exact (((hperm _).append (hperm _)).append (hperm _)).trans (h.once d hd)
  · intro d k n hd hk hin
    obtain ⟨p, hs, hp, s, hrest⟩ := h.bound d k n (hn ▸ hd) hk ((hperm _).mem_iff.mp hin)
    refine ⟨p, by rw [hsess]; exact hs, ?_, s, by rw [hheap]; exact hrest⟩
    rcases ht with ht | ht <;> rw [ht]
    · exact hp
    · exact List.mem_append_left _ hp

/-- A new session takes a node of the device its block names. -/
theorem NodesInvariant.created (h : NodesInvariant e C) {d : Nat} {k : NodeQueue} {n : NodePtr}
    {s : BackendSession} (hb : Bound e.nodes d k n e.nextSess e'.nodes)
    (hmax : d < maxHsDevNum) (hdev : s.devId = d) (hk : NodeQueue.ofProto s.protoType = some k)
    (hnode : s.sessNode = some n) (hlink : isLinked s.sessDevLinkState = true)
    (hheap : e'.heap = Function.update e.heap e.nextSess (some s))
    (ht : e'.htable = e.htable ++ [e.nextSess]) (hx : e'.nextSess = e.nextSess + 1)
    (hn : e'.devNum = e.devNum) : ∃ C', NodesInvariant e' C' := by
  obtain ⟨C', hstock, hmem, hperm⟩ :=
    h.stocked.bound hb hmax hk hnode hlink hheap (.inr ⟨ht, hdev⟩) hx hn
  refine ⟨C', hstock.conserved ?_ ?_⟩
  · intro d' hd'
    exact (hperm d').trans (h.once d' (hn ▸ hd'))
  · intro d' k' m hd' hk' hm
    rw [hn] at hd'
    unfold Serves
    rw [hb.sess, hheap, ht]
    rcases (hmem (d', k') m hd').mp hm with ⟨rfl, hq⟩ | ⟨hmn, hm⟩
    · cases hq
      exact ⟨e.nextSess, Function.update_self _ _ _, by simp, s, Function.update_self _ _ _, hnode,
        hk, hlink⟩
    · obtain ⟨p, hps, hp, s', hs', hrest⟩ := h.bound d' k' m hd' hk' hm
      refine ⟨p, ?_, List.mem_append_left _ hp, s', ?_, hrest⟩
      · rw [Function.update_of_ne hmn]
        exact hps
      · rw [Function.update_of_ne (Nat.ne_of_lt (h.old p hp))]
        exact hs'

theorem NodesInvariant.deleted (h : NodesInvariant e C) {p : SessPtr} {s : BackendSession}
    (hdel : Deleted e p s e') : ∃ C', NodesInvariant e' C' := by
  obtain ⟨C', d, n, hstock, hnode, hmem, hperm, hsess, hsame⟩ := h.stocked.deleted hdel
  have hn := hdel.devNum
  refine ⟨C', hstock.conserved ?_ ?_⟩
  · intro d' hd'
    exact (hperm d').trans (h.once d' (hn ▸ hd'))
  · intro d' k₂ m hd' hk₂ hm
    rw [hn] at hd'
    rcases (hmem (d', k₂) m hd').mp hm with ⟨-, hq⟩ | ⟨hmn, hm⟩
    · exact absurd (congrArg Prod.snd hq) hk₂
    obtain ⟨q, hqs, hq, s', hs', hrest⟩ := h.bound d' k₂ m hd' hk₂ hm
    have hqp : q ≠ p := by
      intro heq
      subst heq
      cases hdel.live.symm.trans hs'
      exact hmn (Option.some.inj (hrest.1.symm.trans hnode))
    refine ⟨q, ?_, ?_, s', by rw [hsame q hqp]; exact hs', hrest⟩
    · rw [hsess, Function.update_of_ne hmn]
      exact hqs
    · rw [hdel.htable]
      exact h.nodup.mem_erase_iff.mpr ⟨hqp, hq⟩

theorem NodesInvariant.step (h : NodesInvariant e C) {op : PoolOp} (hkept : NodesKept e op)
    (hs : poolStep e op = .ok e') : ∃ C', NodesInvariant e' C' := by
  obtain ⟨st, hs⟩ := poolStep_ok hs
  cases op with
  | createActive para env =>
    cases createActive_ok hs with
    | noMemory _ => exact ⟨C, h.1, h.2, h.3, h.4, h.5, h.6, h.7, h.8⟩
    | noId _ => exact h.undone .untouched rfl (Or.inl rfl) (Nat.lt_succ_self _) rfl
    | failed _ hr _ => exact h.undone hr rfl (Or.inl rfl) (Nat.lt_succ_self _) rfl
    | leaked _ hr _ _ => exact h.undone hr rfl (Or.inr rfl) (Nat.lt_succ_self _) rfl
    | created hm _ hsel hmax hk hb _ =>
      have hdev := hkept _ _ hm hsel
      exact h.created (s := activeSession _ _ _ _ _ _) hb hmax hdev hk rfl (isLinked_set _) rfl
        rfl rfl rfl
  | createPassive para env =>
    cases createPassive_ok hs with
    | rejected => exact ⟨C, h⟩
    | noMemory _ => exact ⟨C, h.1, h.2, h.3, h.4, h.5, h.6, h.7, h.8⟩
    | noId _ => exact h.undone .untouched rfl (Or.inl rfl) (Nat.lt_succ_self _) rfl
    | failed _ hr => exact h.undone hr rfl (Or.inl rfl) (Nat.lt_succ_self _) rfl
    | completed ha => exact absurd ha hkept
  | delete id env =>
    simp only [PoolOp.perform, searchAndDelete, Prog.bind_ok] at hs
    obtain ⟨found, _, hsearch, hs⟩ := hs
    obtain ⟨-, rfl⟩ := search_ok hsearch
    cases found with
    | none =>
      obtain ⟨-, rfl⟩ := Prog.pure_ok.mp hs
      exact ⟨C, h⟩
    | some p =>
      obtain ⟨s, hd⟩ := delete_ok hs
      exact h.deleted hd

end Step

/-- No node is lost or changes its device, in any sequence of operations that meet the
condition. -/
theorem sessionNodes_conserved (devNum : Nat) (config : Nat → HighSpeedNetDevice)
    (blockSize : Nat) (ops : List PoolOp) (t : Engine)
    (kept : AllSteps poolStep NodesKept (highSpeedInitPool devNum config blockSize) ops)
    (reached : run poolStep (highSpeedInitPool devNum config blockSize) ops = .ok t) :
    NodesConserved t := by
  have hinv := run_invariant (I := fun e => ∃ C, NodesInvariant e C)
    (fun _ _ _ h hk hs => by
      obtain ⟨C, h⟩ := h
      exact h.step hk hs)
    ⟨_, initPool_nodes devNum config blockSize⟩ kept reached
  obtain ⟨C, h⟩ := hinv
  exact ⟨C, h.placed⟩

/-- Two active devices. -/
def twoDevices : Engine := highSpeedInitPool 2 (fun _ => { active := true, nsId := 3 }) 4096

/-- A session on the second device, whose block holds the number of that device. -/
theorem sessionNodes_conserved_second :
    ∃ t, run poolStep twoDevices
        [.createActive ⟨7, 1, 4, 1⟩
            { goodEnv with malloc := some { zeroSession with devId := 1 } },
          .delete 1 ⟨true, false, true⟩] = .ok t ∧
      t.nodes.links.first (1, .free) = some (1, 1) ∧ NodesConserved t := by
  have hrun : ∃ t, run poolStep twoDevices
      [.createActive ⟨7, 1, 4, 1⟩
          { goodEnv with malloc := some { zeroSession with devId := 1 } },
        .delete 1 ⟨true, false, true⟩] = .ok t ∧
      t.nodes.links.first (1, .free) = some (1, 1) := ⟨_, rfl, by decide +kernel⟩
  obtain ⟨t, ht, hfirst⟩ := hrun
  refine ⟨t, ht, hfirst, sessionNodes_conserved 2 _ 4096 _ t ?_ ht⟩
  refine ⟨?_, fun _ _ => ⟨trivial, fun _ _ => trivial⟩⟩
  intro block d hm hsel
  cases hm
  cases hsel
  rfl

/-- The device number is never stored in an active session: over a zeroed block, deleting a
session of the second device gives its node to the first. -/
theorem active_session_changes_device :
    ¬ ∀ ops t, run poolStep twoDevices ops = .ok t → NodesConserved t := by
  intro h
  have hrun : ∃ t, run poolStep twoDevices
      [.createActive ⟨7, 1, 4, 1⟩ goodEnv, .delete 1 ⟨true, false, true⟩] = .ok t ∧
      t.devNum = 2 ∧ t.nodes.links.last (0, .free) = some (.next (1, 0)) :=
    ⟨_, rfl, rfl, by decide +kernel⟩
  obtain ⟨t, ht, hdev, hlast⟩ := hrun
  obtain ⟨C, hC⟩ := h _ t ht
  have hd : 0 < t.devNum := by omega
  obtain ⟨u, hu, hpath, -⟩ := (hC.holds 0 .free hd).path
  cases hlast.symm.trans hu
  have hmem : (1, 0) ∈ C (0, .free) := by
    rcases hpath.end_owned with hs | ⟨m, hm, hs⟩
    · cases hs
    · cases hs
      exact hm
  have hdev0 := (hC.once 0 hd).mem_iff.mp
    (List.mem_append_left _ (List.mem_append_left _ hmem))
  simp [devNodes] at hdev0

end BackendProxy.Pool
