import BackendProxy.Device.NetDevices

namespace BackendProxy.Device.NetDevices

open Lib Lib.Tailq Queue Pool

/-! The release of nodes. -/

section Release

variable {s : Setup} {C : Nat × NodeQueue → List NodePtr} {on : Nat × NodeQueue → Prop} {d : Nat}

theorem releaseNodes_run {ns : List NodePtr} (fuel : Nat) (h : HoldsAll s.nodes.links C on)
    (hon : on (d, .free)) (hC : C (d, .free) = ns) (hfuel : ns.length ≤ fuel) :
    ∃ links, releaseNodes d fuel ns.head? s =
        .ok ((), { s with nodes := { s.nodes with links }, freed := s.freed ++ ns }) ∧
      HoldsAll links (Function.update C (d, .free) []) on := by
  induction ns generalizing fuel s C with
  | nil =>
    refine ⟨s.nodes.links, ?_, ?_⟩
    · rw [List.append_nil]
      cases fuel <;> rfl
    · rwa [← hC, Function.update_eq_self]
  | cons n rest ih =>
    cases fuel with
    | zero => simp at hfuel
    | succ fuel =>
      have hnext : s.nodes.links.next n = rest.head? := Holds.next (a := []) (hC ▸ h.holds _ hon)
      obtain ⟨L, hL, -⟩ := Holds.remove (a := []) (hC ▸ h.holds _ hon)
      have hrest := h.remove (a := []) hon hC hL
      let t : Setup := { s with nodes := { s.nodes with links := L }, freed := s.freed ++ [n] }
      obtain ⟨links, hrun, hall⟩ := ih (s := t) fuel hrest (Function.update_self _ _ _)
        (Nat.le_of_succ_le_succ hfuel)
      refine ⟨links, ?_, by rwa [Function.update_idem] at hall⟩
      have hstep : releaseNodes d (fuel + 1) (some n) s =
          releaseNodes d fuel (s.nodes.links.next n) t :=
        (Prog.bind_of_ok (a := s) (t := s) rfl).trans
          (Prog.bind_of_ok (Prog.ofOption_ok.mpr ⟨hL, rfl⟩))
      rw [List.head?_cons, hstep, hnext, hrun]
      simp [t]

theorem emptyFreeQueue_run (h : HoldsAll s.nodes.links C on) (hon : on (d, .free))
    (hlen : (C (d, .free)).length ≤ maxSessNodeNum) :
    ∃ links, emptyFreeQueue d s =
        .ok ((), { s with nodes := { s.nodes with links }, freed := s.freed ++ C (d, .free) }) ∧
      HoldsAll links (Function.update C (d, .free) []) on := by
  obtain ⟨links, hrun, hall⟩ := releaseNodes_run maxSessNodeNum h hon rfl hlen
  refine ⟨links, ?_, hall⟩
  rw [← hrun, ← (h.holds _ hon).first]
  rfl

/-- The nodes of the first `d` devices. -/
def earlierNodes (d : Nat) : List NodePtr := (List.range d).flatMap devNodes

theorem earlierNodes_succ (d : Nat) : earlierNodes (d + 1) = earlierNodes d ++ devNodes d := by
  simp [earlierNodes, List.range_succ]

theorem releaseDevices_run (cnt : Nat) (h : HoldsAll s.nodes.links C on)
    (hC : ∀ i < cnt, on (i, .free) ∧ C (i, .free) = devNodes i) :
    ∃ links C', releaseDevices cnt s =
        .ok ((), { s with
          nodes := { s.nodes with links }, freed := s.freed ++ earlierNodes cnt }) ∧
      HoldsAll links C' on ∧ ∀ i, cnt ≤ i → C' (i, .free) = C (i, .free) := by
  induction cnt with
  | zero =>
    refine ⟨s.nodes.links, C, ?_, h, fun _ _ => rfl⟩
    simp [releaseDevices, earlierNodes]
    rfl
  | succ cnt ih =>
    obtain ⟨links, C', hrun, hall, hsame⟩ := ih fun i hi => hC i (Nat.lt_succ_of_lt hi)
    obtain ⟨hon, hdev⟩ := hC cnt (Nat.lt_succ_self cnt)
    rw [← hsame cnt (Nat.le_refl cnt)] at hdev
    let t : Setup :=
      { s with nodes := { s.nodes with links }, freed := s.freed ++ earlierNodes cnt }
    obtain ⟨links', hempty, hall'⟩ := emptyFreeQueue_run (s := t) hall hon (by
      rw [hdev]
      simp [devNodes])
    refine ⟨links', _, ?_, hall', ?_⟩
    · have hstep : releaseDevices (cnt + 1) s = emptyFreeQueue cnt t := Prog.bind_of_ok hrun
      rw [hstep, hempty, hdev, earlierNodes_succ]
      simp [t]
    · intro i hi
      have hne : (i, NodeQueue.free) ≠ (cnt, .free) := by
        intro heq
        cases heq
        omega
      rw [Function.update_of_ne hne]
      exact hsame i (Nat.le_of_succ_le hi)

/-- Everything that was allocated for `d` devices and not freed is in their free queues, and what
was freed belongs to device `d`. -/
structure Emptied (d : Nat) (s : Setup) : Prop where
  shelves : ∃ C on, HoldsAll s.nodes.links C on ∧ ∀ i < d, on (i, .free) ∧ C (i, .free) = devNodes i
  allocated : s.allocated = earlierNodes d ++ s.freed
  nodup : s.freed.Nodup
  own : ∀ n ∈ s.freed, n.1 = d

theorem devNodes_nodup (d : Nat) : (devNodes d).Nodup :=
  List.nodup_range.map fun _ _ h => (Prod.mk.inj h).2

theorem mem_devNodes {n : NodePtr} : n ∈ devNodes d ↔ n.1 = d ∧ n.2 < maxSessNodeNum := by
  obtain ⟨i, k⟩ := n
  simp only [devNodes, List.mem_map, List.mem_range, Prod.mk.injEq]
  constructor
  · rintro ⟨k, hk, rfl, rfl⟩
    exact ⟨rfl, hk⟩
  · rintro ⟨rfl, hk⟩
    exact ⟨k, hk, rfl, rfl⟩

theorem mem_earlierNodes {n : NodePtr} :
    n ∈ earlierNodes d ↔ n.1 < d ∧ n.2 < maxSessNodeNum := by
  simp [earlierNodes, mem_devNodes]

theorem earlierNodes_nodup (d : Nat) : (earlierNodes d).Nodup := by
  refine List.nodup_flatMap.mpr ⟨fun i _ => devNodes_nodup i, ?_⟩
  refine List.nodup_range.imp fun hne n hn hn' => hne ?_
  exact (mem_devNodes.mp hn).1.symm.trans (mem_devNodes.mp hn').1

theorem Emptied.all_nodup (h : Emptied d s) : (s.freed ++ earlierNodes d).Nodup := by
  refine List.nodup_append.mpr ⟨h.nodup, earlierNodes_nodup d, ?_⟩
  rintro n hn m hm rfl
  exact absurd (h.own n hn) (Nat.ne_of_lt (mem_earlierNodes.mp hm).1)

/-- The error exit frees each node once. -/
theorem Emptied.released (h : Emptied d s) :
    ∃ t, releaseDevices d s = .ok ((), t) ∧ t.activeMask = s.activeMask ∧
      ∀ n ∈ t.allocated, t.freed.count n = 1 := by
  obtain ⟨C, on, hall, hC⟩ := h.shelves
  obtain ⟨links, C', hrun, -, -⟩ := releaseDevices_run d hall hC
  refine ⟨_, hrun, rfl, fun n hn => ?_⟩
  refine List.count_eq_one_of_mem h.all_nodup ?_
  rw [h.allocated] at hn
  exact List.mem_append.mpr (List.mem_append.mp hn).symm

end Release

/-! The nodes of one device. -/

section Stock

variable {s : Setup} {d k : Nat}

/-- The first `k` nodes of a device. -/
def firstNodes (d k : Nat) : List NodePtr := (List.range k).map fun i => (d, i)

theorem firstNodes_succ (d k : Nat) : firstNodes d (k + 1) = firstNodes d k ++ [(d, k)] := by
  simp [firstNodes, List.range_succ]

/-- `d` devices are set up. -/
structure Ready (d : Nat) (s : Setup) : Prop where
  shelves : HoldsAll s.nodes.links freshShelves fun h => h.1 < d
  sess : ∀ n ∈ s.allocated, s.nodes.sess n = none
  allocated : s.allocated = earlierNodes d
  freed : s.freed = []

/-- `d` devices are set up, and of the next one the queues and `k` nodes. -/
structure Filled (d k : Nat) (s : Setup) : Prop where
  shelves : HoldsAll s.nodes.links (Function.update freshShelves (d, .free) (firstNodes d k))
    fun h => h.1 ≤ d
  sess : ∀ n ∈ s.allocated, s.nodes.sess n = none
  allocated : s.allocated = earlierNodes d ++ firstNodes d k
  freed : s.freed = []

/-- The mask and the set are the same. -/
structure SameConfig (s t : Setup) : Prop where
  activeMask : t.activeMask = s.activeMask
  set : t.set = s.set

theorem SameConfig.trans {t u : Setup} (h : SameConfig s t) (h' : SameConfig t u) :
    SameConfig s u :=
  ⟨h'.activeMask.trans h.activeMask, h'.set.trans h.set⟩

theorem ready_fresh (memory : NodePtr → Option SessPtr) (mask : UInt16) :
    Ready 0 (freshSetup memory mask) := by
  refine ⟨holdsAll_zero.congr ?_ fun _ _ => rfl, ?_, rfl, rfl⟩
  · simp
  · simp [freshSetup]

theorem Ready.emptied (h : Ready d s) : Emptied d s := by
  refine ⟨⟨_, _, h.shelves, fun i hi => ⟨hi, rfl⟩⟩, ?_, ?_, ?_⟩
  · rw [h.allocated, h.freed, List.append_nil]
  · rw [h.freed]
    exact List.nodup_nil
  · rw [h.freed]
    exact fun n hn => absurd hn List.not_mem_nil

theorem Filled.ready (h : Filled d maxSessNodeNum s) : Ready (d + 1) s := by
  refine ⟨?_, h.sess, ?_, h.freed⟩
  · have := h.shelves
    rw [show firstNodes d maxSessNodeNum = freshShelves (d, .free) from rfl,
      Function.update_eq_self] at this
    exact this.congr (fun _ => Nat.lt_succ_iff) fun _ _ => rfl
  · rw [h.allocated, earlierNodes_succ]
    rfl

/-- `TAILQ_INIT` of the three queues. -/
theorem Ready.initQueues (h : Ready d s) (mask : UInt16) (set : Nat → HighSpeedNetDevice) :
    Filled d 0 { s with
      activeMask := mask
      set
      nodes := { s.nodes with
        links := ((s.nodes.links.init (d, .tcp)).init (d, .udp)).init (d, .free) } } := by
  have h₁ := h.shelves.init (h := (d, NodeQueue.tcp)) (by simp)
  have h₂ := h₁.init (h := (d, NodeQueue.udp)) (by simp)
  have h₃ := h₂.init (h := (d, NodeQueue.free)) (by simp)
  refine ⟨h₃.congr ?_ ?_, h.sess, ?_, h.freed⟩
  · rintro ⟨i, k⟩
    cases k <;> simp <;> omega
  · rintro ⟨i, k⟩ -
    cases k <;> by_cases hi : i = d <;> simp [hi, firstNodes, freshShelves]
  · rw [h.allocated]
    exact (List.append_nil _).symm

theorem allocNodes_step {malloc : Nat → Bool} (h : Filled d k s) (hk : malloc k = true) (n : Nat) :
    ∃ t, allocNodes malloc d (n + 1) k s = allocNodes malloc d n (k + 1) t ∧
      Filled d (k + 1) t ∧ SameConfig s t := by
  have hnew : ∀ h', h'.1 ≤ d →
      (d, k) ∉ Function.update freshShelves (d, .free) (firstNodes d k) h' := by
    rintro ⟨i, q⟩ hi hm
    by_cases he : (i, q) = (d, NodeQueue.free)
    · cases he
      simp [firstNodes] at hm
    · rw [Function.update_of_ne he] at hm
      cases q with
      | free =>
        cases (mem_devNodes.mp hm).1
        exact he rfl
      | udp => cases hm
      | tcp => cases hm
  have hon : (d, NodeQueue.free).1 ≤ d := Nat.le_refl d
  obtain ⟨links, hL, -⟩ := (h.shelves.holds _ hon).insertTail (hnew _ hon)
  refine ⟨{ s with
    nodes := { links, sess := Function.update s.nodes.sess (d, k) none }
    allocated := s.allocated ++ [(d, k)] }, ?_, ⟨?_, ?_, ?_, h.freed⟩, rfl, rfl⟩
  · simp only [allocNodes, hk, if_true]
    exact (Prog.bind_of_ok (a := s) (t := s) rfl).trans
      (Prog.bind_of_ok (Prog.ofOption_ok.mpr ⟨hL, rfl⟩))
  · have := h.shelves.insertTail hon hnew hL
    rwa [Function.update_idem, Function.update_self, ← firstNodes_succ] at this
  · intro m hm
    by_cases he : m = (d, k)
    · rw [he]
      exact Function.update_self _ _ _
    · rcases List.mem_append.mp hm with hm | hm
      · exact (Function.update_of_ne he _ _).trans (h.sess m hm)
      · exact absurd (List.mem_singleton.mp hm) he
  · rw [h.allocated, firstNodes_succ, List.append_assoc]

theorem allocNodes_all {malloc : Nat → Bool} (n : Nat) (h : Filled d k s)
    (hm : ∀ i, k ≤ i → i < k + n → malloc i = true) :
    ∃ t, allocNodes malloc d n k s = .ok (true, t) ∧ Filled d (k + n) t ∧ SameConfig s t := by
  induction n generalizing k s with
  | zero => exact ⟨s, rfl, h, rfl, rfl⟩
  | succ n ih =>
    obtain ⟨t, hrun, ht, hsame⟩ := allocNodes_step h (hm k (Nat.le_refl k) (by omega)) n
    obtain ⟨u, hrun', hu, hsame'⟩ := ih ht fun i hi hlt => hm i (by omega) (by omega)
    rw [show k + (n + 1) = k + 1 + n from by omega]
    exact ⟨u, hrun.trans hrun', hu, hsame.trans hsame'⟩

/-- The malloc that fails empties the queue again. -/
theorem Filled.emptied (h : Filled d k s) (hk : k ≤ maxSessNodeNum) :
    ∃ t, emptyFreeQueue d s = .ok ((), t) ∧ Emptied d t ∧ SameConfig s t := by
  have hC : Function.update freshShelves (d, NodeQueue.free) (firstNodes d k) (d, .free) =
      firstNodes d k := Function.update_self _ _ _
  obtain ⟨links, hrun, hall⟩ := emptyFreeQueue_run h.shelves (Nat.le_refl d) (by
    rw [hC]
    simpa [firstNodes] using hk)
  refine ⟨_, hrun, ⟨⟨_, _, hall, fun i hi => ⟨Nat.le_of_lt hi, ?_⟩⟩, ?_, ?_, ?_⟩, rfl, rfl⟩
  · have hne : (i, NodeQueue.free) ≠ (d, .free) := fun he => absurd (Prod.mk.inj he).1 hi.ne
    rw [Function.update_of_ne hne, Function.update_of_ne hne]
    rfl
  · simp only [h.allocated, h.freed, hC, List.nil_append]
  · simp only [h.freed, hC, List.nil_append]
    exact List.nodup_range.map fun _ _ he => (Prod.mk.inj he).2
  · simp only [h.freed, hC, List.nil_append]
    intro n hn
    obtain ⟨i, -, rfl⟩ := List.mem_map.mp hn
    rfl

theorem allocNodes_fails {malloc : Nat → Bool} (n : Nat) (h : Filled d k s)
    (hkn : k + n ≤ maxSessNodeNum) (hm : ∃ i, k ≤ i ∧ i < k + n ∧ malloc i = false) :
    ∃ t, allocNodes malloc d n k s = .ok (false, t) ∧ Emptied d t ∧ SameConfig s t := by
  induction n generalizing k s with
  | zero =>
    obtain ⟨i, hki, hi, -⟩ := hm
    omega
  | succ n ih =>
    cases hk : malloc k with
    | false =>
      obtain ⟨t, hrun, ht, hsame⟩ := h.emptied (by omega)
      refine ⟨t, ?_, ht, hsame⟩
      simp only [allocNodes, hk]
      exact Prog.bind_of_ok hrun
    | true =>
      obtain ⟨t, hrun, ht, hsame⟩ := allocNodes_step h hk n
      obtain ⟨i, hki, hi, hfail⟩ := hm
      have hne : i ≠ k := by
        rintro rfl
        exact Bool.false_ne_true (hfail.symm.trans hk)
      obtain ⟨u, hrun', hu, hsame'⟩ := ih ht (by omega) ⟨i, by omega, by omega, hfail⟩
      exact ⟨u, hrun.trans hrun', hu, hsame.trans hsame'⟩

end Stock

end BackendProxy.Device.NetDevices
