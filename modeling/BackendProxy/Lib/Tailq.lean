import Mathlib.Data.List.Nodup
import Mathlib.Tactic.Common

namespace BackendProxy.Lib.Tailq

/-! Tail queues as pointers. The queues of all heads in `H` share the entries of the elements in
`N`, so an element is on at most one of them. -/

/-- Where a forward link is stored. -/
inductive Slot (H N : Type) where
  | head (h : H)
  | next (n : N)
  deriving DecidableEq

/-- A `last` or `prev` pointer is `none` until something is stored in it. -/
structure Links (H N : Type) where
  first : H → Option N
  last : H → Option (Slot H N)
  next : N → Option N
  prev : N → Option (Slot H N)

variable {H N : Type}

def Links.read (L : Links H N) : Slot H N → Option N
  | .head h => L.first h
  | .next n => L.next n

section Operations

variable [DecidableEq H] [DecidableEq N]

def Links.write (L : Links H N) (s : Slot H N) (v : Option N) : Links H N :=
  match s with
  | .head h => { L with first := Function.update L.first h v }
  | .next n => { L with next := Function.update L.next n v }

/-- `TAILQ_INIT` -/
def Links.init (L : Links H N) (h : H) : Links H N :=
  { L with
    first := Function.update L.first h none
    last := Function.update L.last h (some (.head h)) }

/-- `TAILQ_INSERT_TAIL`, undefined on a head that was not initialised. -/
def Links.insertTail (L : Links H N) (h : H) (n : N) : Option (Links H N) :=
  match L.last h with
  | none => none
  | some s =>
    let entry : Links H N :=
      { L with
        next := Function.update L.next n none
        prev := Function.update L.prev n (some s) }
    some { entry.write s (some n) with last := Function.update L.last h (some (.next n)) }

/-- `TAILQ_REMOVE`, undefined on an element that was never linked. -/
def Links.remove (L : Links H N) (h : H) (n : N) : Option (Links H N) :=
  match L.prev n with
  | none => none
  | some s =>
    let behind : Links H N :=
      match L.next n with
      | some m => { L with prev := Function.update L.prev m (some s) }
      | none => { L with last := Function.update L.last h (some s) }
    some (behind.write s (L.next n))

end Operations

/-- No head is initialised and no element was ever linked. -/
def Links.zero : Links H N :=
  { first := fun _ => none, last := fun _ => none, next := fun _ => none, prev := fun _ => none }

/-- From `s` the links lead through the elements to `t`, and each element points back. -/
def Path (L : Links H N) : Slot H N → List N → Slot H N → Prop
  | s, [], t => s = t
  | s, n :: l, t => L.read s = some n ∧ L.prev n = some s ∧ Path L (.next n) l t

/-- The queue of `h` consists of the elements `l`, in this order. -/
structure Holds (L : Links H N) (h : H) (l : List N) : Prop where
  path : ∃ t, L.last h = some t ∧ Path L (.head h) l t ∧ L.read t = none
  nodup : l.Nodup

/-- The slots of a queue: that of its head and those of its elements. -/
def Owns (h : H) (l : List N) (u : Slot H N) : Prop := u = .head h ∨ ∃ k ∈ l, u = .next k

section Write

variable [DecidableEq H] [DecidableEq N] (L : Links H N) (s u : Slot H N) (v : Option N)

theorem read_write : (L.write s v).read u = if u = s then v else L.read u := by
  cases s <;> cases u <;> simp [Links.write, Links.read, Function.update_apply]

@[simp] theorem write_prev : (L.write s v).prev = L.prev := by
  cases s <;> rfl

@[simp] theorem write_last : (L.write s v).last = L.last := by
  cases s <;> rfl

end Write

section Path

variable {L L' : Links H N} {s t : Slot H N} {a b l : List N}

theorem path_append : Path L s (a ++ b) t ↔ ∃ u, Path L s a u ∧ Path L u b t := by
  induction a generalizing s with
  | nil =>
    constructor
    · intro h
      exact ⟨s, rfl, h⟩
    · intro hx
      obtain ⟨u, rfl, h⟩ := hx
      exact h
  | cons n a ih =>
    constructor
    · intro hx
      obtain ⟨hr, hp, h⟩ := hx
      obtain ⟨u, ha, hb⟩ := ih.mp h
      exact ⟨u, ⟨hr, hp, ha⟩, hb⟩
    · intro hx
      obtain ⟨u, ⟨hr, hp, ha⟩, hb⟩ := hx
      exact ⟨hr, hp, ih.mpr ⟨u, ha, hb⟩⟩

theorem Path.end_owned (h : Path L s l t) : t = s ∨ ∃ k ∈ l, t = .next k := by
  induction l generalizing s with
  | nil => exact Or.inl h.symm
  | cons n l ih =>
    right
    rcases ih h.2.2 with rfl | ⟨k, hk, rfl⟩
    · exact ⟨n, List.mem_cons_self, rfl⟩
    · exact ⟨k, List.mem_cons_of_mem n hk, rfl⟩

/-- Links lead through one list of elements only. -/
theorem Path.unique {l' : List N} {t' : Slot H N} (h : Path L s l t) (hend : L.read t = none)
    (h' : Path L s l' t') (hend' : L.read t' = none) : l = l' := by
  induction l generalizing s l' with
  | nil =>
    cases l' with
    | nil => rfl
    | cons n l' =>
      cases h
      cases hend.symm.trans h'.1
  | cons n l ih =>
    cases l' with
    | nil =>
      cases h'
      cases hend'.symm.trans h.1
    | cons n' l' =>
      cases h.1.symm.trans h'.1
      rw [ih h.2.2 h'.2.2]

/-- A path survives writes that spare its links and the back pointers of its elements. -/
theorem Path.frame (h : Path L s l t)
    (hr : ∀ u m, (u = s ∨ ∃ k ∈ l, u = .next k) → m ∈ l → L.read u = some m →
      L'.read u = some m)
    (hp : ∀ m ∈ l, L'.prev m = L.prev m) : Path L' s l t := by
  induction l generalizing s with
  | nil => exact h
  | cons n l ih =>
    obtain ⟨hn, hb, hrest⟩ := h
    refine ⟨hr s n (Or.inl rfl) List.mem_cons_self hn, ?_, ih hrest ?_ ?_⟩
    · rw [hp n List.mem_cons_self, hb]
    · intro u m hu hm hum
      refine hr u m (Or.inr ?_) (List.mem_cons_of_mem n hm) hum
      rcases hu with rfl | ⟨k, hk, rfl⟩
      · exact ⟨n, List.mem_cons_self, rfl⟩
      · exact ⟨k, List.mem_cons_of_mem n hk, rfl⟩
    · intro m hm
      exact hp m (List.mem_cons_of_mem n hm)

end Path

section Holds

variable {L L' : Links H N} {h h' : H} {n : N} {l l' a b : List N}

theorem Holds.frame (hL : Holds L h l) (hr : ∀ u, Owns h l u → L'.read u = L.read u)
    (hp : ∀ m ∈ l, L'.prev m = L.prev m) (hl : L'.last h = L.last h) : Holds L' h l := by
  obtain ⟨t, ht, hpath, hend⟩ := hL.path
  refine ⟨⟨t, by rw [hl, ht], hpath.frame ?_ hp, ?_⟩, hL.nodup⟩
  · intro u m hu _ hum
    rw [hr u hu, hum]
  · rw [hr t hpath.end_owned, hend]

theorem holds_init [DecidableEq H] (L : Links H N) (h : H) : Holds (L.init h) h [] :=
  ⟨⟨.head h, by simp [Links.init], rfl, by simp [Links.init, Links.read]⟩, List.nodup_nil⟩

theorem Holds.init_other [DecidableEq H] (hL : Holds L h l) (hne : h ≠ h') :
    Holds (L.init h') h l := by
  refine hL.frame ?_ (fun _ _ => rfl) (by simp [Links.init, hne])
  rintro u (rfl | ⟨k, -, rfl⟩)
  · simp [Links.read, Links.init, hne]
  · rfl

theorem Holds.unique {l' : List N} (hL : Holds L h l) (hL' : Holds L h l') : l = l' := by
  obtain ⟨t, -, hp, hend⟩ := hL.path
  obtain ⟨t', -, hp', hend'⟩ := hL'.path
  exact hp.unique hend hp' hend'

theorem Holds.first (hL : Holds L h l) : L.first h = l.head? := by
  obtain ⟨t, -, hpath, hend⟩ := hL.path
  cases l with
  | nil =>
    cases hpath
    exact hend
  | cons n l => exact hpath.1

theorem Holds.next (hL : Holds L h (a ++ n :: b)) : L.next n = b.head? := by
  obtain ⟨t, -, hpath, hend⟩ := hL.path
  obtain ⟨u, -, -, -, hb⟩ := path_append.mp hpath
  cases b with
  | nil =>
    cases hb
    exact hend
  | cons m b => exact hb.1

theorem Holds.prev_isSome (hL : Holds L h l) (hn : n ∈ l) : ∃ s, L.prev n = some s := by
  obtain ⟨a, b, rfl⟩ := List.append_of_mem hn
  obtain ⟨t, -, hpath, -⟩ := hL.path
  obtain ⟨u, -, -, hp, -⟩ := path_append.mp hpath
  exact ⟨u, hp⟩

variable [DecidableEq H] [DecidableEq N]

/-- Inserting a new element appends it. -/
theorem Holds.insertTail (hL : Holds L h l) (hn : n ∉ l) :
    ∃ L', L.insertTail h n = some L' ∧ Holds L' h (l ++ [n]) := by
  obtain ⟨t, ht, hpath, hend⟩ := hL.path
  have hne : Slot.next n ≠ t := by
    intro he
    rcases hpath.end_owned with hs | ⟨k, hk, hs⟩
    · rw [hs] at he
      cases he
    · rw [hs] at he
      cases he
      exact hn hk
  refine ⟨_, by simp only [Links.insertTail, ht]; rfl, ⟨.next n, by simp, ?_, ?_⟩, ?_⟩
  · refine path_append.mpr ⟨t, hpath.frame ?_ ?_, ?_, ?_, rfl⟩
    · intro u m hu hm hum
      -- the slot of a link is neither the empty one at the end nor that of the new element
      have hut : u ≠ t := by
        intro heq
        subst heq
        rw [hend] at hum
        cases hum
      have hun : u ≠ .next n := by
        intro heq
        subst heq
        rcases hu with hs | ⟨k, hk, hs⟩
        · cases hs
        · cases hs
          exact hn hk
      change (Links.write _ t (some n)).read u = some m
      rw [read_write, if_neg hut, ← hum]
      cases u with
      | head g => rfl
      | next k =>
        have : k ≠ n := fun e => hun (by rw [e])
        simp [Links.read, this]
    · intro m hm
      have : m ≠ n := fun e => hn (e ▸ hm)
      simp [this]
    · change (Links.write _ t (some n)).read t = some n
      simp [read_write]
    · simp
  · change (Links.write _ t (some n)).read (.next n) = none
    rw [read_write, if_neg hne]
    simp [Links.read]
  · rw [← List.concat_eq_append]
    exact hL.nodup.concat hn

/-- Inserting on one queue leaves the others as they are. -/
theorem Holds.insertTail_other (hL : Holds L h l) (hL' : Holds L h' l') (hne : h' ≠ h)
    (hdisj : l.Disjoint l') (hn : n ∉ l') {M : Links H N} (hM : L.insertTail h n = some M) :
    Holds M h' l' := by
  obtain ⟨t, ht, hpath, hend⟩ := hL.path
  simp only [Links.insertTail, ht, Option.some.injEq] at hM
  subst hM
  refine hL'.frame ?_ ?_ (by simp [hne])
  · intro u hu
    have hut : u ≠ t := by
      intro heq
      subst heq
      rcases hpath.end_owned with hs | ⟨k, hk, hs⟩ <;> rcases hu with hu | ⟨k', hk', hu⟩ <;>
        rw [hs] at hu <;> cases hu
      · exact hne rfl
      · exact hdisj hk hk'
    change (Links.write _ t (some n)).read u = _
    rw [read_write, if_neg hut]
    rcases hu with rfl | ⟨k, hk, rfl⟩
    · rfl
    · have : k ≠ n := fun e => hn (e ▸ hk)
      simp [Links.read, this]
  · intro m hm
    have : m ≠ n := fun e => hn (e ▸ hm)
    simp [this]

theorem insertTail_prev {p : N} {M : Links H N} (hM : L.insertTail h n = some M) (hp : p ≠ n) :
    M.prev p = L.prev p := by
  unfold Links.insertTail at hM
  split at hM
  · cases hM
  · simp only [Option.some.injEq] at hM
    subst hM
    simp [hp]

/-- Removing an element of the queue takes out just this element. -/
theorem Holds.remove (hL : Holds L h (a ++ n :: b)) :
    ∃ L', L.remove h n = some L' ∧ Holds L' h (a ++ b) := by
  obtain ⟨t, ht, hpath, hend⟩ := hL.path
  obtain ⟨u, ha, hun, hnp, hb⟩ := path_append.mp hpath
  have hnd := hL.nodup
  have hna : n ∉ a := by
    intro hm
    exact (List.nodup_append.mp hnd).2.2 n hm n List.mem_cons_self rfl
  have hnb : n ∉ b := (List.nodup_cons.mp (List.nodup_append.mp hnd).2.1).1
  have hab : ∀ m ∈ a, m ∉ b := fun m hma hmb =>
    (List.nodup_append.mp hnd).2.2 m hma m (List.mem_cons_of_mem n hmb) rfl
  have hnd' : (a ++ b).Nodup :=
    hnd.sublist (List.Sublist.append_left (List.sublist_cons_self n b) a)
  cases b with
  | nil =>
    cases hb
    have hnone : L.next n = none := hend
    refine ⟨_, by simp only [Links.remove, hnp, hnone]; rfl, ⟨u, by simp, ?_, ?_⟩, hnd'⟩
    · rw [List.append_nil]
      refine ha.frame ?_ ?_
      · intro w m _ hm hwm
        have hwu : w ≠ u := by
          intro heq
          subst heq
          rw [hun] at hwm
          cases hwm
          exact hna hm
        rw [read_write, if_neg hwu, ← hwm]
        cases w <;> rfl
      · intro m _
        simp
    · rw [read_write, if_pos rfl]
  | cons m b =>
    obtain ⟨hm, hmp, hb'⟩ := hb
    have hsome : L.next n = some m := hm
    have hmb : m ∉ b :=
      (List.nodup_cons.mp (List.nodup_cons.mp (List.nodup_append.mp hnd).2.1).2).1
    refine ⟨_, by simp only [Links.remove, hnp, hsome]; rfl, ⟨t, by simpa using ht, ?_, ?_⟩, hnd'⟩
    · refine path_append.mpr ⟨u, ha.frame ?_ ?_, ?_, by simp, hb'.frame ?_ ?_⟩
      · intro w k _ hk hwk
        have hwu : w ≠ u := by
          intro heq
          subst heq
          rw [hun] at hwk
          cases hwk
          exact hna hk
        rw [read_write, if_neg hwu, ← hwk]
        cases w <;> rfl
      · intro k hk
        have : k ≠ m := fun e => hab k hk (e ▸ List.mem_cons_self)
        simp [this]
      · rw [read_write, if_pos rfl]
      · intro w k _ hk hwk
        have hwu : w ≠ u := by
          intro heq
          subst heq
          rw [hun] at hwk
          cases hwk
          exact hnb (List.mem_cons_of_mem m hk)
        rw [read_write, if_neg hwu, ← hwk]
        cases w <;> rfl
      · intro k hk
        have : k ≠ m := fun e => hmb (e ▸ hk)
        simp [this]
    · have htu : t ≠ u := by
        intro heq
        subst heq
        rw [hun] at hend
        cases hend
      rw [read_write, if_neg htu, ← hend]
      cases t <;> rfl

/-- Removing from one queue leaves the others as they are. -/
theorem Holds.remove_other (hL : Holds L h l) (hn : n ∈ l) (hL' : Holds L h' l') (hne : h' ≠ h)
    (hdisj : l.Disjoint l') {M : Links H N} (hM : L.remove h n = some M) : Holds M h' l' := by
  obtain ⟨a, b, rfl⟩ := List.append_of_mem hn
  obtain ⟨t, ht, hpath, hend⟩ := hL.path
  obtain ⟨u, ha, hun, hnp, hb⟩ := path_append.mp hpath
  have hread : ∀ w, Owns h' l' w → w ≠ u := by
    intro w hw heq
    subst heq
    rcases ha.end_owned with hs | ⟨k, hk, hs⟩ <;> rcases hw with hw | ⟨k', hk', hw⟩ <;>
      rw [hs] at hw <;> cases hw
    · exact hne rfl
    · exact hdisj (List.mem_append_left _ hk) hk'
  cases hnx : L.next n with
  | none =>
    simp only [Links.remove, hnp, hnx, Option.some.injEq] at hM
    subst hM
    refine hL'.frame ?_ (by simp) (by simp [hne])
    intro w hw
    rw [read_write, if_neg (hread w hw)]
    cases w <;> rfl
  | some m =>
    have hmb : m ∈ a ++ n :: b := by
      rw [hL.next] at hnx
      exact List.mem_append_right _ (List.mem_cons_of_mem n (List.mem_of_mem_head? hnx))
    simp only [Links.remove, hnp, hnx, Option.some.injEq] at hM
    subst hM
    refine hL'.frame ?_ ?_ (by simp)
    · intro w hw
      rw [read_write, if_neg (hread w hw)]
      cases w <;> rfl
    · intro k hk
      have : k ≠ m := by
        intro heq
        subst heq
        exact hdisj hmb hk
      simp [this]

theorem Holds.remove_prev (hL : Holds L h l) (hn : n ∈ l) {p : N} (hp : p ∉ l)
    {M : Links H N} (hM : L.remove h n = some M) : M.prev p = L.prev p := by
  obtain ⟨a, b, rfl⟩ := List.append_of_mem hn
  obtain ⟨s, hs⟩ := hL.prev_isSome hn
  cases hnx : L.next n with
  | none =>
    simp only [Links.remove, hs, hnx, Option.some.injEq] at hM
    subst hM
    simp
  | some m =>
    have hm : m ∈ a ++ n :: b := by
      rw [hL.next] at hnx
      exact List.mem_append_right _ (List.mem_cons_of_mem n (List.mem_of_mem_head? hnx))
    simp only [Links.remove, hs, hnx, Option.some.injEq] at hM
    subst hM
    have : p ≠ m := fun e => hp (e ▸ hm)
    simp [this]

/-- Removing the same element a second time changes nothing: its entry still names the
neighbours that were joined, and they are joined again. -/
theorem Holds.remove_twice (hL : Holds L h l) (hn : n ∈ l) {M : Links H N}
    (hM : L.remove h n = some M) : M.remove h n = some M := by
  obtain ⟨a, b, rfl⟩ := List.append_of_mem hn
  obtain ⟨t, -, hpath, -⟩ := hL.path
  obtain ⟨u, ha, -, hnp, -⟩ := path_append.mp hpath
  have hnd := hL.nodup
  have hne : Slot.next n ≠ u := by
    intro heq
    subst heq
    rcases ha.end_owned with hs | ⟨k, hk, hs⟩
    · cases hs
    · cases hs
      exact (List.nodup_append.mp hnd).2.2 n hk n List.mem_cons_self rfl
  cases hnx : L.next n with
  | none =>
    simp only [Links.remove, hnp, hnx, Option.some.injEq] at hM
    have hnx' : M.next n = none := by
      have := read_write { L with last := Function.update L.last h (some u) } u (.next n) none
      rw [if_neg hne] at this
      rw [← hM]
      exact this.trans hnx
    have hnp' : M.prev n = some u := by
      rw [← hM]
      simpa using hnp
    rw [Links.remove, hnp', hnx', ← hM]
    cases u <;> simp [Links.write]
  | some m =>
    have hmn : n ≠ m := by
      intro heq
      subst heq
      rw [hL.next] at hnx
      have := List.mem_of_mem_head? hnx
      exact (List.nodup_cons.mp (List.nodup_append.mp hnd).2.1).1 this
    simp only [Links.remove, hnp, hnx, Option.some.injEq] at hM
    have hnx' : M.next n = some m := by
      have := read_write { L with prev := Function.update L.prev m (some u) } u (.next n) (some m)
      rw [if_neg hne] at this
      rw [← hM]
      exact this.trans hnx
    have hnp' : M.prev n = some u := by
      rw [← hM]
      simpa [hmn] using hnp
    rw [Links.remove, hnp', hnx', ← hM]
    cases u <;> simp [Links.write]

theorem Holds.insertTail_first (hL : Holds L h l) {M : Links H N}
    (hM : L.insertTail h n = some M) (hne : h' ≠ h) : M.first h' = L.first h' := by
  obtain ⟨t, ht, hpath, -⟩ := hL.path
  simp only [Links.insertTail, ht, Option.some.injEq] at hM
  subst hM
  rcases hpath.end_owned with rfl | ⟨k, -, rfl⟩
  · simp [Links.write, hne]
  · rfl

theorem Holds.remove_first (hL : Holds L h l) (hn : n ∈ l) {M : Links H N}
    (hM : L.remove h n = some M) (hne : h' ≠ h) : M.first h' = L.first h' := by
  obtain ⟨a, b, rfl⟩ := List.append_of_mem hn
  obtain ⟨t, -, hpath, -⟩ := hL.path
  obtain ⟨u, ha, -, hnp, -⟩ := path_append.mp hpath
  simp only [Links.remove, hnp, Option.some.injEq] at hM
  subst hM
  rcases ha.end_owned with rfl | ⟨k, -, rfl⟩ <;> cases L.next n <;> simp [Links.write, hne]

end Holds

section Family

variable [DecidableEq H] {L M : Links H N} {C : H → List N} {on : H → Prop} {h : H} {n : N}

/-- The queues of the heads in `on` hold the lists `C`, which share no element; the other heads
are not in use. -/
structure HoldsAll (L : Links H N) (C : H → List N) (on : H → Prop) : Prop where
  holds : ∀ h, on h → Holds L h (C h)
  disjoint : ∀ h h', on h → on h' → h ≠ h' → (C h).Disjoint (C h')
  unused : ∀ h, ¬ on h → L.first h = none

theorem HoldsAll.disjoint_update (hL : HoldsAll L C on) {l : List N}
    (hl : ∀ h', on h' → h' ≠ h → l.Disjoint (C h')) (h₁ h₂ : H) (hon₁ : on h₁) (hon₂ : on h₂)
    (hne : h₁ ≠ h₂) : (Function.update C h l h₁).Disjoint (Function.update C h l h₂) := by
  by_cases he₁ : h₁ = h
  · subst he₁
    rw [Function.update_self, Function.update_of_ne (Ne.symm hne)]
    exact hl h₂ hon₂ (Ne.symm hne)
  · by_cases he₂ : h₂ = h
    · subst he₂
      rw [Function.update_self, Function.update_of_ne he₁]
      exact fun m hm hm' => hl h₁ hon₁ he₁ hm' hm
    · rw [Function.update_of_ne he₁, Function.update_of_ne he₂]
      exact hL.disjoint h₁ h₂ hon₁ hon₂ hne

theorem HoldsAll.insertTail [DecidableEq N] (hL : HoldsAll L C on) (hon : on h)
    (hn : ∀ h', on h' → n ∉ C h') (hM : L.insertTail h n = some M) :
    HoldsAll M (Function.update C h (C h ++ [n])) on := by
  obtain ⟨L', hL', hholds⟩ := (hL.holds h hon).insertTail (hn h hon)
  cases hM.symm.trans hL'
  refine ⟨?_, ?_, ?_⟩
  · intro h' hon'
    by_cases he : h' = h
    · subst he
      simpa using hholds
    · rw [Function.update_of_ne he]
      exact (hL.holds h hon).insertTail_other (hL.holds h' hon') he
        (hL.disjoint h h' hon hon' (Ne.symm he)) (hn h' hon') hM
  · apply hL.disjoint_update
    intro h' hon' he m hm hm'
    rcases List.mem_append.mp hm with hm | hm
    · exact hL.disjoint h h' hon hon' (Ne.symm he) hm hm'
    · rw [List.mem_singleton.mp hm] at hm'
      exact hn h' hon' hm'
  · intro h' hoff
    have hne : h' ≠ h := by
      intro heq
      subst heq
      exact hoff hon
    rw [(hL.holds h hon).insertTail_first hM hne]
    exact hL.unused h' hoff

theorem HoldsAll.remove [DecidableEq N] {a b : List N} (hL : HoldsAll L C on) (hon : on h)
    (hC : C h = a ++ n :: b) (hM : L.remove h n = some M) :
    HoldsAll M (Function.update C h (a ++ b)) on := by
  have hmem : n ∈ C h := by
    rw [hC]
    simp
  obtain ⟨L', hL', hholds⟩ := (hC ▸ hL.holds h hon).remove
  cases hM.symm.trans hL'
  refine ⟨?_, ?_, ?_⟩
  · intro h' hon'
    by_cases he : h' = h
    · subst he
      simpa using hholds
    · rw [Function.update_of_ne he]
      exact (hL.holds h hon).remove_other hmem (hL.holds h' hon') he
        (hL.disjoint h h' hon hon' (Ne.symm he)) hM
  · apply hL.disjoint_update
    intro h' hon' he m hm hm'
    refine hL.disjoint h h' hon hon' (Ne.symm he) ?_ hm'
    rw [hC]
    rcases List.mem_append.mp hm with hm | hm
    · exact List.mem_append_left _ hm
    · exact List.mem_append_right _ (List.mem_cons_of_mem n hm)
  · intro h' hoff
    have hne : h' ≠ h := by
      intro heq
      subst heq
      exact hoff hon
    rw [(hL.holds h hon).remove_first hmem hM hne]
    exact hL.unused h' hoff

/-- A removed element is on no list of the family any more. -/
theorem HoldsAll.not_mem_of_removed {a b : List N} (hL : HoldsAll L C on) (hon : on h)
    (hC : C h = a ++ n :: b) {h' : H} (hon' : on h') :
    n ∉ Function.update C h (a ++ b) h' := by
  by_cases he : h' = h
  · subst he
    rw [Function.update_self]
    have hnd := (hL.holds h' hon').nodup
    rw [hC] at hnd
    intro hm
    rcases List.mem_append.mp hm with hm | hm
    · exact (List.nodup_append.mp hnd).2.2 n hm n List.mem_cons_self rfl
    · exact (List.nodup_cons.mp (List.nodup_append.mp hnd).2.1).1 hm
  · rw [Function.update_of_ne he]
    apply hL.disjoint h h' hon hon' (Ne.symm he)
    rw [hC]
    simp

/-- The lists once `n` left the list of `h`, of which `l` remains, for the end of that of `h'`. -/
def moved (C : H → List N) (h : H) (l : List N) (h' : H) (n : N) : H → List N :=
  Function.update (Function.update C h l) h' (Function.update C h l h' ++ [n])

theorem HoldsAll.move [DecidableEq N] {a b : List N} {K : Links H N} {k : H}
    (hL : HoldsAll L C on) (hon : on h) (hk : on k) (hC : C h = a ++ n :: b)
    (hM : L.remove h n = some M) (hK : M.insertTail k n = some K) :
    HoldsAll K (moved C h (a ++ b) k n) on :=
  (hL.remove hon hC hM).insertTail hk (fun _ hon' => hL.not_mem_of_removed hon hC hon') hK

/-- Nothing else changes its list. -/
theorem HoldsAll.mem_moved {a b : List N} {h' k : H} {x : N} (hL : HoldsAll L C on) (hon : on h)
    (hC : C h = a ++ n :: b) (hk : on k) :
    x ∈ moved C h (a ++ b) h' n k ↔ (x = n ∧ k = h') ∨ (x ≠ n ∧ x ∈ C k) := by
  have hout : n ∉ Function.update C h (a ++ b) k := hL.not_mem_of_removed hon hC hk
  have hrest : x ∈ Function.update C h (a ++ b) k ↔ x ≠ n ∧ x ∈ C k := by
    constructor
    · intro hx
      have hne : x ≠ n := by
        intro he
        rw [he] at hx
        exact hout hx
      refine ⟨hne, ?_⟩
      by_cases he : k = h
      · subst he
        rw [Function.update_self] at hx
        rw [hC]
        simpa [hne] using hx
      · rwa [Function.update_of_ne he] at hx
    · intro hx
      obtain ⟨hne, hx⟩ := hx
      by_cases he : k = h
      · subst he
        rw [hC] at hx
        rw [Function.update_self]
        simpa [hne] using hx
      · rwa [Function.update_of_ne he]
  unfold moved
  by_cases he : k = h'
  · subst he
    rw [Function.update_self, List.mem_append, List.mem_singleton, hrest]
    constructor
    · intro hx
      rcases hx with hx | hx
      · exact .inr hx
      · exact .inl ⟨hx, rfl⟩
    · intro hx
      rcases hx with ⟨hx, -⟩ | hx
      · exact .inr hx
      · exact .inl hx
  · rw [Function.update_of_ne he, hrest]
    constructor
    · exact .inr
    · intro hx
      rcases hx with ⟨-, hx⟩ | hx
      · exact absurd hx he
      · exact hx

/-- An element of one list can be moved to any other. -/
theorem HoldsAll.can_move [DecidableEq N] {k : H} (hL : HoldsAll L C on) (hon : on h)
    (hk : on k) (hn : n ∈ C h) :
    ∃ M K, L.remove h n = some M ∧ M.insertTail k n = some K := by
  obtain ⟨a, b, hC⟩ := List.append_of_mem hn
  obtain ⟨M, hM, -⟩ := (hC ▸ hL.holds h hon).remove
  obtain ⟨K, hK, -⟩ := ((hL.remove hon hC hM).holds k hk).insertTail
    (hL.not_mem_of_removed hon hC hk)
  exact ⟨M, K, hM, hK⟩

omit [DecidableEq H] in
theorem holdsAll_zero : HoldsAll (Links.zero : Links H N) C (fun _ => False) :=
  ⟨fun _ h => h.elim, fun _ _ h => h.elim, fun _ _ => rfl⟩

/-- Initialising an unused head adds an empty queue. -/
theorem HoldsAll.init (hL : HoldsAll L C on) (hoff : ¬ on h) :
    HoldsAll (L.init h) (Function.update C h []) (fun h' => h' = h ∨ on h') := by
  have hne : ∀ h', on h' → h' ≠ h := by
    intro h' hon' heq
    subst heq
    exact hoff hon'
  refine ⟨?_, ?_, ?_⟩
  · rintro h' (rfl | hon')
    · rw [Function.update_self]
      exact holds_init L h'
    · rw [Function.update_of_ne (hne h' hon')]
      exact (hL.holds h' hon').init_other (hne h' hon')
  · rintro h₁ h₂ (rfl | hon₁) (rfl | hon₂) hne'
    · exact absurd rfl hne'
    · rw [Function.update_self]
      exact List.disjoint_nil_left _
    · rw [Function.update_self]
      exact List.disjoint_nil_right _
    · rw [Function.update_of_ne (hne h₁ hon₁), Function.update_of_ne (hne h₂ hon₂)]
      exact hL.disjoint h₁ h₂ hon₁ hon₂ hne'
  · intro h' hoff'
    have hne' : h' ≠ h := fun he => hoff' (Or.inl he)
    simp only [Links.init, Function.update_of_ne hne']
    exact hL.unused h' (fun hon' => hoff' (Or.inr hon'))

/-- Initialising the head of an empty queue changes nothing. -/
theorem HoldsAll.reinit (hL : HoldsAll L C on) (hC : C h = []) : HoldsAll (L.init h) C on := by
  refine ⟨?_, hL.disjoint, ?_⟩
  · intro h' hon
    by_cases hne : h' = h
    · subst hne
      rw [hC]
      exact holds_init L h'
    · exact (hL.holds h' hon).init_other hne
  · intro h' hoff
    by_cases hne : h' = h
    · subst hne
      exact Function.update_self _ _ _
    · exact (Function.update_of_ne hne _ _).trans (hL.unused h' hoff)

omit [DecidableEq H] in
theorem HoldsAll.congr {C' : H → List N} {on' : H → Prop} (hL : HoldsAll L C on)
    (hon : ∀ h, on' h ↔ on h) (hC : ∀ h, on h → C' h = C h) : HoldsAll L C' on' := by
  refine ⟨?_, ?_, ?_⟩
  · intro h hh
    rw [hC h ((hon h).mp hh)]
    exact hL.holds h ((hon h).mp hh)
  · intro h₁ h₂ hh₁ hh₂ hne
    rw [hC h₁ ((hon h₁).mp hh₁), hC h₂ ((hon h₂).mp hh₂)]
    exact hL.disjoint h₁ h₂ ((hon h₁).mp hh₁) ((hon h₂).mp hh₂) hne
  · intro h hoff
    exact hL.unused h (fun hh => hoff ((hon h).mpr hh))

end Family

end BackendProxy.Lib.Tailq
