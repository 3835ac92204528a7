import Mathlib.Data.List.Nodup
import Mathlib.Logic.Function.Basic
import Mathlib.Tactic.Common

namespace BackendProxy.Lib.Dlist

/-! Doubly linked lists that end in null pointers at both ends. The lists of all heads in `H` share
the entries of the elements in `N`. -/

structure Links (H N : Type) where
  head : H → Option N
  next : N → Option N
  prev : N → Option N

variable {H N : Type}

section Operations

variable [DecidableEq N]

def Links.setNext (L : Links H N) (n : Option N) (v : Option N) : Links H N :=
  match n with
  | none => L
  | some n => { L with next := Function.update L.next n v }

def Links.setPrev (L : Links H N) (n : Option N) (v : Option N) : Links H N :=
  match n with
  | none => L
  | some n => { L with prev := Function.update L.prev n v }

variable [DecidableEq H]

def Links.setHead (L : Links H N) (h : H) (v : Option N) : Links H N :=
  { L with head := Function.update L.head h v }

def Links.pushFront (L : Links H N) (h : H) (n : N) : Links H N :=
  (((L.setNext (some n) (L.head h)).setPrev (some n) none).setPrev (L.head h) (some n)).setHead h
    (some n)

/-- Behind `last`, which the caller knows. -/
def Links.pushBack (L : Links H N) (last n : N) : Links H N :=
  ((L.setNext (some n) none).setPrev (some n) (some last)).setNext (some last) (some n)

def Links.remove (L : Links H N) (h : H) (n : N) : Links H N :=
  let front := if L.head h = some n then L.setHead h (L.next n) else L
  (front.setNext (L.prev n) (L.next n)).setPrev (L.next n) (L.prev n)

end Operations

/-- The elements from `cur` on, behind the element `before`. -/
def Links.Path (L : Links H N) : Option N → Option N → List N → Prop
  | _, cur, [] => cur = none
  | before, cur, n :: xs => cur = some n ∧ L.prev n = before ∧ L.Path (some n) (L.next n) xs

def Links.Holds (L : Links H N) (h : H) (xs : List N) : Prop := L.Path none (L.head h) xs ∧ xs.Nodup

/-- What every head holds; no element is on two lists. -/
structure HoldsAll (L : Links H N) (C : H → List N) : Prop where
  holds : ∀ h, L.Holds h (C h)
  apart : ∀ h k n, n ∈ C h → n ∈ C k → h = k

section Path

variable {L M : Links H N} {before cur : Option N} {xs ys : List N} {n : N} {h : H}

theorem Path.frame (hp : L.Path before cur xs) (hnext : ∀ n ∈ xs, M.next n = L.next n)
    (hprev : ∀ n ∈ xs, M.prev n = L.prev n) : M.Path before cur xs := by
  induction xs generalizing before cur with
  | nil => exact hp
  | cons n xs ih =>
    obtain ⟨hcur, hback, hrest⟩ := hp
    refine ⟨hcur, (hprev n List.mem_cons_self).trans hback, ?_⟩
    rw [hnext n List.mem_cons_self]
    exact ih hrest (fun m hm => hnext m (List.mem_cons_of_mem n hm))
      fun m hm => hprev m (List.mem_cons_of_mem n hm)

theorem Path.cur_eq (hp : L.Path before cur xs) : cur = xs.head? := by
  cases xs with
  | nil => exact hp
  | cons n xs => exact hp.1

/-- The pointers of an element. -/
theorem Path.links (hp : L.Path before cur (xs ++ n :: ys)) :
    L.prev n = xs.getLast?.or before ∧ L.next n = ys.head? := by
  induction xs generalizing before cur with
  | nil => exact ⟨hp.2.1, Path.cur_eq hp.2.2⟩
  | cons x xs ih =>
    obtain ⟨hprev, hnext⟩ := ih hp.2.2
    refine ⟨?_, hnext⟩
    rw [hprev]
    cases xs with
    | nil => rfl
    | cons y xs => simp [List.getLast?_cons]

theorem Holds.head_eq (hl : L.Holds h xs) : L.head h = xs.head? := Path.cur_eq hl.1

/-- The neighbours of an element are on its list. -/
theorem HoldsAll.neighbours {C : H → List N} {m : N} (hall : HoldsAll L C) (hn : n ∈ C h) :
    (L.prev n = some m → m ∈ C h) ∧ (L.next n = some m → m ∈ C h) := by
  obtain ⟨xs, ys, hsplit⟩ := List.append_of_mem hn
  obtain ⟨hprev, hnext⟩ := Path.links (hsplit ▸ (hall.holds h).1)
  rw [hprev, hnext, hsplit, Option.or_none]
  constructor
  · exact fun hm => List.mem_append_left _ (List.mem_of_getLast? hm)
  · exact fun hm => List.mem_append_right _ (List.mem_cons_of_mem n (List.mem_of_head? hm))

/-- Without elements there is nothing to hold. -/
theorem holdsAll_empty (hhead : ∀ h, L.head h = none) : HoldsAll L fun _ => [] :=
  ⟨fun h => ⟨hhead h, List.nodup_nil⟩, fun _ _ _ hn _ => nomatch hn⟩

end Path

section Fields

variable [DecidableEq N] {L : Links H N} {h k : H} {n m : N} {o v : Option N}

@[simp] theorem setNext_head : (L.setNext o v).head = L.head := by cases o <;> rfl

@[simp] theorem setNext_prev : (L.setNext o v).prev = L.prev := by cases o <;> rfl

@[simp] theorem setNext_next :
    (L.setNext o v).next m = if o = some m then v else L.next m := by
  cases o with
  | none => rfl
  | some n =>
    by_cases hm : n = m
    · subst hm
      simp [Links.setNext]
    · simp [Links.setNext, hm, Function.update_of_ne (Ne.symm hm)]

@[simp] theorem setPrev_head : (L.setPrev o v).head = L.head := by cases o <;> rfl

@[simp] theorem setPrev_next : (L.setPrev o v).next = L.next := by cases o <;> rfl

@[simp] theorem setPrev_prev :
    (L.setPrev o v).prev m = if o = some m then v else L.prev m := by
  cases o with
  | none => rfl
  | some n =>
    by_cases hm : n = m
    · subst hm
      simp [Links.setPrev]
    · simp [Links.setPrev, hm, Function.update_of_ne (Ne.symm hm)]

theorem pushBack_next {last : N} : (L.pushBack last n).next m =
    if last = m then some n else if n = m then none else L.next m := by
  simp [Links.pushBack]

theorem pushBack_prev {last : N} : (L.pushBack last n).prev m =
    if n = m then some last else L.prev m := by
  simp [Links.pushBack]

theorem pushBack_head {last : N} : (L.pushBack last n).head = L.head := by
  simp [Links.pushBack]

variable [DecidableEq H]

omit [DecidableEq N] in
@[simp] theorem setHead_next : (L.setHead h v).next = L.next := rfl

omit [DecidableEq N] in
@[simp] theorem setHead_prev : (L.setHead h v).prev = L.prev := rfl

omit [DecidableEq N] in
@[simp] theorem setHead_head : (L.setHead h v).head k = if k = h then v else L.head k :=
  Function.update_apply L.head h v k

theorem remove_next : (L.remove h n).next m =
    if L.prev n = some m then L.next n else L.next m := by
  unfold Links.remove
  split <;> simp

theorem remove_prev : (L.remove h n).prev m =
    if L.next n = some m then L.prev n else L.prev m := by
  unfold Links.remove
  split <;> simp

theorem remove_head : (L.remove h n).head k =
    if k = h ∧ L.head h = some n then L.next n else L.head k := by
  unfold Links.remove
  split <;> rename_i hfront <;> simp [hfront]

theorem pushFront_next : (L.pushFront h n).next m = if n = m then L.head h else L.next m := by
  simp [Links.pushFront]

theorem pushFront_prev : (L.pushFront h n).prev m =
    if L.head h = some m then some n else if n = m then none else L.prev m := by
  simp [Links.pushFront]

theorem pushFront_head : (L.pushFront h n).head k = if k = h then some n else L.head k := by
  simp [Links.pushFront]

end Fields

section Lists

variable [DecidableEq H] [DecidableEq N] {L : Links H N} {h k : H} {n : N}
  {before cur : Option N} {xs ys : List N}

/-- The path around an element that is taken out. -/
theorem Path.remove (hp : L.Path before cur (xs ++ n :: ys)) (hnodup : (xs ++ n :: ys).Nodup)
    (hbefore : ∀ m, before = some m → m ∉ xs ++ n :: ys) :
    (L.remove h n).Path before (if xs = [] then L.next n else cur) (xs ++ ys) := by
  induction xs generalizing before cur with
  | nil =>
    obtain ⟨-, hprev, hrest⟩ := hp
    obtain ⟨hnew, hys⟩ := List.nodup_cons.mp hnodup
    rw [if_pos rfl, List.nil_append]
    cases ys with
    | nil => exact hrest
    | cons q ys =>
      obtain ⟨hq, -, hrest⟩ := hrest
      have hout : ∀ m ∈ q :: ys, L.prev n ≠ some m := by
        intro m hm heq
        exact hbefore m (hprev.symm.trans heq) (List.mem_cons_of_mem n hm)
      refine ⟨hq, ?_, ?_⟩
      · rw [remove_prev, if_pos hq, hprev]
      · rw [remove_next, if_neg (hout q List.mem_cons_self)]
        apply Path.frame hrest
        · intro m hm
          rw [remove_next, if_neg (hout m (List.mem_cons_of_mem q hm))]
        · intro m hm
          rw [remove_prev, if_neg]
          rw [hq, Option.some.injEq]
          exact fun heq => (List.nodup_cons.mp hys).1 (heq ▸ hm)
  | cons x xs ih =>
    have hlinks := Path.links hp
    obtain ⟨hcur, hprev, hrest⟩ := hp
    obtain ⟨hnew, htail⟩ := List.nodup_cons.mp hnodup
    have hrest' := ih hrest htail fun m hm => by
      cases hm
      exact hnew
    rw [if_neg (List.cons_ne_nil x xs), List.cons_append]
    refine ⟨hcur, ?_, ?_⟩
    · rw [remove_prev, if_neg, hprev]
      rw [hlinks.2]
      intro heq
      exact hnew (List.mem_append_right xs (List.mem_cons_of_mem n (List.mem_of_head? heq)))
    · rw [remove_next]
      cases xs with
      | nil =>
        have hback : L.prev n = some x := hlinks.1
        rw [if_pos hback]
        exact hrest'
      | cons y xs =>
        rw [if_neg]
        · exact hrest'
        · rw [hlinks.1]
          intro heq
          have hmem : x ∈ y :: xs := by
            rw [List.getLast?_cons_cons, List.getLast?_eq_some_getLast (List.cons_ne_nil y xs)]
              at heq
            cases heq
            exact List.getLast_mem _
          exact hnew (List.mem_append_left _ hmem)

omit [DecidableEq H] in
theorem Path.pushBack {last : N} (hp : L.Path before cur xs) (hlast : xs.getLast? = some last)
    (hnodup : xs.Nodup) (hn : n ∉ xs) : (L.pushBack last n).Path before cur (xs ++ [n]) := by
  induction xs generalizing before cur with
  | nil => cases hlast
  | cons x xs ih =>
    obtain ⟨hcur, hprev, hrest⟩ := hp
    obtain ⟨hnew, htail⟩ := List.nodup_cons.mp hnodup
    obtain ⟨hne, hnxs⟩ := not_or.mp (fun h => hn (List.mem_cons.mpr h))
    refine ⟨hcur, ?_, ?_⟩
    · rw [pushBack_prev, if_neg hne, hprev]
    · rw [pushBack_next]
      cases xs with
      | nil =>
        obtain rfl : x = last := Option.some.inj hlast
        rw [if_pos rfl]
        refine ⟨rfl, ?_, ?_⟩
        · rw [pushBack_prev, if_pos rfl]
        · rw [pushBack_next, if_neg (Ne.symm hne), if_pos rfl]
          rfl
      | cons y xs =>
        have hlast' : (y :: xs).getLast? = some last := by rwa [List.getLast?_cons_cons] at hlast
        have hout : last ≠ x := by
          rintro rfl
          exact hnew (List.mem_of_getLast? hlast')
        rw [if_neg hout, if_neg hne]
        exact ih hrest hlast' htail hnxs

end Lists

section All

variable [DecidableEq H] [DecidableEq N] {L : Links H N} {C : H → List N} {h k : H} {n m : N}

theorem HoldsAll.remove (hall : HoldsAll L C) (hn : n ∈ C h) :
    HoldsAll (L.remove h n) (Function.update C h ((C h).erase n)) := by
  have hsub : ∀ k m, m ∈ Function.update C h ((C h).erase n) k → m ∈ C k := by
    intro k m hm
    by_cases hk : k = h
    · subst hk
      rw [Function.update_self] at hm
      exact List.mem_of_mem_erase hm
    · rwa [Function.update_of_ne hk] at hm
  refine ⟨fun k => ?_, fun k l m hk hl => hall.apart k l m (hsub k m hk) (hsub l m hl)⟩
  by_cases hk : k = h
  · subst hk
    obtain ⟨hpath, hnodup⟩ := hall.holds k
    rw [Function.update_self]
    refine ⟨?_, hnodup.erase n⟩
    obtain ⟨xs, ys, hsplit⟩ := List.append_of_mem hn
    rw [hsplit] at hpath hnodup ⊢
    have hnot : n ∉ xs := fun hin =>
      (List.disjoint_of_nodup_append hnodup) hin List.mem_cons_self
    have herase : (xs ++ n :: ys).erase n = xs ++ ys := by
      rw [List.erase_append_right _ hnot, List.erase_cons_head]
    have hhead : (L.remove k n).head k = if xs = [] then L.next n else L.head k := by
      rw [remove_head]
      have hcur := Path.cur_eq hpath
      cases xs with
      | nil => rw [if_pos ⟨rfl, hcur⟩, if_pos rfl]
      | cons x xs =>
        have hne : L.head k ≠ some n := by
          rw [hcur]
          intro heq
          cases heq
          exact hnot List.mem_cons_self
        rw [if_neg fun h => hne h.2, if_neg (List.cons_ne_nil x xs)]
    rw [herase, hhead]
    exact Path.remove hpath hnodup nofun
  · rw [Function.update_of_ne hk]
    have hout : ∀ m ∈ C k, L.prev n ≠ some m ∧ L.next n ≠ some m := fun m hm =>
      ⟨fun heq => hk (hall.apart k h m hm ((hall.neighbours hn).1 heq)),
        fun heq => hk (hall.apart k h m hm ((hall.neighbours hn).2 heq))⟩
    refine ⟨?_, (hall.holds k).2⟩
    rw [remove_head, if_neg fun h => hk h.1]
    apply Path.frame (hall.holds k).1
    · intro m hm
      rw [remove_next, if_neg (hout m hm).1]
    · intro m hm
      rw [remove_prev, if_neg (hout m hm).2]

theorem HoldsAll.pushFront (hall : HoldsAll L C) (hn : ∀ k, n ∉ C k) :
    HoldsAll (L.pushFront h n) (Function.update C h (n :: C h)) := by
  have hmem : ∀ k m, m ∈ Function.update C h (n :: C h) k ↔ m ∈ C k ∨ (k = h ∧ m = n) := by
    intro k m
    by_cases hk : k = h
    · subst hk
      rw [Function.update_self, List.mem_cons]
      tauto
    · rw [Function.update_of_ne hk]
      tauto
  have hhead : ∀ m, L.head h = some m → m ∈ C h := fun m hm =>
    List.mem_of_head? ((Holds.head_eq (hall.holds h)).symm.trans hm)
  constructor
  case apart =>
    intro k l m hk hl
    rw [hmem] at hk hl
    rcases hk with hk | ⟨rfl, rfl⟩
    · rcases hl with hl | ⟨rfl, rfl⟩
      · exact hall.apart k l m hk hl
      · exact absurd hk (hn k)
    · rcases hl with hl | ⟨rfl, -⟩
      · exact absurd hl (hn l)
      · rfl
  case holds =>
    intro k
    by_cases hk : k = h
    · subst hk
      obtain ⟨hpath, hnodup⟩ := hall.holds k
      rw [Function.update_self]
      refine ⟨?_, List.nodup_cons.mpr ⟨hn k, hnodup⟩⟩
      rw [pushFront_head, if_pos rfl]
      refine ⟨rfl, ?_, ?_⟩
      · rw [pushFront_prev, if_neg fun heq => hn k (hhead n heq), if_pos rfl]
      · rw [pushFront_next, if_pos rfl]
        cases hC : C k with
        | nil => exact (Holds.head_eq (hall.holds k)).trans (by rw [hC]; rfl)
        | cons m xs =>
          rw [hC] at hpath hnodup
          obtain ⟨hcur, -, hrest⟩ := hpath
          have hother : ∀ x ∈ m :: xs, n ≠ x := by
            rintro x hx rfl
            exact hn k (hC ▸ hx)
          refine ⟨hcur, ?_, ?_⟩
          · rw [pushFront_prev, if_pos hcur]
          · rw [pushFront_next, if_neg (hother m List.mem_cons_self)]
            apply Path.frame hrest
            · intro x hx
              rw [pushFront_next, if_neg (hother x (List.mem_cons_of_mem m hx))]
            · intro x hx
              rw [pushFront_prev, if_neg, if_neg (hother x (List.mem_cons_of_mem m hx))]
              rw [hcur, Option.some.injEq]
              rintro rfl
              exact (List.nodup_cons.mp hnodup).1 hx
    · rw [Function.update_of_ne hk]
      refine ⟨?_, (hall.holds k).2⟩
      rw [pushFront_head, if_neg hk]
      have hother : ∀ m ∈ C k, n ≠ m := by
        rintro m hm rfl
        exact hn k hm
      apply Path.frame (hall.holds k).1
      · intro m hm
        rw [pushFront_next, if_neg (hother m hm)]
      · intro m hm
        rw [pushFront_prev, if_neg fun heq => hk (hall.apart k h m hm (hhead m heq)),
          if_neg (hother m hm)]

omit [DecidableEq H] in
/-- A list by itself grows at its end. -/
theorem Holds.pushBack {xs : List N} {last : N} (hl : L.Holds h xs)
    (hlast : xs.getLast? = some last) (hn : n ∉ xs) : (L.pushBack last n).Holds h (xs ++ [n]) := by
  obtain ⟨hpath, hnodup⟩ := hl
  refine ⟨?_, List.concat_eq_append ▸ hnodup.concat hn⟩
  rw [pushBack_head]
  exact Path.pushBack hpath hlast hnodup hn

end All

end BackendProxy.Lib.Dlist
