import Mathlib.Data.List.Basic
import Mathlib.Tactic.Common

namespace BackendProxy.Lib

variable {α : Type*}

/-- Copy a list over the cells from `off` on; every other cell keeps its value. -/
def store (m : Nat → α) (off : Nat) (bs : List α) : Nat → α :=
  fun a => if off ≤ a then (bs[a - off]?).getD (m a) else m a

/-- The `len` cells from `off` on. -/
def load (m : Nat → α) (off len : Nat) : List α :=
  (List.range len).map fun i => m (off + i)

@[simp] theorem length_load (m : Nat → α) (off len : Nat) :
    (load m off len).length = len := by
  simp [load]

@[simp] theorem getElem_load (m : Nat → α) (off len i : Nat) (h : i < (load m off len).length) :
    (load m off len)[i] = m (off + i) := by
  simp [load]

@[simp] theorem load_zero (m : Nat → α) (off : Nat) : load m off 0 = [] := rfl

@[simp] theorem store_nil (m : Nat → α) (off : Nat) : store m off [] = m := by
  funext a
  simp [store]

theorem store_inside (m : Nat → α) (off i : Nat) (bs : List α) (h : i < bs.length) :
    store m off bs (off + i) = bs[i] := by
  simp [store, h]

theorem store_outside (m : Nat → α) (off a : Nat) (bs : List α)
    (h : a < off ∨ off + bs.length ≤ a) : store m off bs a = m a := by
  unfold store
  split
  · rw [List.getElem?_eq_none (by omega)]
    rfl
  · rfl

/-- A prefix of what was stored is read back. -/
theorem load_store (m : Nat → α) (off n : Nat) (bs : List α) (h : n ≤ bs.length) :
    load (store m off bs) off n = bs.take n := by
  apply List.ext_getElem
  · simp [h]
  · intro i hi _
    simp only [length_load] at hi
    rw [getElem_load, store_inside _ _ _ _ (by omega), List.getElem_take]

/-- Cells apart from a store are read as before. -/
theorem load_store_apart (m : Nat → α) (off off' n : Nat) (bs : List α)
    (h : off' + n ≤ off ∨ off + bs.length ≤ off') :
    load (store m off bs) off' n = load m off' n := by
  apply List.ext_getElem
  · simp
  · intro i hi _
    simp only [length_load] at hi
    rw [getElem_load, getElem_load, store_outside _ _ _ _ (by omega)]

/-- A longer read starts with the shorter one. -/
theorem take_load (m : Nat → α) (off n len : Nat) :
    (load m off len).take n = load m off (min n len) := by
  apply List.ext_getElem
  · simp
  · intro i hi hj
    simp

theorem load_append (m : Nat → α) (off a b : Nat) :
    load m off (a + b) = load m off a ++ load m (off + a) b := by
  simp only [load, List.range_add, List.map_append, List.map_map]
  congr 1
  apply List.map_congr_left
  intro i _
  simp [Nat.add_assoc]

/-- Storing a concatenation is storing its two halves one after the other. -/
theorem store_append (m : Nat → α) (off : Nat) (xs ys : List α) :
    store m off (xs ++ ys) = store (store m off xs) (off + xs.length) ys := by
  funext a
  by_cases h1 : a < off
  · simp [store, Nat.not_le.mpr h1, show ¬ off + xs.length ≤ a by omega]
  · by_cases h2 : a < off + xs.length
    · rw [store_outside _ (off + xs.length) _ _ (Or.inl h2)]
      have h3 : a - off < xs.length := by omega
      simp [store, Nat.not_lt.mp h1, List.getElem?_append_left h3]
    · have h3 : xs.length ≤ a - off := by omega
      have h4 : a - off - xs.length = a - (off + xs.length) := by omega
      simp [store, Nat.not_lt.mp h1, Nat.not_lt.mp h2, List.getElem?_append_right h3, h4,
        List.getElem?_eq_none h3]

/-- Stores to separate ranges may be swapped. -/
theorem store_comm (m : Nat → α) (a b : Nat) (xs ys : List α)
    (h : a + xs.length ≤ b ∨ b + ys.length ≤ a) :
    store (store m a xs) b ys = store (store m b ys) a xs := by
  funext i
  by_cases hb : b ≤ i ∧ i < b + ys.length
  · rw [store_outside (store m b ys) a i xs (by omega)]
    obtain ⟨j, rfl⟩ := Nat.exists_eq_add_of_le hb.1
    rw [store_inside _ b j ys (by omega), store_inside _ b j ys (by omega)]
  · rw [store_outside (store m a xs) b i ys (by omega)]
    by_cases ha : a ≤ i ∧ i < a + xs.length
    · obtain ⟨j, rfl⟩ := Nat.exists_eq_add_of_le ha.1
      rw [store_inside _ a j xs (by omega), store_inside _ a j xs (by omega)]
    · rw [store_outside m a i xs (by omega), store_outside _ a i xs (by omega),
        store_outside m b i ys (by omega)]

/-- The bytes behind a header of known length. -/
theorem store_behind (m : Nat → α) (pre l : List α) (k : Nat) {x : α} (h : l[k]? = some x) :
    store m 0 (pre ++ l) (pre.length + k) = x := by
  simp [store, List.getElem?_append_right, h]

/-- A part of what was stored is read back from where it lies. -/
theorem load_behind (m : Nat → α) (pre l rest : List α) :
    load (store m 0 (pre ++ l ++ rest)) pre.length l.length = l := by
  rw [List.append_assoc, store_append, store_append, Nat.zero_add,
    load_store_apart _ _ _ _ _ (Or.inl (Nat.le_refl _)), load_store _ _ _ _ (Nat.le_refl _),
    List.take_length]

/-- The same, with the place and the length of the part given as numbers. -/
theorem load_part (m : Nat → α) {all : List α} (pre l rest : List α) {off n : Nat}
    (hall : all = pre ++ l ++ rest) (hoff : pre.length = off) (hn : l.length = n) :
    load (store m 0 all) off n = l := by
  subst hall hoff hn
  exact load_behind m pre l rest

theorem load_congr {m m' : Nat → α} {off off' n : Nat}
    (h : ∀ i < n, m (off + i) = m' (off' + i)) : load m off n = load m' off' n := by
  apply List.map_congr_left
  intro i hi
  exact h i (List.mem_range.mp hi)

/-! The cells a function of a memory depends on, and those it may change. -/

def ReadsAt {β : Type*} (f : (Nat → α) → β) (a : Nat) : Prop :=
  ∃ m v, f (Function.update m a v) ≠ f m

def WritesAt (f : (Nat → α) → Nat → α) (a : Nat) : Prop :=
  ∃ m, f m a ≠ m a

theorem readsAt_load {x y : α} (hxy : x ≠ y) (off n a : Nat) :
    ReadsAt (fun m : Nat → α => load m off n) a ↔ off ≤ a ∧ a < off + n := by
  constructor
  · intro h
    obtain ⟨m, v, hne⟩ := h
    by_contra hout
    apply hne
    apply load_congr
    intro i hi
    have hne' : off + i ≠ a := by omega
    exact Function.update_of_ne hne' v m
  · intro hin
    refine ⟨fun _ => x, y, fun heq => hxy ?_⟩
    have hi : a - off < n := by omega
    have hcell := congrArg (fun l => l[a - off]?) heq
    simp only [load, List.getElem?_map, List.getElem?_range hi, Option.map_some,
      Option.some.injEq, show off + (a - off) = a by omega, Function.update_self] at hcell
    exact hcell.symm

theorem writesAt_store {x y : α} (hxy : x ≠ y) (off a : Nat) (bs : List α) :
    WritesAt (fun m => store m off bs) a ↔ off ≤ a ∧ a < off + bs.length := by
  constructor
  · intro h
    obtain ⟨m, hne⟩ := h
    by_contra hout
    exact hne (store_outside m off a bs (by omega))
  · intro hin
    have hi : a - off < bs.length := by omega
    have hother : ∃ z, z ≠ bs[a - off] := by
      by_cases hx : x = bs[a - off]
      · exact ⟨y, fun hy => hxy (hx.trans hy.symm)⟩
      · exact ⟨x, hx⟩
    obtain ⟨z, hz⟩ := hother
    refine ⟨fun _ => z, ?_⟩
    have hcell := store_inside (fun _ => z) off (a - off) bs hi
    rw [show off + (a - off) = a by omega] at hcell
    intro heq
    exact hz (heq.symm.trans hcell)

end BackendProxy.Lib
