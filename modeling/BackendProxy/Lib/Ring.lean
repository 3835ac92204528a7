import Mathlib.Data.List.Basic
import Mathlib.Tactic.Common

namespace BackendProxy.Lib.Ring

variable {α : Type*}

/-- Successor of an index on a ring of `c` cells. -/
def next (c i : Nat) : Nat := (i + 1) % c

/-- Number of cells between the read index `t` and the write index `h`. -/
def len (c h t : Nat) : Nat := if t ≤ h then h - t else c - t + h

theorem next_lt {c i : Nat} (h : i < c) : next c i < c :=
  Nat.mod_lt _ (by omega)

/-- Wrapping by subtraction is the same successor. -/
theorem next_eq_sub {c i : Nat} (h : i < c) :
    next c i = if c ≤ i + 1 then i + 1 - c else i + 1 := by
  unfold next
  split
  · have : i + 1 = c := by omega
    simp [this]
  · exact Nat.mod_eq_of_lt (by omega)

/-- The successor in 16 bits, wrapped by subtraction. -/
theorem toNat_step_sub {c i : UInt16} (h : i.toNat < c.toNat) :
    (if i + 1 ≥ c then i + 1 - c else i + 1).toNat = next c.toNat i.toNat := by
  have hc := UInt16.toNat_lt c
  have hs : (i + 1).toNat = i.toNat + 1 := by
    rw [UInt16.toNat_add, UInt16.toNat_one]
    omega
  rw [next_eq_sub h]
  simp only [ge_iff_le, UInt16.le_iff_toNat_le, hs]
  split
  · rename_i hle
    rw [UInt16.toNat_sub_of_le _ _ (by rwa [UInt16.le_iff_toNat_le, hs]), hs]
  · exact hs

/-- The successor in 16 bits, wrapped by the remainder. -/
theorem toNat_step_mod {c i : UInt16} (h : i.toNat < c.toNat) :
    (UInt16.ofNat ((i.toNat + 1) % c.toNat)).toNat = next c.toNat i.toNat := by
  have hc := UInt16.toNat_lt c
  have hn := next_lt h
  unfold next at *
  rw [UInt16.toNat_ofNat']
  exact Nat.mod_eq_of_lt (by omega)

/-- The predecessor in 16 bits. -/
theorem toNat_step_back {c i : UInt16} (hc : 0 < c.toNat) :
    (if i = 0 then c - 1 else i - 1).toNat =
      if i.toNat = 0 then c.toNat - 1 else i.toNat - 1 := by
  have hpred : ∀ x : UInt16, 0 < x.toNat → (x - 1).toNat = x.toNat - 1 := by
    intro x hx
    have hle : (1 : UInt16) ≤ x := UInt16.le_iff_toNat_le.mpr hx
    rw [UInt16.toNat_sub_of_le _ _ hle, UInt16.toNat_one]
  have hzero : i = 0 ↔ i.toNat = 0 := UInt16.toNat_inj.symm
  by_cases hi : i.toNat = 0
  · rw [if_pos (hzero.mpr hi), if_pos hi]
    exact hpred c hc
  · rw [if_neg (mt hzero.mp hi), if_neg hi]
    exact hpred i (Nat.pos_of_ne_zero hi)

theorem len_lt {c h t : Nat} (hh : h < c) (ht : t < c) : len c h t < c := by
  unfold len; split <;> omega

theorem len_eq_zero {c h t : Nat} (ht : t < c) : len c h t = 0 ↔ t = h := by
  unfold len; split <;> omega

/-- The ring is full when one more step of the write index would meet the read index. -/
theorem next_eq_iff_full {c h t : Nat} (hh : h < c) (ht : t < c) :
    next c h = t ↔ len c h t = c - 1 := by
  rw [next_eq_sub hh]
  unfold len
  split <;> split <;> omega

theorem len_push {c h t : Nat} (hh : h < c) (ht : t < c) (hf : next c h ≠ t) :
    len c (next c h) t = len c h t + 1 := by
  rw [next_eq_sub hh] at hf ⊢
  unfold len
  split at hf <;> split <;> split <;> split <;> omega

theorem len_pop {c h t : Nat} (hh : h < c) (ht : t < c) (he : t ≠ h) :
    len c h (next c t) = len c h t - 1 := by
  rw [next_eq_sub ht]
  unfold len
  split <;> split <;> split <;> omega

/-- The write index is the cell after the last occupied one. -/
theorem write_cell {c h t : Nat} (hh : h < c) (ht : t < c) : (t + len c h t) % c = h := by
  unfold len
  split
  · rw [show t + (h - t) = h by omega]
    exact Nat.mod_eq_of_lt hh
  · rw [show t + (c - t + h) = h + c by omega, Nat.add_mod_right]
    exact Nat.mod_eq_of_lt hh

/-- The occupied cells of a ring are pairwise different, and none is the write cell. -/
theorem cell_ne_write {c h t i : Nat} (hh : h < c) (ht : t < c) (hi : i < len c h t) :
    (t + i) % c ≠ h := by
  have hl := len_lt hh ht
  intro e
  unfold len at hi hl
  by_cases hc : t + i < c
  · rw [Nat.mod_eq_of_lt hc] at e
    split at hi <;> omega
  · have hm : (t + i) % c = t + i - c := by
      rw [Nat.mod_eq_sub_mod (by omega)]
      exact Nat.mod_eq_of_lt (by split at hi <;> omega)
    rw [hm] at e
    split at hi <;> omega

theorem cell_after_pop {c t i : Nat} : (next c t + i) % c = (t + (i + 1)) % c := by
  unfold next
  rw [Nat.mod_add_mod]
  congr 1
  omega

/-- The ring holds the list `l`, oldest first, where `P i x` says that cell `i` carries `x`. -/
structure Holds (c h t : Nat) (P : Nat → α → Prop) (l : List α) : Prop where
  write_lt : h < c
  read_lt : t < c
  length : l.length = len c h t
  cell : ∀ i (hi : i < l.length), P ((t + i) % c) l[i]

namespace Holds

variable {c h t : Nat} {P Q : Nat → α → Prop} {l : List α}

theorem empty (hc : 0 < c) : Holds c 0 0 P [] :=
  ⟨hc, hc, rfl, by simp⟩

theorem length_le (hr : Holds c h t P l) : l.length ≤ c - 1 := by
  have := len_lt hr.write_lt hr.read_lt
  rw [hr.length]
  omega

theorem read_eq_write_iff (hr : Holds c h t P l) : t = h ↔ l = [] := by
  rw [← len_eq_zero hr.read_lt, ← hr.length, List.length_eq_zero_iff]

theorem full_iff (hr : Holds c h t P l) : next c h = t ↔ l.length = c - 1 := by
  rw [next_eq_iff_full hr.write_lt hr.read_lt, hr.length]

/-- Changing the memory in a way that keeps every occupied cell keeps the contents. -/
theorem frame (hr : Holds c h t P l)
    (keep : ∀ i (hi : i < l.length), P ((t + i) % c) l[i] → Q ((t + i) % c) l[i]) :
    Holds c h t Q l :=
  ⟨hr.write_lt, hr.read_lt, hr.length, fun i hi => keep i hi (hr.cell i hi)⟩

/-- Filling the write cell and advancing appends one element. -/
theorem push (hr : Holds c h t P l) {x : α} (room : next c h ≠ t)
    (filled : Q h x) (keep : ∀ i y, i ≠ h → P i y → Q i y) :
    Holds c (next c h) t Q (l ++ [x]) := by
  refine ⟨next_lt hr.write_lt, hr.read_lt, ?_, ?_⟩
  · rw [len_push hr.write_lt hr.read_lt room, ← hr.length]
    simp
  · intro i hi
    rcases Nat.lt_or_ge i l.length with hl | hl
    · rw [List.getElem_append_left hl]
      have hc : i < len c h t := hr.length ▸ hl
      exact keep _ _ (cell_ne_write hr.write_lt hr.read_lt hc) (hr.cell i hl)
    · have he : i = l.length := by simp at hi; omega
      have hw : (t + i) % c = h := by
        rw [he, hr.length]
        exact write_cell hr.write_lt hr.read_lt
      rw [hw]
      simpa [he] using filled

/-- Advancing the read index drops the oldest element. -/
theorem pop {x : α} (hr : Holds c h t P (x :: l)) : Holds c h (next c t) P l := by
  have hne : t ≠ h := by
    intro e
    exact absurd (hr.read_eq_write_iff.mp e) (by simp)
  refine ⟨hr.write_lt, next_lt hr.read_lt, ?_, ?_⟩
  · rw [len_pop hr.write_lt hr.read_lt hne, ← hr.length]
    simp
  · intro i hi
    rw [cell_after_pop]
    have := hr.cell (i + 1) (by simpa using hi)
    simpa using this

/-- The read cell carries the oldest element. -/
theorem front {x : α} (hr : Holds c h t P (x :: l)) : P t x := by
  have := hr.cell 0 (by simp)
  simpa [Nat.mod_eq_of_lt hr.read_lt] using this

end Holds

end BackendProxy.Lib.Ring
