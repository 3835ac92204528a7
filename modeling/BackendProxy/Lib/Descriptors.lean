import Mathlib.Data.List.Basic
import Mathlib.Tactic.Common

namespace BackendProxy.Lib

variable {α : Type*}

/-! Descriptors of open objects: a new object gets the lowest number that is free. -/

structure Descriptors (α : Type*) where
  entries : List (Option α)

namespace Descriptors

variable (t : Descriptors α)

def get (n : Nat) : Option α := (t.entries[n]?).join

/-- The lowest number that is free. -/
def lowest : Nat := t.entries.findIdx fun entry => entry.isNone

def opened (x : α) : Descriptors α :=
  { entries :=
      if t.lowest < t.entries.length then t.entries.set t.lowest (some x)
      else t.entries ++ [some x] }

def closed (n : Nat) : Descriptors α := { entries := t.entries.set n none }

/-- Change of an open object; a number that is free stays so. -/
def changed (n : Nat) (f : α → α) : Descriptors α :=
  { entries := t.entries.set n ((t.get n).map f) }

@[simp] theorem get_lowest : t.get t.lowest = none := by
  unfold get
  cases hentry : t.entries[t.lowest]? with
  | none => rfl
  | some entry =>
    obtain ⟨hlt, hget⟩ := List.getElem?_eq_some_iff.mp hentry
    have hnone : entry.isNone = true := by
      rw [← hget]
      exact List.findIdx_getElem (w := hlt)
    exact Option.isNone_iff_eq_none.mp hnone

@[simp] theorem get_opened (x : α) (n : Nat) :
    (t.opened x).get n = if n = t.lowest then some x else t.get n := by
  have hle : t.lowest ≤ t.entries.length := List.findIdx_le_length
  unfold opened get
  rcases Nat.lt_or_ge t.lowest t.entries.length with hlt | hge
  · rw [if_pos hlt]
    by_cases heq : n = t.lowest
    · rw [if_pos heq, heq, List.getElem?_set_self hlt]
      rfl
    · rw [if_neg heq, List.getElem?_set_ne (Ne.symm heq)]
  · have hlen : t.lowest = t.entries.length := Nat.le_antisymm hle hge
    rw [if_neg (Nat.not_lt.mpr hge), hlen]
    by_cases heq : n = t.entries.length
    · rw [if_pos heq, heq, List.getElem?_concat_length]
      rfl
    · rw [if_neg heq]
      by_cases hless : n < t.entries.length
      · rw [List.getElem?_append_left hless]
      · rw [List.getElem?_eq_none (by rw [List.length_append, List.length_singleton]; omega),
          List.getElem?_eq_none (by omega)]

theorem get_set (n m : Nat) (x : Option α) (h : t.get n = none → x = none) :
    ({ entries := t.entries.set n x } : Descriptors α).get m = if m = n then x else t.get m := by
  unfold get at *
  simp only [List.getElem?_set, eq_comm (a := n)]
  split
  · rename_i heq
    subst heq
    split
    · rfl
    · rename_i hge
      rw [h (by rw [List.getElem?_eq_none (by omega)]; rfl)]
      rfl
  · rfl

@[simp] theorem get_closed (n m : Nat) : (t.closed n).get m = if m = n then none else t.get m :=
  t.get_set n m none fun _ => rfl

@[simp] theorem get_changed (n m : Nat) (f : α → α) :
    (t.changed n f).get m = if m = n then (t.get n).map f else t.get m := by
  apply t.get_set
  intro hnone
  rw [hnone]
  rfl

/-- To open and close an object leaves the others as they were. -/
theorem get_closed_opened (x : α) (m : Nat) : ((t.opened x).closed t.lowest).get m = t.get m := by
  rw [get_closed, get_opened]
  split
  · rename_i heq
    rw [heq, get_lowest]
  · rfl

end Descriptors

end BackendProxy.Lib
