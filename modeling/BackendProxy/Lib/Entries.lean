import Mathlib.Data.List.Nodup
import Mathlib.Tactic.Common

namespace BackendProxy.Lib

/-! Lists of entries by key, in the order in which the keys first came. -/

section Entries

variable {κ ν : Type*} [DecidableEq κ]

/-- Give a key its value where the key is, or behind all others. -/
def assign (key : κ) (val : ν) : List (κ × ν) → List (κ × ν)
  | [] => [(key, val)]
  | entry :: entries =>
    if entry.1 = key then (key, val) :: entries else entry :: assign key val entries

def entryAt (key : κ) : List (κ × ν) → Option ν
  | [] => none
  | entry :: entries => if entry.1 = key then some entry.2 else entryAt key entries

variable {key : κ} {val : ν} {entries : List (κ × ν)}

theorem entryAt_eq_none_iff : entryAt key entries = none ↔ key ∉ entries.map Prod.fst := by
  induction entries with
  | nil => simp [entryAt]
  | cons entry entries ih =>
    simp only [entryAt, List.map_cons, List.mem_cons, not_or, ← ih]
    split
    · rename_i heq
      simp [heq]
    · rename_i hne
      simp [Ne.symm hne]

theorem entryAt_mem {val : ν} (h : entryAt key entries = some val) : (key, val) ∈ entries := by
  induction entries with
  | nil => cases h
  | cons entry entries ih =>
    simp only [entryAt] at h
    split at h
    · rename_i heq
      cases h
      rw [← heq]
      exact List.mem_cons_self
    · exact List.mem_cons_of_mem _ (ih h)

theorem entryAt_of_mem (hnodup : (entries.map Prod.fst).Nodup) (h : (key, val) ∈ entries) :
    entryAt key entries = some val := by
  induction entries with
  | nil => cases h
  | cons entry entries ih =>
    obtain ⟨hnew, hnodup⟩ := List.nodup_cons.mp hnodup
    rcases List.mem_cons.mp h with rfl | h
    · simp [entryAt]
    · have hne : entry.1 ≠ key := fun heq => hnew (heq ▸ List.mem_map_of_mem h)
      simp only [entryAt, if_neg hne]
      exact ih hnodup h

theorem entryAt_eq_some_iff (hnodup : (entries.map Prod.fst).Nodup) :
    entryAt key entries = some val ↔ (key, val) ∈ entries :=
  ⟨entryAt_mem, entryAt_of_mem hnodup⟩

/-- The order of the entries does not matter to the values. -/
theorem entryAt_congr {more : List (κ × ν)} (hentries : (entries.map Prod.fst).Nodup)
    (hmore : (more.map Prod.fst).Nodup) (h : ∀ entry, entry ∈ entries ↔ entry ∈ more) :
    entryAt key entries = entryAt key more := by
  apply Option.ext
  intro val
  rw [entryAt_eq_some_iff hentries, entryAt_eq_some_iff hmore]
  exact h (key, val)

/-- A new key goes behind the others. -/
theorem assign_new (h : key ∉ entries.map Prod.fst) :
    assign key val entries = entries ++ [(key, val)] := by
  induction entries with
  | nil => rfl
  | cons entry entries ih =>
    rw [List.map_cons, List.mem_cons, not_or] at h
    simp only [assign, if_neg (Ne.symm h.1), List.cons_append]
    exact congrArg (entry :: ·) (ih h.2)

/-- An old key keeps its place. -/
theorem assign_keys :
    (assign key val entries).map Prod.fst =
      entries.map Prod.fst ++ if key ∈ entries.map Prod.fst then [] else [key] := by
  induction entries with
  | nil => rfl
  | cons entry entries ih =>
    simp only [assign]
    split
    · rename_i heq
      simp [heq]
    · rename_i hne
      rw [List.map_cons, ih]
      by_cases hmem : key ∈ entries.map Prod.fst
      · simp [hmem]
      · simp [hmem, Ne.symm hne]

theorem nodup_assign (h : (entries.map Prod.fst).Nodup) :
    ((assign key val entries).map Prod.fst).Nodup := by
  rw [assign_keys]
  split
  · rwa [List.append_nil]
  · rename_i hnew
    rw [← List.concat_eq_append]
    exact h.concat hnew

/-- Entries with new keys, one after the other. -/
theorem foldl_assign_new {more : List (κ × ν)}
    (h : ((entries ++ more).map Prod.fst).Nodup) :
    more.foldl (fun entries entry => assign entry.1 entry.2 entries) entries =
      entries ++ more := by
  induction more generalizing entries with
  | nil => rw [List.append_nil]; rfl
  | cons entry more ih =>
    have hsplit : entries ++ entry :: more = (entries ++ [entry]) ++ more := by simp
    have hnew : entry.1 ∉ entries.map Prod.fst := by
      rw [List.map_append, List.map_cons] at h
      intro hin
      exact (List.disjoint_of_nodup_append h) hin List.mem_cons_self
    rw [List.foldl_cons, assign_new hnew, ih (hsplit ▸ h), ← hsplit]

end Entries

end BackendProxy.Lib
