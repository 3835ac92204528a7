import Mathlib.Tactic.Common
import Mathlib.Data.List.Induction

namespace BackendProxy.Lib

/-! Logs that grow at their end, where each entry is justified by the entries before it. -/

inductive Justified {α : Type*} (J : List α → α → Prop) : List α → Prop where
  | nil : Justified J []
  | snoc {log : List α} {x : α} (h : Justified J log) (hx : J log x) : Justified J (log ++ [x])

section Justified

variable {α : Type*} {J : List α → α → Prop} {log xs : List α}

/-- Whatever came after an entry, it is justified by what came before. -/
theorem Justified.entry {before after : List α} {x : α} (h : Justified J (before ++ x :: after)) :
    J before x := by
  generalize hlog : before ++ x :: after = log at h
  induction h generalizing after with
  | nil => simp at hlog
  | @snoc log y _ hy ih =>
    rcases List.eq_nil_or_concat after with rfl | ⟨after, z, rfl⟩
    · obtain ⟨rfl, hxy⟩ := List.append_inj' hlog rfl
      cases hxy
      exact hy
    · rw [List.concat_eq_append, ← List.cons_append, ← List.append_assoc] at hlog
      exact ih (List.append_inj' hlog rfl).1

/-- Entries may be added together if none depends on which of the others are there. -/
theorem Justified.append (h : Justified J log)
    (hxs : ∀ ys x, x ∈ xs → ys ⊆ xs → J (log ++ ys) x) : Justified J (log ++ xs) := by
  induction xs using List.reverseRecOn with
  | nil =>
    rw [List.append_nil]
    exact h
  | append_singleton xs x ih =>
    have hsub : xs ⊆ xs ++ [x] := List.subset_append_left xs [x]
    rw [← List.append_assoc]
    refine .snoc (ih fun ys y hy hys => ?_) (hxs xs x (by simp) hsub)
    exact hxs ys y (hsub hy) (List.Subset.trans hys hsub)

end Justified

end BackendProxy.Lib
