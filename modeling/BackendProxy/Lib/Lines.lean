import Mathlib.Data.List.Basic
import Mathlib.Tactic.Common

namespace BackendProxy.Lib

/-! A text cut behind each of its line ends. -/

section Lines

variable {α : Type*} (ends : α → Bool)

/-- The lines with their ends; what follows the last end is a line of its own. -/
def cutBehind : List α → List (List α)
  | [] => []
  | c :: s =>
    if ends c then [c] :: cutBehind s
    else
      match cutBehind s with
      | [] => [[c]]
      | line :: lines => (c :: line) :: lines

variable {ends} {body rest : List α} {c : α}

theorem cutBehind_line (hbody : ∀ x ∈ body, ends x = false) (hc : ends c = true) :
    cutBehind ends (body ++ c :: rest) = (body ++ [c]) :: cutBehind ends rest := by
  induction body with
  | nil => simp [cutBehind, hc]
  | cons x body ih =>
    have hx : ends x = false := hbody x List.mem_cons_self
    have hrest := ih fun y hy => hbody y (List.mem_cons_of_mem x hy)
    simp only [List.cons_append, cutBehind, hx, hrest]
    rfl

theorem cutBehind_last (hbody : ∀ x ∈ body, ends x = false) (hne : body ≠ []) :
    cutBehind ends body = [body] := by
  induction body with
  | nil => exact absurd rfl hne
  | cons x body ih =>
    have hx : ends x = false := hbody x List.mem_cons_self
    simp only [cutBehind, hx]
    cases body with
    | nil => rfl
    | cons y body =>
      rw [ih (fun z hz => hbody z (List.mem_cons_of_mem x hz)) (List.cons_ne_nil y body)]
      rfl

/-- A text begins with a line, which may have no end. -/
theorem first_line (ends : α → Bool) (s : List α) :
    (∃ body c rest, s = body ++ c :: rest ∧ (∀ x ∈ body, ends x = false) ∧ ends c = true) ∨
      ∀ x ∈ s, ends x = false := by
  induction s with
  | nil => exact .inr (List.forall_mem_nil _)
  | cons x s ih =>
    cases hx : ends x with
    | true => exact .inl ⟨[], x, s, rfl, List.forall_mem_nil _, hx⟩
    | false =>
      rcases ih with ⟨body, c, rest, rfl, hbody, hc⟩ | hall
      · exact .inl ⟨x :: body, c, rest, rfl, List.forall_mem_cons.mpr ⟨hx, hbody⟩, hc⟩
      · exact .inr (List.forall_mem_cons.mpr ⟨hx, hall⟩)

/-- Lines written one after the other are read back. -/
theorem cutBehind_flatten {lines : List (List α)}
    (h : ∀ line ∈ lines, ∃ body c, line = body ++ [c] ∧ (∀ x ∈ body, ends x = false) ∧
      ends c = true) :
    cutBehind ends lines.flatten = lines := by
  induction lines with
  | nil => rfl
  | cons line lines ih =>
    obtain ⟨body, c, rfl, hbody, hc⟩ := h line List.mem_cons_self
    have hrest := ih fun l hl => h l (List.mem_cons_of_mem _ hl)
    rw [List.flatten_cons, List.append_assoc, List.singleton_append, cutBehind_line hbody hc,
      hrest]

end Lines

end BackendProxy.Lib
