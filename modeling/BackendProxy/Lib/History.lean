import BackendProxy.Lib.Runs

namespace BackendProxy.Lib

/-! Histories of a machine that answers each operation: operations with the answers they got. -/

section History

variable {σ α ρ : Type*} {step : σ → α → σ × ρ}

/-- The machine gives these answers when it performs these operations in this order. -/
def Answers (step : σ → α → σ × ρ) : σ → List (α × ρ) → Prop
  | _, [] => True
  | s, (a, r) :: log => (step s a).2 = r ∧ Answers step (step s a).1 log

/-- The state behind a history. -/
def behind (step : σ → α → σ × ρ) (s : σ) (log : List (α × ρ)) : σ :=
  after step s (log.map Prod.fst)

@[simp] theorem behind_nil (s : σ) : behind step s [] = s := rfl

@[simp] theorem behind_cons (s : σ) (a : α) (r : ρ) (log : List (α × ρ)) :
    behind step s ((a, r) :: log) = behind step (step s a).1 log := rfl

theorem behind_append (s : σ) (xs ys : List (α × ρ)) :
    behind step s (xs ++ ys) = behind step (behind step s xs) ys := by
  simp [behind, after]

theorem answers_append {s : σ} {xs ys : List (α × ρ)} :
    Answers step s (xs ++ ys) ↔ Answers step s xs ∧ Answers step (behind step s xs) ys := by
  induction xs generalizing s with
  | nil => simp [Answers]
  | cons x xs ih =>
    obtain ⟨a, r⟩ := x
    simp only [List.cons_append, Answers, behind_cons, ih, and_assoc]

/-- One more operation goes on the history with the answer it gets behind it. -/
theorem Answers.snoc {s : σ} {log : List (α × ρ)} (h : Answers step s log) {a : α} {r : ρ}
    (hr : (step (behind step s log) a).2 = r) : Answers step s (log ++ [(a, r)]) :=
  answers_append.mpr ⟨h, hr, trivial⟩

theorem behind_snoc (s : σ) (log : List (α × ρ)) (a : α) (r : ρ) :
    behind step s (log ++ [(a, r)]) = (step (behind step s log) a).1 := by
  rw [behind_append]
  rfl

/-- The answers to a run of operations. -/
def replies (step : σ → α → σ × ρ) : σ → List α → List ρ
  | _, [] => []
  | s, a :: as => (step s a).2 :: replies step (step s a).1 as

end History

end BackendProxy.Lib
