import Mathlib.Tactic.Common

namespace BackendProxy.Lib

/-! Runs of a step function that may halt, and of one that answers each operation. -/

section Halting

variable {σ α ε : Type*} {step : σ → α → Except ε σ} {C : σ → α → Prop} {I : σ → Prop}

/-- Perform the operations in order; a step that halts ends the run. -/
def run (step : σ → α → Except ε σ) (s : σ) : List α → Except ε σ
  | [] => .ok s
  | a :: as =>
    match step s a with
    | .ok s' => run step s' as
    | .error e => .error e

/-- `C` holds of every operation and the state it is performed in. -/
def AllSteps (step : σ → α → Except ε σ) (C : σ → α → Prop) : σ → List α → Prop
  | _, [] => True
  | s, a :: as => C s a ∧ ∀ s', step s a = .ok s' → AllSteps step C s' as

@[simp] theorem run_nil (s : σ) : run step s [] = .ok s := rfl

theorem run_cons_ok {s s' : σ} {a : α} (as : List α) (h : step s a = .ok s') :
    run step s (a :: as) = run step s' as := by
  simp [run, h]

theorem run_append {s t : σ} {as : List α} (bs : List α) (h : run step s as = .ok t) :
    run step s (as ++ bs) = run step t bs := by
  induction as generalizing s with
  | nil =>
    cases h
    rfl
  | cons a as ih =>
    cases ha : step s a with
    | error e => simp [run, ha] at h
    | ok u =>
      rw [run_cons_ok as ha] at h
      rw [List.cons_append, run_cons_ok _ ha]
      exact ih h

theorem run_snoc {s t u : σ} {a : α} {as : List α} (h : run step s as = .ok t)
    (hst : step t a = .ok u) : run step s (as ++ [a]) = .ok u := by
  rw [run_append [a] h, run_cons_ok [] hst, run_nil]

theorem allSteps_cons {s s' : σ} {a : α} {as : List α} (h : step s a = .ok s') (ha : C s a)
    (hrest : AllSteps step C s' as) : AllSteps step C s (a :: as) := by
  refine ⟨ha, fun t ht => ?_⟩
  rw [h] at ht
  cases ht
  exact hrest

theorem AllSteps.mono {D : σ → α → Prop} (hCD : ∀ s a, C s a → D s a) {s : σ} {as : List α}
    (h : AllSteps step C s as) : AllSteps step D s as := by
  induction as generalizing s with
  | nil => trivial
  | cons a as ih => exact ⟨hCD s a h.1, fun s' hs => ih (h.2 s' hs)⟩

theorem allSteps_true (s : σ) (as : List α) : AllSteps step (fun _ _ => True) s as := by
  induction as generalizing s with
  | nil => trivial
  | cons a as ih => exact ⟨trivial, fun s' _ => ih s'⟩

theorem AllSteps.and {D : σ → α → Prop} {s : σ} {as : List α} (hC : AllSteps step C s as)
    (hD : AllSteps step D s as) : AllSteps step (fun s a => C s a ∧ D s a) s as := by
  induction as generalizing s with
  | nil => trivial
  | cons a as ih => exact ⟨⟨hC.1, hD.1⟩, fun s' hs => ih (hC.2 s' hs) (hD.2 s' hs)⟩

/-- Two conditions that agree wherever the invariant holds agree over whole runs, as long as the
one keeps the invariant. -/
theorem allSteps_iff {D : σ → α → Prop} (agree : ∀ s a, I s → (C s a ↔ D s a))
    (keep : ∀ s a s', I s → D s a → step s a = .ok s' → I s') {s : σ} (hs : I s)
    (as : List α) : AllSteps step C s as ↔ AllSteps step D s as := by
  induction as generalizing s with
  | nil => exact Iff.rfl
  | cons a as ih =>
    constructor
    · intro hc
      have hd := (agree s a hs).mp hc.1
      exact ⟨hd, fun s' hst => (ih (keep s a s' hs hd hst)).mp (hc.2 s' hst)⟩
    · intro hd
      exact ⟨(agree s a hs).mpr hd.1,
        fun s' hst => (ih (keep s a s' hs hd.1 hst)).mpr (hd.2 s' hst)⟩

/-- A view of the state a run ends in tells that it ends in one. -/
theorem reached_of_view {β : Type*} {r : Except ε σ} {f : σ → β} {b : β}
    (h : r.toOption.map f = some b) : ∃ t, r = .ok t ∧ f t = b := by
  cases r with
  | error e => cases h
  | ok t => exact ⟨t, rfl, Option.some.inj h⟩

/-- Steps that are steps of a view make runs that are runs of the view. -/
theorem run_viewed {τ β : Type*} {view : τ → β → Except ε τ} {f : σ → τ} {g : α → β}
    (hview : ∀ s a s', step s a = .ok s' → view (f s) (g a) = .ok (f s')) {s t : σ} {as : List α}
    (h : run step s as = .ok t) : run view (f s) (as.map g) = .ok (f t) := by
  induction as generalizing s with
  | nil =>
    cases h
    rfl
  | cons a as ih =>
    cases hst : step s a with
    | error e => simp [run, hst] at h
    | ok u =>
      rw [run_cons_ok as hst] at h
      rw [List.map_cons, run_cons_ok _ (hview s a u hst)]
      exact ih h

/-- What holds at the start and is kept by every admitted step holds wherever a run gets to. -/
theorem run_invariant (keep : ∀ s a s', I s → C s a → step s a = .ok s' → I s')
    {s t : σ} {as : List α} (hs : I s) (hc : AllSteps step C s as)
    (h : run step s as = .ok t) : I t := by
  induction as generalizing s with
  | nil =>
    cases h
    exact hs
  | cons a as ih =>
    obtain ⟨ha, hrest⟩ := hc
    cases hst : step s a with
    | error e => simp [run, hst] at h
    | ok s' =>
      rw [run_cons_ok as hst] at h
      exact ih (keep s a s' hs ha hst) (hrest s' hst) h

/-- A run whose admitted steps all return returns, with what they keep. -/
theorem run_returns (go : ∀ s a, I s → C s a → ∃ s', step s a = .ok s' ∧ I s') {s : σ}
    {as : List α} (hs : I s) (hc : AllSteps step C s as) :
    ∃ t, run step s as = .ok t ∧ I t := by
  induction as generalizing s with
  | nil => exact ⟨s, rfl, hs⟩
  | cons a as ih =>
    obtain ⟨s', hst, hs'⟩ := go s a hs hc.1
    rw [run_cons_ok as hst]
    exact ih hs' (hc.2 s' hst)

end Halting

section Answering

variable {σ τ α ρ ρ' : Type*}

/-- The state after a list of operations. -/
def after (step : σ → α → σ × ρ) (s : σ) (as : List α) : σ :=
  as.foldl (fun s a => (step s a).1) s

@[simp] theorem after_nil (step : σ → α → σ × ρ) (s : σ) : after step s [] = s := rfl

@[simp] theorem after_cons (step : σ → α → σ × ρ) (s : σ) (a : α) (as : List α) :
    after step s (a :: as) = after step (step s a).1 as := rfl

theorem after_append (step : σ → α → σ × ρ) (s : σ) (as bs : List α) :
    after step s (as ++ bs) = after step (after step s as) bs := List.foldl_append

/-- `C` holds of every operation and the state it is performed in. -/
def AllAnswered (step : σ → α → σ × ρ) (C : σ → α → Prop) : σ → List α → Prop
  | _, [] => True
  | s, a :: as => C s a ∧ AllAnswered step C (step s a).1 as

/-- A step-by-step simulation relates the states two machines reach on the same operations. -/
theorem after_simulates {step : σ → α → σ × ρ} {step' : τ → α → τ × ρ'}
    {C : σ → α → Prop} {R : σ → τ → Prop}
    (sim : ∀ s t a, R s t → C s a → R (step s a).1 (step' t a).1)
    {s : σ} {t : τ} {as : List α} (h : R s t) (hc : AllAnswered step C s as) :
    R (after step s as) (after step' t as) := by
  induction as generalizing s t with
  | nil => exact h
  | cons a as ih => exact ih (sim s t a h hc.1) hc.2

/-- What every admitted operation keeps holds wherever a run gets to. -/
theorem after_invariant {step : σ → α → σ × ρ} {C : σ → α → Prop} {I : σ → Prop}
    (keep : ∀ s a, I s → C s a → I (step s a).1)
    {s : σ} {as : List α} (h : I s) (hc : AllAnswered step C s as) : I (after step s as) := by
  induction as generalizing s with
  | nil => exact h
  | cons a as ih => exact ih (keep s a h hc.1) hc.2

theorem allAnswered_congr {step : σ → α → σ × ρ} {C D : σ → α → Prop}
    (h : ∀ s a, C s a ↔ D s a) (s : σ) (as : List α) :
    AllAnswered step C s as ↔ AllAnswered step D s as := by
  induction as generalizing s with
  | nil => exact Iff.rfl
  | cons a as ih => exact and_congr (h s a) (ih _)

/-- Two conditions that agree wherever the invariant holds agree over whole runs, as long as the
one keeps the invariant. -/
theorem allAnswered_iff {step : σ → α → σ × ρ} {C D : σ → α → Prop} {I : σ → Prop}
    (agree : ∀ s a, I s → (C s a ↔ D s a)) (keep : ∀ s a, I s → D s a → I (step s a).1)
    {s : σ} (h : I s) (as : List α) : AllAnswered step C s as ↔ AllAnswered step D s as := by
  induction as generalizing s with
  | nil => exact Iff.rfl
  | cons a as ih =>
    constructor
    · intro hc
      have hd := (agree s a h).mp hc.1
      exact ⟨hd, (ih (keep s a h hd)).mp hc.2⟩
    · intro hd
      exact ⟨(agree s a h).mpr hd.1, (ih (keep s a h hd.1)).mpr hd.2⟩

theorem allAnswered_true (step : σ → α → σ × ρ) (s : σ) (as : List α) :
    AllAnswered step (fun _ _ => True) s as := by
  induction as generalizing s with
  | nil => trivial
  | cons a as ih => exact ⟨trivial, ih _⟩

end Answering

end BackendProxy.Lib
