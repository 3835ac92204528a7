import Mathlib.Data.List.Basic
import Mathlib.Tactic.Common

namespace BackendProxy.Lib

/-! Items handed on one by one. Each is taken or dropped, or the hand-over ends before it. -/

inductive Fate where
  | taken
  | dropped
  | kept
  deriving DecidableEq, Repr

structure Handover (σ α : Type*) where
  state : σ
  taken : List α
  left : List α

variable {σ α : Type*}

def handOn (step : σ → α → Fate × σ) : σ → List α → Handover σ α
  | s, [] => { state := s, taken := [], left := [] }
  | s, a :: as =>
    match step s a with
    | (.taken, s') =>
      let rest := handOn step s' as
      { state := rest.state, taken := a :: rest.taken, left := rest.left }
    | (.dropped, s') => handOn step s' as
    | (.kept, s') => { state := s', taken := [], left := a :: as }

/-- No item that is reached is dropped. -/
def NoneDropped (step : σ → α → Fate × σ) : σ → List α → Prop
  | _, [] => True
  | s, a :: as =>
    match step s a with
    | (.taken, s') => NoneDropped step s' as
    | (.dropped, _) => False
    | (.kept, _) => True

namespace Handover

variable {step : σ → α → Fate × σ} {s s' : σ} {a : α} {as : List α}

theorem handOn_taken (h : step s a = (.taken, s')) :
    handOn step s (a :: as) =
      { state := (handOn step s' as).state, taken := a :: (handOn step s' as).taken,
        left := (handOn step s' as).left } := by
  simp only [handOn, h]

theorem handOn_dropped (h : step s a = (.dropped, s')) :
    handOn step s (a :: as) = handOn step s' as := by
  rw [handOn, h]

theorem handOn_kept (h : step s a = (.kept, s')) :
    handOn step s (a :: as) = { state := s', taken := [], left := a :: as } := by
  rw [handOn, h]

/-- Nothing is taken twice, made up or put out of order. -/
theorem sublist (step : σ → α → Fate × σ) (s : σ) (as : List α) :
    ((handOn step s as).taken ++ (handOn step s as).left).Sublist as := by
  induction as generalizing s with
  | nil => exact List.Sublist.slnil
  | cons a as ih =>
    rcases hstep : step s a with ⟨fate, s'⟩
    cases fate with
    | taken =>
      rw [handOn_taken hstep]
      exact (ih s').cons_cons a
    | dropped =>
      rw [handOn_dropped hstep]
      exact (ih s').cons a
    | kept =>
      rw [handOn_kept hstep]
      exact List.Sublist.refl _

/-- What is taken and what is left are all there was, in order, exactly if nothing is dropped. -/
theorem complete_iff (step : σ → α → Fate × σ) (s : σ) (as : List α) :
    as = (handOn step s as).taken ++ (handOn step s as).left ↔ NoneDropped step s as := by
  induction as generalizing s with
  | nil => simp [handOn, NoneDropped]
  | cons a as ih =>
    rcases hstep : step s a with ⟨fate, s'⟩
    cases fate with
    | taken =>
      simp only [handOn_taken hstep, NoneDropped, hstep]
      rw [← ih s']
      simp
    | dropped =>
      simp only [handOn_dropped hstep, NoneDropped, hstep, iff_false]
      intro h
      have hlen := congrArg List.length h
      have hle := (sublist step s' as).length_le
      rw [List.length_cons] at hlen
      omega
    | kept => simp [handOn_kept hstep, NoneDropped, hstep]

end Handover

end BackendProxy.Lib
