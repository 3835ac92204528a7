import BackendProxy.Pool.MainLoop
import Mathlib.Data.List.Perm.Subperm

namespace BackendProxy.Pool

open Lib Lib.Tailq Queue

/-! The loops over the active queues end: the bound they are given is never met. -/

/-- The program never ends in the halt that stands for a loop without end. -/
abbrev Ends {α : Type} (x : EngineM α) : Prop := Prog.Spares .endless x

section Ends

open Prog

variable {p : SessPtr} {d : Dir} {s : BackendSession} {n : NodePtr}

theorem deref_ends (p : SessPtr) : Ends (deref p) :=
  spares_get.bind fun _ => spares_ofOption (by decide) _

theorem removeFromQueue_ends (p : SessPtr) (d : Dir) : Ends (removeFromQueue p d) :=
  spares_get.bind fun _ => (spares_ofOption (by decide) _).bind fun _ => spares_modify _

theorem clearLinked_ends (p : SessPtr) (d : Dir) : Ends (clearLinked p d) :=
  (deref_ends p).bind fun _ => spares_modify _

theorem unlinkFromQueue_ends (p : SessPtr) (d : Dir) : Ends (unlinkFromQueue p d) :=
  (deref_ends p).bind fun _ =>
    ((removeFromQueue_ends p d).bind fun _ => clearLinked_ends p d).ite (spares_pure _)

theorem unregisterEpoll_ends (p : SessPtr) (ctl : Bool) : Ends (unregisterEpoll p ctl) := by
  refine (deref_ends p).bind fun s => Spares.bind ?_ fun _ => (spares_modify _).bind fun _ =>
    (spares_modify _).ite (spares_pure _)
  exact (spares_pure _).ite (spares_halt (by decide))

theorem hashDel_ends (p : SessPtr) (t : Bool) : Ends (hashDel p t) := by
  refine Spares.bind ?_ fun _ => spares_get.bind fun _ =>
    (spares_modify _).ite (spares_halt (by decide))
  exact spares_get.bind fun _ => (spares_halt (by decide)).ite (spares_pure _)

theorem insertNode_ends (d : Nat) (k : NodeQueue) (n : NodePtr) : Ends (insertNode d k n) :=
  spares_get.bind fun _ => (spares_ofOption (by decide) _).bind fun _ => spares_modify _

theorem removeNode_ends (d : Nat) (k : NodeQueue) (n : NodePtr) : Ends (removeNode d k n) :=
  spares_get.bind fun _ => (spares_ofOption (by decide) _).bind fun _ => spares_modify _

theorem removeSessionNode_ends (d : Nat) (n : NodePtr) : Ends (removeSessionNode d n) := by
  refine spares_get.bind fun e => ?_
  cases e.nodes.sess n with
  | none => exact spares_pure _
  | some p =>
    refine (deref_ends p).bind fun s => ?_
    cases NodeQueue.ofProto s.protoType with
    | none => exact spares_pure _
    | some k => exact ((removeNode_ends d k n).bind fun _ => spares_modify _).ite (spares_pure _)

theorem recycleNodeOf_ends (p : SessPtr) : Ends (recycleNodeOf p) := by
  refine (deref_ends p).bind fun s => (spares_pure _).ite (Spares.ite ?_ (spares_pure _))
  exact (spares_ofOption (by decide) _).bind fun n => (removeSessionNode_ends _ n).bind fun _ =>
    (spares_modify _).bind fun _ => insertNode_ends _ _ n

theorem delete_ends (p : SessPtr) (env : DeleteEnv) : Ends (highSpeedDeleteSess p env) := by
  refine (unregisterEpoll_ends p _).bind fun _ => (deref_ends p).bind fun s =>
    (spares_modify _).bind fun _ => (hashDel_ends p _).bind fun _ => (spares_modify _).bind fun _ =>
    (unlinkFromQueue_ends p .f2b).bind fun _ => (unlinkFromQueue_ends p .b2f).bind fun _ =>
    (deref_ends p).bind fun _ => (spares_modify _).bind fun _ => Spares.bind ?_ fun _ =>
    (recycleNodeOf_ends p).bind fun _ => (spares_modify _).bind fun _ => spares_pure _
  exact (spares_modify _).ite (spares_halt (by decide))

theorem settle_ends (d : Dir) (p : SessPtr) (st : ProcessStatus) (env : DeleteEnv) :
    Ends (settle d p st env) := by
  cases st with
  | ok => exact (removeFromQueue_ends p d).bind fun _ => clearLinked_ends p d
  | error =>
    exact (removeFromQueue_ends p d).bind fun _ => (delete_ends p env).bind fun _ => spares_pure _
  | again => exact spares_pure _

theorem f2b_ends (p : SessPtr) (env : SendEnv) : Ends (highSpeedDataProcessF2b p env) := by
  refine (deref_ends p).bind fun s => ?_
  cases env.sndbuf with
  | none => exact spares_pure _
  | some bufSize => exact (spares_modify _).bind fun _ => spares_pure _

theorem b2f_ends (p : SessPtr) (full : Nat → Bool) : Ends (highSpeedDataProcessB2f p full) :=
  (deref_ends p).bind fun _ => spares_get.bind fun _ => (spares_modify _).bind fun _ =>
    spares_pure _

end Ends

section Loops

variable {P : Premises} {e : Engine} {l : Dir → List SessPtr} {d : Dir}
  {process : SessPtr → EngineM ProcessStatus} {stopOnAgain : Bool} {env : SessPtr → DeleteEnv}

/-- As many rounds as there are sessions left suffice. -/
theorem activeLoop_ends {fuel : Nat} {a rest : List SessPtr}
    (hends : ∀ p, Ends (process p))
    (hproc : ∀ p st e l e', process p e = .ok (st, e') → Sound e l → p ∈ l d →
      Processed P d p st e l e')
    (h : Sound e l) (hl : l d = a ++ rest) (hfuel : rest.length ≤ fuel) :
    activeLoop d process stopOnAgain env fuel rest.head? e ≠ .error .endless := by
  induction fuel generalizing e l a rest with
  | zero =>
    cases List.length_eq_zero_iff.mp (Nat.le_zero.mp hfuel)
    exact Prog.spares_pure _ e
  | succ fuel ih =>
    cases rest with
    | nil => exact Prog.spares_pure _ e
    | cons p rest =>
      intro hloop
      have hmem : p ∈ l d := by
        rw [hl]
        simp
      have hnext : (e.queue d).next p = rest.head? := (hl ▸ h.holds d).next
      simp only [List.head?_cons, activeLoop] at hloop
      rcases Prog.bind_error hloop with hbad | ⟨_, _, hget, hloop⟩
      · exact Prog.spares_get e hbad
      obtain ⟨rfl, rfl⟩ := Prog.get_ok.mp hget
      rcases Prog.bind_error hloop with hbad | ⟨st, e₁, hp, hloop⟩
      · exact hends p e hbad
      obtain ⟨h₁, -, hempty⟩ := hproc p st e l e₁ hp h hmem
      rcases Prog.bind_error hloop with hbad | ⟨_, e₂, hset, hloop⟩
      · exact settle_ends d p st (env p) e₁ hbad
      obtain ⟨l₂, a₂, hl₂, h₂, -⟩ := settle_simulated (P := P) hset h₁ hl hempty
      split at hloop
      · exact Prog.spares_pure _ e₂ hloop
      · rw [hnext] at hloop
        exact ih h₂ hl₂ (Nat.le_of_succ_le_succ hfuel) hloop

/-- A queue holds each session once, so it is no longer than the number of sessions ever made. -/
theorem Sound.queue_length (h : Sound e l) (d : Dir) : (l d).length ≤ e.nextSess := by
  have hsub : l d ⊆ List.range e.nextSess := by
    intro p hp
    exact List.mem_range.mpr (h.old p (h.queued d p hp).1)
  have := (List.subperm_of_subset (h.holds d).nodup hsub).length_le
  rwa [List.length_range] at this

theorem activeRun_ends (hends : ∀ p, Ends (process p))
    (hproc : ∀ p st e l e', process p e = .ok (st, e') → Sound e l → p ∈ l d →
      Processed P d p st e l e')
    (h : Sound e l) : activeRun d process stopOnAgain env e ≠ .error .endless := by
  intro hrun
  rcases Prog.bind_error hrun with hbad | ⟨_, _, hget, hrun⟩
  · exact Prog.spares_get e hbad
  obtain ⟨rfl, rfl⟩ := Prog.get_ok.mp hget
  rw [(h.holds d).first] at hrun
  exact activeLoop_ends hends hproc h (List.nil_append _).symm (h.queue_length d) hrun

theorem engineRunStep2_ends (send : SessPtr → SendEnv) (env : SessPtr → DeleteEnv)
    (h : Sound e l) : engineRunStep2 send env e ≠ .error .endless :=
  activeRun_ends (fun p => f2b_ends p (send p))
    (fun _ _ _ _ _ hp hsound hmem => f2b_processed (P := anyAnswers) hp trivial hsound hmem) h

theorem engineRunStep4_ends (full : SessPtr → Nat → Bool) (env : SessPtr → DeleteEnv)
    (h : Sound e l) : engineRunStep4 full env e ≠ .error .endless :=
  activeRun_ends (fun p => b2f_ends p (full p))
    (fun _ _ _ _ _ hp hsound hmem => b2f_processed (P := anyAnswers) hp hsound hmem) h

/-- Wherever a run gets to, both steps over the active queues end. -/
theorem reached_steps_end {devNum blockSize : Nat} {config : Nat → HighSpeedNetDevice}
    {ops : List MainOp} {t : Engine}
    (reached : run mainStep (highSpeedInitPool devNum config blockSize) ops = .ok t)
    (send : SessPtr → SendEnv) (full : SessPtr → Nat → Bool) (env : SessPtr → DeleteEnv) :
    mainStep t (.step2 send env) ≠ .error .endless ∧
      mainStep t (.step4 full env) ≠ .error .endless := by
  obtain ⟨l, hsound, -⟩ := main_simulated (anyAnswers_met _ ops) reached
  constructor
  · intro hs
    exact engineRunStep2_ends send env hsound (mainStep_error hs)
  · intro hs
    exact engineRunStep4_ends full env hsound (mainStep_error hs)

end Loops

end BackendProxy.Pool
