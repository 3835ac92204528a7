import BackendProxy.Pool.Streams
import Mathlib.Logic.Relation

namespace BackendProxy.Pool

open Lib Queue

/-! What the main loop is for: sessions come, carry data both ways through two active queues, and
go. Nothing here knows of memory, links or descriptors. -/

/-- One session of the table. `linked` is its flag bit, `queued` whether it is in the queue. -/
structure SessTraffic where
  frontendSessId : UInt16
  backendSessId : UInt16
  linked : Dir → Bool
  queued : Dir → Bool
  msg : Dir → List (List UInt8)

structure Traffic where
  blockSize : Nat
  sess : SessPtr → Option SessTraffic
  history : SessPtr → SessHistory

/-- Answers of the system that a property may depend on: the old contents of the block of a new
session, what `send` does for a session, and what reading a session meets, by whether it is linked
already. -/
structure Premises where
  block : BackendSession → Prop
  send : SessPtr → SendEnv → Prop
  read : Bool → Int → List ReadOutcome → Prop
  read_linked : ∀ n outcomes, read false n outcomes → read true n outcomes

/-- A session that was just created. -/
def SessTraffic.start (frontend backend : UInt16) (block : BackendSession) : SessTraffic :=
  { frontendSessId := frontend
    backendSessId := backend
    linked := fun d => isLinked (block.state d)
    queued := fun _ => false
    msg := fun _ => [] }

def SessTraffic.setMsg (x : SessTraffic) (d : Dir) (segs : List (List UInt8)) : SessTraffic :=
  { x with msg := Function.update x.msg d segs }

@[simp] theorem SessTraffic.setMsg_msg (x : SessTraffic) (d : Dir) (segs : List (List UInt8)) :
    (x.setMsg d segs).msg d = segs := Function.update_self _ _ _

/-- A session whose bit is clear joins the queue. -/
def SessTraffic.link (x : SessTraffic) (d : Dir) : SessTraffic :=
  { x with
    linked := Function.update x.linked d true
    queued := Function.update x.queued d (x.queued d || !x.linked d) }

@[simp] theorem SessTraffic.link_msg (x : SessTraffic) (d : Dir) : (x.link d).msg = x.msg := rfl

def SessTraffic.drop (x : SessTraffic) (d : Dir) : SessTraffic :=
  { x with
    linked := Function.update x.linked d false
    queued := Function.update x.queued d false }

/-- The session after a read that met `result`. -/
def SessTraffic.afterRead (x : SessTraffic) (result : ProcessStatus × List (List UInt8)) :
    SessTraffic :=
  let y := x.setMsg .b2f
    (x.msg .b2f ++ result.2.map (dataMessage x.frontendSessId x.backendSessId))
  if result.1 = .ok then y.link .b2f else y

/-- What can happen to a session and its history. -/
inductive SessStep (P : Premises) (blockSize : Nat) (p : SessPtr) :
    SessTraffic → SessHistory → SessTraffic → SessHistory → Prop where
  | accept (x : SessTraffic) (h : SessHistory) (payload : List UInt8) :
      SessStep P blockSize p x h
        ((x.setMsg .f2b (x.msg .f2b ++ [payload])).link .f2b)
        { h with accepted := h.accepted ++ [payload] }
  | send (x : SessTraffic) (h : SessHistory) (env : SendEnv) (bufSize : Int)
      (answers : P.send p env) :
      SessStep P blockSize p x h
        (x.setMsg .f2b (sendSegments env.send 0 bufSize (x.msg .f2b)).2.1)
        { h with sent := h.sent ++ (sendSegments env.send 0 bufSize (x.msg .f2b)).2.2 }
  | read (x : SessTraffic) (h : SessHistory) (n : Int) (outcomes : List ReadOutcome)
      (answers : P.read (x.linked .b2f) n outcomes) :
      SessStep P blockSize p x h
        (x.afterRead (readSegments n outcomes))
        { h with received := h.received ++ (readSegments n outcomes).2 }
  | transmit (x : SessTraffic) (h : SessHistory) (full : Nat → Bool) :
      SessStep P blockSize p x h
        (x.setMsg .b2f (transmitSegments blockSize full 0 (x.msg .b2f)).2.1)
        { h with transmitted := h.transmitted ++
            (transmitSegments blockSize full 0 (x.msg .b2f)).2.2.map fun msg =>
              ⟨x.frontendSessId, x.backendSessId, msg⟩ }
  /-- A session leaves a queue once nothing is left for it to forward. -/
  | drop (x : SessTraffic) (h : SessHistory) (d : Dir) (empty : x.msg d = []) :
      SessStep P blockSize p x h (x.drop d) h

inductive Traffic.Move (P : Premises) (v : Traffic) : Traffic → Prop where
  | create (p : SessPtr) (frontend backend : UInt16) (block : BackendSession)
      (absent : v.sess p = none) (unused : v.history p = .blank) (memory : P.block block) :
      v.Move P
        { v with sess := Function.update v.sess p (some (.start frontend backend block)) }
  | session (p : SessPtr) (x y : SessTraffic) (h : SessHistory) (present : v.sess p = some x)
      (step : SessStep P v.blockSize p x (v.history p) y h) :
      v.Move P
        { v with
          sess := Function.update v.sess p (some y)
          history := Function.update v.history p h }
  | delete (p : SessPtr) : v.Move P { v with sess := Function.update v.sess p none }

abbrev Traffic.Moves (P : Premises) : Traffic → Traffic → Prop := Relation.ReflTransGen (Move P)

/-- No session was ever there. -/
def Traffic.empty (blockSize : Nat) : Traffic :=
  { blockSize, sess := fun _ => none, history := fun _ => .blank }

/-- A property of sessions with their history, and one of the history that outlives a session. -/
structure SessRule (P : Premises) (blockSize : Nat) where
  Live : SessPtr → SessTraffic → SessHistory → Prop
  Past : SessPtr → SessHistory → Prop
  blank : ∀ p, Past p .blank
  start : ∀ p frontend backend block, P.block block →
    Live p (.start frontend backend block) .blank
  step : ∀ p x h y h', SessStep P blockSize p x h y h' → Live p x h → Live p y h'
  past : ∀ p x h, Live p x h → Past p h

/-- The rule holds of every session there is and of every history. -/
structure SessRule.Obeyed {P : Premises} {blockSize : Nat} (R : SessRule P blockSize)
    (v : Traffic) : Prop where
  blockSize : v.blockSize = blockSize
  live : ∀ p x, v.sess p = some x → R.Live p x (v.history p)
  past : ∀ p, R.Past p (v.history p)

section Rule

variable {P : Premises} {blockSize : Nat} {R : SessRule P blockSize} {v w : Traffic}

theorem SessRule.obeyed_empty (R : SessRule P blockSize) : R.Obeyed (.empty blockSize) := by
  refine ⟨rfl, ?_, R.blank⟩
  intro p x hx
  cases hx

theorem SessRule.Obeyed.move (hv : R.Obeyed v) (hm : v.Move P w) : R.Obeyed w := by
  cases hm with
  | create p frontend backend block _ hblank hmem =>
    refine ⟨hv.blockSize, ?_, hv.past⟩
    intro q x hx
    by_cases hq : q = p
    · subst hq
      simp only [Function.update_self, Option.some.injEq] at hx
      subst hx
      simp only [hblank]
      exact R.start q frontend backend block hmem
    · simp only [Function.update_of_ne hq] at hx
      exact hv.live q x hx
  | session p x y h hx hstep =>
    have hy : R.Live p y h := R.step p x _ y h (hv.blockSize ▸ hstep) (hv.live p x hx)
    refine ⟨hv.blockSize, ?_, ?_⟩
    · intro q z hz
      by_cases hq : q = p
      · subst hq
        simp only [Function.update_self, Option.some.injEq] at hz ⊢
        subst hz
        exact hy
      · simp only [Function.update_of_ne hq] at hz ⊢
        exact hv.live q z hz
    · intro q
      by_cases hq : q = p
      · subst hq
        simp only [Function.update_self]
        exact R.past q y h hy
      · simp only [Function.update_of_ne hq]
        exact hv.past q
  | delete p =>
    refine ⟨hv.blockSize, ?_, hv.past⟩
    intro q x hx
    by_cases hq : q = p
    · subst hq
      simp at hx
    · simp only [Function.update_of_ne hq] at hx
      exact hv.live q x hx

/-- A rule that every step keeps holds wherever the traffic gets to. -/
theorem SessRule.Obeyed.moves (hv : R.Obeyed v) (hm : v.Moves P w) : R.Obeyed w := by
  induction hm with
  | refl => exact hv
  | tail _ hmove ih => exact ih.move hmove

end Rule

end BackendProxy.Pool
