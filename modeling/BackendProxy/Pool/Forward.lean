import BackendProxy.Pool.Identifiers
import BackendProxy.Pool.MainLoop
import Mathlib.Data.List.Infix

namespace BackendProxy.Pool

open Lib Queue

/-! The stream from the frontend: payloads accepted from RX go out on the socket. -/

/-- What the kernel took so far is a prefix of what was accepted, byte by byte. -/
def SentInOrder (e : Engine) (p : SessPtr) : Prop :=
  (e.history p).sent <+: (e.history p).accepted.flatten

/-- For the session `p`, every `send` that does not fail takes the whole segment. -/
def wholeSends (p : SessPtr) : Premises :=
  { block := fun _ => True
    send := fun q env => q = p → ∀ i n, env.send i ≠ .first n
    read := fun _ _ _ => True
    read_linked := fun _ _ _ => trivial }

/-- Sent whole, the segments that went and those that are left make up what there was. -/
theorem sendSegments_conserved {send : Nat → SendOutcome} (hw : ∀ i n, send i ≠ .first n)
    {segs : List (List UInt8)} {i : Nat} {bufSize : Int} :
    (sendSegments send i bufSize segs).2.2 ++ (sendSegments send i bufSize segs).2.1.flatten =
      segs.flatten := by
  induction segs generalizing i bufSize with
  | nil => rfl
  | cons seg segs ih =>
    simp only [sendSegments]
    split <;> rename_i hlen
    · split
      · cases hs : send i with
        | failed => rfl
        | whole =>
          simp only [SendOutcome.ret, List.take_length, List.append_assoc, List.flatten_cons]
          rw [ih]
        | first n => exact absurd hs (hw i n)
      · rfl
    · have hnil : seg = [] := List.eq_nil_of_length_eq_zero (Nat.eq_zero_of_not_pos hlen)
      rw [ih, hnil]
      rfl

/-- What was sent and what waits are together what was accepted. -/
def Forwarded (x : SessTraffic) (h : SessHistory) : Prop :=
  h.sent ++ (x.msg .f2b).flatten = h.accepted.flatten

theorem Forwarded.step {p : SessPtr} {blockSize : Nat} {x y : SessTraffic} {h h' : SessHistory}
    (hs : SessStep (wholeSends p) blockSize p x h y h') (hx : Forwarded x h) : Forwarded y h' := by
  cases hs with
  | accept payload =>
    unfold Forwarded
    rw [SessTraffic.link_msg, SessTraffic.setMsg_msg, List.flatten_append, List.flatten_append,
      ← List.append_assoc, hx]
  | send env bufSize hm =>
    unfold Forwarded
    rw [SessTraffic.setMsg_msg, List.append_assoc, sendSegments_conserved (hm rfl)]
    exact hx
  | read n outcomes _ =>
    unfold SessTraffic.afterRead
    split <;> exact hx
  | transmit full => exact hx
  | drop d _ => exact hx

/-- The rule for one session; nothing is said of the others. -/
def forwardRule (p : SessPtr) (blockSize : Nat) : SessRule (wholeSends p) blockSize :=
  { Live := fun q x h => q = p → Forwarded x h
    Past := fun q h => q = p → h.sent <+: h.accepted.flatten
    blank := fun _ _ => List.prefix_rfl
    start := fun _ _ _ _ _ _ => rfl
    step := fun q _ _ _ _ hs hx hq => by
      subst hq
      exact (hx rfl).step hs
    past := fun _ _ _ hx hq => ⟨_, hx hq⟩ }

/-- Along every run in which the sends of a session take whole segments, its stream arrives
without a gap. -/
theorem frontendStream_preserved (devNum : Nat) (config : Nat → HighSpeedNetDevice)
    (blockSize : Nat) (ops : List MainOp) (t : Engine) (p : SessPtr)
    (met : AllSteps mainStep (wholeSends p).Meets (highSpeedInitPool devNum config blockSize) ops)
    (reached : run mainStep (highSpeedInitPool devNum config blockSize) ops = .ok t) :
    SentInOrder t p := by
  obtain ⟨l, -, hobeyed⟩ := main_obeys (forwardRule p blockSize) met reached
  exact hobeyed.past p rfl

/-- The send buffer has room for the given answers. -/
def sendAnswers (send : Nat → SendOutcome) (_ : SessPtr) : SendEnv :=
  { sndbuf := some 100, send }

/-- Two messages go out in two steps. -/
def twoSteps (send : Nat → SendOutcome) : List MainOp :=
  [.pool (.createActive tcpRequest goodEnv), .msg (dataFor1 [1, 2, 3]) goodMsgEnv,
    .step2 (sendAnswers send) (fun _ => goodMsgEnv.delete), .msg (dataFor1 [4]) goodMsgEnv,
    .step2 (sendAnswers fun _ => .whole) (fun _ => goodMsgEnv.delete)]

theorem frontendStream_preserved_whole :
    ∃ t, run mainStep oneDevice (twoSteps fun _ => .whole) = .ok t ∧
      (t.history 0).sent = [1, 2, 3, 4] ∧ SentInOrder t 0 := by
  obtain ⟨t, ht, hsent⟩ := reached_of_view (f := fun t => (t.history 0).sent) (b := [1, 2, 3, 4])
    (show (run mainStep oneDevice (twoSteps fun _ => .whole)).toOption.map _ = _ by
      decide +kernel)
  refine ⟨t, ht, hsent, frontendStream_preserved 1 _ 4096 _ t 0 ?_ ht⟩
  have hany : ∀ block, goodEnv.malloc = some block → (wholeSends 0).block block :=
    fun _ _ => trivial
  have hwhole : ∀ q, (wholeSends 0).send q (sendAnswers (fun _ => .whole) q) := by
    intro q _ i n hs
    cases hs
  exact ⟨hany, fun _ _ => ⟨hany, fun _ _ => ⟨hwhole, fun _ _ => ⟨hany, fun _ _ =>
    ⟨hwhole, fun _ _ => trivial⟩⟩⟩⟩⟩

/-- A segment is removed however much of it was sent: after a short `send` the stream goes on with
the next message. -/
theorem short_send_skips_bytes :
    ¬ ∀ ops t p, run mainStep oneDevice ops = .ok t → SentInOrder t p := by
  intro h
  obtain ⟨t, ht, hview⟩ := reached_of_view
    (f := fun t => ((t.history 0).sent, (t.history 0).accepted.flatten))
    (b := ([1, 4], [1, 2, 3, 4]))
    (show (run mainStep oneDevice (twoSteps fun _ => .first 1)).toOption.map _ = _ by
      decide +kernel)
  obtain ⟨hsent, haccepted⟩ := Prod.mk.inj hview
  have hpre := h _ t 0 ht
  unfold SentInOrder at hpre
  rw [hsent, haccepted] at hpre
  exact absurd hpre (by decide)

end BackendProxy.Pool
