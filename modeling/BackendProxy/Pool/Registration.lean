import BackendProxy.Lib.Runs
import BackendProxy.Pool.Outcomes

namespace BackendProxy.Pool

open Lib Lib.Tailq Queue Wire

/-! The registration status of a channel and the interest list of the poller. -/

def Engine.inEpoll (e : Engine) (fd : Int) : Bool := e.epoll.any fun r => r.1 == fd

inductive EpollCtlOp where
  | add
  | mod
  | del
  deriving DecidableEq, Repr

/-- The result of `epoll_ctl`: it may fail for reasons of its own, and adds only what is not in the
set, modifies and deletes only what is. -/
def Engine.epollCtl (e : Engine) (op : EpollCtlOp) (fd : Int) (accepts : Bool) : Bool :=
  accepts &&
    match op with
    | .add => !e.inEpoll fd
    | .mod | .del => e.inEpoll fd

/-- What `BACKEND_SESS_REGISTER_EPOLL` asks for. -/
def NetChannel.registerOp (ch : NetChannel) : EpollCtlOp :=
  if ch.status = epollRegStatusUnregistered then .add else .mod

/-- The creation of a session up to its channel, by either path, and the two macros. -/
inductive EpollOp where
  | createActive (block : BackendSession) (newSessId : UInt16) (fd : Int) (para : SessMsgPara)
  | createPassive (block : BackendSession) (newSessId : UInt16) (para : PassiveSessParaIP)
  | register (p : SessPtr) (accepts : Bool)
  | unregister (p : SessPtr) (accepts : Bool)

def EpollOp.exec (e : Engine) : EpollOp → EngineM Unit
  | .createActive block newSessId fd para => do
    let p ← mallocSession block
    initActive p newSessId fd para
  | .createPassive block newSessId para => do
    let p ← mallocSession block
    initPassive p newSessId para
  | .register p accepts => do
    let s ← deref p
    let _ ← registerEpoll p (e.epollCtl s.netChannel.registerOp s.netChannel.sockFd accepts)
    pure ()
  | .unregister p accepts => do
    let s ← deref p
    unregisterEpoll p (e.epollCtl .del s.netChannel.sockFd accepts)

def epollStep (e : Engine) (op : EpollOp) : Except Halt Engine := (op.exec e e).map Prod.snd

/-- The status tells whether the socket of the session is in the set, and a session whose socket is
not gets it there by an ADD. -/
structure Mirrored (e : Engine) (s : BackendSession) : Prop where
  registered : s.netChannel.status = epollRegStatusRegistered ↔ e.inEpoll s.sockFd = true
  adds : e.inEpoll s.sockFd = false → s.netChannel.registerOp = .add

def AllMirrored (e : Engine) : Prop := ∀ p s, e.heap p = some s → Mirrored e s

/-- No session has the socket, and no event is polled on it. -/
structure Engine.Unused (e : Engine) (fd : Int) : Prop where
  unpolled : e.inEpoll fd = false
  unowned : ∀ p s, e.heap p = some s → s.sockFd ≠ fd

/-- The macros are used on sessions, and a new session gets a socket of its own. -/
def EpollOp.Legit (e : Engine) : EpollOp → Prop
  | .createActive _ _ fd _ => e.Unused fd
  | .createPassive _ _ para => e.Unused para.fd
  | .register p _ | .unregister p _ => (e.heap p).isSome

/-- An operation returns, and leaves every status mirrored. -/
def EpollOp.MirrorsAfter (e : Engine) (op : EpollOp) : Prop :=
  ∃ e', epollStep e op = .ok e' ∧ AllMirrored e'

/-- When an operation keeps status and set together. A passive session must get a block that says
unregistered. A first registration must succeed, on the session's own socket, and later only a
call that takes the session's own socket from the set may succeed, and none may fail that should. -/
def EpollOp.Keeps (e : Engine) : EpollOp → Prop
  | .createActive .. => True
  | .createPassive block _ _ => block.netChannel.status = epollRegStatusUnregistered
  | .register p accepts => ∃ s, e.heap p = some s ∧ s.netChannel.arg = true ∧
      (s.netChannel.registerOp = .add → accepts = true ∧ s.netChannel.sockFd = s.sockFd)
  | .unregister p accepts => ∃ s, e.heap p = some s ∧ s.netChannel.arg = true ∧
      if e.epollCtl .del s.netChannel.sockFd accepts = true then s.netChannel.sockFd = s.sockFd
      else s.netChannel.status ≠ epollRegStatusRegistered

/-- What the kernel guarantees of sockets and memory: no two sessions share a socket, and the set
holds sockets of sessions only. -/
structure Sockets (e : Engine) : Prop where
  own : ∀ p q s t, e.heap p = some s → e.heap q = some t → s.sockFd = t.sockFd → p = q
  known : ∀ fd, e.inEpoll fd = true → ∃ p s, e.heap p = some s ∧ s.sockFd = fd
  fresh : ∀ p, e.nextSess ≤ p → e.heap p = none

section Steps

variable {e e' : Engine} {p : SessPtr} {s s' : BackendSession} {fd : Int}

theorem inEpoll_iff : e.inEpoll fd = true ↔ ∃ r ∈ e.epoll, r.1 = fd := by
  simp [Engine.inEpoll]

/-- What a status says that is mirrored. -/
theorem Mirrored.status (h : Mirrored e s) :
    s.netChannel.status =
      if e.inEpoll s.sockFd then epollRegStatusRegistered else epollRegStatusUnregistered := by
  cases hin : e.inEpoll s.sockFd with
  | true => exact h.registered.mpr hin
  | false =>
    have hadd := h.adds hin
    unfold NetChannel.registerOp at hadd
    split at hadd
    · assumption
    · cases hadd

theorem mirrored_of_status
    (h : s.netChannel.status =
      if e.inEpoll s.sockFd then epollRegStatusRegistered else epollRegStatusUnregistered) :
    Mirrored e s := by
  cases hin : e.inEpoll s.sockFd with
  | true =>
    rw [hin, if_pos rfl] at h
    exact ⟨iff_of_true h hin, fun hout => by rw [hin] at hout; cases hout⟩
  | false =>
    rw [hin, if_neg (by decide)] at h
    refine ⟨iff_of_false ?_ ?_, fun _ => by rw [NetChannel.registerOp, if_pos h]⟩
    · rw [h]
      decide
    · rw [hin]
      decide

/-- A step that changes one session, its socket apart, and what the set says of that socket only. -/
structure Touches (e e' : Engine) (p : SessPtr) (s s' : BackendSession) : Prop where
  before : e.heap p = some s
  heap : e'.heap = Function.update e.heap p (some s')
  sockFd : s'.sockFd = s.sockFd
  nextSess : e'.nextSess = e.nextSess
  others : ∀ fd, fd ≠ s.sockFd → e'.inEpoll fd = e.inEpoll fd

theorem Touches.mirrors_iff (h : Touches e e' p s s') (hsock : Sockets e) (hm : AllMirrored e) :
    AllMirrored e' ↔ Mirrored e' s' := by
  constructor
  · intro hm'
    exact hm' p s' (by rw [h.heap, Function.update_self])
  · intro hs' q t ht
    by_cases hq : q = p
    · subst hq
      rw [h.heap, Function.update_self] at ht
      cases ht
      exact hs'
    · rw [h.heap, Function.update_of_ne hq] at ht
      have hother : t.sockFd ≠ s.sockFd := fun heq => hq (hsock.own q p t s ht h.before heq)
      refine mirrored_of_status ?_
      rw [h.others _ hother]
      exact (hm q t ht).status

theorem Touches.sockets (h : Touches e e' p s s') (hsock : Sockets e) : Sockets e' := by
  have hfd : ∀ q t, e'.heap q = some t → ∃ t', e.heap q = some t' ∧ t'.sockFd = t.sockFd := by
    intro q t ht
    by_cases hq : q = p
    · subst hq
      rw [h.heap, Function.update_self] at ht
      cases ht
      exact ⟨s, h.before, h.sockFd.symm⟩
    · rw [h.heap, Function.update_of_ne hq] at ht
      exact ⟨t, ht, rfl⟩
  constructor
  · intro q q' t t' ht ht' heq
    obtain ⟨u, hu, hut⟩ := hfd q t ht
    obtain ⟨u', hu', hut'⟩ := hfd q' t' ht'
    exact hsock.own q q' u u' hu hu' (by rw [hut, hut', heq])
  · intro fd hin
    by_cases hfd' : fd = s.sockFd
    · exact ⟨p, s', by rw [h.heap, Function.update_self], h.sockFd.trans hfd'.symm⟩
    · rw [h.others fd hfd'] at hin
      obtain ⟨q, t, ht, htfd⟩ := hsock.known fd hin
      have hq : q ≠ p := by
        rintro rfl
        cases h.before.symm.trans ht
        exact hfd' htfd.symm
      exact ⟨q, t, by rw [h.heap, Function.update_of_ne hq, ht], htfd⟩
  · intro q hq
    rw [h.nextSess] at hq
    have hne : q ≠ p := by
      rintro rfl
      cases h.before.symm.trans (hsock.fresh q hq)
    rw [h.heap, Function.update_of_ne hne]
    exact hsock.fresh q hq

/-! What each operation does. -/

theorem epollStep_ok {op : EpollOp} :
    epollStep e op = .ok e' ↔ ∃ u, op.exec e e = .ok (u, e') := by
  unfold epollStep
  cases h : op.exec e e with
  | error halt => simp [Except.map]
  | ok r =>
    obtain ⟨u, t⟩ := r
    simp [Except.map]

theorem derefPoller_run {ch : NetChannel} (harg : ch.arg = true) (t : Engine) :
    derefPoller ch t = .ok ((), t) := by
  rw [derefPoller, if_pos harg]
  rfl

/-- The set after a registration the kernel takes. -/
def Engine.polledBy (e : Engine) (p : SessPtr) (ch : NetChannel) : List (Int × SessPtr) :=
  match ch.registerOp with
  | .add => (ch.sockFd, p) :: e.epoll
  | _ => e.epoll.map fun r => if r.1 = ch.sockFd then (ch.sockFd, p) else r

/-- The state a registration leaves. -/
def Engine.afterRegister (e : Engine) (p : SessPtr) (s : BackendSession) (ctl : Bool) : Engine :=
  { e with
    heap := Function.update e.heap p (some s.registered)
    epoll := if ctl = true then e.polledBy p s.netChannel else e.epoll }

/-- The state an unregistration leaves. -/
def Engine.afterUnregister (e : Engine) (p : SessPtr) (s : BackendSession) (ctl : Bool) : Engine :=
  { e with
    heap := Function.update e.heap p (some
      { s with netChannel := { s.netChannel with status := epollRegStatusUnregistered } })
    epoll := if ctl = true then e.epoll.filter (fun r => r.1 != s.netChannel.sockFd)
             else e.epoll }

theorem registerEpoll_run {ctl : Bool} (hs : e.heap p = some s)
    (hstatus : s.netChannel.status = epollRegStatusUnregistered ∨
      s.netChannel.status = epollRegStatusRegistered) (harg : s.netChannel.arg = true) :
    registerEpoll p ctl e = .ok (if ctl = true then .ok else .error, e.afterRegister p s ctl) := by
  have hne : epollRegStatusRegistered ≠ epollRegStatusUnregistered := by decide
  unfold registerEpoll
  rw [Prog.bind_of_ok (deref_ok.mpr ⟨hs, rfl⟩)]
  rcases hstatus with h | h
  · have hop : s.netChannel.registerOp = .add := if_pos h
    rw [if_pos (by exact h), Prog.bind_of_ok ((store_ok (u := ())).mpr rfl)]
    refine (Prog.bind_of_ok (derefPoller_run harg _)).trans ?_
    cases ctl
    · rfl
    · simp only [Engine.afterRegister, Engine.polledBy, hop]
      rfl
  · have hop : s.netChannel.registerOp = .mod := if_neg (by rw [h]; exact hne)
    have hsame : s.registered =
        { s with netChannel := { s.netChannel with events := epollIn } } := by
      simp only [BackendSession.registered, ← h]
    rw [if_neg (by rw [h]; exact hne), if_pos (by exact h),
      Prog.bind_of_ok ((store_ok (u := ())).mpr rfl)]
    refine (Prog.bind_of_ok (derefPoller_run harg _)).trans ?_
    simp only [Engine.afterRegister, Engine.polledBy, hop, hsame]
    cases ctl <;> rfl

/-- Both macros follow the pointer to the poller. -/
theorem registerEpoll_unset {ctl : Bool} (hs : e.heap p = some s)
    (hstatus : s.netChannel.status = epollRegStatusUnregistered ∨
      s.netChannel.status = epollRegStatusRegistered) (harg : s.netChannel.arg = false) :
    registerEpoll p ctl e = .error .undefined := by
  have hne : epollRegStatusRegistered ≠ epollRegStatusUnregistered := by decide
  have hpoller : ∀ ch e', ch.arg = false → derefPoller ch e' = .error .undefined := by
    intro ch e' h
    rw [derefPoller, h]
    rfl
  unfold registerEpoll
  rw [Prog.bind_of_ok (deref_ok.mpr ⟨hs, rfl⟩)]
  rcases hstatus with h | h
  · rw [if_pos (by exact h), Prog.bind_of_ok ((store_ok (u := ())).mpr rfl)]
    exact Prog.bind_of_error (hpoller _ _ harg)
  · rw [if_neg (by rw [h]; exact hne), if_pos (by exact h),
      Prog.bind_of_ok ((store_ok (u := ())).mpr rfl)]
    exact Prog.bind_of_error (hpoller _ _ harg)

theorem unregisterEpoll_eq {ctl : Bool} (hs : e.heap p = some s)
    (harg : s.netChannel.arg = true) :
    unregisterEpoll p ctl e = .ok ((), e.afterUnregister p s ctl) := by
  unfold unregisterEpoll
  rw [Prog.bind_of_ok (deref_ok.mpr ⟨hs, rfl⟩),
    Prog.bind_of_ok (derefPoller_run harg e), Prog.bind_of_ok ((store_ok (u := ())).mpr rfl)]
  cases ctl <;> rfl

/-- What a registration step needs, and what it does. -/
theorem register_step {accepts : Bool} (hs : e.heap p = some s)
    (hstatus : s.netChannel.status = epollRegStatusUnregistered ∨
      s.netChannel.status = epollRegStatusRegistered) :
    epollStep e (.register p accepts) = .ok e' ↔ s.netChannel.arg = true ∧
      e' = e.afterRegister p s
        (e.epollCtl s.netChannel.registerOp s.netChannel.sockFd accepts) := by
  rw [epollStep_ok]
  simp only [EpollOp.exec, Prog.bind_of_ok (deref_ok.mpr ⟨hs, rfl⟩)]
  cases harg : s.netChannel.arg with
  | true =>
    rw [Prog.bind_of_ok (registerEpoll_run hs hstatus harg)]
    constructor
    · intro h
      obtain ⟨u, h⟩ := h
      exact ⟨rfl, (Prog.pure_ok.mp h).2.symm⟩
    · intro h
      exact ⟨(), Prog.pure_ok.mpr ⟨rfl, h.2.symm⟩⟩
  | false =>
    rw [Prog.bind_of_error (registerEpoll_unset hs hstatus harg)]
    simp

theorem unregister_step {accepts : Bool} (hs : e.heap p = some s) :
    epollStep e (.unregister p accepts) = .ok e' ↔ s.netChannel.arg = true ∧
      e' = e.afterUnregister p s (e.epollCtl .del s.netChannel.sockFd accepts) := by
  rw [epollStep_ok]
  simp only [EpollOp.exec, Prog.bind_of_ok (deref_ok.mpr ⟨hs, rfl⟩)]
  constructor
  · intro h
    obtain ⟨u, h⟩ := h
    obtain ⟨s', hs', harg, he⟩ := unregisterEpoll_ok h
    cases hs.symm.trans hs'
    exact ⟨harg, he⟩
  · intro h
    obtain ⟨harg, rfl⟩ := h
    exact ⟨(), unregisterEpoll_eq hs harg⟩

/-- Redirecting the events of a descriptor leaves the descriptors as they are. -/
theorem any_redirected (E : List (Int × SessPtr)) (sockFd fd : Int) (p : SessPtr) :
    (E.map fun r => if r.1 = sockFd then (sockFd, p) else r).any (fun r => r.1 == fd) =
      E.any fun r => r.1 == fd := by
  induction E with
  | nil => rfl
  | cons r E ih =>
    rw [List.map_cons, List.any_cons, List.any_cons, ih]
    by_cases hr : r.1 = sockFd
    · rw [if_pos hr, hr]
    · rw [if_neg hr]

theorem inEpoll_afterRegister (ctl : Bool) (fd : Int) :
    (e.afterRegister p s ctl).inEpoll fd =
      (ctl && s.netChannel.registerOp == .add && s.netChannel.sockFd == fd || e.inEpoll fd) := by
  cases ctl with
  | false => rfl
  | true =>
    cases hop : s.netChannel.registerOp with
    | add => simp [Engine.afterRegister, Engine.polledBy, hop, Engine.inEpoll]
    | mod | del =>
      simp only [Engine.afterRegister, Engine.polledBy, hop, Engine.inEpoll, if_true]
      rw [any_redirected]
      rfl

theorem inEpoll_afterUnregister (ctl : Bool) (fd : Int) :
    (e.afterUnregister p s ctl).inEpoll fd =
      (e.inEpoll fd && !(ctl && s.netChannel.sockFd == fd)) := by
  cases ctl with
  | false => simp [Engine.inEpoll, Engine.afterUnregister]
  | true =>
    rw [Bool.eq_iff_iff, inEpoll_iff, Bool.and_eq_true, inEpoll_iff]
    simp only [Engine.afterUnregister, if_true, List.mem_filter, bne_iff_ne, Bool.true_and,
      Bool.not_eq_true', beq_eq_false_iff_ne]
    constructor
    · intro h
      obtain ⟨r, ⟨hr, hne⟩, rfl⟩ := h
      exact ⟨⟨r, hr, rfl⟩, hne.symm⟩
    · intro h
      obtain ⟨⟨r, hr, rfl⟩, hne⟩ := h
      exact ⟨r, ⟨hr, hne.symm⟩, rfl⟩

/-! What each operation keeps. -/

theorem registerOp_add_iff :
    s.netChannel.registerOp = .add ↔ s.netChannel.status = epollRegStatusUnregistered := by
  unfold NetChannel.registerOp
  split <;> simp [*]

theorem Mirrored.known_status (h : Mirrored e s) :
    s.netChannel.status = epollRegStatusUnregistered ∨
      s.netChannel.status = epollRegStatusRegistered := by
  rw [h.status]
  cases e.inEpoll s.sockFd
  · exact .inl rfl
  · exact .inr rfl

theorem Mirrored.out_of_add (h : Mirrored e s) (hadd : s.netChannel.registerOp = .add) :
    e.inEpoll s.sockFd = false := by
  rw [registerOp_add_iff] at hadd
  rw [← Bool.not_eq_true, ← h.registered, hadd]
  decide

theorem touches_register (ctl : Bool) (hs : e.heap p = some s)
    (hown : s.netChannel.registerOp = .add → s.netChannel.sockFd = s.sockFd) :
    Touches e (e.afterRegister p s ctl) p s s.registered where
  before := hs
  heap := rfl
  sockFd := rfl
  nextSess := rfl
  others := by
    intro fd hfd
    rw [inEpoll_afterRegister]
    by_cases hadd : s.netChannel.registerOp = .add
    · rw [hown hadd, beq_eq_false_iff_ne.mpr hfd.symm, Bool.and_false, Bool.false_or]
    · rw [beq_eq_false_iff_ne.mpr hadd, Bool.and_false, Bool.false_and, Bool.false_or]

theorem touches_unregister (ctl : Bool) (hs : e.heap p = some s)
    (hown : ctl = true → s.netChannel.sockFd = s.sockFd) :
    Touches e (e.afterUnregister p s ctl) p s
      { s with netChannel := { s.netChannel with status := epollRegStatusUnregistered } } where
  before := hs
  heap := rfl
  sockFd := rfl
  nextSess := rfl
  others := by
    intro fd hfd
    rw [inEpoll_afterUnregister]
    cases ctl with
    | false => simp
    | true => rw [hown rfl, beq_eq_false_iff_ne.mpr hfd.symm, Bool.and_false, Bool.not_false,
        Bool.and_true]

theorem register_keeps_iff {accepts : Bool} (hsock : Sockets e) (hm : AllMirrored e)
    (hs : e.heap p = some s) :
    (∃ e', epollStep e (.register p accepts) = .ok e' ∧ AllMirrored e') ↔
      s.netChannel.arg = true ∧
        (s.netChannel.registerOp = .add → accepts = true ∧ s.netChannel.sockFd = s.sockFd) := by
  have hmir := hm p s hs
  constructor
  · intro h
    obtain ⟨e', hst, hm'⟩ := h
    obtain ⟨harg, rfl⟩ := (register_step hs hmir.known_status).mp hst
    refine ⟨harg, fun hadd => ?_⟩
    have hin := (hm' p s.registered (Function.update_self ..)).registered.mp rfl
    have hsame : s.registered.sockFd = s.sockFd := rfl
    rw [hsame, inEpoll_afterRegister, hmir.out_of_add hadd, Bool.or_false, Bool.and_eq_true,
      Bool.and_eq_true] at hin
    obtain ⟨⟨hctl, -⟩, hfd⟩ := hin
    unfold Engine.epollCtl at hctl
    rw [Bool.and_eq_true] at hctl
    exact ⟨hctl.1, beq_iff_eq.mp hfd⟩
  · intro h
    obtain ⟨harg, hadd⟩ := h
    refine ⟨_, (register_step hs hmir.known_status).mpr ⟨harg, rfl⟩, ?_⟩
    have htouch := touches_register
      (e.epollCtl s.netChannel.registerOp s.netChannel.sockFd accepts) hs
      fun h => (hadd h).2
    rw [htouch.mirrors_iff hsock hm]
    have hin : (e.afterRegister p s
        (e.epollCtl s.netChannel.registerOp s.netChannel.sockFd accepts)).inEpoll s.sockFd =
        true := by
      rw [inEpoll_afterRegister]
      by_cases hop : s.netChannel.registerOp = .add
      · obtain ⟨haccepts, hfd⟩ := hadd hop
        simp [Engine.epollCtl, hop, haccepts, hfd, hmir.out_of_add hop]
      · have hreg := hmir.known_status.resolve_left fun h => hop (registerOp_add_iff.mpr h)
        rw [hmir.registered.mp hreg, Bool.or_true]
    refine mirrored_of_status ?_
    have hsame : s.registered.sockFd = s.sockFd := rfl
    rw [hsame, hin]
    rfl

/-- An unregistered session is mirrored if its socket is out of the set. -/
theorem unregistered_mirrored_iff (ctl : Bool) :
    Mirrored (e.afterUnregister p s ctl)
        { s with netChannel := { s.netChannel with status := epollRegStatusUnregistered } } ↔
      (e.afterUnregister p s ctl).inEpoll s.sockFd = false := by
  constructor
  · intro h
    rw [← Bool.not_eq_true]
    intro hin
    have hne : epollRegStatusUnregistered ≠ epollRegStatusRegistered := by decide
    exact hne (h.registered.mpr hin)
  · intro h
    refine mirrored_of_status ?_
    change _ = if (e.afterUnregister p s ctl).inEpoll s.sockFd = true then _ else _
    rw [h]
    rfl

/-- A DEL on another socket takes it from the session that has it. -/
theorem foreign_del_breaks (hsock : Sockets e) (hm : AllMirrored e) (hs : e.heap p = some s)
    (hne : s.netChannel.sockFd ≠ s.sockFd) (hin : e.inEpoll s.netChannel.sockFd = true) :
    ¬ AllMirrored (e.afterUnregister p s true) := by
  intro hm'
  obtain ⟨q, t, ht, hfd⟩ := hsock.known _ hin
  have hq : q ≠ p := by
    rintro rfl
    cases hs.symm.trans ht
    exact hne hfd.symm
  have hreg := (hm q t ht).registered.mpr (by rw [hfd]; exact hin)
  have ht' : (e.afterUnregister p s true).heap q = some t := by
    rw [← ht]
    exact Function.update_of_ne hq ..
  have hin' := (hm' q t ht').registered.mp hreg
  rw [inEpoll_afterUnregister, hfd, beq_self_eq_true] at hin'
  simp at hin'

theorem unregister_keeps_iff {accepts : Bool} (hsock : Sockets e) (hm : AllMirrored e)
    (hs : e.heap p = some s) :
    (∃ e', epollStep e (.unregister p accepts) = .ok e' ∧ AllMirrored e') ↔
      s.netChannel.arg = true ∧
        if e.epollCtl .del s.netChannel.sockFd accepts = true
        then s.netChannel.sockFd = s.sockFd
        else s.netChannel.status ≠ epollRegStatusRegistered := by
  have hmir := hm p s hs
  constructor
  · intro h
    obtain ⟨e', hst, hm'⟩ := h
    obtain ⟨harg, rfl⟩ := (unregister_step hs).mp hst
    refine ⟨harg, ?_⟩
    have hout := (unregistered_mirrored_iff _).mp (hm' p _ (Function.update_self ..))
    cases hctl : e.epollCtl .del s.netChannel.sockFd accepts with
    | true =>
      rw [if_pos rfl]
      rw [hctl] at hm'
      by_contra hne
      have hin : e.inEpoll s.netChannel.sockFd = true := by
        rw [Engine.epollCtl, Bool.and_eq_true] at hctl
        exact hctl.2
      exact foreign_del_breaks hsock hm hs hne hin hm'
    | false =>
      rw [if_neg (by decide)]
      rw [hctl, inEpoll_afterUnregister, Bool.false_and, Bool.not_false, Bool.and_true] at hout
      intro hreg
      rw [hmir.registered.mp hreg] at hout
      cases hout
  · intro h
    obtain ⟨harg, hcond⟩ := h
    refine ⟨_, (unregister_step hs).mpr ⟨harg, rfl⟩, ?_⟩
    cases hctl : e.epollCtl .del s.netChannel.sockFd accepts with
    | true =>
      rw [hctl, if_pos rfl] at hcond
      rw [(touches_unregister _ hs fun _ => hcond).mirrors_iff hsock hm,
        unregistered_mirrored_iff, inEpoll_afterUnregister, hcond, beq_self_eq_true]
      simp
    | false =>
      rw [hctl, if_neg (by decide)] at hcond
      rw [(touches_unregister _ hs fun h => by cases h).mirrors_iff hsock hm,
        unregistered_mirrored_iff, inEpoll_afterUnregister, Bool.false_and, Bool.not_false,
        Bool.and_true, ← Bool.not_eq_true, ← hmir.registered]
      exact hcond

/-! Creation. -/

/-- The engine with one more session. -/
def Engine.withSession (e : Engine) (s : BackendSession) : Engine :=
  { e with heap := Function.update e.heap e.nextSess (some s), nextSess := e.nextSess + 1 }

theorem withSession_cases {t : BackendSession} (h : (e.withSession s).heap p = some t) :
    (p = e.nextSess ∧ s = t) ∨ (p ≠ e.nextSess ∧ e.heap p = some t) := by
  change Function.update e.heap e.nextSess (some s) p = some t at h
  by_cases hp : p = e.nextSess
  · rw [hp, Function.update_self] at h
    exact .inl ⟨hp, Option.some.inj h⟩
  · rw [Function.update_of_ne hp] at h
    exact .inr ⟨hp, h⟩

theorem withSession_mirrors_iff (hm : AllMirrored e) (hfd : e.Unused s.sockFd) :
    AllMirrored (e.withSession s) ↔ s.netChannel.status = epollRegStatusUnregistered := by
  have hsame : ∀ fd, (e.withSession s).inEpoll fd = e.inEpoll fd := fun _ => rfl
  constructor
  · intro h
    have hnew := (h e.nextSess s (Function.update_self ..)).status
    rwa [hsame, hfd.unpolled, if_neg (by decide)] at hnew
  · intro hstatus p t ht
    refine mirrored_of_status ?_
    rw [hsame]
    rcases withSession_cases ht with ⟨-, rfl⟩ | ⟨-, ht'⟩
    · rw [hfd.unpolled, hstatus, if_neg (by decide)]
    · exact (hm p t ht').status

theorem withSession_sockets (hsock : Sockets e) (hfd : e.Unused s.sockFd) :
    Sockets (e.withSession s) := by
  constructor
  · intro p q t u ht hu heq
    rcases withSession_cases ht with ⟨rfl, rfl⟩ | ⟨-, ht'⟩ <;>
      rcases withSession_cases hu with ⟨rfl, rfl⟩ | ⟨-, hu'⟩
    · rfl
    · exact absurd heq.symm (hfd.unowned q u hu')
    · exact absurd heq (hfd.unowned p t ht')
    · exact hsock.own p q t u ht' hu' heq
  · intro fd hin
    obtain ⟨p, t, ht, htfd⟩ := hsock.known fd hin
    have hp : p ≠ e.nextSess := by
      rintro rfl
      cases ht.symm.trans (hsock.fresh _ (Nat.le_refl _))
    exact ⟨p, t, (Function.update_of_ne hp ..).trans ht, htfd⟩
  · intro p hp
    have hlt : e.nextSess < p := hp
    exact (Function.update_of_ne (Nat.ne_of_gt hlt) ..).trans (hsock.fresh p (Nat.le_of_lt hlt))

/-- A session as `initActive` leaves it. -/
def openedSession (block : BackendSession) (p : SessPtr) (newSessId : UInt16) (fd : Int)
    (para : SessMsgPara) : BackendSession :=
  { block with
    netChannel :=
      { block.netChannel with
        sockFd := fd, arg := true, sess := some p, status := epollRegStatusUnregistered }
    frontendSessId := para.frontendSessId
    backendSessId := newSessId
    ipVersion := para.ipVersion.toNat
    sockFd := fd
    state := fun d => block.state d &&& backendSessLinkedToQueue
    establishMode := sessEstablishActive
    protoType := para.transProto.toNat
    msg := fun _ => [] }

/-- A session as `initPassive` leaves it, with the channel the block held. -/
def acceptedSession (block : BackendSession) (newSessId : UInt16) (para : PassiveSessParaIP) :
    BackendSession :=
  { block with
    backendSessId := newSessId
    devId := para.devId.toNat
    ipVersion := para.ipVersion.toNat
    sockFd := para.fd
    state := fun d => block.state d &&& backendSessLinkedToQueue
    establishMode := sessEstablishPassive
    protoType := para.transProto.toNat }

theorem createActive_step (block : BackendSession) (newSessId : UInt16) (fd : Int)
    (para : SessMsgPara) :
    epollStep e (.createActive block newSessId fd para) =
      .ok (e.withSession (openedSession block e.nextSess newSessId fd para)) := by
  refine epollStep_ok.mpr ⟨(), ?_⟩
  simp only [EpollOp.exec, initActive, Prog.bind_ok, mallocSession_ok, deref_ok, store_ok]
  refine ⟨_, _, ⟨rfl, rfl⟩, block, _, ⟨Function.update_self .., rfl⟩, ?_⟩
  rw [Function.update_idem]
  rfl

theorem createPassive_step (block : BackendSession) (newSessId : UInt16)
    (para : PassiveSessParaIP) :
    epollStep e (.createPassive block newSessId para) =
      .ok (e.withSession (acceptedSession block newSessId para)) := by
  refine epollStep_ok.mpr ⟨(), ?_⟩
  simp only [EpollOp.exec, initPassive, Prog.bind_ok, mallocSession_ok, deref_ok, store_ok]
  refine ⟨_, _, ⟨rfl, rfl⟩, block, _, ⟨Function.update_self .., rfl⟩, ?_⟩
  rw [Function.update_idem]
  rfl

/-! The creation functions as a whole leave the channels of these steps. -/

/-- An active creation is one of these steps and a registration that succeeds. -/
theorem createActive_channel {para : SessMsgPara} {env : CreateEnv} {st : ProcessStatus}
    (h : highSpeedCreateSessActive para env e = .ok (st, e')) (hfresh : e.heap e.nextSess = none)
    (hs : e'.heap e.nextSess = some s) :
    ∃ block, env.malloc = some block ∧ e'.epoll = (s.sockFd, e.nextSess) :: e.epoll ∧
      ∀ newSessId, s.netChannel =
        (openedSession block e.nextSess newSessId s.sockFd para).registered.netChannel := by
  cases createActive_ok h with
  | noMemory _ => cases hfresh.symm.trans hs
  | noId _ | failed _ _ _ | leaked _ _ _ _ => cases (Function.update_self ..).symm.trans hs
  | created hm =>
    cases (Function.update_self ..).symm.trans hs
    exact ⟨_, hm, rfl, fun _ => rfl⟩

/-- A passive creation is one of these steps. -/
theorem createPassive_channel {para : PassiveSessParaIP} {env : PassiveEnv} {st : ProcessStatus}
    (h : highSpeedCreateSessPassive para env e = .ok (st, e')) (hfresh : e.heap e.nextSess = none)
    (hs : e'.heap e.nextSess = some s) :
    ∃ block, env.malloc = some block ∧ e'.epoll = e.epoll ∧ s.sockFd = para.fd ∧
      ∀ newSessId, s.netChannel = (acceptedSession block newSessId para).netChannel := by
  unfold highSpeedCreateSessPassive at h
  split at h
  · obtain ⟨-, rfl⟩ := Prog.pure_ok.mp h
    cases hfresh.symm.trans hs
  split at h
  · obtain ⟨-, rfl⟩ := Prog.pure_ok.mp h
    cases hfresh.symm.trans hs
  cases hm : env.malloc with
  | none =>
    simp only [hm, Prog.bind_ok, Prog.pure_ok] at h
    obtain ⟨_, _, hr, -, rfl⟩ := h
    cases releaseIdIfSet_ok hr
    cases hfresh.symm.trans hs
  | some block =>
    simp only [hm, Prog.bind_ok, mallocSession_ok] at h
    obtain ⟨_, _, ⟨rfl, rfl⟩, id, _, hid, h⟩ := h
    obtain ⟨-, rfl⟩ := allocateId_ok hid
    split at h
    · obtain ⟨-, rfl⟩ := createSessPassiveError_ok h
      cases (Function.update_self ..).symm.trans hs
    simp only [Prog.bind_ok] at h
    obtain ⟨node, _, hpop, h⟩ := h
    rcases popFree_ok hpop with ⟨rfl, -, rfl⟩ | ⟨n, L₁, rfl, -, -, rfl⟩
    · obtain ⟨-, rfl⟩ := createSessPassiveError_ok h
      cases (Function.update_self ..).symm.trans hs
    simp only [initPassive, attachNode, Prog.bind_ok, deref_ok, setNodeSess_ok, store_ok] at h
    obtain ⟨_, _, ⟨b₁, _, ⟨hb₁, rfl⟩, rfl⟩, _, _, ⟨b₂, _, ⟨hb₂, rfl⟩, _, _, rfl, rfl⟩,
      inserted, _, hins, h⟩ := h
    cases (Function.update_self e.nextSess (some block) e.heap).symm.trans hb₁
    cases (Function.update_self e.nextSess _ _).symm.trans hb₂
    rcases insertSessionNode_ok hins (Function.update_self n _ _)
      (Function.update_self e.nextSess _ _) (isLinked_clear _) with
      ⟨-, rfl, rfl⟩ | ⟨k, L₂, -, rfl, -, rfl⟩
    · rw [if_pos rfl] at h
      obtain ⟨-, L₂, -, rfl⟩ := createSessPassiveError_node_ok h
        (Function.update_self e.nextSess _ _) (isLinked_clear _)
      cases (Function.update_self ..).symm.trans hs
    · simp only [reduceCtorEq, if_false, Prog.pure_ok] at h
      obtain ⟨-, rfl⟩ := h
      cases (Function.update_self ..).symm.trans hs
      exact ⟨block, rfl, rfl, rfl, fun _ => rfl⟩

/-! All operations. -/

theorem keeps_iff {op : EpollOp} (hm : AllMirrored e) (hsock : Sockets e) (hlegit : op.Legit e) :
    op.MirrorsAfter e ↔ op.Keeps e := by
  have hstep : ∀ t, epollStep e op = .ok t → (op.MirrorsAfter e ↔ AllMirrored t) := by
    intro t ht
    unfold EpollOp.MirrorsAfter
    rw [ht]
    exact ⟨fun h => by obtain ⟨_, ⟨⟩, h⟩ := h; exact h, fun h => ⟨t, rfl, h⟩⟩
  cases op with
  | createActive block newSessId fd para =>
    rw [hstep _ (createActive_step ..),
      withSession_mirrors_iff hm (show e.Unused (openedSession ..).sockFd from hlegit)]
    exact iff_of_true rfl trivial
  | createPassive block newSessId para =>
    rw [hstep _ (createPassive_step ..),
      withSession_mirrors_iff hm (show e.Unused (acceptedSession ..).sockFd from hlegit)]
    exact Iff.rfl
  | register p accepts =>
    obtain ⟨s, hs⟩ := Option.isSome_iff_exists.mp hlegit
    unfold EpollOp.MirrorsAfter EpollOp.Keeps
    rw [register_keeps_iff hsock hm hs]
    exact ⟨fun h => ⟨s, hs, h⟩, fun h => by
      obtain ⟨t, ht, h⟩ := h
      cases hs.symm.trans ht
      exact h⟩
  | unregister p accepts =>
    obtain ⟨s, hs⟩ := Option.isSome_iff_exists.mp hlegit
    unfold EpollOp.MirrorsAfter EpollOp.Keeps
    rw [unregister_keeps_iff hsock hm hs]
    exact ⟨fun h => ⟨s, hs, h⟩, fun h => by
      obtain ⟨t, ht, h⟩ := h
      cases hs.symm.trans ht
      exact h⟩

theorem keeps_sockets {op : EpollOp} (hm : AllMirrored e) (hsock : Sockets e) (hlegit : op.Legit e)
    (hkeeps : op.Keeps e) (h : epollStep e op = .ok e') : Sockets e' := by
  cases op with
  | createActive block newSessId fd para =>
    cases (createActive_step ..).symm.trans h
    exact withSession_sockets hsock hlegit
  | createPassive block newSessId para =>
    cases (createPassive_step ..).symm.trans h
    exact withSession_sockets hsock hlegit
  | register p accepts =>
    obtain ⟨s, hs, -, hown⟩ := hkeeps
    obtain ⟨-, rfl⟩ := (register_step hs (hm p s hs).known_status).mp h
    exact (touches_register _ hs fun hadd => (hown hadd).2).sockets hsock
  | unregister p accepts =>
    obtain ⟨s, hs, -, hown⟩ := hkeeps
    obtain ⟨-, rfl⟩ := (unregister_step hs).mp h
    refine (touches_unregister _ hs fun hctl => ?_).sockets hsock
    rwa [hctl, if_pos rfl] at hown

/-- A session whose socket is not in the set gets it there by the next registration the kernel
takes. -/
theorem registers_again (hm : AllMirrored e) (hs : e.heap p = some s)
    (hout : e.inEpoll s.sockFd = false) (harg : s.netChannel.arg = true)
    (hown : s.netChannel.sockFd = s.sockFd) :
    s.netChannel.registerOp = .add ∧
      ∃ e', registerEpoll p (e.epollCtl .add s.netChannel.sockFd true) e = .ok (.ok, e') ∧
        e'.inEpoll s.sockFd = true := by
  have hadd := (hm p s hs).adds hout
  have hctl : e.epollCtl .add s.netChannel.sockFd true = true := by
    simp [Engine.epollCtl, hown, hout]
  refine ⟨hadd, e.afterRegister p s true, ?_, ?_⟩
  · rw [hctl, registerEpoll_run hs (hm p s hs).known_status harg]
    rfl
  · rw [inEpoll_afterRegister, hadd, hown]
    simp

end Steps

theorem mirrors_init (devNum : Nat) (config : Nat → HighSpeedNetDevice) (blockSize : Nat) :
    AllMirrored (highSpeedInitPool devNum config blockSize) := by
  intro p s hs
  cases hs

theorem sockets_init (devNum : Nat) (config : Nat → HighSpeedNetDevice) (blockSize : Nat) :
    Sockets (highSpeedInitPool devNum config blockSize) where
  own := by
    intro p q s t hs
    cases hs
  known := by
    intro fd hin
    cases hin
  fresh := fun _ _ => rfl

/-- Over any sequence of creations, registrations and unregistrations every status mirrors the set
exactly if every operation meets its condition; a run that does so returns, and leaves every session
outside the set ready to be added. -/
theorem epollStatus_mirrors_iff (devNum : Nat) (config : Nat → HighSpeedNetDevice) (blockSize : Nat)
    (ops : List EpollOp)
    (hlegit : AllSteps epollStep EpollOp.Legit (highSpeedInitPool devNum config blockSize) ops) :
    (AllSteps epollStep EpollOp.MirrorsAfter (highSpeedInitPool devNum config blockSize) ops ↔
      AllSteps epollStep EpollOp.Keeps (highSpeedInitPool devNum config blockSize) ops) ∧
    (AllSteps epollStep EpollOp.Keeps (highSpeedInitPool devNum config blockSize) ops →
      ∃ t, run epollStep (highSpeedInitPool devNum config blockSize) ops = .ok t ∧ AllMirrored t ∧
        ∀ p s, t.heap p = some s → t.inEpoll s.sockFd = false → s.netChannel.arg = true →
          s.netChannel.sockFd = s.sockFd →
            s.netChannel.registerOp = .add ∧
              ∃ t', registerEpoll p (t.epollCtl .add s.netChannel.sockFd true) t = .ok (.ok, t') ∧
                t'.inEpoll s.sockFd = true) := by
  have hinit : AllMirrored (highSpeedInitPool devNum config blockSize) ∧
      Sockets (highSpeedInitPool devNum config blockSize) :=
    ⟨mirrors_init devNum config blockSize, sockets_init devNum config blockSize⟩
  have hkeep : ∀ e op e', AllMirrored e ∧ Sockets e → op.Legit e ∧ op.Keeps e →
      epollStep e op = .ok e' → AllMirrored e' ∧ Sockets e' := by
    intro e op e' hgood hop hst
    obtain ⟨t, ht, hm⟩ := (keeps_iff hgood.1 hgood.2 hop.1).mpr hop.2
    cases ht.symm.trans hst
    exact ⟨hm, keeps_sockets hgood.1 hgood.2 hop.1 hop.2 hst⟩
  constructor
  · have hiff := allSteps_iff
      (C := fun e op => EpollOp.Legit e op ∧ EpollOp.MirrorsAfter e op)
      (D := fun e op => EpollOp.Legit e op ∧ EpollOp.Keeps e op)
      (I := fun e => AllMirrored e ∧ Sockets e)
      (fun e op hgood => and_congr_right fun hl => keeps_iff hgood.1 hgood.2 hl) hkeep hinit ops
    constructor
    · exact fun h => (hiff.mp (hlegit.and h)).mono fun _ _ h => h.2
    · exact fun h => (hiff.mpr (hlegit.and h)).mono fun _ _ h => h.2
  · intro h
    obtain ⟨t, ht, hgood⟩ := run_returns
      (I := fun e => AllMirrored e ∧ Sockets e)
      (C := fun e op => EpollOp.Legit e op ∧ EpollOp.Keeps e op)
      (fun e op hgood hop => by
        obtain ⟨e', hst, -⟩ := (keeps_iff hgood.1 hgood.2 hop.1).mpr hop.2
        exact ⟨e', hst, hkeep e op e' hgood hop hst⟩) hinit (hlegit.and h)
    exact ⟨t, ht, hgood.1, fun p s hs hout harg hown =>
      registers_again hgood.1 hs hout harg hown⟩

def idleEngine : Engine := highSpeedInitPool 0 (fun _ => { active := false, nsId := 0 }) 4096

/-- A session with socket 5, opened actively. -/
def openedOp : EpollOp :=
  .createActive zeroSession 1 5 { frontendSessId := 7, devId := 0, ipVersion := 4, transProto := 1 }

theorem openedOp_legit : openedOp.Legit idleEngine := ⟨rfl, fun _ _ h => by cases h⟩

theorem openedOp_registers_legit (accepts : Bool) :
    AllSteps epollStep EpollOp.Legit idleEngine [openedOp, .register 0 accepts] :=
  allSteps_cons (createActive_step ..) openedOp_legit ⟨rfl, fun _ _ => trivial⟩

theorem epollStatus_mirrors_iff_opened :
    AllSteps epollStep EpollOp.Legit idleEngine [openedOp, .register 0 true] ∧
      (AllSteps epollStep EpollOp.MirrorsAfter idleEngine [openedOp, .register 0 true] ↔
        AllSteps epollStep EpollOp.Keeps idleEngine [openedOp, .register 0 true]) :=
  ⟨openedOp_registers_legit true,
    (epollStatus_mirrors_iff 0 (fun _ => { active := false, nsId := 0 }) 4096
      [openedOp, .register 0 true] (openedOp_registers_legit true)).1⟩

/-- A session opened passively in a block that says registered. -/
def acceptedOp : EpollOp :=
  .createPassive
    { zeroSession with netChannel := { zeroSession.netChannel with status := 1 } } 1
    { fd := 5, devId := 0, transProto := 1, ipVersion := 4 }

/-- After a failed ADD the status says registered, and a second attempt can only be a MOD, which
fails; a passive session can say so from the start. -/
theorem failed_add_stays_registered :
    (∃ t, run epollStep idleEngine [openedOp, .register 0 false] = .ok t ∧ ¬ AllMirrored t ∧
      ∀ accepts, ∃ t', registerEpoll 0 (t.epollCtl .mod 5 accepts) t = .ok (.error, t')) ∧
    acceptedOp.Legit idleEngine ∧
      ∃ t, run epollStep idleEngine [acceptedOp] = .ok t ∧ ¬ AllMirrored t := by
  refine ⟨?_, ⟨rfl, fun _ _ h => by cases h⟩, ?_⟩
  · let s := openedSession zeroSession 0 1 5
      { frontendSessId := 7, devId := 0, ipVersion := 4, transProto := 1 }
    refine ⟨(idleEngine.withSession s).afterRegister 0 s false, ?_, fun h => ?_, fun accepts => ?_⟩
    · refine (run_cons_ok _ (createActive_step ..)).trans ?_
      exact run_cons_ok [] ((register_step rfl (.inl rfl)).mpr ⟨rfl, rfl⟩)
    · have hin := (h 0 s.registered rfl).registered.mp rfl
      cases hin
    · have hfails : ((idleEngine.withSession s).afterRegister 0 s false).epollCtl .mod 5 accepts =
          false := by
        cases accepts <;> rfl
      rw [hfails]
      exact ⟨_, registerEpoll_run (s := s.registered) rfl (.inr rfl) rfl⟩
  · refine ⟨_, run_cons_ok [] (createPassive_step ..), fun h => ?_⟩
    have hin := (h 0 _ rfl).registered.mp rfl
    cases hin

end BackendProxy.Pool
