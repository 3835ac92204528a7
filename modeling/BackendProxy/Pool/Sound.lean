import BackendProxy.Pool.Deletion
import BackendProxy.Pool.Traffic

namespace BackendProxy.Pool

open Lib Lib.Tailq Queue

/-! The engine between two operations: its active queues are intact and lead to sessions of the
table. What is said here holds whatever memory the sessions were made of. -/

def BackendSession.traffic (s : BackendSession) (queued : Dir → Bool) : SessTraffic :=
  { frontendSessId := s.frontendSessId
    backendSessId := s.backendSessId
    linked := fun d => isLinked (s.state d)
    queued
    msg := s.msg }

/-- The traffic of an engine whose active queues hold `l`. -/
def Engine.traffic (e : Engine) (l : Dir → List SessPtr) : Traffic :=
  { blockSize := e.blockSize
    sess := fun p =>
      if p ∈ e.htable then (e.heap p).map fun s => s.traffic fun d => decide (p ∈ l d) else none
    history := e.history }

structure Sound (e : Engine) (l : Dir → List SessPtr) : Prop where
  holds : ∀ d, Holds (e.queue d) () (l d)
  queued : ∀ d, ∀ p ∈ l d, p ∈ e.htable ∧ ∃ s, e.heap p = some s ∧ isLinked (s.state d) = true
  /-- A bit that was set from the start has no queue entry behind it. -/
  stray : ∀ d p s, p ∈ e.htable → e.heap p = some s → isLinked (s.state d) = true → p ∉ l d →
    (e.queue d).prev p = none
  polled : ∀ r ∈ e.epoll, r.2 ∈ e.htable ∧
    ∃ s, e.heap r.2 = some s ∧ s.sockFd = r.1 ∧ s.netChannel.sess = some r.2
  active : ∀ p s, p ∈ e.htable → e.heap p = some s → s.establishMode = sessEstablishActive
  old : ∀ p ∈ e.htable, p < e.nextSess
  fresh : ∀ p, e.nextSess ≤ p → e.heap p = none ∧ e.history p = .blank ∧
    ∀ d, (e.queue d).prev p = none
  nodup : e.htable.Nodup

section Sound

variable {e e' : Engine} {l l' : Dir → List SessPtr} {p : SessPtr} {s s' : BackendSession}

theorem Sound.linked (h : Sound e l) {d : Dir} (hp : p ∈ l d) (hs : e.heap p = some s) :
    isLinked (s.state d) = true := by
  obtain ⟨-, s', hs', hlink⟩ := h.queued d p hp
  cases hs.symm.trans hs'
  exact hlink

theorem Sound.not_fresh (h : Sound e l) {d : Dir} {q : SessPtr} (hq : e.nextSess ≤ q) :
    q ∉ l d := by
  intro hmem
  exact absurd (h.old q (h.queued d q hmem).1) (Nat.not_lt.mpr hq)

theorem traffic_sess (hp : p ∈ e.htable) (hs : e.heap p = some s) :
    (e.traffic l).sess p = some (s.traffic fun d => decide (p ∈ l d)) := by
  simp [Engine.traffic, hp, hs]

/-- Only the session `p` changes, and with it perhaps its place in the queues. -/
theorem Sound.session {Q : Dir → Links Unit SessPtr} {hist : SessHistory}
    (he' : e' = { e with
      heap := Function.update e.heap p (some s')
      queue := Q
      history := Function.update e.history p hist })
    (h : Sound e l) (hp : p ∈ e.htable) (hs : e.heap p = some s)
    (hfd : s'.sockFd = s.sockFd) (hch : s'.netChannel.sess = s.netChannel.sess)
    (hmode : s'.establishMode = s.establishMode)
    (hholds : ∀ d, Holds (Q d) () (l' d))
    (hothers : ∀ d q, q ≠ p → (q ∈ l' d ↔ q ∈ l d))
    (hlinked : ∀ d, p ∈ l' d → isLinked (s'.state d) = true)
    (hstray : ∀ d, isLinked (s'.state d) = true → p ∉ l' d → (Q d).prev p = none)
    (hprev : ∀ d q, q ≠ p → q ∉ l d → (Q d).prev q = (e.queue d).prev q) :
    Sound e' l' ∧ e'.traffic l' = { e.traffic l with
      sess := Function.update (e.traffic l).sess p
        (some (s'.traffic fun d => decide (p ∈ l' d)))
      history := Function.update e.history p hist } := by
  subst he'
  have hheap : ∀ q, q ≠ p → Function.update e.heap p (some s') q = e.heap q := by
    intro q hq
    exact Function.update_of_ne hq _ _
  constructor
  · constructor
    case holds => exact hholds
    case queued =>
      intro d q hq
      by_cases hqp : q = p
      · subst hqp
        exact ⟨hp, s', Function.update_self _ _ _, hlinked d hq⟩
      · obtain ⟨hin, t, ht, hl⟩ := h.queued d q ((hothers d q hqp).mp hq)
        exact ⟨hin, t, (hheap q hqp).trans ht, hl⟩
    case stray =>
      intro d q t hin ht hl hq
      by_cases hqp : q = p
      · subst hqp
        cases (Function.update_self q _ _).symm.trans ht
        exact hstray d hl hq
      · have hnot : q ∉ l d := fun hmem => hq ((hothers d q hqp).mpr hmem)
        exact (hprev d q hqp hnot).trans
          (h.stray d q t hin ((hheap q hqp).symm.trans ht) hl hnot)
    case polled =>
      intro r hr
      obtain ⟨hin, t, ht, hrfd, hrch⟩ := h.polled r hr
      refine ⟨hin, ?_⟩
      by_cases hqp : r.2 = p
      · rw [hqp] at ht hrch ⊢
        cases hs.symm.trans ht
        exact ⟨s', Function.update_self _ _ _, hfd.trans hrfd, hch.trans hrch⟩
      · exact ⟨t, (hheap _ hqp).trans ht, hrfd, hrch⟩
    case active =>
      intro q t hin ht
      by_cases hqp : q = p
      · subst hqp
        cases (Function.update_self q _ _).symm.trans ht
        exact hmode.trans (h.active q s hp hs)
      · exact h.active q t hin ((hheap q hqp).symm.trans ht)
    case old => exact h.old
    case fresh =>
      intro q hq
      have hqp : q ≠ p := Nat.ne_of_gt (Nat.lt_of_lt_of_le (h.old p hp) hq)
      obtain ⟨hnone, hblank, hfree⟩ := h.fresh q hq
      refine ⟨(hheap q hqp).trans hnone, (Function.update_of_ne hqp _ _).trans hblank, ?_⟩
      intro d
      exact (hprev d q hqp (h.not_fresh hq)).trans (hfree d)
    case nodup => exact h.nodup
  · unfold Engine.traffic
    congr 1
    funext q
    by_cases hqp : q = p
    · subst hqp
      simp [hp]
    · simp only [Function.update_of_ne hqp, hothers _ q hqp]

theorem storeNoting_ok {f : SessHistory → SessHistory} {u : Unit} :
    storeNoting p s f e = .ok (u, e') ↔
      { e with
        heap := Function.update e.heap p (some s)
        history := Function.update e.history p (f (e.history p)) } = e' :=
  Prog.modify_ok

/-- Segments come or go, and the history tells. -/
theorem Sound.stored {d : Dir} {segs : List (List UInt8)} {hist : SessHistory}
    (he' : e' = { e with
      heap := Function.update e.heap p (some (s.setMsg d segs))
      history := Function.update e.history p hist })
    (h : Sound e l) (hp : p ∈ e.htable) (hs : e.heap p = some s) :
    Sound e' l ∧ e'.traffic l = { e.traffic l with
      sess := Function.update (e.traffic l).sess p
        (some ((s.traffic fun d => decide (p ∈ l d)).setMsg d segs))
      history := Function.update e.history p hist } := by
  refine Sound.session he' h hp hs rfl rfl rfl h.holds (fun _ _ _ => Iff.rfl) ?_ ?_
    (fun _ _ _ _ => rfl)
  · intro d hmem
    change isLinked (s.state d) = true
    exact h.linked hmem hs
  · intro d hlink hmem
    exact h.stray d p s hp hs hlink hmem

/-- The session enters or leaves one queue, and its bit says which. -/
theorem Sound.requeue {d : Dir} {flags : UInt8} {Q : Links Unit SessPtr} {k : List SessPtr}
    (he' : e' = { e with
      heap := Function.update e.heap p (some (s.setState d flags))
      queue := Function.update e.queue d Q })
    (h : Sound e l) (hp : p ∈ e.htable) (hs : e.heap p = some s)
    (hholds : Holds Q () k) (hothers : ∀ q, q ≠ p → (q ∈ k ↔ q ∈ l d))
    (hmem : p ∈ k ↔ isLinked flags = true)
    (hprev : ∀ q, q ≠ p → q ∉ l d → Q.prev q = (e.queue d).prev q) :
    Sound e' (Function.update l d k) ∧ e'.traffic (Function.update l d k) = { e.traffic l with
      sess := Function.update (e.traffic l).sess p (some
        { s.traffic (fun d => decide (p ∈ l d)) with
          linked := Function.update (fun d => isLinked (s.state d)) d (isLinked flags)
          queued := Function.update (fun d => decide (p ∈ l d)) d (isLinked flags) }) } := by
  have hkeep : ∀ d', d' ≠ d → (s.setState d flags).state d' = s.state d' := by
    intro d' hd
    exact Function.update_of_ne hd _ _
  have hnew : (s.setState d flags).state d = flags := Function.update_self _ _ _
  have hview : (s.setState d flags).traffic
        (fun d' => decide (p ∈ Function.update l d k d')) =
      { s.traffic (fun d => decide (p ∈ l d)) with
        linked := Function.update (fun d => isLinked (s.state d)) d (isLinked flags)
        queued := Function.update (fun d => decide (p ∈ l d)) d (isLinked flags) } := by
    unfold BackendSession.traffic
    congr 1 <;> funext d' <;> by_cases hd : d' = d
    · subst hd
      rw [hnew, Function.update_self]
    · rw [hkeep d' hd, Function.update_of_ne hd]
    · subst hd
      simp [hmem]
    · simp only [Function.update_of_ne hd]
  have hhist : Function.update e.history p (e.history p) = e.history := Function.update_eq_self _ _
  have hfull : e' = { e with
      heap := Function.update e.heap p (some (s.setState d flags))
      queue := Function.update e.queue d Q
      history := Function.update e.history p (e.history p) } := by
    rw [hhist, he']
  suffices hall : Sound e' (Function.update l d k) ∧
      e'.traffic (Function.update l d k) = { e.traffic l with
        sess := Function.update (e.traffic l).sess p (some
          ((s.setState d flags).traffic fun d' => decide (p ∈ Function.update l d k d')))
        history := Function.update e.history p (e.history p) } by
    rw [hview, hhist] at hall
    exact hall
  refine Sound.session hfull h hp hs rfl rfl rfl ?_ ?_ ?_ ?_ ?_
  all_goals
    intro d'
    by_cases hd : d' = d
  · subst hd
    simpa using hholds
  · simpa [hd] using h.holds d'
  · subst hd
    simpa using hothers
  · simp [hd]
  · subst hd
    simp [hnew, hmem]
  · rw [Function.update_of_ne hd, hkeep d' hd]
    intro hin
    exact h.linked hin hs
  · subst hd
    intro hlink hout
    rw [hnew, ← hmem] at hlink
    rw [Function.update_self] at hout
    exact absurd hlink hout
  · rw [Function.update_of_ne hd, Function.update_of_ne hd, hkeep d' hd]
    exact h.stray d' p s hp hs
  · subst hd
    simpa using hprev
  · simp [hd]

/-- A session that is not linked goes to the end of the queue. -/
theorem Sound.link {d : Dir} {u : Unit} (hl : linkToQueue p d e = .ok (u, e'))
    (h : Sound e l) (hp : p ∈ e.htable) (hs : e.heap p = some s) :
    ∃ l', Sound e' l' ∧ e'.traffic l' = { e.traffic l with
      sess := Function.update (e.traffic l).sess p
        (some ((s.traffic fun d => decide (p ∈ l d)).link d)) } := by
  obtain ⟨hlink, rfl⟩ | ⟨hlink, Q, hQ, he'⟩ := linkToQueue_ok hl hs
  · refine ⟨l, h, ?_⟩
    have hsame : (s.traffic fun d => decide (p ∈ l d)).link d =
        s.traffic fun d => decide (p ∈ l d) := by
      simp [SessTraffic.link, BackendSession.traffic, hlink, Function.update_eq_self_iff]
    rw [hsame, ← traffic_sess hp hs, Function.update_eq_self]
  · have hnot : p ∉ l d := by
      intro hmem
      rw [h.linked hmem hs] at hlink
      cases hlink
    obtain ⟨Q', hQ', hholds⟩ := (h.holds d).insertTail hnot
    cases hQ.symm.trans hQ'
    have hall := Sound.requeue he' h hp hs hholds (by simp +contextual) (by simp)
      (fun q hq _ => insertTail_prev hQ hq)
    refine ⟨_, hall.1, hall.2.trans ?_⟩
    simp [SessTraffic.link, BackendSession.traffic, hlink, hnot]

/-- The entry of a session is taken out of the queue and its bit cleared. -/
theorem Sound.drop {d : Dir} {Q : Links Unit SessPtr} {a b : List SessPtr}
    (he' : e' = { e with
      heap := Function.update e.heap p
        (some (s.setState d (s.state d &&& ~~~backendSessLinkedToQueue)))
      queue := Function.update e.queue d Q })
    (h : Sound e l) (hl : l d = a ++ p :: b) (hs : e.heap p = some s)
    (hQ : (e.queue d).remove () p = some Q) :
    Sound e' (Function.update l d (a ++ b)) ∧
      e'.traffic (Function.update l d (a ++ b)) = { e.traffic l with
        sess := Function.update (e.traffic l).sess p
          (some ((s.traffic fun d => decide (p ∈ l d)).drop d)) } := by
  have hmem : p ∈ l d := by
    rw [hl]
    simp
  have hnd := (h.holds d).nodup
  rw [hl] at hnd
  have hout : p ∉ a ++ b := (List.nodup_middle.mp hnd).notMem
  obtain ⟨Q', hQ', hholds⟩ := (hl ▸ h.holds d).remove
  cases hQ.symm.trans hQ'
  have hall := Sound.requeue he' h (h.queued d p hmem).1 hs hholds ?_ ?_ ?_
  · refine ⟨hall.1, hall.2.trans ?_⟩
    simp [SessTraffic.drop, BackendSession.traffic]
  · intro q hq
    simp [hl, hq]
  · simpa using hout
  · intro q _ hq
    exact (h.holds d).remove_prev hmem hq hQ

/-! Deletion. -/

theorem untied_live {q : SessPtr}
    (h : (e'.heap q).map BackendSession.untied = (e.heap q).map BackendSession.untied)
    (hs : e.heap q = some s) :
    ∃ flags, e'.heap q = some { s with sessDevLinkState := flags } := by
  rw [hs, Option.map_some] at h
  obtain ⟨s', hs', hsame⟩ := Option.map_eq_some_iff.mp h
  have hs : s' = { s with sessDevLinkState := s'.sessDevLinkState } := by
    cases s
    cases s'
    simpa [BackendSession.untied] using hsame
  exact ⟨_, hs' ▸ congrArg some hs⟩

/-- A session leaves the queues it was in. One whose bit was set from the start cannot be
unlinked: its entry leads nowhere. -/
theorem Sound.dequeued (h : Sound e l) (hd : Deleted e p s e') (d : Dir) :
    Holds (e'.queue d) () ((l d).erase p) ∧
      ∀ q, q ∉ l d → (e'.queue d).prev q = (e.queue d).prev q := by
  cases hlink : isLinked (s.state d) with
  | false =>
    have hnot : p ∉ l d := by
      intro hmem
      rw [h.linked hmem hd.live] at hlink
      cases hlink
    rw [hd.unlinked d hlink, List.erase_of_not_mem hnot]
    exact ⟨h.holds d, fun _ _ => rfl⟩
  | true =>
    have hrem := hd.removed d hlink
    by_cases hmem : p ∈ l d
    · obtain ⟨a, b, hpa, hl, herase⟩ := List.exists_erase_eq hmem
      have hholds := h.holds d
      rw [hl] at hholds
      obtain ⟨Q, hQ, hholds⟩ := hholds.remove
      cases hrem.symm.trans hQ
      rw [herase]
      exact ⟨hholds, fun q hq => (h.holds d).remove_prev hmem hq hrem⟩
    · rw [Links.remove, h.stray d p s hd.listed hd.live hlink hmem] at hrem
      cases hrem

theorem Sound.deleted (h : Sound e l) (hd : Deleted e p s e') :
    Sound e' (fun d => (l d).erase p) ∧
      e'.traffic (fun d => (l d).erase p) = { e.traffic l with
        sess := Function.update (e.traffic l).sess p none } := by
  have hin : ∀ q, q ∈ e'.htable ↔ q ≠ p ∧ q ∈ e.htable := by
    intro q
    rw [hd.htable]
    exact h.nodup.mem_erase_iff
  have hmem : ∀ d q, q ∈ (l d).erase p ↔ q ≠ p ∧ q ∈ l d := by
    intro d q
    exact (h.holds d).nodup.mem_erase_iff
  constructor
  · constructor
    case holds => exact fun d => (h.dequeued hd d).1
    case queued =>
      intro d q hq
      obtain ⟨hqp, hq⟩ := (hmem d q).mp hq
      obtain ⟨hlisted, t, ht, hlink⟩ := h.queued d q hq
      obtain ⟨flags, ht'⟩ := untied_live (hd.others q hqp) ht
      exact ⟨(hin q).mpr ⟨hqp, hlisted⟩, _, ht', hlink⟩
    case stray =>
      intro d q t' hlisted ht' hlink hq
      obtain ⟨hqp, hlisted⟩ := (hin q).mp hlisted
      have hnot : q ∉ l d := fun hmem' => hq ((hmem d q).mpr ⟨hqp, hmem'⟩)
      obtain ⟨flags, ht⟩ := untied_live (hd.others q hqp).symm ht'
      exact ((h.dequeued hd d).2 q hnot).trans (h.stray d q _ hlisted ht hlink hnot)
    case polled =>
      intro r hr
      obtain ⟨hr, hfd⟩ := hd.epoll r hr
      obtain ⟨hlisted, t, ht, hrfd, hch⟩ := h.polled r hr
      have hqp : r.2 ≠ p := by
        intro he
        rw [he, hd.live] at ht
        cases ht
        exact hfd hrfd.symm
      obtain ⟨flags, ht'⟩ := untied_live (hd.others r.2 hqp) ht
      exact ⟨(hin r.2).mpr ⟨hqp, hlisted⟩, _, ht', hrfd, hch⟩
    case active =>
      intro q t' hlisted ht'
      obtain ⟨hqp, hlisted⟩ := (hin q).mp hlisted
      obtain ⟨flags, ht⟩ := untied_live (hd.others q hqp).symm ht'
      have hmode := h.active q _ hlisted ht
      exact hmode
    case old =>
      intro q hq
      rw [hd.nextSess]
      exact h.old q ((hin q).mp hq).2
    case fresh =>
      intro q hq
      rw [hd.nextSess] at hq
      obtain ⟨hnone, hblank, hfree⟩ := h.fresh q hq
      have hqp : q ≠ p := Nat.ne_of_gt (Nat.lt_of_lt_of_le (h.old p hd.listed) hq)
      refine ⟨?_, by rw [hd.history]; exact hblank, ?_⟩
      · have := hd.others q hqp
        rw [hnone] at this
        exact Option.map_eq_none_iff.mp this
      · intro d
        exact ((h.dequeued hd d).2 q (h.not_fresh hq)).trans (hfree d)
    case nodup =>
      rw [hd.htable]
      exact h.nodup.erase p
  · unfold Engine.traffic
    rw [hd.blockSize, hd.history]
    congr 1
    funext q
    by_cases hqp : q = p
    · subst hqp
      simp [hin]
    · have hview := congrArg
        (Option.map fun t => BackendSession.traffic t fun d => decide (q ∈ l d)) (hd.others q hqp)
      rw [Option.map_map, Option.map_map] at hview
      simp only [hin, hmem, hqp, Function.update_of_ne, ne_eq, not_false_eq_true, true_and]
      congr 1

/-- Taking a session out of a queue before deleting it makes no difference: the second removal
finds the entry as the first left it. -/
theorem Sound.deleted_after_removal {d : Dir} {Q : Links Unit SessPtr} (h : Sound e l)
    (hmem : p ∈ l d) (hQ : (e.queue d).remove () p = some Q)
    (hd : Deleted { e with queue := Function.update e.queue d Q } p s e') :
    Deleted e p s e' := by
  have hlink := h.linked hmem hd.live
  have hgone : e'.queue d = Q := by
    have hrem := hd.removed d hlink
    simp only [Function.update_self, (h.holds d).remove_twice hmem hQ] at hrem
    exact (Option.some.inj hrem).symm
  refine ⟨hd.live, hd.listed, hd.htable, hd.sessNum, hd.idQueue, ?_, ?_, hd.freed, hd.others,
    hd.epoll, hd.nextSess, hd.devNum, hd.blockSize, hd.history, hd.given⟩
  · intro d' hl
    have hne : d' ≠ d := by
      intro he
      rw [he, hlink] at hl
      cases hl
    simpa [hne] using hd.unlinked d' hl
  · intro d' hl
    by_cases hne : d' = d
    · subst hne
      rw [hgone]
      exact hQ
    · simpa [hne] using hd.removed d' hl

/-! Creation. -/

/-- An attempt leaves no session in the table, or a freed one. -/
structure Attempted (e : Engine) (o : Option BackendSession) (e' : Engine) : Prop where
  heap : e'.heap = Function.update e.heap e.nextSess o
  nextSess : e'.nextSess = e.nextSess + 1
  htable : e'.htable = e.htable ∨ e'.htable = e.htable ++ [e.nextSess] ∧ o = none
  queue : e'.queue = e.queue
  epoll : e'.epoll ⊆ e.epoll
  blockSize : e'.blockSize = e.blockSize
  history : e'.history = e.history

theorem Sound.attempted (h : Sound e l) {o : Option BackendSession} (ha : Attempted e o e') :
    Sound e' l ∧ e'.traffic l = e.traffic l := by
  obtain ⟨hheap, hnext, hlist, hqueue, hpoll, hblock, hhist⟩ := ha
  have hold : ∀ q, q ∈ e.htable → e'.heap q = e.heap q := by
    intro q hq
    rw [hheap]
    exact Function.update_of_ne (Nat.ne_of_lt (h.old q hq)) _ _
  have hin : ∀ q, q ∈ e.htable → q ∈ e'.htable := by
    intro q hq
    rcases hlist with hl | ⟨hl, -⟩ <;> simp [hl, hq]
  have hlive : ∀ q s, q ∈ e'.htable → e'.heap q = some s → q ∈ e.htable ∧ e.heap q = some s := by
    intro q s hq hs
    have hq : q ∈ e.htable := by
      rcases hlist with hl | ⟨hl, ho⟩
      · exact hl ▸ hq
      · rw [hl, List.mem_append, List.mem_singleton] at hq
        rcases hq with hq | hq
        · exact hq
        · rw [hq, hheap, Function.update_self, ho] at hs
          cases hs
    exact ⟨hq, (hold q hq).symm.trans hs⟩
  have hnew : e.nextSess ∉ e.htable := fun hm => Nat.lt_irrefl _ (h.old _ hm)
  constructor
  · constructor
    case holds =>
      rw [hqueue]
      exact h.holds
    case queued =>
      intro d q hq
      obtain ⟨hlisted, s, hs, hlink⟩ := h.queued d q hq
      exact ⟨hin q hlisted, s, (hold q hlisted).trans hs, hlink⟩
    case stray =>
      intro d q s hlisted hs hlink hnot
      obtain ⟨hlisted, hs⟩ := hlive q s hlisted hs
      rw [hqueue]
      exact h.stray d q s hlisted hs hlink hnot
    case polled =>
      intro r hr
      obtain ⟨hlisted, s, hs, hrest⟩ := h.polled r (hpoll hr)
      exact ⟨hin r.2 hlisted, s, (hold r.2 hlisted).trans hs, hrest⟩
    case active =>
      intro q s hlisted hs
      obtain ⟨hlisted, hs⟩ := hlive q s hlisted hs
      exact h.active q s hlisted hs
    case old =>
      intro q hq
      rw [hnext]
      rcases hlist with hl | ⟨hl, -⟩ <;> rw [hl] at hq
      · exact Nat.lt_succ_of_lt (h.old q hq)
      · rcases List.mem_append.mp hq with hq | hq
        · exact Nat.lt_succ_of_lt (h.old q hq)
        · cases List.mem_singleton.mp hq
          exact Nat.lt_succ_self _
    case fresh =>
      intro q hq
      rw [hnext] at hq
      rw [hheap, hhist, hqueue, Function.update_of_ne (Nat.ne_of_gt hq)]
      exact h.fresh q (Nat.le_of_lt hq)
    case nodup =>
      rcases hlist with hl | ⟨hl, -⟩ <;> rw [hl]
      · exact h.nodup
      · rw [← List.concat_eq_append]
        exact h.nodup.concat hnew
  · unfold Engine.traffic
    rw [hblock, hhist]
    congr 1
    funext q
    by_cases hq : q ∈ e.htable
    · simp [hq, hin q hq, hold q hq]
    · rw [if_neg hq]
      split <;> rename_i hq'
      · cases hs : e'.heap q with
        | none => rfl
        | some s => exact absurd (hlive q s hq' hs).1 hq
      · rfl

/-- A new session with contents `s` joins the table, its descriptor `fd` registered. -/
structure Joined (e : Engine) (s : BackendSession) (fd : Int) (e' : Engine) : Prop where
  heap : e'.heap = Function.update e.heap e.nextSess (some s)
  nextSess : e'.nextSess = e.nextSess + 1
  htable : e'.htable = e.htable ++ [e.nextSess]
  queue : e'.queue = e.queue
  epoll : e'.epoll = (fd, e.nextSess) :: e.epoll
  blockSize : e'.blockSize = e.blockSize
  history : e'.history = e.history
  sockFd : s.sockFd = fd
  channel : s.netChannel.sess = some e.nextSess
  mode : s.establishMode = sessEstablishActive

theorem Sound.joined (h : Sound e l) {fd : Int} (hj : Joined e s fd e') :
    Sound e' l ∧ e'.traffic l =
      { e.traffic l with
        sess :=
          Function.update (e.traffic l).sess e.nextSess (some (s.traffic fun _ => false)) } := by
  obtain ⟨hheap, hnext, hlist, hqueue, hpoll, hblock, hhist, hfd, hch, hmode⟩ := hj
  have hself : e'.heap e.nextSess = some s := by
    rw [hheap]
    exact Function.update_self _ _ _
  have hold : ∀ q, q ≠ e.nextSess → e'.heap q = e.heap q := by
    intro q hq
    rw [hheap]
    exact Function.update_of_ne hq _ _
  have hin : ∀ q, q ∈ e'.htable ↔ q ∈ e.htable ∨ q = e.nextSess := by
    intro q
    rw [hlist, List.mem_append, List.mem_singleton]
  have hne : ∀ q, q ∈ e.htable → q ≠ e.nextSess := fun q hq => Nat.ne_of_lt (h.old q hq)
  obtain ⟨-, -, hfree⟩ := h.fresh e.nextSess (Nat.le_refl _)
  constructor
  · constructor
    case holds =>
      rw [hqueue]
      exact h.holds
    case queued =>
      intro d q hq
      obtain ⟨hlisted, t, ht, hlink⟩ := h.queued d q hq
      exact ⟨(hin q).mpr (Or.inl hlisted), t, (hold q (hne q hlisted)).trans ht, hlink⟩
    case stray =>
      intro d q t hlisted ht hlink hnot
      rw [hqueue]
      rcases (hin q).mp hlisted with hlisted | rfl
      · exact h.stray d q t hlisted ((hold q (hne q hlisted)).symm.trans ht) hlink hnot
      · exact hfree d
    case polled =>
      intro r hr
      rw [hpoll] at hr
      rcases List.mem_cons.mp hr with rfl | hr
      · exact ⟨(hin _).mpr (Or.inr rfl), s, hself, hfd, hch⟩
      · obtain ⟨hlisted, t, ht, hrest⟩ := h.polled r hr
        exact ⟨(hin _).mpr (Or.inl hlisted), t, (hold _ (hne _ hlisted)).trans ht, hrest⟩
    case active =>
      intro q t hlisted ht
      rcases (hin q).mp hlisted with hlisted | rfl
      · exact h.active q t hlisted ((hold q (hne q hlisted)).symm.trans ht)
      · cases hself.symm.trans ht
        exact hmode
    case old =>
      intro q hq
      rw [hnext]
      rcases (hin q).mp hq with hq | rfl
      · exact Nat.lt_succ_of_lt (h.old q hq)
      · exact Nat.lt_succ_self _
    case fresh =>
      intro q hq
      rw [hnext] at hq
      rw [hold q (Nat.ne_of_gt hq), hhist, hqueue]
      exact h.fresh q (Nat.le_of_lt hq)
    case nodup =>
      rw [hlist, ← List.concat_eq_append]
      exact h.nodup.concat (fun hin => hne e.nextSess hin rfl)
  · unfold Engine.traffic
    rw [hblock, hhist]
    congr 1
    funext q
    by_cases hq : q = e.nextSess
    · subst hq
      have hout : ∀ d, e.nextSess ∉ l d := fun d => h.not_fresh (Nat.le_refl _)
      simp [hin, hself, hout]
    · simp [hin, hold q hq, hq]

end Sound

theorem sound_init (devNum : Nat) (config : Nat → HighSpeedNetDevice) (blockSize : Nat) :
    Sound (highSpeedInitPool devNum config blockSize) (fun _ => []) ∧
      (highSpeedInitPool devNum config blockSize).traffic (fun _ => []) = .empty blockSize := by
  refine ⟨⟨fun _ => holds_init _ _, ?_, ?_, ?_, ?_, ?_, fun _ _ => ⟨rfl, rfl, fun _ => rfl⟩,
    List.nodup_nil⟩, rfl⟩
  · intro d p hp
    cases hp
  · intro d p s hp
    cases hp
  · intro r hr
    cases hr
  · intro p s hp
    cases hp
  · intro p hp
    cases hp

end BackendProxy.Pool
