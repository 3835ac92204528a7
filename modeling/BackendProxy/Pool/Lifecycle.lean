import BackendProxy.Lib.Journal
import BackendProxy.Pool.Responses
import BackendProxy.Pool.WorldMoves

namespace BackendProxy.Pool

open Lib Lib.Tailq Queue Wire

/-! The life of a session as TX tells it: its creation, its data, its end. Pointers are never used
twice, so a session is told apart from a later one with the same ID. -/

/-- The creation was reported as a success, with these IDs. -/
def Opened (log : List Posting) (p : SessPtr) (frontend backend : UInt16) : Prop :=
  ∃ ip, ⟨some p, .response .create frontend backend ip
    ⟨sessOpStatusSuccess, sessOpCodeSuccess⟩⟩ ∈ log

def Closed (log : List Posting) (p : SessPtr) : Prop :=
  ∃ f b ip r, ⟨some p, .response .close f b ip r⟩ ∈ log

def Unmentioned (log : List Posting) (p : SessPtr) : Prop := ∀ x ∈ log, x.sess ≠ some p

/-- The message comes at a time its session may send it. -/
def Timely (log : List Posting) (x : Posting) : Prop :=
  ∀ p, x.sess = some p →
    match x.msg with
    | .response .create _ _ _ _ | .command _ => Unmentioned log p
    | .data t => Opened log p t.frontendSessId t.backendSessId ∧ ¬ Closed log p
    | .response .close f _ _ _ => (∃ b, Opened log p f b) ∧ ¬ Closed log p

/-- What holds of the world between two changes. -/
structure Ledger (w : World) : Prop where
  timely : Justified Timely w.tx
  mentioned : ∀ x ∈ w.tx, ∀ q, x.sess = some q → q < w.engine.nextSess
  old : ∀ q ∈ w.engine.htable, q < w.engine.nextSess
  nodup : w.engine.htable.Nodup
  live : ∀ q s, q ∈ w.engine.htable → w.engine.heap q = some s →
    Opened w.tx q s.frontendSessId s.backendSessId ∧ ¬ Closed w.tx q
  noted : ∀ q t, ⟨some q, .data t⟩ ∈ w.tx → t ∈ (w.engine.history q).transmitted
  ended : ∀ r ∈ w.ended, r.1 < w.engine.nextSess ∧ r.1 ∉ w.engine.htable ∧ r.2 ≤ w.tx.length ∧
    ∀ t, ⟨some r.1, .data t⟩ ∉ w.tx.drop r.2
  gone : ∀ q f b, Opened w.tx q f b → q ∉ w.engine.htable → ∃ n, (q, n) ∈ w.ended

/-- A change that puts `xs` on TX. -/
structure Advance (w : World) (xs : List Posting) (w' : World) : Prop where
  tx : w'.tx = w.tx ++ xs
  nextSess : w.engine.nextSess ≤ w'.engine.nextSess
  grown : Grown w.engine w'.engine
  timely : Justified Timely (w.tx ++ xs)
  mentioned : ∀ x ∈ xs, ∀ q, x.sess = some q → q < w'.engine.nextSess
  nodup : w'.engine.htable.Nodup
  /-- Who joins the table is new. -/
  joined : ∀ q ∈ w'.engine.htable, q < w'.engine.nextSess ∧
    (q ∈ w.engine.htable ∨ w.engine.nextSess ≤ q)
  live : ∀ q s, q ∈ w'.engine.htable → w'.engine.heap q = some s →
    (∃ t, w.engine.heap q = some t ∧ t.frontendSessId = s.frontendSessId ∧
      t.backendSessId = s.backendSessId) ∧ q ∈ w.engine.htable ∨
    w.engine.nextSess ≤ q ∧ Opened xs q s.frontendSessId s.backendSessId
  spared : ∀ q ∈ w'.engine.htable, ¬ Closed xs q
  /-- Only a session of the table sends data. -/
  noted : ∀ q t, ⟨some q, .data t⟩ ∈ xs → q ∈ w.engine.htable ∧ q ∈ w'.engine.htable ∧
    t ∈ (w'.engine.history q).transmitted
  ended : ∀ r ∈ w'.ended, r ∈ w.ended ∨
    r.1 ∈ w.engine.htable ∧ r.1 ∉ w'.engine.htable ∧ r.2 = w.tx.length
  opened : ∀ q f b, Opened xs q f b → q ∈ w'.engine.htable
  /-- Who leaves the table is noted as deleted, and stays so. -/
  gone : (∀ q ∈ w.engine.htable, q ∉ w'.engine.htable → ∃ n, (q, n) ∈ w'.ended) ∧
    w.ended ⊆ w'.ended

section Ledger

variable {w w' : World} {xs : List Posting}

theorem ledger_init (devNum : Nat) (config : Nat → HighSpeedNetDevice) (blockSize : Nat) :
    Ledger (World.init devNum config blockSize) := by
  refine ⟨.nil, ?_, ?_, List.nodup_nil, ?_, ?_, ?_, ?_⟩
  · intro x hx
    cases hx
  · intro q hq
    cases hq
  · intro q s hq
    cases hq
  · intro q t ht
    cases ht
  · intro r hr
    cases hr
  · intro q f b hopen
    obtain ⟨ip, hin⟩ := hopen
    cases hin

theorem Opened.append {p : SessPtr} {f b : UInt16} (h : Opened w.tx p f b) (xs : List Posting) :
    Opened (w.tx ++ xs) p f b := by
  obtain ⟨ip, hin⟩ := h
  exact ⟨ip, List.mem_append_left xs hin⟩

theorem closed_append {log : List Posting} {p : SessPtr} :
    Closed (log ++ xs) p ↔ Closed log p ∨ Closed xs p := by
  constructor
  · intro h
    obtain ⟨f, b, ip, r, hin⟩ := h
    rcases List.mem_append.mp hin with hin | hin
    · exact .inl ⟨f, b, ip, r, hin⟩
    · exact .inr ⟨f, b, ip, r, hin⟩
  · intro h
    rcases h with ⟨f, b, ip, r, hin⟩ | ⟨f, b, ip, r, hin⟩
    · exact ⟨f, b, ip, r, List.mem_append_left _ hin⟩
    · exact ⟨f, b, ip, r, List.mem_append_right _ hin⟩

/-- TX does not mention a session before it is made. -/
theorem Ledger.unmentioned (h : Ledger w) {q : SessPtr} (hq : w.engine.nextSess ≤ q) :
    Unmentioned w.tx q := by
  intro x hx hsess
  exact absurd (h.mentioned x hx q hsess) (Nat.not_lt.mpr hq)

theorem Unmentioned.not_closed {log : List Posting} {q : SessPtr} (h : Unmentioned log q) :
    ¬ Closed log q := by
  intro hc
  obtain ⟨f, b, ip, r, hin⟩ := hc
  exact h _ hin rfl

theorem Ledger.advance (h : Ledger w) (ha : Advance w xs w') : Ledger w' := by
  refine ⟨?_, ?_, fun q hq => (ha.joined q hq).1, ha.nodup, ?_, ?_, ?_, ?_⟩
  · rw [ha.tx]
    exact ha.timely
  · intro x hx q hq
    rw [ha.tx] at hx
    rcases List.mem_append.mp hx with hx | hx
    · exact Nat.lt_of_lt_of_le (h.mentioned x hx q hq) ha.nextSess
    · exact ha.mentioned x hx q hq
  · intro q s hq hs
    rw [ha.tx, closed_append]
    have hspared := ha.spared q hq
    rcases ha.live q s hq hs with ⟨⟨t, ht, hf, hb⟩, hin⟩ | ⟨hnew, ip, hopen⟩
    · obtain ⟨hopen, hclosed⟩ := h.live q t hin ht
      rw [hf, hb] at hopen
      exact ⟨hopen.append xs, fun hc => hc.elim hclosed hspared⟩
    · refine ⟨⟨ip, List.mem_append_right _ hopen⟩, fun hc => hc.elim ?_ hspared⟩
      exact (h.unmentioned hnew).not_closed
  · intro q t ht
    rw [ha.tx] at ht
    rcases List.mem_append.mp ht with ht | ht
    · exact ha.grown q (h.noted q t ht)
    · exact (ha.noted q t ht).2.2
  · intro r hr
    have hsplit : ∀ n ≤ w.tx.length, w'.tx.drop n = w.tx.drop n ++ xs := by
      intro n hn
      rw [ha.tx]
      exact List.drop_append_of_le_length hn
    have hlen : w.tx.length ≤ w'.tx.length := by
      rw [ha.tx]
      simp
    rcases ha.ended r hr with hr | ⟨hin, hout, hn⟩
    · obtain ⟨hold, hout, hn, hdata⟩ := h.ended r hr
      refine ⟨Nat.lt_of_lt_of_le hold ha.nextSess, ?_, Nat.le_trans hn hlen, fun t ht => ?_⟩
      · intro hin
        rcases (ha.joined r.1 hin).2 with hin | hge
        · exact hout hin
        · exact absurd hold (Nat.not_lt.mpr hge)
      · rw [hsplit r.2 hn] at ht
        rcases List.mem_append.mp ht with ht | ht
        · exact hdata t ht
        · exact hout (ha.noted r.1 t ht).1
    · refine ⟨Nat.lt_of_lt_of_le (h.old r.1 hin) ha.nextSess, hout, hn ▸ hlen, fun t ht => ?_⟩
      rw [hsplit r.2 (Nat.le_of_eq hn), hn, List.drop_length] at ht
      exact hout (ha.noted r.1 t ht).2.1
  · intro q f b hopen hout
    obtain ⟨ip, hin⟩ := hopen
    rw [ha.tx] at hin
    rcases List.mem_append.mp hin with hin | hin
    · by_cases hlisted : q ∈ w.engine.htable
      · exact ha.gone.1 q hlisted hout
      · obtain ⟨n, hn⟩ := h.gone q f b ⟨ip, hin⟩ hlisted
        exact ⟨n, ha.gone.2 hn⟩
    · exact absurd (ha.opened q f b ⟨ip, hin⟩) hout

/-! What each change of the world says. -/

/-- Messages about no session are always in order. -/
theorem Ledger.silent (h : Ledger w) (hxs : ∀ x ∈ xs, x.sess = none) :
    Justified Timely (w.tx ++ xs) := by
  refine h.timely.append fun ys x hx _ p hp => ?_
  rw [hxs x hx] at hp
  cases hp

theorem not_closed_silent (hxs : ∀ x ∈ xs, x.sess = none) (q : SessPtr) : ¬ Closed xs q := by
  intro hc
  obtain ⟨f, b, ip, r, hin⟩ := hc
  cases hxs _ hin

theorem noticed_silent (para : SessMsgPara) (put : ProcessStatus) (respDat : SessOpRespData) :
    ∀ x ∈ noticed para put respDat, x.sess = none := by
  intro x hx
  unfold noticed at hx
  split at hx
  · cases List.mem_singleton.mp hx
    rfl
  · cases hx

/-- Traffic keeps the IDs of a session. -/
theorem ids_of_traffic {e e' : Engine} {q : SessPtr} {s' : BackendSession}
    (hsame : SameButTraffic e e') (hs' : e'.heap q = some s') :
    ∃ s, e.heap q = some s ∧ s.frontendSessId = s'.frontendSessId ∧
      s.backendSessId = s'.backendSessId := by
  obtain ⟨s, hs, hkeep⟩ := hsame.live hs'
  have hf := congrArg BackendSession.frontendSessId hkeep
  have hb := congrArg BackendSession.backendSessId hkeep
  exact ⟨s, hs, hf, hb⟩

/-- Traffic, with DATA messages of one session at most. -/
theorem Ledger.traffic (h : Ledger w) {e : Engine} (hsame : SameButTraffic w.engine e)
    (hgrown : Grown w.engine e) (htimely : Justified Timely (w.tx ++ xs))
    (hdata : ∀ x ∈ xs, ∃ p ∈ w.engine.htable, ∃ t ∈ (e.history p).transmitted,
      x = ⟨some p, .data t⟩) :
    Advance w xs { w with engine := e, tx := w.tx ++ xs } := by
  have ht : e.htable = w.engine.htable := by rw [hsame.fields]
  have hn : e.nextSess = w.engine.nextSess := by rw [hsame.fields]
  constructor
  case tx => exact rfl
  case nextSess => exact Nat.le_of_eq hn.symm
  case grown => exact hgrown
  case timely => exact htimely
  case mentioned =>
    intro x hx q hq
    obtain ⟨p, hp, t, -, rfl⟩ := hdata x hx
    cases hq
    rw [hn]
    exact h.old q hp
  case nodup =>
    rw [ht]
    exact h.nodup
  case joined =>
    intro q hq
    rw [ht] at hq
    rw [hn]
    exact ⟨h.old q hq, .inl hq⟩
  case live =>
    intro q s hq hs
    rw [ht] at hq
    exact .inl ⟨ids_of_traffic hsame hs, hq⟩
  case spared =>
    intro q _ hc
    obtain ⟨f, b, ip, r, hin⟩ := hc
    obtain ⟨p, -, t, -, heq⟩ := hdata _ hin
    cases heq
  case noted =>
    intro q t hin
    obtain ⟨p, hp, t', ht', heq⟩ := hdata _ hin
    cases heq
    exact ⟨hp, ht ▸ hp, ht'⟩
  case ended => exact fun r hr => .inl hr
  case opened =>
    intro q f b hopen
    obtain ⟨ip, hin⟩ := hopen
    obtain ⟨p, -, t, -, heq⟩ := hdata _ hin
    cases heq
  case gone =>
    refine ⟨?_, List.Subset.refl _⟩
    intro q hq hout
    exact absurd (ht ▸ hq) hout

/-- An attempt at a creation that leaves no session in the table. -/
theorem Ledger.attempt (h : Ledger w) {o : Option BackendSession} (htx : w'.tx = w.tx ++ xs)
    (hend : w'.ended = w.ended) (hhist : w'.engine.history = w.engine.history)
    (hx : w'.engine.nextSess = w.engine.nextSess + 1)
    (hheap : w'.engine.heap = Function.update w.engine.heap w.engine.nextSess o)
    (ht : w'.engine.htable = w.engine.htable ∨
      w'.engine.htable = w.engine.htable ++ [w.engine.nextSess] ∧ o = none)
    (htimely : Justified Timely (w.tx ++ xs))
    (hxs : ∀ x ∈ xs, x.sess = none ∨ ∃ b, x = ⟨some w.engine.nextSess, .command b⟩) :
    Advance w xs w' := by
  have hin : ∀ q ∈ w'.engine.htable, q ∈ w.engine.htable ∨ q = w.engine.nextSess ∧ o = none := by
    intro q hq
    rcases ht with ht | ⟨ht, ho⟩ <;> rw [ht] at hq
    · exact .inl hq
    · rcases List.mem_append.mp hq with hq | hq
      · exact .inl hq
      · exact .inr ⟨List.mem_singleton.mp hq, ho⟩
  have hsub : ∀ q ∈ w.engine.htable, q ∈ w'.engine.htable := by
    intro q hq
    rcases ht with ht | ⟨ht, -⟩ <;> rw [ht]
    · exact hq
    · exact List.mem_append_left _ hq
  constructor
  case tx => exact htx
  case nextSess =>
    rw [hx]
    exact Nat.le_succ _
  case grown =>
    intro q
    rw [hhist]
    exact List.Subset.refl _
  case timely => exact htimely
  case mentioned =>
    intro x hmem q hq
    rw [hx]
    rcases hxs x hmem with hnone | ⟨b, rfl⟩
    · rw [hnone] at hq
      cases hq
    · cases hq
      exact Nat.lt_succ_self _
  case nodup =>
    rcases ht with ht | ⟨ht, -⟩ <;> rw [ht]
    · exact h.nodup
    · rw [← List.concat_eq_append]
      exact h.nodup.concat fun hin => Nat.lt_irrefl _ (h.old _ hin)
  case joined =>
    intro q hq
    rw [hx]
    rcases hin q hq with hq | ⟨rfl, -⟩
    · exact ⟨Nat.lt_succ_of_lt (h.old q hq), .inl hq⟩
    · exact ⟨Nat.lt_succ_self _, .inr (Nat.le_refl _)⟩
  case live =>
    intro q s hq hs
    rw [hheap] at hs
    rcases hin q hq with hq | ⟨rfl, ho⟩
    · rw [Function.update_of_ne (Nat.ne_of_lt (h.old q hq))] at hs
      exact .inl ⟨⟨s, hs, rfl, rfl⟩, hq⟩
    · rw [Function.update_self, ho] at hs
      cases hs
  case spared =>
    intro q _ hc
    obtain ⟨f, b, ip, r, hmem⟩ := hc
    rcases hxs _ hmem with hnone | ⟨b, heq⟩
    · cases hnone
    · cases heq
  case noted =>
    intro q t hmem
    rcases hxs _ hmem with hnone | ⟨b, heq⟩
    · cases hnone
    · cases heq
  case ended =>
    intro r hr
    rw [hend] at hr
    exact .inl hr
  case opened =>
    intro q f b hopen
    obtain ⟨ip, hmem⟩ := hopen
    rcases hxs _ hmem with hnone | ⟨b, heq⟩
    · cases hnone
    · cases heq
  case gone =>
    refine ⟨?_, ?_⟩
    · intro q hq hout
      exact absurd (hsub q hq) hout
    · rw [hend]
      exact List.Subset.refl _

/-- A creation that fails before it makes a session. -/
theorem Ledger.notice (h : Ledger w) (ids : List UInt16) (hxs : ∀ x ∈ xs, x.sess = none) :
    Advance w xs { w with engine := { w.engine with idQueue := ids }, tx := w.tx ++ xs } := by
  refine ⟨rfl, Nat.le_refl _, fun _ => List.Subset.refl _, h.silent hxs, ?_, h.nodup,
    fun q hq => ⟨h.old q hq, .inl hq⟩, fun q s hq hs => .inl ⟨⟨s, hs, rfl, rfl⟩, hq⟩,
    fun q _ => not_closed_silent hxs q, ?_, fun r hr => .inl hr, ?_,
    fun q hq hout => absurd hq hout, List.Subset.refl _⟩
  · intro x hx q hq
    rw [hxs x hx] at hq
    cases hq
  · intro q t hin
    cases hxs _ hin
  · intro q f b hopen
    obtain ⟨ip, hin⟩ := hopen
    cases hxs _ hin

/-- A session joins the table, and its creation is reported. -/
theorem Ledger.created (h : Ledger w) {s : BackendSession} {f b ip : UInt16}
    (htx : w'.tx = w.tx ++ [⟨some w.engine.nextSess, .response .create f b ip
      ⟨sessOpStatusSuccess, sessOpCodeSuccess⟩⟩])
    (hend : w'.ended = w.ended) (hhist : w'.engine.history = w.engine.history)
    (hx : w'.engine.nextSess = w.engine.nextSess + 1)
    (hheap : w'.engine.heap = Function.update w.engine.heap w.engine.nextSess (some s))
    (ht : w'.engine.htable = w.engine.htable ++ [w.engine.nextSess])
    (hf : s.frontendSessId = f) (hb : s.backendSessId = b) :
    Advance w [⟨some w.engine.nextSess, .response .create f b ip
      ⟨sessOpStatusSuccess, sessOpCodeSuccess⟩⟩] w' := by
  have hnew := h.unmentioned (Nat.le_refl w.engine.nextSess)
  constructor
  case tx => exact htx
  case nextSess =>
    rw [hx]
    exact Nat.le_succ _
  case grown =>
    intro q
    rw [hhist]
    exact List.Subset.refl _
  case timely =>
    refine .snoc h.timely ?_
    intro p hp
    cases hp
    exact hnew
  case mentioned =>
    intro x hmem q hq
    cases List.mem_singleton.mp hmem
    cases hq
    rw [hx]
    exact Nat.lt_succ_self _
  case nodup =>
    rw [ht, ← List.concat_eq_append]
    exact h.nodup.concat fun hin => Nat.lt_irrefl _ (h.old _ hin)
  case joined =>
    intro q hq
    rw [ht] at hq
    rw [hx]
    rcases List.mem_append.mp hq with hq | hq
    · exact ⟨Nat.lt_succ_of_lt (h.old q hq), .inl hq⟩
    · cases List.mem_singleton.mp hq
      exact ⟨Nat.lt_succ_self _, .inr (Nat.le_refl _)⟩
  case live =>
    intro q s' hq hs'
    rw [ht] at hq
    rw [hheap] at hs'
    rcases List.mem_append.mp hq with hq | hq
    · rw [Function.update_of_ne (Nat.ne_of_lt (h.old q hq))] at hs'
      exact .inl ⟨⟨s', hs', rfl, rfl⟩, hq⟩
    · cases List.mem_singleton.mp hq
      rw [Function.update_self] at hs'
      cases hs'
      rw [hf, hb]
      exact .inr ⟨Nat.le_refl _, ip, List.mem_singleton_self _⟩
  case spared =>
    intro q _ hc
    obtain ⟨f', b', ip', r, hmem⟩ := hc
    cases List.mem_singleton.mp hmem
  case noted =>
    intro q t hmem
    cases List.mem_singleton.mp hmem
  case ended =>
    intro r hr
    rw [hend] at hr
    exact .inl hr
  case opened =>
    intro q f' b' hopen
    obtain ⟨ip', hmem⟩ := hopen
    cases List.mem_singleton.mp hmem
    rw [ht]
    exact List.mem_append_right _ (List.mem_singleton_self _)
  case gone =>
    refine ⟨?_, ?_⟩
    · intro q hq hout
      rw [ht] at hout
      exact absurd (List.mem_append_left _ hq) hout
    · rw [hend]
      exact List.Subset.refl _

/-- Only DATA messages of sessions of the table, with their IDs. -/
theorem Ledger.data_timely (h : Ledger w) {p : SessPtr} {s : BackendSession}
    {ts : List Transmission} (hp : p ∈ w.engine.htable) (hs : w.engine.heap p = some s)
    (hown : ∀ t ∈ ts, t.frontendSessId = s.frontendSessId ∧ t.backendSessId = s.backendSessId) :
    Justified Timely (w.tx ++ ts.map fun t => ⟨some p, .data t⟩) := by
  obtain ⟨hopen, hclosed⟩ := h.live p s hp hs
  refine h.timely.append fun ys x hx hys q hq => ?_
  obtain ⟨t, ht, rfl⟩ := List.mem_map.mp hx
  cases hq
  obtain ⟨hf, hb⟩ := hown t ht
  constructor
  · rw [hf, hb]
    exact hopen.append ys
  · rw [closed_append]
    intro hc
    rcases hc with hc | ⟨f, b, ip, r, hin⟩
    · exact hclosed hc
    · obtain ⟨t', -, heq⟩ := List.mem_map.mp (hys hin)
      cases heq

theorem Ledger.deleted (h : Ledger w) {p : SessPtr} {s : BackendSession} {e : Engine}
    {sockets : List Int} (put : ProcessStatus) (hd : Deleted w.engine p s e) :
    Advance w (closing p s put)
      { engine := e
        tx := w.tx ++ closing p s put
        sockets
        ended := w.ended ++ [(p, w.tx.length)] } := by
  obtain ⟨hopen, hclosed⟩ := h.live p s hd.listed hd.live
  have hclose : ∀ x ∈ closing p s put,
      ∃ b ip r, x = ⟨some p, .response .close s.frontendSessId b ip r⟩ := by
    intro x hx
    unfold closing at hx
    split at hx
    · exact ⟨_, _, _, List.mem_singleton.mp hx⟩
    · cases hx
  have hin : ∀ q, q ∈ e.htable ↔ q ≠ p ∧ q ∈ w.engine.htable := by
    intro q
    rw [hd.htable]
    exact h.nodup.mem_erase_iff
  have hn := hd.nextSess
  constructor
  case tx => exact rfl
  case nextSess => exact Nat.le_of_eq hn.symm
  case grown =>
    intro q
    rw [hd.history]
    exact List.Subset.refl _
  case timely =>
    unfold closing
    split
    · refine .snoc h.timely ?_
      intro q hq
      cases hq
      exact ⟨⟨s.backendSessId, hopen⟩, hclosed⟩
    · rw [List.append_nil]
      exact h.timely
  case mentioned =>
    intro x hx q hq
    obtain ⟨b, ip, r, rfl⟩ := hclose x hx
    cases hq
    rw [hn]
    exact h.old p hd.listed
  case nodup =>
    rw [hd.htable]
    exact h.nodup.erase p
  case joined =>
    intro q hq
    rw [hn]
    have hq := ((hin q).mp hq).2
    exact ⟨h.old q hq, .inl hq⟩
  case live =>
    intro q s' hq hs'
    obtain ⟨hqp, hq⟩ := (hin q).mp hq
    obtain ⟨flags, hs⟩ := untied_live (hd.others q hqp).symm hs'
    exact .inl ⟨⟨_, hs, rfl, rfl⟩, hq⟩
  case spared =>
    intro q hq hc
    obtain ⟨f, b, ip, r, hmem⟩ := hc
    obtain ⟨b', ip', r', heq⟩ := hclose _ hmem
    cases heq
    exact ((hin p).mp hq).1 rfl
  case noted =>
    intro q t hmem
    obtain ⟨b, ip, r, heq⟩ := hclose _ hmem
    cases heq
  case ended =>
    intro r hr
    rcases List.mem_append.mp hr with hr | hr
    · exact .inl hr
    · cases List.mem_singleton.mp hr
      exact .inr ⟨hd.listed, fun hmem => ((hin p).mp hmem).1 rfl, rfl⟩
  case opened =>
    intro q f b hopen
    obtain ⟨ip, hmem⟩ := hopen
    obtain ⟨b', ip', r', heq⟩ := hclose _ hmem
    cases heq
  case gone =>
    refine ⟨?_, List.subset_append_left _ _⟩
    intro q hq hout
    have hqp : q = p := by
      by_contra hne
      exact hout ((hin q).mpr ⟨hne, hq⟩)
    subst hqp
    exact ⟨w.tx.length, by simp⟩

theorem Ledger.passive (h : Ledger w) {para : PassiveSessParaIP} {env : PassiveEnv}
    {st : ProcessStatus} {e : Engine} (hexit : PassiveExit para env w.engine st e) :
    ∃ xs, Advance w xs { w with engine := e, tx := w.tx ++ commanding w.engine st } := by
  refine ⟨commanding w.engine st, ?_⟩
  have hnone : ∀ x ∈ commanding w.engine .error, x.sess = none := by
    intro x hx
    cases hx
  cases hexit with
  | rejected _ => exact h.notice w.engine.idQueue hnone
  | noMemory _ _ => exact h.notice _ hnone
  | noId _ _ | failed _ _ _ _ =>
    exact h.attempt rfl rfl rfl rfl rfl (.inl rfl) (h.silent hnone) fun x hx => .inl (hnone x hx)
  | completed _ _ _ _ _ =>
    unfold commanding
    split
    · refine h.attempt rfl rfl rfl rfl rfl (.inl rfl) (.snoc h.timely ?_) ?_
      · intro p hp
        cases hp
        exact h.unmentioned (Nat.le_refl _)
      · intro x hx
        exact .inr ⟨_, List.mem_singleton.mp hx⟩
    · refine h.attempt rfl rfl rfl rfl rfl (.inl rfl) (h.silent ?_) ?_
      · intro x hx
        cases hx
      · intro x hx
        cases hx

/-- Every change of the world advances the ledger. -/
theorem Ledger.move (h : Ledger w) (hm : WorldMove w w') : Ledger w' := by
  cases hm with
  | @quiet e hsame hgrown =>
    have htimely : Justified Timely (w.tx ++ []) := by
      rw [List.append_nil]
      exact h.timely
    have hadv := h.traffic hsame hgrown htimely fun x hx => by cases hx
    rw [List.append_nil] at hadv
    exact h.advance hadv
  | sent hp hs hsame hgrown hnoted hown =>
    refine h.advance (h.traffic hsame hgrown (h.data_timely hp hs hown) ?_)
    intro x hx
    obtain ⟨t, ht, rfl⟩ := List.mem_map.mp hx
    exact ⟨_, hp, t, hnoted t ht, rfl⟩
  | active hexit =>
    cases hexit with
    | noMemory _ => exact h.advance (h.notice _ (noticed_silent _ _ _))
    | noId _ | failed _ _ _ _ _ _ =>
      exact h.advance (h.attempt rfl rfl rfl rfl rfl (.inl rfl) (h.silent (noticed_silent _ _ _))
        fun x hx => .inl (noticed_silent _ _ _ x hx))
    | refused _ _ _ =>
      exact h.advance (h.attempt rfl rfl rfl rfl rfl (.inr ⟨rfl, rfl⟩)
        (h.silent (noticed_silent _ _ _)) fun x hx => .inl (noticed_silent _ _ _ x hx))
    | created _ _ _ => exact h.advance (h.created rfl rfl rfl rfl rfl rfl rfl rfl)
  | passive hexit =>
    obtain ⟨xs, hadv⟩ := h.passive hexit
    exact h.advance hadv
  | deleted put hd => exact h.advance (h.deleted put hd)

end Ledger

/-! What the messages carry. -/

/-- The message is that of one read of the session. -/
def OfRead (frontend backend : UInt16) (h : SessHistory) (msg : List UInt8) : Prop :=
  ∃ payload ∈ h.received, msg = dataMessage frontend backend payload

def AllOfReads (h : SessHistory) : Prop :=
  ∀ t ∈ h.transmitted, OfRead t.frontendSessId t.backendSessId h t.message

section AllOfReads

variable {frontend backend : UInt16} {h : SessHistory}

theorem allOfReads_blank : AllOfReads .blank := by
  intro t ht
  cases ht

theorem OfRead.received {msg : List UInt8} (hr : OfRead frontend backend h msg)
    (more : List (List UInt8)) :
    OfRead frontend backend { h with received := h.received ++ more } msg := by
  obtain ⟨payload, hin, heq⟩ := hr
  exact ⟨payload, List.mem_append_left more hin, heq⟩

/-- What stays and what is put on TX were both waiting. -/
theorem transmitSegments_subset {blockSize : Nat} {full : Nat → Bool} {segs : List (List UInt8)}
    {i : Nat} : (transmitSegments blockSize full i segs).2.1 ⊆ segs ∧
      (transmitSegments blockSize full i segs).2.2 ⊆ segs := by
  induction segs generalizing i with
  | nil => exact ⟨List.Subset.refl _, List.Subset.refl _⟩
  | cons seg segs ih =>
    obtain ⟨hleft, hsent⟩ := ih (i := i + 1)
    simp only [transmitSegments]
    split
    · exact ⟨List.Subset.refl _, List.nil_subset _⟩
    · exact ⟨List.subset_cons_of_subset _ hleft, List.cons_subset_cons _ hsent⟩
    · exact ⟨List.subset_cons_of_subset _ hleft, List.subset_cons_of_subset _ hsent⟩

/-- Whatever the size of a block: a message that does not fit is dropped whole. -/
theorem allOfReads_step {P : Premises} {blockSize : Nat} {p : SessPtr} {x y : SessTraffic}
    {h' : SessHistory} (hs : SessStep P blockSize p x h y h')
    (hc : AllOfReads h ∧ ∀ msg ∈ x.msg .b2f, OfRead x.frontendSessId x.backendSessId h msg) :
    AllOfReads h' ∧ ∀ msg ∈ y.msg .b2f, OfRead y.frontendSessId y.backendSessId h' msg := by
  obtain ⟨hsent, hwait⟩ := hc
  cases hs with
  | accept payload => exact ⟨hsent, hwait⟩
  | send env bufSize _ => exact ⟨hsent, hwait⟩
  | read n outcomes _ =>
    have hold : ∀ msg ∈ x.msg .b2f, OfRead x.frontendSessId x.backendSessId
        { h with received := h.received ++ (readSegments n outcomes).2 } msg :=
      fun msg hin => (hwait msg hin).received _
    have hnew : ∀ msg ∈ x.msg .b2f ++ (readSegments n outcomes).2.map
          (dataMessage x.frontendSessId x.backendSessId),
        OfRead x.frontendSessId x.backendSessId
          { h with received := h.received ++ (readSegments n outcomes).2 } msg := by
      intro msg hin
      rcases List.mem_append.mp hin with hin | hin
      · exact hold msg hin
      · obtain ⟨payload, hpay, rfl⟩ := List.mem_map.mp hin
        exact ⟨payload, List.mem_append_right _ hpay, rfl⟩
    refine ⟨fun t ht => (hsent t ht).received _, ?_⟩
    unfold SessTraffic.afterRead
    split
    · rw [SessTraffic.link_msg, SessTraffic.setMsg_msg]
      exact hnew
    · rw [SessTraffic.setMsg_msg]
      exact hnew
  | transmit full =>
    constructor
    · intro t ht
      rcases List.mem_append.mp ht with ht | ht
      · exact hsent t ht
      · obtain ⟨msg, hin, rfl⟩ := List.mem_map.mp ht
        exact hwait msg (transmitSegments_subset.2 hin)
    · rw [SessTraffic.setMsg_msg]
      intro msg hin
      exact hwait msg (transmitSegments_subset.1 hin)
  | drop d _ => exact ⟨hsent, hwait⟩

end AllOfReads

def readRule (blockSize : Nat) : SessRule anyAnswers blockSize :=
  { Live := fun _ x h =>
      AllOfReads h ∧ ∀ msg ∈ x.msg .b2f, OfRead x.frontendSessId x.backendSessId h msg
    Past := fun _ h => AllOfReads h
    blank := fun _ => allOfReads_blank
    start := fun _ _ _ _ _ => ⟨allOfReads_blank, fun _ hin => by cases hin⟩
    step := fun _ _ _ _ _ hs hc => allOfReads_step hs hc
    past := fun _ _ _ hc => hc.1 }

/-- TX tells the life of the session in order. -/
structure ToldInOrder (w : World) (p : SessPtr) : Prop where
  /-- A creation is reported once, before anything else about the session. -/
  opened : ∀ before f b ip r after,
    w.tx = before ++ ⟨some p, .response .create f b ip r⟩ :: after → Unmentioned before p
  data : ∀ before t after, w.tx = before ++ ⟨some p, .data t⟩ :: after →
    Opened before p t.frontendSessId t.backendSessId ∧ ¬ Closed before p
  /-- A session that was reported and has left the table was deleted at some point, and sends no
  data from there on. -/
  gone : ∀ f b, Opened w.tx p f b → p ∉ w.engine.htable → ∃ n, (p, n) ∈ w.ended
  ended : ∀ n, (p, n) ∈ w.ended → ∀ t, ⟨some p, .data t⟩ ∉ w.tx.drop n
  /-- Its messages carry its own IDs and what was read from its own socket. -/
  own : ∀ t, ⟨some p, .data t⟩ ∈ w.tx → ∃ payload ∈ (w.engine.history p).received,
    t.message = dataMessage t.frontendSessId t.backendSessId payload

/-- Whatever the system answers, TX tells the life of every session in order. -/
theorem sessions_told_in_order (devNum : Nat) (config : Nat → HighSpeedNetDevice)
    (blockSize : Nat) (ops : List WorldOp) (w : World) (p : SessPtr)
    (reached : run worldStep (World.init devNum config blockSize) ops = .ok w) :
    ToldInOrder w p := by
  have hledger : Ledger w :=
    world_upkeep (ledger_init devNum config blockSize) (fun w w' h hm => h.move hm) reached
  obtain ⟨l, -, hobeyed⟩ :=
    main_obeys (readRule blockSize) (anyAnswers_met _ _) (worldRun_erased reached)
  refine ⟨?_, ?_, hledger.gone p, ?_, ?_⟩
  · intro before f b ip r after htx
    have htimely := hledger.timely
    rw [htx] at htimely
    exact htimely.entry p rfl
  · intro before t after htx
    have htimely := hledger.timely
    rw [htx] at htimely
    exact htimely.entry p rfl
  · intro n hn
    exact (hledger.ended (p, n) hn).2.2.2
  · intro t ht
    exact hobeyed.past p t (hledger.noted p t ht)

/-- A session is created, sends what was read, and is closed. -/
theorem sessions_told_in_order_closed :
    ∃ w, run worldStep firstWorld
        [⟨.msg (createOn 0) goodMsgEnv, goodNotice⟩,
          ⟨.poll [⟨5, 0, false, true, some 2, [.got [1, 2]]⟩], goodNotice⟩,
          ⟨.step4 (fun _ _ => false) (fun _ => goodMsgEnv.delete), goodNotice⟩,
          ⟨.pool (.delete 1 goodMsgEnv.delete), goodNotice⟩] = .ok w ∧
      (w.tx.map Posting.sess = [some 0, some 0, some 0] ∧ w.ended = [(0, 2)]) ∧
      ToldInOrder w 0 := by
  obtain ⟨w, hw, hview⟩ := reached_of_view
    (f := fun w => (w.tx.map Posting.sess, w.ended)) (b := ([some 0, some 0, some 0], [(0, 2)]))
    (show (run worldStep firstWorld
        [⟨.msg (createOn 0) goodMsgEnv, goodNotice⟩,
          ⟨.poll [⟨5, 0, false, true, some 2, [.got [1, 2]]⟩], goodNotice⟩,
          ⟨.step4 (fun _ _ => false) (fun _ => goodMsgEnv.delete), goodNotice⟩,
          ⟨.pool (.delete 1 goodMsgEnv.delete), goodNotice⟩]).toOption.map _ = _ by
      decide +kernel)
  exact ⟨w, hw, Prod.mk.inj hview, sessions_told_in_order 1 _ 4096 _ w 0 hw⟩

end BackendProxy.Pool
