import Mathlib.Tactic.Common

namespace BackendProxy.Lib

/-! Programs over an explicit state that may halt, and the inversion of their successful runs. -/

abbrev Prog (σ ε α : Type) := StateT σ (Except ε) α

namespace Prog

variable {σ ε α β : Type} {s s' : σ}

/-- End the run. -/
def halt (e : ε) : Prog σ ε α := fun _ => .error e

/-- The value, or a halt where there is none. -/
def ofOption (e : ε) : Option α → Prog σ ε α
  | some a => pure a
  | none => halt e

theorem bind_ok {x : Prog σ ε α} {f : α → Prog σ ε β} {b : β} :
    (x >>= f) s = .ok (b, s') ↔ ∃ a t, x s = .ok (a, t) ∧ f a t = .ok (b, s') := by
  simp only [bind, StateT.bind]
  cases hx : x s with
  | error e => simp [Except.bind]
  | ok r =>
    obtain ⟨a, t⟩ := r
    simp only [Except.bind, Except.ok.injEq, Prod.mk.injEq]
    constructor
    · intro h
      exact ⟨a, t, ⟨rfl, rfl⟩, h⟩
    · intro hx
      obtain ⟨_, _, ⟨rfl, rfl⟩, h⟩ := hx
      exact h

/-- A part that returns leaves the rest to run. -/
theorem bind_of_ok {x : Prog σ ε α} {f : α → Prog σ ε β} {a : α} {t : σ} (h : x s = .ok (a, t)) :
    (x >>= f) s = f a t := by
  simp only [bind, StateT.bind, h, Except.bind]

/-- A part that halts halts the whole. -/
theorem bind_of_error {x : Prog σ ε α} {f : α → Prog σ ε β} {e : ε} (h : x s = .error e) :
    (x >>= f) s = .error e := by
  simp only [bind, StateT.bind, h, Except.bind]

theorem pure_ok {a b : α} : (pure a : Prog σ ε α) s = .ok (b, s') ↔ a = b ∧ s = s' := by
  change (Except.ok (a, s) : Except ε (α × σ)) = .ok (b, s') ↔ _
  simp only [Except.ok.injEq, Prod.mk.injEq]

theorem get_ok {t : σ} : (get : Prog σ ε σ) s = .ok (t, s') ↔ s = t ∧ s = s' := by
  change (Except.ok (s, s) : Except ε (σ × σ)) = .ok (t, s') ↔ _
  simp only [Except.ok.injEq, Prod.mk.injEq]

theorem modify_ok {f : σ → σ} {u : PUnit} :
    (modify f : Prog σ ε PUnit) s = .ok (u, s') ↔ f s = s' := by
  change (Except.ok (PUnit.unit, f s) : Except ε (PUnit × σ)) = .ok (u, s') ↔ _
  simp only [Except.ok.injEq, Prod.mk.injEq, true_and]

theorem ofOption_ok {e : ε} {o : Option α} {a : α} :
    (ofOption e o : Prog σ ε α) s = .ok (a, s') ↔ o = some a ∧ s = s' := by
  cases o with
  | none => simp [ofOption, halt]
  | some b =>
    rw [ofOption, pure_ok]
    simp

/-! Programs that never end in a given halt. -/

def Spares (h : ε) (x : Prog σ ε α) : Prop := ∀ s, x s ≠ .error h

theorem spares_pure {h : ε} (a : α) : Spares h (pure a : Prog σ ε α) := by
  intro s hs
  cases hs

theorem spares_get {h : ε} : Spares h (get : Prog σ ε σ) := by
  intro s hs
  cases hs

theorem spares_modify {h : ε} (f : σ → σ) : Spares h (modify f : Prog σ ε PUnit) := by
  intro s hs
  cases hs

theorem spares_halt {h e : ε} (hne : e ≠ h) : Spares h (halt e : Prog σ ε α) := by
  intro s hs
  exact hne (Except.error.inj hs)

theorem spares_ofOption {h e : ε} (hne : e ≠ h) (o : Option α) :
    Spares h (ofOption e o : Prog σ ε α) := by
  cases o with
  | none => exact spares_halt hne
  | some a => exact spares_pure a

/-- A program ends in a halt only if one of its parts does, from where the part starts. -/
theorem bind_error {h : ε} {x : Prog σ ε α} {f : α → Prog σ ε β}
    (hs : (x >>= f) s = .error h) :
    x s = .error h ∨ ∃ a t, x s = .ok (a, t) ∧ f a t = .error h := by
  simp only [bind, StateT.bind] at hs
  cases hx : x s with
  | error e =>
    rw [hx] at hs
    cases hs
    exact Or.inl rfl
  | ok r =>
    rw [hx] at hs
    exact Or.inr ⟨r.1, r.2, rfl, hs⟩

theorem Spares.bind {h : ε} {x : Prog σ ε α} {f : α → Prog σ ε β} (hx : Spares h x)
    (hf : ∀ a, Spares h (f a)) : Spares h (x >>= f) := by
  intro s hs
  rcases bind_error hs with he | ⟨a, t, -, he⟩
  · exact hx s he
  · exact hf a t he

theorem Spares.ite {h : ε} {c : Prop} [Decidable c] {x y : Prog σ ε α} (hx : Spares h x)
    (hy : Spares h y) : Spares h (if c then x else y) := by
  split
  · exact hx
  · exact hy

/-! Programs that do return. -/

def Returns (x : Prog σ ε α) (s : σ) : Prop := ∃ a t, x s = .ok (a, t)

theorem Returns.bind {x : Prog σ ε α} {f : α → Prog σ ε β} (hx : Returns x s)
    (hf : ∀ a t, x s = .ok (a, t) → Returns (f a) t) : Returns (x >>= f) s := by
  obtain ⟨a, t, ht⟩ := hx
  obtain ⟨b, u, hu⟩ := hf a t ht
  exact ⟨b, u, bind_ok.mpr ⟨a, t, ht, hu⟩⟩

theorem returns_pure (a : α) (s : σ) : Returns (pure a : Prog σ ε α) s := ⟨a, s, rfl⟩

theorem returns_get (s : σ) : Returns (get : Prog σ ε σ) s := ⟨s, s, rfl⟩

theorem returns_modify (f : σ → σ) (s : σ) : Returns (modify f : Prog σ ε PUnit) s :=
  ⟨_, f s, rfl⟩

theorem returns_ofOption {e : ε} {o : Option α} {a : α} (h : o = some a) (s : σ) :
    Returns (ofOption e o : Prog σ ε α) s := ⟨a, s, ofOption_ok.mpr ⟨h, rfl⟩⟩

theorem Returns.ite {c : Prop} [Decidable c] {x y : Prog σ ε α} (hx : c → Returns x s)
    (hy : ¬ c → Returns y s) : Returns (if c then x else y) s := by
  split
  · rename_i hc
    exact hx hc
  · rename_i hc
    exact hy hc

/-! When programs return, if a part of them may halt. -/

theorem not_returns_halt (e : ε) (s : σ) : ¬ Returns (halt e : Prog σ ε α) s := by
  intro h
  obtain ⟨a, t, ht⟩ := h
  cases ht

theorem Returns.first {x : Prog σ ε α} {f : α → Prog σ ε β} (h : Returns (x >>= f) s) :
    Returns x s := by
  obtain ⟨b, u, h⟩ := h
  obtain ⟨a, t, ht, -⟩ := bind_ok.mp h
  exact ⟨a, t, ht⟩

section ReturnsIff

variable {x y : Prog σ ε α} {P : Prop}

/-- After a part that returns, the rest decides. -/
theorem Returns.bind_iff {f : α → Prog σ ε β} (hx : Returns x s)
    (hf : ∀ a t, x s = .ok (a, t) → (Returns (f a) t ↔ P)) : Returns (x >>= f) s ↔ P := by
  obtain ⟨a, t, ht⟩ := hx
  rw [← hf a t ht]
  unfold Returns
  rw [bind_of_ok ht]

/-- A rest that always returns leaves the decision to the part before it. -/
theorem returns_bind_first {f : α → Prog σ ε β}
    (hf : ∀ a t, x s = .ok (a, t) → Returns (f a) t) : Returns (x >>= f) s ↔ Returns x s :=
  ⟨fun h => h.first, fun h => h.bind hf⟩

theorem returns_ite_iff {c : Prop} [Decidable c] (hx : c → (Returns x s ↔ P))
    (hy : ¬ c → (Returns y s ↔ P)) : Returns (if c then x else y) s ↔ P := by
  split
  · rename_i hc
    exact hx hc
  · rename_i hc
    exact hy hc

end ReturnsIff

/-! Programs that keep what holds of the state. -/

def Keeps (I : σ → Prop) (x : Prog σ ε α) : Prop := ∀ s a s', I s → x s = .ok (a, s') → I s'

section Keeps

variable {I : σ → Prop}

theorem Keeps.bind {x : Prog σ ε α} {f : α → Prog σ ε β} (hx : Keeps I x)
    (hf : ∀ a, Keeps I (f a)) : Keeps I (x >>= f) := by
  intro s b s' hs h
  obtain ⟨a, t, hxt, hft⟩ := bind_ok.mp h
  exact hf a t b s' (hx s a t hs hxt) hft

theorem keeps_pure (a : α) : Keeps I (pure a : Prog σ ε α) := by
  intro s b s' hs h
  obtain ⟨-, rfl⟩ := pure_ok.mp h
  exact hs

theorem keeps_get : Keeps I (get : Prog σ ε σ) := by
  intro s t s' hs h
  obtain ⟨-, rfl⟩ := get_ok.mp h
  exact hs

theorem keeps_modify {f : σ → σ} (hf : ∀ s, I s → I (f s)) :
    Keeps I (modify f : Prog σ ε PUnit) := by
  intro s u s' hs h
  exact modify_ok.mp h ▸ hf s hs

theorem keeps_halt (e : ε) : Keeps I (halt e : Prog σ ε α) := by
  intro s a s' _ h
  cases h

theorem keeps_ofOption (e : ε) (o : Option α) : Keeps I (ofOption e o : Prog σ ε α) := by
  cases o with
  | none => exact keeps_halt e
  | some a => exact keeps_pure a

theorem Keeps.ite {c : Prop} [Decidable c] {x y : Prog σ ε α} (hx : Keeps I x)
    (hy : Keeps I y) : Keeps I (if c then x else y) := by
  split
  · exact hx
  · exact hy

end Keeps

/-! Programs over a larger state, seen through a part of it. -/

/-- Run a program on a part of the state. -/
def onPart {τ : Type} (part : τ → σ) (put : τ → σ → τ) (x : Prog σ ε α) : Prog τ ε α := fun t =>
  match x (part t) with
  | .ok (a, s) => .ok (a, put t s)
  | .error e => .error e

theorem onPart_ok {τ : Type} {part : τ → σ} {put : τ → σ → τ} {x : Prog σ ε α} {a : α} {t t' : τ} :
    onPart part put x t = .ok (a, t') ↔ ∃ s, x (part t) = .ok (a, s) ∧ put t s = t' := by
  unfold onPart
  cases hx : x (part t) with
  | error e => simp
  | ok r =>
    obtain ⟨b, s⟩ := r
    simp only [Except.ok.injEq, Prod.mk.injEq]
    constructor
    · intro h
      exact ⟨s, ⟨h.1, rfl⟩, h.2⟩
    · intro h
      obtain ⟨_, ⟨hab, rfl⟩, ht⟩ := h
      exact ⟨hab, ht⟩

/-- Whatever `x` does, `y` does to the part. -/
def Erases {τ : Type} (part : τ → σ) (x : Prog τ ε α) (y : Prog σ ε α) : Prop :=
  ∀ t a t', x t = .ok (a, t') → y (part t) = .ok (a, part t')

section Erases

variable {τ : Type} {part : τ → σ} {put : τ → σ → τ}

theorem Erases.bind {x : Prog τ ε α} {y : Prog σ ε α} {f : α → Prog τ ε β} {g : α → Prog σ ε β}
    (hx : Erases part x y) (hf : ∀ a, Erases part (f a) (g a)) :
    Erases part (x >>= f) (y >>= g) := by
  intro t b t' h
  obtain ⟨a, u, hxu, hfu⟩ := bind_ok.mp h
  exact bind_ok.mpr ⟨a, part u, hx t a u hxu, hf a u b t' hfu⟩

/-- A step that leaves the part alone. -/
theorem Erases.silent {x : Prog τ ε α} {f : α → Prog τ ε β} {y : Prog σ ε β}
    (hx : ∀ t a t', x t = .ok (a, t') → part t' = part t) (hf : ∀ a, Erases part (f a) y) :
    Erases part (x >>= f) y := by
  intro t b t' h
  obtain ⟨a, u, hxu, hfu⟩ := bind_ok.mp h
  rw [← hx t a u hxu]
  exact hf a u b t' hfu

theorem erases_pure (a : α) : Erases part (pure a : Prog τ ε α) (pure a) := by
  intro t b t' h
  obtain ⟨rfl, rfl⟩ := pure_ok.mp h
  rfl

theorem erases_onPart (hput : ∀ t s, part (put t s) = s) (x : Prog σ ε α) :
    Erases part (onPart part put x) x := by
  intro t a t' h
  obtain ⟨s, hx, rfl⟩ := onPart_ok.mp h
  rw [hput]
  exact hx

theorem Erases.ite {c : Prop} [Decidable c] {x x' : Prog τ ε α} {y y' : Prog σ ε α}
    (h : Erases part x y) (h' : Erases part x' y') :
    Erases part (if c then x else x') (if c then y else y') := by
  split
  · exact h
  · exact h'

end Erases

end Prog

end BackendProxy.Lib
