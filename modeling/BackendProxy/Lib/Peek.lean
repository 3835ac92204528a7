import BackendProxy.Lib.Words

namespace BackendProxy.Lib

/-! Computations that read a memory, with the cells they read. -/

/-- A value computed from a memory and the cells read for it, in order. No other cell has a say in
either. -/
structure Peek (β α : Type) where
  value : (Nat → β) → α
  cells : (Nat → β) → List Nat
  determined : ∀ m m', (∀ i ∈ cells m, m i = m' i) → value m' = value m ∧ cells m' = cells m

namespace Peek

variable {β α γ : Type}

protected def pure (a : α) : Peek β α :=
  { value := fun _ => a, cells := fun _ => [], determined := fun _ _ _ => ⟨rfl, rfl⟩ }

protected def bind (x : Peek β α) (f : α → Peek β γ) : Peek β γ where
  value m := (f (x.value m)).value m
  cells m := x.cells m ++ (f (x.value m)).cells m
  determined := by
    intro m m' h
    obtain ⟨hvalue, hcells⟩ := x.determined m m' fun i hi => h i (List.mem_append_left _ hi)
    rw [hvalue, hcells]
    obtain ⟨hrest, hmore⟩ := (f (x.value m)).determined m m' fun i hi =>
      h i (List.mem_append_right _ hi)
    exact ⟨hrest, congrArg _ hmore⟩

instance : Monad (Peek β) where
  pure := Peek.pure
  bind := Peek.bind

def cell (off : Nat) : Peek β β where
  value m := m off
  cells _ := [off]
  determined := fun _ _ h => ⟨(h off (List.mem_singleton.mpr rfl)).symm, rfl⟩

/-- The `n` cells from `off` on. -/
def block (off n : Nat) : Peek β (List β) where
  value m := load m off n
  cells _ := List.range' off n
  determined := by
    intro m m' h
    refine ⟨load_congr fun i hi => (h (off + i) ?_).symm, rfl⟩
    rw [List.mem_range'_1]
    omega

def u16 (off : Nat) : Peek UInt8 UInt16 where
  value m := u16At m off
  cells _ := [off, off + 1]
  determined := by
    intro m m' h
    simp [u16At, h off, h (off + 1)]

def u32 (off : Nat) : Peek UInt8 UInt32 where
  value m := u32At m off
  cells _ := [off, off + 1, off + 2, off + 3]
  determined := by
    intro m m' h
    simp [u32At, h off, h (off + 1), h (off + 2), h (off + 3)]

section Values

variable (m : Nat → β)

@[simp] theorem value_pure (a : α) : (pure a : Peek β α).value m = a := rfl

@[simp] theorem value_bind (x : Peek β α) (f : α → Peek β γ) :
    (x >>= f).value m = (f (x.value m)).value m := rfl

@[simp] theorem value_cell (off : Nat) : (cell off).value m = m off := rfl

@[simp] theorem value_block (off n : Nat) : (block off n).value m = load m off n := rfl

@[simp] theorem value_u16 (m : Nat → UInt8) (off : Nat) : (u16 off).value m = u16At m off := rfl

@[simp] theorem value_u32 (m : Nat → UInt8) (off : Nat) : (u32 off).value m = u32At m off := rfl

@[simp] theorem value_ite (c : Prop) [Decidable c] (x y : Peek β α) :
    (if c then x else y).value m = if c then x.value m else y.value m := by
  split <;> rfl

end Values

/-- Only cells below `n` are read. -/
def Below (x : Peek β α) (m : Nat → β) (n : Nat) : Prop := ∀ i ∈ x.cells m, i < n

instance (x : Peek β α) (m : Nat → β) (n : Nat) : Decidable (x.Below m n) :=
  inferInstanceAs (Decidable (∀ i ∈ x.cells m, i < n))

section Below

variable {m : Nat → β} {n : Nat}

/-- The cells from `n` on have no say. -/
theorem Below.value_eq {x : Peek β α} (h : x.Below m n) {m' : Nat → β}
    (hm : ∀ i < n, m i = m' i) : x.value m' = x.value m :=
  (x.determined m m' fun i hi => hm i (h i hi)).1

@[simp] theorem below_pure (a : α) : (pure a : Peek β α).Below m n := by
  intro i hi
  cases hi

@[simp] theorem below_bind (x : Peek β α) (f : α → Peek β γ) :
    (x >>= f).Below m n ↔ x.Below m n ∧ (f (x.value m)).Below m n :=
  List.forall_mem_append

@[simp] theorem below_cell (off : Nat) : (cell off : Peek β β).Below m n ↔ off < n := by
  simp [Below, cell]

@[simp] theorem below_block (off len : Nat) :
    (block off len : Peek β (List β)).Below m n ↔ len = 0 ∨ off + len ≤ n := by
  simp only [Below, block, List.mem_range'_1]
  constructor
  · intro h
    rcases Nat.eq_zero_or_pos len with hz | hpos
    · exact Or.inl hz
    · have hlast := h (off + len - 1) (by omega)
      right
      omega
  · intro h i hi
    omega

@[simp] theorem below_u16 {m : Nat → UInt8} (off : Nat) :
    (u16 off).Below m n ↔ off + 2 ≤ n := by
  simp only [Below, u16, List.mem_cons, List.not_mem_nil, or_false, forall_eq_or_imp, forall_eq]
  omega

@[simp] theorem below_u32 {m : Nat → UInt8} (off : Nat) :
    (u32 off).Below m n ↔ off + 4 ≤ n := by
  simp only [Below, u32, List.mem_cons, List.not_mem_nil, or_false, forall_eq_or_imp, forall_eq]
  omega

theorem below_ite (c : Prop) [Decidable c] (x y : Peek β α) :
    (if c then x else y).Below m n ↔ if c then x.Below m n else y.Below m n := by
  split <;> rfl

end Below

end Peek

end BackendProxy.Lib
