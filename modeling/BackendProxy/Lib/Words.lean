import BackendProxy.Lib.Bytes
import Mathlib.Algebra.Ring.Nat

namespace BackendProxy.Lib

/-! Little-endian words of 16 and 32 bits in a byte memory. -/

def le16 (x : UInt16) : List UInt8 :=
  [UInt8.ofNat (x.toNat % 256), UInt8.ofNat (x.toNat / 256)]

def u16At (m : Nat → UInt8) (off : Nat) : UInt16 :=
  UInt16.ofNat ((m off).toNat + 256 * (m (off + 1)).toNat)

def u32At (m : Nat → UInt8) (off : Nat) : UInt32 :=
  UInt32.ofNat ((m off).toNat + 256 * (m (off + 1)).toNat + 65536 * (m (off + 2)).toNat +
    16777216 * (m (off + 3)).toNat)

@[simp] theorem length_le16 (x : UInt16) : (le16 x).length = 2 := rfl

/-- A word is read back from its two bytes. -/
theorem u16At_of_bytes {m : Nat → UInt8} {off : Nat} {x : UInt16}
    (h0 : m off = UInt8.ofNat (x.toNat % 256)) (h1 : m (off + 1) = UInt8.ofNat (x.toNat / 256)) :
    u16At m off = x := by
  have hx := UInt16.toNat_lt x
  rw [← UInt16.toNat_inj]
  simp only [u16At, h0, h1, UInt8.toNat_ofNat', UInt16.toNat_ofNat']
  omega

/-- A word of a message is read back from where it lies. -/
theorem u16At_behind (m : Nat → UInt8) (pre l rest : List UInt8) (k : Nat) {x : UInt16}
    (h : l.drop k = le16 x ++ rest) : u16At (store m 0 (pre ++ l)) (pre.length + k) = x := by
  have h0 : l[k]? = some (UInt8.ofNat (x.toNat % 256)) := by
    have := congrArg (fun t => t[0]?) h
    simpa [le16] using this
  have h1 : l[k + 1]? = some (UInt8.ofNat (x.toNat / 256)) := by
    have := congrArg (fun t => t[1]?) h
    simpa [le16] using this
  exact u16At_of_bytes (store_behind m pre l k h0) (store_behind m pre l (k + 1) h1)

/-- Words inside a range that was copied elsewhere. -/
theorem u16At_copied {m m' : Nat → UInt8} {a b n : Nat} (h : ∀ i < n, m (a + i) = m' (b + i))
    (k : Nat) (hk : k + 2 ≤ n) : u16At m (a + k) = u16At m' (b + k) := by
  have h0 := h k (by omega)
  have h1 := h (k + 1) (by omega)
  rw [← Nat.add_assoc, ← Nat.add_assoc] at h1
  simp only [u16At, h0, h1]

theorem u32At_copied {m m' : Nat → UInt8} {a b n : Nat} (h : ∀ i < n, m (a + i) = m' (b + i))
    (k : Nat) (hk : k + 4 ≤ n) : u32At m (a + k) = u32At m' (b + k) := by
  have h0 := h k (by omega)
  have h1 := h (k + 1) (by omega)
  have h2 := h (k + 2) (by omega)
  have h3 := h (k + 3) (by omega)
  rw [← Nat.add_assoc, ← Nat.add_assoc] at h1 h2 h3
  simp only [u32At, h0, h1, h2, h3]

/-! Words of any number of bytes. -/

/-- The `n` low bytes of a number, lowest first. -/
def leBytes : Nat → Nat → List UInt8
  | 0, _ => []
  | n + 1, x => UInt8.ofNat (x % 256) :: leBytes n (x / 256)

/-- The number that the `n` bytes from `off` on spell. -/
def natAt (m : Nat → UInt8) : Nat → Nat → Nat
  | _, 0 => 0
  | off, n + 1 => (m off).toNat + 256 * natAt m (off + 1) n

def u64At (m : Nat → UInt8) (off : Nat) : UInt64 := UInt64.ofNat (natAt m off 8)

@[simp] theorem length_leBytes (n x : Nat) : (leBytes n x).length = n := by
  induction n generalizing x with
  | zero => rfl
  | succ n ih => simp [leBytes, ih]

theorem load_succ {α : Type*} (m : Nat → α) (off n : Nat) :
    load m off (n + 1) = m off :: load m (off + 1) n := by
  rw [Nat.add_comm n 1, load_append]
  rfl

theorem natAt_lt (m : Nat → UInt8) (off n : Nat) : natAt m off n < 256 ^ n := by
  induction n generalizing off with
  | zero => simp [natAt]
  | succ n ih =>
    have hb := UInt8.toNat_lt (m off)
    have hr := ih (off + 1)
    simp only [natAt, Nat.pow_succ]
    omega

/-- Bytes spell a number that fits exactly if they are its bytes. -/
theorem natAt_eq_iff {m : Nat → UInt8} {off n x : Nat} (hx : x < 256 ^ n) :
    natAt m off n = x ↔ load m off n = leBytes n x := by
  induction n generalizing off x with
  | zero =>
    have h0 : x = 0 := by simpa using hx
    simp [natAt, leBytes, h0]
  | succ n ih =>
    have hb := UInt8.toNat_lt (m off)
    have hrest : x / 256 < 256 ^ n := by
      rw [Nat.pow_succ] at hx
      omega
    have hbyte : m off = UInt8.ofNat (x % 256) ↔ (m off).toNat = x % 256 := by
      rw [← UInt8.toNat_inj, UInt8.toNat_ofNat']
      omega
    rw [load_succ, leBytes, List.cons.injEq, ← ih hrest, hbyte, natAt]
    omega

theorem u16At_eq_iff {m : Nat → UInt8} {off : Nat} {x : UInt16} :
    u16At m off = x ↔ load m off 2 = leBytes 2 x.toNat := by
  have hx := UInt16.toNat_lt x
  have hm := natAt_lt m off 2
  rw [← natAt_eq_iff hx, ← UInt16.toNat_inj, u16At, UInt16.toNat_ofNat']
  simp only [natAt] at hm ⊢
  omega

theorem u32At_eq_iff {m : Nat → UInt8} {off : Nat} {x : UInt32} :
    u32At m off = x ↔ load m off 4 = leBytes 4 x.toNat := by
  have hx := UInt32.toNat_lt x
  have hm := natAt_lt m off 4
  rw [← natAt_eq_iff hx, ← UInt32.toNat_inj, u32At, UInt32.toNat_ofNat']
  simp only [natAt, Nat.add_assoc, Nat.reduceAdd] at hm ⊢
  omega

theorem u64At_eq_iff {m : Nat → UInt8} {off : Nat} {x : UInt64} :
    u64At m off = x ↔ load m off 8 = leBytes 8 x.toNat := by
  have hx := UInt64.toNat_lt x
  have hm := natAt_lt m off 8
  rw [← natAt_eq_iff hx, ← UInt64.toNat_inj, u64At, UInt64.toNat_ofNat']
  omega

end BackendProxy.Lib
