import BackendProxy.Lib.Window

namespace BackendProxy.Xdp

open Lib

/-! The rings of an AF_XDP socket, as `xsk.h` works on them. -/

/-- `struct xsk_ring_prod` and `struct xsk_ring_cons`: what the program keeps of a ring for
itself. -/
structure XskRing where
  cachedProd : UInt32
  cachedCons : UInt32
  mask : UInt32
  size : UInt32
  deriving DecidableEq, Repr

/-- What program and kernel share of a ring. -/
structure RingMem (α : Type) where
  producer : UInt32
  consumer : UInt32
  ring : Nat → α

def xskProdNbFree (r : XskRing) (consumer nb : UInt32) : UInt32 × XskRing :=
  if r.cachedCons - r.cachedProd ≥ nb then (r.cachedCons - r.cachedProd, r)
  else
    let r := { r with cachedCons := consumer + r.size }
    (r.cachedCons - r.cachedProd, r)

def xskConsNbAvail (r : XskRing) (producer nb : UInt32) : UInt32 × XskRing :=
  let r := if r.cachedProd - r.cachedCons = 0 then { r with cachedProd := producer } else r
  let entries := r.cachedProd - r.cachedCons
  (if entries > nb then nb else entries, r)

/-- The number of entries reserved, the first of them, and the ring. -/
def xskRingProdReserve (prod : XskRing) (consumer nb idx : UInt32) : UInt32 × UInt32 × XskRing :=
  let (free, prod) := xskProdNbFree prod consumer nb
  if free < nb then (0, idx, prod)
  else (nb, prod.cachedProd, { prod with cachedProd := prod.cachedProd + nb })

def xskRingConsPeek (cons : XskRing) (producer nb idx : UInt32) : UInt32 × UInt32 × XskRing :=
  let (entries, cons) := xskConsNbAvail cons producer nb
  if entries > 0 then
    (entries, cons.cachedCons, { cons with cachedCons := cons.cachedCons + entries })
  else (entries, idx, cons)

def xskRingProdSubmit {α : Type} (mem : RingMem α) (nb : UInt32) : RingMem α :=
  { mem with producer := mem.producer + nb }

def xskRingConsRelease {α : Type} (mem : RingMem α) (nb : UInt32) : RingMem α :=
  { mem with consumer := mem.consumer + nb }

/-- The slot of an entry, for `xsk_ring_prod__fill_addr` and `xsk_ring_cons__rx_desc`. -/
def XskRing.slot (r : XskRing) (idx : UInt32) : Nat := (idx &&& r.mask).toNat

/-! Where the program is in a ring, counted from the first entry there ever was. -/

/-- Entries up to `prod` are reserved, and the kernel was last seen at `seen`. -/
structure XskRing.ProdAt (r : XskRing) (size seen prod : Nat) : Prop where
  cachedProd : r.cachedProd = UInt32.ofNat prod
  cachedCons : r.cachedCons = UInt32.ofNat (seen + size)
  mask : r.mask = UInt32.ofNat (size - 1)
  sized : r.size = UInt32.ofNat size
  behind : seen ≤ prod
  room : prod ≤ seen + size

/-- Entries up to `cons` are taken, and the kernel was last seen at `seen`. -/
structure XskRing.ConsAt (r : XskRing) (size seen cons : Nat) : Prop where
  cachedProd : r.cachedProd = UInt32.ofNat seen
  cachedCons : r.cachedCons = UInt32.ofNat cons
  mask : r.mask = UInt32.ofNat (size - 1)
  sized : r.size = UInt32.ofNat size
  behind : cons ≤ seen
  room : seen ≤ cons + size

section Rings

variable {r : XskRing} {size seen prod cons nb : Nat} {idx : UInt32}

theorem slot_of_mask (hpow : size.isPowerOfTwo) (hsize : size < 4294967296)
    (hmask : r.mask = UInt32.ofNat (size - 1)) (n : Nat) : r.slot (UInt32.ofNat n) = n % size := by
  rw [XskRing.slot, hmask, ofNat_and_toNat hpow (Nat.le_of_lt hsize)]

theorem XskRing.ProdAt.free (h : r.ProdAt size seen prod) (hsize : size < 4294967296) :
    (r.cachedCons - r.cachedProd).toNat = seen + size - prod := by
  have hbehind := h.behind
  rw [h.cachedCons, h.cachedProd, ofNat_sub_toNat h.room (by omega)]

theorem XskRing.ProdAt.refresh (h : r.ProdAt size seen prod) (hle : seen ≤ cons)
    (hcons : cons ≤ prod) :
    { r with cachedCons := UInt32.ofNat cons + r.size }.ProdAt size cons prod where
  cachedProd := h.cachedProd
  cachedCons := by rw [h.sized, UInt32.ofNat_add]
  mask := h.mask
  sized := h.sized
  behind := hcons
  room := by
    have := h.room
    omega

theorem XskRing.ProdAt.reserved (h : r.ProdAt size seen prod) (hroom : prod + nb ≤ seen + size) :
    { r with cachedProd := r.cachedProd + UInt32.ofNat nb }.ProdAt size seen (prod + nb) where
  cachedProd := by rw [h.cachedProd, UInt32.ofNat_add]
  cachedCons := h.cachedCons
  mask := h.mask
  sized := h.sized
  behind := by
    have := h.behind
    omega
  room := hroom

theorem toNat_ofNat_lt {n : Nat} (h : n < 4294967296) : (UInt32.ofNat n).toNat = n := by
  rw [UInt32.toNat_ofNat', Nat.mod_eq_of_lt h]

/-- A reservation succeeds, or the kernel has not given back enough entries, as far as it tells. -/
theorem XskRing.ProdAt.reserve (h : r.ProdAt size seen prod) (hsize : size < 4294967296)
    (hle : seen ≤ cons) (hcons : cons ≤ prod) (hnb : nb ≤ size) :
    (∃ r' seen', xskRingProdReserve r (.ofNat cons) (.ofNat nb) idx =
        (.ofNat nb, .ofNat prod, r') ∧ r'.ProdAt size seen' (prod + nb) ∧ seen ≤ seen' ∧
        seen' ≤ cons) ∨
      ∃ r', xskRingProdReserve r (.ofNat cons) (.ofNat nb) idx = (0, idx, r') ∧
        r'.ProdAt size cons prod ∧ cons + size < prod + nb := by
  have hnat : (UInt32.ofNat nb).toNat = nb := toNat_ofNat_lt (by omega)
  have hroom := h.room
  by_cases hfree : r.cachedCons - r.cachedProd ≥ UInt32.ofNat nb
  · have hge : nb ≤ seen + size - prod := by
      have hnum := UInt32.le_iff_toNat_le.mp hfree
      rw [hnat, h.free hsize] at hnum
      exact hnum
    refine .inl ⟨_, seen, ?_, h.reserved (by omega), Nat.le_refl _, hle⟩
    simp only [xskRingProdReserve, xskProdNbFree, if_pos hfree, if_neg (UInt32.not_lt.mpr hfree)]
    rw [← h.cachedProd]
  · have hfresh := h.refresh hle hcons
    have hfree' : (UInt32.ofNat cons + r.size - r.cachedProd).toNat = cons + size - prod :=
      hfresh.free hsize
    by_cases hless : UInt32.ofNat cons + r.size - r.cachedProd < UInt32.ofNat nb
    · refine .inr ⟨_, ?_, hfresh, ?_⟩
      · simp only [xskRingProdReserve, xskProdNbFree, if_neg hfree, if_pos hless]
      · have hnum := UInt32.lt_iff_toNat_lt.mp hless
        rw [hnat] at hnum
        omega
    · have hge : nb ≤ cons + size - prod := by
        have hnum := UInt32.le_iff_toNat_le.mp (UInt32.not_lt.mp hless)
        rw [hnat] at hnum
        omega
      refine .inl ⟨_, cons, ?_, hfresh.reserved (by omega), hle, Nat.le_refl _⟩
      simp only [xskRingProdReserve, xskProdNbFree, if_neg hfree, if_neg hless]
      rw [← h.cachedProd]

theorem XskRing.ConsAt.avail (h : r.ConsAt size seen cons) (hsize : size < 4294967296) :
    (r.cachedProd - r.cachedCons).toNat = seen - cons := by
  have hroom := h.room
  rw [h.cachedProd, h.cachedCons, ofNat_sub_toNat h.behind (by omega)]

theorem XskRing.ConsAt.refresh (h : r.ConsAt size seen cons) (hle : seen ≤ prod)
    (hroom : prod ≤ cons + size) : { r with cachedProd := .ofNat prod }.ConsAt size prod cons where
  cachedProd := rfl
  cachedCons := h.cachedCons
  mask := h.mask
  sized := h.sized
  behind := Nat.le_trans h.behind hle
  room := hroom

theorem XskRing.ConsAt.taken (h : r.ConsAt size seen cons) (hle : cons + nb ≤ seen) :
    { r with cachedCons := r.cachedCons + UInt32.ofNat nb }.ConsAt size seen (cons + nb) where
  cachedProd := h.cachedProd
  cachedCons := by rw [h.cachedCons, UInt32.ofNat_add]
  mask := h.mask
  sized := h.sized
  behind := hle
  room := by
    have := h.room
    omega

/-- What is available of at most `nb` entries. -/
theorem XskRing.ConsAt.nbAvail (h : r.ConsAt size seen cons) (hsize : size < 4294967296)
    (hle : seen ≤ prod) (hroom : prod ≤ cons + size) (hnb : nb < 4294967296) :
    ∃ r' seen', xskConsNbAvail r (.ofNat prod) (.ofNat nb) =
        (.ofNat (min nb (seen' - cons)), r') ∧ r'.ConsAt size seen' cons ∧ seen ≤ seen' ∧
        seen' ≤ prod ∧ (seen' = cons → prod = cons) := by
  have hleast : ∀ {r' : XskRing} {seen' : Nat}, r'.ConsAt size seen' cons →
      (if r'.cachedProd - r'.cachedCons > UInt32.ofNat nb then UInt32.ofNat nb
        else r'.cachedProd - r'.cachedCons) = UInt32.ofNat (min nb (seen' - cons)) := by
    intro r' seen' h'
    have havail := h'.avail hsize
    rw [← UInt32.toNat_inj]
    by_cases hmore : r'.cachedProd - r'.cachedCons > UInt32.ofNat nb
    · have hnum := UInt32.lt_iff_toNat_lt.mp hmore
      rw [toNat_ofNat_lt hnb, havail] at hnum
      rw [if_pos hmore, Nat.min_eq_left (Nat.le_of_lt hnum)]
    · have hnum := UInt32.le_iff_toNat_le.mp (UInt32.not_lt.mp hmore)
      rw [toNat_ofNat_lt hnb, havail] at hnum
      rw [if_neg hmore, Nat.min_eq_right hnum, havail, toNat_ofNat_lt (by omega)]
  have hempty : r.cachedProd - r.cachedCons = 0 ↔ seen = cons := by
    have hbehind := h.behind
    rw [← UInt32.toNat_inj, h.avail hsize, UInt32.toNat_zero]
    omega
  by_cases hzero : r.cachedProd - r.cachedCons = 0
  · have hfresh := h.refresh hle hroom
    refine ⟨_, prod, ?_, hfresh, hle, Nat.le_refl _, fun heq => heq⟩
    simp only [xskConsNbAvail, if_pos hzero]
    rw [← hleast hfresh]
  · refine ⟨r, seen, ?_, h, Nat.le_refl _, hle, fun heq => absurd (hempty.mpr heq) hzero⟩
    simp only [xskConsNbAvail, if_neg hzero]
    rw [hleast h]

/-- A peek takes what there is, at most `nb` entries; it takes nothing only of an empty ring. -/
theorem XskRing.ConsAt.peek (h : r.ConsAt size seen cons) (hsize : size < 4294967296)
    (hle : seen ≤ prod) (hroom : prod ≤ cons + size) (hpos : 0 < nb) (hnb : nb < 4294967296) :
    (∃ r', xskRingConsPeek r (.ofNat prod) (.ofNat nb) idx = (0, idx, r') ∧
        r'.ConsAt size prod cons ∧ prod = cons) ∨
      ∃ k r' seen', 0 < k ∧ k ≤ nb ∧
        xskRingConsPeek r (.ofNat prod) (.ofNat nb) idx = (.ofNat k, .ofNat cons, r') ∧
        r'.ConsAt size seen' (cons + k) ∧ seen ≤ seen' ∧ seen' ≤ prod := by
  obtain ⟨r', seen', havail, hat, hge, hprod, hnone⟩ := h.nbAvail hsize hle hroom hnb
  have hbehind := hat.behind
  by_cases hcons : seen' = cons
  · have hprod' := hnone hcons
    subst hcons
    refine .inl ⟨r', ?_, hprod' ▸ hat, hprod'⟩
    simp [xskRingConsPeek, havail]
  · have hk : 0 < min nb (seen' - cons) := by omega
    refine .inr ⟨_, _, seen', hk, Nat.min_le_left _ _, ?_, hat.taken (by omega), hge, hprod⟩
    have hgt : UInt32.ofNat (min nb (seen' - cons)) > 0 := by
      apply UInt32.lt_iff_toNat_lt.mpr
      rw [toNat_ofNat_lt (by omega), UInt32.toNat_zero]
      exact hk
    simp only [xskRingConsPeek, havail, if_pos hgt, hat.cachedCons]

end Rings

end BackendProxy.Xdp
