import BackendProxy.Device.Ini
import BackendProxy.Lib.History
import Mathlib.Data.List.Nodup
import Mathlib.Logic.Function.Basic

namespace BackendProxy.Config

open Lib Device

/-! The string dictionary behind the configuration files. -/

/-- One entry of the arrays `key`, `val` and `hash`. -/
structure Slot where
  key : Option CString
  val : Option CString
  hash : UInt32
  deriving DecidableEq, Repr

def Slot.blank : Slot := { key := none, val := none, hash := 0 }

/-- The storage size is the length of the arrays. -/
structure Dictionary where
  n : Nat
  slots : List Slot
  deriving DecidableEq, Repr

def dictMinSz : Nat := 128

/-- Which of the allocations of a call succeed: the larger arrays, and the copies of the key and of
the value. -/
structure SetMemory where
  grow : Bool
  key : Bool
  val : Bool
  deriving DecidableEq, Repr

def plentyMemory : SetMemory := { grow := true, key := true, val := true }

def xstrdup (memory : Bool) (s : CString) : Option CString := if memory then some s else none

/-- `char` is unsigned on the board. -/
def dictionaryHash (key : CString) : UInt32 :=
  let hash := key.foldl (fun hash c =>
    let hash := hash + UInt32.ofNat c.toNat
    let hash := hash + (hash <<< 10)
    hash ^^^ (hash >>> 6)) 0
  let hash := hash + (hash <<< 3)
  let hash := hash ^^^ (hash >>> 11)
  hash + (hash <<< 15)

/-- The larger arrays, zero behind the old entries. -/
def dictionaryGrow (d : Dictionary) (memory : Bool) : Option Dictionary :=
  if memory then some { d with slots := d.slots ++ List.replicate d.slots.length .blank }
  else none

def dictionaryNew (size : Nat) : Dictionary :=
  { n := 0, slots := List.replicate (if size < dictMinSz then dictMinSz else size) .blank }

/-- The arrays `dictionary_new` got memory for, which it does not look at. -/
structure Arrays where
  val : Bool
  key : Bool
  hash : Bool
  deriving DecidableEq, Repr

/-- `dictionary_set` writes a new entry to all three. -/
def Arrays.whole (arrays : Arrays) : Bool := arrays.val && arrays.key && arrays.hash

/-- `dictionary_del` goes through the keys and the values. -/
def Arrays.deletable (arrays : Arrays) : Bool := arrays.key && arrays.val

def plentyArrays : Arrays := { val := true, key := true, hash := true }

/-- The test of the search loops: the same hash, then the same string. -/
def Slot.holds (key : CString) (s : Slot) : Bool :=
  match s.key with
  | none => false
  | some k => dictionaryHash key == s.hash && key == k

/-- What the search of `dictionary_get` finds, which may be a null pointer. -/
def dictionaryFind (d : Dictionary) (key : CString) : Option (Option CString) :=
  (d.slots.find? (Slot.holds key)).map Slot.val

def dictionaryGet (d : Dictionary) (key : CString) (notfound : Option CString) : Option CString :=
  (dictionaryFind d key).getD notfound

/-- The walk to the first slot without a key; outside the arrays it has no meaning. -/
def probe (slots : List Slot) : Nat → Nat → Option Nat
  | 0, _ => none
  | fuel + 1, i =>
    match slots[i]? with
    | none => none
    | some s =>
      if s.key.isSome then probe slots fuel (if i + 1 = slots.length then 0 else i + 1)
      else some i

/-- `none` when the call does not return. -/
def dictionarySet (d : Dictionary) (key : CString) (val : Option CString) (mem : SetMemory) :
    Option (Int × Dictionary) :=
  let found := if d.n > 0 then d.slots.findIdx? (Slot.holds key) else none
  match found with
  | some i =>
    some (0,
      { d with slots := d.slots.modify i fun s => { s with val := val.bind (xstrdup mem.val) } })
  | none =>
    let grown := if d.n = d.slots.length then dictionaryGrow d mem.grow else some d
    match grown with
    | none => some (-1, d)
    | some d =>
      (probe d.slots d.slots.length d.n).map fun i =>
        -- the entry counts even if there was no memory for its key
        (0, { n := d.n + 1
              slots := d.slots.set i
                { key := xstrdup mem.key key, val := val.bind (xstrdup mem.val)
                  hash := dictionaryHash key } })

def dictionaryUnset (d : Dictionary) (key : CString) : Dictionary :=
  match d.slots.findIdx? (Slot.holds key) with
  | none => d
  | some i => { n := d.n - 1, slots := d.slots.set i .blank }

/-! Runs of the three operations. -/

inductive DictionaryOp where
  | set (key : CString) (val : Option CString) (mem : SetMemory)
  | unset (key : CString)
  | get (key : CString) (notfound : Option CString)
  deriving DecidableEq, Repr

inductive DictionaryAnswer where
  | status (ret : Int)
  | done
  | value (val : Option CString)
  | endless
  deriving DecidableEq, Repr

def dictionaryStep (d : Dictionary) : DictionaryOp → Dictionary × DictionaryAnswer
  | .set key val mem =>
    match dictionarySet d key val mem with
    | none => (d, .endless)
    | some (ret, d') => (d', .status ret)
  | .unset key => (dictionaryUnset d key, .done)
  | .get key notfound => (d, .value (dictionaryGet d key notfound))

/-- What a dictionary is for: each key it has, with its value or a null pointer. -/
abbrev Contents := CString → Option (Option CString)

/-- What an operation does to the contents, and what it answers. A key that cannot be copied is not
there afterwards, a value that cannot be copied is null, and neither shows in the status. -/
inductive Explains : Contents → DictionaryOp → DictionaryAnswer → Contents → Prop where
  | replace {m : Contents} {key : CString} {val : Option CString} {mem : SetMemory}
      (present : (m key).isSome) :
      Explains m (.set key val mem) (.status 0)
        (Function.update m key (some (val.bind (xstrdup mem.val))))
  | insert {m : Contents} {key : CString} {val : Option CString} {mem : SetMemory}
      (absent : m key = none) (copied : mem.key = true) :
      Explains m (.set key val mem) (.status 0)
        (Function.update m key (some (val.bind (xstrdup mem.val))))
  | lost {m : Contents} {key : CString} {val : Option CString} {mem : SetMemory}
      (absent : m key = none) (notCopied : mem.key = false) :
      Explains m (.set key val mem) (.status 0) m
  | refused {m : Contents} {key : CString} {val : Option CString} {mem : SetMemory}
      (absent : m key = none) (noMemory : mem.grow = false) :
      Explains m (.set key val mem) (.status (-1)) m
  | unset {m : Contents} {key : CString} :
      Explains m (.unset key) .done (Function.update m key none)
  | get {m : Contents} {key : CString} {notfound : Option CString} :
      Explains m (.get key notfound) (.value ((m key).getD notfound)) m

/-- At most `n` slots have a key, no key has two of them, and each has its hash beside it. -/
structure Wellformed (d : Dictionary) : Prop where
  nonempty : 0 < d.slots.length
  counted : d.slots.countP (fun s => s.key.isSome) ≤ d.n
  bounded : d.n ≤ d.slots.length
  hashed : ∀ s ∈ d.slots, ∀ key, s.key = some key → s.hash = dictionaryHash key
  distinct : ∀ (i j : Nat) (s t : Slot) (key : CString), d.slots[i]? = some s →
    d.slots[j]? = some t → s.key = some key → t.key = some key → i = j

section Slots

variable {d : Dictionary} {key : CString} {i : Nat} {s : Slot}

theorem holds_iff (hash : ∀ key, s.key = some key → s.hash = dictionaryHash key) :
    s.holds key = true ↔ s.key = some key := by
  unfold Slot.holds
  cases hk : s.key with
  | none => simp
  | some k =>
    simp only [Bool.and_eq_true, beq_iff_eq, Option.some.injEq]
    constructor
    · exact fun h => h.2.symm
    · rintro rfl
      exact ⟨(hash k hk).symm, rfl⟩

theorem Wellformed.holds_iff (h : Wellformed d) (hs : d.slots[i]? = some s) :
    s.holds key = true ↔ s.key = some key :=
  Config.holds_iff (h.hashed s (List.mem_of_getElem? hs))

/-- A key is found where it is, and nowhere else. -/
theorem find_eq_some_iff (h : Wellformed d) {val : Option CString} :
    dictionaryFind d key = some val ↔
      ∃ (i : Nat) (s : Slot), d.slots[i]? = some s ∧ s.key = some key ∧ s.val = val := by
  unfold dictionaryFind
  rw [Option.map_eq_some_iff]
  constructor
  · rintro ⟨s, hfind, hval⟩
    obtain ⟨i, hi⟩ := List.getElem?_of_mem (List.mem_of_find?_eq_some hfind)
    exact ⟨i, s, hi, (h.holds_iff hi).mp (List.find?_some hfind), hval⟩
  · rintro ⟨i, s, hi, hkey, hval⟩
    obtain ⟨t, ht⟩ : ∃ t, d.slots.find? (Slot.holds key) = some t := by
      apply Option.isSome_iff_exists.mp
      rw [List.find?_isSome]
      exact ⟨s, List.mem_of_getElem? hi, (h.holds_iff hi).mpr hkey⟩
    obtain ⟨j, hj⟩ := List.getElem?_of_mem (List.mem_of_find?_eq_some ht)
    have hsame := h.distinct i j s t key hi hj hkey
      ((h.holds_iff hj).mp (List.find?_some ht))
    subst hsame
    cases hi.symm.trans hj
    exact ⟨s, ht, hval⟩

theorem find_eq_none_iff (h : Wellformed d) :
    dictionaryFind d key = none ↔
      ∀ (i : Nat) (s : Slot), d.slots[i]? = some s → s.key ≠ some key := by
  unfold dictionaryFind
  rw [Option.map_eq_none_iff, List.find?_eq_none]
  constructor
  · intro hnone i s hi hkey
    exact hnone s (List.mem_of_getElem? hi) ((h.holds_iff hi).mpr hkey)
  · intro hnone s hs hheld
    obtain ⟨i, hi⟩ := List.getElem?_of_mem hs
    exact hnone i s hi ((h.holds_iff hi).mp hheld)

/-- The index the search loops stop at. -/
theorem findIdx_eq_some (h : Wellformed d)
    (hi : d.slots.findIdx? (Slot.holds key) = some i) :
    ∃ s, d.slots[i]? = some s ∧ s.key = some key := by
  obtain ⟨hlt, hheld, -⟩ := List.findIdx?_eq_some_iff_getElem.mp hi
  have hs := List.getElem?_eq_getElem hlt
  exact ⟨_, hs, (h.holds_iff hs).mp hheld⟩

theorem findIdx_eq_none (h : Wellformed d)
    (hi : d.slots.findIdx? (Slot.holds key) = none) : dictionaryFind d key = none := by
  rw [find_eq_none_iff h]
  intro i s hs hkey
  have hheld := List.findIdx?_eq_none_iff.mp hi s (List.mem_of_getElem? hs)
  rw [(h.holds_iff hs).mpr hkey] at hheld
  cases hheld

/-- From any slot the walk comes to a free one, if there is one. -/
theorem probe_finds {slots : List Slot} {j : Nat} {t : Slot} (hj : slots[j]? = some t)
    (hfree : t.key = none) {fuel i : Nat} (hi : i < slots.length)
    (hfuel : (if i ≤ j then j - i else j + slots.length - i) < fuel) :
    ∃ k s, probe slots fuel i = some k ∧ slots[k]? = some s ∧ s.key = none := by
  obtain ⟨hlt, -⟩ := List.getElem?_eq_some_iff.mp hj
  induction fuel generalizing i with
  | zero => omega
  | succ fuel ih =>
    have hs := List.getElem?_eq_getElem hi
    simp only [probe, hs]
    by_cases hkey : slots[i].key.isSome
    · rw [if_pos hkey]
      have hne : i ≠ j := by
        intro heq
        subst heq
        cases hs.symm.trans hj
        rw [hfree] at hkey
        cases hkey
      apply ih
      · split <;> omega
      · split at hfuel <;> split <;> split <;> omega
    · rw [if_neg hkey]
      exact ⟨i, _, rfl, hs, Option.not_isSome_iff_eq_none.mp hkey⟩

/-! One slot is written. -/

/-- A slot may be written when its key, if it gets one, is nowhere else. -/
theorem Wellformed.write (h : Wellformed d) {t : Slot} {n : Nat} (hs : d.slots[i]? = some s)
    (hash : ∀ key, t.key = some key → t.hash = dictionaryHash key)
    (hsole : ∀ key, t.key = some key → ∀ (j : Nat) (u : Slot), d.slots[j]? = some u →
      u.key = some key → j = i)
    (hcount : d.slots.countP (fun s => s.key.isSome) + (if t.key.isSome then 1 else 0) ≤
      n + if s.key.isSome then 1 else 0)
    (hn : n ≤ d.slots.length) : Wellformed { n, slots := d.slots.set i t } := by
  obtain ⟨hlt, hget⟩ := List.getElem?_eq_some_iff.mp hs
  constructor
  case nonempty =>
    rw [List.length_set]
    exact h.nonempty
  case counted =>
    have hmem : s.key.isSome → 0 < d.slots.countP (fun s => s.key.isSome) := fun hkey =>
      List.countP_pos_iff.mpr ⟨s, List.mem_of_getElem? hs, hkey⟩
    rw [List.countP_set hlt, hget]
    by_cases hkey : s.key.isSome = true
    · have hpos := hmem hkey
      rw [if_pos hkey] at hcount ⊢
      change _ ≤ n
      omega
    · rw [if_neg hkey] at hcount ⊢
      change _ ≤ n
      omega
  case bounded =>
    rw [List.length_set]
    exact hn
  case hashed =>
    intro u hu
    rcases List.mem_or_eq_of_mem_set hu with hu | rfl
    · exact h.hashed u hu
    · exact hash
  case distinct =>
    intro j k u v key hu hv hukey hvkey
    simp only [List.getElem?_set] at hu hv
    split at hu <;> split at hv
    · omega
    · cases hu
      have hk := hsole key hukey k v hv hvkey
      omega
    · cases hv
      have hj := hsole key hvkey j u hu hukey
      omega
    · exact h.distinct j k u v key hu hv hukey hvkey

/-- What is found once a slot was written. -/
theorem find_write (h : Wellformed d) {t : Slot} {n : Nat} (hs : d.slots[i]? = some s)
    (h' : Wellformed { n, slots := d.slots.set i t }) (key : CString) :
    dictionaryFind { n, slots := d.slots.set i t } key =
      if t.key = some key then some t.val
      else if s.key = some key then none else dictionaryFind d key := by
  obtain ⟨hlt, -⟩ := List.getElem?_eq_some_iff.mp hs
  have hwritten : (d.slots.set i t)[i]? = some t := List.getElem?_set_self hlt
  have hother : ∀ {j : Nat}, j ≠ i → (d.slots.set i t)[j]? = d.slots[j]? := fun hj =>
    List.getElem?_set_ne (Ne.symm hj)
  split
  · rename_i hkey
    exact (find_eq_some_iff h').mpr ⟨i, t, hwritten, hkey, rfl⟩
  · rename_i hkey
    split
    · rename_i hgone
      rw [find_eq_none_iff h']
      intro j u hu hukey
      by_cases hj : j = i
      · subst hj
        cases hwritten.symm.trans hu
        exact hkey hukey
      · exact hj (h.distinct j i u s key ((hother hj).symm.trans hu) hs hukey hgone)
    · rename_i hkept
      cases hfind : dictionaryFind d key with
      | some val =>
        obtain ⟨j, u, hu, hukey, hval⟩ := (find_eq_some_iff h).mp hfind
        refine (find_eq_some_iff h').mpr ⟨j, u, ?_, hukey, hval⟩
        rw [hother]
        · exact hu
        · rintro rfl
          cases hs.symm.trans hu
          exact hkept hukey
      | none =>
        rw [find_eq_none_iff h']
        intro j u hu hukey
        by_cases hj : j = i
        · subst hj
          cases hwritten.symm.trans hu
          exact hkey hukey
        · exact (find_eq_none_iff h).mp hfind j u ((hother hj).symm.trans hu) hukey

end Slots

/-! The operations. -/

theorem dictionaryNew_wellformed (size : Nat) : Wellformed (dictionaryNew size) := by
  have hblank : ∀ s ∈ (dictionaryNew size).slots, s = Slot.blank := fun s hs =>
    List.eq_of_mem_replicate hs
  constructor
  case nonempty =>
    unfold dictionaryNew dictMinSz
    rw [List.length_replicate]
    by_cases hsize : size < 128
    · rw [if_pos hsize]
      omega
    · rw [if_neg hsize]
      omega
  case counted =>
    have hzero : (dictionaryNew size).slots.countP (fun s => s.key.isSome) = 0 :=
      List.countP_eq_zero.mpr fun s hs => by simp [hblank s hs, Slot.blank]
    exact Nat.le_of_eq hzero
  case bounded => exact Nat.zero_le _
  case hashed =>
    intro s hs key hkey
    rw [hblank s hs] at hkey
    cases hkey
  case distinct =>
    intro i j s t key hs _ hkey
    rw [hblank s (List.mem_of_getElem? hs)] at hkey
    cases hkey

section Operations

variable {d : Dictionary} {key : CString}

/-- Larger arrays hold the same. -/
theorem grow_wellformed (h : Wellformed d) :
    Wellformed { d with slots := d.slots ++ List.replicate d.slots.length .blank } ∧
      ∀ key, dictionaryFind
        { d with slots := d.slots ++ List.replicate d.slots.length .blank } key =
          dictionaryFind d key := by
  have hblank : ∀ s ∈ List.replicate d.slots.length Slot.blank, s.key = none := fun s hs =>
    congrArg Slot.key (List.eq_of_mem_replicate hs)
  have hold : ∀ {i : Nat} {s : Slot} {key : CString},
      (d.slots ++ List.replicate d.slots.length Slot.blank)[i]? = some s → s.key = some key →
        d.slots[i]? = some s := by
    intro i s key hs hkey
    by_cases hi : i < d.slots.length
    · rwa [List.getElem?_append_left hi] at hs
    · rw [List.getElem?_append_right (Nat.not_lt.mp hi)] at hs
      rw [hblank s (List.mem_of_getElem? hs)] at hkey
      cases hkey
  constructor
  · constructor
    case nonempty =>
      rw [List.length_append]
      exact Nat.lt_of_lt_of_le h.nonempty (Nat.le_add_right _ _)
    case counted =>
      have hnone : (List.replicate d.slots.length Slot.blank).countP (fun s => s.key.isSome) = 0 :=
        List.countP_eq_zero.mpr fun s hs => by simp [hblank s hs]
      rw [List.countP_append, hnone]
      exact h.counted
    case bounded =>
      rw [List.length_append]
      exact Nat.le_trans h.bounded (Nat.le_add_right _ _)
    case hashed =>
      intro s hs k hkey
      rcases List.mem_append.mp hs with hs | hs
      · exact h.hashed s hs k hkey
      · rw [hblank s hs] at hkey
        cases hkey
    case distinct =>
      intro i j s t k hs ht hskey htkey
      exact h.distinct i j s t k (hold hs hskey) (hold ht htkey) hskey htkey
  · intro key
    unfold dictionaryFind
    rw [List.find?_append]
    have hnone : (List.replicate d.slots.length Slot.blank).find? (Slot.holds key) = none := by
      rw [List.find?_eq_none]
      intro s hs
      simp [Slot.holds, hblank s hs]
    rw [hnone, Option.or_none]

theorem search_eq (h : Wellformed d) :
    (if d.n > 0 then d.slots.findIdx? (Slot.holds key) else none) =
      d.slots.findIdx? (Slot.holds key) := by
  split
  · rfl
  · rename_i hn
    symm
    rw [List.findIdx?_eq_none_iff]
    intro s hs
    have hzero : d.slots.countP (fun s => s.key.isSome) = 0 := by
      have := h.counted
      omega
    have hkey := List.countP_eq_zero.mp hzero s hs
    unfold Slot.holds
    cases hk : s.key with
    | none => rfl
    | some k => simp [hk] at hkey

/-- The value of a key that is there. -/
theorem set_found (h : Wellformed d) {i : Nat}
    (hi : d.slots.findIdx? (Slot.holds key) = some i) (val : Option CString) :
    Wellformed { d with slots := d.slots.modify i fun s => { s with val } } ∧
      dictionaryFind { d with slots := d.slots.modify i fun s => { s with val } } =
        Function.update (dictionaryFind d) key (some val) := by
  obtain ⟨s, hs, hkey⟩ := findIdx_eq_some h hi
  have hwrite : d.slots.modify i (fun s => { s with val }) = d.slots.set i { s with val } := by
    apply List.ext_getElem?
    intro j
    rw [List.getElem?_modify, List.getElem?_set]
    by_cases hj : i = j
    · subst hj
      obtain ⟨hlt, hget⟩ := List.getElem?_eq_some_iff.mp hs
      simp [hlt, hget]
    · simp [hj]
  rw [hwrite]
  have h' : Wellformed { n := d.n, slots := d.slots.set i { s with val } } := by
    refine h.write hs (h.hashed s (List.mem_of_getElem? hs)) ?_ ?_ h.bounded
    · exact fun k hk j u hu huk => h.distinct j i u s k hu hs huk hk
    · have := h.counted
      change _ + (if s.key.isSome then 1 else 0) ≤ _
      omega
  refine ⟨h', funext fun k => ?_⟩
  rw [find_write h hs h']
  by_cases hk : k = key
  · subst hk
    rw [Function.update_self, if_pos hkey]
  · rw [Function.update_of_ne hk]
    have hne : s.key ≠ some k := by
      rw [hkey]
      exact fun heq => hk (Option.some.inj heq).symm
    rw [if_neg hne, if_neg hne]

/-- A new entry, whose key may have found no memory. -/
theorem set_new (h : Wellformed d) (habsent : dictionaryFind d key = none)
    (hroom : d.n < d.slots.length) (val : Option CString) (copied : Bool) :
    ∃ i, probe d.slots d.slots.length d.n = some i ∧
      Wellformed
        { n := d.n + 1
          slots := d.slots.set i
            { key := xstrdup copied key, val, hash := dictionaryHash key } } ∧
      dictionaryFind
        { n := d.n + 1
          slots := d.slots.set i
            { key := xstrdup copied key, val, hash := dictionaryHash key } } =
        if copied then Function.update (dictionaryFind d) key (some val)
        else dictionaryFind d := by
  have hfree : ∃ t ∈ d.slots, t.key = none := by
    by_contra hnone
    have hall : d.slots.countP (fun s => s.key.isSome) = d.slots.length := by
      rw [List.countP_eq_length]
      intro t ht
      rw [Option.isSome_iff_ne_none]
      exact fun hkey => hnone ⟨t, ht, hkey⟩
    have := h.counted
    omega
  obtain ⟨t, ht, htfree⟩ := hfree
  obtain ⟨j, hj⟩ := List.getElem?_of_mem ht
  obtain ⟨hjlt, -⟩ := List.getElem?_eq_some_iff.mp hj
  obtain ⟨i, s, hi, hs, hsfree⟩ := probe_finds hj htfree hroom
    (show (if d.n ≤ j then j - d.n else j + d.slots.length - d.n) < d.slots.length by
      split <;> omega)
  refine ⟨i, hi, ?_⟩
  have hkeys : ∀ k, xstrdup copied key = some k → k = key := by
    intro k hk
    unfold xstrdup at hk
    split at hk
    · exact (Option.some.inj hk).symm
    · cases hk
  have h' : Wellformed
      { n := d.n + 1
        slots := d.slots.set i
          { key := xstrdup copied key, val, hash := dictionaryHash key } } := by
    refine h.write hs ?_ ?_ ?_ hroom
    · exact fun k hk => congrArg dictionaryHash (hkeys k hk).symm
    · intro k hk j u hu huk
      rw [hkeys k hk] at huk
      exact absurd huk ((find_eq_none_iff h).mp habsent j u hu)
    · have := h.counted
      simp only [hsfree, Option.isSome_none]
      split <;> simp <;> omega
  refine ⟨h', funext fun k => ?_⟩
  rw [find_write h hs h']
  have hgone : s.key ≠ some k := by
    rw [hsfree]
    exact nofun
  rw [if_neg hgone]
  cases copied with
  | false => rfl
  | true =>
    rw [if_pos (c := true = true) rfl]
    by_cases hk : k = key
    · subst hk
      rw [Function.update_self]
      exact if_pos rfl
    · rw [Function.update_of_ne hk]
      exact if_neg fun heq => hk (Option.some.inj heq).symm

theorem set_explained (h : Wellformed d) (key : CString) (val : Option CString) (mem : SetMemory) :
    ∃ ret d', dictionarySet d key val mem = some (ret, d') ∧ Wellformed d' ∧
      Explains (dictionaryFind d) (.set key val mem) (.status ret) (dictionaryFind d') := by
  unfold dictionarySet
  simp only [search_eq h]
  cases hi : d.slots.findIdx? (Slot.holds key) with
  | some i =>
    obtain ⟨hw, hfind⟩ := set_found h hi (val.bind (xstrdup mem.val))
    obtain ⟨s, hs, hkey⟩ := findIdx_eq_some h hi
    have hpresent := (find_eq_some_iff h).mpr ⟨i, s, hs, hkey, rfl⟩
    refine ⟨0, _, rfl, hw, ?_⟩
    rw [hfind]
    exact .replace (by rw [hpresent]; rfl)
  | none =>
    have habsent := findIdx_eq_none h hi
    -- the entry in arrays with room for it
    have hnew : ∀ e : Dictionary, Wellformed e → e.n = d.n →
        (∀ k, dictionaryFind e k = dictionaryFind d k) → e.n < e.slots.length →
        ∃ ret d', (probe e.slots e.slots.length e.n).map (fun i => ((0 : Int),
            ({ n := e.n + 1
               slots := e.slots.set i
                 { key := xstrdup mem.key key, val := val.bind (xstrdup mem.val)
                   hash := dictionaryHash key } } : Dictionary))) = some (ret, d') ∧
          Wellformed d' ∧
          Explains (dictionaryFind d) (.set key val mem) (.status ret) (dictionaryFind d') := by
      intro e he _ hsame hroom
      obtain ⟨i, hprobe, hw, hfind⟩ := set_new he ((hsame key).trans habsent) hroom
        (val.bind (xstrdup mem.val)) mem.key
      rw [hprobe]
      refine ⟨0, _, rfl, hw, ?_⟩
      rw [hfind, funext hsame]
      cases hcopied : mem.key with
      | true => exact .insert habsent hcopied
      | false => exact .lost habsent hcopied
    by_cases hfull : d.n = d.slots.length
    · simp only [if_pos hfull, dictionaryGrow]
      cases hgrow : mem.grow with
      | false => exact ⟨-1, d, rfl, h, .refused habsent hgrow⟩
      | true =>
        obtain ⟨hw, hsame⟩ := grow_wellformed h
        refine hnew _ hw rfl hsame ?_
        have := h.nonempty
        simp only [List.length_append, List.length_replicate]
        omega
    · simp only [if_neg hfull]
      exact hnew d h rfl (fun _ => rfl) (Nat.lt_of_le_of_ne h.bounded hfull)

theorem unset_explained (h : Wellformed d) (key : CString) :
    Wellformed (dictionaryUnset d key) ∧
      dictionaryFind (dictionaryUnset d key) = Function.update (dictionaryFind d) key none := by
  unfold dictionaryUnset
  cases hi : d.slots.findIdx? (Slot.holds key) with
  | none =>
    refine ⟨h, funext fun k => ?_⟩
    by_cases hk : k = key
    · subst hk
      rw [Function.update_self]
      exact findIdx_eq_none h hi
    · rw [Function.update_of_ne hk]
  | some i =>
    obtain ⟨s, hs, hkey⟩ := findIdx_eq_some h hi
    have hpos : 0 < d.slots.countP (fun s => s.key.isSome) :=
      List.countP_pos_iff.mpr ⟨s, List.mem_of_getElem? hs, by rw [hkey]; rfl⟩
    have h' : Wellformed { n := d.n - 1, slots := d.slots.set i .blank } := by
      refine h.write hs nofun nofun ?_ ?_
      · have := h.counted
        simp only [hkey, Option.isSome_some, Slot.blank, Option.isSome_none]
        simp
        omega
      · have := h.bounded
        omega
    refine ⟨h', funext fun k => ?_⟩
    have hblank : Slot.blank.key ≠ some k := nofun
    rw [find_write h hs h', if_neg hblank]
    by_cases hk : k = key
    · subst hk
      rw [Function.update_self, if_pos hkey]
    · rw [Function.update_of_ne hk, if_neg]
      rw [hkey]
      exact fun heq => hk (Option.some.inj heq).symm

/-- Every operation returns, keeps the arrays in order, and does what is expected of it. -/
theorem dictionaryStep_explained (h : Wellformed d) (op : DictionaryOp) :
    Wellformed (dictionaryStep d op).1 ∧
      Explains (dictionaryFind d) op (dictionaryStep d op).2
        (dictionaryFind (dictionaryStep d op).1) := by
  cases op with
  | set key val mem =>
    obtain ⟨ret, d', hset, hw, hexplains⟩ := set_explained h key val mem
    simp only [dictionaryStep, hset]
    exact ⟨hw, hexplains⟩
  | unset key =>
    obtain ⟨hw, hfind⟩ := unset_explained h key
    simp only [dictionaryStep, hfind]
    exact ⟨hw, .unset⟩
  | get key notfound => exact ⟨h, .get⟩

theorem behind_wellformed (log : List (DictionaryOp × DictionaryAnswer)) {d : Dictionary}
    (h : Wellformed d) : Wellformed (behind dictionaryStep d log) := by
  induction log generalizing d with
  | nil => exact h
  | cons call log ih => exact ih (dictionaryStep_explained h call.1).1

end Operations

end BackendProxy.Config
