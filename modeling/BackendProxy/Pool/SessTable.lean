import BackendProxy.Lib.Dlist
import BackendProxy.Lib.History
import BackendProxy.Pool.Engine
import Mathlib.Data.List.Perm.Subperm

namespace BackendProxy.Pool

open Lib Lib.Dlist Queue

/-! The hash table of the sessions as pointers: the list in the order of insertion, the chains of
the buckets, and their doubling. -/

def hashInitialNumBuckets : Nat := 32
def hashInitialNumBucketsLog2 : Nat := 5
def hashBktCapacityThresh : Nat := 10

/-- `HASH_JEN_MIX` -/
def hashJenMix (a b c : UInt32) : UInt32 × UInt32 × UInt32 :=
  let a := (a - b - c) ^^^ (c >>> 13)
  let b := (b - c - a) ^^^ (a <<< 8)
  let c := (c - a - b) ^^^ (b >>> 13)
  let a := (a - b - c) ^^^ (c >>> 12)
  let b := (b - c - a) ^^^ (a <<< 16)
  let c := (c - a - b) ^^^ (b >>> 5)
  let a := (a - b - c) ^^^ (c >>> 3)
  let b := (b - c - a) ^^^ (a <<< 10)
  let c := (c - a - b) ^^^ (b >>> 15)
  (a, b, c)

/-- `HASH_JEN` of the two bytes of an identifier. -/
def hashJen (key : UInt16) : UInt32 :=
  let i : UInt32 := 0x9e3779b9
  let hashv : UInt32 := 0xfeedbeef
  let high := (key >>> 8).toUInt32
  let low := (key &&& 0xFF).toUInt32
  (hashJenMix (i + (high <<< 8) + low) i (hashv + 2)).2.2

/-- `UT_hash_table` without the heads of the chains, which are with the links. The pointer to the
table is the same in all elements. -/
structure HashTable (P : Type) where
  numBuckets : Nat
  log2NumBuckets : Nat
  numItems : Nat
  tail : P
  idealChainMaxlen : Nat
  nonidealItems : Nat
  ineffExpands : Nat
  noexpand : Bool
  count : Nat → Nat
  expandMult : Nat → Nat

/-- The head of the hash is that of the list `app`. -/
structure UtHash (P : Type) where
  tbl : Option (HashTable P)
  app : Links Unit P
  chain : Links Nat P
  key : P → UInt16
  hashv : P → UInt32

/-- `HASH_TO_BKT` -/
def hashToBkt (hashv : UInt32) (numBkts : Nat) : Nat := hashv.toNat &&& (numBkts - 1)

variable {P : Type} [DecidableEq P]

/-- `HASH_FIND_IN_BKT`, the loop; no result when it does not end. -/
def hashFindInBkt (u : UtHash P) (key : UInt16) (hashval : UInt32) :
    Nat → Option P → Option (Option P)
  | _, none => some none
  | 0, some _ => none
  | fuel + 1, some p =>
    if u.hashv p = hashval ∧ u.key p = key then some (some p)
    else hashFindInBkt u key hashval fuel (u.chain.next p)

/-- `HASH_FIND`; a chain has no more elements than the table. -/
def hashFind (u : UtHash P) (key : UInt16) : Except Halt (Option P) :=
  match u.app.head () with
  | none => .ok none
  | some _ =>
    match u.tbl with
    | none => .error .undefined
    | some t =>
      let bkt := hashToBkt (hashJen key) t.numBuckets
      match hashFindInBkt u key (hashJen key) t.numItems (u.chain.head bkt) with
      | none => .error .endless
      | some out => .ok out

/-! `HASH_EXPAND_BUCKETS` -/

/-- The new buckets while the elements go over to them. -/
structure Expansion (P : Type) where
  links : Links Nat P
  count : Nat → Nat
  expandMult : Nat → Nat
  nonidealItems : Nat

/-- One element goes to the front of its new chain. -/
def expandItem (hashv : P → UInt32) (numBkts ideal : Nat) (e : Expansion P) (p : P) :
    Expansion P :=
  let bkt := hashToBkt (hashv p) numBkts
  let count := e.count bkt + 1
  let beyond := decide (ideal < count)
  let mult := e.expandMult bkt
  { links := e.links.pushFront bkt p
    count := Function.update e.count bkt count
    expandMult :=
      Function.update e.expandMult bkt (if beyond ∧ mult * ideal < count then mult + 1 else mult)
    nonidealItems := if beyond then e.nonidealItems + 1 else e.nonidealItems }

/-- The pointer to the next element is read before the element is moved. -/
def expandChain (hashv : P → UInt32) (numBkts ideal : Nat) :
    Nat → Option P → Expansion P → Option (Expansion P)
  | _, none, e => some e
  | 0, some _, _ => none
  | fuel + 1, some p, e =>
    expandChain hashv numBkts ideal fuel (e.links.next p) (expandItem hashv numBkts ideal e p)

def expandAll (u : UtHash P) (t : HashTable P) (ideal : Nat) : Nat → Expansion P →
    Option (Expansion P)
  | 0, e => some e
  | i + 1, e =>
    (expandAll u t ideal i e).bind
      (expandChain u.hashv (t.numBuckets * 2) ideal t.numItems (u.chain.head i))

def hashExpandBuckets (u : UtHash P) (t : HashTable P) : Option (UtHash P) :=
  let numBuckets := t.numBuckets * 2
  let ideal := (t.numItems >>> (t.log2NumBuckets + 1)) +
    (if t.numItems &&& (numBuckets - 1) ≠ 0 then 1 else 0)
  let zeroed : Expansion P :=
    { links := { u.chain with head := fun _ => none }, count := fun _ => 0
      expandMult := fun _ => 0, nonidealItems := 0 }
  (expandAll u t ideal t.numBuckets zeroed).map fun e =>
    let ineffExpands := if e.nonidealItems > t.numItems >>> 1 then t.ineffExpands + 1 else 0
    { u with
      chain := e.links
      tbl := some
        { numBuckets, log2NumBuckets := t.log2NumBuckets + 1, numItems := t.numItems
          tail := t.tail, idealChainMaxlen := ideal, nonidealItems := e.nonidealItems
          ineffExpands, noexpand := t.noexpand || decide (ineffExpands > 1), count := e.count
          expandMult := e.expandMult } }

/-! `HASH_ADD` and `HASH_DEL` -/

/-- `HASH_MAKE_TABLE` for the first element. -/
def hashMakeTable (p : P) : HashTable P :=
  { numBuckets := hashInitialNumBuckets, log2NumBuckets := hashInitialNumBucketsLog2
    numItems := 0, tail := p, idealChainMaxlen := 0, nonidealItems := 0, ineffExpands := 0
    noexpand := false, count := fun _ => 0, expandMult := fun _ => 0 }

def hashFirst (u : UtHash P) (p : P) : UtHash P :=
  { u with
    app := ((u.app.setNext (some p) none).setPrev (some p) none).setHead () (some p)
    chain := { u.chain with head := fun _ => none } }

/-- `HASH_APPEND_LIST` -/
def hashAppendList (u : UtHash P) (t : HashTable P) (p : P) : UtHash P :=
  { u with app := u.app.pushBack t.tail p }

/-- `HASH_ADD_TO_TABLE` with `HASH_ADD_TO_BKT`. Without memory for larger buckets the process
ends. -/
def hashAddToTable (u : UtHash P) (t : HashTable P) (p : P) (memory : Bool) :
    Except Halt (UtHash P) :=
  let bkt := hashToBkt (u.hashv p) t.numBuckets
  let t := { t with
    numItems := t.numItems + 1
    count := Function.update t.count bkt (t.count bkt + 1) }
  let u := { u with chain := u.chain.pushFront bkt p, tbl := some t }
  if t.count bkt ≥ (t.expandMult bkt + 1) * hashBktCapacityThresh ∧ t.noexpand = false then
    if memory then
      match hashExpandBuckets u t with
      | none => .error .endless
      | some u => .ok u
    else .error .exit
  else .ok u

def hashAdd (u : UtHash P) (p : P) (key : UInt16) (memory : Bool) : Except Halt (UtHash P) :=
  let u := { u with
    key := Function.update u.key p key
    hashv := Function.update u.hashv p (hashJen key) }
  match u.app.head () with
  | none =>
    if memory then hashAddToTable (hashFirst u p) (hashMakeTable p) p memory
    else .error .exit
  | some _ =>
    match u.tbl with
    | none => .error .undefined
    | some t => hashAddToTable (hashAppendList u t p) { t with tail := p } p memory

/-- The only element is told by its pointers; with it the table goes. -/
def hashDelete (u : UtHash P) (p : P) : Except Halt (UtHash P) :=
  match u.tbl with
  | none => .error .undefined
  | some t =>
    if u.app.prev p = none ∧ u.app.next p = none then
      .ok { u with tbl := none, app := u.app.setHead () none }
    else
      let tail := if p = t.tail then u.app.prev p else some t.tail
      match tail with
      | none => .error .undefined
      | some tail =>
        let front :=
          match u.app.prev p with
          | some q => u.app.setNext (some q) (u.app.next p)
          | none => u.app.setHead () (u.app.next p)
        let bkt := hashToBkt (u.hashv p) t.numBuckets
        .ok { u with
          app := front.setPrev (u.app.next p) (u.app.prev p)
          chain := u.chain.remove bkt p
          tbl := some { t with
            tail
            numItems := t.numItems - 1
            count := Function.update t.count bkt (t.count bkt - 1) } }

/-- The elements from `p` on in the order of `HASH_ITER`. -/
def hashIter (u : UtHash P) : Nat → Option P → Option (List P)
  | _, none => some []
  | 0, some _ => none
  | fuel + 1, some p => (hashIter u fuel (u.app.next p)).map (p :: ·)

/-! The operations of the pool on its table. -/

inductive TableOp (P : Type) where
  | insert (p : P) (id : UInt16) (memory : Bool)
  | search (id : UInt16)
  | delete (p : P)
  | iterate
  deriving DecidableEq, Repr

inductive TableAnswer (P : Type) where
  | status (st : ProcessStatus)
  | found (p : Option P)
  | done
  | listed (ps : List P)
  deriving DecidableEq, Repr

/-- `high_speed_insert_sess`, `high_speed_search_sess`, `HASH_DEL` and `HASH_ITER`. -/
def tableOp (u : UtHash P) : TableOp P → Except Halt (UtHash P × TableAnswer P)
  | .insert p id memory =>
    match hashFind u id with
    | .error e => .error e
    | .ok (some _) => .ok (u, .status .error)
    | .ok none => (hashAdd u p id memory).map fun u => (u, .status .ok)
  | .search id => (hashFind u id).map fun p => (u, .found p)
  | .delete p => (hashDelete u p).map fun u => (u, .done)
  | .iterate =>
    match hashIter u ((u.tbl.map HashTable.numItems).getD 0) (u.app.head ()) with
    | none => .error .endless
    | some ps => .ok (u, .listed ps)

/-! What the table is for: entries in the order in which they came. -/

abbrev TableEntries (P : Type) := List (P × UInt16)

def listOp (L : TableEntries P) : TableOp P → TableEntries P × TableAnswer P
  | .insert p id _ =>
    match L.find? fun e => e.2 == id with
    | some _ => (L, .status .error)
    | none => (L ++ [(p, id)], .status .ok)
  | .search id => (L, .found ((L.find? fun e => e.2 == id).map Prod.fst))
  | .delete p => (L.filter fun e => e.1 ≠ p, .done)
  | .iterate => (L, .listed (L.map Prod.fst))

/-- What goes in is not in yet, what is taken out is in. -/
def TableOp.Allowed (L : TableEntries P) : TableOp P → Prop
  | .insert p _ _ => p ∉ L.map Prod.fst
  | .delete p => p ∈ L.map Prod.fst
  | .search _ | .iterate => True

instance (L : TableEntries P) : (op : TableOp P) → Decidable (op.Allowed L)
  | .insert p _ _ => inferInstanceAs (Decidable (p ∉ L.map Prod.fst))
  | .delete p => inferInstanceAs (Decidable (p ∈ L.map Prod.fst))
  | .search _ | .iterate => isTrue trivial

/-! The pointers and the list. -/

/-- The chains `C` sort the elements of the list by their buckets. -/
structure Chained (u : UtHash P) (t : HashTable P) (L : List P) (C : Nat → List P) : Prop where
  holds : HoldsAll u.chain C
  placed : ∀ b p, p ∈ C b ↔ p ∈ L ∧ hashToBkt (u.hashv p) t.numBuckets = b
  counted : ∀ b, t.count b = (C b).length
  size : 0 < t.numBuckets

structure Tabled (u : UtHash P) (t : HashTable P) (L : List P) : Prop where
  app : u.app.Holds () L
  tail : L.getLast? = some t.tail
  items : t.numItems = L.length
  chains : ∃ C, Chained u t L C

structure Represents (u : UtHash P) (L : TableEntries P) : Prop where
  keyed : ∀ e ∈ L, u.key e.1 = e.2 ∧ u.hashv e.1 = hashJen e.2
  distinct : (L.map Prod.snd).Nodup
  table : match u.tbl with
    | none => u.app.head () = none ∧ L = []
    | some t => Tabled u t (L.map Prod.fst)

section Chains

variable {u : UtHash P} {t : HashTable P} {L : List P} {C : Nat → List P} {p : P}
  {before cur : Option P} {xs : List P}

omit [DecidableEq P] in
theorem hashToBkt_lt (hashv : UInt32) {n : Nat} (hn : 0 < n) : hashToBkt hashv n < n :=
  Nat.lt_of_le_of_lt Nat.and_le_right (Nat.sub_lt hn Nat.zero_lt_one)

omit [DecidableEq P] in
theorem hashFindInBkt_path (key : UInt16) (hashval : UInt32) (hp : u.chain.Path before cur xs)
    {fuel : Nat} (hfuel : xs.length ≤ fuel) :
    hashFindInBkt u key hashval fuel cur =
      some (xs.find? fun p => u.hashv p = hashval ∧ u.key p = key) := by
  induction xs generalizing before cur fuel with
  | nil =>
    rw [show cur = none from hp]
    cases fuel <;> rfl
  | cons p xs ih =>
    obtain ⟨rfl, -, hrest⟩ := hp
    cases fuel with
    | zero => cases hfuel
    | succ fuel =>
      simp only [hashFindInBkt]
      split
      · rename_i hfound
        rw [List.find?_cons_of_pos (by simpa using hfound)]
      · rename_i hother
        rw [List.find?_cons_of_neg (by simpa using hother)]
        exact ih hrest (Nat.le_of_succ_le_succ hfuel)

omit [DecidableEq P] in
theorem hashIter_path (hp : u.app.Path before cur xs) {fuel : Nat} (hfuel : xs.length ≤ fuel) :
    hashIter u fuel cur = some xs := by
  induction xs generalizing before cur fuel with
  | nil =>
    rw [show cur = none from hp]
    cases fuel <;> rfl
  | cons p xs ih =>
    obtain ⟨rfl, -, hrest⟩ := hp
    cases fuel with
    | zero => cases hfuel
    | succ fuel =>
      rw [hashIter, ih hrest (Nat.le_of_succ_le_succ hfuel)]
      rfl

omit [DecidableEq P] in
/-- No chain is longer than the list. -/
theorem Chained.length_le (h : Chained u t L C) (b : Nat) : (C b).length ≤ L.length := by
  have hsub : C b ⊆ L := fun p hp => ((h.placed b p).mp hp).1
  exact (List.Nodup.subperm (h.holds.holds b).2 hsub).length_le

end Chains

section Find

variable {u : UtHash P} {L : TableEntries P} {id : UInt16}

omit [DecidableEq P] in
theorem find_eq_some_iff {p : P} (hdistinct : (L.map Prod.snd).Nodup) :
    (L.find? fun e => e.2 == id).map Prod.fst = some p ↔ (p, id) ∈ L := by
  rw [Option.map_eq_some_iff]
  constructor
  · rintro ⟨⟨q, k⟩, hfind, rfl⟩
    have hk : k = id := by simpa using List.find?_some hfind
    exact hk ▸ List.mem_of_find?_eq_some hfind
  · intro hmem
    obtain ⟨e, he⟩ : ∃ e, L.find? (fun e => e.2 == id) = some e := by
      apply Option.isSome_iff_exists.mp
      rw [List.find?_isSome]
      exact ⟨(p, id), hmem, beq_self_eq_true id⟩
    have hk : e.2 = id := by simpa using List.find?_some he
    have hsame : e = (p, id) :=
      List.inj_on_of_nodup_map hdistinct (List.mem_of_find?_eq_some he) hmem hk
    exact ⟨e, he, by rw [hsame]⟩

omit [DecidableEq P] in
/-- The search in the chain of the hash is the search in the list. -/
theorem Represents.find (h : Represents u L) (id : UInt16) :
    hashFind u id = .ok ((L.find? fun e => e.2 == id).map Prod.fst) := by
  have htable := h.table
  unfold hashFind
  cases htbl : u.tbl with
  | none =>
    rw [htbl] at htable
    obtain ⟨hhead, rfl⟩ := htable
    rw [hhead]
    rfl
  | some t =>
    rw [htbl] at htable
    obtain ⟨C, hC⟩ := htable.chains
    have hhead := Holds.head_eq htable.app
    cases hne : u.app.head () with
    | none =>
      have hnil : L = [] := by
        rw [hne, eq_comm, List.head?_eq_none_iff, List.map_eq_nil_iff] at hhead
        exact hhead
      rw [hnil]
      rfl
    | some _ =>
      have hfound := hashFindInBkt_path id (hashJen id)
        (hC.holds.holds (hashToBkt (hashJen id) t.numBuckets)).1
        (htable.items ▸ hC.length_le _)
      simp only [hfound]
      congr 1
      apply Option.ext
      intro p
      rw [find_eq_some_iff h.distinct]
      have hat : ∀ q ∈ C (hashToBkt (hashJen id) t.numBuckets),
          u.hashv q = hashJen id ∧ u.key q = id → (q, id) ∈ L := by
        intro q hq hkey
        obtain ⟨hmem, -⟩ := (hC.placed _ q).mp hq
        obtain ⟨⟨q', k⟩, he, rfl⟩ := List.mem_map.mp hmem
        have hk : k = id := (h.keyed _ he).1.symm.trans hkey.2
        exact hk ▸ he
      constructor
      · intro hp
        exact hat p (List.mem_of_find?_eq_some hp) (by simpa using List.find?_some hp)
      · intro hmem
        obtain ⟨hkey, hhash⟩ := h.keyed _ hmem
        have hin : p ∈ C (hashToBkt (hashJen id) t.numBuckets) :=
          (hC.placed _ p).mpr ⟨List.mem_map_of_mem hmem, by rw [hhash]⟩
        obtain ⟨q, hq⟩ : ∃ q, (C (hashToBkt (hashJen id) t.numBuckets)).find?
            (fun p => decide (u.hashv p = hashJen id ∧ u.key p = id)) = some q := by
          apply Option.isSome_iff_exists.mp
          rw [List.find?_isSome]
          exact ⟨p, hin, decide_eq_true ⟨hhash, hkey⟩⟩
        have hqmem := hat q (List.mem_of_find?_eq_some hq) (by simpa using List.find?_some hq)
        have hsame : ((q, id) : P × UInt16) = (p, id) :=
          List.inj_on_of_nodup_map h.distinct hqmem hmem rfl
        rw [hq, (Prod.mk.inj hsame).1]

end Find

/-! The expansion. -/

section Expand

variable {u : UtHash P} {t : HashTable P} {e : Expansion P} {n : Nat} {moved : List P} {p : P}

/-- The elements moved so far are in their new chains, the others keep their forward pointers. -/
structure Moved (u : UtHash P) (n : Nat) (moved : List P) (e : Expansion P) : Prop where
  chains : ∃ C, HoldsAll e.links C ∧
    (∀ b p, p ∈ C b ↔ p ∈ moved ∧ hashToBkt (u.hashv p) n = b) ∧
    ∀ b, e.count b = (C b).length
  kept : ∀ p, p ∉ moved → e.links.next p = u.chain.next p

theorem Moved.item (h : Moved u n moved e) (ideal : Nat) (hp : p ∉ moved) :
    Moved u n (moved ++ [p]) (expandItem u.hashv n ideal e p) := by
  obtain ⟨C, hall, hplaced, hcount⟩ := h.chains
  have hnew : ∀ b, p ∉ C b := fun b hin => hp ((hplaced b p).mp hin).1
  constructor
  case chains =>
    refine ⟨_, hall.pushFront (h := hashToBkt (u.hashv p) n) hnew, ?_, ?_⟩
    · intro b q
      by_cases hb : b = hashToBkt (u.hashv p) n
      · subst hb
        rw [Function.update_self, List.mem_cons, hplaced, List.mem_append, List.mem_singleton]
        constructor
        · rintro (rfl | ⟨hq, heq⟩)
          · exact ⟨.inr rfl, rfl⟩
          · exact ⟨.inl hq, heq⟩
        · rintro ⟨hq | rfl, heq⟩
          · exact .inr ⟨hq, heq⟩
          · exact .inl rfl
      · rw [Function.update_of_ne hb, hplaced, List.mem_append, List.mem_singleton]
        constructor
        · exact fun hq => ⟨.inl hq.1, hq.2⟩
        · rintro ⟨hq | rfl, heq⟩
          · exact ⟨hq, heq⟩
          · exact absurd heq.symm hb
    · intro b
      change Function.update e.count _ _ b = _
      by_cases hb : b = hashToBkt (u.hashv p) n
      · subst hb
        rw [Function.update_self, Function.update_self, hcount]
        rfl
      · rw [Function.update_of_ne hb, Function.update_of_ne hb, hcount]
  case kept =>
    intro q hq
    rw [List.mem_append, List.mem_singleton, not_or] at hq
    change (e.links.pushFront _ p).next q = _
    rw [pushFront_next, if_neg (Ne.symm hq.2)]
    exact h.kept q hq.1

theorem Moved.chain {before cur : Option P} {xs : List P} (h : Moved u n moved e) (ideal : Nat)
    (hpath : u.chain.Path before cur xs) (hnodup : xs.Nodup) (hnew : ∀ p ∈ xs, p ∉ moved)
    {fuel : Nat} (hfuel : xs.length ≤ fuel) :
    ∃ e', expandChain u.hashv n ideal fuel cur e = some e' ∧ Moved u n (moved ++ xs) e' := by
  induction xs generalizing before cur moved e fuel with
  | nil =>
    rw [show cur = none from hpath, List.append_nil]
    exact ⟨e, by cases fuel <;> rfl, h⟩
  | cons p xs ih =>
    obtain ⟨rfl, -, hrest⟩ := hpath
    obtain ⟨hout, hxs⟩ := List.nodup_cons.mp hnodup
    have hp := hnew p List.mem_cons_self
    cases fuel with
    | zero => cases hfuel
    | succ fuel =>
      rw [expandChain, h.kept p hp]
      obtain ⟨e', he', hmoved⟩ := ih (h.item ideal hp) hrest hxs
        (fun q hq hin => by
          rcases List.mem_append.mp hin with hin | hin
          · exact hnew q (List.mem_cons_of_mem p hq) hin
          · exact hout (List.mem_singleton.mp hin ▸ hq))
        (Nat.le_of_succ_le_succ hfuel)
      refine ⟨e', he', ?_⟩
      rwa [List.append_assoc, List.singleton_append] at hmoved

theorem Chained.all {L : List P} {C : Nat → List P} (h : Chained u t L C)
    (hitems : t.numItems = L.length) (ideal i : Nat) {start : Expansion P}
    (hstart : Moved u (t.numBuckets * 2) [] start) :
    ∃ e, expandAll u t ideal i start = some e ∧
      Moved u (t.numBuckets * 2) ((List.range i).flatMap C) e := by
  induction i with
  | zero => exact ⟨start, rfl, hstart⟩
  | succ i ih =>
    obtain ⟨e, he, hmoved⟩ := ih
    have hnew : ∀ p ∈ C i, p ∉ (List.range i).flatMap C := by
      intro p hp hin
      obtain ⟨j, hj, hpj⟩ := List.mem_flatMap.mp hin
      have := h.holds.apart i j p hp hpj
      have := List.mem_range.mp hj
      omega
    obtain ⟨e', he', hmoved'⟩ := hmoved.chain ideal (h.holds.holds i).1
      (h.holds.holds i).2 hnew (hitems ▸ h.length_le i)
    refine ⟨e', ?_, ?_⟩
    · rw [expandAll, he]
      exact he'
    · rw [List.range_succ, List.flatMap_append, List.flatMap_singleton]
      exact hmoved'

/-- The doubled table holds the same elements. -/
theorem Tabled.expand {L : List P} (h : Tabled u t L) :
    ∃ u' t', hashExpandBuckets u t = some u' ∧ u'.tbl = some t' ∧ u'.key = u.key ∧
      u'.hashv = u.hashv ∧ Tabled u' t' L := by
  obtain ⟨C, hC⟩ := h.chains
  have hzeroed : Moved u (t.numBuckets * 2) []
      { links := { u.chain with head := fun _ => none }, count := fun _ => 0
        expandMult := fun _ => 0, nonidealItems := 0 } :=
    ⟨⟨fun _ => [], holdsAll_empty fun _ => rfl, fun b p => by simp, fun b => rfl⟩,
      fun _ _ => rfl⟩
  obtain ⟨e, he, hmoved⟩ := hC.all h.items
    ((t.numItems >>> (t.log2NumBuckets + 1)) +
      (if t.numItems &&& (t.numBuckets * 2 - 1) ≠ 0 then 1 else 0)) t.numBuckets hzeroed
  obtain ⟨C', hall, hplaced, hcount⟩ := hmoved.chains
  have hevery : ∀ p, p ∈ (List.range t.numBuckets).flatMap C ↔ p ∈ L := by
    intro p
    rw [List.mem_flatMap]
    constructor
    · rintro ⟨b, -, hp⟩
      exact ((hC.placed b p).mp hp).1
    · intro hp
      exact ⟨_, List.mem_range.mpr (hashToBkt_lt (u.hashv p) hC.size),
        (hC.placed _ p).mpr ⟨hp, rfl⟩⟩
  unfold hashExpandBuckets
  simp only [he, Option.map_some]
  refine ⟨_, _, rfl, rfl, rfl, rfl, h.app, h.tail, h.items, C', hall, ?_, hcount, ?_⟩
  · intro b p
    rw [hplaced, hevery]
  · exact Nat.mul_pos hC.size Nat.zero_lt_two

end Expand

/-! An element comes, and an element goes. -/

section Change

variable {u : UtHash P} {t : HashTable P} {L : List P} {C : Nat → List P} {p : P}

theorem Chained.add (h : Chained u t L C) (hp : p ∉ L) {u' : UtHash P} {t' : HashTable P}
    (hchain : u'.chain = u.chain.pushFront (hashToBkt (u.hashv p) t.numBuckets) p)
    (hhashv : u'.hashv = u.hashv) (hsize : t'.numBuckets = t.numBuckets)
    (hcount : t'.count = Function.update t.count (hashToBkt (u.hashv p) t.numBuckets)
      (t.count (hashToBkt (u.hashv p) t.numBuckets) + 1)) :
    ∃ C', Chained u' t' (L ++ [p]) C' := by
  have hnew : ∀ b, p ∉ C b := fun b hin => hp ((h.placed b p).mp hin).1
  refine ⟨_, hchain ▸ h.holds.pushFront (h := hashToBkt (u.hashv p) t.numBuckets) hnew, ?_, ?_,
    hsize ▸ h.size⟩
  · intro b q
    rw [hhashv, hsize, List.mem_append, List.mem_singleton]
    by_cases hb : b = hashToBkt (u.hashv p) t.numBuckets
    · subst hb
      rw [Function.update_self, List.mem_cons, h.placed]
      constructor
      · rintro (rfl | ⟨hq, heq⟩)
        · exact ⟨.inr rfl, rfl⟩
        · exact ⟨.inl hq, heq⟩
      · rintro ⟨hq | rfl, heq⟩
        · exact .inr ⟨hq, heq⟩
        · exact .inl rfl
    · rw [Function.update_of_ne hb, h.placed]
      constructor
      · exact fun hq => ⟨.inl hq.1, hq.2⟩
      · rintro ⟨hq | rfl, heq⟩
        · exact ⟨hq, heq⟩
        · exact absurd heq.symm hb
  · intro b
    rw [hcount]
    by_cases hb : b = hashToBkt (u.hashv p) t.numBuckets
    · subst hb
      rw [Function.update_self, Function.update_self, h.counted]
      rfl
    · rw [Function.update_of_ne hb, Function.update_of_ne hb, h.counted]

/-- The element is in the list already, and comes into its chain. -/
theorem hashAddToTable_tabled (happ : u.app.Holds () (L ++ [p])) (htail : t.tail = p)
    (hitems : t.numItems = L.length) (hC : Chained u t L C) (hp : p ∉ L) (memory : Bool) :
    (hashAddToTable u t p memory = .error .exit ∧ memory = false) ∨
      ∃ u' t', hashAddToTable u t p memory = .ok u' ∧ u'.tbl = some t' ∧ u'.key = u.key ∧
        u'.hashv = u.hashv ∧ Tabled u' t' (L ++ [p]) := by
  obtain ⟨t', ht'⟩ : ∃ t', t' = { t with
      numItems := t.numItems + 1
      count := Function.update t.count (hashToBkt (u.hashv p) t.numBuckets)
        (t.count (hashToBkt (u.hashv p) t.numBuckets) + 1) } := ⟨_, rfl⟩
  obtain ⟨u', hu'⟩ : ∃ u', u' = { u with
      chain := u.chain.pushFront (hashToBkt (u.hashv p) t.numBuckets) p
      tbl := some t' } := ⟨_, rfl⟩
  have htabled : Tabled u' t' (L ++ [p]) := by
    refine ⟨by rw [hu']; exact happ, ?_, ?_, ?_⟩
    · rw [List.getLast?_concat, ht']
      exact congrArg some htail.symm
    · rw [List.length_append, ht']
      exact congrArg (· + 1) hitems
    · apply hC.add hp <;> simp only [hu', ht']
  unfold hashAddToTable
  simp only [← ht', ← hu']
  split
  · cases memory with
    | false => exact .inl ⟨rfl, rfl⟩
    | true =>
      obtain ⟨u'', t'', hexpand, htbl, hkey, hhashv, htabled'⟩ := htabled.expand
      refine .inr ⟨u'', t'', ?_, htbl, ?_, ?_, htabled'⟩
      · rw [hexpand]
        rfl
      · rw [hkey, hu']
      · rw [hhashv, hu']
  · exact .inr ⟨u', t', rfl, by rw [hu'], by rw [hu'], by rw [hu'], htabled⟩

theorem Chained.delete (h : Chained u t L C) (hp : p ∈ L) (hnodup : L.Nodup) {u' : UtHash P}
    {t' : HashTable P}
    (hchain : u'.chain = u.chain.remove (hashToBkt (u.hashv p) t.numBuckets) p)
    (hhashv : u'.hashv = u.hashv) (hsize : t'.numBuckets = t.numBuckets)
    (hcount : t'.count = Function.update t.count (hashToBkt (u.hashv p) t.numBuckets)
      (t.count (hashToBkt (u.hashv p) t.numBuckets) - 1)) :
    ∃ C', Chained u' t' (L.erase p) C' := by
  have hin : p ∈ C (hashToBkt (u.hashv p) t.numBuckets) := (h.placed _ p).mpr ⟨hp, rfl⟩
  refine ⟨_, hchain ▸ h.holds.remove hin, ?_, ?_, hsize ▸ h.size⟩
  · intro b q
    rw [hhashv, hsize, hnodup.mem_erase_iff]
    by_cases hb : b = hashToBkt (u.hashv p) t.numBuckets
    · subst hb
      rw [Function.update_self, (h.holds.holds _).2.mem_erase_iff, h.placed, and_assoc]
    · rw [Function.update_of_ne hb, h.placed]
      constructor
      · rintro ⟨hq, heq⟩
        exact ⟨⟨fun hqp => hb (hqp ▸ heq.symm), hq⟩, heq⟩
      · exact fun hq => ⟨hq.1.2, hq.2⟩
  · intro b
    rw [hcount]
    by_cases hb : b = hashToBkt (u.hashv p) t.numBuckets
    · subst hb
      rw [Function.update_self, Function.update_self, h.counted, List.length_erase_of_mem hin]
    · rw [Function.update_of_ne hb, Function.update_of_ne hb, h.counted]

/-- Taking an element out of the list by its own pointers. -/
theorem unlink_holds (hl : u.app.Holds () L) (hp : p ∈ L) :
    ((match u.app.prev p with
      | some q => u.app.setNext (some q) (u.app.next p)
      | none => u.app.setHead () (u.app.next p)).setPrev (u.app.next p) (u.app.prev p)).Holds ()
        (L.erase p) := by
  have hall : HoldsAll u.app fun _ : Unit => L := ⟨fun _ => hl, fun _ _ _ _ _ => rfl⟩
  have hremoved := (hall.remove (h := ()) hp).holds ()
  rw [Function.update_self] at hremoved
  obtain ⟨xs, ys, hsplit⟩ := List.append_of_mem hp
  have hprev := (Path.links (hsplit ▸ hl.1)).1
  rw [Option.or_none] at hprev
  have hfirst : u.app.head () = some p ↔ u.app.prev p = none := by
    rw [hprev, Holds.head_eq hl, hsplit, List.getLast?_eq_none_iff]
    have hnot : p ∉ xs := fun hin =>
      (List.disjoint_of_nodup_append (hsplit ▸ hl.2)) hin List.mem_cons_self
    cases xs with
    | nil => simp
    | cons x xs =>
      simp only [List.cons_append, List.head?_cons, Option.some.injEq, reduceCtorEq, iff_false]
      rintro rfl
      exact hnot List.mem_cons_self
  unfold Links.remove at hremoved
  cases hback : u.app.prev p with
  | none =>
    rw [if_pos (hfirst.mpr hback), hback] at hremoved
    exact hremoved
  | some q =>
    have hother : u.app.head () ≠ some p := by
      intro hhead
      rw [hfirst.mp hhead] at hback
      cases hback
    rw [if_neg hother, hback] at hremoved
    exact hremoved

theorem Tabled.delete (h : Tabled u t L) (htbl : u.tbl = some t) (hp : p ∈ L) :
    ∃ u', hashDelete u p = .ok u' ∧ u'.key = u.key ∧ u'.hashv = u.hashv ∧
      match u'.tbl with
      | none => u'.app.head () = none ∧ L.erase p = []
      | some t' => Tabled u' t' (L.erase p) := by
  obtain ⟨C, hC⟩ := h.chains
  obtain ⟨xs, ys, hsplit⟩ := List.append_of_mem hp
  have hnodup := h.app.2
  have hnot : p ∉ xs := fun hin =>
    (List.disjoint_of_nodup_append (hsplit ▸ hnodup)) hin List.mem_cons_self
  have herase : L.erase p = xs ++ ys := by
    rw [hsplit, List.erase_append_right _ hnot, List.erase_cons_head]
  obtain ⟨hprev, hnext⟩ := Path.links (hsplit ▸ h.app.1)
  rw [Option.or_none] at hprev
  unfold hashDelete
  rw [htbl]
  by_cases hsole : u.app.prev p = none ∧ u.app.next p = none
  · simp only [if_pos hsole]
    refine ⟨_, rfl, rfl, rfl, by simp, ?_⟩
    rw [hprev, hnext, List.getLast?_eq_none_iff, List.head?_eq_none_iff] at hsole
    rw [herase, hsole.1, hsole.2]
    rfl
  · -- the tail is that of the list without the element
    have htail : ∃ tail, (if p = t.tail then u.app.prev p else some t.tail) = some tail ∧
        (L.erase p).getLast? = some tail := by
      have hlast := h.tail
      rw [hsplit] at hlast
      rw [herase]
      cases ys with
      | nil =>
        rw [List.getLast?_concat] at hlast
        cases hlast
        cases hx : xs.getLast? with
        | none => exact absurd ⟨hprev.trans hx, hnext⟩ hsole
        | some q => exact ⟨q, by rw [if_pos rfl, hprev, hx], by rw [List.append_nil, hx]⟩
      | cons y ys =>
        have hend : (xs ++ y :: ys).getLast? = some t.tail := by
          rw [List.getLast?_append_of_ne_nil _ (List.cons_ne_nil p _),
            List.getLast?_cons_cons] at hlast
          rw [List.getLast?_append_of_ne_nil _ (List.cons_ne_nil y ys), hlast]
        refine ⟨t.tail, if_neg ?_, hend⟩
        rintro rfl
        have hin := List.mem_of_getLast? hend
        rw [← herase, hnodup.mem_erase_iff] at hin
        exact hin.1 rfl
    obtain ⟨tail, hcase, hlast⟩ := htail
    simp only [if_neg hsole, hcase]
    refine ⟨_, rfl, rfl, rfl, unlink_holds h.app hp, hlast, ?_, ?_⟩
    · rw [List.length_erase_of_mem hp]
      exact congrArg (· - 1) h.items
    · exact hC.delete hp hnodup rfl rfl rfl rfl

end Change

/-! The operations. -/

section Operations

variable {u : UtHash P} {L : TableEntries P} {p : P} {id : UInt16}

/-- An insertion for which there may be no memory. -/
def TableOp.starved : TableOp P → Bool
  | .insert _ _ memory => !memory
  | _ => false

theorem Represents.add (h : Represents u L) (hp : p ∉ L.map Prod.fst)
    (hid : id ∉ L.map Prod.snd) (memory : Bool) :
    (hashAdd u p id memory = .error .exit ∧ memory = false) ∨
      ∃ u', hashAdd u p id memory = .ok u' ∧ Represents u' (L ++ [(p, id)]) := by
  have hkeyed : ∀ e ∈ L ++ [(p, id)], Function.update u.key p id e.1 = e.2 ∧
      Function.update u.hashv p (hashJen id) e.1 = hashJen e.2 := by
    intro e he
    rcases List.mem_append.mp he with he | he
    · have hne : e.1 ≠ p := fun heq => hp (heq ▸ List.mem_map_of_mem he)
      rw [Function.update_of_ne hne, Function.update_of_ne hne]
      exact h.keyed e he
    · cases List.mem_singleton.mp he
      exact ⟨Function.update_self _ _ _, Function.update_self _ _ _⟩
  have hdistinct : ((L ++ [(p, id)]).map Prod.snd).Nodup := by
    rw [List.map_append, List.map_singleton, ← List.concat_eq_append]
    exact h.distinct.concat hid
  -- what a successful insertion leaves
  have hdone : ∀ {v : UtHash P} {t : HashTable P} {C : Nat → List P},
      v.key = Function.update u.key p id → v.hashv = Function.update u.hashv p (hashJen id) →
      v.app.Holds () (L.map Prod.fst ++ [p]) → t.tail = p → t.numItems = (L.map Prod.fst).length →
      Chained v t (L.map Prod.fst) C →
      (hashAddToTable v t p memory = .error .exit ∧ memory = false) ∨
        ∃ u', hashAddToTable v t p memory = .ok u' ∧ Represents u' (L ++ [(p, id)]) := by
    intro v t C hkey hhashv happ htail hitems hC
    rcases hashAddToTable_tabled happ htail hitems hC hp memory with
      hexit | ⟨u', t', hadd, htbl, hkey', hhashv', htabled⟩
    · exact .inl hexit
    · refine .inr ⟨u', hadd, ?_, hdistinct, ?_⟩
      · rw [hkey', hhashv', hkey, hhashv]
        exact hkeyed
      · rw [htbl, List.map_append]
        exact htabled
  have htable := h.table
  unfold hashAdd
  cases htbl : u.tbl with
  | none =>
    rw [htbl] at htable
    obtain ⟨hhead, rfl⟩ := htable
    simp only [hhead]
    cases memory with
    | false => exact .inl ⟨rfl, rfl⟩
    | true =>
      refine hdone (C := fun _ => []) rfl rfl ⟨⟨?_, ?_, ?_⟩, List.nodup_singleton p⟩ rfl rfl
        ⟨holdsAll_empty fun _ => rfl, fun b q => by simp, fun b => rfl, Nat.zero_lt_succ 31⟩
      · simp [hashFirst]
      · simp [hashFirst]
      · simp [hashFirst, Links.Path]
  | some t =>
    rw [htbl] at htable
    obtain ⟨C, hC⟩ := htable.chains
    obtain ⟨first, hfirst⟩ : ∃ first, u.app.head () = some first := by
      cases hL : L.map Prod.fst with
      | nil =>
        have hlast := htable.tail
        rw [hL] at hlast
        cases hlast
      | cons q rest => exact ⟨q, (Holds.head_eq htable.app).trans (by rw [hL]; rfl)⟩
    simp only [hfirst]
    refine hdone (C := C) rfl rfl (Holds.pushBack htable.app htable.tail hp) rfl htable.items
      ⟨hC.holds, fun b q => ?_, hC.counted, hC.size⟩
    rw [hC.placed]
    refine and_congr_right fun hq => ?_
    have hne : q ≠ p := fun heq => hp (heq ▸ hq)
    change _ ↔ hashToBkt (Function.update u.hashv p (hashJen id) q) t.numBuckets = b
    rw [Function.update_of_ne hne]

theorem erase_entries (hnodup : (L.map Prod.fst).Nodup) (p : P) :
    (L.map Prod.fst).erase p = (L.filter fun e => e.1 ≠ p).map Prod.fst := by
  rw [hnodup.erase_eq_filter, List.filter_map]
  congr 2
  funext e
  by_cases he : e.1 = p <;> simp [he]

theorem Represents.delete (h : Represents u L) (hp : p ∈ L.map Prod.fst) :
    ∃ u', hashDelete u p = .ok u' ∧ Represents u' (L.filter fun e => e.1 ≠ p) := by
  have htable := h.table
  cases htbl : u.tbl with
  | none =>
    rw [htbl] at htable
    rw [htable.2] at hp
    cases hp
  | some t =>
    rw [htbl] at htable
    obtain ⟨u', hdelete, hkey, hhashv, hafter⟩ := htable.delete htbl hp
    refine ⟨u', hdelete, ?_, ?_, ?_⟩
    · intro e he
      rw [hkey, hhashv]
      exact h.keyed e (List.mem_of_mem_filter he)
    · exact h.distinct.sublist (List.Sublist.map _ List.filter_sublist)
    · rw [erase_entries htable.app.2] at hafter
      cases htbl' : u'.tbl with
      | none =>
        rw [htbl'] at hafter
        exact ⟨hafter.1, List.map_eq_nil_iff.mp hafter.2⟩
      | some t' =>
        rw [htbl'] at hafter
        exact hafter

omit [DecidableEq P] in
theorem Represents.iter (h : Represents u L) :
    hashIter u ((u.tbl.map HashTable.numItems).getD 0) (u.app.head ()) =
      some (L.map Prod.fst) := by
  have htable := h.table
  cases htbl : u.tbl with
  | none =>
    rw [htbl] at htable
    obtain ⟨hhead, rfl⟩ := htable
    rw [hhead]
    rfl
  | some t =>
    rw [htbl] at htable
    exact hashIter_path htable.app.1 (Nat.le_of_eq htable.items.symm)

/-- Each operation answers as the list does, or ends the process for want of memory. -/
theorem Represents.op (h : Represents u L) {op : TableOp P} (allowed : op.Allowed L) :
    (tableOp u op = .error .exit ∧ op.starved = true) ∨
      ∃ u', tableOp u op = .ok (u', (listOp L op).2) ∧ Represents u' (listOp L op).1 := by
  cases op with
  | insert p id memory =>
    cases hfind : L.find? (fun e => e.2 == id) with
    | some e =>
      refine .inr ⟨u, ?_, ?_⟩
      · simp only [tableOp, listOp, h.find, hfind]
        rfl
      · simpa only [listOp, hfind] using h
    | none =>
      have hid : id ∉ L.map Prod.snd := by
        intro hin
        obtain ⟨e, he, rfl⟩ := List.mem_map.mp hin
        have := List.find?_eq_none.mp hfind e he
        simp at this
      rcases h.add allowed hid memory with ⟨hexit, rfl⟩ | ⟨u', hadd, hrep⟩
      · refine .inl ⟨?_, rfl⟩
        simp only [tableOp, h.find, hfind, Option.map_none, hexit]
        rfl
      · refine .inr ⟨u', ?_, ?_⟩
        · simp only [tableOp, listOp, h.find, hfind, Option.map_none, hadd]
          rfl
        · simpa only [listOp, hfind] using hrep
  | search id =>
    refine .inr ⟨u, ?_, h⟩
    simp only [tableOp, h.find]
    rfl
  | delete p =>
    obtain ⟨u', hdelete, hrep⟩ := h.delete allowed
    refine .inr ⟨u', ?_, hrep⟩
    simp only [tableOp, hdelete]
    rfl
  | iterate =>
    refine .inr ⟨u, ?_, h⟩
    simp only [tableOp, h.iter]
    rfl

end Operations

/-- The answers so far are part of the state. -/
def tableStep (s : UtHash P × List (TableAnswer P)) (op : TableOp P) :
    Except Halt (UtHash P × List (TableAnswer P)) :=
  (tableOp s.1 op).map fun (u, answer) => (u, s.2 ++ [answer])

/-- From an empty table on, whatever is inserted, searched, deleted and walked over, the chains with
their doubling answer as a list of the entries in the order of insertion does; a search ends, and
the process only ends where an insertion finds no memory. -/
theorem sessTable_refines {start : UtHash P} (hhead : start.app.head () = none)
    (htbl : start.tbl = none) (ops : List (TableOp P))
    (allowed : AllAnswered listOp TableOp.Allowed [] ops) :
    (run tableStep (start, []) ops = .error .exit ∧ ∃ op ∈ ops, op.starved = true) ∨
      ∃ u, run tableStep (start, []) ops = .ok (u, replies listOp [] ops) ∧
        Represents u (after listOp [] ops) := by
  have hrun : ∀ (ops : List (TableOp P)) {u : UtHash P} {L : TableEntries P}
      (answers : List (TableAnswer P)), Represents u L → AllAnswered listOp TableOp.Allowed L ops →
      (run tableStep (u, answers) ops = .error .exit ∧ ∃ op ∈ ops, op.starved = true) ∨
        ∃ u', run tableStep (u, answers) ops = .ok (u', answers ++ replies listOp L ops) ∧
          Represents u' (after listOp L ops) := by
    intro ops
    induction ops with
    | nil =>
      intro u L answers h _
      exact .inr ⟨u, by simp [run, replies], h⟩
    | cons op ops ih =>
      intro u L answers h hall
      rcases h.op hall.1 with ⟨hexit, hstarved⟩ | ⟨u', hop, hrep⟩
      · refine .inl ⟨?_, op, List.mem_cons_self, hstarved⟩
        simp only [run, tableStep, hexit]
        rfl
      · have hstep : tableStep (u, answers) op = .ok (u', answers ++ [(listOp L op).2]) := by
          simp only [tableStep, hop]
          rfl
        rw [run_cons_ok ops hstep]
        rcases ih (answers ++ [(listOp L op).2]) hrep hall.2 with
          ⟨hexit, op', hop', hstarved⟩ | ⟨u'', hrun, hrep'⟩
        · exact .inl ⟨hexit, op', List.mem_cons_of_mem op hop', hstarved⟩
        · refine .inr ⟨u'', ?_, hrep'⟩
          rw [hrun, List.append_assoc]
          rfl
  have hempty : Represents start ([] : TableEntries P) := by
    refine ⟨List.forall_mem_nil _, List.nodup_nil, ?_⟩
    rw [htbl]
    exact ⟨hhead, rfl⟩
  simpa using hrun ops [] hempty allowed

def blankHash : UtHash Nat :=
  { tbl := none, app := ⟨fun _ => none, fun _ => none, fun _ => none⟩
    chain := ⟨fun _ => none, fun _ => none, fun _ => none⟩, key := fun _ => 0, hashv := fun _ => 0 }

/-- An identifier is taken, given back, and taken by another session. -/
def reinserted : List (TableOp Nat) :=
  [.insert 0 7 true, .insert 1 7 true, .insert 2 9 true, .search 7, .delete 0, .search 7,
    .insert 3 7 true, .iterate]

theorem sessTable_refines_reinserted :
    ∃ u, run tableStep (blankHash, []) reinserted =
      .ok (u, [.status .ok, .status .error, .status .ok, .found (some 0), .done, .found none,
        .status .ok, .listed [2, 3]]) := by
  rcases sessTable_refines (show blankHash.app.head () = none from rfl) rfl reinserted
    ⟨by decide, by decide, by decide, by decide, by decide, by decide, by decide, by decide,
      trivial⟩ with ⟨-, op, hop, hstarved⟩ | ⟨u, hrun, -⟩
  · have hnone : ∀ op ∈ reinserted, op.starved = false := by decide
    rw [hnone op hop] at hstarved
    cases hstarved
  · exact ⟨u, hrun⟩

/-! The table of the engine. -/

/-- The entries that the engine's model of its table stands for. -/
def Engine.tableEntries (e : Engine) : TableEntries SessPtr :=
  e.htable.filterMap fun p => (e.heap p).map fun s => (p, s.backendSessId)

/-- A search of the engine is a search of the chains. -/
theorem Represents.lookup {u : UtHash SessPtr} {e : Engine} (h : Represents u e.tableEntries)
    (id : UInt16) : hashFind u id = .ok (e.lookup id) := by
  rw [h.find]
  congr 1
  unfold Engine.tableEntries Engine.lookup
  induction e.htable with
  | nil => rfl
  | cons p table ih =>
    cases hp : e.heap p with
    | none =>
      rw [List.filterMap_cons_none (by simp [hp]), List.find?_cons_of_neg (by simp [hp])]
      exact ih
    | some s =>
      rw [List.filterMap_cons]
      simp only [hp, Option.map_some]
      by_cases hid : s.backendSessId = id
      · rw [List.find?_cons_of_pos (by simp [hid]), List.find?_cons_of_pos (by simp [hp, hid])]
        rfl
      · rw [List.find?_cons_of_neg (by simp [hid]), List.find?_cons_of_neg (by simp [hp, hid])]
        exact ih

end BackendProxy.Pool
