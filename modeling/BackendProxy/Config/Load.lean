import BackendProxy.Config.IniParser
import BackendProxy.Lib.Entries
import BackendProxy.Lib.Lines

namespace BackendProxy.Config

open Lib Device

/-! What a configuration file says, line by line, and that the loader with its line buffer and its
dictionary finds just that. -/

/-- The entries of a file in the order in which their keys first came. -/
abbrev Entries := List (CString × Option CString)

/-- What the lines so far said. -/
structure Reading where
  sec : CString
  errs : Nat
  entries : Entries

def Reading.start : Reading := { sec := [], errs := 0, entries := [] }

/-- A later value takes the place of an earlier one, and a section may go on later. -/
def Reading.statement (r : Reading) (line : CString) : Reading :=
  match iniparserLine true r.sec line with
  | .empty | .comment => r
  | .section name => { r with sec := name, entries := assign name none r.entries }
  | .value key value => { r with entries := assign (fullKey r.sec key) (some value) r.entries }
  | .error => { r with errs := r.errs + 1 }

/-- Characters of a line, its end apart, for which the buffer has room. -/
def lineRoom : Nat := asciiLineSz - 2

def isLineEnd (c : Char) : Bool := c == '\n'

/-- Lines without the blanks behind them, those that end in a backslash joined to the next. There is
no result when a line finds no room. A file that ends in a lone character ends before it. -/
def joinLines : CString → List CString → Option (List CString)
  | _, [] => some []
  | kept, line :: lines =>
    if (kept ++ line).length ≤ 1 then joinLines kept lines
    else if lineRoom < (kept ++ line.rdropWhile isLineEnd).length then none
    else
      let whole := (kept ++ line).rdropWhile isSpace
      if whole.getLast? = some '\\' then joinLines whole.dropLast lines
      else (joinLines [] lines).map (whole :: ·)

def Reading.finish (r : Reading) : Option Entries := if r.errs = 0 then some r.entries else none

/-- What comes of further lines. -/
def Reading.goOn (r : Reading) (kept : CString) (lines : List CString) : Option Entries :=
  (joinLines kept lines).bind fun lines => (lines.foldl Reading.statement r).finish

/-- What a file says, if it says something. -/
def configuration (content : CString) : Option Entries :=
  Reading.start.goOn [] (cutBehind isLineEnd content)

/-! The dictionary of a loader has its entries in front. -/

def Slot.ofEntry (entry : CString × Option CString) : Slot :=
  { key := some entry.1, val := entry.2, hash := dictionaryHash entry.1 }

def slotsOf (entries : Entries) (free : Nat) : List Slot :=
  entries.map Slot.ofEntry ++ List.replicate free Slot.blank

structure Compact (d : Dictionary) (entries : Entries) : Prop where
  counted : d.n = entries.length
  nodup : (entries.map Prod.fst).Nodup
  slots : ∃ free, d.slots = slotsOf entries free
  nonempty : 0 < d.slots.length

section Compact

variable {d : Dictionary} {entries : Entries} {key : CString}

theorem ofEntry_holds (entry : CString × Option CString) :
    (Slot.ofEntry entry).holds key = true ↔ entry.1 = key := by
  simp only [Slot.ofEntry, Slot.holds, Bool.and_eq_true, beq_iff_eq]
  constructor
  · exact fun h => h.2.symm
  · rintro rfl
    exact ⟨rfl, rfl⟩

theorem length_slotsOf (entries : Entries) (free : Nat) :
    (slotsOf entries free).length = entries.length + free := by
  simp only [slotsOf, List.length_append, List.length_map, List.length_replicate]

theorem blank_holds : Slot.blank.holds key = false := rfl

theorem dictionaryNew_compact (size : Nat) : Compact (dictionaryNew size) [] :=
  ⟨rfl, List.nodup_nil, ⟨_, rfl⟩, (dictionaryNew_wellformed size).nonempty⟩

/-- The search loops see the entries only. -/
theorem find_entries (free : Nat) :
    ((slotsOf entries free).find? (Slot.holds key)).map Slot.val = entryAt key entries := by
  induction entries with
  | nil =>
    have hnone : (List.replicate free Slot.blank).find? (Slot.holds key) = none := by
      rw [List.find?_eq_none]
      intro s hs
      rw [List.eq_of_mem_replicate hs, blank_holds]
      exact Bool.false_ne_true
    change ((List.replicate free Slot.blank).find? (Slot.holds key)).map Slot.val = none
    rw [hnone]
    rfl
  | cons entry entries ih =>
    simp only [slotsOf, List.map_cons, List.cons_append, entryAt]
    by_cases hkey : entry.1 = key
    · rw [List.find?_cons_of_pos ((ofEntry_holds entry).mpr hkey), if_pos hkey]
      rfl
    · rw [List.find?_cons_of_neg (fun h => hkey ((ofEntry_holds entry).mp h)), if_neg hkey]
      exact ih

theorem Compact.find (h : Compact d entries) (key : CString) :
    dictionaryFind d key = entryAt key entries := by
  obtain ⟨free, hslots⟩ := h.slots
  unfold dictionaryFind
  rw [hslots]
  exact find_entries free

theorem Compact.keys (h : Compact d entries) : d.keys = entries.map Prod.fst := by
  obtain ⟨free, hslots⟩ := h.slots
  have hblank : (List.replicate free Slot.blank).filterMap Slot.key = [] := by
    rw [List.filterMap_eq_nil_iff]
    intro s hs
    rw [List.eq_of_mem_replicate hs]
    rfl
  unfold Dictionary.keys
  rw [hslots, slotsOf, List.filterMap_append, hblank, List.append_nil, List.filterMap_map]
  exact congrFun List.filterMap_eq_map entries

/-- Changing the value of a present key. -/
theorem modify_entries (rest : List Slot) (val : Option CString) {i : Nat}
    (hi : (entries.map Slot.ofEntry ++ rest).findIdx? (Slot.holds key) = some i)
    (hpresent : key ∈ entries.map Prod.fst) :
    (entries.map Slot.ofEntry ++ rest).modify i (fun s => { s with val }) =
      (assign key val entries).map Slot.ofEntry ++ rest := by
  induction entries generalizing i with
  | nil => cases hpresent
  | cons entry entries ih =>
    simp only [List.map_cons, List.cons_append, List.findIdx?_cons] at hi
    by_cases hkey : entry.1 = key
    · rw [if_pos ((ofEntry_holds entry).mpr hkey)] at hi
      cases hi
      simp [assign, hkey, Slot.ofEntry]
    · rw [if_neg (fun h => hkey ((ofEntry_holds entry).mp h)), Option.map_eq_some_iff] at hi
      obtain ⟨j, hj, rfl⟩ := hi
      have hrest : key ∈ entries.map Prod.fst := by
        rw [List.map_cons, List.mem_cons] at hpresent
        exact hpresent.resolve_left (Ne.symm hkey)
      simp only [assign, if_neg hkey, List.map_cons, List.cons_append, List.modify_succ_cons]
      rw [ih hj hrest]

/-- A present key is found, an absent one is not. -/
theorem search_entries (free : Nat) :
    (slotsOf entries free).findIdx? (Slot.holds key) = none ↔ key ∉ entries.map Prod.fst := by
  rw [← entryAt_eq_none_iff, ← find_entries free, Option.map_eq_none_iff, List.findIdx?_eq_none_iff,
    List.find?_eq_none]
  simp only [Bool.not_eq_true]

/-- A new entry goes to the first free slot. -/
theorem append_entry (entries : Entries) (key : CString) (val : Option CString) (free : Nat) :
    ∃ i, probe (slotsOf entries (free + 1)) (slotsOf entries (free + 1)).length entries.length =
        some i ∧
      (slotsOf entries (free + 1)).set i (Slot.ofEntry (key, val)) =
        slotsOf (entries ++ [(key, val)]) free := by
  have hat : (slotsOf entries (free + 1))[entries.length]? = some Slot.blank := by
    unfold slotsOf
    rw [List.getElem?_append_right (by simp)]
    simp
  refine ⟨entries.length, ?_, ?_⟩
  · rw [length_slotsOf, ← Nat.add_assoc]
    simp only [probe, hat]
    rfl
  · unfold slotsOf
    rw [List.set_append_right _ _ (by simp)]
    simp [List.replicate_succ]

theorem Compact.set (h : Compact d entries) (key : CString) (val : Option CString) :
    ∃ d', dictionarySet d key val plentyMemory = some (0, d') ∧
      Compact d' (assign key val entries) := by
  obtain ⟨hn, hnodup, ⟨free, hslots⟩, hpos⟩ := h
  have hval : val.bind (xstrdup plentyMemory.val) = val := by cases val <;> rfl
  have hsearch : (if d.n > 0 then d.slots.findIdx? (Slot.holds key) else none) =
      d.slots.findIdx? (Slot.holds key) := by
    split
    · rfl
    · rename_i hzero
      have hnil : entries = [] := List.length_eq_zero_iff.mp (by omega)
      rw [hslots, eq_comm, search_entries, hnil]
      exact List.not_mem_nil
  unfold dictionarySet
  simp only [hsearch, hval]
  by_cases hpresent : key ∈ entries.map Prod.fst
  · cases hi : d.slots.findIdx? (Slot.holds key) with
    | none => exact absurd hpresent ((search_entries free).mp (hslots ▸ hi))
    | some i =>
      rw [hslots] at hi
      refine ⟨_, rfl, ?_, nodup_assign hnodup, ⟨free, ?_⟩, ?_⟩
      · have hkeys : (assign key val entries).map Prod.fst = entries.map Prod.fst := by
          rw [assign_keys, if_pos hpresent, List.append_nil]
        have hlen := congrArg List.length hkeys
        rw [List.length_map, List.length_map] at hlen
        exact hn.trans hlen.symm
      · change d.slots.modify i _ = _
        rw [hslots]
        exact modify_entries _ val hi hpresent
      · change 0 < (d.slots.modify i _).length
        rw [List.length_modify]
        exact hpos
  · have hi : d.slots.findIdx? (Slot.holds key) = none := by
      rw [hslots]
      exact (search_entries free).mpr hpresent
    -- the arrays have a free slot at once or after they grew
    have hroom : ∃ free', (if d.n = d.slots.length then dictionaryGrow d plentyMemory.grow
        else some d) = some { d with slots := slotsOf entries (free' + 1) } := by
      by_cases hfull : d.n = d.slots.length
      · have hfree : free = 0 := by
          rw [hslots, hn, length_slotsOf] at hfull
          omega
        subst hfree
        refine ⟨d.slots.length - 1, ?_⟩
        rw [if_pos hfull, Nat.sub_add_cancel hpos, hslots]
        simp [dictionaryGrow, plentyMemory, hslots, slotsOf]
      · cases free with
        | zero => exact absurd (by rw [hslots, hn, length_slotsOf]; rfl) hfull
        | succ free =>
          refine ⟨free, ?_⟩
          rw [if_neg hfull, ← hslots]
    obtain ⟨free', hgrown⟩ := hroom
    obtain ⟨i, hprobe, hset⟩ := append_entry entries key val free'
    rw [← hn] at hprobe
    simp only [hi, hgrown, hprobe, Option.map_some]
    refine ⟨_, rfl, ?_, nodup_assign hnodup, ⟨free', ?_⟩, ?_⟩
    · rw [assign_new hpresent, List.length_append, hn]
      rfl
    · rw [assign_new hpresent, ← hset]
      rfl
    · change 0 < (List.set _ _ _).length
      rw [List.length_set, length_slotsOf]
      omega

end Compact

/-! The line buffer. -/

section Buffer

variable {body rest : CString} {n : Nat}

theorem isLineEnd_eq {c : Char} (h : isLineEnd c = true) : c = '\n' := eq_of_beq h

theorem not_lineEnd {c : Char} (h : isLineEnd c = false) : c ≠ '\n' := ne_of_beq_false h

theorem fgets_line (hbody : ∀ c ∈ body, isLineEnd c = false) (hfit : body.length < n) :
    fgets n (body ++ '\n' :: rest) = (body ++ ['\n'], rest) := by
  induction body generalizing n with
  | nil =>
    cases n with
    | zero => cases hfit
    | succ n => rfl
  | cons c body ih =>
    cases n with
    | zero => cases hfit
    | succ n =>
      have hc := not_lineEnd (hbody c List.mem_cons_self)
      have hrest := ih (fun x hx => hbody x (List.mem_cons_of_mem c hx))
        (Nat.lt_of_succ_lt_succ hfit)
      simp only [List.cons_append, fgets, if_neg hc, hrest]

theorem fgets_last (hbody : ∀ c ∈ body, isLineEnd c = false) (hfit : body.length ≤ n) :
    fgets n body = (body, []) := by
  induction body generalizing n with
  | nil => cases n <;> rfl
  | cons c body ih =>
    cases n with
    | zero => cases hfit
    | succ n =>
      have hc := not_lineEnd (hbody c List.mem_cons_self)
      have hrest := ih (fun x hx => hbody x (List.mem_cons_of_mem c hx))
        (Nat.le_of_succ_le_succ hfit)
      simp only [fgets, if_neg hc, hrest]

/-- A line that does not fit is cut where the buffer ends. -/
theorem fgets_full (hbody : ∀ c ∈ body, isLineEnd c = false) (hfull : n ≤ body.length) :
    fgets n (body ++ rest) = (body.take n, body.drop n ++ rest) := by
  induction n generalizing body with
  | zero => rfl
  | succ n ih =>
    cases body with
    | nil => cases hfull
    | cons c body =>
      have hc := not_lineEnd (hbody c List.mem_cons_self)
      have hrest := ih (fun x hx => hbody x (List.mem_cons_of_mem c hx))
        (Nat.le_of_succ_le_succ hfull)
      simp only [List.cons_append, fgets, if_neg hc, hrest]
      rfl

/-- Something is read as long as there is something. -/
theorem fgets_progress (n : Nat) (s : CString) (hs : s ≠ []) (hn : 0 < n) :
    (fgets n s).1.length ≤ n ∧ (fgets n s).2.length < s.length := by
  have hall : ∀ (n : Nat) (s : CString), (fgets n s).1.length ≤ n ∧
      (fgets n s).2.length ≤ s.length := by
    intro n
    induction n with
    | zero => exact fun s => ⟨Nat.le_refl 0, Nat.le_refl _⟩
    | succ n ih =>
      intro s
      cases s with
      | nil => exact ⟨Nat.zero_le _, Nat.le_refl _⟩
      | cons c s =>
        simp only [fgets]
        split
        · exact ⟨Nat.le_add_left 1 n, Nat.le_succ _⟩
        · exact ⟨Nat.succ_le_succ (ih s).1, Nat.le_succ_of_le (ih s).2⟩
  refine ⟨(hall n s).1, ?_⟩
  cases n with
  | zero => cases hn
  | succ n =>
    cases s with
    | nil => exact absurd rfl hs
    | cons c s =>
      simp only [fgets]
      split
      · exact Nat.lt_succ_self _
      · exact Nat.lt_succ_of_le (hall n s).2

theorem rdropWhile_line (hbody : ∀ c ∈ body, isLineEnd c = false) :
    (body ++ ['\n']).rdropWhile isLineEnd = body := by
  rw [List.rdropWhile_concat_pos _ _ _ (by rfl), List.rdropWhile_eq_self_iff]
  exact fun hne => by simp [hbody _ (List.getLast_mem hne)]

theorem getLast_ne_lineEnd (hbody : ∀ c ∈ body, isLineEnd c = false) :
    body.getLast? ≠ some '\n' := fun h => Bool.noConfusion (hbody _ (List.mem_of_getLast? h))

/-- The buffer holds the first line, or it is full of it. -/
theorem fgets_cases {content : CString} (hne : content ≠ []) :
    (∃ read rest, fgets n content = (read, rest) ∧
      cutBehind isLineEnd content = read :: cutBehind isLineEnd rest ∧ read ≠ [] ∧
      (read.getLast? = some '\n' ∨ feofAfter n read = true) ∧
      (read.rdropWhile isLineEnd).length < n ∧ read.length ≤ n) ∨
    ∃ read rest line lines, fgets n content = (read, rest) ∧ read.length = n ∧
      read.getLast? ≠ some '\n' ∧ cutBehind isLineEnd content = line :: lines ∧
      n ≤ (line.rdropWhile isLineEnd).length ∧ n ≤ line.length := by
  -- the line and what ends it, if anything does
  have hfull : ∀ (body rest line : CString) (lines : List CString), content = body ++ rest →
      (∀ c ∈ body, isLineEnd c = false) → n ≤ body.length →
      cutBehind isLineEnd content = line :: lines → line.rdropWhile isLineEnd = body →
      ∃ read rest line lines, fgets n content = (read, rest) ∧ read.length = n ∧
        read.getLast? ≠ some '\n' ∧ cutBehind isLineEnd content = line :: lines ∧
        n ≤ (line.rdropWhile isLineEnd).length ∧ n ≤ line.length := by
    intro body rest line lines hcontent hbody hover hcut hline
    refine ⟨body.take n, body.drop n ++ rest, line, lines, hcontent ▸ fgets_full hbody hover,
      List.length_take_of_le hover, ?_, hcut, hline ▸ hover, ?_⟩
    · exact getLast_ne_lineEnd fun c hc => hbody c (List.mem_of_mem_take hc)
    · have := (List.rdropWhile_prefix isLineEnd line).length_le
      rw [hline] at this
      omega
  rcases first_line isLineEnd content with ⟨body, c, rest, hcontent, hbody, hc⟩ | hall
  · cases isLineEnd_eq hc
    have hcut : cutBehind isLineEnd (body ++ '\n' :: rest) =
        (body ++ ['\n']) :: cutBehind isLineEnd rest := cutBehind_line hbody hc
    rw [← hcontent] at hcut
    by_cases hfit : body.length < n
    · refine .inl ⟨body ++ ['\n'], rest, hcontent ▸ fgets_line hbody hfit, hcut, by simp,
        .inl List.getLast?_concat, ?_, ?_⟩
      · rwa [rdropWhile_line hbody]
      · rw [List.length_append]
        exact hfit
    · exact .inr (hfull body _ _ _ hcontent hbody (by omega) hcut (rdropWhile_line hbody))
  · have hcut := cutBehind_last hall hne
    have hself : content.rdropWhile isLineEnd = content := by
      rw [List.rdropWhile_eq_self_iff]
      exact fun h => by simp [hall _ (List.getLast_mem h)]
    by_cases hfit : content.length < n
    · refine .inl ⟨content, [], fgets_last hall (Nat.le_of_lt hfit), hcut, hne, .inr ?_,
        hself.symm ▸ hfit, Nat.le_of_lt hfit⟩
      rw [feofAfter, decide_eq_true hfit]
      exact bne_iff_ne.mpr (getLast_ne_lineEnd hall)
    · exact .inr (hfull content [] _ _ (List.append_nil _).symm hall (by omega) hcut hself)

end Buffer

/-! The loop. -/

section Loop

variable {l : Loader} {r : Reading} {memory : LineMemory} {read : CString} {feof : Bool}

/-- The loop stands where the reading does. -/
structure Loader.Reads (l : Loader) (r : Reading) : Prop where
  sec : l.sec = r.sec
  errs : l.errs = r.errs
  dict : Compact l.dict r.entries
  arrays : l.arrays = plentyArrays

/-- What the loader returns for a file that says something, and for one that does not. -/
inductive Loads : Loaded → Option Entries → Prop where
  | null : Loads .null none
  | dictionary {d : Dictionary} {entries : Entries} (h : Compact d entries) :
      Loads (.dictionary d) (some entries)

theorem Loader.Reads.entry (h : l.Reads r) (key : CString) (val : Option CString) :
    ∃ l', loadEntry plentyMemory l key val = some (.next l') ∧ l'.kept = l.kept ∧
      l'.Reads { r with entries := assign key val r.entries } := by
  obtain ⟨d, hset, hd⟩ := h.dict.set key val
  refine ⟨{ l with dict := d }, ?_, rfl, h.sec, h.errs, hd, h.arrays⟩
  simp only [loadEntry, h.arrays, hset]
  rfl

theorem Loader.Reads.statement (h : l.Reads r) (line : CString) :
    ∃ l', loadStatement .plenty l line = some (.next l') ∧ l'.kept = l.kept ∧
      l'.Reads (r.statement line) := by
  have hline : LineMemory.plenty.line = true := rfl
  unfold loadStatement Reading.statement
  rw [h.sec, hline]
  cases iniparserLine true r.sec line with
  | empty => exact ⟨l, rfl, rfl, h⟩
  | comment => exact ⟨l, rfl, rfl, h⟩
  | «section» name =>
    exact Loader.Reads.entry (l := { l with sec := name }) (r := { r with sec := name })
      ⟨rfl, h.errs, h.dict, h.arrays⟩ name none
  | value key value => exact h.entry (fullKey r.sec key) (some value)
  | error => exact ⟨_, rfl, rfl, rfl, congrArg (· + 1) h.errs, h.dict, h.arrays⟩

theorem loadLine_whole (hlong : 1 < (l.kept ++ read).length)
    (hin : (l.kept ++ read).getLast? = some '\n' ∨ feof = true) :
    loadLine memory l read feof =
      if ((l.kept ++ read).rdropWhile isSpace).getLast? = some '\\' then
        some (.next { l with kept := ((l.kept ++ read).rdropWhile isSpace).dropLast })
      else loadStatement memory { l with kept := [] } ((l.kept ++ read).rdropWhile isSpace) := by
  unfold loadLine
  rw [if_neg (by omega), if_neg]
  rintro ⟨hlast, hfeof⟩
  rcases hin with hin | hin
  · exact hlast hin
  · rw [hin] at hfeof
    cases hfeof

/-- A line within the buffer is handled as its reading says. -/
theorem Loader.Reads.line (h : l.Reads r) {line : CString} (lines : List CString)
    (hlong : 1 < (l.kept ++ line).length)
    (hin : (l.kept ++ line).getLast? = some '\n' ∨ feof = true)
    (hfit : (l.kept ++ line.rdropWhile isLineEnd).length ≤ lineRoom) :
    ∃ l' r', loadLine .plenty l line feof = some (.next l') ∧ l'.Reads r' ∧
      l'.kept.length < (l.kept ++ line).length ∧
      r.goOn l.kept (line :: lines) = r'.goOn l'.kept lines := by
  have hjoin : joinLines l.kept (line :: lines) =
      if ((l.kept ++ line).rdropWhile isSpace).getLast? = some '\\' then
        joinLines ((l.kept ++ line).rdropWhile isSpace).dropLast lines
      else (joinLines [] lines).map (((l.kept ++ line).rdropWhile isSpace) :: ·) := by
    rw [joinLines, if_neg (by omega), if_neg (by omega)]
  have hle : ((l.kept ++ line).rdropWhile isSpace).length ≤ (l.kept ++ line).length :=
    (List.rdropWhile_prefix _ _).length_le
  rw [loadLine_whole hlong hin]
  unfold Reading.goOn
  rw [hjoin]
  split
  · refine ⟨_, r, rfl, ⟨h.sec, h.errs, h.dict, h.arrays⟩, ?_, rfl⟩
    rw [List.length_dropLast]
    omega
  · obtain ⟨l', hl', hkept, hreads⟩ := Loader.Reads.statement (l := { l with kept := [] })
      ⟨h.sec, h.errs, h.dict, h.arrays⟩ ((l.kept ++ line).rdropWhile isSpace)
    refine ⟨l', _, hl', hreads, ?_, ?_⟩
    · rw [hkept]
      exact Nat.lt_trans Nat.zero_lt_one hlong
    · rw [hkept]
      cases joinLines [] lines <;> rfl

/-- What was read is handled so, also when it is too short to be looked at. -/
theorem Loader.Reads.step (h : l.Reads r) (lines : List CString) (hne : read ≠ [])
    (hin : read.getLast? = some '\n' ∨ feof = true)
    (hfit : (l.kept ++ read.rdropWhile isLineEnd).length ≤ lineRoom) :
    ∃ l' r', loadLine .plenty l read feof = some (.next l') ∧ l'.Reads r' ∧
      l'.kept.length < (l.kept ++ read).length ∧
      r.goOn l.kept (read :: lines) = r'.goOn l'.kept lines := by
  by_cases hshort : (l.kept ++ read).length ≤ 1
  · refine ⟨l, r, ?_, h, ?_, ?_⟩
    · unfold loadLine
      rw [if_pos hshort]
    · rw [List.length_append]
      exact Nat.lt_add_of_pos_right (List.length_pos_iff.mpr hne)
    · unfold Reading.goOn
      rw [joinLines, if_pos hshort]
  · have hlast := List.getLast?_append_of_ne_nil l.kept hne
    exact h.line lines (Nat.lt_of_not_le hshort) (hin.imp_left hlast.trans) hfit

theorem goOn_tooLong {kept line : CString} (lines : List CString)
    (hfull : lineRoom < (kept ++ line.rdropWhile isLineEnd).length)
    (hlong : 1 < (kept ++ line).length) : r.goOn kept (line :: lines) = none := by
  unfold Reading.goOn
  rw [joinLines, if_neg (by omega), if_pos hfull]
  rfl

theorem loadLine_tooLong (hlong : 1 < (l.kept ++ read).length)
    (hin : (l.kept ++ read).getLast? ≠ some '\n') :
    loadLine memory l read false = some .tooLong := by
  unfold loadLine
  rw [if_neg (by omega), if_pos ⟨hin, rfl⟩]

theorem loadLines_end (memory : Nat → LineMemory) (fuel lineno : Nat) (l : Loader) :
    loadLines memory fuel lineno [] l = l.finish := by
  cases fuel <;> rfl

theorem loadLines_step {memory : Nat → LineMemory} {fuel lineno : Nat}
    {content rest : CString} (hne : content ≠ [])
    (hread : fgets (asciiLineSz - l.kept.length - 1) content = (read, rest)) :
    loadLines memory (fuel + 1) lineno content l =
      match loadLine (memory lineno) l read
        (feofAfter (asciiLineSz - l.kept.length - 1) read) with
      | none => none
      | some (.next l) => loadLines memory fuel (lineno + 1) rest l
      | some .tooLong => l.delete
      | some (.outOfMemory l) => l.finish := by
  cases content with
  | nil => exact absurd rfl hne
  | cons c s =>
    have hstep := loadLines.eq_def memory (fuel + 1) lineno (c :: s) l
    simp only [hread] at hstep
    exact hstep

theorem Loader.Reads.delete (h : l.Reads r) : l.delete = some .null := by
  unfold Loader.delete
  rw [h.arrays]
  rfl

theorem Loader.Reads.finish (h : l.Reads r) :
    ∃ result, l.finish = some result ∧ Loads result (r.goOn l.kept (cutBehind isLineEnd [])) := by
  change ∃ result, l.finish = some result ∧ Loads result r.finish
  unfold Loader.finish Reading.finish
  rw [h.errs, h.delete, h.arrays]
  split
  · exact ⟨_, rfl, .dictionary h.dict⟩
  · exact ⟨_, rfl, .null⟩

/-- With memory for everything the loop finds what its text says. -/
theorem loadLines_reads (fuel : Nat) {lineno : Nat} {content : CString} (h : l.Reads r)
    (hkept : l.kept.length ≤ lineRoom) (hfuel : content.length ≤ fuel) :
    ∃ result, loadLines LoadMemory.plenty.lines fuel lineno content l = some result ∧
      Loads result (r.goOn l.kept (cutBehind isLineEnd content)) := by
  induction fuel generalizing lineno content l r with
  | zero =>
    rw [List.length_eq_zero_iff.mp (Nat.le_zero.mp hfuel), loadLines_end]
    exact h.finish
  | succ fuel ih =>
    by_cases hne : content = []
    · rw [hne, loadLines_end]
      exact h.finish
    have hroom : asciiLineSz - l.kept.length - 1 + l.kept.length = lineRoom + 1 := by
      unfold lineRoom asciiLineSz at *
      omega
    have hpos : 0 < asciiLineSz - l.kept.length - 1 := by omega
    rcases fgets_cases hne with
      ⟨read, rest, hread, hcut, hsome, hin, hfit, hle⟩ |
      ⟨read, rest, line, lines, hread, hfull, hend, hcut, hline, hlong⟩
    · have hprogress : rest.length < content.length := by
        have := (fgets_progress _ content hne hpos).2
        rwa [hread] at this
      obtain ⟨l', r', hnext, hreads, hkept', hgo⟩ := h.step (cutBehind isLineEnd rest) hsome hin
        (by rw [List.length_append]; omega)
      rw [List.length_append] at hkept'
      have hplenty : LoadMemory.plenty.lines lineno = .plenty := rfl
      rw [loadLines_step hne hread, hcut, hgo, hplenty, hnext]
      exact ih hreads (by omega) (by omega)
    · have hlen : 1 < lineRoom + 1 := by decide
      have hnone : r.goOn l.kept (line :: lines) = none := by
        apply goOn_tooLong
        · rw [List.length_append]
          omega
        · rw [List.length_append]
          omega
      have htoo : loadLine .plenty l read false = some .tooLong := by
        apply loadLine_tooLong
        · rw [List.length_append]
          omega
        · rwa [List.getLast?_append_of_ne_nil _ (List.ne_nil_of_length_pos (by omega))]
      refine ⟨.null, ?_, ?_⟩
      · rw [loadLines_step hne hread, feofAfter, hfull, decide_eq_false (Nat.lt_irrefl _),
          Bool.false_and, show LoadMemory.plenty.lines lineno = .plenty from rfl, htoo]
        exact h.delete
      · rw [hcut, hnone]
        exact .null

/-! With all arrays there the loop ends, whatever memory the lines find. -/

/-- The arrays are there and in order, and the buffer has room for a line. -/
structure Loader.Sound (l : Loader) : Prop where
  dict : Wellformed l.dict
  arrays : l.arrays.whole = true
  kept : l.kept.length ≤ lineRoom

theorem Loader.Sound.finish (h : l.Sound) : ∃ result, l.finish = some result := by
  have hwhole := h.arrays
  simp only [Arrays.whole, Bool.and_eq_true] at hwhole
  unfold Loader.finish Loader.delete Arrays.deletable
  rw [hwhole.1.1, hwhole.1.2]
  split <;> exact ⟨_, rfl⟩

theorem Loader.Sound.delete (h : l.Sound) : l.delete = some .null := by
  have hwhole := h.arrays
  simp only [Arrays.whole, Bool.and_eq_true] at hwhole
  unfold Loader.delete Arrays.deletable
  rw [hwhole.1.1, hwhole.1.2]
  rfl

end Loop

/-! Files. -/

theorem start_reads : (Loader.start plentyArrays).Reads .start :=
  ⟨rfl, rfl, dictionaryNew_compact 0, rfl⟩

/-- A file with a meaning becomes a dictionary of its entries; one without becomes none. -/
theorem load_compact (content : CString) :
    ∃ result, iniparserLoad (some content) .plenty = some result ∧
      Loads result (configuration content) :=
  loadLines_reads content.length start_reads (Nat.zero_le _) (Nat.le_refl _)

/-- The keys that stand for sections. -/
def sectionsOf (entries : Entries) : List CString :=
  (entries.map Prod.fst).filter fun key => !key.contains ':'

/-- A section that goes on later, a value given twice, and a line in two parts. -/
example : configuration "[Can]\nbaud=1\n[lora]\n# x\n[can]\nbaud = \\\n 2 ; y\n".toList =
    some [("can".toList, none), ("can:baud".toList, some "2".toList), ("lora".toList, none)] := by
  decide +kernel

end BackendProxy.Config
