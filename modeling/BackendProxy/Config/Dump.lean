import BackendProxy.Config.Load

namespace BackendProxy.Config

open Lib Device

/-! Dictionaries written to a file, and read back from it. -/

/-- The entries in the order of their slots. -/
def Dictionary.entries (d : Dictionary) : Entries :=
  d.slots.filterMap fun s => s.key.map fun key => (key, s.val)

def iniparserFindEntry (d : Dictionary) (entry : CString) : Bool := (iniparserFind d entry).isSome

/-- `%-30s` -/
def padKey (key : CString) : CString := key ++ List.replicate (30 - key.length) ' '

/-- `%-30s = %s\n` -/
def dumpEntry (key val : CString) : CString := padKey key ++ [' ', '=', ' '] ++ val ++ ['\n']

/-- The keys of a section begin with its name and a colon. -/
def dumpKeys (s : CString) (entries : Entries) : CString :=
  entries.flatMap fun entry =>
    if (s ++ [':']).isPrefixOf entry.1 then
      dumpEntry (entry.1.drop (s.length + 1)) (entry.2.getD [])
    else []

def iniparserDumpsectionIni (d : Dictionary) (s : CString) : CString :=
  if iniparserFindEntry d s then
    ['\n', '['] ++ s ++ [']', '\n'] ++ dumpKeys s d.entries ++ ['\n']
  else []

/-- Without sections the entries are written as they are, a null pointer as `(null)`. -/
def iniparserDumpIni (d : Dictionary) : CString :=
  let nsec := iniparserGetnsec d
  if nsec < 1 then
    d.entries.flatMap fun entry =>
      entry.1 ++ [' ', '=', ' '] ++ entry.2.getD "(null)".toList ++ ['\n']
  else
    ((List.range nsec).flatMap fun i =>
      match iniparserGetsecname d i with
      | none => []
      | some secname => iniparserDumpsectionIni d secname) ++ ['\n']

/-! What can be written so that it can be read. -/

/-- No blank at either end. -/
structure Trimmed (s : CString) : Prop where
  front : ∀ c, s.head? = some c → isSpace c = false
  back : ∀ c, s.getLast? = some c → isSpace c = false

structure PrintableSection (s : CString) : Prop where
  nonempty : s ≠ []
  trimmed : Trimmed s
  lower : s.map Char.toLower = s
  plain : ∀ c ∈ s, c ≠ ':' ∧ c ≠ ']' ∧ c ≠ '\n'
  short : s.length + 2 ≤ lineRoom

structure PrintableKey (key : CString) : Prop where
  nonempty : key ≠ []
  trimmed : Trimmed key
  lower : key.map Char.toLower = key
  plain : ∀ c ∈ key, c ≠ '=' ∧ c ≠ '\n'
  statement : ∀ c, key.head? = some c → c ≠ '#' ∧ c ≠ ';' ∧ c ≠ '['

structure PrintableValue (val : CString) : Prop where
  trimmed : Trimmed val
  plain : ∀ c ∈ val, c ≠ ';' ∧ c ≠ '#' ∧ c ≠ '\n'
  unquoted : ∀ c, val.head? = some c → c ≠ '"' ∧ c ≠ '\''
  complete : val.getLast? ≠ some '\\'

/-- Sections have no value, and the other keys belong to sections and have one. -/
def Printable (entries : Entries) : Prop :=
  ∀ entry ∈ entries, (PrintableSection entry.1 ∧ entry.2 = none) ∨
    ∃ s key val, entry = (fullKey s key, some val) ∧ (s, none) ∈ entries ∧ PrintableKey key ∧
      PrintableValue val ∧ (padKey key).length + 3 + val.length ≤ lineRoom

/-! The parser on what was written. -/

section Scan

variable {p : Char → Bool} {item rest s : CString}

theorem takeWhile_stop (hitem : ∀ c ∈ item, p c = true)
    (hstop : ∀ c, rest.head? = some c → p c = false) :
    (item ++ rest).takeWhile p = item ∧ (item ++ rest).dropWhile p = rest := by
  rw [List.takeWhile_append_of_pos hitem, List.dropWhile_append_of_pos hitem]
  cases rest with
  | nil => simp
  | cons c rest =>
    have hc := hstop c rfl
    simp [hc]

/-- A set reads the characters in front that are in it. -/
theorem scanSet_stop (hitem : ∀ c ∈ item, p c = true) (hne : item ≠ [])
    (hstop : ∀ c, rest.head? = some c → p c = false) :
    scanSet p (item ++ rest) = some (item, rest) := by
  obtain ⟨htake, hdrop⟩ := takeWhile_stop hitem hstop
  unfold scanSet
  rw [htake, hdrop]
  cases item with
  | nil => exact absurd rfl hne
  | cons c item => rfl

theorem skipBlanks_front (h : ∀ c, s.head? = some c → isSpace c = false) : skipBlanks s = s := by
  cases s with
  | nil => rfl
  | cons c s => exact List.dropWhile_cons_of_neg (by rw [h c rfl]; exact Bool.false_ne_true)

theorem rdropWhile_back (h : ∀ c, s.getLast? = some c → isSpace c = false) :
    s.rdropWhile isSpace = s := by
  rw [List.rdropWhile_eq_self_iff]
  intro hne
  rw [h _ (List.getLast?_eq_some_getLast hne)]
  exact Bool.false_ne_true

theorem rdropWhile_blanks {blanks : CString} (hblanks : ∀ c ∈ blanks, isSpace c = true) :
    (s ++ blanks).rdropWhile isSpace = s.rdropWhile isSpace := by
  induction blanks using List.reverseRecOn with
  | nil => rw [List.append_nil]
  | append_singleton blanks c ih =>
    rw [← List.append_assoc, List.rdropWhile_concat_pos _ _ _ (hblanks c (by simp))]
    exact ih fun x hx => hblanks x (List.mem_append_left _ hx)

theorem Trimmed.strstrip (h : Trimmed s) : strstrip s = s := by
  unfold Config.strstrip
  rw [show s.dropWhile isSpace = s from skipBlanks_front h.front]
  exact rdropWhile_back h.back

/-- Blanks behind a name are taken off. -/
theorem Trimmed.strstrip_blanks (h : Trimmed s) (hne : s ≠ []) {blanks : CString}
    (hblanks : ∀ c ∈ blanks, isSpace c = true) : Config.strstrip (s ++ blanks) = s := by
  have hfront : ∀ c, (s ++ blanks).head? = some c → isSpace c = false := by
    intro c hc
    rw [List.head?_append_of_ne_nil _ hne] at hc
    exact h.front c hc
  unfold Config.strstrip
  rw [show (s ++ blanks).dropWhile isSpace = s ++ blanks from skipBlanks_front hfront,
    rdropWhile_blanks hblanks]
  exact rdropWhile_back h.back

theorem strlwc_lower (h : s.map Char.toLower = s) {len : Nat} (hlen : s.length < len) :
    strlwc s len = s := by
  unfold strlwc
  rw [List.take_of_length_le (by omega)]
  exact h

/-- The directives up to the value. -/
theorem scanKey_stop (hitem : ∀ c ∈ item, c ≠ '=') (hne : item ≠ []) :
    scanKey (item ++ '=' :: rest) = some (item, skipBlanks rest) := by
  have hset : scanSet (· != '=') (item ++ '=' :: rest) = some (item, '=' :: rest) := by
    apply scanSet_stop _ hne
    · intro c hc
      cases hc
      rfl
    · exact fun c hc => bne_iff_ne.mpr (hitem c hc)
  have hskip : skipBlanks ('=' :: rest) = '=' :: rest := by
    apply skipBlanks_front
    intro c hc
    cases hc
    rfl
  simp only [scanKey, hset, Option.bind_eq_bind, Option.bind_some, hskip, scanChar]
  rfl

theorem scanQuoted_none (hitem : ∀ c ∈ item, c ≠ '=') (hne : item ≠ []) {quote : Char}
    (hrest : ∀ c, (skipBlanks rest).head? = some c → c ≠ quote) :
    scanQuoted quote (item ++ '=' :: rest) = none := by
  have hchar : scanChar quote (skipBlanks rest) = none := by
    cases hr : skipBlanks rest with
    | nil => rfl
    | cons c more => exact if_neg (hrest c (by rw [hr]; rfl))
  simp only [scanQuoted, scanKey_stop hitem hne, Option.bind_eq_bind, Option.bind_some, hchar,
    Option.bind_none]

end Scan

/-! The lines of a dump. -/

section Lines

variable {s key val : CString}

theorem padKey_blanks (key : CString) :
    ∃ blanks, padKey key ++ [' '] = key ++ blanks ∧ ∀ c ∈ blanks, c = ' ' := by
  refine ⟨List.replicate (30 - key.length) ' ' ++ [' '], by simp [padKey], ?_⟩
  intro c hc
  rcases List.mem_append.mp hc with hc | hc
  · exact List.eq_of_mem_replicate hc
  · exact List.mem_singleton.mp hc

/-- `[section]` -/
theorem section_line (h : PrintableSection s) (sec : CString) :
    iniparserLine true sec ('[' :: (s ++ [']'])) = .section s := by
  have htrimmed : Trimmed ('[' :: (s ++ [']'])) := by
    constructor
    · intro c hc
      cases hc
      rfl
    · intro c hc
      rw [← List.cons_append, List.getLast?_concat] at hc
      cases hc
      rfl
  have hscan : scanSet (· != ']') (s ++ [']']) = some (s, [']']) := by
    apply scanSet_stop _ h.nonempty
    · intro c hc
      cases hc
      rfl
    · exact fun c hc => bne_iff_ne.mpr (h.plain c hc).2.1
  have hlast : ('[' :: (s ++ [']'])).getLast? = some ']' := by
    rw [← List.cons_append, List.getLast?_concat]
  have hname : strlwc (strstrip s) ('[' :: (s ++ [']'])).length = s := by
    rw [h.trimmed.strstrip]
    apply strlwc_lower h.lower
    rw [List.length_cons, List.length_append]
    omega
  unfold iniparserLine
  simp only [if_true, htrimmed.strstrip, List.head?_cons, hlast, List.drop_succ_cons,
    List.drop_zero, hscan, hname]
  simp

/-- What is left of a line of an entry when the blanks behind it are gone. -/
def entryText (key val : CString) : CString :=
  if val = [] then padKey key ++ [' ', '='] else padKey key ++ [' ', '=', ' '] ++ val

theorem entryText_last (key val : CString) :
    (entryText key val).getLast? = if val = [] then some '=' else val.getLast? := by
  unfold entryText
  split
  · rw [show padKey key ++ [' ', '='] = (padKey key ++ [' ']) ++ ['='] by simp,
      List.getLast?_concat]
  · rename_i hne
    exact List.getLast?_append_of_ne_nil _ hne

theorem entryText_back (hval : Trimmed val) :
    ∀ c, (entryText key val).getLast? = some c → isSpace c = false := by
  intro c hc
  rw [entryText_last] at hc
  split at hc
  · cases hc
    rfl
  · exact hval.back c hc

theorem entryText_eq (hval : Trimmed val) :
    (padKey key ++ [' ', '=', ' '] ++ val).rdropWhile isSpace = entryText key val := by
  have hblanks : (padKey key ++ [' ', '=', ' '] ++ val).rdropWhile isSpace =
      (entryText key val).rdropWhile isSpace := by
    unfold entryText
    split
    · rename_i hempty
      rw [show padKey key ++ [' ', '=', ' '] ++ val = (padKey key ++ [' ', '=']) ++ [' '] by
        simp [hempty], rdropWhile_blanks (by simp [isSpace])]
    · rfl
  rw [hblanks]
  exact rdropWhile_back (entryText_back hval)

/-- The name in front of an equals sign, and what comes behind it. -/
theorem entryText_split (key : CString) (hval : Trimmed val) :
    ∃ rest, entryText key val = (padKey key ++ [' ']) ++ '=' :: rest ∧ skipBlanks rest = val ∧
      (val = [] → rest = []) := by
  unfold entryText
  split
  · rename_i hempty
    exact ⟨[], by simp, hempty.symm, fun _ => rfl⟩
  · rename_i hne
    refine ⟨' ' :: val, by simp, ?_, fun h => absurd h hne⟩
    rw [show skipBlanks (' ' :: val) = skipBlanks val from rfl, skipBlanks_front hval.front]

theorem entry_line (hk : PrintableKey key) (hv : PrintableValue val) (sec : CString) :
    iniparserLine true sec (entryText key val) = .value key val := by
  obtain ⟨blanks, hpad, hblanks⟩ := padKey_blanks key
  obtain ⟨rest, hsplit, hrest, hempty⟩ := entryText_split key hv.trimmed
  have hname : ∀ c ∈ padKey key ++ [' '], c ≠ '=' := by
    intro c hc
    rw [hpad] at hc
    rcases List.mem_append.mp hc with hc | hc
    · exact (hk.plain c hc).1
    · rw [hblanks c hc]
      decide
  have hne : padKey key ++ [' '] ≠ [] := List.append_ne_nil_of_right_ne_nil _ (List.cons_ne_nil _ _)
  have hhead : (entryText key val).head? = key.head? := by
    rw [hsplit, hpad, List.append_assoc, List.head?_append_of_ne_nil _ hk.nonempty]
  have htrimmed : Trimmed (entryText key val) := by
    constructor
    · rw [hhead]
      exact hk.trimmed.front
    · exact entryText_back hv.trimmed
  have hstrip : strstrip (padKey key ++ [' ']) = key := by
    rw [hpad]
    apply hk.trimmed.strstrip_blanks hk.nonempty
    intro c hc
    rw [hblanks c hc]
    rfl
  have hlower : strlwc key (entryText key val).length = key := by
    apply strlwc_lower hk.lower
    rw [hsplit, hpad, List.length_append, List.length_append, List.length_cons]
    omega
  have hquoted : ∀ quote : Char, (quote = '"' ∨ quote = '\'') →
      scanQuoted quote (entryText key val) = none := by
    intro quote hquote
    rw [hsplit]
    apply scanQuoted_none hname hne
    intro c hc
    rw [hrest] at hc
    rcases hquote with rfl | rfl
    · exact (hv.unquoted c hc).1
    · exact (hv.unquoted c hc).2
  have hstart : entryText key val ≠ [] ∧ (∀ c, (entryText key val).head? = some c →
      c ≠ '#' ∧ c ≠ ';' ∧ c ≠ '[') := by
    refine ⟨?_, hhead ▸ hk.statement⟩
    rw [hsplit]
    exact List.append_ne_nil_of_right_ne_nil _ (List.cons_ne_nil _ _)
  have hcomment : ¬ ((entryText key val).head? = some '#' ∨ (entryText key val).head? = some ';') :=
    fun h => h.elim (fun h => (hstart.2 _ h).1 rfl) fun h => (hstart.2 _ h).2.1 rfl
  have hsection : ¬ ((entryText key val).head? = some '[' ∧
      (entryText key val).getLast? = some ']') := fun h => (hstart.2 _ h.1).2.2 rfl
  have hparts := iniparserLine.eq_def true sec (entryText key val)
  simp only [if_true, htrimmed.strstrip, if_neg hstart.1, if_neg hcomment, if_neg hsection,
    hquoted _ (.inl rfl), hquoted _ (.inr rfl), Option.none_or] at hparts
  rw [hparts]
  have hkey : scanKey (entryText key val) = some (padKey key ++ [' '], val) := by
    rw [hsplit, scanKey_stop hname hne, hrest]
  by_cases hnil : val = []
  · subst hnil
    have hplain : scanPlain (entryText key []) = none := by
      simp only [scanPlain, hkey]
      rfl
    have hcommented : scanComment (entryText key []) = none := by
      simp only [scanComment, hkey]
      rfl
    have hbare : scanBare (entryText key []) = some (padKey key ++ [' ']) := by
      have hset : scanSet (· != '=') ((padKey key ++ [' ']) ++ ['=']) =
          some (padKey key ++ [' '], ['=']) := by
        apply scanSet_stop _ hne
        · intro c hc
          cases hc
          rfl
        · exact fun c hc => bne_iff_ne.mpr (hname c hc)
      rw [hsplit, hempty rfl]
      simp only [scanBare, hset]
      rfl
    simp only [hplain, hcommented, hbare, Option.none_or, hstrip, hlower]
  · have hset : scanSet (fun c => c != ';' && c != '#') val = some (val, []) := by
      have h : scanSet (fun c => c != ';' && c != '#') (val ++ []) = some (val, []) :=
        scanSet_stop (fun c hc => by simp [hv.plain c hc]) hnil nofun
      rwa [List.append_nil] at h
    have hplain : scanPlain (entryText key val) = some (padKey key ++ [' '], val) := by
      simp only [scanPlain, hkey, Option.bind_eq_bind, Option.bind_some, hset]
    have hquotes : ¬ (val = ['"', '"'] ∨ val = ['\'', '\'']) := by
      rintro (rfl | rfl)
      · exact (hv.unquoted _ rfl).1 rfl
      · exact (hv.unquoted _ rfl).2 rfl
    simp only [hplain, hv.trimmed.strstrip, if_neg hquotes, hstrip, hlower]

end Lines

/-! What the loader makes of the lines of a dump. -/

section Reading

variable {r : Reading} {s key val body : CString} {lines : List CString} {entries : Entries}

theorem goOn_blank : r.goOn [] (['\n'] :: lines) = r.goOn [] lines := by
  unfold Reading.goOn
  rw [joinLines, if_pos (by decide)]

theorem goOn_text (hne : body ≠ []) (hbody : ∀ c ∈ body, isLineEnd c = false)
    (hshort : body.length ≤ lineRoom)
    (hlast : (body.rdropWhile isSpace).getLast? ≠ some '\\') :
    r.goOn [] ((body ++ ['\n']) :: lines) =
      (r.statement (body.rdropWhile isSpace)).goOn [] lines := by
  have hstrip : (body ++ ['\n']).rdropWhile isSpace = body.rdropWhile isSpace :=
    List.rdropWhile_concat_pos _ _ _ rfl
  have hpos := List.length_pos_iff.mpr hne
  unfold Reading.goOn
  rw [joinLines, List.nil_append, List.nil_append, if_neg (by simp; omega), rdropWhile_line hbody,
    if_neg (by omega), hstrip, if_neg hlast]
  cases joinLines [] lines <;> rfl

theorem section_lineEnds (h : PrintableSection s) :
    ∀ c ∈ '[' :: (s ++ [']']), isLineEnd c = false := by
  intro c hc
  rcases List.mem_cons.mp hc with rfl | hc
  · rfl
  · rcases List.mem_append.mp hc with hc | hc
    · exact beq_eq_false_iff_ne.mpr (h.plain c hc).2.2
    · rw [List.mem_singleton.mp hc]
      rfl

theorem entry_lineEnds (hk : PrintableKey key) (hv : PrintableValue val) :
    ∀ c ∈ padKey key ++ [' ', '=', ' '] ++ val, isLineEnd c = false := by
  obtain ⟨blanks, hpad, hblanks⟩ := padKey_blanks key
  intro c hc
  apply beq_eq_false_iff_ne.mpr
  rw [show padKey key ++ [' ', '=', ' '] ++ val = (padKey key ++ [' ']) ++ (['=', ' '] ++ val) by
    simp, hpad] at hc
  rcases List.mem_append.mp hc with hc | hc
  · rcases List.mem_append.mp hc with hc | hc
    · exact (hk.plain c hc).2
    · rw [hblanks c hc]
      decide
  · rcases List.mem_append.mp hc with hc | hc
    · rintro rfl
      simp at hc
    · exact (hv.plain c hc).2.2

theorem goOn_section (h : PrintableSection s) :
    r.goOn [] (('[' :: (s ++ [']']) ++ ['\n']) :: lines) =
      { r with sec := s, entries := assign s none r.entries }.goOn [] lines := by
  have hlast : ('[' :: (s ++ [']'])).getLast? = some ']' := by
    rw [← List.cons_append, List.getLast?_concat]
  have hself : ('[' :: (s ++ [']'])).rdropWhile isSpace = '[' :: (s ++ [']']) := by
    apply rdropWhile_back
    intro c hc
    rw [hlast] at hc
    cases hc
    rfl
  have hshort : ('[' :: (s ++ [']'])).length ≤ lineRoom := by
    have := h.short
    simp
    omega
  rw [goOn_text (List.cons_ne_nil _ _) (section_lineEnds h) hshort]
  · unfold Reading.statement
    rw [hself, section_line h]
  · rw [hself, hlast]
    decide

theorem goOn_entry (hk : PrintableKey key) (hv : PrintableValue val)
    (hshort : (padKey key).length + 3 + val.length ≤ lineRoom) :
    r.goOn [] (dumpEntry key val :: lines) =
      { r with entries := assign (fullKey r.sec key) (some val) r.entries }.goOn [] lines := by
  have hlast : (entryText key val).getLast? ≠ some '\\' := by
    rw [entryText_last]
    split
    · decide
    · exact hv.complete
  unfold dumpEntry
  rw [goOn_text (by simp) (entry_lineEnds hk hv) (by simp; omega)]
  · unfold Reading.statement
    rw [entryText_eq hv.trimmed, entry_line hk hv]
  · rwa [entryText_eq hv.trimmed]

end Reading

/-! The entries by section. -/

def entriesOf (s : CString) (entries : Entries) : Entries :=
  entries.filter fun entry => (s ++ [':']).isPrefixOf entry.1

/-- A section and the entries behind it. -/
def groupOf (s : CString) (entries : Entries) : Entries := (s, none) :: entriesOf s entries

/-- The sections in their order, each with its entries. -/
def grouped (entries : Entries) : Entries :=
  (sectionsOf entries).flatMap fun s => groupOf s entries

def sectionLines (s : CString) (entries : Entries) : List CString :=
  ['\n'] :: ('[' :: (s ++ [']']) ++ ['\n']) ::
    ((entriesOf s entries).map fun entry =>
      dumpEntry (entry.1.drop (s.length + 1)) (entry.2.getD [])) ++ [['\n']]

def dumpLines (entries : Entries) : List CString :=
  if sectionsOf entries = [] then []
  else ((sectionsOf entries).flatMap fun s => sectionLines s entries) ++ [['\n']]

section Groups

variable {s t key : CString} {entries : Entries} {entry : CString × Option CString}

theorem mem_entriesOf :
    entry ∈ entriesOf s entries ↔ entry ∈ entries ∧ ∃ key, entry.1 = fullKey s key := by
  unfold entriesOf fullKey
  rw [List.mem_filter, List.isPrefixOf_iff_prefix]
  refine and_congr_right fun _ => ⟨?_, ?_⟩
  · rintro ⟨key, hkey⟩
    exact ⟨key, by simp [← hkey]⟩
  · rintro ⟨key, hkey⟩
    exact ⟨key, by simp [hkey]⟩

/-- The first colon ends the section. -/
theorem fullKey_injective {key' : CString} (hs : ':' ∉ s) (ht : ':' ∉ t)
    (h : fullKey s key = fullKey t key') : s = t ∧ key = key' := by
  have htake : ∀ {u k : CString}, ':' ∉ u → (fullKey u k).takeWhile (· != ':') = u := by
    intro u k hu
    refine (takeWhile_stop ?_ ?_).1
    · exact fun c hc => bne_iff_ne.mpr fun heq => hu (heq ▸ hc)
    · intro c hc
      cases hc
      rfl
  have hst : s = t := by rw [← htake hs, h, htake ht]
  subst hst
  exact ⟨rfl, List.cons_injective (List.append_cancel_left h)⟩

theorem drop_fullKey (s key : CString) : (fullKey s key).drop (s.length + 1) = key := by
  unfold fullKey
  rw [← List.drop_drop, List.drop_left]
  rfl

theorem colon_fullKey : ':' ∈ fullKey s key :=
  List.mem_append_right _ List.mem_cons_self

theorem mem_sectionsOf : s ∈ sectionsOf entries ↔ s ∈ entries.map Prod.fst ∧ ':' ∉ s := by
  simp [sectionsOf]

theorem PrintableSection.no_colon (h : PrintableSection s) : ':' ∉ s := fun hc =>
  (h.plain _ hc).1 rfl

/-- A key without a colon is a section. -/
theorem Printable.section (h : Printable entries) (hs : s ∈ sectionsOf entries) :
    (s, none) ∈ entries ∧ PrintableSection s := by
  obtain ⟨hmem, hcolon⟩ := mem_sectionsOf.mp hs
  obtain ⟨⟨s', val⟩, hentry, rfl⟩ := List.mem_map.mp hmem
  rcases h _ hentry with ⟨hprint, hnone⟩ | ⟨t, key, val', heq, -⟩
  · cases hnone
    exact ⟨hentry, hprint⟩
  · cases heq
    exact absurd colon_fullKey hcolon

theorem Printable.mem_section (h : Printable entries) (hs : (s, none) ∈ entries) :
    s ∈ sectionsOf entries := by
  rcases h _ hs with ⟨hprint, -⟩ | ⟨t, key, val, heq, -⟩
  · exact mem_sectionsOf.mpr ⟨List.mem_map_of_mem hs, hprint.no_colon⟩
  · cases heq

/-- An entry of a section, as it can be written. -/
theorem Printable.writable (h : Printable entries) (hs : s ∈ sectionsOf entries)
    (hentry : entry ∈ entriesOf s entries) :
    ∃ key val, entry = (fullKey s key, some val) ∧ PrintableKey key ∧ PrintableValue val ∧
      (padKey key).length + 3 + val.length ≤ lineRoom := by
  obtain ⟨hmem, key, hkey⟩ := mem_entriesOf.mp hentry
  rcases h _ hmem with ⟨hprint, -⟩ | ⟨t, key', val, rfl, ht, hk, hv, hshort⟩
  · exact absurd (hkey ▸ colon_fullKey) hprint.no_colon
  · have hst := fullKey_injective (h.section (h.mem_section ht)).2.no_colon
      (h.section hs).2.no_colon hkey
    obtain ⟨rfl, rfl⟩ := hst
    exact ⟨_, val, rfl, hk, hv, hshort⟩

theorem mem_grouped (h : Printable entries) : entry ∈ grouped entries ↔ entry ∈ entries := by
  unfold grouped groupOf
  rw [List.mem_flatMap]
  constructor
  · rintro ⟨s, hs, hentry⟩
    rcases List.mem_cons.mp hentry with rfl | hentry
    · exact (h.section hs).1
    · exact (mem_entriesOf.mp hentry).1
  · intro hentry
    rcases h entry hentry with ⟨hprint, hnone⟩ | ⟨s, key, val, rfl, hs, -⟩
    · have heq : entry = (entry.1, none) := by rw [← hnone]
      rw [heq] at hentry
      exact ⟨entry.1, h.mem_section hentry, heq ▸ List.mem_cons_self⟩
    · exact ⟨s, h.mem_section hs, List.mem_cons_of_mem _ (mem_entriesOf.mpr ⟨hentry, key, rfl⟩)⟩

theorem keys_entriesOf (s : CString) (entries : Entries) :
    List.Sublist ((entriesOf s entries).map Prod.fst) (entries.map Prod.fst) :=
  List.Sublist.map _ List.filter_sublist

theorem colon_of_entriesOf (hkey : key ∈ (entriesOf s entries).map Prod.fst) :
    ∃ k, key = fullKey s k := by
  obtain ⟨entry, hentry, rfl⟩ := List.mem_map.mp hkey
  exact (mem_entriesOf.mp hentry).2

theorem nodup_sectionsOf (hnodup : (entries.map Prod.fst).Nodup) : (sectionsOf entries).Nodup :=
  hnodup.filter _

theorem nodup_grouped (h : Printable entries) (hnodup : (entries.map Prod.fst).Nodup) :
    ((grouped entries).map Prod.fst).Nodup := by
  have hmap : (grouped entries).map Prod.fst = (sectionsOf entries).flatMap fun s =>
      s :: (entriesOf s entries).map Prod.fst := by
    unfold grouped groupOf
    rw [List.map_flatMap]
    rfl
  rw [hmap, List.nodup_flatMap]
  constructor
  · intro s hs
    refine List.nodup_cons.mpr ⟨fun hin => ?_, hnodup.sublist (keys_entriesOf s entries)⟩
    obtain ⟨k, hk⟩ := colon_of_entriesOf hin
    exact (h.section hs).2.no_colon (hk ▸ colon_fullKey)
  · -- keys of two sections differ, since their first parts do
    refine (nodup_sectionsOf hnodup).imp_of_mem ?_
    intro s t hs ht hne key hkey hkey'
    rcases List.mem_cons.mp hkey with rfl | hkey
    · rcases List.mem_cons.mp hkey' with rfl | hkey'
      · exact hne rfl
      · obtain ⟨k, hk⟩ := colon_of_entriesOf hkey'
        exact (h.section hs).2.no_colon (hk ▸ colon_fullKey)
    · obtain ⟨k, rfl⟩ := colon_of_entriesOf hkey
      rcases List.mem_cons.mp hkey' with rfl | hkey'
      · exact (h.section ht).2.no_colon colon_fullKey
      · obtain ⟨k', hk'⟩ := colon_of_entriesOf hkey'
        exact hne (fullKey_injective (h.section hs).2.no_colon (h.section ht).2.no_colon hk').1

/-- What is in one group only comes once. -/
theorem flatMap_at {α : Type*} {keys : List CString} (hnodup : keys.Nodup) (hs : s ∈ keys)
    {f : CString → List α} (hother : ∀ t ∈ keys, t ≠ s → f t = []) :
    keys.flatMap f = f s := by
  induction keys with
  | nil => cases hs
  | cons t keys ih =>
    obtain ⟨hnew, hrest⟩ := List.nodup_cons.mp hnodup
    rw [List.flatMap_cons]
    rcases List.mem_cons.mp hs with rfl | hs
    · have hnil : keys.flatMap f = [] := by
        rw [List.flatMap_eq_nil_iff]
        exact fun u hu => hother u (List.mem_cons_of_mem _ hu) fun heq => hnew (heq ▸ hu)
      rw [hnil, List.append_nil]
    · rw [hother t List.mem_cons_self fun heq => hnew (heq ▸ hs), List.nil_append]
      exact ih hrest hs fun u hu => hother u (List.mem_cons_of_mem _ hu)

theorem sectionsOf_grouped (h : Printable entries) :
    sectionsOf (grouped entries) = sectionsOf entries := by
  have hgroup : ∀ s ∈ sectionsOf entries, sectionsOf (groupOf s entries) = [s] := by
    intro s hs
    have hcolon := (h.section hs).2.no_colon
    have hnil : sectionsOf (entriesOf s entries) = [] := by
      rw [List.eq_nil_iff_forall_not_mem]
      intro key hkey
      obtain ⟨hin, hplain⟩ := mem_sectionsOf.mp hkey
      obtain ⟨k, rfl⟩ := colon_of_entriesOf hin
      exact hplain colon_fullKey
    unfold groupOf
    change List.filter _ (s :: (entriesOf s entries).map Prod.fst) = [s]
    rw [List.filter_cons_of_pos (by simp [hcolon])]
    exact congrArg (s :: ·) hnil
  have hflat : ∀ secs : List CString, (∀ s ∈ secs, s ∈ sectionsOf entries) →
      sectionsOf (secs.flatMap fun s => groupOf s entries) = secs := by
    intro secs
    induction secs with
    | nil => exact fun _ => rfl
    | cons s secs ih =>
      intro hsecs
      have happ : ∀ a b : Entries, sectionsOf (a ++ b) = sectionsOf a ++ sectionsOf b := by
        intro a b
        unfold sectionsOf
        rw [List.map_append, List.filter_append]
      rw [List.flatMap_cons, happ, hgroup s (hsecs s List.mem_cons_self),
        ih fun t ht => hsecs t (List.mem_cons_of_mem _ ht)]
      rfl
  exact hflat _ fun _ hs => hs

theorem entriesOf_grouped (h : Printable entries) (hnodup : (entries.map Prod.fst).Nodup)
    (hs : s ∈ sectionsOf entries) : entriesOf s (grouped entries) = entriesOf s entries := by
  have hflat : entriesOf s (grouped entries) =
      (sectionsOf entries).flatMap fun t => entriesOf s (groupOf t entries) := by
    unfold grouped entriesOf
    rw [List.filter_flatMap]
  have hcolon := (h.section hs).2.no_colon
  have hnot : ∀ t ∈ sectionsOf entries,
      (s ++ [':']).isPrefixOf t = false := by
    intro t ht
    rw [← Bool.not_eq_true, List.isPrefixOf_iff_prefix]
    rintro ⟨k, hk⟩
    exact (h.section ht).2.no_colon (by simp [← hk])
  rw [hflat, flatMap_at (nodup_sectionsOf hnodup) hs]
  · unfold groupOf
    rw [entriesOf, List.filter_cons_of_neg (by rw [hnot s hs]; exact Bool.false_ne_true)]
    unfold entriesOf
    rw [List.filter_filter]
    simp
  · intro t ht hne
    rw [List.eq_nil_iff_forall_not_mem]
    intro entry hentry
    obtain ⟨hin, k, hk⟩ := mem_entriesOf.mp hentry
    rcases List.mem_cons.mp hin with rfl | hin
    · have hin : ':' ∈ t := (show t = fullKey s k from hk) ▸ colon_fullKey
      exact (h.section ht).2.no_colon hin
    · obtain ⟨-, k', hk'⟩ := mem_entriesOf.mp hin
      exact hne (fullKey_injective (h.section ht).2.no_colon hcolon (hk'.symm.trans hk)).1

end Groups

/-! Written and read. -/

section RoundTrip

variable {r : Reading} {s : CString} {entries : Entries} {lines : List CString}

/-- Entries put in one after the other. -/
def Reading.add (r : Reading) (more : Entries) : Entries :=
  more.foldl (fun entries entry => assign entry.1 entry.2 entries) r.entries

theorem goOn_entries (h : Printable entries) (hs : s ∈ sectionsOf entries) (more : Entries)
    (hmore : ∀ entry ∈ more, entry ∈ entriesOf s entries) (hsec : r.sec = s) :
    r.goOn [] ((more.map fun entry =>
        dumpEntry (entry.1.drop (s.length + 1)) (entry.2.getD [])) ++ lines) =
      { r with entries := r.add more }.goOn [] lines := by
  induction more generalizing r s with
  | nil => rfl
  | cons entry more ih =>
    obtain ⟨key, val, rfl, hk, hv, hshort⟩ := h.writable hs (hmore entry List.mem_cons_self)
    rw [List.map_cons, List.cons_append, drop_fullKey, Option.getD_some, goOn_entry hk hv hshort]
    subst hsec
    exact ih (r := { r with entries := assign (fullKey r.sec key) (some val) r.entries }) hs
      (fun e he => hmore e (List.mem_cons_of_mem _ he)) rfl

theorem goOn_group (h : Printable entries) (hs : s ∈ sectionsOf entries) :
    r.goOn [] (sectionLines s entries ++ lines) =
      { r with sec := s, entries := r.add (groupOf s entries) }.goOn [] lines := by
  have hlines : sectionLines s entries ++ lines =
      ['\n'] :: ('[' :: (s ++ [']']) ++ ['\n']) ::
        (((entriesOf s entries).map fun entry =>
          dumpEntry (entry.1.drop (s.length + 1)) (entry.2.getD [])) ++ ['\n'] :: lines) := by
    simp [sectionLines]
  rw [hlines, goOn_blank, goOn_section (h.section hs).2, goOn_entries h hs _ (fun _ he => he) rfl]
  exact goOn_blank

theorem goOn_groups (h : Printable entries) (secs : List CString)
    (hsecs : ∀ s ∈ secs, s ∈ sectionsOf entries) (herrs : r.errs = 0) :
    r.goOn [] ((secs.flatMap fun s => sectionLines s entries) ++ [['\n']]) =
      some (r.add (secs.flatMap fun s => groupOf s entries)) := by
  induction secs generalizing r with
  | nil =>
    rw [List.flatMap_nil, List.nil_append, goOn_blank]
    exact if_pos herrs
  | cons s secs ih =>
    have hrest := ih (r := { r with sec := s, entries := r.add (groupOf s entries) })
      (fun t ht => hsecs t (List.mem_cons_of_mem _ ht)) herrs
    rw [List.flatMap_cons, List.append_assoc, goOn_group h (hsecs s List.mem_cons_self), hrest]
    unfold Reading.add
    rw [List.flatMap_cons, List.foldl_append]

/-- Every line of a dump ends in its only line end. -/
theorem dumpLines_ended (h : Printable entries) : ∀ line ∈ dumpLines entries,
    ∃ body c, line = body ++ [c] ∧ (∀ x ∈ body, isLineEnd x = false) ∧ isLineEnd c = true := by
  have hblank : ∃ body c, ['\n'] = body ++ [c] ∧ (∀ x ∈ body, isLineEnd x = false) ∧
      isLineEnd c = true := ⟨[], '\n', rfl, List.forall_mem_nil _, rfl⟩
  intro line hline
  unfold dumpLines at hline
  split at hline
  · cases hline
  rcases List.mem_append.mp hline with hline | hline
  · obtain ⟨s, hs, hline⟩ := List.mem_flatMap.mp hline
    have hsec := (h.section hs).2
    unfold sectionLines at hline
    rcases List.mem_cons.mp hline with rfl | hline
    · exact hblank
    rcases List.mem_cons.mp hline with rfl | hline
    · exact ⟨_, _, rfl, section_lineEnds hsec, rfl⟩
    rcases List.mem_append.mp hline with hline | hline
    · obtain ⟨entry, hentry, rfl⟩ := List.mem_map.mp hline
      obtain ⟨key, val, rfl, hk, hv, -⟩ := h.writable hs hentry
      rw [drop_fullKey]
      exact ⟨_, _, rfl, entry_lineEnds hk hv, rfl⟩
    · rw [List.mem_singleton.mp hline]
      exact hblank
  · rw [List.mem_singleton.mp hline]
    exact hblank

theorem configuration_dump (h : Printable entries) (hnodup : (entries.map Prod.fst).Nodup) :
    configuration (dumpLines entries).flatten = some (grouped entries) := by
  unfold configuration
  rw [cutBehind_flatten (dumpLines_ended h)]
  unfold dumpLines
  split
  · rename_i hnone
    unfold grouped
    rw [hnone]
    rfl
  · rw [goOn_groups h _ (fun _ hs => hs) rfl]
    have hadd : Reading.start.add (grouped entries) = grouped entries :=
      foldl_assign_new (nodup_grouped h hnodup)
    exact congrArg some hadd

end RoundTrip

/-! The dictionary that is written. -/

section Dictionaries

variable {d : Dictionary} {entries : Entries}

theorem Dictionary.entries_keys (d : Dictionary) : d.entries.map Prod.fst = d.keys := by
  unfold Dictionary.entries Dictionary.keys
  rw [List.map_filterMap]
  congr 1
  funext s
  cases s.key <;> rfl

theorem mem_entries {key : CString} {val : Option CString} :
    (key, val) ∈ d.entries ↔ ∃ s ∈ d.slots, s.key = some key ∧ s.val = val := by
  unfold Dictionary.entries
  rw [List.mem_filterMap]
  constructor
  · rintro ⟨s, hs, heq⟩
    cases hkey : s.key with
    | none => simp [hkey] at heq
    | some k =>
      simp only [hkey, Option.map_some, Option.some.injEq, Prod.mk.injEq] at heq
      exact ⟨s, hs, heq.1 ▸ hkey, heq.2⟩
  · rintro ⟨s, hs, hkey, rfl⟩
    exact ⟨s, hs, by rw [hkey]; rfl⟩

theorem Wellformed.keys_nodup (h : Wellformed d) : d.keys.Nodup := by
  unfold Dictionary.keys List.Nodup
  rw [List.pairwise_filterMap, List.pairwise_iff_getElem]
  intro i j hi hj hij key hkey key' hkey' heq
  subst heq
  have hsame := h.distinct i j _ _ key (List.getElem?_eq_getElem hi) (List.getElem?_eq_getElem hj)
    hkey hkey'
  omega

/-- What the search finds is in the entries. -/
theorem Wellformed.find_entries (h : Wellformed d) (key : CString) :
    dictionaryFind d key = entryAt key d.entries := by
  have hnodup : (d.entries.map Prod.fst).Nodup := d.entries_keys ▸ h.keys_nodup
  apply Option.ext
  intro val
  rw [find_eq_some_iff h, entryAt_eq_some_iff hnodup, mem_entries]
  constructor
  · rintro ⟨i, s, hs, hkey, hval⟩
    exact ⟨s, List.mem_of_getElem? hs, hkey, hval⟩
  · rintro ⟨s, hs, hkey, hval⟩
    obtain ⟨i, hi⟩ := List.getElem?_of_mem hs
    exact ⟨i, s, hi, hkey, hval⟩

theorem Compact.entries_eq (h : Compact d entries) : d.entries = entries := by
  obtain ⟨free, hslots⟩ := h.slots
  have hblank : (List.replicate free Slot.blank).filterMap
      (fun s => s.key.map fun key => (key, s.val)) = [] := by
    rw [List.filterMap_eq_nil_iff]
    intro s hs
    rw [List.eq_of_mem_replicate hs]
    rfl
  unfold Dictionary.entries
  rw [hslots, slotsOf, List.filterMap_append, hblank, List.append_nil, List.filterMap_map]
  exact (congrFun List.filterMap_eq_map entries).trans (List.map_id' entries)

/-- A printable dictionary is written line by line. -/
theorem dump_lines (hfind : ∀ key, dictionaryFind d key = entryAt key d.entries)
    (hnodup : (d.entries.map Prod.fst).Nodup) (h : Printable d.entries) :
    iniparserDumpIni d = (dumpLines d.entries).flatten := by
  have hnames : d.sectionNames = sectionsOf d.entries := by
    unfold Dictionary.sectionNames sectionsOf
    rw [d.entries_keys]
  have hsection : ∀ s ∈ sectionsOf d.entries,
      iniparserDumpsectionIni d s = (sectionLines s d.entries).flatten := by
    intro s hs
    obtain ⟨hin, hprint⟩ := h.section hs
    have hshort := hprint.short
    have hfound : iniparserFindEntry d s = true := by
      unfold iniparserFindEntry iniparserFind
      rw [strlwc_lower hprint.lower (by unfold lineRoom asciiLineSz at *; omega), hfind,
        entryAt_of_mem hnodup hin]
      rfl
    have hkeys : dumpKeys s d.entries = ((entriesOf s d.entries).map fun entry =>
        dumpEntry (entry.1.drop (s.length + 1)) (entry.2.getD [])).flatten := by
      unfold dumpKeys entriesOf
      induction d.entries with
      | nil => rfl
      | cons entry entries ih =>
        rw [List.flatMap_cons, List.filter_cons, ih]
        split <;> simp
    unfold iniparserDumpsectionIni sectionLines
    rw [if_pos hfound, hkeys]
    simp
  unfold iniparserDumpIni iniparserGetnsec iniparserGetsecname dumpLines
  simp only [hnames]
  by_cases hnone : sectionsOf d.entries = []
  · -- without sections there is nothing to write
    have hempty : d.entries = [] := by
      rw [List.eq_nil_iff_forall_not_mem]
      intro entry hentry
      rcases h entry hentry with ⟨hprint, -⟩ | ⟨s, -, -, -, hs, -⟩
      · have hmem := mem_sectionsOf.mpr ⟨List.mem_map_of_mem hentry, hprint.no_colon⟩
        rw [hnone] at hmem
        cases hmem
      · have hmem := h.mem_section hs
        rw [hnone] at hmem
        cases hmem
    rw [if_pos hnone, if_pos (by rw [hnone]; exact Nat.zero_lt_one), hempty]
    rfl
  · have hpos := List.length_pos_iff.mpr hnone
    have hrange : ∀ secs : List CString, (∀ s ∈ secs, s ∈ sectionsOf d.entries) →
        ((List.range secs.length).flatMap fun i =>
          match secs[i]? with
          | none => []
          | some secname => iniparserDumpsectionIni d secname) =
        (secs.flatMap fun s => sectionLines s d.entries).flatten := by
      intro secs
      induction secs with
      | nil => exact fun _ => rfl
      | cons s secs ih =>
        intro hsecs
        have hrest := ih fun t ht => hsecs t (List.mem_cons_of_mem _ ht)
        rw [List.length_cons, List.range_succ_eq_map, List.flatMap_cons, List.flatMap_map,
          List.flatMap_cons, List.flatten_append, ← hrest,
          ← hsection s (hsecs s List.mem_cons_self)]
        rfl
    rw [if_neg hnone, if_neg (by omega), hrange _ fun _ hs => hs, List.flatten_append]
    rfl

end Dictionaries

/-- What can be written is read back: the same contents, the same sections in the same order, and
the file that is written next is the same file. -/
theorem dump_reloads {d : Dictionary} (h : Wellformed d) (hp : Printable d.entries) :
    ∃ d', iniparserLoad (some (iniparserDumpIni d)) .plenty = some (.dictionary d') ∧
      dictionaryFind d' = dictionaryFind d ∧ d'.sectionNames = d.sectionNames ∧
      iniparserDumpIni d' = iniparserDumpIni d := by
  have hnodup : (d.entries.map Prod.fst).Nodup := d.entries_keys ▸ h.keys_nodup
  have hgrouped := nodup_grouped hp hnodup
  have hdump := dump_lines h.find_entries hnodup hp
  obtain ⟨result, hload, hrel⟩ := load_compact (iniparserDumpIni d)
  rw [hdump, configuration_dump hp hnodup] at hrel
  cases hrel with
  | dictionary hd =>
    rename_i d'
    have hentries := hd.entries_eq
    have hsections := sectionsOf_grouped hp
    have hfind : ∀ key, dictionaryFind d' key = entryAt key d'.entries := by
      intro key
      rw [hd.find, hentries]
    have hp' : Printable d'.entries := by
      rw [hentries]
      intro entry hentry
      rcases hp entry ((mem_grouped hp).mp hentry) with hsec | ⟨s, key, val, heq, hs, hrest⟩
      · exact .inl hsec
      · exact .inr ⟨s, key, val, heq, (mem_grouped hp).mpr hs, hrest⟩
    have hlines : dumpLines d'.entries = dumpLines d.entries := by
      unfold dumpLines
      rw [hentries, hsections]
      split
      · rfl
      · congr 1
        apply List.flatMap_congr
        intro s hs
        unfold sectionLines
        rw [entriesOf_grouped hp hnodup hs]
    refine ⟨d', hload, ?_, ?_, ?_⟩
    · funext key
      rw [hd.find, h.find_entries]
      exact entryAt_congr hgrouped hnodup fun _ => mem_grouped hp
    · unfold Dictionary.sectionNames
      rw [hd.keys, ← d.entries_keys]
      exact hsections
    · rw [dump_lines hfind (by rw [hentries]; exact hgrouped) hp', hdump, hlines]

/-- A section with a value that goes on behind another one. -/
def canConfig : Dictionary :=
  behind dictionaryStep (dictionaryNew 0)
    [(.set ['c', 'a', 'n'] none plentyMemory, .status 0),
      (.set (fullKey ['c', 'a', 'n'] ['i', 'd']) (some ['b', ' ', '0']) plentyMemory, .status 0),
      (.set ['l'] none plentyMemory, .status 0),
      (.set (fullKey ['c', 'a', 'n'] ['k']) (some []) plentyMemory, .status 0)]

theorem canConfig_entries : canConfig.entries =
    [(['c', 'a', 'n'], none), (fullKey ['c', 'a', 'n'] ['i', 'd'], some ['b', ' ', '0']),
      (['l'], none), (fullKey ['c', 'a', 'n'] ['k'], some [])] := by
  decide +kernel

theorem canConfig_printable : Printable canConfig.entries := by
  have hcan : PrintableSection ['c', 'a', 'n'] :=
    ⟨nofun, ⟨by rintro c ⟨⟩; rfl, by rintro c ⟨⟩; rfl⟩, rfl, by simp, by decide⟩
  have hl : PrintableSection ['l'] :=
    ⟨nofun, ⟨by rintro c ⟨⟩; rfl, by rintro c ⟨⟩; rfl⟩, rfl, by simp, by decide⟩
  rw [canConfig_entries]
  intro entry hentry
  rcases List.mem_cons.mp hentry with rfl | hentry
  · exact .inl ⟨hcan, rfl⟩
  rcases List.mem_cons.mp hentry with rfl | hentry
  · refine .inr ⟨['c', 'a', 'n'], ['i', 'd'], ['b', ' ', '0'], rfl, List.mem_cons_self, ?_, ?_,
      by decide⟩
    · exact ⟨nofun, ⟨by rintro c ⟨⟩; rfl, by rintro c ⟨⟩; rfl⟩, rfl, by simp,
        by rintro c ⟨⟩; decide⟩
    · exact ⟨⟨by rintro c ⟨⟩; rfl, by rintro c ⟨⟩; rfl⟩, by simp, by rintro c ⟨⟩; decide,
        by decide⟩
  rcases List.mem_cons.mp hentry with rfl | hentry
  · exact .inl ⟨hl, rfl⟩
  cases List.mem_singleton.mp hentry
  refine .inr ⟨['c', 'a', 'n'], ['k'], [], rfl, List.mem_cons_self, ?_, ?_, by decide⟩
  · exact ⟨nofun, ⟨by rintro c ⟨⟩; rfl, by rintro c ⟨⟩; rfl⟩, rfl, by simp,
      by rintro c ⟨⟩; decide⟩
  · exact ⟨⟨nofun, nofun⟩, nofun, nofun, nofun⟩

theorem dump_reloads_canConfig :
    ∃ d', iniparserLoad (some (iniparserDumpIni canConfig)) .plenty = some (.dictionary d') ∧
      dictionaryFind d' = dictionaryFind canConfig ∧
      d'.sectionNames = canConfig.sectionNames ∧
      iniparserDumpIni d' = iniparserDumpIni canConfig :=
  dump_reloads (behind_wellformed _ (dictionaryNew_wellformed 0)) canConfig_printable

end BackendProxy.Config
