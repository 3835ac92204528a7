import Mathlib.Data.List.DropRight
import BackendProxy.Config.Dictionary

namespace BackendProxy.Config

open Device

/-! The parser of configuration files: one line, a whole file, and what is read from the dictionary
it makes. A file is a string without a zero byte. -/

def asciiLineSz : Nat := 1024

/-- `strlwc`, for a buffer of at least one byte. -/
def strlwc (s : CString) (len : Nat) : CString := (s.take (len - 1)).map Char.toLower

def strstrip (s : CString) : CString := (s.dropWhile isSpace).rdropWhile isSpace

/-! The directives of `sscanf` that the formats consist of. -/

/-- `%[...]`: at least one character of the set. -/
def scanSet (p : Char → Bool) (s : CString) : Option (CString × CString) :=
  match s.takeWhile p with
  | [] => none
  | item => some (item, s.dropWhile p)

/-- A blank in the format. -/
def skipBlanks (s : CString) : CString := s.dropWhile isSpace

def scanChar (c : Char) : CString → Option CString
  | [] => none
  | d :: s => if d = c then some s else none

/-- `%[^=] = ` -/
def scanKey (line : CString) : Option (CString × CString) := do
  let (key, s) ← scanSet (· != '=') line
  let s ← scanChar '=' (skipBlanks s)
  some (key, skipBlanks s)

/-- `%[^=] = "%[^"]"`, and the same with single quotes. -/
def scanQuoted (quote : Char) (line : CString) : Option (CString × CString) := do
  let (key, s) ← scanKey line
  let s ← scanChar quote s
  let (value, _) ← scanSet (· != quote) s
  some (key, value)

/-- `%[^=] = %[^;#]` -/
def scanPlain (line : CString) : Option (CString × CString) := do
  let (key, s) ← scanKey line
  let (value, _) ← scanSet (fun c => c != ';' && c != '#') s
  some (key, value)

/-- `%[^=] = %[;#]` -/
def scanComment (line : CString) : Option CString := do
  let (key, s) ← scanKey line
  let _ ← scanSet (fun c => c == ';' || c == '#') s
  some key

/-- `%[^=] %[=]` -/
def scanBare (line : CString) : Option CString := do
  let (key, s) ← scanSet (· != '=') line
  let _ ← scanSet (· == '=') (skipBlanks s)
  some key

/-- The status of a line with what it was parsed into. -/
inductive LineStatus where
  | empty
  | comment
  | section (name : CString)
  | value (key value : CString)
  | error
  deriving DecidableEq, Repr

/-- `sec` is what the buffer for the section holds; a line `[]` keeps a character of it. Without
memory for its copy a line counts as empty. -/
def iniparserLine (memory : Bool) (sec input : CString) : LineStatus :=
  let line := if memory then strstrip input else []
  let len := line.length
  let name (key : CString) := strlwc (strstrip key) len
  if line = [] then .empty
  else if line.head? = some '#' ∨ line.head? = some ';' then .comment
  else if line.head? = some '[' ∧ line.getLast? = some ']' then
    match scanSet (· != ']') (line.drop 1) with
    | some (item, _) => .section (name item)
    | none => .section (name sec)
  else
    match (scanQuoted '"' line).or (scanQuoted '\'' line) with
    | some (key, value) => .value (name key) value
    | none =>
      match scanPlain line with
      | some (key, value) =>
        let value := strstrip value
        .value (name key) (if value = ['"', '"'] ∨ value = ['\'', '\''] then [] else value)
      | none =>
        match (scanComment line).or (scanBare line) with
        | some key => .value (name key) []
        | none => .error

/-! A whole file. -/

/-- `fgets` with room for `n` characters: the line read and the rest of the file. -/
def fgets : Nat → CString → CString × CString
  | 0, s => ([], s)
  | _ + 1, [] => ([], [])
  | n + 1, c :: s =>
    if c = '\n' then ([c], s)
    else
      let (line, rest) := fgets n s
      (c :: line, rest)

/-- Whether `fgets` came to the end of the file. -/
def feofAfter (n : Nat) (line : CString) : Bool :=
  decide (line.length < n) && line.getLast? != some '\n'

/-- Whether there is memory for the copy of the line and for its entry. -/
structure LineMemory where
  line : Bool
  set : SetMemory
  deriving DecidableEq, Repr

/-- The buffers and counters of the loop; `kept` is what of earlier lines goes on in the next. -/
structure Loader where
  kept : CString
  sec : CString
  errs : Nat
  dict : Dictionary
  arrays : Arrays

/-- What one line does to the loop. -/
inductive LoadStep where
  | next (l : Loader)
  | tooLong
  | outOfMemory (l : Loader)

/-- The entry of a line, if it has one. The write to an array that is missing ends the process. -/
def loadEntry (memory : SetMemory) (l : Loader) (key : CString) (val : Option CString) :
    Option LoadStep :=
  if l.arrays.whole then
    (dictionarySet l.dict key val memory).map fun (ret, dict) =>
      if ret < 0 then .outOfMemory { l with dict } else .next { l with dict }
  else none

/-- The key of a value in its section. -/
def fullKey (sec key : CString) : CString := sec ++ ':' :: key

/-- The part of the loop behind the parser of a line. -/
def loadStatement (memory : LineMemory) (l : Loader) (line : CString) : Option LoadStep :=
  match iniparserLine memory.line l.sec line with
  | .empty | .comment => some (.next l)
  | .section name => loadEntry memory.set { l with sec := name } name none
  | .value key value => loadEntry memory.set l (fullKey l.sec key) (some value)
  | .error => some (.next { l with errs := l.errs + 1 })

/-- The body of the loop; `feof` tells whether the file ended before the buffer did. -/
def loadLine (memory : LineMemory) (l : Loader) (read : CString) (feof : Bool) :
    Option LoadStep :=
  let line := l.kept ++ read
  if line.length ≤ 1 then some (.next l)
  else if line.getLast? ≠ some '\n' ∧ feof = false then some .tooLong
  else
    let line := line.rdropWhile isSpace
    if line.getLast? = some '\\' then some (.next { l with kept := line.dropLast })
    else loadStatement memory { l with kept := [] } line

/-- What the loader returns. A dictionary without all of its arrays has no entry. -/
inductive Loaded where
  | null
  | dictionary (d : Dictionary)
  | hollow (arrays : Arrays)

/-- The dictionary is deleted. -/
def Loader.delete (l : Loader) : Option Loaded := if l.arrays.deletable then some .null else none

/-- The dictionary, unless there were errors. -/
def Loader.finish (l : Loader) : Option Loaded :=
  if l.errs = 0 then some (if l.arrays.whole then .dictionary l.dict else .hollow l.arrays)
  else l.delete

/-- The loop over the lines. A file has at most as many lines as characters. -/
def loadLines (memory : Nat → LineMemory) : Nat → Nat → CString → Loader → Option Loaded
  | _, _, [], l => l.finish
  | 0, _, _ :: _, _ => none
  | fuel + 1, lineno, content, l =>
    let room := asciiLineSz - l.kept.length - 1
    let (read, rest) := fgets room content
    match loadLine (memory lineno) l read (feofAfter room read) with
    | none => none
    | some (.next l) => loadLines memory fuel (lineno + 1) rest l
    | some .tooLong => l.delete
    | some (.outOfMemory l) => l.finish

def Loader.start (arrays : Arrays) : Loader :=
  { kept := [], sec := [], errs := 0, dict := dictionaryNew 0, arrays }

/-- What memory there is for the dictionary, for its arrays and for each line. -/
structure LoadMemory where
  dict : Bool
  arrays : Arrays
  lines : Nat → LineMemory

def LineMemory.plenty : LineMemory := { line := true, set := plentyMemory }

def LoadMemory.plenty : LoadMemory :=
  { dict := true, arrays := plentyArrays, lines := fun _ => .plenty }

/-- What the call returns, if it returns. `opened` is the content of the file, if there is one. -/
def iniparserLoad (opened : Option CString) (memory : LoadMemory) : Option Loaded :=
  match opened with
  | none => some .null
  | some content =>
    if memory.dict then loadLines memory.lines content.length 0 content (.start memory.arrays)
    else some .null

/-! What is read from a dictionary. -/

/-- The keys in the order of their slots. -/
def Dictionary.keys (d : Dictionary) : List CString := d.slots.filterMap Slot.key

/-- The keys without a colon. -/
def Dictionary.sectionNames (d : Dictionary) : List CString :=
  d.keys.filter fun key => !key.contains ':'

def iniparserGetnsec (d : Dictionary) : Nat := d.sectionNames.length

def iniparserGetsecname (d : Dictionary) (n : Nat) : Option CString := d.sectionNames[n]?

/-- What `iniparser_getstring` finds, apart from its default. -/
def iniparserFind (d : Dictionary) (key : CString) : Option (Option CString) :=
  dictionaryFind d (strlwc key (asciiLineSz + 1))

def iniparserGetstring (d : Dictionary) (key : CString) (notfound : Option CString) :
    Option CString := (iniparserFind d key).getD notfound

/-! `strtol` with base 0. -/

def digitValue (c : Char) : Option Nat :=
  if '0' ≤ c ∧ c ≤ '9' then some (c.toNat - '0'.toNat)
  else if 'a' ≤ c ∧ c ≤ 'z' then some (c.toNat - 'a'.toNat + 10)
  else if 'A' ≤ c ∧ c ≤ 'Z' then some (c.toNat - 'A'.toNat + 10)
  else none

/-- The digits of a number, as far as they go. -/
def readDigits (base acc : Nat) : CString → Nat
  | [] => acc
  | c :: s =>
    match digitValue c with
    | none => acc
    | some v => if v < base then readDigits base (acc * base + v) s else acc

/-- The prefix `0x` counts if a digit follows it. -/
def readNumber (s : CString) : Nat :=
  match s with
  | '0' :: x :: d :: _ =>
    if (x = 'x' ∨ x = 'X') ∧ (hexDigit d).isSome then readDigits 16 0 (s.drop 2)
    else readDigits 8 0 s
  | '0' :: _ => readDigits 8 0 s
  | _ => readDigits 10 0 s

def longMax : Int := 9223372036854775807
def longMin : Int := -9223372036854775808

/-- Numbers out of range become the largest or the smallest. -/
def strtol (s : CString) : Int :=
  match skipBlanks s with
  | '-' :: s => max longMin (-(readNumber s : Int))
  | '+' :: s => min longMax (readNumber s)
  | s => min longMax (readNumber s)

/-- The conversion of a null pointer does not return. -/
def iniparserGetint (d : Dictionary) (key : CString) (notfound : Int32) : Option Int32 :=
  match iniparserFind d key with
  | none => some notfound
  | some none => none
  | some (some val) => some (Int32.ofInt (strtol val))

end BackendProxy.Config
