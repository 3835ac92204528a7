import Mathlib.Tactic.Common

namespace BackendProxy.Device

/-! Configuration files as the engine sees them, and the scanning of MAC addresses. -/

/-- A C string without its end, one character a byte. -/
abbrev CString := List Char

/-- A loaded INI file: its sections in file order, and what each key is as an integer and as a
string. -/
structure Dictionary where
  sections : List CString
  int : CString → Option Int32
  str : CString → Option CString

/-- `iniparser_getint` -/
def Dictionary.getint (ini : Dictionary) (key : CString) (notfound : Int32) : Int32 :=
  (ini.int key).getD notfound

/-- `iniparser_getstring` -/
def Dictionary.getstring (ini : Dictionary) (key : CString) (notfound : CString) : CString :=
  (ini.str key).getD notfound

/-- The key of an entry of a section. -/
def entryKey (sec : CString) (name : String) : CString := sec ++ ':' :: name.toList

/-- `snprintf(key, sizeof(key), "%s:name", section)` into a buffer of `size` bytes. -/
def snprintfKey (size : Nat) (sec : CString) (name : String) : CString :=
  (entryKey sec name).take (size - 1)

theorem snprintfKey_eq {size : Nat} {sec : CString} {name : String}
    (h : sec.length + name.toList.length + 1 < size) :
    snprintfKey size sec name = entryKey sec name := by
  refine List.take_of_length_le ?_
  simp only [entryKey, List.length_append, List.length_cons]
  omega

/-- `strcasecmp(s, t) == 0` -/
def strcasecmp (s : CString) (t : String) : Bool :=
  s.map Char.toLower == t.toList.map Char.toLower

/-! `sscanf` with a format of `%02hhx` items between colons. -/

def isSpace (c : Char) : Bool :=
  c == ' ' || c == '\t' || c == '\n' || c == '\x0b' || c == '\x0c' || c == '\r'

def hexDigit (c : Char) : Option Nat :=
  if '0' ≤ c ∧ c ≤ '9' then some (c.toNat - '0'.toNat)
  else if 'a' ≤ c ∧ c ≤ 'f' then some (c.toNat - 'a'.toNat + 10)
  else if 'A' ≤ c ∧ c ≤ 'F' then some (c.toNat - 'A'.toNat + 10)
  else none

/-- The digits of an unsigned item, at most two. A lone `0x` is no number. -/
def scanDigits (s : CString) : Option (Nat × CString) :=
  match s with
  | [] => none
  | c :: rest =>
    match hexDigit c, rest with
    | none, _ => none
    | some hi, [] => some (hi, [])
    | some hi, d :: rest' =>
      if c = '0' ∧ (d = 'x' ∨ d = 'X') then none
      else
        match hexDigit d with
        | none => some (hi, d :: rest')
        | some lo => some (16 * hi + lo, rest')

/-- One `%02hhx`: blanks, then at most two characters, of which a sign is one. -/
def scanHhx (s : CString) : Option (UInt8 × CString) :=
  match s.dropWhile isSpace with
  | '+' :: c :: rest => (hexDigit c).map fun v => (UInt8.ofNat v, rest)
  | '-' :: c :: rest => (hexDigit c).map fun v => (-UInt8.ofNat v, rest)
  | s => (scanDigits s).map fun (v, rest) => (UInt8.ofNat v, rest)

/-- The bytes converted, at most `n`; their number is what `sscanf` returns if there are any. -/
def scanMac : Nat → CString → List UInt8
  | 0, _ => []
  | n + 1, s =>
    match scanHhx s with
    | none => []
    | some (byte, rest) =>
      match rest with
      | ':' :: rest => byte :: scanMac n rest
      | _ => [byte]

example : scanMac 6 "00:12:34:56:78:9A".toList = [0x00, 0x12, 0x34, 0x56, 0x78, 0x9A] := by decide

example : scanMac 6 "00:12:zz:56:78:9A".toList = [0x00, 0x12] := by decide

end BackendProxy.Device
