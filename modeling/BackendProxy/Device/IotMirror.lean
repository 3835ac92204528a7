import BackendProxy.Device.IotTable
import Mathlib.Algebra.Ring.Int.Defs

namespace BackendProxy.Device

open Queue Wire

/-! What the table of IoT devices says of the configuration. -/

/-- A numeric attribute: its key and default, the width of its field, the value stored for a
configured one, the range it must lie in. `wide` says that no value is lost on the way to the
range check. -/
structure NumAttr (α : Type) where
  key : String
  notfound : Int32
  width : Nat
  wide : Bool
  adjust : Int → Int
  range : Option (Int × Int)
  get : α → Int

/-- An attribute stored as it is. -/
def NumAttr.plain {α : Type} (key : String) (notfound : Int32) (width : Nat) (get : α → Int) :
    NumAttr α :=
  { key, notfound, width, wide := false, adjust := id, range := none, get }

/-- An attribute stored as it is, within a range. -/
def NumAttr.ranged {α : Type} (key : String) (notfound : Int32) (width : Nat) (lo hi : Int)
    (get : α → Int) : NumAttr α :=
  { key, notfound, width, wide := false, adjust := id, range := some (lo, hi), get }

def bluetoothNums : List (NumAttr BluetoothDevAttr) :=
  [.plain "bt_port" 0 16 fun a => a.btPort.toNat,
    .plain "bt_version" 5 8 fun a => a.btVersion.toNat,
    .plain "conn_interval" 50 16 fun a => a.connInterval.toNat]

def canNums : List (NumAttr CANDevAttr) :=
  [.plain "can_port" 0 16 fun a => a.canPort.toNat,
    .plain "can_bitrate" 500000 32 fun a => a.canBitrate.toNat,
    .plain "can_filter_id" 0 32 fun a => a.canFilterId.toNat]

def zigbeeNums : List (NumAttr ZigbeeDevAttr) :=
  [.plain "zigbee_pan_id" 0x1234 16 fun a => a.zigbeePanId.toNat,
    .ranged "zigbee_channel" 18 8 11 26 fun a => a.zigbeeChannel.toNat]

def loraNums : List (NumAttr LoRaDevAttr) :=
  [.plain "lora_port" 2 16 fun a => a.loraPort.toNat,
    .ranged "lora_sf" 9 8 7 12 fun a => a.loraSf.toNat,
    .ranged "lora_cr" 1 8 1 4 fun a => a.loraCr.toNat,
    .plain "lora_dev_eui" 0 32 fun a => a.loraDevEui.toNat]

def powerlinkNums : List (NumAttr PowerLinkDevAttr) :=
  [.plain "plk_port" 0 16 fun a => a.plkPort.toNat,
    .ranged "plk_node_id" 1 16 1 240 fun a => a.plkNodeId.toNat,
    { NumAttr.ranged "plk_cycle_ms" 1 32 1 10 fun a : PowerLinkDevAttr => a.plkCycleMs.toNat with
      wide := true },
    .plain "plk_rx_pdo_len" 64 16 fun a => a.plkRxPdoLen.toNat,
    .plain "plk_tx_pdo_len" 64 16 fun a => a.plkTxPdoLen.toNat]

def modbustcpNums : List (NumAttr ModbusTCPDevAttr) :=
  [.plain "mb_port" 502 16 fun a => a.mbPort.toNat,
    { NumAttr.ranged "mb_unit_id" 1 8 0 255 fun a : ModbusTCPDevAttr => a.mbUnitId.toNat with
      wide := true },
    { NumAttr.plain "mb_timeout_ms" 1000 32 fun a : ModbusTCPDevAttr => a.mbTimeoutMs.toNat with
      adjust := fun v => if v = 0 then 1000 else v },
    { NumAttr.plain "mb_retry_cnt" 0 8 fun a : ModbusTCPDevAttr => a.mbRetryCnt.toNat with
      adjust := fun v => if v < 0 then 0 else v }]

/-- The numbers every section has; they are stored as `int`. -/
def commonNums : List (NumAttr IotDevice) :=
  [{ NumAttr.plain "dev_id" (-1) 32 fun dev : IotDevice => dev.devId.toInt with wide := true },
    { NumAttr.plain "auto_connect" 0 32 fun dev : IotDevice => dev.config.autoConnect.toInt with
      wide := true },
    { NumAttr.plain "physical_port" (-1) 32 fun dev : IotDevice => dev.physicalPort.toInt with
      wide := true }]

/-- Sections with names up to this length have room for every key. -/
def maxSectionLen : Nat := 112

section Mirrored

variable {α : Type}

/-- What the table should hold for the configured integer. -/
def NumAttr.configured (n : NumAttr α) (ini : Dictionary) (sec : CString) : Int :=
  n.adjust (ini.getint (entryKey sec n.key) n.notfound).toInt

def NumAttr.Fits (n : NumAttr α) (v : Int) : Prop := n.wide = true ∨ (0 ≤ v ∧ v < 2 ^ n.width)

/-- A configured value that fits its field is in the table, and the table keeps to the range. -/
structure NumAttr.Mirrored (n : NumAttr α) (ini : Dictionary) (sec : CString) (a : α) : Prop where
  value : sec.length ≤ maxSectionLen → n.Fits (n.configured ini sec) →
    n.get a = n.configured ini sec
  range : ∀ lo hi, n.range = some (lo, hi) → lo ≤ n.get a ∧ n.get a ≤ hi

/-- A configured value that fits its field lies outside its range. -/
def OutOfRange (nums : List (NumAttr α)) (ini : Dictionary) (sec : CString) : Prop :=
  ∃ n ∈ nums, n.Fits (n.configured ini sec) ∧
    ∃ lo hi, n.range = some (lo, hi) ∧
      (n.configured ini sec < lo ∨ hi < n.configured ini sec)

/-- A mirrored attribute that fits its field is in its range. -/
theorem not_outOfRange {nums : List (NumAttr α)} {ini : Dictionary} {sec : CString} {a : α}
    (h : ∀ n ∈ nums, n.Mirrored ini sec a) (hsec : sec.length ≤ maxSectionLen) :
    ¬ OutOfRange nums ini sec := by
  intro hout
  obtain ⟨n, hn, hfits, lo, hi, hrange, hbad⟩ := hout
  have hvalue := (h n hn).value hsec hfits
  obtain ⟨hlo, hhi⟩ := (h n hn).range lo hi hrange
  omega

end Mirrored

/-- `sscanf` does not convert all the bytes of a MAC address. -/
def BadMac (ini : Dictionary) (sec : CString) (n : Nat) (name notfound : String) : Prop :=
  (scanMac n (ini.getstring (entryKey sec name) notfound.toList)).length ≠ n

/-- The type the section asks for. -/
def configuredType (ini : Dictionary) (sec : CString) : Option IotProtoType :=
  devTypeOf (ini.getstring (entryKey sec "dev_type") "unknown".toList)

/-- The attributes belong to the type, and are mirrored. -/
def SpecificMirrored (ini : Dictionary) (sec : CString) :
    Option IotProtoType → IotDevSpecificAttr → Prop
  | some .bluetooth, .bt a => ∀ n ∈ bluetoothNums, n.Mirrored ini sec a
  | some .can, .can a => ∀ n ∈ canNums, n.Mirrored ini sec a
  | some .zigbee, .zigbee a => ∀ n ∈ zigbeeNums, n.Mirrored ini sec a
  | some .lora, .lora a => ∀ n ∈ loraNums, n.Mirrored ini sec a
  | some .powerlink, .plk a => ∀ n ∈ powerlinkNums, n.Mirrored ini sec a
  | some .modbustcp, .mb a => ∀ n ∈ modbustcpNums, n.Mirrored ini sec a
  | _, _ => False

/-- An entry of the table and its section. -/
structure EntryMirrors (ini : Dictionary) (sec : CString) (dev : IotDevice) : Prop where
  devType : sec.length ≤ maxSectionLen → dev.devType = configuredType ini sec
  common : ∀ n ∈ commonNums, n.Mirrored ini sec dev
  specific : SpecificMirrored ini sec dev.devType dev.specificAttr

/-- A section with a value that fits its field and is outside its range, or with a MAC address that
`sscanf` does not convert; Bluetooth addresses are not looked at. -/
def BadSection (ini : Dictionary) (sec : CString) : Prop :=
  match configuredType ini sec with
  | some .zigbee =>
    OutOfRange zigbeeNums ini sec ∨ BadMac ini sec 8 "zigbee_mac" "00:00:00:00:00:00:00:00"
  | some .lora => OutOfRange loraNums ini sec
  | some .powerlink =>
    OutOfRange powerlinkNums ini sec ∨ BadMac ini sec 6 "plk_mac" "00:00:00:00:00:00"
  | some .modbustcp =>
    OutOfRange modbustcpNums ini sec ∨ BadMac ini sec 6 "mb_mac" "00:00:00:00:00:00"
  | _ => False

/-! Narrowing. -/

theorem toNat_u8 (v : Int) : ((UInt8.ofInt v).toNat : Int) = v % 2 ^ 8 := by
  have h := Int.emod_nonneg v (b := 2 ^ 8) (by decide)
  have hlt := Int.emod_lt_of_pos v (b := 2 ^ 8) (by decide)
  simp only [UInt8.ofInt, UInt8.toNat_ofNat']
  omega

theorem toNat_u16 (v : Int) : ((UInt16.ofInt v).toNat : Int) = v % 2 ^ 16 := by
  have h := Int.emod_nonneg v (b := 2 ^ 16) (by decide)
  have hlt := Int.emod_lt_of_pos v (b := 2 ^ 16) (by decide)
  simp only [UInt16.ofInt, UInt16.toNat_ofNat']
  omega

theorem toNat_u32 (v : Int) : ((UInt32.ofInt v).toNat : Int) = v % 2 ^ 32 := by
  have h := Int.emod_nonneg v (b := 2 ^ 32) (by decide)
  have hlt := Int.emod_lt_of_pos v (b := 2 ^ 32) (by decide)
  simp only [UInt32.ofInt, UInt32.toNat_ofNat']
  omega

theorem u8_range {x lo hi : UInt8} (h : ¬ (x < lo ∨ x > hi)) :
    (lo.toNat : Int) ≤ x.toNat ∧ (x.toNat : Int) ≤ hi.toNat := by
  simp only [not_or, gt_iff_lt, UInt8.lt_iff_toNat_lt] at h
  omega

theorem u16_range {x lo hi : UInt16} (h : ¬ (x < lo ∨ x > hi)) :
    (lo.toNat : Int) ≤ x.toNat ∧ (x.toNat : Int) ≤ hi.toNat := by
  simp only [not_or, gt_iff_lt, UInt16.lt_iff_toNat_lt] at h
  omega

theorem u32_range {x lo hi : UInt32} (h : ¬ (x < lo ∨ x > hi)) :
    (lo.toNat : Int) ≤ x.toNat ∧ (x.toNat : Int) ≤ hi.toNat := by
  simp only [not_or, gt_iff_lt, UInt32.lt_iff_toNat_lt] at h
  omega

section Entries

variable {α : Type} {n : NumAttr α} {ini : Dictionary} {sec : CString} {a : α}

theorem entryInt_eq {name : String} {notfound : Int32} (hsec : sec.length ≤ maxSectionLen)
    (hname : name.toList.length ≤ 14) :
    entryInt ini sec name notfound = (ini.getint (entryKey sec name) notfound).toInt := by
  rw [entryInt, snprintfKey_eq]
  unfold maxSectionLen at hsec
  unfold keySize
  omega

theorem entryStr_eq {name notfound : String} (hsec : sec.length ≤ maxSectionLen)
    (hname : name.toList.length ≤ 14) :
    entryStr ini sec name notfound = ini.getstring (entryKey sec name) notfound.toList := by
  rw [entryStr, snprintfKey_eq]
  unfold maxSectionLen at hsec
  unfold keySize
  omega

theorem NumAttr.mirrored_of_entry (hname : n.key.toList.length ≤ 14)
    (hget : n.Fits (n.adjust (entryInt ini sec n.key n.notfound)) →
      n.get a = n.adjust (entryInt ini sec n.key n.notfound))
    (hrange : ∀ lo hi, n.range = some (lo, hi) → lo ≤ n.get a ∧ n.get a ≤ hi) :
    n.Mirrored ini sec a where
  value := by
    intro hsec hfits
    rw [NumAttr.configured, ← entryInt_eq hsec hname] at hfits ⊢
    exact hget hfits
  range := hrange

/-- An attribute whose field gets the configured integer cut to its width. -/
theorem NumAttr.mirrored_narrowed (hname : n.key.toList.length ≤ 14) (hwide : n.wide = false)
    (hadjust : n.adjust = id) (hget : n.get a = entryInt ini sec n.key n.notfound % 2 ^ n.width)
    (hrange : ∀ lo hi, n.range = some (lo, hi) → lo ≤ n.get a ∧ n.get a ≤ hi) :
    n.Mirrored ini sec a := by
  refine NumAttr.mirrored_of_entry hname (fun hfits => ?_) hrange
  rw [hadjust] at hfits ⊢
  rw [NumAttr.Fits, hwide] at hfits
  obtain ⟨hlo, hhi⟩ := hfits.resolve_left (by decide)
  rw [hget]
  exact Int.emod_eq_of_lt hlo hhi

end Entries

/-! The six parsers. -/

section Parsers

variable {ini : Dictionary} {sec : CString}

theorem entryInt_bounds (ini : Dictionary) (sec : CString) (name : String)
    (notfound : Int32) :
    -2 ^ 31 ≤ entryInt ini sec name notfound ∧ entryInt ini sec name notfound < 2 ^ 31 :=
  ⟨Int32.le_toInt _, Int32.toInt_lt _⟩

/-- Zero means a second. -/
theorem timeout_stored {v : Int} (hlo : -2 ^ 31 ≤ v) (hhi : v < 2 ^ 31)
    (hfits : 0 ≤ (if v = 0 then 1000 else v) ∧ (if v = 0 then 1000 else v) < 2 ^ 32) :
    ((if UInt32.ofInt v = 0 then 1000 else UInt32.ofInt v).toNat : Int) =
      if v = 0 then 1000 else v := by
  by_cases hzero : v = 0
  · subst hzero
    rfl
  · rw [if_neg hzero] at hfits
    have hvalue := toNat_u32 v
    have hne : UInt32.ofInt v ≠ 0 := by
      intro h
      rw [h] at hvalue
      have hnone : ((0 : UInt32).toNat : Int) = 0 := rfl
      omega
    rw [if_neg hzero, if_neg hne, hvalue]
    omega

/-- A negative count means none. -/
theorem retry_stored {v : Int}
    (hfits : 0 ≤ (if v < 0 then 0 else v) ∧ (if v < 0 then 0 else v) < 2 ^ 8) :
    (if v < 0 then 0 else v) % 2 ^ 8 = if v < 0 then 0 else v :=
  Int.emod_eq_of_lt hfits.1 hfits.2

theorem parseBluetooth_mirrored {a : BluetoothDevAttr} (h : parseBluetoothAttr ini sec = some a) :
    ∀ n ∈ bluetoothNums, n.Mirrored ini sec a := by
  cases h
  intro n hn
  simp only [bluetoothNums, List.mem_cons, List.not_mem_nil, or_false] at hn
  rcases hn with rfl | rfl | rfl
  · exact NumAttr.mirrored_narrowed (by decide) rfl rfl (toNat_u16 _) nofun
  · exact NumAttr.mirrored_narrowed (by decide) rfl rfl (toNat_u8 _) nofun
  · exact NumAttr.mirrored_narrowed (by decide) rfl rfl (toNat_u16 _) nofun

theorem parseCan_mirrored {a : CANDevAttr} (h : parseCanAttr ini sec = some a) :
    ∀ n ∈ canNums, n.Mirrored ini sec a := by
  unfold parseCanAttr at h
  dsimp only at h
  split at h
  · cases h
  · obtain ⟨mode, -, rfl⟩ := Option.map_eq_some_iff.mp h
    intro n hn
    simp only [canNums, List.mem_cons, List.not_mem_nil, or_false] at hn
    rcases hn with rfl | rfl | rfl
    · exact NumAttr.mirrored_narrowed (by decide) rfl rfl (toNat_u16 _) nofun
    · exact NumAttr.mirrored_narrowed (by decide) rfl rfl (toNat_u32 _) nofun
    · exact NumAttr.mirrored_narrowed (by decide) rfl rfl (toNat_u32 _) nofun

/-- The address scanned is the whole address. -/
theorem parseZigbee_mirrored {a : ZigbeeDevAttr} (h : parseZigbeeAttr ini sec = some a) :
    (∀ n ∈ zigbeeNums, n.Mirrored ini sec a) ∧
      (scanMac 8 (entryStr ini sec "zigbee_mac" "00:00:00:00:00:00:00:00")).length = 8 := by
  unfold parseZigbeeAttr at h
  dsimp only at h
  split at h
  · cases h
  rename_i hchannel
  obtain ⟨role, -, h⟩ := Option.bind_eq_some_iff.mp h
  split at h
  · cases h
  rename_i hmac
  cases h
  refine ⟨?_, not_not.mp hmac⟩
  intro n hn
  simp only [zigbeeNums, List.mem_cons, List.not_mem_nil, or_false] at hn
  rcases hn with rfl | rfl
  · exact NumAttr.mirrored_narrowed (by decide) rfl rfl (toNat_u16 _) nofun
  · refine NumAttr.mirrored_narrowed (by decide) rfl rfl (toNat_u8 _) ?_
    rintro lo hi ⟨⟩
    exact u8_range hchannel

theorem parseLora_mirrored {a : LoRaDevAttr} (h : parseLoraAttr ini sec = some a) :
    ∀ n ∈ loraNums, n.Mirrored ini sec a := by
  unfold parseLoraAttr at h
  dsimp only at h
  obtain ⟨band, -, h⟩ := Option.bind_eq_some_iff.mp h
  split at h
  · cases h
  rename_i hsf
  split at h
  · cases h
  rename_i hcr
  cases h
  intro n hn
  simp only [loraNums, List.mem_cons, List.not_mem_nil, or_false] at hn
  rcases hn with rfl | rfl | rfl | rfl
  · exact NumAttr.mirrored_narrowed (by decide) rfl rfl (toNat_u16 _) nofun
  · refine NumAttr.mirrored_narrowed (by decide) rfl rfl (toNat_u8 _) ?_
    rintro lo hi ⟨⟩
    exact u8_range hsf
  · refine NumAttr.mirrored_narrowed (by decide) rfl rfl (toNat_u8 _) ?_
    rintro lo hi ⟨⟩
    exact u8_range hcr
  · exact NumAttr.mirrored_narrowed (by decide) rfl rfl (toNat_u32 _) nofun

theorem parsePowerlink_mirrored {a : PowerLinkDevAttr} (h : parsePowerlinkAttr ini sec = some a) :
    (∀ n ∈ powerlinkNums, n.Mirrored ini sec a) ∧
      (scanMac 6 (entryStr ini sec "plk_mac" "00:00:00:00:00:00")).length = 6 := by
  unfold parsePowerlinkAttr at h
  dsimp only at h
  split at h
  · cases h
  rename_i hnode
  obtain ⟨role, -, h⟩ := Option.bind_eq_some_iff.mp h
  split at h
  · cases h
  rename_i hcycle
  split at h
  · cases h
  rename_i hmac
  cases h
  refine ⟨?_, not_not.mp hmac⟩
  intro n hn
  simp only [powerlinkNums, List.mem_cons, List.not_mem_nil, or_false] at hn
  rcases hn with rfl | rfl | rfl | rfl | rfl
  · exact NumAttr.mirrored_narrowed (by decide) rfl rfl (toNat_u16 _) nofun
  · refine NumAttr.mirrored_narrowed (by decide) rfl rfl (toNat_u16 _) ?_
    rintro lo hi ⟨⟩
    exact u16_range hnode
  · have hrange := u32_range hcycle
    refine NumAttr.mirrored_of_entry (by decide) (fun _ => ?_) fun lo hi hr => by
      cases hr
      exact hrange
    -- a negative cycle would be a number of 2^31 at least
    obtain ⟨hlo, hhi⟩ := entryInt_bounds ini sec "plk_cycle_ms" 1
    change ((UInt32.ofInt _).toNat : Int) = entryInt ini sec "plk_cycle_ms" 1
    rw [toNat_u32] at hrange ⊢
    have hone : ((1 : UInt32).toNat : Int) = 1 := rfl
    have hten : ((10 : UInt32).toNat : Int) = 10 := rfl
    omega
  · exact NumAttr.mirrored_narrowed (by decide) rfl rfl (toNat_u16 _) nofun
  · exact NumAttr.mirrored_narrowed (by decide) rfl rfl (toNat_u16 _) nofun

theorem parseModbustcp_mirrored {a : ModbusTCPDevAttr} (h : parseModbustcpAttr ini sec = some a) :
    (∀ n ∈ modbustcpNums, n.Mirrored ini sec a) ∧
      (scanMac 6 (entryStr ini sec "mb_mac" "00:00:00:00:00:00")).length = 6 := by
  unfold parseModbustcpAttr at h
  dsimp only at h
  split at h
  · cases h
  rename_i hunit
  obtain ⟨ver, -, h⟩ := Option.bind_eq_some_iff.mp h
  split at h
  · cases h
  rename_i hmac
  cases h
  refine ⟨?_, not_not.mp hmac⟩
  intro n hn
  simp only [modbustcpNums, List.mem_cons, List.not_mem_nil, or_false] at hn
  rcases hn with rfl | rfl | rfl | rfl
  · exact NumAttr.mirrored_narrowed (by decide) rfl rfl (toNat_u16 _) nofun
  · have hvalue := toNat_u8 (entryInt ini sec "mb_unit_id" 1)
    refine NumAttr.mirrored_of_entry (by decide) (fun _ => ?_) fun lo hi hr => ?_
    · change ((UInt8.ofInt _).toNat : Int) = entryInt ini sec "mb_unit_id" 1
      rw [hvalue]
      omega
    · cases hr
      change 0 ≤ ((UInt8.ofInt _).toNat : Int) ∧ ((UInt8.ofInt _).toNat : Int) ≤ 255
      omega
  · refine NumAttr.mirrored_of_entry (by decide) (fun hfits => ?_) nofun
    obtain ⟨hlo, hhi⟩ := entryInt_bounds ini sec "mb_timeout_ms" 1000
    exact timeout_stored hlo hhi (hfits.resolve_left nofun)
  · refine NumAttr.mirrored_of_entry (by decide) (fun hfits => ?_) nofun
    exact (toNat_u8 _).trans (retry_stored (hfits.resolve_left nofun))

end Parsers

/-! One section. -/

section Sections

variable {ini : Dictionary} {sec : CString} {dup : Bool × Bool}

/-- The parts of an entry that counts as parsed. -/
theorem parseSection_ok {dev : IotDevice} (h : parseSection ini sec dup = (dev, true)) :
    ∃ proto attr, devTypeOf (entryStr ini sec "dev_type" "unknown") = some proto ∧
      parseSpecificAttr ini sec proto = some attr ∧
      dev.devType = some proto ∧ dev.specificAttr = attr ∧
      dev.devId = ini.getint (snprintfKey keySize sec "dev_id") (-1) ∧
      dev.config.autoConnect = ini.getint (snprintfKey keySize sec "auto_connect") 0 ∧
      dev.physicalPort = ini.getint (snprintfKey keySize sec "physical_port") (-1) := by
  unfold parseSection at h
  dsimp only at h
  split at h
  · cases h
  · split at h
    · cases h
    · rename_i proto hproto
      split at h
      · cases h
      · rename_i attr hattr
        cases h
        exact ⟨proto, attr, hproto, hattr, rfl, rfl, rfl, rfl, rfl⟩

/-- Attributes that are parsed are mirrored. -/
theorem specific_mirrored {proto : IotProtoType} {attr : IotDevSpecificAttr}
    (h : parseSpecificAttr ini sec proto = some attr) :
    SpecificMirrored ini sec (some proto) attr := by
  cases proto <;> simp only [parseSpecificAttr, Option.map_eq_some_iff] at h <;>
    obtain ⟨a, ha, rfl⟩ := h
  case bluetooth => exact parseBluetooth_mirrored ha
  case zigbee => exact (parseZigbee_mirrored ha).1
  case can => exact parseCan_mirrored ha
  case lora => exact parseLora_mirrored ha
  case powerlink => exact (parsePowerlink_mirrored ha).1
  case modbustcp => exact (parseModbustcp_mirrored ha).1

theorem common_mirrored {dev : IotDevice} (h : parseSection ini sec dup = (dev, true)) :
    ∀ n ∈ commonNums, n.Mirrored ini sec dev := by
  obtain ⟨proto, attr, -, -, -, -, hid, hauto, hport⟩ := parseSection_ok h
  intro n hn
  simp only [commonNums, List.mem_cons, List.not_mem_nil, or_false] at hn
  rcases hn with rfl | rfl | rfl <;>
    refine NumAttr.mirrored_of_entry (by decide) (fun _ => ?_) nofun
  · exact congrArg Int32.toInt hid
  · exact congrArg Int32.toInt hauto
  · exact congrArg Int32.toInt hport

theorem parseSection_mirrors {dev : IotDevice} (h : parseSection ini sec dup = (dev, true)) :
    EntryMirrors ini sec dev := by
  obtain ⟨proto, attr, hproto, hattr, htype, hspecific, -⟩ := parseSection_ok h
  refine ⟨fun hsec => ?_, common_mirrored h, ?_⟩
  · rw [htype, configuredType, ← entryStr_eq hsec (by decide), hproto]
  · rw [htype, hspecific]
    exact specific_mirrored hattr

/-- A section with a value outside its range is not parsed. -/
theorem parseSection_not_bad {dev : IotDevice} (h : parseSection ini sec dup = (dev, true))
    (hsec : sec.length ≤ maxSectionLen) : ¬ BadSection ini sec := by
  obtain ⟨proto, attr, hproto, hattr, -⟩ := parseSection_ok h
  have htype : configuredType ini sec = some proto := by
    rw [configuredType, ← entryStr_eq hsec (by decide), hproto]
  unfold BadSection
  rw [htype]
  cases proto <;> simp only [parseSpecificAttr, Option.map_eq_some_iff] at hattr <;>
    obtain ⟨a, ha, -⟩ := hattr
  case bluetooth => exact not_false
  case can => exact not_false
  case lora => exact not_outOfRange (parseLora_mirrored ha) hsec
  case zigbee =>
    obtain ⟨hnums, hmac⟩ := parseZigbee_mirrored ha
    rw [entryStr_eq hsec (by decide)] at hmac
    exact not_or.mpr ⟨not_outOfRange hnums hsec, not_not.mpr hmac⟩
  case powerlink =>
    obtain ⟨hnums, hmac⟩ := parsePowerlink_mirrored ha
    rw [entryStr_eq hsec (by decide)] at hmac
    exact not_or.mpr ⟨not_outOfRange hnums hsec, not_not.mpr hmac⟩
  case modbustcp =>
    obtain ⟨hnums, hmac⟩ := parseModbustcp_mirrored ha
    rw [entryStr_eq hsec (by decide)] at hmac
    exact not_or.mpr ⟨not_outOfRange hnums hsec, not_not.mpr hmac⟩

end Sections

/-! The loop over the sections. -/

/-- The sections the table is for. -/
def deviceSections (ini : Dictionary) : List CString :=
  (ini.sections.filter isDeviceSection).take maxIotDevNum

section Loop

variable {ini : Dictionary} {strdup : CString → Bool × Bool} {secs : List CString}
  {set set' : Nat → IotDevice} {parsed parsed' failed failed' : Nat}

theorem parseSections_failed_le
    (h : parseSections ini strdup secs set parsed failed = (set', parsed', failed')) :
    failed ≤ failed' := by
  induction secs generalizing set parsed failed with
  | nil =>
    cases h
    exact Nat.le_refl _
  | cons sec secs ih =>
    unfold parseSections at h
    split at h
    · split at h
      · dsimp only at h
        split at h
        · exact ih h
        · exact Nat.le_of_succ_le (ih h)
      · exact ih h
    · cases h
      exact Nat.le_refl _

/-- A loop without failures fills the table section by section. -/
theorem parseSections_filled
    (h : parseSections ini strdup secs set parsed failed = (set', parsed', failed))
    (hroom : parsed ≤ maxIotDevNum) :
    (∀ k < parsed, set' k = set k) ∧
      parsed' = parsed + ((secs.filter isDeviceSection).take (maxIotDevNum - parsed)).length ∧
      ∀ i sec, ((secs.filter isDeviceSection).take (maxIotDevNum - parsed))[i]? = some sec →
        parseSection ini sec (strdup sec) = (set' (parsed + i), true) := by
  induction secs generalizing set parsed with
  | nil =>
    cases h
    simp
  | cons sec secs ih =>
    unfold parseSections at h
    split at h
    · rename_i hlt
      split at h
      · rename_i hdev
        dsimp only at h
        split at h
        · rename_i hok
          obtain ⟨hkeep, hcount, hfilled⟩ := ih h hlt
          have hroom' : maxIotDevNum - parsed = (maxIotDevNum - (parsed + 1)) + 1 := by omega
          rw [List.filter_cons_of_pos hdev, hroom', List.take_succ_cons]
          refine ⟨fun k hk => ?_, ?_, ?_⟩
          · rw [hkeep k (by omega), Function.update_of_ne (by omega)]
          · rw [hcount, List.length_cons]
            omega
          · intro i s hs
            cases i with
            | zero =>
              cases hs
              rw [Nat.add_zero, hkeep parsed (by omega), Function.update_self]
              exact Prod.ext rfl hok
            | succ i =>
              have hnext := hfilled i s hs
              rwa [Nat.add_right_comm, Nat.add_assoc] at hnext
        · have hle := parseSections_failed_le h
          omega
      · rename_i hdev
        rw [List.filter_cons_of_neg hdev]
        exact ih h hroom
    · rename_i hge
      cases h
      have hnone : maxIotDevNum - parsed' = 0 := by omega
      rw [hnone]
      simp

end Loop

/-! The whole table. -/

section Table

variable {engine engine' : Option IotEngine} {calloc : Bool} {ini : Dictionary}
  {strdup : CString → Bool × Bool}

/-- A successful initialisation has parsed every section the table is for. -/
theorem engineInit_ok
    (h : engineInitIotDevices engine calloc (some ini) strdup = (.ok, engine')) :
    ∃ set, engine' = some { iotDevSet := some set, iotDevNum := (deviceSections ini).length } ∧
      0 < (deviceSections ini).length ∧
      ∀ i sec, (deviceSections ini)[i]? = some sec →
        parseSection ini sec (strdup sec) = (set i, true) := by
  unfold engineInitIotDevices at h
  split at h
  · cases h
  dsimp only at h
  split at h
  · cases h
  rename_i set₀ _
  cases hloop : parseSections ini strdup ini.sections set₀ 0 0 with
  | mk set counts =>
    obtain ⟨parsed, failed⟩ := counts
    simp only [hloop] at h
    split at h
    · cases h
    rename_i hgood
    obtain ⟨hparsed, hfailed⟩ := not_or.mp hgood
    cases Nat.eq_zero_of_not_pos hfailed
    obtain ⟨-, hcount, hfilled⟩ := parseSections_filled hloop (Nat.zero_le _)
    rw [Nat.zero_add] at hcount
    cases h
    refine ⟨set, by rw [hcount]; rfl, ?_, fun i sec hsec => ?_⟩
    · have hlen : (deviceSections ini).length = parsed := hcount.symm
      omega
    · have hentry := hfilled i sec hsec
      rwa [Nat.zero_add] at hentry

theorem engineInit_status :
    (engineInitIotDevices engine calloc (some ini) strdup).1 = .ok ∨
      (engineInitIotDevices engine calloc (some ini) strdup).1 = .error := by
  unfold engineInitIotDevices
  split
  · exact .inr rfl
  dsimp only
  split
  · exact .inr rfl
  split
  · exact .inr rfl
  · exact .inl rfl

end Table

/-- After a success the table holds the sections it is for, one by one and in order, each with its
numbers; a section with a number out of range or a MAC address that is not converted makes it
fail. -/
theorem iotDevices_mirror (engine : Option IotEngine) (calloc : Bool) (ini : Dictionary)
    (strdup : CString → Bool × Bool) :
    (∀ engine', engineInitIotDevices engine calloc (some ini) strdup = (.ok, engine') →
      ∃ set, engine' = some { iotDevSet := some set, iotDevNum := (deviceSections ini).length } ∧
        ∀ i sec, (deviceSections ini)[i]? = some sec → EntryMirrors ini sec (set i)) ∧
    ∀ sec ∈ deviceSections ini, sec.length ≤ maxSectionLen → BadSection ini sec →
      (engineInitIotDevices engine calloc (some ini) strdup).1 = .error := by
  constructor
  · intro engine' h
    obtain ⟨set, hengine, -, hparsed⟩ := engineInit_ok h
    exact ⟨set, hengine, fun i sec hsec => parseSection_mirrors (hparsed i sec hsec)⟩
  · intro sec hsec hlen hbad
    refine engineInit_status.resolve_left fun hok => ?_
    have hall : engineInitIotDevices engine calloc (some ini) strdup =
        (.ok, (engineInitIotDevices engine calloc (some ini) strdup).2) := Prod.ext hok rfl
    obtain ⟨set, -, -, hparsed⟩ := engineInit_ok hall
    obtain ⟨i, hi⟩ := List.getElem?_of_mem hsec
    exact parseSection_not_bad (hparsed i sec hi) hlen hbad

/-- A file with one section. -/
def oneSection (sec : CString) (ints : List (String × Int32)) (strs : List (String × String)) :
    Dictionary :=
  { sections := [sec]
    int := fun key => (ints.find? fun p => entryKey sec p.1 == key).map fun p => p.2
    str := fun key => (strs.find? fun p => entryKey sec p.1 == key).map fun p => p.2.toList }

def zeroTimeout : Dictionary :=
  oneSection "device_1".toList [("dev_id", 1), ("mb_timeout_ms", 0)] [("dev_type", "modbustcp")]

def wideChannel : Dictionary :=
  oneSection "device_1".toList [("dev_id", 1), ("zigbee_channel", 267)] [("dev_type", "Zigbee")]

/-- A section whose longest keys do not fit the buffer. -/
def longName : CString := "device_".toList ++ List.replicate 108 'a'

def longSection : Dictionary :=
  oneSection longName [("dev_id", 1), ("zigbee_channel", 20)] [("dev_type", "zigbee")]

def noAddress : Dictionary :=
  oneSection "device_1".toList [("dev_id", 1)] [("dev_type", "bluetooth"), ("bt_mac", "not-a-mac")]

def longAddress : Dictionary :=
  oneSection "device_1".toList [("dev_id", 1)]
    [("dev_type", "modbustcp"), ("mb_mac", "01:02:03:04:05:06!")]

def emptyIotEngine : IotEngine := { iotDevSet := none, iotDevNum := 0 }

/-- The initialisation of an engine without devices, with all the memory it asks for. -/
def initFrom (ini : Dictionary) : ProcessStatus × Option IotEngine :=
  engineInitIotDevices (some emptyIotEngine) true (some ini) fun _ => (true, true)

/-- A Modbus device, a section for none and a LoRa device. -/
def twoDevices (loraSf : Int32) : Dictionary :=
  { sections := ["device_1".toList, "general".toList, "device_2".toList]
    int := fun key =>
      ([("device_1:dev_id", 1), ("device_1:mb_timeout_ms", 0), ("device_2:dev_id", 2),
        ("device_2:lora_sf", loraSf)].find? fun p => p.1.toList == key).map fun p => p.2
    str := fun key =>
      ([("device_1:dev_type", "modbustcp"), ("device_2:dev_type", "lora")].find? fun p =>
        p.1.toList == key).map fun p => p.2.toList }

theorem twoDevices_badSection : BadSection (twoDevices 13) "device_2".toList := by
  have htype : configuredType (twoDevices 13) "device_2".toList = some .lora := by decide
  unfold BadSection
  rw [htype]
  refine ⟨loraNums[1], by simp [loraNums], .inr ?_, 7, 12, rfl, .inr ?_⟩
  · decide
  · decide

theorem iotDevices_mirror_twoDevices :
    (∃ set, initFrom (twoDevices 12) = (.ok, some { iotDevSet := some set, iotDevNum := 2 }) ∧
      EntryMirrors (twoDevices 12) "device_1".toList (set 0) ∧
      EntryMirrors (twoDevices 12) "device_2".toList (set 1)) ∧
    (initFrom (twoDevices 13)).1 = .error := by
  constructor
  · have hok : (initFrom (twoDevices 12)).1 = .ok := by decide
    obtain ⟨set, hset, hentries⟩ := (iotDevices_mirror (some emptyIotEngine) true (twoDevices 12)
      fun _ => (true, true)).1 _ (Prod.ext hok rfl)
    exact ⟨set, Prod.ext hok hset, hentries 0 _ rfl, hentries 1 _ rfl⟩
  · exact (iotDevices_mirror (some emptyIotEngine) true (twoDevices 13) fun _ => (true, true)).2
      "device_2".toList (by decide) (by decide) twoDevices_badSection

/-- A timeout of 0 is stored as 1000; Zigbee channel 267 passes for channel 11; in a section with
a long name the channel is not found; a Bluetooth address is not looked at; what follows a whole
address is not looked at either. -/
theorem configured_not_mirrored :
    (∃ set a, initFrom zeroTimeout = (.ok, some { iotDevSet := some set, iotDevNum := 1 }) ∧
        zeroTimeout.int (entryKey "device_1".toList "mb_timeout_ms") = some 0 ∧
        (set 0).specificAttr = .mb a ∧ a.mbTimeoutMs = 1000) ∧
    (∃ set a, initFrom wideChannel = (.ok, some { iotDevSet := some set, iotDevNum := 1 }) ∧
        wideChannel.int (entryKey "device_1".toList "zigbee_channel") = some 267 ∧
        (set 0).specificAttr = .zigbee a ∧ a.zigbeeChannel = 11) ∧
    (∃ set a, initFrom longSection = (.ok, some { iotDevSet := some set, iotDevNum := 1 }) ∧
        longSection.int (entryKey longName "zigbee_channel") = some 20 ∧
        (set 0).specificAttr = .zigbee a ∧ a.zigbeeChannel = 18) ∧
    (∃ set a, initFrom noAddress = (.ok, some { iotDevSet := some set, iotDevNum := 1 }) ∧
        noAddress.str (entryKey "device_1".toList "bt_mac") = some "not-a-mac".toList ∧
        (set 0).specificAttr = .bt a ∧ a.btMac = [0, 0, 0, 0, 0, 0]) ∧
    ∃ set a, initFrom longAddress = (.ok, some { iotDevSet := some set, iotDevNum := 1 }) ∧
        longAddress.str (entryKey "device_1".toList "mb_mac") = some "01:02:03:04:05:06!".toList ∧
        (set 0).specificAttr = .mb a ∧ a.mbMac = [1, 2, 3, 4, 5, 6] :=
  ⟨⟨_, _, rfl, by decide, rfl, by decide⟩, ⟨_, _, rfl, by decide, rfl, by decide⟩,
    ⟨_, _, rfl, by decide, rfl, by decide⟩, ⟨_, _, rfl, by decide, rfl, by decide⟩,
    ⟨_, _, rfl, by decide, rfl, by decide⟩⟩

end BackendProxy.Device
