import BackendProxy.Config.Load
import BackendProxy.Device.IotMirror

namespace BackendProxy.Config

open Lib Device

/-! The table of IoT devices from the text of its file. -/

/-- The loaded file as the engine asks for it. -/
def Dictionary.view (d : Dictionary) : Device.Dictionary where
  sections := (List.range (iniparserGetnsec d)).filterMap (iniparserGetsecname d)
  int key := ((iniparserFind d key).bind id).map fun val => Int32.ofInt (strtol val)
  str key := (iniparserFind d key).bind id

/-- What the engine should be told of a file. -/
def fileView (entries : Entries) : Device.Dictionary where
  sections := sectionsOf entries
  int key := ((entryAt (strlwc key (asciiLineSz + 1)) entries).bind id).map fun val =>
    Int32.ofInt (strtol val)
  str key := (entryAt (strlwc key (asciiLineSz + 1)) entries).bind id

/-- No section has a colon in its name, and the names leave room for the keys. -/
structure DeviceFile (entries : Entries) : Prop where
  valued : ∀ entry ∈ entries, ':' ∈ entry.1 → entry.2.isSome
  short : ∀ sec ∈ sectionsOf entries, sec.length ≤ maxSectionLen

section View

variable {d : Dictionary} {entries : Entries}

theorem getsecnames_all (names : List CString) :
    (List.range names.length).filterMap (fun i => names[i]?) = names := by
  induction names with
  | nil => rfl
  | cons name names ih =>
    have hfirst : (name :: names)[0]? = some name := rfl
    rw [List.length_cons, List.range_succ_eq_map, List.filterMap_cons_some hfirst,
      List.filterMap_map]
    exact congrArg (name :: ·) ih

theorem Compact.view (h : Compact d entries) : d.view = fileView entries := by
  have hnames : d.sectionNames = sectionsOf entries := by
    unfold Dictionary.sectionNames sectionsOf
    rw [h.keys]
  have hsections : (List.range (iniparserGetnsec d)).filterMap (iniparserGetsecname d) =
      sectionsOf entries := by
    rw [← hnames]
    exact getsecnames_all d.sectionNames
  have hfind : ∀ key, iniparserFind d key = entryAt (strlwc key (asciiLineSz + 1)) entries :=
    fun key => h.find _
  unfold Dictionary.view fileView
  rw [hsections]
  simp only [hfind]

/-- The keys that the engine asks for have a colon, and so a value if they are there. -/
theorem Compact.asked (h : Compact d entries) (hfile : DeviceFile entries) {sec : CString}
    (hsec : sec ∈ sectionsOf entries) {name : String} (hname : name.toList.length ≤ 14) :
    iniparserFind d (snprintfKey keySize sec name) ≠ some none := by
  have hshort := hfile.short sec hsec
  have hkey : snprintfKey keySize sec name = entryKey sec name :=
    snprintfKey_eq (by unfold keySize maxSectionLen at *; omega)
  have hlen : (entryKey sec name).length ≤ asciiLineSz := by
    simp only [entryKey, List.length_append, List.length_cons]
    unfold asciiLineSz maxSectionLen at *
    omega
  have hcolon : ':' ∈ strlwc (snprintfKey keySize sec name) (asciiLineSz + 1) := by
    unfold strlwc
    rw [hkey, List.take_of_length_le (by omega), List.mem_map]
    exact ⟨':', by simp [entryKey], rfl⟩
  unfold iniparserFind
  rw [h.find]
  intro hnull
  have hvalue := hfile.valued _ (entryAt_mem hnull) hcolon
  cases hvalue

/-- The answers are those of the view. -/
theorem Compact.answers (h : Compact d entries) (hfile : DeviceFile entries) {sec : CString}
    (hsec : sec ∈ sectionsOf entries) {name : String} (hname : name.toList.length ≤ 14) :
    (∀ notfound, iniparserGetint d (snprintfKey keySize sec name) notfound =
      some ((fileView entries).getint (snprintfKey keySize sec name) notfound)) ∧
    ∀ notfound, iniparserGetstring d (snprintfKey keySize sec name) (some notfound) =
      some ((fileView entries).getstring (snprintfKey keySize sec name) notfound) := by
  have hasked := h.asked hfile hsec hname
  rw [← h.view]
  cases hfind : iniparserFind d (snprintfKey keySize sec name) with
  | none =>
    constructor <;> intro notfound
    · simp [iniparserGetint, Device.Dictionary.getint, Dictionary.view, hfind]
    · simp [iniparserGetstring, Device.Dictionary.getstring, Dictionary.view, hfind]
  | some val =>
    cases val with
    | none => exact absurd hfind hasked
    | some val =>
      constructor <;> intro notfound
      · simp [iniparserGetint, Device.Dictionary.getint, Dictionary.view, hfind]
      · simp [iniparserGetstring, Device.Dictionary.getstring, Dictionary.view, hfind]

end View

/-- The engine asks the loaded file as if it were the text. -/
theorem load_view {content : CString} {entries : Entries}
    (hcontent : configuration content = some entries) {d : Dictionary}
    (hload : iniparserLoad (some content) .plenty = some (.dictionary d)) :
    d.view = fileView entries := by
  obtain ⟨result, hresult, hloads⟩ := load_compact content
  rw [hcontent] at hloads
  cases hresult.symm.trans hload
  cases hloads with
  | dictionary hd => exact hd.view

/-- From the text to the table: the file is loaded, every question of the engine is answered as the
text says, and when the initialisation succeeds the entries of the table are the device sections of
the text in their order, each with its numbers; a section with a number out of range makes it
fail. -/
theorem iotTable_of_text {content : CString} {entries : Entries}
    (hcontent : configuration content = some entries) (hfile : DeviceFile entries)
    (engine : Option IotEngine) (calloc : Bool) (strdup : CString → Bool × Bool) :
    ∃ d, iniparserLoad (some content) .plenty = some (.dictionary d) ∧
      (∀ sec ∈ sectionsOf entries, ∀ name : String, name.toList.length ≤ 14 →
        (∀ notfound, iniparserGetint d (snprintfKey keySize sec name) notfound =
          some ((fileView entries).getint (entryKey sec name) notfound)) ∧
        ∀ notfound, iniparserGetstring d (snprintfKey keySize sec name) (some notfound) =
          some ((fileView entries).getstring (entryKey sec name) notfound)) ∧
      (∀ engine', engineInitIotDevices engine calloc (some d.view) strdup = (.ok, engine') →
        ∃ set, engine' = some
            { iotDevSet := some set
              iotDevNum := min maxIotDevNum ((sectionsOf entries).countP isDeviceSection) } ∧
          ∀ i sec, ((sectionsOf entries).filter isDeviceSection)[i]? = some sec →
            i < maxIotDevNum → EntryMirrors (fileView entries) sec (set i)) ∧
      ∀ sec ∈ ((sectionsOf entries).filter isDeviceSection).take maxIotDevNum,
        BadSection (fileView entries) sec →
          (engineInitIotDevices engine calloc (some d.view) strdup).1 = .error := by
  obtain ⟨result, hload, hrel⟩ := load_compact content
  rw [hcontent] at hrel
  cases hrel with
  | dictionary hd =>
    rename_i d
    refine ⟨d, hload, ?_, ?_, ?_⟩
    · intro sec hsec name hname
      have hshort := hfile.short sec hsec
      have hkey : snprintfKey keySize sec name = entryKey sec name :=
        snprintfKey_eq (by unfold keySize maxSectionLen at *; omega)
      rw [← hkey]
      exact hd.answers hfile hsec hname
    · intro engine' h
      rw [hd.view] at h
      obtain ⟨set, hengine, -, hparsed⟩ := engineInit_ok h
      refine ⟨set, ?_, ?_⟩
      · rw [hengine, deviceSections, List.length_take, List.countP_eq_length_filter]
        rfl
      · intro i sec hsec hi
        apply parseSection_mirrors
        apply hparsed i sec
        unfold deviceSections
        rw [List.getElem?_take_of_lt hi]
        exact hsec
    · intro sec hsec hbad
      rw [hd.view]
      refine engineInit_status.resolve_left fun hok => ?_
      have hall : engineInitIotDevices engine calloc (some (fileView entries)) strdup =
          (.ok, (engineInitIotDevices engine calloc (some (fileView entries)) strdup).2) :=
        Prod.ext hok rfl
      obtain ⟨set, -, -, hparsed⟩ := engineInit_ok hall
      obtain ⟨i, hi⟩ := List.getElem?_of_mem hsec
      have hin : sec ∈ sectionsOf entries :=
        (List.mem_filter.mp (List.mem_of_mem_take hsec)).1
      exact parseSection_not_bad (hparsed i sec hi) (hfile.short sec hin) hbad

def gatewayText : CString :=
  "[Device_1]\ndev_id = 0x10\ndev_type = Modbustcp ; the pump\nmb_unit_id=007\n".toList

def gatewayEntries : Entries :=
  [("device_1".toList, none), ("device_1:dev_id".toList, some "0x10".toList),
    ("device_1:dev_type".toList, some "Modbustcp".toList),
    ("device_1:mb_unit_id".toList, some "007".toList)]

/-- The same device with a unit that no field holds. -/
def unitText : CString := gatewayText ++ "mb_unit_id = 256\n".toList

def unitEntries : Entries := assign "device_1:mb_unit_id".toList (some "256".toList) gatewayEntries

theorem gateway_deviceFile : DeviceFile gatewayEntries := ⟨by decide, by decide⟩

theorem unit_deviceFile : DeviceFile unitEntries := ⟨by decide, by decide⟩

theorem unit_badSection : BadSection (fileView unitEntries) "device_1".toList := by
  have htype : configuredType (fileView unitEntries) "device_1".toList = some .modbustcp := by
    decide +kernel
  unfold BadSection
  rw [htype]
  refine .inl ⟨modbustcpNums[1], by simp [modbustcpNums], .inl rfl, 0, 255, rfl, .inr ?_⟩
  decide +kernel

theorem iotTable_of_text_gateway :
    (∃ d set, iniparserLoad (some gatewayText) .plenty = some (.dictionary d) ∧
      iniparserGetint d (snprintfKey keySize "device_1".toList "dev_id") (-1) = some 16 ∧
      engineInitIotDevices (some emptyIotEngine) true (some d.view) (fun _ => (true, true)) =
        (.ok, some { iotDevSet := some set, iotDevNum := 1 }) ∧
      EntryMirrors (fileView gatewayEntries) "device_1".toList (set 0)) ∧
    ∃ d, iniparserLoad (some unitText) .plenty = some (.dictionary d) ∧
      (engineInitIotDevices (some emptyIotEngine) true (some d.view)
        fun _ => (true, true)).1 = .error := by
  constructor
  · have hcontent : configuration gatewayText = some gatewayEntries := by decide +kernel
    obtain ⟨d, hload, hasked, htable, -⟩ := iotTable_of_text hcontent gateway_deviceFile
      (some emptyIotEngine) true fun _ => (true, true)
    have hok : (engineInitIotDevices (some emptyIotEngine) true (some d.view)
        fun _ => (true, true)).1 = .ok := by
      rw [load_view hcontent hload]
      decide +kernel
    obtain ⟨set, hset, hentries⟩ := htable _ (Prod.ext hok rfl)
    refine ⟨d, set, hload, ?_, Prod.ext hok hset, hentries 0 _ (by decide) (by decide)⟩
    rw [(hasked "device_1".toList (by decide) "dev_id" (by decide)).1 (-1)]
    decide +kernel
  · obtain ⟨d, hload, -, -, hbad⟩ := iotTable_of_text (show configuration unitText =
      some unitEntries by decide +kernel) unit_deviceFile (some emptyIotEngine) true
      fun _ => (true, true)
    exact ⟨d, hload, hbad "device_1".toList (by decide) unit_badSection⟩

end BackendProxy.Config
