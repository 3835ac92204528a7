import BackendProxy.Device.NetNodes

namespace BackendProxy.Device.NetDevices

open Lib Lib.Tailq Queue Pool

/-! The sections as the selector sees them. -/

section Views

variable {ini : Dictionary} {call : SectionCalls} {devName : CString}

/-- Whether the second conversion of the address succeeds. -/
def converts (call : SectionCalls) (ipAddr : CString) : Bool :=
  match devIpType call ipAddr with
  | .nonIp => false
  | .ipv4 => (call.inetPton .inet ipAddr).isSome
  | .ipv6 => (call.inetPton .inet6 ipAddr).isSome

/-- A section as the selector's model of the file has it. -/
def devSection (ini : Dictionary) (call : SectionCalls) (devName : CString) : DevSection :=
  { nameLen := devName.length
    ipAddr := (devStr ini devName "ip_addr").map (devIpType call)
    inetPton := (devStr ini devName "ip_addr").any (converts call)
    devId := devInt ini devName "dev_id"
    devType := devInt ini devName "dev_type"
    devStatus := devInt ini devName "dev_status"
    nsName := (devStr ini devName "ns_name").isSome
    nsId := ((devStr ini devName "ns_name").map call.openNamedNetns).getD (-1)
    nodes := (List.range maxSessNodeNum).all call.malloc }

def HighSpeedNetDevice.view (dev : HighSpeedNetDevice) : Device.HighSpeedNetDevice :=
  { devId := dev.devId, devType := dev.devType, devStatus := dev.devStatus, nsId := dev.nsId }

theorem readAddress_ok {ipAddr : CString} {address : List UInt8}
    (h : readAddress call ipAddr = .ok address) :
    (devIpType call ipAddr = .ipv4 ∨ devIpType call ipAddr = .ipv6) ∧
      converts call ipAddr = true := by
  unfold readAddress at h
  unfold converts
  cases htype : devIpType call ipAddr with
  | nonIp => simp [htype] at h
  | ipv4 =>
    refine ⟨Or.inl rfl, ?_⟩
    cases hpton : call.inetPton .inet ipAddr with
    | none => simp [htype, hpton] at h
    | some bytes => rfl
  | ipv6 =>
    refine ⟨Or.inr rfl, ?_⟩
    cases hpton : call.inetPton .inet6 ipAddr with
    | none => simp [htype, hpton] at h
    | some bytes => rfl

/-- The error of an address that is not taken over. -/
theorem read_addressError {ipAddr : CString} {err : DevInitError}
    (hlen : devName.length ≤ maxDevName) (hip : devStr ini devName "ip_addr" = some ipAddr)
    (h : readAddress call ipAddr = .error err) :
    (devSection ini call devName).read = .error err := by
  have hgt : ¬ devName.length > maxDevName := Nat.not_lt_of_le hlen
  unfold readAddress at h
  cases htype : devIpType call ipAddr with
  | nonIp =>
    simp only [htype] at h
    cases h
    simp only [DevSection.read, devSection, hgt, hip, htype, if_false, Option.map_some]
    rfl
  | ipv4 =>
    cases hpton : call.inetPton .inet ipAddr with
    | none =>
      simp only [htype, hpton] at h
      cases h
      simp only [DevSection.read, devSection, hgt, hip, htype, hpton, converts, if_false,
        Option.map_some, Option.any_some]
      rfl
    | some bytes => simp [htype, hpton] at h
  | ipv6 =>
    cases hpton : call.inetPton .inet6 ipAddr with
    | none =>
      simp only [htype, hpton] at h
      cases h
      simp only [DevSection.read, devSection, hgt, hip, htype, hpton, converts, if_false,
        Option.map_some, Option.any_some]
      rfl
    | some bytes => simp [htype, hpton] at h

/-- The checks behind those of the address. -/
theorem read_rest {s : DevSection} (hlen : ¬ s.nameLen > maxDevName)
    (hip : s.ipAddr = some .ipv4 ∨ s.ipAddr = some .ipv6) (hpton : s.inetPton = true) :
    s.read =
      if s.devId = -1 then .error .noDevId
      else
        match HSNetDevType.ofInt s.devType with
        | none => .error .invalidDevType
        | some devType =>
          match HSNetDevStatus.ofInt s.devStatus with
          | none => .error .invalidDevStatus
          | some devStatus =>
            if s.nsName = false then .error .noNsName
            else if s.nsId = -1 then .error .noNamespace
            else if s.nodes = false then .error .noSessionNode
            else .ok { devId := s.devId, devType, devStatus, nsId := s.nsId } := by
  rcases hip with hip | hip
  · unfold DevSection.read
    simp only [hlen, hip, hpton, if_true, if_false]
    rfl
  · unfold DevSection.read
    simp only [hlen, hip, hpton, if_true, if_false]
    rfl

theorem devSection_read (ini : Dictionary) (call : SectionCalls) (devName : CString) :
    (devSection ini call devName).read =
      match readSection ini call devName with
      | .error err => .error err
      | .ok dev =>
        match readNamespace ini call devName with
        | .error err => .error err
        | .ok ns =>
          if (devSection ini call devName).nodes then .ok { dev.view with nsId := ns.2 }
          else .error .noSessionNode := by
  unfold readSection
  by_cases hlen : devName.length > maxDevName
  · simp only [DevSection.read, devSection, hlen, if_true]
    rfl
  · rw [if_neg hlen]
    cases hip : devStr ini devName "ip_addr" with
    | none =>
      simp only [DevSection.read, devSection, hlen, hip, if_false, Option.map_none]
      rfl
    | some ipAddr =>
      cases hadr : readAddress call ipAddr with
      | error err =>
        simp only [hadr]
        exact read_addressError (Nat.le_of_not_lt hlen) hip hadr
      | ok address =>
        obtain ⟨htype, hconv⟩ := readAddress_ok hadr
        have hip' : (devSection ini call devName).ipAddr = some (devIpType call ipAddr) := by
          simp [devSection, hip]
        have hpton : (devSection ini call devName).inetPton = true := by
          simp [devSection, hip, hconv]
        rw [read_rest hlen (by rw [hip']; exact htype.imp (congrArg some) (congrArg some)) hpton]
        simp only [hadr, readNamespace, devSection]
        by_cases hid : devInt ini devName "dev_id" = -1
        · simp only [hid, if_true]
        · simp only [hid, if_false]
          cases HSNetDevType.ofInt (devInt ini devName "dev_type") with
          | none => rfl
          | some devType =>
            cases HSNetDevStatus.ofInt (devInt ini devName "dev_status") with
            | none => rfl
            | some devStatus =>
              rcases Option.eq_none_or_eq_some (devStr ini devName "ns_name") with
                hname | ⟨nsName, hname⟩
              · simp [hname]
              · by_cases hns : call.openNamedNetns nsName = -1
                · simp [hname, hns]
                · by_cases hnodes : (List.range maxSessNodeNum).all call.malloc = true
                  · simp [hname, hns, hnodes, HighSpeedNetDevice.view]
                  · simp [hname, hns, hnodes]

end Views

/-! One section, then all of them. -/

section Sections

variable {ini : Dictionary} {calls : Nat → SectionCalls} {s : Setup} {d : Nat} {devName : CString}

theorem markActive_toNat (hd : d < maxHsDevNum) (status : HSNetDevStatus) (mask : UInt16) :
    (markActive d status mask).toNat =
      if status = .active then mask.toNat ||| 1 <<< d else mask.toNat := by
  have hlt : 1 <<< d < 2 ^ 16 := by
    rw [Nat.one_shiftLeft]
    exact Nat.pow_lt_pow_right (by decide) hd
  unfold markActive
  split
  · rw [UInt16.toNat_or, UInt16.toNat_ofNat_of_lt' hlt]
  · rfl

/-- What a section that is accepted adds to the set. -/
def completed (ini : Dictionary) (devName : CString) (dev : HighSpeedNetDevice)
    (ns : CString × Int) : HighSpeedNetDevice :=
  { dev with
    nsName := ns.1, nsId := ns.2, tcpListeningPort := readTcpPort ini devName, tcpListener := -1 }

theorem completed_read {call : SectionCalls} {dev : HighSpeedNetDevice} {ns : CString × Int}
    (hdev : readSection ini call devName = .ok dev)
    (hns : readNamespace ini call devName = .ok ns)
    (hm : ∀ k < maxSessNodeNum, call.malloc k = true) :
    (devSection ini call devName).read = .ok (completed ini devName dev ns).view := by
  have hnodes : (devSection ini call devName).nodes = true := by
    simpa [devSection] using hm
  rw [devSection_read]
  simp only [hdev, hns, hnodes, if_true]
  rfl

theorem initDevice_accepts {call : SectionCalls} {dev : HighSpeedNetDevice} {ns : CString × Int}
    (h : Ready d s) (hdev : readSection ini call devName = .ok dev)
    (hns : readNamespace ini call devName = .ok ns)
    (hm : ∀ k < maxSessNodeNum, call.malloc k = true) :
    ∃ t, initDevice ini call devName d s = .ok (none, t) ∧ Ready (d + 1) t ∧
      t.activeMask = markActive d dev.devStatus s.activeMask ∧
      t.set = Function.update s.set d (completed ini devName dev ns) := by
  obtain ⟨t, hrun, ht, hsame⟩ := allocNodes_all maxSessNodeNum
    (h.initQueues (markActive d dev.devStatus s.activeMask)
      (Function.update s.set d (completed ini devName dev ns)))
    fun i _ hi => hm i (by omega)
  rw [Nat.zero_add] at ht
  refine ⟨t, ?_, ht.ready, hsame.activeMask, hsame.set⟩
  simp only [initDevice, hdev]
  refine (Prog.bind_of_ok rfl).trans ?_
  simp only [hns]
  refine (Prog.bind_of_ok rfl).trans ?_
  exact (Prog.bind_of_ok hrun).trans rfl

/-- The mask a section leaves that is not accepted. -/
def rejectedMask (ini : Dictionary) (call : SectionCalls) (devName : CString) (d : Nat)
    (mask : UInt16) : UInt16 :=
  match readSection ini call devName with
  | .error _ => mask
  | .ok dev => markActive d dev.devStatus mask

theorem initDevice_rejects {call : SectionCalls} (h : Ready d s)
    (hrej : ¬ Accepted ini call devName) :
    ∃ err t, initDevice ini call devName d s = .ok (some err, t) ∧ Emptied d t ∧
      t.activeMask = rejectedMask ini call devName d s.activeMask ∧
      (devSection ini call devName).read = .error err := by
  cases hdev : readSection ini call devName with
  | error err =>
    refine ⟨err, s, ?_, h.emptied, ?_, ?_⟩
    · simp only [initDevice, hdev]
      rfl
    · simp only [rejectedMask, hdev]
    · rw [devSection_read]
      simp only [hdev]
  | ok dev =>
    cases hns : readNamespace ini call devName with
    | error err =>
      refine ⟨err, { s with activeMask := markActive d dev.devStatus s.activeMask },
        ?_, ?_, ?_, ?_⟩
      · simp only [initDevice, hdev]
        refine (Prog.bind_of_ok rfl).trans ?_
        simp only [hns]
        rfl
      · exact ⟨h.emptied.shelves, h.emptied.allocated, h.emptied.nodup, h.emptied.own⟩
      · simp only [rejectedMask, hdev]
      · rw [devSection_read]
        simp only [hdev, hns]
    | ok ns =>
      have hfail : ∃ i, 0 ≤ i ∧ i < 0 + maxSessNodeNum ∧ call.malloc i = false := by
        by_contra hnone
        refine hrej ⟨⟨dev, hdev⟩, ⟨ns, hns⟩, fun k hk => ?_⟩
        by_contra hk'
        exact hnone ⟨k, Nat.zero_le k, by omega, Bool.eq_false_iff.mpr hk'⟩
      obtain ⟨t, hrun, ht, hsame⟩ := allocNodes_fails maxSessNodeNum
        (h.initQueues (markActive d dev.devStatus s.activeMask)
          (Function.update s.set d (completed ini devName dev ns))) (by omega) hfail
      have hnodes : ¬ (devSection ini call devName).nodes = true := by
        obtain ⟨i, -, hi, hfail⟩ := hfail
        simp only [devSection, List.all_eq_true, List.mem_range]
        exact fun hall => Bool.false_ne_true (hfail.symm.trans (hall i (by omega)))
      refine ⟨.noSessionNode, t, ?_, ht, ?_, ?_⟩
      · simp only [initDevice, hdev]
        refine (Prog.bind_of_ok rfl).trans ?_
        simp only [hns]
        refine (Prog.bind_of_ok rfl).trans ?_
        exact (Prog.bind_of_ok hrun).trans rfl
      · rw [hsame.activeMask]
        simp only [rejectedMask, hdev]
      · rw [devSection_read]
        simp only [hdev, hns, if_neg hnodes]

/-- The sections in front of section `d` are set up. -/
structure ReadUpTo (ini : Dictionary) (calls : Nat → SectionCalls) (d : Nat) (s : Setup) :
    Prop where
  ready : Ready d s
  accepted : ∀ j < d, ∀ devName, ini.sections[j]? = some devName →
    Accepted ini (calls j) devName
  mask : ∀ i, s.activeMask.toNat.testBit i = true ↔ i < d ∧ Marked ini calls i
  status : ∀ i < d, (s.set i).devStatus = .active ↔ Marked ini calls i

theorem readUpTo_fresh (memory : NodePtr → Option SessPtr) :
    ReadUpTo ini calls 0 (freshSetup memory 0) := by
  refine ⟨ready_fresh memory 0, ?_, ?_, ?_⟩
  · exact fun j hj => absurd hj (Nat.not_lt_zero j)
  · simp [freshSetup]
  · exact fun i hi => absurd hi (Nat.not_lt_zero i)

/-- Section `d` is marked if it is configured as active. -/
theorem ReadUpTo.marked_iff (h : ReadUpTo ini calls d s)
    (hname : ini.sections[d]? = some devName) :
    Marked ini calls d ↔
      ∃ dev, readSection ini (calls d) devName = .ok dev ∧ dev.devStatus = .active := by
  constructor
  · rintro ⟨-, devName', dev, hname', hdev, hact⟩
    cases hname.symm.trans hname'
    exact ⟨dev, hdev, hact⟩
  · rintro ⟨dev, hdev, hact⟩
    exact ⟨h.accepted, devName, dev, hname, hdev, hact⟩

theorem ReadUpTo.mark_iff (h : ReadUpTo ini calls d s) (hd : d < maxHsDevNum)
    (hname : ini.sections[d]? = some devName) {dev : HighSpeedNetDevice}
    (hdev : readSection ini (calls d) devName = .ok dev) (i : Nat) :
    (markActive d dev.devStatus s.activeMask).toNat.testBit i = true ↔
      i < d + 1 ∧ Marked ini calls i := by
  have hactive : dev.devStatus = .active ↔ Marked ini calls d := by
    rw [h.marked_iff hname]
    constructor
    · exact fun hact => ⟨dev, hdev, hact⟩
    · rintro ⟨dev', hdev', hact⟩
      cases hdev.symm.trans hdev'
      exact hact
  rw [markActive_toNat hd, mark_testBit, Bool.or_eq_true, h.mask i, Bool.and_eq_true,
    decide_eq_true_iff, decide_eq_true_iff, hactive]
  constructor
  · rintro (⟨hi, hmark⟩ | ⟨hmark, rfl⟩)
    · exact ⟨Nat.lt_succ_of_lt hi, hmark⟩
    · exact ⟨Nat.lt_succ_self d, hmark⟩
  · rintro ⟨hi, hmark⟩
    rcases Nat.lt_succ_iff_lt_or_eq.mp hi with hlt | rfl
    · exact Or.inl ⟨hlt, hmark⟩
    · exact Or.inr ⟨hmark, rfl⟩

theorem ReadUpTo.accepts (h : ReadUpTo ini calls d s) (hd : d < maxHsDevNum)
    (hname : ini.sections[d]? = some devName) (hacc : Accepted ini (calls d) devName) :
    ∃ t, initDevice ini (calls d) devName d s = .ok (none, t) ∧ ReadUpTo ini calls (d + 1) t := by
  obtain ⟨dev, hdev⟩ := hacc.section_ok
  obtain ⟨ns, hns⟩ := hacc.namespace_ok
  obtain ⟨t, hrun, hready, hmask, hset⟩ := initDevice_accepts h.ready hdev hns hacc.malloc_ok
  refine ⟨t, hrun, hready, ?_, ?_, ?_⟩
  · intro j hj devName' hname'
    rcases Nat.lt_succ_iff_lt_or_eq.mp hj with hlt | rfl
    · exact h.accepted j hlt devName' hname'
    · cases hname.symm.trans hname'
      exact hacc
  · intro i
    rw [hmask]
    exact h.mark_iff hd hname hdev i
  · intro i hi
    rw [hset]
    rcases Nat.lt_succ_iff_lt_or_eq.mp hi with hlt | rfl
    · rw [Function.update_of_ne hlt.ne]
      exact h.status i hlt
    · rw [Function.update_self, h.marked_iff hname]
      constructor
      · exact fun hact => ⟨dev, hdev, hact⟩
      · rintro ⟨dev', hdev', hact⟩
        cases hdev.symm.trans hdev'
        exact hact

theorem ReadUpTo.rejects (h : ReadUpTo ini calls d s) (hd : d < maxHsDevNum)
    (hname : ini.sections[d]? = some devName) (hrej : ¬ Accepted ini (calls d) devName) :
    ∃ err t, initDevice ini (calls d) devName d s = .ok (some err, t) ∧ Emptied d t ∧
      ∀ i, t.activeMask.toNat.testBit i = true ↔ Marked ini calls i := by
  obtain ⟨err, t, hrun, hempty, hmask, -⟩ := initDevice_rejects h.ready hrej
  refine ⟨err, t, hrun, hempty, fun i => ?_⟩
  -- no section behind the rejected one is marked
  have hlast : Marked ini calls i → i < d + 1 := by
    intro hmark
    by_contra hge
    exact hrej (hmark.1 d (by omega) devName hname)
  rw [hmask]
  cases hdev : readSection ini (calls d) devName with
  | error err =>
    simp only [rejectedMask, hdev]
    rw [h.mask i]
    refine ⟨And.right, fun hmark => ⟨?_, hmark⟩⟩
    refine Nat.lt_of_le_of_ne (Nat.le_of_lt_succ (hlast hmark)) ?_
    rintro rfl
    obtain ⟨dev, hdev', -⟩ := (h.marked_iff hname).mp hmark
    cases hdev.symm.trans hdev'
  | ok dev =>
    simp only [rejectedMask, hdev]
    rw [h.mark_iff hd hname hdev i]
    exact ⟨And.right, fun hmark => ⟨hlast hmark, hmark⟩⟩

/-- How the loop ends. -/
def LoopEnd (ini : Dictionary) (calls : Nat → SectionCalls) (cnt : Nat) (t : Setup) :
    Option DevInitError → Prop
  | none => AllAccepted ini calls ∧ cnt = ini.sections.length ∧ ReadUpTo ini calls cnt t
  | some _ =>
    ¬ AllAccepted ini calls ∧ Emptied cnt t ∧
      ∀ i, t.activeMask.toNat.testBit i = true ↔ Marked ini calls i

theorem initDevices_run {names : List CString} (h : ReadUpTo ini calls d s)
    (hnames : ini.sections.drop d = names) (hnum : ini.sections.length ≤ maxHsDevNum)
    (hd : d ≤ ini.sections.length) :
    ∃ failed cnt t, initDevices ini calls d names s = .ok ((failed, cnt), t) ∧
      LoopEnd ini calls cnt t failed := by
  induction names generalizing d s with
  | nil =>
    have hlen : d = ini.sections.length :=
      Nat.le_antisymm hd (List.drop_eq_nil_iff.mp hnames)
    refine ⟨none, d, s, rfl, fun i devName hi => ?_, hlen, h⟩
    obtain ⟨hlt, -⟩ := List.getElem?_eq_some_iff.mp hi
    exact h.accepted i (hlen ▸ hlt) devName hi
  | cons devName rest ih =>
    have hname : ini.sections[d]? = some devName := by
      rw [← List.head?_drop, hnames, List.head?_cons]
    have hlt : d < ini.sections.length := (List.getElem?_eq_some_iff.mp hname).1
    have hrest : ini.sections.drop (d + 1) = rest := by
      rw [← List.drop_drop, hnames, List.drop_one, List.tail_cons]
    by_cases hacc : Accepted ini (calls d) devName
    · obtain ⟨t, hrun, ht⟩ := h.accepts (Nat.lt_of_lt_of_le hlt hnum) hname hacc
      obtain ⟨failed, cnt, u, hloop, hend⟩ := ih ht hrest hlt
      exact ⟨failed, cnt, u, (Prog.bind_of_ok hrun).trans hloop, hend⟩
    · obtain ⟨err, t, hrun, hempty, hmask⟩ := h.rejects (Nat.lt_of_lt_of_le hlt hnum) hname hacc
      exact ⟨some err, d, t, (Prog.bind_of_ok hrun).trans rfl,
        fun hall => hacc (hall d devName hname), hempty, hmask⟩

theorem Ready.stocked (h : Ready d s) {i : Nat} (hi : i < d) : DeviceStocked s i := by
  refine ⟨⟨devNodes i, h.shelves.holds (i, .free) hi, ?_, ?_⟩,
    h.shelves.holds (i, .udp) hi, h.shelves.holds (i, .tcp) hi⟩
  · simp [devNodes]
  · intro n hn
    obtain ⟨rfl, hk⟩ := mem_devNodes.mp hn
    have hmem : n ∈ s.allocated := by
      rw [h.allocated]
      exact mem_earlierNodes.mpr ⟨hi, hk⟩
    refine ⟨h.sess n hmem, hmem, ?_⟩
    rw [h.freed]
    exact List.not_mem_nil

end Sections

/-! The function. -/

section Init

variable {malloc : Bool} {load : Option Dictionary} {ini : Dictionary}
  {calls : Nat → SectionCalls} {memory : NodePtr → Option SessPtr} {eng : NetEngine}

/-- An error before the first section leaves everything as it was. -/
theorem undone_early (err : DevInitError) :
    AllOrNothing eng { failed := some err, eng, setup := freshSetup memory eng.activeMask } :=
  ⟨rfl, fun _ hn => absurd hn List.not_mem_nil⟩

/-- Without a file the set is empty, so no bit may be set. -/
theorem unloaded_iff {set : Nat → HighSpeedNetDevice} {s : Setup} (hset : set = s.set) :
    AllOrNothing eng
        { failed := none, eng := { eng with devSet := some set, devNum := 0 }, setup := s } ↔
      eng.activeMask = 0 := by
  constructor
  · intro h
    apply UInt16.toNat_inj.mp
    refine Nat.eq_of_testBit_eq fun i => ?_
    have hbit := h.mask i
    simp only [Nat.not_lt_zero, false_and, iff_false, Bool.not_eq_true] at hbit
    rw [hbit]
    exact (Nat.zero_testBit i).symm
  · intro h
    refine ⟨congrArg some hset, fun i => ?_, fun d hd => absurd hd (Nat.not_lt_zero d)⟩
    simp [h]

theorem undone_iff {err : DevInitError} {s t : Setup}
    (hmarked : ∀ i, s.activeMask.toNat.testBit i = true ↔ Marked ini calls i)
    (hmask : t.activeMask = s.activeMask)
    (hfreed : ∀ n ∈ t.allocated, t.freed.count n = 1) :
    AllOrNothing eng
        { failed := some err, eng := { eng with activeMask := t.activeMask }, setup := t } ↔
      ∀ i, eng.activeMask.toNat.testBit i = true ↔ Marked ini calls i := by
  constructor
  · intro h
    have heq : t.activeMask = eng.activeMask := congrArg NetEngine.activeMask h.eng
    rwa [← heq, hmask]
  · intro h
    have heq : t.activeMask = eng.activeMask := by
      rw [hmask]
      apply UInt16.toNat_inj.mp
      exact Nat.eq_of_testBit_eq fun i => Bool.eq_iff_iff.mpr ((hmarked i).trans (h i).symm)
    exact ⟨by rw [heq], hfreed⟩

theorem initSections_iff (hnum : ini.sections.length ≤ maxHsDevNum) :
    ∃ o, initSections ini calls memory eng = .ok o ∧
      (AllOrNothing eng o ↔ AllAccepted ini calls ∨
        ∀ i, eng.activeMask.toNat.testBit i = true ↔ Marked ini calls i) := by
  have hstart : ReadUpTo ini calls 0 (freshSetup memory 0) := readUpTo_fresh memory
  obtain ⟨failed, cnt, t, hrun, hend⟩ :=
    initDevices_run hstart List.drop_zero hnum (Nat.zero_le _)
  cases failed with
  | none =>
    obtain ⟨hall, -, hread⟩ := hend
    have hinit : initSections ini calls memory eng =
        .ok
          { failed := none
            eng := { devSet := some t.set, devNum := cnt, activeMask := t.activeMask }
            setup := t } := by
      simp only [initSections, hrun]
    refine ⟨_, hinit, iff_of_true (Completed.mk rfl ?_ ?_) (Or.inl hall)⟩
    · intro i
      rw [hread.mask i]
      exact and_congr_right fun hi => (hread.status i hi).symm
    · exact fun d hd => hread.ready.stocked hd
  | some err =>
    obtain ⟨hrej, hempty, hmarked⟩ := hend
    obtain ⟨u, hrelease, hmask, hfreed⟩ := hempty.released
    have hinit : initSections ini calls memory eng =
        .ok
          { failed := some err, eng := { eng with activeMask := u.activeMask }, setup := u } := by
      simp only [initSections, hrun, hrelease]
    refine ⟨_, hinit, ?_⟩
    rw [undone_iff hmarked hmask hfreed, or_iff_right hrej]

/-- The setup of the devices is all or nothing exactly as long as the mask is. -/
theorem initHsNetDev_allOrNothing_iff (malloc : Bool) (load : Option Dictionary)
    (calls : Nat → SectionCalls) (memory : NodePtr → Option SessPtr) (eng : NetEngine) :
    ∃ o, engineInitHsNetDev malloc load calls memory eng = .ok o ∧
      (AllOrNothing eng o ↔ MaskSettled malloc load calls eng) := by
  cases malloc with
  | false =>
    exact ⟨_, rfl, iff_of_true (undone_early .noDeviceSet) fun h => absurd h Bool.false_ne_true⟩
  | true =>
    cases load with
    | none =>
      refine ⟨_, rfl, ?_⟩
      simp only [MaskSettled, true_implies]
      exact unloaded_iff rfl
    | some ini =>
      by_cases hnone : ini.sections.length = 0
      · refine ⟨{ failed := some .noDevice, eng, setup := freshSetup memory eng.activeMask },
          ?_, ?_⟩
        · simp only [engineInitHsNetDev, hnone, if_true]
        · exact iff_of_true (undone_early _) fun _ hpos => absurd hnone (Nat.ne_of_gt hpos)
      · by_cases hmany : ini.sections.length > maxHsDevNum
        · refine ⟨{
              failed := some .tooManyDevices, eng, setup := freshSetup memory eng.activeMask },
            ?_, ?_⟩
          · simp only [engineInitHsNetDev, hnone, hmany, if_true, if_false]
          · exact iff_of_true (undone_early _) fun _ _ hle => absurd hle (Nat.not_le_of_gt hmany)
        · obtain ⟨o, hrun, hiff⟩ :=
            @initSections_iff ini calls memory eng (Nat.le_of_not_gt hmany)
          refine ⟨o, ?_, hiff.trans ?_⟩
          · simp only [engineInitHsNetDev, hnone, hmany, if_true, if_false]
            exact hrun
          · constructor
            · exact fun h _ _ _ => h
            · exact fun h => h rfl (Nat.pos_of_ne_zero hnone) (Nat.le_of_not_gt hmany)

/-! The whole as the selector sees it. -/

def devSections (ini : Dictionary) (calls : Nat → SectionCalls) :
    Nat → List CString → List DevSection
  | _, [] => []
  | d, devName :: rest => devSection ini (calls d) devName :: devSections ini calls (d + 1) rest

/-- The result in the form of the selector's model. -/
def resultOf (set : DeviceSet) : Option DevInitError → Except DevInitError DeviceSet
  | none => .ok set
  | some err => .error err

def Setup.view (d : Nat) (s : Setup) : DeviceSet :=
  { devNum := d, activeMask := s.activeMask.toNat, hsNetDev := fun i => (s.set i).view }

theorem Setup.view_add {s t : Setup} {d : Nat} {dev : HighSpeedNetDevice} (hd : d < maxHsDevNum)
    (hmask : t.activeMask = markActive d dev.devStatus s.activeMask)
    (hset : t.set = Function.update s.set d dev) :
    t.view (d + 1) =
      { devNum := (s.view d).devNum + 1
        activeMask :=
          if dev.view.devStatus = .active then (s.view d).activeMask ||| 1 <<< (s.view d).devNum
          else (s.view d).activeMask
        hsNetDev := Function.update (s.view d).hsNetDev (s.view d).devNum dev.view } := by
  have hdevs : (fun i => (t.set i).view) =
      Function.update (fun i => (s.set i).view) d dev.view := by
    rw [hset]
    exact Function.comp_update HighSpeedNetDevice.view s.set d dev
  simp only [Setup.view, hmask, hdevs, markActive_toNat hd]
  rfl

theorem initDevices_view {s t : Setup} {d cnt : Nat} {names : List CString}
    {failed : Option DevInitError} (h : Ready d s) (hd : d + names.length ≤ maxHsDevNum)
    (hrun : initDevices ini calls d names s = .ok ((failed, cnt), t)) :
    readSections (s.view d) (devSections ini calls d names) = resultOf (t.view cnt) failed := by
  induction names generalizing d s with
  | nil =>
    cases hrun
    rfl
  | cons devName rest ih =>
    rw [List.length_cons] at hd
    by_cases hacc : Accepted ini (calls d) devName
    · obtain ⟨dev, hdev⟩ := hacc.section_ok
      obtain ⟨ns, hns⟩ := hacc.namespace_ok
      obtain ⟨u, hdevice, hready, hmask, hset⟩ := initDevice_accepts h hdev hns hacc.malloc_ok
      have hnext : initDevices ini calls (d + 1) rest u = .ok ((failed, cnt), t) :=
        (Prog.bind_of_ok hdevice).symm.trans hrun
      rw [← ih hready (by omega) hnext]
      simp only [devSections, readSections, completed_read hdev hns hacc.malloc_ok]
      have hmark : u.activeMask = markActive d (completed ini devName dev ns).devStatus
          s.activeMask := hmask
      rw [Setup.view_add (by omega) hmark hset]
    · obtain ⟨err, u, hdevice, -, -, hread⟩ := initDevice_rejects h hacc
      have hend : (Except.ok ((some err, d), u) : Except Halt _) = .ok ((failed, cnt), t) :=
        (Prog.bind_of_ok hdevice).symm.trans hrun
      cases hend
      simp only [devSections, readSections, hread]
      rfl

theorem devSections_length (ini : Dictionary) (calls : Nat → SectionCalls) (d : Nat)
    (names : List CString) : (devSections ini calls d names).length = names.length := by
  induction names generalizing d with
  | nil => rfl
  | cons devName rest ih => simp [devSections, ih]

def Outcome.view (o : Outcome) : DeviceSet :=
  { devNum := o.eng.devNum
    activeMask := o.eng.activeMask.toNat
    hsNetDev := fun i => (o.setup.set i).view }

theorem initSections_view {o : Outcome} (hnum : ini.sections.length ≤ maxHsDevNum)
    (hrun : initSections ini calls memory eng = .ok o) :
    readSections emptyDeviceSet (devSections ini calls 0 ini.sections) =
      resultOf o.view o.failed := by
  cases hloop : initDevices ini calls 0 ini.sections (freshSetup memory 0) with
  | error h =>
    simp only [initSections, hloop] at hrun
    cases hrun
  | ok r =>
    obtain ⟨⟨failed, cnt⟩, t⟩ := r
    have hview := initDevices_view (ready_fresh memory 0) (by omega) hloop
    simp only [initSections, hloop] at hrun
    cases failed with
    | none =>
      cases hrun
      exact hview
    | some err =>
      simp only at hrun
      split at hrun
      · cases hrun
      · cases hrun
        exact hview

/-- The selector's model of the initialisation, as long as a mask left over is not taken for that
of an empty set. -/
theorem engineInitHsNetDev_view {o : Outcome} (hfresh : load = none → eng.activeMask = 0)
    (hrun : engineInitHsNetDev malloc load calls memory eng = .ok o) :
    Device.engineInitHsNetDev malloc
        (load.map fun ini => devSections ini calls 0 ini.sections) =
      resultOf o.view o.failed := by
  cases malloc with
  | false =>
    cases hrun
    rfl
  | true =>
    cases load with
    | none =>
      cases hrun
      simp only [Outcome.view, hfresh rfl]
      rfl
    | some ini =>
      have hlen := devSections_length ini calls 0 ini.sections
      simp only [engineInitHsNetDev, if_true] at hrun
      simp only [Device.engineInitHsNetDev, Option.map_some, if_true, hlen]
      split at hrun
      · cases hrun
        rename_i hnone
        simp only [hnone, if_true]
        rfl
      · rename_i hnone
        split at hrun
        · cases hrun
          rename_i hmany
          simp only [hnone, hmany, if_true, if_false]
          rfl
        · rename_i hmany
          simp only [hnone, hmany, if_false]
          exact initSections_view (Nat.le_of_not_gt hmany) hrun

/-! The example of the documentation configures a `ns_id` where the code asks for a `ns_name`. -/

def documentedIni : Dictionary :=
  { sections := ["ens01".toList]
    int := fun key =>
      if key = "ens01:dev_id".toList then some 0
      else if key = "ens01:dev_type".toList then some 0
      else if key = "ens01:dev_status".toList then some 1
      else if key = "ens01:ns_id".toList then some 100
      else none
    str := fun key => if key = "ens01:ip_addr".toList then some "192.168.10.10".toList else none }

/-- Every call succeeds. -/
def goodCalls : SectionCalls :=
  { isIp := fun family _ => match family with | .inet => true | .inet6 => false
    inetPton := fun family _ =>
      match family with | .inet => some [192, 168, 10, 10] | .inet6 => none
    openNamedNetns := fun _ => 3
    malloc := fun _ => true }

/-- A refused file leaves its first device marked, in an engine without a device. -/
theorem refused_device_stays_marked :
    ∃ o, engineInitHsNetDev true (some documentedIni) (fun _ => goodCalls) (fun _ => none)
        { devSet := none, devNum := 0, activeMask := 0 } = .ok o ∧
      o.failed = some .noNsName ∧ o.eng.devSet = none ∧ o.eng.devNum = 0 ∧
      o.eng.activeMask = 1 ∧
      ¬ AllOrNothing { devSet := none, devNum := 0, activeMask := 0 } o := by
  refine ⟨_, rfl, rfl, rfl, rfl, rfl, fun h => ?_⟩
  have hmask := congrArg NetEngine.activeMask (Undone.eng h)
  exact absurd hmask (by decide)

end Init

end BackendProxy.Device.NetDevices
