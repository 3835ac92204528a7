import BackendProxy.Queue.ShmQueue
import Mathlib.Data.Nat.Bitwise
import Mathlib.Data.Nat.ModEq
import Mathlib.Logic.Function.Basic

namespace BackendProxy.Device

open Queue

/-! The configured network devices and the round-robin selector. -/

def maxHsDevNum : Nat := 16
def maxDevName : Nat := 32

inductive HSNetDevType where
  | traditionalEthernet
  | tsn
  | wifi
  | lteModule
  | nrModule
  deriving DecidableEq, Repr

inductive HSNetDevStatus where
  | inactive
  | active
  deriving DecidableEq, Repr

/-- `IS_VALID_HS_NET_DEV_TYPE`, with the type it stands for. -/
def HSNetDevType.ofInt (devType : Int32) : Option HSNetDevType :=
  if devType = 0 then some .traditionalEthernet
  else if devType = 1 then some .tsn
  else if devType = 2 then some .wifi
  else if devType = 3 then some .lteModule
  else if devType = 4 then some .nrModule
  else none

/-- `IS_VALID_HS_NET_DEV_STATUS`, with the status it stands for. -/
def HSNetDevStatus.ofInt (devStatus : Int32) : Option HSNetDevStatus :=
  if devStatus = 0 then some .inactive
  else if devStatus = 1 then some .active
  else none

/-- What `DEV_IP_TYPE` makes of an address string. -/
inductive IpType where
  | nonIp
  | ipv4
  | ipv6
  deriving DecidableEq, Repr

/-- A section of the INI file: what the parser returns for each key, -1 for a number that is not
there. `inetPton` tells whether the address is converted, `nsId` what opening the namespace gives,
`nodes` whether there is memory for the session nodes. -/
structure DevSection where
  nameLen : Nat
  ipAddr : Option IpType
  inetPton : Bool
  devId : Int32
  devType : Int32
  devStatus : Int32
  nsName : Bool
  nsId : Int
  nodes : Bool

structure HighSpeedNetDevice where
  devId : Int32
  devType : HSNetDevType
  devStatus : HSNetDevStatus
  nsId : Int
  deriving DecidableEq, Repr

inductive DevInitError where
  | noDeviceSet
  | noDevice
  | tooManyDevices
  | nameTooLong
  | noIpAddr
  | invalidIpAddr
  | invalidIpv4
  | invalidIpv6
  | noDevId
  | invalidDevType
  | invalidDevStatus
  | noNsName
  | noNamespace
  | noSessionNode
  deriving DecidableEq, Repr

/-- The checks on one section, in their order. -/
def DevSection.read (s : DevSection) : Except DevInitError HighSpeedNetDevice := do
  if s.nameLen > maxDevName then throw .nameTooLong
  match s.ipAddr with
  | none => throw .noIpAddr
  | some .nonIp => throw .invalidIpAddr
  | some .ipv4 => if s.inetPton then pure () else throw .invalidIpv4
  | some .ipv6 => if s.inetPton then pure () else throw .invalidIpv6
  if s.devId = -1 then throw .noDevId
  match HSNetDevType.ofInt s.devType with
  | none => throw .invalidDevType
  | some devType =>
    match HSNetDevStatus.ofInt s.devStatus with
    | none => throw .invalidDevStatus
    | some devStatus =>
      if s.nsName = false then throw .noNsName
      if s.nsId = -1 then throw .noNamespace
      if s.nodes = false then throw .noSessionNode
      pure { devId := s.devId, devType, devStatus, nsId := s.nsId }

/-- The device set of the engine; entries from `devNum` on are zeroed memory. -/
structure DeviceSet where
  devNum : Nat
  activeMask : Nat
  hsNetDev : Nat → HighSpeedNetDevice

def zeroDevice : HighSpeedNetDevice :=
  { devId := 0, devType := .traditionalEthernet, devStatus := .inactive, nsId := 0 }

def emptyDeviceSet : DeviceSet := { devNum := 0, activeMask := 0, hsNetDev := fun _ => zeroDevice }

/-- The loop over the sections; `devNum` counts those that are read. -/
def readSections (set : DeviceSet) : List DevSection → Except DevInitError DeviceSet
  | [] => .ok set
  | s :: rest =>
    match s.read with
    | .error err => .error err
    | .ok dev =>
      readSections
        { devNum := set.devNum + 1
          activeMask :=
            if dev.devStatus = .active then set.activeMask ||| 1 <<< set.devNum
            else set.activeMask
          hsNetDev := Function.update set.hsNetDev set.devNum dev } rest

/-- `engine_init_hs_net_dev`; a file that cannot be loaded stands for no device at all. -/
def engineInitHsNetDev (memory : Bool) (ini : Option (List DevSection)) :
    Except DevInitError DeviceSet :=
  if memory then
    match ini with
    | none => .ok emptyDeviceSet
    | some sections =>
      if sections.length = 0 then .error .noDevice
      else if sections.length > maxHsDevNum then .error .tooManyDevices
      else readSections emptyDeviceSet sections
  else .error .noDeviceSet

/-! The selector. `last_pos` is `none` before the first device was found. -/

/-- The scan of the first call: `n` positions from `cnt` on. The mask is overwritten by each
test. -/
def scanFirst (activeMask : Nat) : Nat → Nat → Option Nat
  | 0, _ => none
  | n + 1, cnt =>
    let activeMask := activeMask &&& 1 <<< cnt
    if activeMask ≠ 0 then some cnt else scanFirst activeMask n (cnt + 1)

/-- The scan of a later call: the positions behind the last one, around the end of the set. The
mask is overwritten here as well. -/
def scanNext (devNum : Nat) (activeMask : Nat) : Nat → Nat → Bool × Nat
  | 0, lastPos => (false, lastPos)
  | n + 1, lastPos =>
    let lastPos := if devNum = lastPos + 1 then 0 else lastPos + 1
    let activeMask := activeMask &&& 1 <<< lastPos
    if activeMask ≠ 0 then (true, lastPos) else scanNext devNum activeMask n lastPos

/-- The position after the call and, if a device was found, the low half of its `dev_id`. -/
def chooseDevRoundRobin (set : DeviceSet) (lastPos : Option Nat) : Option Nat × Option UInt16 :=
  if set.devNum = 0 then (lastPos, none)
  else
    match lastPos with
    | none =>
      match scanFirst set.activeMask set.devNum 0 with
      | some pos => (some pos, some (set.hsNetDev pos).devId.toUInt32.toUInt16)
      | none => (none, none)
    | some pos =>
      match scanNext set.devNum set.activeMask set.devNum pos with
      | (true, pos) => (some pos, some (set.hsNetDev pos).devId.toUInt32.toUInt16)
      | (false, pos) => (some pos, none)

/-- A device is returned with `OK`, anything else is an error. -/
def chooseHsNetDev (set : DeviceSet) (lastPos : Option Nat) : Option Nat × Option UInt16 :=
  match chooseDevRoundRobin set lastPos with
  | (pos, none) => (pos, none)
  | (pos, some devId) => if devId.toNat ≥ set.devNum then (pos, none) else (pos, some devId)

/-- `last_pos` before the `n`-th call. -/
def lastPosAt (set : DeviceSet) : Nat → Option Nat
  | 0 => none
  | n + 1 => (chooseHsNetDev set (lastPosAt set n)).1

/-- What the `n`-th call returns. -/
def choice (set : DeviceSet) (n : Nat) : Option UInt16 :=
  (chooseHsNetDev set (lastPosAt set n)).2

def DeviceSet.isActive (set : DeviceSet) (d : Nat) : Bool :=
  (set.hsNetDev d).devStatus = .active

def DeviceSet.activeNum (set : DeviceSet) : Nat :=
  ((List.range set.devNum).filter fun d => set.isActive d).length

/-- Every call finds a device as long as one is active, an active one inside the set, and as many
calls in a row as there are active devices return different ones. -/
structure RoundRobin (set : DeviceSet) : Prop where
  complete : ∀ n, (choice set n).isSome = true ↔ ∃ d < set.devNum, set.isActive d = true
  sound : ∀ n d, choice set n = some d → d.toNat < set.devNum ∧ set.isActive d.toNat = true
  fair : ∀ n i j, i < j → j < set.activeNum → choice set (n + i) ≠ choice set (n + j)

/-- No device is active, or all of them are and their IDs number the set. -/
def AllOrNone (set : DeviceSet) : Prop :=
  (∀ d < set.devNum, set.isActive d = false) ∨
    ((∀ d < set.devNum, set.isActive d = true ∧
        (set.hsNetDev d).devId.toUInt32.toUInt16.toNat < set.devNum) ∧
      ∀ d < set.devNum, ∀ d' < set.devNum,
        (set.hsNetDev d).devId.toUInt32.toUInt16 = (set.hsNetDev d').devId.toUInt32.toUInt16 →
          d = d')

/-! The mask the initialisation leaves. -/

/-- Bit `d` of the mask tells whether device `d` of the set is active. -/
def MaskExact (set : DeviceSet) : Prop :=
  ∀ d, set.activeMask.testBit d = (decide (d < set.devNum) && set.isActive d)

theorem maskExact_empty : MaskExact emptyDeviceSet := by
  intro d
  simp [emptyDeviceSet]

theorem mark_testBit (mask pos d : Nat) (active : Prop) [Decidable active] :
    (if active then mask ||| 1 <<< pos else mask).testBit d =
      (mask.testBit d || (decide active && decide (pos = d))) := by
  split
  · simp [Nat.testBit_or, Nat.one_shiftLeft, Nat.testBit_two_pow, *]
  · simp [*]

theorem MaskExact.add {set : DeviceSet} (hs : MaskExact set) (dev : HighSpeedNetDevice) :
    MaskExact
      { devNum := set.devNum + 1
        activeMask :=
          if dev.devStatus = .active then set.activeMask ||| 1 <<< set.devNum
          else set.activeMask
        hsNetDev := Function.update set.hsNetDev set.devNum dev } := by
  intro d
  simp only [mark_testBit, hs d]
  by_cases heq : d = set.devNum
  · subst d
    simp [DeviceSet.isActive]
  · have hlt : d < set.devNum + 1 ↔ d < set.devNum := by omega
    simp [DeviceSet.isActive, heq, Ne.symm heq, hlt]

theorem readSections_maskExact {set final : DeviceSet} {sections : List DevSection}
    (hs : MaskExact set) (h : readSections set sections = .ok final) : MaskExact final := by
  induction sections generalizing set with
  | nil =>
    cases h
    exact hs
  | cons s rest ih =>
    simp only [readSections] at h
    split at h
    · cases h
    · exact ih (hs.add _) h

theorem init_maskExact {memory : Bool} {ini : Option (List DevSection)} {set : DeviceSet}
    (h : engineInitHsNetDev memory ini = .ok set) : MaskExact set := by
  unfold engineInitHsNetDev at h
  repeat' split at h
  all_goals try cases h
  · exact maskExact_empty
  · exact readSections_maskExact maskExact_empty h

/-! One call looks at one position only: a test that fails clears the mask for all others. -/

theorem mask_test (mask pos : Nat) : mask &&& 1 <<< pos ≠ 0 ↔ mask.testBit pos = true := by
  rw [Nat.one_shiftLeft, Nat.and_two_pow]
  cases mask.testBit pos <;> simp

theorem mask_missed {mask pos : Nat} (h : mask.testBit pos = false) : mask &&& 1 <<< pos = 0 := by
  rw [Nat.one_shiftLeft, Nat.and_two_pow, h]
  simp

theorem scanFirst_cleared (n cnt : Nat) : scanFirst 0 n cnt = none := by
  induction n generalizing cnt with
  | zero => rfl
  | succ n ih => simp [scanFirst, ih]

theorem scanNext_cleared (devNum n lastPos : Nat) : (scanNext devNum 0 n lastPos).1 = false := by
  induction n generalizing lastPos with
  | zero => rfl
  | succ n ih => simp [scanNext, ih]

/-- The position the next call looks at. -/
def nextPos (set : DeviceSet) : Option Nat → Nat
  | none => 0
  | some pos => if set.devNum = pos + 1 then 0 else pos + 1

section Call

variable {set : DeviceSet} {lastPos : Option Nat}

theorem roundRobin_found (hbit : set.activeMask.testBit (nextPos set lastPos) = true)
    (hnum : set.devNum ≠ 0) :
    chooseDevRoundRobin set lastPos =
      (some (nextPos set lastPos),
        some (set.hsNetDev (nextPos set lastPos)).devId.toUInt32.toUInt16) := by
  obtain ⟨n, hn⟩ := Nat.exists_eq_succ_of_ne_zero hnum
  have htest := (mask_test _ _).mpr hbit
  cases lastPos with
  | none =>
    have hscan : scanFirst set.activeMask set.devNum 0 = some 0 := by
      rw [hn, scanFirst]
      exact if_pos htest
    simp only [chooseDevRoundRobin, hnum, if_false, hscan]
    rfl
  | some pos =>
    have hscan : scanNext set.devNum set.activeMask set.devNum pos =
        (true, nextPos set (some pos)) := by
      conv_lhs => arg 3; rw [hn]
      rw [scanNext]
      exact if_pos htest
    simp only [chooseDevRoundRobin, hnum, if_false, hscan]

theorem roundRobin_missed (hbit : set.activeMask.testBit (nextPos set lastPos) = false) :
    (chooseDevRoundRobin set lastPos).2 = none ∧
      (lastPos = none → (chooseDevRoundRobin set lastPos).1 = none) := by
  by_cases hnum : set.devNum = 0
  · simp [chooseDevRoundRobin, hnum]
  obtain ⟨n, hn⟩ := Nat.exists_eq_succ_of_ne_zero hnum
  cases lastPos with
  | none =>
    have hmask : set.activeMask &&& 1 <<< 0 = 0 := mask_missed hbit
    have hscan : scanFirst set.activeMask set.devNum 0 = none := by
      rw [hn, scanFirst]
      simp only [hmask, ne_eq, not_true_eq_false, if_false]
      exact scanFirst_cleared n _
    simp [chooseDevRoundRobin, hnum, hscan]
  | some pos =>
    have hmask : set.activeMask &&& 1 <<< (if set.devNum = pos + 1 then 0 else pos + 1) = 0 :=
      mask_missed hbit
    have hscan : (scanNext set.devNum set.activeMask set.devNum pos).1 = false := by
      conv_lhs => arg 1; arg 3; rw [hn]
      rw [scanNext]
      simp only [hmask, ne_eq, not_true_eq_false, if_false]
      exact scanNext_cleared _ n _
    cases hs : scanNext set.devNum set.activeMask set.devNum pos with
    | mk found pos' =>
      rw [hs] at hscan
      subst hscan
      simp [chooseDevRoundRobin, hnum, hs]

theorem choose_found (hm : MaskExact set) (hlt : nextPos set lastPos < set.devNum)
    (hact : set.isActive (nextPos set lastPos) = true) :
    chooseHsNetDev set lastPos =
      (some (nextPos set lastPos),
        if (set.hsNetDev (nextPos set lastPos)).devId.toUInt32.toUInt16.toNat ≥ set.devNum then none
        else some (set.hsNetDev (nextPos set lastPos)).devId.toUInt32.toUInt16) := by
  have hbit : set.activeMask.testBit (nextPos set lastPos) = true := by
    rw [hm]
    simp [hlt, hact]
  rw [chooseHsNetDev, roundRobin_found hbit (by omega)]
  dsimp only
  split <;> rfl

theorem choose_missed (hm : MaskExact set) (hact : set.isActive (nextPos set lastPos) = false) :
    (chooseHsNetDev set lastPos).2 = none ∧
      (lastPos = none → (chooseHsNetDev set lastPos).1 = none) := by
  have hbit : set.activeMask.testBit (nextPos set lastPos) = false := by
    rw [hm, hact, Bool.and_false]
  obtain ⟨hnone, hstay⟩ := roundRobin_missed hbit
  cases hc : chooseDevRoundRobin set lastPos with
  | mk pos found =>
    rw [hc] at hnone hstay
    dsimp only at hnone hstay
    subst found
    simp only [chooseHsNetDev, hc, true_and]
    exact hstay

end Call

section Calls

variable {set : DeviceSet}

/-- The `n`-th call looks at position `n`, around the end of the set. -/
def OnTurn (set : DeviceSet) (n : Nat) : Prop := nextPos set (lastPosAt set n) = n % set.devNum

theorem onTurn_succ {n : Nat} (hnum : 0 < set.devNum)
    (h : lastPosAt set (n + 1) = some (n % set.devNum)) : OnTurn set (n + 1) := by
  have hlt := Nat.mod_lt n hnum
  have hmod : (n % set.devNum + 1) % set.devNum = (n + 1) % set.devNum := Nat.mod_add_mod n _ 1
  unfold OnTurn
  rw [h, ← hmod]
  simp only [nextPos]
  split
  · rename_i heq
    rw [← heq, Nat.mod_self]
  · rename_i hne
    have hinside : n % set.devNum + 1 < set.devNum := by omega
    rw [Nat.mod_eq_of_lt hinside]

/-- Calls that all find an active device on their turn go through the set. -/
theorem calls_in_turn (hm : MaskExact set) (hnum : 0 < set.devNum)
    (hact : ∀ n, OnTurn set n → set.isActive (n % set.devNum) = true) (n : Nat) :
    OnTurn set n ∧
      choice set n =
        if (set.hsNetDev (n % set.devNum)).devId.toUInt32.toUInt16.toNat ≥ set.devNum then none
        else some (set.hsNetDev (n % set.devNum)).devId.toUInt32.toUInt16 := by
  have hturn : ∀ n, OnTurn set n := by
    intro n
    induction n with
    | zero => simp [OnTurn, lastPosAt, nextPos]
    | succ n ih =>
      have hlt : nextPos set (lastPosAt set n) < set.devNum := by
        rw [ih]
        exact Nat.mod_lt n hnum
      apply onTurn_succ hnum
      rw [lastPosAt, choose_found hm hlt (by rw [ih]; exact hact n ih), ih]
  have hpos := hturn n
  refine ⟨hpos, ?_⟩
  unfold OnTurn at hpos
  rw [choice, choose_found hm (by rw [hpos]; exact Nat.mod_lt n hnum)
    (by rw [hpos]; exact hact n (hturn n)), hpos]

theorem choice_none (hm : MaskExact set) (hnone : ∀ d < set.devNum, set.isActive d = false)
    (n : Nat) : choice set n = none := by
  by_cases hnum : set.devNum = 0
  · simp [choice, chooseHsNetDev, chooseDevRoundRobin, hnum]
  have hfirst : (chooseHsNetDev set none).2 = none ∧
      (none = none → (chooseHsNetDev set none).1 = none) :=
    choose_missed hm (hnone 0 (by omega))
  have hpos : lastPosAt set n = none := by
    induction n with
    | zero => rfl
    | succ n ih =>
      rw [lastPosAt, ih]
      exact hfirst.2 rfl
  rw [choice, hpos]
  exact hfirst.1

theorem activeNum_all (hall : ∀ d < set.devNum, set.isActive d = true) :
    set.activeNum = set.devNum := by
  unfold DeviceSet.activeNum
  rw [List.filter_eq_self.mpr, List.length_range]
  intro d hd
  exact hall d (List.mem_range.mp hd)

theorem roundRobin_none (hm : MaskExact set) (hnone : ∀ d < set.devNum, set.isActive d = false) :
    RoundRobin set := by
  refine ⟨fun n => ⟨fun h => ?_, fun h => ?_⟩, fun n d hd => ?_, fun n i j hij hj => ?_⟩
  · rw [choice_none hm hnone] at h
    cases h
  · obtain ⟨d, hd, hact⟩ := h
    rw [hnone d hd] at hact
    cases hact
  · rw [choice_none hm hnone] at hd
    cases hd
  · have hzero : set.activeNum = 0 := by
      unfold DeviceSet.activeNum
      rw [List.filter_eq_nil_iff.mpr]
      · rfl
      · intro d hd
        simp [hnone d (List.mem_range.mp hd)]
    omega

theorem roundRobin_all (hm : MaskExact set) (hpos : 0 < set.devNum)
    (hall : ∀ d < set.devNum, set.isActive d = true ∧
      (set.hsNetDev d).devId.toUInt32.toUInt16.toNat < set.devNum)
    (hinj : ∀ d < set.devNum, ∀ d' < set.devNum,
      (set.hsNetDev d).devId.toUInt32.toUInt16 = (set.hsNetDev d').devId.toUInt32.toUInt16 →
        d = d') : RoundRobin set := by
  have hturn : ∀ n, choice set n =
      some (set.hsNetDev (n % set.devNum)).devId.toUInt32.toUInt16 := by
    intro n
    have hmod := hall (n % set.devNum) (Nat.mod_lt n hpos)
    rw [(calls_in_turn hm hpos (fun n _ => (hall _ (Nat.mod_lt n hpos)).1) n).2,
      if_neg (Nat.not_le.mpr hmod.2)]
  refine ⟨fun n => ?_, fun n d hd => ?_, fun n i j hij hj heq => ?_⟩
  · rw [hturn n]
    exact ⟨fun _ => ⟨0, hpos, (hall 0 hpos).1⟩, fun _ => rfl⟩
  · rw [hturn n, Option.some.injEq] at hd
    subst d
    have hlt := (hall (n % set.devNum) (Nat.mod_lt n hpos)).2
    exact ⟨hlt, (hall _ hlt).1⟩
  · rw [activeNum_all fun d hd => (hall d hd).1] at hj
    rw [hturn, hturn, Option.some.injEq] at heq
    have hmod := hinj _ (Nat.mod_lt _ hpos) _ (Nat.mod_lt _ hpos) heq
    have hcancel : i % set.devNum = j % set.devNum := Nat.ModEq.add_left_cancel' n hmod
    rw [Nat.mod_eq_of_lt (by omega), Nat.mod_eq_of_lt hj] at hcancel
    omega

theorem AllOrNone.roundRobin (hm : MaskExact set) (h : AllOrNone set) : RoundRobin set := by
  rcases h with hnone | ⟨hall, hinj⟩
  · exact roundRobin_none hm hnone
  · rcases Nat.eq_zero_or_pos set.devNum with hzero | hpos
    · exact roundRobin_none hm fun d hd => by omega
    · exact roundRobin_all hm hpos hall hinj

theorem RoundRobin.allOrNone (hm : MaskExact set) (h : RoundRobin set) : AllOrNone set := by
  by_cases hsome : ∃ d < set.devNum, set.isActive d = true
  · right
    obtain ⟨d₀, hd₀, -⟩ := id hsome
    have hpos : 0 < set.devNum := by omega
    -- every call succeeds, so the device on turn is active each time
    have hact : ∀ n, OnTurn set n → set.isActive (n % set.devNum) = true := by
      intro n hturn
      cases ha : set.isActive (n % set.devNum) with
      | true => rfl
      | false =>
        have hnone : (chooseHsNetDev set (lastPosAt set n)).2 = none :=
          (choose_missed hm (by rw [hturn]; exact ha)).1
        have hfound := (h.complete n).mpr hsome
        rw [choice, hnone] at hfound
        cases hfound
    have hall : ∀ d < set.devNum, set.isActive d = true ∧
        (set.hsNetDev d).devId.toUInt32.toUInt16.toNat < set.devNum ∧
        choice set d = some (set.hsNetDev d).devId.toUInt32.toUInt16 := by
      intro d hd
      obtain ⟨hturn, hchoice⟩ := calls_in_turn hm hpos hact d
      have hfound := (h.complete d).mpr hsome
      have ha := hact d hturn
      rw [Nat.mod_eq_of_lt hd] at hchoice ha
      split at hchoice
      · rw [hchoice] at hfound
        cases hfound
      · exact ⟨ha, by omega, hchoice⟩
    refine ⟨fun d hd => ⟨(hall d hd).1, (hall d hd).2.1⟩, fun d hd d' hd' heq => ?_⟩
    have hnum := activeNum_all fun d hd => (hall d hd).1
    have hsame : choice set d = choice set d' := by
      rw [(hall d hd).2.2, (hall d' hd').2.2, heq]
    rcases Nat.lt_trichotomy d d' with hlt | heq' | hgt
    · exact absurd (by simpa using hsame) (h.fair 0 d d' hlt (by omega))
    · exact heq'
    · exact absurd (by simpa using hsame.symm) (h.fair 0 d' d hgt (by omega))
  · left
    intro d hd
    cases ha : set.isActive d with
    | false => rfl
    | true => exact absurd ⟨d, hd, ha⟩ hsome

end Calls

/-- The selector does what it is for exactly on the sets where every position it comes to is
active, with IDs that number the devices, or where there is nothing to select. -/
theorem roundRobin_iff (memory : Bool) (ini : Option (List DevSection)) (set : DeviceSet)
    (accepted : engineInitHsNetDev memory ini = .ok set) : RoundRobin set ↔ AllOrNone set :=
  ⟨fun h => h.allOrNone (init_maskExact accepted), fun h => h.roundRobin (init_maskExact accepted)⟩

/-- A section of the kind the file has, for a device of the given ID and status. -/
def deviceSection (devId devStatus : Int32) : DevSection :=
  { nameLen := 5, ipAddr := some .ipv4, inetPton := true, devId, devType := 0, devStatus,
    nsName := true, nsId := 3, nodes := true }

/-- Two active devices with their positions as IDs. -/
theorem roundRobin_iff_two :
    ∃ set, engineInitHsNetDev true (some [deviceSection 0 1, deviceSection 1 1]) = .ok set ∧
      RoundRobin set := by
  refine ⟨_, rfl, (roundRobin_iff true (some [deviceSection 0 1, deviceSection 1 1]) _ rfl).mpr
    (.inr ⟨?_, ?_⟩)⟩
  · decide
  · decide

/-- The first device is inactive, the second one active: no call ever finds it. -/
theorem inactive_first_hides_second :
    ¬ ∀ memory ini set, engineInitHsNetDev memory ini = .ok set → RoundRobin set := by
  intro h
  have hrr := h true (some [deviceSection 0 0, deviceSection 1 1]) _ rfl
  have hfound := (hrr.complete 0).mpr ⟨1, by decide, by decide⟩
  revert hfound
  decide

end BackendProxy.Device
