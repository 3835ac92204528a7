import BackendProxy.Device.IotLinks
import BackendProxy.Wire.Relay

namespace BackendProxy.Device

open Lib Queue Wire

/-! From the configured devices to the rounds: the sessions `engine_iot_dev_run` starts with. -/

/-- The working mode a device is configured with, if it is one. -/
def configuredMode (workingMode : Int32) : Option IotWorkMode :=
  if workingMode = iotWorkModeServer then some .server
  else if workingMode = iotWorkModeClient then some .client
  else none

/-! The mode of a session is the one of its device. -/

section Mode

variable {call : LinkCall → Bool} {workingMode : Int32} {k : LinkKernel} {proto : IotProtoType}
  {link : IotLink}

theorem bluetoothNonblock_mode {mode : IotWorkMode} {sk : Nat}
    (h : (bluetoothNonblock call mode sk k).1 = some link) : link.workingMode = some mode := by
  unfold bluetoothNonblock at h
  split at h
  · cases h
  · split at h
    · cases h
    · cases mode with
      | client =>
        cases h
        rfl
      | server =>
        cases h
        rfl

theorem bluetooth_mode (h : (engineInitBluetoothSession call workingMode k).1 = some link) :
    link.workingMode = configuredMode workingMode := by
  unfold engineInitBluetoothSession at h
  unfold configuredMode
  split at h
  · cases h
  · split at h
    · cases h
    · split at h
      · rename_i hserver
        rw [if_pos hserver]
        split at h
        · cases h
        · exact bluetoothNonblock_mode h
      · rename_i hserver
        rw [if_neg hserver]
        split at h
        · rename_i hclient
          rw [if_pos hclient]
          split at h
          · cases h
          · exact bluetoothNonblock_mode h
        · cases h

theorem can_mode (h : (engineInitCanSession call workingMode k).1 = some link) :
    link.workingMode = configuredMode workingMode := by
  unfold engineInitCanSession at h
  unfold configuredMode
  split at h
  · cases h
  · split at h
    · cases h
    · split at h
      · cases h
      · split at h
        · cases h
        · split at h
          · rename_i hserver
            rw [if_pos hserver]
            split at h
            · cases h
            · cases h
              rfl
          · rename_i hserver
            rw [if_neg hserver]
            split at h
            · rename_i hclient
              rw [if_pos hclient]
              split at h
              · cases h
              · split at h
                · cases h
                · split at h
                  · cases h
                  · cases h
                    rfl
            · cases h

theorem modbustcp_mode (h : (engineInitModbustcpSession call workingMode k).1 = some link) :
    link.workingMode = configuredMode workingMode := by
  unfold engineInitModbustcpSession at h
  split at h
  · rename_i hclient
    split at h
    · cases h
    · split at h
      · cases h
      · cases h
        rw [hclient]
        rfl
  · cases h

theorem initSession_mode (hs : Sends proto)
    (h : (initSession call workingMode proto k).1 = some link) :
    link.workingMode = configuredMode workingMode := by
  rcases hs with rfl | rfl | rfl
  · exact bluetooth_mode h
  · exact can_mode h
  · exact modbustcp_mode h

end Mode

section Start

variable {env : LinkEnv} {set : Nat → IotDevice} {start : LinkKernel} {st : LinkedSessions}
  {n : Nat} {proto : IotProtoType} {old : IotProtoType → Int}

/-- Every session of a sending protocol has the mode of the device of its call. -/
def Moded (set : Nat → IotDevice) (st : LinkedSessions) : Prop :=
  ∀ call ∈ st.sessions.calls, call.ok = true → Sends call.proto → ∃ link,
    st.links call.sess = some link ∧
      link.workingMode = configuredMode (set call.dev).config.workingMode

theorem Moded.call (h : Moded set st) (i : Nat) (hnone : st.sessions.sess proto = none)
    (hmem : env.malloc i = true)
    (holder : ∀ call ∈ st.sessions.calls, call.sess < st.sessions.next) :
    Moded set (st.createSession env i (set i) proto) := by
  obtain ⟨⟨made, kernel⟩, hinit, hspec, heq⟩ := linked_createSession_call i (set i) hnone hmem
  rw [heq]
  intro call hcall hok hs
  rcases mem_record.mp hcall with hcall | rfl
  · obtain ⟨link, hlink, hmode⟩ := h call hcall hok hs
    exact ⟨link, (Function.update_of_ne (Nat.ne_of_lt (holder call hcall)) _ _).trans hlink, hmode⟩
  · rcases hspec with ⟨hfailed, -, -⟩ | ⟨link, -, hmade, -⟩
    · rw [hfailed] at hok
      cases hok
    · refine ⟨link, (Function.update_self _ _ _).trans hmade, ?_⟩
      apply initSession_mode hs
      rw [hinit]
      exact hmade

end Start

end BackendProxy.Device
