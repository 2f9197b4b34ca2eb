import Livox.Sdk.DeviceManager.Changes

open checked ordered_map

namespace livox_lidar

open util device_manager general_command_handler

namespace device_manager.General

variable {g t : General} {framework_cfg : Option Bool} {dev_type : UInt8}

/-- What the general command handler needs so as not to follow a null pointer: no handler is there for
the PA, with a configuration one is there for each other type, and the framework configuration is there
when a device has been recorded. -/
structure Sound (g : General) (framework_cfg : Option Bool) : Prop where
  pa : kLivoxLidarTypePA ∉ g.commands.lidars_command_handler
  configured : g.comm_port = true → g.mode.is_view = false → framework_cfg ≠ none ∧
    ∀ dev_type : UInt8, (handler_type dev_type).isSome → dev_type ∈ g.commands.lidars_command_handler
  recorded : framework_cfg = none → ∀ handle, handle ∉ g.devices

theorem new_sound (framework_cfg : Option Bool) : General.new.Sound framework_cfg where
  pa := by simp [new, State.start]
  configured := by simp [new]
  recorded := by simp [new]

theorem Sound.framework (h : g.Sound framework_cfg) (master_sdk : Bool) : g.Sound (some master_sdk) where
  pa := h.pa
  configured := fun hport hview => ⟨by simp, (h.configured hport hview).2⟩
  recorded := by simp

theorem Sound.init_view (h : g.Sound framework_cfg) (host_ip : List UInt8) :
    (g.init_view host_ip).Sound framework_cfg where
  pa := h.pa
  configured := by simp [General.init_view, SdkMode.is_view]
  recorded := h.recorded

theorem types_of_handler_type (h : (handler_type dev_type).isSome) :
    dev_type ∈ [kLivoxLidarTypeIndustrialHAP, kLivoxLidarTypeMid360, kLivoxLidarTypeMid360s,
      kLivoxLidarTypeAvia2] := by
  rw [handler_type] at h
  grind

theorem Sound.init (h : g.Sound framework_cfg) (master_sdk : Bool) :
    (g.init master_sdk).Sound (some master_sdk) where
  pa := by
    simp only [General.init, List.mem_append, not_or]
    exact ⟨h.pa, fun hmem => absurd (List.mem_filter.mp hmem).1 (by decide)⟩
  configured := fun _ _ => by
    refine ⟨by simp, fun dev_type hsome => ?_⟩
    simp only [General.init, List.mem_append]
    by_cases hheld : dev_type ∈ g.commands.lidars_command_handler
    · exact .inl hheld
    · exact .inr (List.mem_filter.mpr ⟨types_of_handler_type hsome, by simpa using hheld⟩)
  recorded := by simp

/-- `CreateCommandHandler` leaves the handlers, or adds the one of a type that has a class. -/
theorem create_command_handler_cases (h : g.create_command_handler dev_type = .ok t) :
    ∃ commands, t = { g with commands } ∧
      (commands = g.commands ∨ (handler_type dev_type).isSome ∧
        commands.lidars_command_handler = dev_type :: g.commands.lidars_command_handler) := by
  obtain ⟨commands, hcommands, ht⟩ := bind_eq_ok_iff.mp h
  cases ht
  refine ⟨commands, rfl, ?_⟩
  rw [Detection.create_command_handler.eq_def] at hcommands
  split at hcommands
  · split at hcommands
    · split at hcommands
      · cases hcommands
        exact .inl rfl
      · cases hcommands
    · cases hcommands
      exact .inl rfl
  · split at hcommands
    · cases hcommands
      exact .inl rfl
    · split at hcommands
      case isTrue hsome =>
        cases hcommands
        exact .inr ⟨hsome, rfl⟩
      case isFalse =>
        cases hcommands
        exact .inl rfl

theorem Sound.create_command_handler (h : g.Sound framework_cfg)
    (hcreate : g.create_command_handler dev_type = .ok t) : t.Sound framework_cfg := by
  obtain ⟨commands, rfl, rfl | ⟨hsome, hadded⟩⟩ := create_command_handler_cases hcreate
  · exact h
  · refine ⟨?_, fun hport hview => ⟨(h.configured hport hview).1, fun other hother => ?_⟩, h.recorded⟩
    · rw [hadded, List.mem_cons, not_or]
      refine ⟨?_, h.pa⟩
      rintro rfl
      exact absurd hsome (by decide)
    · rw [hadded]
      exact List.mem_cons_of_mem _ ((h.configured hport hview).2 other hother)

/-- `CreateCommandHandler` finds a handler, but for the PA. -/
theorem Sound.create_command_handler_completes_iff (h : g.Sound framework_cfg) (hport : g.comm_port = true)
    (dev_type : UInt8) :
    (∃ t, g.create_command_handler dev_type = .ok t) ↔
      (g.mode.is_view = false → dev_type ≠ kLivoxLidarTypePA) := by
  have hcreate : (∃ t, g.create_command_handler dev_type = .ok t) ↔
      ∃ commands, Detection.create_command_handler g.mode g.commands dev_type = .ok commands := by
    rw [General.create_command_handler]
    simp [bind_eq_ok_iff]
  rw [hcreate, Detection.create_command_handler.eq_def]
  cases hmode : g.mode with
  | view host_ip =>
    refine iff_of_true ?_ (by simp [SdkMode.is_view])
    dsimp only
    split
    · exact ⟨_, rfl⟩
    · split <;> exact ⟨_, rfl⟩
  | configured master_sdk =>
    obtain ⟨-, htypes⟩ := h.configured hport (by rw [hmode]; rfl)
    by_cases hpa : dev_type = kLivoxLidarTypePA
    · subst hpa
      simp [h.pa, SdkMode.is_view]
    · refine iff_of_true ?_ fun _ => hpa
      dsimp only
      split
      case isTrue hknown =>
        rw [if_pos (htypes _ (hknown.resolve_left hpa))]
        exact ⟨_, rfl⟩
      case isFalse => exact ⟨_, rfl⟩

/-- A device is recorded. -/
theorem Sound.record (h : g.Sound framework_cfg) (hframework : framework_cfg ≠ none) (handle : UInt32) :
    ({ g with devices := g.devices.insert handle } : General).Sound framework_cfg :=
  ⟨h.pa, h.configured, fun hnone => absurd hnone hframework⟩

end device_manager.General

namespace DeviceManager

variable {crc : FastCRC} {s t : DeviceManager} {datagram : Datagram}

/-- What the handlers have to do with null pointers. A viewer that has no framework configuration has no
devices. -/
structure HandlersSound (s : DeviceManager) : Prop where
  general : s.general.Sound s.sdk_framework_cfg_ptr
  viewer : s.sdk_framework_cfg_ptr = none → ∀ handle, handle ∉ s.view_devices

/-- The general command handler can take an answer. In the viewer the address of the host has to be one,
and an answer of its network needs the framework configuration. -/
def TakesAnswer (s : DeviceManager) (detection_data : DetectionData) : Prop :=
  ∃ verified, Detection.verify_net_segment s.general.mode detection_data = .ok verified ∧
    (verified = true →
      if s.general.mode.is_view then s.sdk_framework_cfg_ptr ≠ none
      else detection_data.dev_type ≠ kLivoxLidarTypePA)

/-- The general command handler can take the datagram. -/
def TakesDatagram (crc : FastCRC) (s : DeviceManager) (datagram : Datagram) : Prop :=
  datagram.port = kDetectionPort → ∀ answer ∈ detection_answer crc datagram,
    answer.cmd_type ≠ kCommandTypeCmd → s.TakesAnswer answer.detection_data

theorem HandlersSound.handle_detection_data_completes_iff (h : s.HandlersSound)
    (hport : s.general.comm_port = true) (handle : UInt32) (detection_data : DetectionData) :
    (∃ t, s.general_handle_detection_data handle detection_data = .ok t) ↔
      s.TakesAnswer detection_data := by
  have hcreate := h.general.create_command_handler_completes_iff hport detection_data.dev_type
  rw [general_handle_detection_data, TakesAnswer]
  cases Detection.verify_net_segment s.general.mode detection_data with
  | error fault => simp
  | ok verified =>
    simp only [ok_bind, Except.ok.injEq, exists_eq_left']
    cases verified with
    | false => simp
    | true =>
      rw [if_neg (by simp), imp_iff_right rfl]
      cases hgeneral : s.general.create_command_handler detection_data.dev_type with
      | error fault =>
        obtain ⟨hview, hpa⟩ : s.general.mode.is_view = false ∧
            detection_data.dev_type = kLivoxLidarTypePA := by simpa [hgeneral] using hcreate
        simp [hview, hpa]
      | ok general =>
        obtain ⟨commands, rfl, -⟩ := General.create_command_handler_cases hgeneral
        have hpa := hcreate.mp ⟨_, hgeneral⟩
        rw [ok_bind]
        dsimp only
        cases hview : s.general.mode.is_view with
        | true =>
          by_cases hframework : s.sdk_framework_cfg_ptr = none
          · simp [hframework, h.general.recorded hframework]
          · rw [if_neg (by simp [hframework]), if_pos rfl]
            refine iff_of_true ?_ hframework
            split <;> exact ⟨_, rfl⟩
        | false =>
          have hframework := (h.general.configured hport hview).1
          rw [if_neg (by simp [hframework]), if_neg Bool.false_ne_true]
          refine iff_of_true ?_ (hpa hview)
          split <;> exact ⟨_, rfl⟩

theorem HandlersSound.general_handler_completes_iff (h : s.HandlersSound)
    (hport : s.general.comm_port = true) (datagram : Datagram) :
    (∃ t, s.general_handler crc datagram = .ok t) ↔ s.TakesDatagram crc datagram := by
  rw [general_handler, if_neg (by simp [hport]), TakesDatagram]
  by_cases hdetection : datagram.port = kDetectionPort
  case neg => simp [hdetection]
  case pos =>
  rw [if_neg (by simp [hdetection]), imp_iff_right hdetection]
  cases detection_answer crc datagram with
  | none => simp
  | some answer =>
    dsimp only
    by_cases hcmd : answer.cmd_type = kCommandTypeCmd
    · simp [hcmd]
    · rw [if_neg hcmd, h.handle_detection_data_completes_iff hport]
      simp [hcmd]

/-- What the general command handler leaves. -/
theorem HandlersSound.general_handler (h : s.HandlersSound)
    (hcall : s.general_handler crc datagram = .ok t) :
    ∃ general view_devices, t = { s with general, view_devices } ∧
      general.comm_port = s.general.comm_port ∧ t.HandlersSound := by
  obtain rfl | ⟨dev_type, general, hgeneral, hcases⟩ := general_handler_cases hcall
  · exact ⟨_, _, rfl, rfl, h⟩
  · have hsound := h.general.create_command_handler hgeneral
    obtain ⟨commands, rfl, -⟩ := General.create_command_handler_cases hgeneral
    obtain ⟨hknown, view_devices, rfl⟩ | ⟨rfl, hframework⟩ := hcases
    · exact ⟨_, view_devices, rfl, rfl, hsound, fun hnone => absurd hknown (h.general.recorded hnone _)⟩
    · exact ⟨_, _, rfl, rfl, hsound.record hframework _, h.viewer⟩

end DeviceManager

end livox_lidar
