import Livox.Sdk.DeviceManager.Handlers
import Livox.Sdk.DeviceManager.Sockets

open checked execution ordered_map

namespace livox_lidar

open util device_manager

namespace DeviceManager

variable {kernel : Kernel} {crc : FastCRC} {s t : DeviceManager} {datagram : Datagram}

/-- What a step needs of the device manager so as not to follow a null pointer or to close a socket
twice. -/
structure Sound (s : DeviceManager) : Prop where
  channels : s.toChannels.Sound
  comm_port : s.listed ≠ [] → s.comm_port = true ∧ s.general.comm_port = true
  pointers : ∀ (dev_type : UInt8) (cfg : define.LivoxLidarCfg),
    s.type_lidars_cfg_map[dev_type]? = some cfg →
    s.custom_lidars_cfg_ptr.isSome ∧ s.sdk_framework_cfg_ptr.isSome
  handlers : s.HandlersSound
  started : s.is_initialized = true → s.detection_thread = true ∧ s.listed ≠ []

theorem new_sound : DeviceManager.new.Sound where
  channels :=
    { nodup := by simp [new, Channels.listed, Channels.detection_sockets, Channels.new]
      opened := by simp [new, Channels.listed, Channels.detection_sockets, Channels.new]
      commands := by simp [new, Channels.new]
      data := by simp [new, Channels.new]
      in_place := fun h => absurd rfl h
      stale := by simp [new, Channels.new]
      threads := fun h => absurd rfl h }
  comm_port := fun h => absurd rfl h
  pointers := by simp [new]
  handlers := ⟨General.new_sound _, by simp [new]⟩
  started := by simp [new]

section Init

theorem start_channels_completes_iff (h : s.toChannels.Sound) {create_channels : Channels → Attempt}
    (hcreate : ∀ d, Channels.Changes d (create_channels d).channels) :
    (∃ attempt, s.start_channels kernel create_channels = .ok attempt) ↔ s.toChannels.Joins kernel := by
  rw [start_channels]
  by_cases hjoins : s.toChannels.Joins kernel
  · obtain ⟨attempt, hstart, -⟩ := h.start kernel hjoins hcreate s.detection_host_ip
    rw [hstart, ok_bind]
    exact iff_of_true ⟨_, rfl⟩ hjoins
  · rw [Channels.start_of_not_joins kernel hjoins]
    exact iff_of_false (by simp) hjoins

theorem start_channels_sound (hchannels : s.toChannels.Sound) (hport : s.comm_port = true)
    (hgeneral : s.general.comm_port = true)
    (hpointers : ∀ (dev_type : UInt8) (cfg : define.LivoxLidarCfg),
      s.type_lidars_cfg_map[dev_type]? = some cfg →
      s.custom_lidars_cfg_ptr.isSome ∧ s.sdk_framework_cfg_ptr.isSome)
    (hhandlers : s.HandlersSound) {create_channels : Channels → Attempt}
    (hcreate : ∀ d, Channels.Changes d (create_channels d).channels) {attempt : Bool × DeviceManager}
    (hstart : s.start_channels kernel create_channels = .ok attempt) :
    ({ attempt.2 with is_initialized := attempt.1 } : DeviceManager).Sound := by
  have hjoins := (start_channels_completes_iff hchannels hcreate).mp ⟨attempt, hstart⟩
  obtain ⟨channels, hdone, hsound, hlisted⟩ := hchannels.start kernel hjoins hcreate s.detection_host_ip
  rw [start_channels, hdone, ok_bind] at hstart
  cases hstart
  refine ⟨hsound, fun _ => ⟨hport, hgeneral⟩, hpointers, ⟨hhandlers.general, hhandlers.viewer⟩,
    fun hret => ⟨?_, hlisted hret⟩⟩
  exact Bool.or_eq_true_iff.mpr (.inl hret)

/-- No second thread of the logger manager is started, and no thread that has failed is joined. -/
def InitJoins (kernel : Kernel) (s : DeviceManager) (args : InitArgs) : Prop :=
  s.is_initialized = true ∨ args.starts = false ∨ s.OneLogger args ∧ s.toChannels.Joins kernel

theorem Sound.sdk_init_completes_iff (h : s.Sound) (args : InitArgs) :
    (∃ t, s.sdk_init kernel args = .ok t) ↔ s.InitJoins kernel args := by
  obtain ⟨cfg, logger_init, log_enable⟩ := args
  rw [DeviceManager.sdk_init, InitJoins]
  cases hinit : s.is_initialized with
  | true => simp
  | false =>
    rw [if_neg Bool.false_ne_true]
    have hattempt : (∃ t, (s.init kernel ⟨cfg, logger_init, log_enable⟩ >>= fun attempt =>
          .ok { attempt.2 with is_initialized := attempt.1 } : Checked DeviceManager) = .ok t) ↔
        ∃ attempt, s.init kernel ⟨cfg, logger_init, log_enable⟩ = .ok attempt := by
      constructor
      · rintro ⟨t, hdone⟩
        obtain ⟨attempt, hattempt, -⟩ := bind_eq_ok_iff.mp hdone
        exact ⟨attempt, hattempt⟩
      · rintro ⟨attempt, hattempt⟩
        exact ⟨_, bind_eq_ok_iff.mpr ⟨attempt, hattempt, rfl⟩⟩
    rw [hattempt]
    cases cfg with
    | view host_ip =>
      cases logger_init with
      | false => exact iff_of_true ⟨_, rfl⟩ (.inr (.inl rfl))
      | true =>
        have hstarts : InitArgs.starts ⟨.view host_ip, true, log_enable⟩ = true := rfl
        rw [hstarts, or_iff_right Bool.false_ne_true, or_iff_right (by simp)]
        refine bind_completes_iff start_logger_completes_iff fun logged hlogged => ?_
        obtain ⟨rfl, -⟩ := start_logger_eq hlogged
        refine Iff.trans (start_channels_completes_iff ?_ ?_) Iff.rfl
        · exact h.channels
        · exact fun _ => .refl
    | configured lidars_cfg custom_lidars_cfg master_sdk =>
      rw [DeviceManager.init]
      dsimp only
      cases hhead : (lidars_cfg ++ custom_lidars_cfg).head? with
      | none =>
        have hnil := List.head?_eq_none_iff.mp hhead
        exact iff_of_true ⟨_, rfl⟩ (.inr (.inl (by simp [InitArgs.starts, hnil])))
      | some cfg =>
        have hne : (lidars_cfg ++ custom_lidars_cfg).isEmpty = false :=
          List.isEmpty_eq_false_iff.mpr (List.ne_nil_of_mem (List.mem_of_head? hhead))
        cases logger_init with
        | false => exact iff_of_true ⟨_, rfl⟩ (.inr (.inl rfl))
        | true =>
          have hstarts : InitArgs.starts
              ⟨.configured lidars_cfg custom_lidars_cfg master_sdk, true, log_enable⟩ = true := by
            simp [InitArgs.starts, hne]
          rw [hstarts, or_iff_right Bool.false_ne_true, or_iff_right (by simp)]
          refine bind_completes_iff start_logger_completes_iff fun logged hlogged => ?_
          obtain ⟨rfl, -⟩ := start_logger_eq hlogged
          refine Iff.trans (start_channels_completes_iff ?_ ?_) Iff.rfl
          · exact h.channels
          · exact fun d => Channels.create_lidar_channels_changes kernel d _ _ _

theorem Sound.sdk_init (h : s.Sound) {args : InitArgs} (hstep : s.sdk_init kernel args = .ok t) :
    t.Sound := by
  rw [DeviceManager.sdk_init] at hstep
  split at hstep
  · cases hstep
    exact h
  case isFalse hnot =>
  obtain ⟨attempt, hattempt, hstep⟩ := bind_eq_ok_iff.mp hstep
  cases hstep
  obtain ⟨cfg, logger_init, log_enable⟩ := args
  cases cfg with
  | view host_ip =>
    rw [DeviceManager.init] at hattempt
    dsimp only at hattempt
    split at hattempt
    · cases hattempt
      exact ⟨h.channels, fun hlisted => ⟨rfl, (h.comm_port hlisted).2⟩, h.pointers,
        ⟨h.handlers.general, h.handlers.viewer⟩, by simp⟩
    · obtain ⟨logged, hlogger, hattempt⟩ := bind_eq_ok_iff.mp hattempt
      obtain ⟨rfl, -⟩ := start_logger_eq hlogger
      refine start_channels_sound ?_ ?_ ?_ ?_ ?_ ?_ hattempt
      · exact h.channels
      · rfl
      · rfl
      · exact h.pointers
      · exact ⟨h.handlers.general.init_view host_ip, h.handlers.viewer⟩
      · exact fun _ => .refl
  | configured lidars_cfg custom_lidars_cfg master_sdk =>
    rw [DeviceManager.init] at hattempt
    dsimp only at hattempt
    split at hattempt
    · cases hattempt
      exact ⟨h.channels, h.comm_port, fun _ _ _ => ⟨rfl, rfl⟩,
        ⟨h.handlers.general.framework master_sdk, by simp⟩, by simp⟩
    · split at hattempt
      · cases hattempt
        exact ⟨h.channels, fun hlisted => ⟨rfl, (h.comm_port hlisted).2⟩, fun _ _ _ => ⟨rfl, rfl⟩,
          ⟨h.handlers.general.framework master_sdk, by simp⟩, by simp⟩
      · obtain ⟨logged, hlogger, hattempt⟩ := bind_eq_ok_iff.mp hattempt
        obtain ⟨rfl, -⟩ := start_logger_eq hlogger
        refine start_channels_sound ?_ ?_ ?_ ?_ ?_ ?_ hattempt
        · exact h.channels
        · rfl
        · rfl
        · exact fun _ _ _ => ⟨rfl, rfl⟩
        · exact ⟨h.handlers.general.init master_sdk, by simp⟩
        · exact fun d => Channels.create_lidar_channels_changes kernel d _ _ _

end Init

section OnData

theorem Sound.handled (h : s.Sound) (handled : List Handled) :
    ({ s with handled } : DeviceManager).Sound :=
  ⟨h.channels, h.comm_port, h.pointers, ⟨h.handlers.general, h.handlers.viewer⟩, h.started⟩

theorem Sound.call_completes_iff (h : s.Sound) (hlisted : s.listed ≠ []) (handled : Handled) :
    (∃ t, s.call crc datagram handled = .ok t) ↔
      (handled.is_command = true → s.TakesDatagram crc datagram) := by
  rw [DeviceManager.call]
  cases handled.is_command with
  | false => simp
  | true =>
    rw [if_pos rfl, imp_iff_right rfl]
    exact (h.handled (s.handled ++ [handled])).handlers.general_handler_completes_iff
      (h.comm_port hlisted).2 datagram

theorem Sound.call (h : s.Sound) {handled : Handled} (hcall : s.call crc datagram handled = .ok t) :
    t.Sound := by
  rw [DeviceManager.call] at hcall
  split at hcall
  case isFalse =>
    cases hcall
    exact h.handled _
  case isTrue =>
    obtain ⟨general, view_devices, rfl, hport, hhandlers⟩ :=
      (h.handled (s.handled ++ [handled])).handlers.general_handler hcall
    exact ⟨h.channels, fun hlisted => ⟨(h.comm_port hlisted).1, hport.trans (h.comm_port hlisted).2⟩,
      h.pointers, hhandlers, h.started⟩

/-- A lidar that would be registered is no PA, which there is no handler for. -/
def TakesRegistration (crc : FastCRC) (s : DeviceManager) (datagram : Datagram) : Prop :=
  datagram.port = kDetectionPort → ∀ answer ∈ detection_answer crc datagram,
    answer.detection_data.dev_type ∈ s.type_lidars_cfg_map → s.general.mode.is_view = false →
      answer.detection_data.dev_type ≠ kLivoxLidarTypePA

theorem Sound.register_lidar_completes_iff (h : s.Sound) (hlisted : s.listed ≠ []) :
    (∃ t, s.register_lidar kernel crc datagram = .ok t) ↔ s.TakesRegistration crc datagram := by
  obtain ⟨hport, hgeneral⟩ := h.comm_port hlisted
  rw [DeviceManager.register_lidar, TakesRegistration]
  by_cases hdetection : datagram.port = kDetectionPort
  case neg => simp [hdetection]
  case pos =>
  rw [if_neg (by simp [hdetection]), if_neg (by simp [hport]), imp_iff_right hdetection]
  cases detection_answer crc datagram with
  | none => simp
  | some answer =>
    dsimp only
    cases hcfg : s.type_lidars_cfg_map[answer.detection_data.dev_type]? with
    | none => simp [mem_iff_lookup, hcfg]
    | some cfg =>
      obtain ⟨hcustom, hframework⟩ := h.pointers _ cfg hcfg
      obtain ⟨custom_lidars_cfg, hcustom⟩ := Option.isSome_iff_exists.mp hcustom
      obtain ⟨master_sdk, hframework⟩ := Option.isSome_iff_exists.mp hframework
      have hmode : (s.general.init master_sdk).mode = s.general.mode := by
        rw [General.init, hgeneral]
        rfl
      have hcreate := (h.handlers.general.init master_sdk).create_command_handler_completes_iff rfl
        answer.detection_data.dev_type
      rw [hmode] at hcreate
      have hmem : answer.detection_data.dev_type ∈ s.type_lidars_cfg_map := mem_iff_lookup.mpr ⟨cfg, hcfg⟩
      rw [hcustom, hframework]
      simp only [h.channels.threads hlisted, Bool.true_eq_false, if_false, bind_eq_ok_iff,
        Option.mem_some_iff, forall_eq', hmem, true_imp_iff]
      rw [← hcreate]
      constructor
      · rintro ⟨t, general, hdone, -⟩
        exact ⟨general, hdone⟩
      · rintro ⟨general, hdone⟩
        exact ⟨_, general, hdone, rfl⟩

theorem Sound.register_lidar (h : s.Sound) (hlisted : s.listed ≠ [])
    (hstep : s.register_lidar kernel crc datagram = .ok t) : t.Sound := by
  obtain ⟨rfl, -⟩ | ⟨answer, general, cfg, custom_lidars_cfg, master_sdk, -, -, hcfg, hcustom, hframework,
    hgeneral, rfl⟩ := register_lidar_cases hstep
  · exact h
  · obtain ⟨hsound, hne⟩ := h.channels.changes hlisted
      (Channels.create_lidar_channels_changes kernel s.toChannels master_sdk s.log_enable
        (custom_lidars_cfg ++ [lidar_cfg datagram cfg]))
    have hinit := (h.handlers.general.init master_sdk).create_command_handler hgeneral
    obtain ⟨commands, rfl, -⟩ := General.create_command_handler_cases hgeneral
    refine ⟨hsound, fun _ => ⟨(h.comm_port hlisted).1, rfl⟩, fun _ _ _ => ⟨rfl, ?_⟩,
      ⟨?_, fun hnone => ?_⟩, fun hinit => ⟨(h.started hinit).1, hne⟩⟩
    · exact hframework ▸ rfl
    · exact hframework ▸ hinit
    · exact absurd (hframework.symm.trans hnone) (by simp)

/-- The handler that a datagram comes to can take it. -/
def TakesData (crc : FastCRC) (s : DeviceManager) (datagram : Datagram) : Prop :=
  if datagram.size = 0 ∨ datagram.lidar_ip = s.detection_host_ip then True
  else if s.is_view then
    (s.view_call datagram).is_command = true → s.TakesDatagram crc datagram
  else
    match s.custom_lidars_cfg_map[datagram.handle]? with
    | some cfg =>
      ∀ handled ∈ lidar_call datagram cfg, handled.is_command = true → s.TakesDatagram crc datagram
    | none => s.TakesRegistration crc datagram

theorem Sound.on_data_completes_iff (h : s.Sound) (hlisted : s.listed ≠ []) (datagram : Datagram) :
    (∃ t, s.on_data kernel crc datagram = .ok t) ↔ s.TakesData crc datagram := by
  rw [DeviceManager.on_data, TakesData]
  by_cases hsize : datagram.size = 0
  · simp [hsize]
  by_cases hhost : datagram.lidar_ip = s.detection_host_ip
  · simp [hhost]
  have hgo : ¬ (datagram.size = 0 ∨ datagram.lidar_ip = s.detection_host_ip) := not_or.mpr ⟨hsize, hhost⟩
  obtain ⟨handled, hrecords⟩ := s.handle_records_eq datagram
  have hs := h.handled handled
  rw [if_neg hsize, if_neg hhost, if_neg hgo, hrecords]
  dsimp only
  split
  · exact hs.call_completes_iff hlisted _
  cases s.custom_lidars_cfg_map[datagram.handle]? with
  | none => exact hs.register_lidar_completes_iff hlisted
  | some cfg =>
    dsimp only
    cases lidar_call datagram cfg with
    | none => simp
    | some call =>
      refine (hs.call_completes_iff hlisted call).trans ?_
      simp only [Option.mem_some_iff, forall_eq']
      exact Iff.rfl

theorem Sound.on_data (h : s.Sound) (hlisted : s.listed ≠ [])
    (hstep : s.on_data kernel crc datagram = .ok t) : t.Sound := by
  rw [DeviceManager.on_data] at hstep
  split at hstep
  · cases hstep
    exact h
  split at hstep
  · cases hstep
    exact h
  obtain ⟨handled, hrecords⟩ := s.handle_records_eq datagram
  rw [hrecords] at hstep
  dsimp only at hstep
  have hs := h.handled handled
  split at hstep
  · exact hs.call hstep
  split at hstep
  · split at hstep
    · exact hs.call hstep
    · cases hstep
      exact hs
  · exact hs.register_lidar hlisted hstep

/-- A viewer that remembers a device has the framework configuration. -/
theorem Sound.add_view_lidar (kernel : Kernel) (h : s.Sound) (hlisted : s.listed ≠ [])
    (info : device_manager.ViewLidarIpInfo) : ∃ t, s.add_view_lidar kernel info = .ok t ∧ t.Sound := by
  rw [DeviceManager.add_view_lidar]
  split
  · exact ⟨s, rfl, h⟩
  case h_2 view_device hdevice =>
  split
  · exact ⟨s, rfl, h⟩
  have hframework : s.sdk_framework_cfg_ptr ≠ none := fun hnone =>
    h.handlers.viewer hnone info.handle (mem_iff_lookup.mpr ⟨view_device, hdevice⟩)
  dsimp only
  rw [if_neg (by simp [h.channels.threads hlisted]), if_neg (by simp [hframework])]
  obtain ⟨hsound, hne⟩ := h.channels.changes hlisted
    (Channels.create_view_data_channel_changes kernel s.toChannels
      { info with host_ip := s.detection_host_ip })
  exact ⟨_, rfl, hsound, fun _ => h.comm_port hlisted, h.pointers,
    ⟨h.handlers.general, fun hnone => absurd hnone hframework⟩, fun hinit => ⟨(h.started hinit).1, hne⟩⟩

end OnData

/-- `LivoxLidarSdkUninit` closes the sockets that are listed and takes their delegates away, but for
those of the viewer's sockets. -/
theorem Sound.sdk_uninit (h : s.Sound) (hinit : s.is_initialized = true) :
    ∃ t, s.sdk_uninit = .ok t ∧ t.Sound ∧
      (∀ sock, sock ∈ t.process.sockets ↔ sock ∈ s.process.sockets ∧ sock ∉ s.listed) ∧
      ∀ sock, t.Delegated sock ↔ delegates s.data_io sock ∧ sock ∉ s.data_channel := by
  obtain ⟨hthread, hlisted⟩ := h.started hinit
  obtain ⟨channels, hdestory, hsound, hnil, hsockets, hdelegated⟩ :=
    h.channels.destory (h.channels.threads hlisted)
  have hdone : s.sdk_uninit =
      .ok
        { new with
          toChannels := channels
          sdk_framework_cfg_ptr := s.sdk_framework_cfg_ptr
          log_enable := s.log_enable
          general := General.new
          is_initialized := false
          handled := s.handled } := by
    rw [DeviceManager.sdk_uninit, if_neg (by simp [hinit]), DeviceManager.destory, hthread, hdestory]
    rfl
  refine ⟨_, hdone, ⟨hsound, fun hne => absurd hnil hne, ?_, ⟨General.new_sound _, ?_⟩, ?_⟩, hsockets,
    hdelegated hlisted⟩
  · simp [new]
  · simp [new]
  · simp

/-- What a step needs to complete. -/
def Completes (kernel : Kernel) (crc : FastCRC) (s : DeviceManager) : SdkEvent → Prop
  | .sdk_init args => s.InitJoins kernel args
  | .on_data sock datagram =>
    s.Delegated sock ∧ sock ∈ s.process.sockets → s.TakesData crc datagram
  | .add_view_lidar _ _ => True
  | .sdk_uninit => True

theorem Sound.listed_ne_nil (h : s.Sound) {sock : Int}
    (hsock : s.Delegated sock ∧ sock ∈ s.process.sockets) : s.listed ≠ [] :=
  List.ne_nil_of_mem (h.channels.listed hsock.2 hsock.1)

theorem Sound.step_completes_iff (kernel : Kernel) (crc : FastCRC) (h : s.Sound) (event : SdkEvent) :
    (∃ t, s.step kernel crc event = .ok t) ↔ s.Completes kernel crc event := by
  cases event with
  | sdk_init args => exact h.sdk_init_completes_iff args
  | on_data sock datagram =>
    rw [DeviceManager.step, Completes]
    split
    case isTrue hsock =>
      rw [imp_iff_right hsock]
      exact h.on_data_completes_iff (h.listed_ne_nil hsock) datagram
    case isFalse hsock => exact iff_of_true ⟨s, rfl⟩ fun hdue => absurd hdue hsock
  | add_view_lidar sock info =>
    refine iff_of_true ?_ trivial
    rw [DeviceManager.step]
    split
    case isTrue hsock =>
      obtain ⟨t, hone, -⟩ := h.add_view_lidar kernel (h.listed_ne_nil hsock) info
      exact ⟨t, hone⟩
    case isFalse => exact ⟨s, rfl⟩
  | sdk_uninit =>
    refine iff_of_true ?_ trivial
    cases hinit : s.is_initialized with
    | false => exact ⟨s, if_pos hinit⟩
    | true =>
      obtain ⟨t, hone, -⟩ := h.sdk_uninit hinit
      exact ⟨t, hone⟩

theorem Sound.step (h : s.Sound) {event : SdkEvent} (hstep : s.step kernel crc event = .ok t) :
    t.Sound := by
  cases event with
  | sdk_init args => exact h.sdk_init hstep
  | on_data sock datagram =>
    rw [DeviceManager.step] at hstep
    split at hstep
    case isTrue hsock => exact h.on_data (h.listed_ne_nil hsock) hstep
    case isFalse =>
      cases hstep
      exact h
  | add_view_lidar sock info =>
    rw [DeviceManager.step] at hstep
    split at hstep
    case isTrue hsock =>
      obtain ⟨u, hone, hu⟩ := h.add_view_lidar kernel (h.listed_ne_nil hsock) info
      rw [hone] at hstep
      cases hstep
      exact hu
    case isFalse =>
      cases hstep
      exact h
  | sdk_uninit =>
    cases hinit : s.is_initialized with
    | false =>
      rw [DeviceManager.step, DeviceManager.sdk_uninit, if_pos hinit] at hstep
      cases hstep
      exact h
    | true =>
      obtain ⟨u, hone, hu, -⟩ := h.sdk_uninit hinit
      rw [DeviceManager.step, hone] at hstep
      cases hstep
      exact hu

/-- Each socket that the manager knows of is open and stands in one place, one loop at most calls for
it, and `LivoxLidarSdkUninit` closes these sockets and no other, with the delegates that then stay. -/
structure Managed (s : DeviceManager) : Prop where
  once : s.listed.Nodup
  opened : ∀ sock ∈ s.listed, 0 < sock ∧ sock ∈ s.process.sockets
  one_loop : ∀ sock ∈ s.process.sockets, s.Delegated sock →
    sock ∈ s.listed ∧ ¬ (delegates s.detection_io sock ∧ delegates s.cmd_io sock) ∧
      ¬ (delegates s.detection_io sock ∧ delegates s.data_io sock) ∧
      ¬ (delegates s.cmd_io sock ∧ delegates s.data_io sock)
  uninit : s.is_initialized = true → ∃ t, s.sdk_uninit = .ok t ∧
    (∀ sock, sock ∈ t.process.sockets ↔ sock ∈ s.process.sockets ∧ sock ∉ s.listed) ∧
    ∀ sock, t.Delegated sock ↔ delegates s.data_io sock ∧ sock ∉ s.data_channel

theorem Sound.managed (h : s.Sound) : s.Managed where
  once := h.channels.nodup
  opened := h.channels.opened
  one_loop := by
    intro sock hopen hcalls
    have hmem := h.channels.listed hopen hcalls
    have hplace := h.channels.in_place (List.ne_nil_of_mem hmem)
    have hapart : ∀ x ∈ s.detection_sockets, x ∉ s.socket_vec ∧ x ∉ s.vec_broadcast_socket :=
      fun x hx => (h.channels.detected hx).2
    have hnodup : (s.socket_vec ++ s.vec_broadcast_socket).Nodup := by
      have hall := h.channels.nodup
      rw [Channels.listed, List.append_assoc] at hall
      exact (List.nodup_append.mp hall).2.1
    refine ⟨hmem, ?_, ?_, ?_⟩
    · rintro ⟨hdetection, hcmd⟩
      obtain ⟨hvec, hbroadcast⟩ := hapart sock (hplace.detection sock hdetection)
      rcases hplace.cmd sock hcmd with hcmd | hcmd
      · exact hvec (h.channels.commands sock hcmd)
      · exact hbroadcast hcmd
    · rintro ⟨hdetection, hdata⟩
      exact (hapart sock (hplace.detection sock hdetection)).1 (hplace.data sock hdata).1
    · rintro ⟨hcmd, hdata⟩
      obtain ⟨hvec, hnot⟩ := hplace.data sock hdata
      rcases hplace.cmd sock hcmd with hcmd | hcmd
      · exact hnot hcmd
      · exact (List.nodup_append.mp hnodup).2.2 sock hvec sock hcmd rfl
  uninit := fun hinit => by
    obtain ⟨t, hone, -, ht⟩ := h.sdk_uninit hinit
    exact ⟨t, hone, ht⟩

end DeviceManager

/-- However initializations that may fail, datagrams and the end of the SDK follow each other, the
sockets are managed, and no socket is closed twice. A run completes exactly when no second thread of the
logger manager is started, no thread that has failed is joined, no viewer without a framework
configuration is answered, and no PA. -/
theorem sockets_managed (kernel : Kernel) (crc : FastCRC) (events : List SdkEvent) :
    StatesSatisfy (DeviceManager.step kernel crc) DeviceManager.Managed DeviceManager.new events ∧
      ((∃ t, exec (DeviceManager.step kernel crc) DeviceManager.new events = .ok t) ↔
        StepsSatisfy (DeviceManager.step kernel crc) (DeviceManager.Completes kernel crc)
          DeviceManager.new events) := by
  have hkeeps : ∀ (s : DeviceManager) (event : SdkEvent) (t : DeviceManager), s.Sound →
      s.step kernel crc event = .ok t → t.Sound := fun _ _ _ hs hone => hs.step hone
  refine ⟨?_, ?_⟩
  · exact (statesSatisfy_invariant hkeeps DeviceManager.new_sound events).mono fun s hs => hs.managed
  · exact completes_iff_stepsSatisfy hkeeps (fun s event hs => hs.step_completes_iff kernel crc event)
      DeviceManager.new_sound events

end livox_lidar
