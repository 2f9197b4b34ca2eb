import Livox.Sdk.DeviceManager.Granted

open checked execution memory ordered_map inet

namespace livox_lidar

open util device_manager params_check

/-- The text of an address is read as that address. -/
theorem inet_addr_ip_string (handle : UInt32) : inet_addr (ip_string (bytes 4 handle.toNat)) = handle := by
  have hhandle := handle.toNat_lt
  have hswapped : spelled (ip_string (bytes 4 handle.toNat)) = some (htonl handle) := by
    simp only [bytes]
    rw [spelled_ip_string, htonl]
    simp only [UInt8.toNat_ofNat', Nat.div_div_eq_div_mul, Nat.reducePow, Nat.reduceMul]
    refine congrArg (fun n => some (UInt32.ofNat n)) ?_
    omega
  rw [inet_addr_spelled hswapped, htonl_htonl]

/-- A configuration under the address of a lidar. -/
def define.LivoxLidarCfg.at_handle (cfg : define.LivoxLidarCfg) (handle : UInt32) :
    define.LivoxLidarCfg :=
  { cfg with
    lidar_net_info :=
      { cfg.lidar_net_info with lidar_ipaddr := ip_string (bytes 4 handle.toNat) } }

theorem handle_at_handle (cfg : define.LivoxLidarCfg) (handle : UInt32) :
    (cfg.at_handle handle).handle = handle := inet_addr_ip_string handle

namespace device_manager

/-- The configuration of a type of device, which is the last one for it. -/
def type_cfg (lidars_cfg : List define.LivoxLidarCfg) (dev_type : UInt8) : Option define.LivoxLidarCfg :=
  (lidars_cfg.filter (·.device_type = dev_type)).getLast?

/-- What an answer of a lidar of some type makes of the lidars that have been registered: it is one of
them from then on, if it is neither configured nor one of them, and its type has a configuration. -/
def register (lidars_cfg custom_lidars_cfg registered : List define.LivoxLidarCfg)
    (answer : UInt32 × UInt8) : List define.LivoxLidarCfg :=
  if ∃ cfg ∈ custom_lidars_cfg ++ registered, cfg.handle = answer.1 then registered
  else registered ++ ((type_cfg lidars_cfg answer.2).map (·.at_handle answer.1)).toList

end device_manager

namespace DeviceManager

variable {kernel : Kernel} {crc : FastCRC} {s t : DeviceManager}
  {lidars_cfg custom_lidars_cfg registered : List define.LivoxLidarCfg} {master_sdk log_enable : Bool}

/-- The lidar that an event brings an answer of, and its type. -/
def answer (crc : FastCRC) (s : DeviceManager) : SdkEvent → Option (UInt32 × UInt8)
  | .on_data sock datagram =>
    if s.Delegated sock ∧ sock ∈ s.process.sockets then
      (s.answered_type crc datagram).map (datagram.handle, ·)
    else none
  | _ => none

/-- The answers that the events of a run bring. -/
def answers (kernel : Kernel) (crc : FastCRC) : DeviceManager → List SdkEvent → List (UInt32 × UInt8)
  | _, [] => []
  | s, event :: rest =>
    (s.answer crc event).toList ++
      match s.step kernel crc event with
      | .ok t => answers kernel crc t rest
      | .error _ => []

/-- The lidars of the manager are those of the configuration and those that have been registered since:
each under a handle of its own, with the configuration of a type, and with its channels. Every
registration opens a socket for broadcast messages again for each lidar that has one. -/
structure Registered (s : DeviceManager) (lidars_cfg custom_lidars_cfg registered : List define.LivoxLidarCfg)
    (master_sdk log_enable : Bool) : Prop where
  lidars : s.custom_lidars_cfg_ptr = some (custom_lidars_cfg ++ registered)
  once : (registered.map (·.handle)).Nodup
  apart : ∀ cfg ∈ registered, ∀ other ∈ custom_lidars_cfg, cfg.handle ≠ other.handle
  known : ∀ handle, handle ∈ s.custom_lidars_cfg_map ↔
    ∃ cfg ∈ custom_lidars_cfg ++ registered, cfg.handle = handle
  typed : ∀ cfg ∈ registered, ∃ base, type_cfg lidars_cfg cfg.device_type = some base ∧
    cfg = base.at_handle cfg.handle
  data : ∀ cfg ∈ custom_lidars_cfg ++ registered,
    ∀ key ∈ Channels.keys cfg.host_net_info.host_ip (Channels.data_ports cfg.host_net_info),
      key ∈ s.channel_info
  command : ∀ cfg ∈ custom_lidars_cfg ++ registered,
    ∀ key ∈ Channels.keys cfg.host_net_info.host_ip
      (Channels.command_ports master_sdk log_enable cfg.device_type cfg.host_net_info),
      key ∈ s.custom_command_channel
  broadcast : s.vec_broadcast_socket.length =
    (registered.inits.map fun front =>
      (custom_lidars_cfg ++ front).countP fun cfg => has_broadcast_socket cfg.device_type).sum

/-- The invariant of an initialized manager behind `Registered`. -/
structure RegisteredInv (s : DeviceManager)
    (lidars_cfg custom_lidars_cfg registered : List define.LivoxLidarCfg) (master_sdk log_enable : Bool) :
    Prop where
  registered : s.Registered lidars_cfg custom_lidars_cfg registered master_sdk log_enable
  initialized : s.is_initialized = true
  configured : s.is_view = false
  framework : s.sdk_framework_cfg_ptr = some master_sdk
  log : s.log_enable = log_enable
  types : ∀ (dev_type : UInt8) (handle : UInt32),
    s.type_lidars_cfg_map[dev_type]?.map (·.at_handle handle) =
      (type_cfg lidars_cfg dev_type).map (·.at_handle handle)

/-- What a manager has before the SDK is begun. -/
structure Idle (s : DeviceManager) : Prop where
  types : s.type_lidars_cfg_map = ∅
  lidars : s.custom_lidars_cfg_map = ∅
  broadcast : s.vec_broadcast_socket = []

section Begin

theorem device_type_of_type_cfg {dev_type : UInt8} {cfg : define.LivoxLidarCfg}
    (h : type_cfg lidars_cfg dev_type = some cfg) : cfg.device_type = dev_type := by
  have hmem := List.mem_of_getLast? h
  simpa using (List.mem_filter.mp hmem).2

/-- The last of the configurations stays in the map. -/
theorem lookup_add (maps : ConfigMaps) (dev_type : UInt8) :
    (maps.add lidars_cfg custom_lidars_cfg).type_lidars_cfg_map[dev_type]? =
      (type_cfg lidars_cfg dev_type).or maps.type_lidars_cfg_map[dev_type]? := by
  rw [ConfigMaps.add, type_cfg]
  dsimp only
  induction lidars_cfg using List.reverseRecOn with
  | nil => rfl
  | append_singleton rest cfg ih =>
    rw [List.foldl_append, List.foldl_cons, List.foldl_nil, lookup_insert, List.filter_append]
    by_cases htype : cfg.device_type = dev_type
    · simp [htype]
    · rw [if_neg htype, ih, List.filter_cons_of_neg (by simpa using htype), List.filter_nil,
        List.append_nil]

/-- `LivoxLidarSdkInit` with a configuration that is not empty. -/
theorem sdk_init_configured (master_sdk log_enable : Bool) (hkernel : kernel.Grants)
    (hinit : s.is_initialized = false) (hne : lidars_cfg ++ custom_lidars_cfg ≠ [])
    (hstep : s.sdk_init kernel
      { cfg := .configured lidars_cfg custom_lidars_cfg master_sdk, logger_init := true,
        log_enable } = .ok t) :
    ∃ (c : Channels) (host_ip : List UInt8), c.vec_broadcast_socket = s.vec_broadcast_socket ∧
      t =
        { s with
          is_view := false
          detection_host_ip := host_ip
          custom_lidars_cfg_ptr := some custom_lidars_cfg
          sdk_framework_cfg_ptr := some master_sdk
          comm_port := true
          log_enable
          cycle_delete_thread := log_enable || s.cycle_delete_thread
          detection_thread := true
          general := s.general.init master_sdk
          is_initialized := true
          toConfigMaps := s.toConfigMaps.add lidars_cfg custom_lidars_cfg
          toChannels :=
            (c.create_lidar_channels kernel master_sdk log_enable custom_lidars_cfg).channels } := by
  obtain ⟨cfg, hhead⟩ : ∃ cfg, (lidars_cfg ++ custom_lidars_cfg).head? = some cfg :=
    Option.isSome_iff_exists.mp (List.isSome_head?.mpr hne)
  simp only [DeviceManager.sdk_init, DeviceManager.init, start_channels, hinit, hhead,
    Bool.false_eq_true, Bool.true_eq_false, if_false] at hstep
  obtain ⟨attempt, hattempt, hstep⟩ := bind_eq_ok_iff.mp hstep
  obtain ⟨logged, hlogger, hattempt⟩ := bind_eq_ok_iff.mp hattempt
  obtain ⟨rfl, -⟩ := start_logger_eq hlogger
  obtain ⟨begun, hbegun, hattempt⟩ := bind_eq_ok_iff.mp hattempt
  cases hattempt
  cases hstep
  obtain ⟨c, hc, hstart⟩ := Channels.start_granted hkernel (Channels.joins_of_start kernel hbegun)
    cfg.host_net_info.host_ip fun c => c.create_lidar_channels kernel master_sdk log_enable custom_lidars_cfg
  obtain rfl := Except.ok.inj (hstart.symm.trans hbegun)
  have hret := (Channels.create_lidar_channels_granted hkernel c master_sdk log_enable
    custom_lidars_cfg).ret
  refine ⟨c, cfg.host_net_info.host_ip, hc, ?_⟩
  simp only [hret, Bool.true_or]

/-- The lidars of the configuration, before any other has answered. -/
theorem Idle.begun (h : s.Idle) (hkernel : kernel.Grants) (hinit : s.is_initialized = false)
    (hne : lidars_cfg ++ custom_lidars_cfg ≠ [])
    (hstep : s.sdk_init kernel
      { cfg := .configured lidars_cfg custom_lidars_cfg master_sdk, logger_init := true,
        log_enable } = .ok t) :
    t.RegisteredInv lidars_cfg custom_lidars_cfg [] master_sdk log_enable := by
  obtain ⟨c, host_ip, hc, rfl⟩ :=
    sdk_init_configured master_sdk log_enable hkernel hinit hne hstep
  have hadds := (Channels.create_lidar_channels_granted hkernel c master_sdk log_enable
    custom_lidars_cfg).adds
  refine ⟨⟨?_, List.nodup_nil, by simp, fun handle => ?_, by simp, fun cfg hcfg key hkey => ?_,
    fun cfg hcfg key hkey => ?_, ?_⟩, rfl, rfl, rfl, rfl, fun dev_type handle => ?_⟩
  · rw [List.append_nil]
  · rw [List.append_nil, ConfigMaps.add, mem_foldl_insert_iff, h.lidars]
    simp
  · rw [List.append_nil] at hcfg
    exact hadds.data key (List.mem_flatMap.mpr ⟨cfg, hcfg, hkey⟩)
  · rw [List.append_nil] at hcfg
    exact hadds.command key (List.mem_flatMap.mpr ⟨cfg, hcfg, hkey⟩)
  · rw [hadds.broadcast, hc, h.broadcast]
    simp
  · rw [lookup_add, h.types]
    simp

end Begin

section Step

theorem RegisteredInv.handled
    (h : s.RegisteredInv lidars_cfg custom_lidars_cfg registered master_sdk log_enable)
    (handled : List Handled) (general : General) :
    ({ s with handled, general } : DeviceManager).RegisteredInv lidars_cfg custom_lidars_cfg registered
      master_sdk log_enable :=
  ⟨⟨h.registered.lidars, h.registered.once, h.registered.apart, h.registered.known, h.registered.typed,
    h.registered.data, h.registered.command, h.registered.broadcast⟩, h.initialized, h.configured,
    h.framework, h.log, h.types⟩

/-- A lidar that has been registered is one of the lidars from then on. -/
theorem RegisteredInv.register
    (h : s.RegisteredInv lidars_cfg custom_lidars_cfg registered master_sdk log_enable)
    (hkernel : kernel.Grants) {datagram : Datagram} {dev_type : UInt8} {cfg base : define.LivoxLidarCfg}
    (hnew : s.custom_lidars_cfg_map[datagram.handle]? = none)
    (hbase : type_cfg lidars_cfg dev_type = some base)
    (hsame : ∀ handle, cfg.at_handle handle = base.at_handle handle) :
    (DeviceManager.registered kernel s datagram dev_type cfg (custom_lidars_cfg ++ registered)
      master_sdk).RegisteredInv lidars_cfg custom_lidars_cfg
        (registered ++ [base.at_handle datagram.handle]) master_sdk log_enable := by
  have hlidar : lidar_cfg datagram cfg = base.at_handle datagram.handle := hsame datagram.handle
  have hunknown : ∀ other ∈ custom_lidars_cfg ++ registered, other.handle ≠ datagram.handle := by
    intro other hother hsame
    have hmem := (h.registered.known datagram.handle).mpr ⟨other, hother, hsame⟩
    obtain ⟨held, hheld⟩ := mem_iff_lookup.mp hmem
    rw [hnew] at hheld
    cases hheld
  have hadds := (Channels.create_lidar_channels_granted hkernel s.toChannels master_sdk s.log_enable
    (custom_lidars_cfg ++ (registered ++ [base.at_handle datagram.handle]))).adds
  rw [DeviceManager.registered, hlidar, List.append_assoc]
  rw [h.log] at hadds ⊢
  refine ⟨⟨rfl, ?_, ?_, fun handle => ?_, ?_, fun other hother key hkey => ?_,
    fun other hother key hkey => ?_, ?_⟩, h.initialized, h.configured, h.framework, rfl,
    fun other handle => ?_⟩
  · rw [List.map_append, List.map_singleton, handle_at_handle]
    refine List.nodup_append.mpr ⟨h.registered.once, by simp, fun a ha b hb => ?_⟩
    obtain ⟨other, hother, rfl⟩ := List.mem_map.mp ha
    rw [List.mem_singleton.mp hb]
    exact hunknown other (List.mem_append_right _ hother)
  · intro other hother
    rcases List.mem_append.mp hother with hother | hother
    · exact h.registered.apart other hother
    · intro custom hcustom hsame
      rw [List.mem_singleton.mp hother, handle_at_handle] at hsame
      exact hunknown custom (List.mem_append_left _ hcustom) hsame.symm
  · rw [mem_insert_iff, h.registered.known, ← List.append_assoc]
    constructor
    · rintro (rfl | ⟨other, hother, hsame⟩)
      · exact ⟨_, List.mem_append_right _ (List.mem_singleton_self _), handle_at_handle base _⟩
      · exact ⟨other, List.mem_append_left _ hother, hsame⟩
    · rintro ⟨other, hother, hsame⟩
      rcases List.mem_append.mp hother with hother | hother
      · exact .inr ⟨other, hother, hsame⟩
      · rw [List.mem_singleton.mp hother, handle_at_handle] at hsame
        exact .inl hsame.symm
  · intro other hother
    rcases List.mem_append.mp hother with hother | hother
    · exact h.registered.typed other hother
    · rw [List.mem_singleton.mp hother, handle_at_handle]
      have htype : base.device_type = dev_type := device_type_of_type_cfg hbase
      exact ⟨base, htype ▸ hbase, rfl⟩
  · exact hadds.data key (List.mem_flatMap.mpr ⟨other, hother, hkey⟩)
  · exact hadds.command key (List.mem_flatMap.mpr ⟨other, hother, hkey⟩)
  · rw [hadds.broadcast, h.registered.broadcast, List.inits_append]
    simp
  · rw [lookup_insert]
    split
    case isTrue htype =>
      rw [← htype, hbase]
      rfl
    case isFalse => exact h.types other handle

/-- An answer registers the lidar that it is of, if any. -/
theorem RegisteredInv.on_data
    (h : s.RegisteredInv lidars_cfg custom_lidars_cfg registered master_sdk log_enable)
    (hkernel : kernel.Grants) {datagram : Datagram} (hstep : s.on_data kernel crc datagram = .ok t) :
    t.RegisteredInv lidars_cfg custom_lidars_cfg
      (((s.answered_type crc datagram).map (datagram.handle, ·)).toList.foldl
        (device_manager.register lidars_cfg custom_lidars_cfg) registered) master_sdk log_enable := by
  have hknown := h.registered.known datagram.handle
  obtain ⟨handled, general, view_devices, rfl, hnone⟩ |
    ⟨handled, general, dev_type, cfg, customs, master, -, hnew, hanswer, hcfg, hcustom, hframework, rfl⟩ :=
    on_data_cases hstep
  · have hs : ({ s with handled, general, view_devices } : DeviceManager).RegisteredInv lidars_cfg
        custom_lidars_cfg registered master_sdk log_enable := ⟨⟨h.registered.lidars, h.registered.once,
      h.registered.apart, h.registered.known, h.registered.typed, h.registered.data, h.registered.command,
      h.registered.broadcast⟩, h.initialized, h.configured, h.framework, h.log, h.types⟩
    cases hanswer : s.answered_type crc datagram with
    | none => exact hs
    | some dev_type =>
      rw [Option.map_some, Option.toList_some, List.foldl_cons, List.foldl_nil, device_manager.register]
      split
      case isTrue => exact hs
      case isFalse hunknown =>
        have hnew : s.custom_lidars_cfg_map[datagram.handle]? = none := by
          by_contra hheld
          obtain ⟨cfg, hcfg⟩ := Option.ne_none_iff_exists'.mp hheld
          exact hunknown (hknown.mp (mem_iff_lookup.mpr ⟨cfg, hcfg⟩))
        have htype := h.types dev_type datagram.handle
        rw [hnone h.configured hnew dev_type hanswer, Option.map_none] at htype
        rw [← htype, Option.toList_none, List.append_nil]
        exact hs
  · rw [h.registered.lidars] at hcustom
    rw [h.framework] at hframework
    cases hcustom
    cases hframework
    obtain ⟨base, hbase⟩ : ∃ base, type_cfg lidars_cfg dev_type = some base := by
      have htype := h.types dev_type datagram.handle
      rw [hcfg, Option.map_some] at htype
      obtain ⟨base, hbase, -⟩ := Option.map_eq_some_iff.mp htype.symm
      exact ⟨base, hbase⟩
    have hsame : ∀ handle, cfg.at_handle handle = base.at_handle handle := by
      intro handle
      have htype := h.types dev_type handle
      rw [hcfg, hbase] at htype
      exact Option.some.inj htype
    have hunknown : ¬ ∃ cfg ∈ custom_lidars_cfg ++ registered, cfg.handle = datagram.handle := by
      intro hheld
      obtain ⟨held, hheld⟩ := mem_iff_lookup.mp (hknown.mpr hheld)
      rw [hnew] at hheld
      cases hheld
    rw [hanswer, Option.map_some, Option.toList_some, List.foldl_cons, List.foldl_nil,
      device_manager.register, if_neg hunknown, hbase, Option.map_some, Option.toList_some]
    exact (h.handled handled general).register hkernel hnew hbase hsame

/-- The answer to a question of an earlier viewer registers nothing. -/
theorem RegisteredInv.add_view_lidar
    (h : s.RegisteredInv lidars_cfg custom_lidars_cfg registered master_sdk log_enable)
    {info : device_manager.ViewLidarIpInfo} (hstep : s.add_view_lidar kernel info = .ok t) :
    t.RegisteredInv lidars_cfg custom_lidars_cfg registered master_sdk log_enable := by
  obtain rfl | ⟨view_devices, view_lidars_info, info, rfl⟩ := add_view_lidar_eq hstep
  · exact h
  · have hadds := @Channels.create_view_data_channel_adds kernel s.toChannels info
    refine ⟨⟨h.registered.lidars, h.registered.once, h.registered.apart, h.registered.known,
      h.registered.typed, fun cfg hcfg key hkey => ?_, fun cfg hcfg key hkey => ?_, ?_⟩, h.initialized,
      h.configured, h.framework, h.log, h.types⟩
    · exact hadds.info_kept key (h.registered.data cfg hcfg key hkey)
    · exact hadds.command_kept key (h.registered.command cfg hcfg key hkey)
    · exact hadds.broadcast.trans h.registered.broadcast

theorem RegisteredInv.step
    (h : s.RegisteredInv lidars_cfg custom_lidars_cfg registered master_sdk log_enable)
    (hkernel : kernel.Grants) {event : SdkEvent} (hstay : event ≠ .sdk_uninit)
    (hstep : s.step kernel crc event = .ok t) :
    t.RegisteredInv lidars_cfg custom_lidars_cfg
      ((s.answer crc event).toList.foldl (device_manager.register lidars_cfg custom_lidars_cfg) registered)
      master_sdk log_enable := by
  cases event with
  | sdk_init args =>
    rw [DeviceManager.step, DeviceManager.sdk_init, if_pos h.initialized] at hstep
    cases hstep
    exact h
  | on_data sock datagram =>
    rw [DeviceManager.step] at hstep
    rw [answer]
    split at hstep
    case isTrue hsock =>
      rw [if_pos hsock]
      exact h.on_data hkernel hstep
    case isFalse hsock =>
      rw [if_neg hsock]
      cases hstep
      exact h
  | add_view_lidar sock info =>
    rw [DeviceManager.step] at hstep
    split at hstep
    · exact h.add_view_lidar hstep
    · cases hstep
      exact h
  | sdk_uninit => exact absurd rfl hstay

/-- However many datagrams follow. -/
theorem RegisteredInv.run (hkernel : kernel.Grants) {events : List SdkEvent}
    (h : s.RegisteredInv lidars_cfg custom_lidars_cfg registered master_sdk log_enable)
    (hstay : .sdk_uninit ∉ events) (hrun : exec (DeviceManager.step kernel crc) s events = .ok t) :
    t.RegisteredInv lidars_cfg custom_lidars_cfg
      ((s.answers kernel crc events).foldl (device_manager.register lidars_cfg custom_lidars_cfg)
        registered) master_sdk log_enable := by
  induction events generalizing s registered with
  | nil =>
    cases hrun
    exact h
  | cons event events ih =>
    obtain ⟨hfirst, hrest⟩ := not_or.mp (mt List.mem_cons.mpr hstay)
    obtain ⟨u, hone, hrun⟩ := exec_cons_eq_ok_iff.mp hrun
    rw [answers, hone, List.foldl_append]
    exact ih (h.step hkernel (Ne.symm hfirst) hone) hrest hrun

end Step

section Before

/-- As long as the kernel grants the calls, the SDK is initialized or the manager is as it was in the
beginning. -/
def IdleBefore (s : DeviceManager) : Prop := s.is_initialized = false → s.Idle

theorem new_idle : DeviceManager.new.Idle := ⟨rfl, rfl, rfl⟩

theorem IdleBefore.sdk_init (h : s.IdleBefore) (hkernel : kernel.Grants) {args : InitArgs}
    (hstep : s.sdk_init kernel args = .ok t) : t.IdleBefore := by
  intro hnot
  obtain ⟨cfg, logger_init, log_enable⟩ := args
  cases hinit : s.is_initialized with
  | true =>
    rw [DeviceManager.sdk_init, if_pos hinit] at hstep
    cases hstep
    exact h hnot
  | false =>
    have hidle := h hinit
    cases cfg with
    | view host_ip =>
      rw [DeviceManager.sdk_init, if_neg (by simp [hinit])] at hstep
      obtain ⟨attempt, hattempt, hstep⟩ := bind_eq_ok_iff.mp hstep
      cases hstep
      cases logger_init with
      | false =>
        cases hattempt
        exact ⟨hidle.types, hidle.lidars, hidle.broadcast⟩
      | true =>
        obtain ⟨logged, hlogger, hattempt⟩ := bind_eq_ok_iff.mp hattempt
        obtain ⟨rfl, -⟩ := start_logger_eq hlogger
        obtain ⟨begun, hbegun, hattempt⟩ := bind_eq_ok_iff.mp hattempt
        cases hattempt
        obtain ⟨c, -, hstart⟩ := Channels.start_granted hkernel (Channels.joins_of_start kernel hbegun)
          host_ip fun c => { ret := true, channels := c }
        obtain rfl := Except.ok.inj (hstart.symm.trans hbegun)
        cases hnot
    | configured lidars_cfg custom_lidars_cfg master_sdk =>
      by_cases hne : lidars_cfg ++ custom_lidars_cfg = []
      · have hhead : (lidars_cfg ++ custom_lidars_cfg).head? = none := List.head?_eq_none_iff.mpr hne
        rw [DeviceManager.sdk_init, if_neg (by simp [hinit])] at hstep
        simp only [DeviceManager.init, hhead, ok_bind] at hstep
        cases hstep
        exact ⟨hidle.types, hidle.lidars, hidle.broadcast⟩
      · cases logger_init with
        | false =>
          obtain ⟨cfg, hhead⟩ : ∃ cfg, (lidars_cfg ++ custom_lidars_cfg).head? = some cfg :=
            Option.isSome_iff_exists.mp (List.isSome_head?.mpr hne)
          rw [DeviceManager.sdk_init, if_neg (by simp [hinit])] at hstep
          simp only [DeviceManager.init, hhead, if_true, ok_bind] at hstep
          cases hstep
          exact ⟨hidle.types, hidle.lidars, hidle.broadcast⟩
        | true =>
          obtain ⟨c, host_ip, -, rfl⟩ :=
            sdk_init_configured master_sdk log_enable hkernel hinit hne hstep
          cases hnot

theorem IdleBefore.on_data (h : s.IdleBefore) {datagram : Datagram}
    (hstep : s.on_data kernel crc datagram = .ok t) : t.IdleBefore := by
  intro hinit
  obtain ⟨hsame, -⟩ := on_data_keeps hstep
  have hidle := h (hsame ▸ hinit)
  obtain ⟨handled, general, view_devices, rfl, -⟩ |
    ⟨handled, general, dev_type, cfg, customs, master, -, -, -, hcfg, -, -, -⟩ := on_data_cases hstep
  · exact ⟨hidle.types, hidle.lidars, hidle.broadcast⟩
  · simp [hidle.types] at hcfg

theorem IdleBefore.add_view_lidar (h : s.IdleBefore) {info : device_manager.ViewLidarIpInfo}
    (hstep : s.add_view_lidar kernel info = .ok t) : t.IdleBefore := by
  obtain rfl | ⟨view_devices, view_lidars_info, info, rfl⟩ := add_view_lidar_eq hstep
  · exact h
  · intro hinit
    have hidle := h hinit
    have hadds := @Channels.create_view_data_channel_adds kernel s.toChannels info
    refine ⟨hidle.types, hidle.lidars, List.length_eq_zero_iff.mp ?_⟩
    rw [hadds.broadcast, hidle.broadcast]
    rfl

theorem IdleBefore.sdk_uninit (h : s.IdleBefore) (hstep : s.sdk_uninit = .ok t) : t.IdleBefore := by
  rw [DeviceManager.sdk_uninit] at hstep
  split at hstep
  · cases hstep
    exact h
  · obtain ⟨destroyed, hdestory, hstep⟩ := bind_eq_ok_iff.mp hstep
    rw [DeviceManager.destory] at hdestory
    obtain ⟨channels, hchannels, hdestory⟩ := bind_eq_ok_iff.mp hdestory
    cases hdestory
    cases hstep
    exact fun _ => ⟨rfl, rfl, (Channels.destory_new hchannels).2.2⟩

theorem IdleBefore.step (h : s.IdleBefore) (hkernel : kernel.Grants) {event : SdkEvent}
    (hstep : s.step kernel crc event = .ok t) : t.IdleBefore := by
  cases event with
  | sdk_init args => exact h.sdk_init hkernel hstep
  | on_data sock datagram =>
    rw [DeviceManager.step] at hstep
    split at hstep
    · exact h.on_data hstep
    · cases hstep
      exact h
  | add_view_lidar sock info =>
    rw [DeviceManager.step] at hstep
    split at hstep
    · exact h.add_view_lidar hstep
    · cases hstep
      exact h
  | sdk_uninit => exact h.sdk_uninit hstep

end Before

end DeviceManager

section GrantingKernel

/-- The first number behind all that are open, and behind the standard streams. -/
def next_sock (sockets : Std.TreeMap Int Socket) : Int := sockets.keys.foldr max 2 + 1

theorem le_foldr_max (socks : List Int) :
    2 ≤ socks.foldr max 2 ∧ ∀ sock ∈ socks, sock ≤ socks.foldr max 2 := by
  induction socks with
  | nil => simp
  | cons sock socks ih =>
    refine ⟨le_max_of_le_right ih.1, fun other hother => ?_⟩
    rcases List.mem_cons.mp hother with rfl | hother
    · exact le_max_left _ _
    · exact le_max_of_le_right (ih.2 other hother)

theorem next_sock_fresh (sockets : Std.TreeMap Int Socket) :
    0 < next_sock sockets ∧ next_sock sockets ∉ sockets := by
  obtain ⟨hpositive, hmax⟩ := le_foldr_max sockets.keys
  refine ⟨by rw [next_sock]; omega, fun hopen => ?_⟩
  have hle := hmax _ (Std.TreeMap.mem_keys.mpr hopen)
  rw [next_sock] at hle
  omega

/-- A kernel that grants all calls. -/
def granting_kernel : Kernel where
  socket _ sockets := next_sock sockets
  status _ _ _ := 0
  epoll_create _ := 3
  epoll_ctl _ _ := true
  fresh _ sockets _ := next_sock_fresh sockets

theorem granting_kernel_grants : granting_kernel.Grants where
  socket _ sockets := (next_sock_fresh sockets).1.le
  status _ _ _ := rfl
  epoll_create _ := Int.natCast_nonneg 3

end GrantingKernel

/-- When the kernel grants the calls, the lidars of a session are those of its configuration and those that
have answered and have a type that it knows, each with the configuration of its type. -/
theorem lidars_registered {kernel : Kernel} (hkernel : kernel.Grants) {crc : FastCRC}
    {before rest : List SdkEvent} {s t : DeviceManager}
    {lidars_cfg custom_lidars_cfg : List define.LivoxLidarCfg} {master_sdk log_enable : Bool}
    (hbefore : exec (DeviceManager.step kernel crc) DeviceManager.new before = .ok s)
    (hinit : s.is_initialized = false) (hne : lidars_cfg ++ custom_lidars_cfg ≠ [])
    (hstay : .sdk_uninit ∉ rest)
    (hrun : exec (DeviceManager.step kernel crc) s
      (.sdk_init
        { cfg := .configured lidars_cfg custom_lidars_cfg master_sdk, logger_init := true,
          log_enable } :: rest) = .ok t) :
    t.Registered lidars_cfg custom_lidars_cfg
      ((s.answers kernel crc
        (.sdk_init
          { cfg := .configured lidars_cfg custom_lidars_cfg master_sdk, logger_init := true,
            log_enable } :: rest)).foldl (register lidars_cfg custom_lidars_cfg) [])
      master_sdk log_enable := by
  have hidle : s.IdleBefore :=
    exec_invariant (fun _ _ _ h hstep => h.step hkernel hstep) (fun _ => DeviceManager.new_idle) hbefore
  obtain ⟨u, hone, hrest⟩ := exec_cons_eq_ok_iff.mp hrun
  have hbegun := (hidle hinit).begun hkernel hinit hne hone
  rw [DeviceManager.answers, hone]
  exact (hbegun.run hkernel hstay hrest).registered

/-- A Mid-360 at `1.2.3.4` and its host at `1.2.3.5`. -/
def mid360_cfg : define.LivoxLidarCfg :=
  { sample_cfg [49, 46, 50, 46, 51, 46, 52] with
    device_type := kLivoxLidarTypeMid360
    host_net_info :=
      { (sample_cfg []).host_net_info with
        host_ip := [49, 46, 50, 46, 51, 46, 53]
        push_msg_port := 56201 } }

/-- The 48 bytes in which a Mid-360 at `1.2.3.6` answers a detection broadcast. -/
def detection_frame : List UInt8 :=
  [0xAA, 0, 48, 0, 1, 0, 0, 0, 0, 0, 1, 1, 0, 0, 0, 0, 0, 0, 138, 183, 114, 116, 64, 106, 0, 9] ++
    List.replicate 16 49 ++ [1, 2, 3, 6, 17, 34]

def detection_datagram : Datagram where
  handle := 0x06030201
  port := kDetectionPort
  buf := { block := fun i => detection_frame[i]?.getD 0, offset := 0 }
  size := 48

/-- A viewer, and its end. -/
def viewer_events : List SdkEvent :=
  [.sdk_init { cfg := .view [49, 46, 50, 46, 51, 46, 53], logger_init := true, log_enable := false },
    .sdk_uninit]

/-- A session in which the lidar answers twice. -/
def session_events : List SdkEvent :=
  [.sdk_init
    { cfg := .configured [mid360_cfg] [mid360_cfg] true, logger_init := true, log_enable := false },
  .on_data 3 detection_datagram, .on_data 3 detection_datagram]

/-- It is registered once. -/
theorem lidars_registered_sample :
    ∃ s t, exec (DeviceManager.step granting_kernel fast_crc) DeviceManager.new viewer_events = .ok s ∧
      exec (DeviceManager.step granting_kernel fast_crc) s session_events = .ok t ∧
      t.Registered [mid360_cfg] [mid360_cfg] [mid360_cfg.at_handle 0x06030201] true false := by
  have hall : (exec (DeviceManager.step granting_kernel fast_crc) DeviceManager.new
      (viewer_events ++ session_events)).map (fun _ => ()) = .ok () := by
    decide +kernel
  obtain ⟨t, hboth, -⟩ := map_eq_ok_iff.mp hall
  obtain ⟨s, hbefore, hrun⟩ := exec_append_eq_ok_iff.mp hboth
  have hs : (exec (DeviceManager.step granting_kernel fast_crc) DeviceManager.new viewer_events).map
      (fun s => (s.is_initialized, s.answers granting_kernel fast_crc session_events)) =
      .ok (false, [(0x06030201, 9), (0x06030201, 9)]) := by
    decide +kernel
  rw [hbefore] at hs
  obtain ⟨hinit, hanswers⟩ := Prod.mk.inj (Except.ok.inj hs)
  have hregistered := lidars_registered granting_kernel_grants hbefore hinit (by simp) (by simp) hrun
  have hfold : [((0x06030201 : UInt32), (9 : UInt8)), (0x06030201, 9)].foldl
      (register [mid360_cfg] [mid360_cfg]) [] = [mid360_cfg.at_handle 0x06030201] := by
    rfl
  rw [session_events] at hanswers
  rw [hanswers, hfold] at hregistered
  exact ⟨s, t, hbefore, hrun, hregistered⟩

end livox_lidar
