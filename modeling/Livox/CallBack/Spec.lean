import Livox.CallBack.LivoxLidarCallback
import Livox.LdsLidar.Init

open checked livox_lidar

namespace livox_ros

/-- The mask with the bits of a set of parameters. -/
def code_bits (waiting : Finset ConfigParam) : UInt32 :=
  [ConfigParam.pcl_data_type, .pattern_mode, .blind_spot_set, .dual_emit_en].foldl
    (fun bits param => if param ∈ waiting then bits ||| param.code_bit else bits) 0

theorem code_bits_insert : ∀ (waiting : Finset ConfigParam) (param : ConfigParam),
    code_bits waiting ||| param.code_bit = code_bits (insert param waiting) := by
  decide +kernel

theorem code_bits_erase : ∀ (waiting : Finset ConfigParam) (param : ConfigParam),
    code_bits waiting &&& ~~~param.code_bit = code_bits (waiting.erase param) := by
  decide +kernel

theorem code_bits_eq_zero_iff : ∀ waiting : Finset ConfigParam,
    code_bits waiting = 0 ↔ waiting = ∅ := by
  decide +kernel

section Device

variable {F : Type}

/-- The parameters that a configuration sets. -/
def UserLivoxLidarConfig.params (config : UserLivoxLidarConfig F) : Finset ConfigParam :=
  Finset.univ.filter fun param => config.sets param = true

/-- The device waits for the answers to exactly these parameters. -/
def LidarDevice.WaitsFor (device : LidarDevice F) (waiting : Finset ConfigParam) : Prop :=
  device.livox_config.set_bits = code_bits waiting

/-- Nothing but the mask and the connect state tells the devices apart. -/
structure LidarDevice.SameConfig (before after : LidarDevice F) : Prop where
  lidar_type : after.lidar_type = before.lidar_type
  identity : after.handle = before.handle
  handle : after.livox_config.handle = before.livox_config.handle
  sets : after.livox_config.sets = before.livox_config.sets
  api_call : after.livox_config.api_call = before.livox_config.api_call

theorem LidarDevice.SameConfig.refl (device : LidarDevice F) : device.SameConfig device :=
  ⟨rfl, rfl, rfl, rfl, rfl⟩

theorem LidarDevice.SameConfig.trans {a b c : LidarDevice F} (hab : a.SameConfig b)
    (hbc : b.SameConfig c) : a.SameConfig c :=
  ⟨hbc.lidar_type.trans hab.lidar_type, hbc.identity.trans hab.identity,
    hbc.handle.trans hab.handle, hbc.sets.trans hab.sets, hbc.api_call.trans hab.api_call⟩

theorem check_sampling_same (device : LidarDevice F) : device.SameConfig device.check_sampling := by
  unfold LidarDevice.check_sampling
  split
  · exact ⟨rfl, rfl, rfl, rfl, rfl⟩
  · exact .refl _

theorem clear_param_same (device : LidarDevice F) (param : ConfigParam) :
    device.SameConfig (device.set_bits_clear param.code_bit).check_sampling := by
  have hclear : device.SameConfig (device.set_bits_clear param.code_bit) :=
    ⟨rfl, rfl, rfl, rfl, rfl⟩
  exact hclear.trans (check_sampling_same _)

theorem send_param_same (param : ConfigParam) (device : LidarDevice F) :
    device.SameConfig (send_param param device).1 := by
  unfold send_param
  split
  · exact ⟨rfl, rfl, rfl, rfl, rfl⟩
  · exact .refl _

theorem send_params_same (params : List ConfigParam) (device : LidarDevice F) :
    device.SameConfig (send_params params device).1 := by
  induction params generalizing device with
  | nil => exact .refl _
  | cons param params ih => exact (send_param_same param device).trans (ih _)

theorem send_config_same (device : LidarDevice F) : device.SameConfig (send_config device).1 := by
  simp only [send_config]
  exact (send_params_same _ device).trans (check_sampling_same _)

theorem send_params_calls (params : List ConfigParam) (device : LidarDevice F) :
    (send_params params device).2 =
      (params.filter fun param => device.livox_config.sets param).map
        device.livox_config.api_call := by
  induction params generalizing device with
  | nil => rfl
  | cons param params ih =>
    have hcall : (send_param param device).2 =
        if device.livox_config.sets param = true then [device.livox_config.api_call param]
        else [] := by
      unfold send_param
      split <;> rfl
    have hsame := send_param_same param device
    simp only [send_params, hcall, ih, hsame.sets, hsame.api_call]
    by_cases hset : device.livox_config.sets param = true
    · rw [if_pos hset, List.filter_cons_of_pos hset]
      rfl
    · rw [if_neg hset, List.filter_cons_of_neg hset]
      rfl

/-- The calls that a report of a configured lidar makes for its parameters. -/
def UserLivoxLidarConfig.calls (config : UserLivoxLidarConfig F) : List (ApiCall F) :=
  ([ConfigParam.pcl_data_type, .pattern_mode, .blind_spot_set, .dual_emit_en].filter
    fun param => config.sets param).map config.api_call

theorem send_config_calls (device : LidarDevice F) :
    (send_config device).2 = device.livox_config.calls := by
  simp only [send_config]
  exact send_params_calls _ device

theorem mem_params {config : UserLivoxLidarConfig F} {param : ConfigParam} :
    param ∈ config.params ↔ config.sets param = true := by
  simp [UserLivoxLidarConfig.params]

theorem mem_calls {config : UserLivoxLidarConfig F} {call : ApiCall F} :
    call ∈ config.calls ↔ ∃ param ∈ config.params, config.api_call param = call := by
  simp only [UserLivoxLidarConfig.calls, List.mem_map, List.mem_filter, mem_params]
  constructor
  · rintro ⟨param, ⟨_, hset⟩, rfl⟩
    exact ⟨param, hset, rfl⟩
  · rintro ⟨param, hset, rfl⟩
    exact ⟨param, ⟨by cases param <;> simp, hset⟩, rfl⟩

theorem check_sampling_spec {device : LidarDevice F} {waiting : Finset ConfigParam}
    (h : device.WaitsFor waiting) :
    device.check_sampling.WaitsFor waiting ∧
      (waiting = ∅ → device.check_sampling.connect_state = .kConnectStateSampling) ∧
      (waiting ≠ ∅ → device.check_sampling.connect_state = device.connect_state) := by
  have hzero : device.livox_config.set_bits = 0 ↔ waiting = ∅ := by rw [h, code_bits_eq_zero_iff]
  unfold LidarDevice.check_sampling
  split
  · rename_i hbits
    exact ⟨h, fun _ => rfl, fun hne => absurd (hzero.mp hbits) hne⟩
  · rename_i hbits
    exact ⟨h, fun hempty => absurd (hzero.mpr hempty) hbits, fun _ => rfl⟩

/-- A successful answer takes its parameter out of those waited for. -/
theorem clear_param_spec {device : LidarDevice F} {waiting : Finset ConfigParam}
    (h : device.WaitsFor waiting) (param : ConfigParam) :
    let after := (device.set_bits_clear param.code_bit).check_sampling
    after.WaitsFor (waiting.erase param) ∧
      (waiting.erase param = ∅ → after.connect_state = .kConnectStateSampling) ∧
      (waiting.erase param ≠ ∅ → after.connect_state = device.connect_state) := by
  have hclear : (device.set_bits_clear param.code_bit).WaitsFor (waiting.erase param) := by
    rw [LidarDevice.WaitsFor, ← code_bits_erase, ← h]
    rfl
  exact check_sampling_spec hclear

theorem send_param_spec {device : LidarDevice F} {waiting : Finset ConfigParam}
    (h : device.WaitsFor waiting) (param : ConfigParam) :
    (send_param param device).1.connect_state = device.connect_state ∧
      (send_param param device).1.WaitsFor
        (if device.livox_config.sets param = true then insert param waiting else waiting) := by
  unfold send_param
  split
  · refine ⟨rfl, ?_⟩
    rw [LidarDevice.WaitsFor, ← code_bits_insert, ← h]
    rfl
  · exact ⟨rfl, h⟩

theorem send_params_spec (params : List ConfigParam) {device : LidarDevice F}
    {waiting : Finset ConfigParam} (h : device.WaitsFor waiting) :
    (send_params params device).1.connect_state = device.connect_state ∧
      (send_params params device).1.WaitsFor
        ((params.filter fun param => device.livox_config.sets param).toFinset ∪ waiting) := by
  induction params generalizing device waiting with
  | nil => exact ⟨rfl, by simpa [send_params] using h⟩
  | cons param params ih =>
    obtain ⟨hstate, hwaits⟩ := send_param_spec h param
    obtain ⟨hstate', hwaits'⟩ := ih hwaits
    rw [(send_param_same param device).sets] at hwaits'
    refine ⟨hstate'.trans hstate, ?_⟩
    by_cases hset : device.livox_config.sets param = true
    · rw [if_pos hset] at hwaits'
      rwa [List.filter_cons_of_pos hset, List.toFinset_cons, Finset.insert_union,
        ← Finset.union_insert]
    · rw [if_neg hset] at hwaits'
      rwa [List.filter_cons_of_neg hset]

/-- A report sends every parameter that is set and waits for all of them. -/
theorem send_config_spec {device : LidarDevice F} {waiting : Finset ConfigParam}
    (h : device.WaitsFor waiting) :
    (send_config device).1.WaitsFor (device.livox_config.params ∪ waiting) ∧
      (device.livox_config.params ∪ waiting = ∅ →
        (send_config device).1.connect_state = .kConnectStateSampling) ∧
      (device.livox_config.params ∪ waiting ≠ ∅ →
        (send_config device).1.connect_state = device.connect_state) := by
  obtain ⟨hstate, hwaits⟩ :=
    send_params_spec [.pcl_data_type, .pattern_mode, .blind_spot_set, .dual_emit_en] h
  have hparams : ([ConfigParam.pcl_data_type, .pattern_mode, .blind_spot_set, .dual_emit_en].filter
      fun param => device.livox_config.sets param).toFinset = device.livox_config.params := by
    ext param
    cases param <;> simp [mem_params]
  rw [hparams] at hwaits
  obtain ⟨hwaits', hempty, hnonempty⟩ := check_sampling_spec hwaits
  simp only [send_config]
  exact ⟨hwaits', hempty, fun hne => (hnonempty hne).trans hstate⟩

end Device

section CallBack

variable {F : Type}

/-- The parameter that a call sends, if it is one of the four. -/
def param_of : ApiCall F → Option ConfigParam
  | .set_livox_lidar_pcl_data_type _ => some .pcl_data_type
  | .set_livox_lidar_scan_pattern _ => some .pattern_mode
  | .set_livox_lidar_blind_spot _ => some .blind_spot_set
  | .set_livox_lidar_dual_emit _ => some .dual_emit_en
  | _ => none

@[simp] theorem param_of_api_call (config : UserLivoxLidarConfig F) (param : ConfigParam) :
    param_of (config.api_call param) = some param := by
  cases param <;> rfl

/-- The calls that configure a lidar: the four parameters and the attitude. -/
def configures : ApiCall F → Bool
  | .set_livox_lidar_work_mode _ => false
  | .enable_livox_lidar_imu_data => false
  | _ => true

theorem configures_of_param {call : ApiCall F} {param : ConfigParam} (h : param_of call = some param) :
    configures call = true := by
  cases call <;> first | rfl | cases h

/-- The start of a lidar sends no parameter. -/
theorem param_of_start_commands {handle : UInt32} {command : ApiCommand F}
    (hmem : command ∈ start_commands handle) : param_of command.call = none := by
  simp only [start_commands, List.mem_cons, List.not_mem_nil, or_false] at hmem
  rcases hmem with rfl | rfl <;> rfl

/-- The parameter commands of a report are those of the parameters that are
set, to the reported lidar. -/
theorem mem_config_commands_param {handle : UInt32} {config : UserLivoxLidarConfig F}
    {command : ApiCommand F} {param : ConfigParam} (hparam : param_of command.call = some param) :
    command ∈ config_commands handle config config.calls ↔
      param ∈ config.params ∧ command = { handle, call := config.api_call param } := by
  simp only [config_commands, List.mem_append, List.mem_map, List.mem_singleton]
  constructor
  · rintro ((⟨call, hcall, rfl⟩ | rfl) | hstart)
    · obtain ⟨sent, hsent, rfl⟩ := mem_calls.mp hcall
      obtain rfl := Option.some.inj ((param_of_api_call config sent).symm.trans hparam)
      exact ⟨hsent, rfl⟩
    · cases hparam
    · simp [param_of_start_commands hstart] at hparam
  · rintro ⟨hset, rfl⟩
    exact Or.inl (Or.inl ⟨_, mem_calls.mpr ⟨param, hset, rfl⟩, rfl⟩)

/-- A retry makes the call of the first attempt again. -/
theorem callback_of_param {call : ApiCall F} {param : ConfigParam} (h : param_of call = some param) :
    callback_of call = set_param_callback param fun config => config.api_call param := by
  have hdual : (fun config : UserLivoxLidarConfig F =>
        (ApiCall.set_livox_lidar_dual_emit (config.dual_emit_en != 0) : ApiCall F)) =
      fun config => config.api_call .dual_emit_en := by
    funext config
    by_cases hzero : config.dual_emit_en = 0 <;> simp [UserLivoxLidarConfig.api_call, hzero]
  cases call with
  | set_livox_lidar_pcl_data_type data_type => cases h; rfl
  | set_livox_lidar_scan_pattern scan_pattern => cases h; rfl
  | set_livox_lidar_blind_spot blind_spot => cases h; rfl
  | set_livox_lidar_dual_emit enable =>
    cases h
    rw [← hdual]
    rfl
  | set_livox_lidar_install_attitude install_attitude => cases h
  | set_livox_lidar_work_mode work_mode => cases h
  | enable_livox_lidar_imu_data => cases h

variable [Zero F] {lds : LdsLidar F} (h : lds.Registry)
include h

/-- A report of a lidar in the table sends its configuration. -/
theorem info_change_of_device {handle : UInt32} {device : LidarDevice F}
    (hdevice : lds.device_of handle = some device) :
    ∃ t, lidar_info_change_callback lds handle =
        .ok (t, config_commands handle device.livox_config (send_config device).2) ∧
      lds.Stored handle (send_config device).1 t := by
  obtain ⟨index, hindex⟩ := h.index_of_device hdevice
  obtain ⟨found, hread, hfound⟩ := h.lidar_eq hindex
  obtain rfl : found = device := Option.some.inj (hfound.symm.trans hdevice)
  obtain ⟨t, hmodify, hstored⟩ := h.modify_lidar hindex hdevice fun _ => (send_config found).1
  refine ⟨t, ?_, hstored⟩
  simp only [lidar_info_change_callback, hindex, hread, ok_bind, hmodify]

/-- What a lidar is admitted with: nothing but its type has been stored. -/
def admitted_device (F : Type) [Zero F] : LidarDevice F :=
  { LidarDevice.zero F with lidar_type := LidarProtoType.kLivoxLidarType.val }

/-- A report of a new lidar admits it into a device with nothing in it. -/
theorem info_change_of_new {handle : UInt32} (hnew : lds.device_of handle = none)
    (hroom : lds.cache_index.free_slot ≠ none) :
    ∃ t, lidar_info_change_callback lds handle = .ok (t, start_commands handle) ∧
      lds.Stored handle (admitted_device F) t := by
  have hindex := h.device_of_eq_none_iff.mp hnew
  obtain ⟨i, hslot⟩ := Option.ne_none_iff_exists'.mp hroom
  obtain ⟨index, cache_index, t, hget, hmodify, hstored⟩ := h.admit hnew hslot
    fun device => { device with lidar_type := LidarProtoType.kLivoxLidarType.val }
  refine ⟨t, ?_, hstored⟩
  simp only [lidar_info_change_callback, hindex, hget, hmodify, ok_bind]

/-- A report of a new lidar finds no place in a full table. -/
theorem info_change_of_full {handle : UInt32} (hnew : lds.device_of handle = none)
    (hfull : lds.cache_index.free_slot = none) :
    lidar_info_change_callback lds handle = .ok (lds, []) := by
  have hindex := h.device_of_eq_none_iff.mp hnew
  have hplace := h.place_full (LdsLidar.place_for_eq_none_iff.mpr ⟨hnew, hfull⟩)
  simp only [lidar_info_change_callback, hindex, hplace]

section Param

variable {param : ConfigParam} {retry : UserLivoxLidarConfig F → ApiCall F} {handle : UInt32}
  {device : LidarDevice F} {response : Option LivoxLidarAsyncControlResponse}

theorem param_callback_without_device (hnone : lds.device_of handle = none)
    (status : LivoxLidarStatus) :
    set_param_callback param retry lds status handle response = .ok (lds, []) := by
  simp only [set_param_callback, h.device_of_eq_none_iff.mp hnone]

variable (param retry response) in
theorem param_callback_success (hdevice : lds.device_of handle = some device) :
    ∃ t, set_param_callback param retry lds .kLivoxLidarStatusSuccess handle response = .ok (t, []) ∧
      lds.Stored handle (device.set_bits_clear param.code_bit).check_sampling t := by
  obtain ⟨index, hindex⟩ := h.index_of_device hdevice
  obtain ⟨t, hmodify, hstored⟩ := h.modify_lidar hindex hdevice
    fun device => (device.set_bits_clear param.code_bit).check_sampling
  refine ⟨t, ?_, hstored⟩
  simp only [set_param_callback, hindex, hmodify, ok_bind]

theorem param_callback_timeout (hdevice : lds.device_of handle = some device) :
    set_param_callback param retry lds .kLivoxLidarStatusTimeout handle response =
      .ok (lds, [{ handle, call := retry device.livox_config }]) := by
  obtain ⟨index, hindex⟩ := h.index_of_device hdevice
  obtain ⟨found, hread, hfound⟩ := h.lidar_eq hindex
  obtain rfl : found = device := Option.some.inj (hfound.symm.trans hdevice)
  simp only [set_param_callback, hindex, hread, ok_bind]

omit [Zero F] h in
/-- A failure changes nothing, if its response can be read at all. -/
theorem param_callback_failure {status : LivoxLidarStatus} {t : LdsLidar F}
    {commands : List (ApiCommand F)} (hsuccess : status ≠ .kLivoxLidarStatusSuccess)
    (htimeout : status ≠ .kLivoxLidarStatusTimeout)
    (hcallback : set_param_callback param retry lds status handle response = .ok (t, commands)) :
    t = lds ∧ commands = [] := by
  unfold set_param_callback at hcallback
  cases hindex : lds.get_lidar_device handle with
  | none =>
    simp only [hindex] at hcallback
    cases hcallback
    exact ⟨rfl, rfl⟩
  | some index =>
    simp only [hindex] at hcallback
    cases response with
    | none => cases status <;> simp_all
    | some answer =>
      cases status <;> first | exact absurd rfl hsuccess | exact absurd rfl htimeout | skip
      all_goals
        cases hcallback
        exact ⟨rfl, rfl⟩

end Param

/-- The callbacks of the other calls leave the table alone. Only that of the
attitude configures a lidar, the one that the stored configuration names. -/
theorem other_callback_spec {call : ApiCall F} {status : LivoxLidarStatus} {handle : UInt32}
    {response : Option LivoxLidarAsyncControlResponse} {t : LdsLidar F}
    {commands : List (ApiCommand F)} (hcall : param_of call = none)
    (hcallback : callback_of call lds status handle response = .ok (t, commands)) :
    t = lds ∧ ∀ command ∈ commands, param_of command.call = none ∧
      (configures command.call = true → configures call = true ∧
        ∃ device, lds.device_of handle = some device ∧
          command.handle = device.livox_config.handle) := by
  cases call with
  | set_livox_lidar_pcl_data_type data_type => cases hcall
  | set_livox_lidar_scan_pattern scan_pattern => cases hcall
  | set_livox_lidar_blind_spot blind_spot => cases hcall
  | set_livox_lidar_dual_emit enable => cases hcall
  | set_livox_lidar_work_mode work_mode =>
    simp only [callback_of, work_mode_changed_callback] at hcallback
    split at hcallback <;> cases hcallback <;> simp [param_of, configures]
  | enable_livox_lidar_imu_data =>
    simp only [callback_of, enable_livox_lidar_imu_data_callback] at hcallback
    repeat' split at hcallback
    all_goals
      cases hcallback
      simp [param_of, configures]
  | set_livox_lidar_install_attitude install_attitude =>
    simp only [callback_of, set_attitude_callback] at hcallback
    cases hindex : lds.get_lidar_device handle with
    | none =>
      simp only [hindex] at hcallback
      cases hcallback
      simp
    | some index =>
      obtain ⟨device, hread, hdevice⟩ := h.lidar_eq hindex
      simp only [hindex, hread, ok_bind] at hcallback
      split at hcallback
      · cases hcallback
        simp [param_of, configures, hdevice]
      · cases hcallback
        simp

end CallBack

end livox_ros
