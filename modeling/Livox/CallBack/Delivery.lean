import Livox.CallBack.Session
import Livox.ParseCfgFile.Params

open checked execution livox_lidar

namespace livox_ros

section Sends

variable {F : Type}

/-- The commands send the parameter if and only if the entry has its member, to
the lidar, with the key and the value that `delivered` gives for the member. -/
structure SendsParam (float_bytes : F → List UInt8)
    (delivered : ConfigParam → Int32 → UInt16 × Int32) (entry : Value F) (handle : UInt32)
    (param : ConfigParam) (commands : List (ApiCommand F)) : Prop where
  sent_iff : (∃ command ∈ commands, param_of command.call = some param) ↔
    (entry.param_value param).isSome = true
  carries : ∀ command ∈ commands, param_of command.call = some param →
    command.handle = handle ∧ ∀ value ∈ entry.param_value param,
      (command.call.key_value float_bytes).Carries (delivered param value).1
        (delivered param value).2

/-- The report of a lidar that is in the table, and every retry after a
timeout, send the parameter as the entry has it. -/
structure Session.Delivers (float_bytes : F → List UInt8)
    (delivered : ConfigParam → Int32 → UInt16 × Int32) (entry : Value F) (handle : UInt32)
    (param : ConfigParam) (s : Session F) : Prop where
  report : s.lds.get_lidar_device handle ≠ none →
    ∃ t commands, lidar_info_change_callback s.lds handle = .ok (t, commands) ∧
      SendsParam float_bytes delivered entry handle param commands
  retry : ∀ command ∈ s.outstanding, command.handle = handle →
    param_of command.call = some param → ∀ response, ∃ t commands,
      callback_of command.call s.lds .kLivoxLidarStatusTimeout handle response = .ok (t, commands) ∧
        SendsParam float_bytes delivered entry handle param commands

end Sends

namespace Session

variable {F : Type}

/-- A configured lidar has a device, which sets the parameter, once a command
for the parameter is outstanding. -/
def OutstandingSet (user_configs : List (UserLivoxLidarConfig F)) (s : Session F) : Prop :=
  ∀ handle ∈ user_handles user_configs, ∀ param, s.ParamOutstanding handle param →
    ∃ device, s.lds.device_of handle = some device ∧ device.livox_config.sets param = true

section Steps

variable {user_configs : List (UserLivoxLidarConfig F)} {s : Session F}
  (h : s.OutstandingSet user_configs)
include h

/-- A step that keeps the devices and issues only what they set. -/
theorem OutstandingSet.issue {u : Session F} {handle : UInt32} {t : LdsLidar F}
    {commands : List (ApiCommand F)}
    (hbefore : ∀ other param, u.ParamOutstanding other param → s.ParamOutstanding other param)
    (hkept : ∀ other ∈ user_handles user_configs, ∀ device, s.lds.device_of other = some device →
      ∃ after, t.device_of other = some after ∧
        after.livox_config.sets = device.livox_config.sets)
    (hcommands : ∀ command ∈ commands, ∀ param, param_of command.call = some param →
      command.handle ∈ user_handles user_configs → ∃ after,
        t.device_of command.handle = some after ∧ after.livox_config.sets param = true) :
    (u.issue handle t commands).OutstandingSet user_configs := by
  intro other huser param houtstanding
  rcases paramOutstanding_issue_iff.mp houtstanding with hold | ⟨command, hmem, rfl, hparam⟩
  · obtain ⟨device, hdevice, hset⟩ := h other huser param (hbefore other param hold)
    obtain ⟨after, hafter, hsets⟩ := hkept other huser device hdevice
    exact ⟨after, hafter, by rw [hsets, hset]⟩
  · exact hcommands command hmem param hparam huser

omit h in
/-- Storing a device that keeps its configuration keeps every device's. -/
theorem kept_of_stored [Zero F] {handle : UInt32} {before after : LidarDevice F} {t : LdsLidar F}
    (hbefore : s.lds.device_of handle = some before) (hsame : before.SameConfig after)
    (hstored : s.lds.Stored handle after t) (other : UInt32) (device : LidarDevice F)
    (hdevice : s.lds.device_of other = some device) :
    ∃ found, t.device_of other = some found ∧
      found.livox_config.sets = device.livox_config.sets := by
  rw [hstored.device_of]
  split
  · rename_i heq
    subst heq
    obtain rfl := Option.some.inj (hbefore.symm.trans hdevice)
    exact ⟨after, rfl, hsame.sets⟩
  · exact ⟨device, hdevice, rfl⟩

theorem OutstandingSet.step [Zero F] {event : SessionEvent} {t : Session F}
    (hserved : s.Served user_configs) (heffect : Effect s event t) :
    t.OutstandingSet user_configs := by
  have hanswer : ∀ (position : Nat) (answer : Answer F) other param,
      (s.answer position answer).ParamOutstanding other param → s.ParamOutstanding other param :=
    fun _ _ _ _ hold => hold.of_answer
  have hsame : ∀ other ∈ user_handles user_configs, ∀ device,
      s.lds.device_of other = some device → ∃ after, s.lds.device_of other = some after ∧
        after.livox_config.sets = device.livox_config.sets :=
    fun _ _ device hdevice => ⟨device, hdevice, rfl⟩
  cases heffect with
  | @configured handle device t hdevice hstored =>
    refine h.issue (fun _ _ hold => hold)
      (fun other _ => kept_of_stored hdevice (send_config_same device) hstored other) ?_
    intro command hmem param hparam _
    rw [send_config_calls, mem_config_commands_param hparam] at hmem
    obtain ⟨hset, rfl⟩ := hmem
    refine ⟨(send_config device).1, by rw [hstored.device_of, if_pos rfl], ?_⟩
    rw [(send_config_same device).sets]
    exact mem_params.mp hset
  | @admitted handle t hnew hroom hstored =>
    refine h.issue (fun _ _ hold => hold) (fun other huser device hdevice => ?_) ?_
    · have hne : other ≠ handle := by
        rintro rfl
        exact hserved.not_configured hnew hroom huser
      exact ⟨device, by rw [hstored.device_of, if_neg hne, hdevice], rfl⟩
    · intro command hmem param hparam _
      rw [param_of_start_commands hmem] at hparam
      cases hparam
  | refused hnew hfull => exact h.issue (fun _ _ hold => hold) hsame (by simp)
  | absent hposition => exact h
  | unrouted hposition hparam hnone => exact h.issue (hanswer _ _) hsame (by simp)
  | cleared hposition hparam hdevice hstatus hstored =>
    exact h.issue (hanswer _ _)
      (fun other _ => kept_of_stored hdevice (clear_param_same _ _) hstored other) (by simp)
  | @retried position answer param device hposition hparam hdevice hstatus =>
    apply h.issue (hanswer _ _) hsame
    intro command hmem sent hsent huser
    obtain rfl := List.mem_singleton.mp hmem
    obtain rfl := Option.some.inj ((param_of_api_call device.livox_config param).symm.trans hsent)
    exact h _ huser param ⟨_, List.mem_of_getElem? hposition, rfl, hparam⟩
  | failed hposition hparam hsuccess htimeout => exact h.issue (hanswer _ _) hsame (by simp)
  | other hposition hparam hcommands =>
    apply h.issue (hanswer _ _) hsame
    intro command hmem param hsome _
    rw [(hcommands command hmem).1] at hsome
    cases hsome

end Steps

section Delivers

variable [Zero F] {user_configs : List (UserLivoxLidarConfig F)} {s : Session F}
  {config : UserLivoxLidarConfig F} {handle : UInt32}

/-- The device of a configured lidar sets and sends what its entry has. -/
theorem Served.device_params (h : s.Served user_configs)
    (hconfig : LdsLidar.last_config user_configs handle = some config) {device : LidarDevice F}
    (hdevice : s.lds.device_of handle = some device) :
    device.livox_config.sets = config.sets ∧ device.livox_config.api_call = config.api_call := by
  obtain ⟨found, hfound, hsame⟩ := h.config handle (mem_user_handles hconfig) device hdevice
  obtain rfl : found = config := Option.some.inj (hfound.symm.trans hconfig)
  exact ⟨hsame.sets, hsame.api_call⟩

variable [IntCast F] {ip_string_to_num : String → UInt32} {entry : Value F} {param : ConfigParam}

/-- Within the range, a command that makes the call of the configuration, and
is there if the parameter is set, sends the parameter. -/
theorem sendsParam_of_entry (hentry : parse_user_config ip_string_to_num entry = .ok (some config))
    (hrange : ∀ value ∈ entry.param_value param, param.InRange value)
    (float_bytes : F → List UInt8) {commands : List (ApiCommand F)}
    (hcommands : ∀ command, param_of command.call = some param → (command ∈ commands ↔
      config.sets param = true ∧ command = { handle, call := config.api_call param })) :
    SendsParam float_bytes ConfigParam.delivered entry handle param commands where
  sent_iff := by
    rw [← sets_iff_param_value hentry hrange]
    constructor
    · rintro ⟨command, hmem, hparam⟩
      exact ((hcommands command hparam).mp hmem).1
    · intro hset
      have hparam := param_of_api_call config param
      exact ⟨{ handle, call := config.api_call param }, (hcommands _ hparam).mpr ⟨hset, rfl⟩, hparam⟩
  carries := by
    intro command hmem hparam
    obtain ⟨_, rfl⟩ := (hcommands command hparam).mp hmem
    exact ⟨rfl, fun value hvalue => request_carries_param_value hentry hrange float_bytes hvalue⟩

theorem OutstandingSet.delivers (hserved : s.Served user_configs)
    (h : s.OutstandingSet user_configs)
    (hentry : parse_user_config ip_string_to_num entry = .ok (some config))
    (hconfig : LdsLidar.last_config user_configs handle = some config)
    (hrange : ∀ value ∈ entry.param_value param, param.InRange value)
    (float_bytes : F → List UInt8) :
    s.Delivers float_bytes ConfigParam.delivered entry handle param where
  report := by
    intro hindex
    obtain ⟨device, hdevice⟩ := Option.ne_none_iff_exists'.mp
      (mt hserved.registry.device_of_eq_none_iff.mp hindex)
    obtain ⟨hsets, hcall⟩ := hserved.device_params hconfig hdevice
    obtain ⟨t, hcallback, _⟩ := info_change_of_device hserved.registry hdevice
    refine ⟨t, _, hcallback, sendsParam_of_entry hentry hrange float_bytes fun command hparam => ?_⟩
    rw [send_config_calls, mem_config_commands_param hparam, mem_params, hsets, hcall]
  retry := by
    intro command hmem hhandle hparam response
    obtain ⟨device, hdevice, hset⟩ :=
      h handle (mem_user_handles hconfig) param ⟨command, hmem, hhandle, hparam⟩
    obtain ⟨hsets, hcall⟩ := hserved.device_params hconfig hdevice
    rw [callback_of_param hparam]
    refine ⟨s.lds, _, param_callback_timeout hserved.registry hdevice,
      sendsParam_of_entry hentry hrange float_bytes fun sent _ => ?_⟩
    rw [hsets] at hset
    rw [List.mem_singleton, hcall, hset]
    simp

end Delivers

end Session

/-- For the last entry of an address, the report of its lidar and every retry
send each parameter whose value is in range exactly when the entry has it. -/
theorem configured_values_delivered {F : Type} [Zero F] [IntCast F]
    (float_bytes : F → List UInt8) {ip_string_to_num : String → UInt32} {doc : Value F}
    {earlier later : List (Value F)} {entry : Value F} {handle : UInt32}
    {user_configs : List (UserLivoxLidarConfig F)}
    (hdoc : doc.find_member "lidar_configs" = .ok (some (.array (earlier ++ entry :: later))))
    (hparse : parse ip_string_to_num (some doc) = .ok user_configs)
    (hhandle : entry.handle ip_string_to_num = some handle)
    (hlast : ∀ other ∈ later, other.handle ip_string_to_num ≠ some handle) :
    ∃ lds lidar_params, LdsLidar.new.init_livox_lidar user_configs = .ok (lds, lidar_params) ∧
      ∀ param, (∀ value ∈ entry.param_value param, param.InRange value) →
        ∀ events : List SessionEvent, StatesSatisfy Session.step
          (Session.Delivers float_bytes ConfigParam.delivered entry handle param) (.start lds)
          events := by
  simp only [parse, hdoc, ok_bind] at hparse
  obtain ⟨config, hentry, hconfig⟩ := last_config_entry hparse hhandle hlast
  obtain ⟨lds, lidar_params, hinit, hfilled⟩ := LdsLidar.init_livox_lidar_filled user_configs
  refine ⟨lds, lidar_params, hinit, fun param hrange events => ?_⟩
  have hstep := Session.Served.step fun (s : Session F) event t (hserved : s.Served user_configs)
    (h : s.OutstandingSet user_configs) (_ : True) (heffect : s.Effect event t) =>
      h.step hserved heffect
  have hstart : (Session.start lds).OutstandingSet user_configs := by
    rintro _ _ _ ⟨command, hmem, _⟩
    cases hmem
  have hinv := statesSatisfy_invariant (fun s event t h => hstep s event t h trivial)
    ⟨Session.start_served hfilled, hstart⟩ events
  exact hinv.mono fun s hs => hs.2.delivers hs.1 hentry hconfig hrange float_bytes

/-- The document with these entries. -/
noncomputable def lidar_configs_doc (entries : List (Value ℝ)) : Value ℝ :=
  .object [("lidar_configs", .array entries)]

/-- An entry for the lidar 192.168.1.100 with these other members. -/
noncomputable def lidar_entry (members : List (String × Value ℝ)) : Value ℝ :=
  .object (("ip", .string "192.168.1.100") :: members)

theorem configured_values_delivered_one_entry :
    ∃ user_configs lds lidar_params,
      parse (fun _ => 0x6401A8C0) (some (lidar_configs_doc [lidar_entry [("pcl_data_type", .int 1)]])) =
        .ok user_configs ∧
      LdsLidar.new.init_livox_lidar user_configs = .ok (lds, lidar_params) ∧
      StatesSatisfy Session.step
        (Session.Delivers (fun _ => [0, 0, 0, 0]) ConfigParam.delivered
          (lidar_entry [("pcl_data_type", .int 1)]) 0x6401A8C0 .pcl_data_type) (.start lds)
        [.info_change 0x6401A8C0, .response 0 .kLivoxLidarStatusTimeout none] := by
  obtain ⟨lds, lidar_params, hinit, hdelivers⟩ :=
    @configured_values_delivered ℝ _ _ (fun _ => [0, 0, 0, 0]) (fun _ => 0x6401A8C0)
      (lidar_configs_doc [lidar_entry [("pcl_data_type", .int 1)]]) [] []
      (lidar_entry [("pcl_data_type", .int 1)]) 0x6401A8C0 _ rfl rfl rfl (by simp)
  refine ⟨_, lds, lidar_params, rfl, hinit, hdelivers .pcl_data_type ?_ _⟩
  rintro value hvalue
  obtain rfl : (1 : Int32) = value := Option.some.inj hvalue
  decide

/-- The commands that the first report of a lidar after start-up issues. -/
noncomputable def first_report (ip_string_to_num : String → UInt32) (entries : List (Value ℝ))
    (handle : UInt32) : Checked (List (ApiCommand ℝ)) := do
  let user_configs ← parse ip_string_to_num (some (lidar_configs_doc entries))
  let (lds, _) ← LdsLidar.new.init_livox_lidar user_configs
  let (_, commands) ← lidar_info_change_callback lds handle
  .ok commands

/-- The lidar's first report does not send the parameter as the entry has it. -/
def ReportAlters (ip_string_to_num : String → UInt32) (entries : List (Value ℝ)) (entry : Value ℝ)
    (handle : UInt32) (param : ConfigParam) : Prop :=
  ∃ commands, first_report ip_string_to_num entries handle = .ok commands ∧
    ¬ SendsParam (fun _ => [0, 0, 0, 0]) (fun param value => (param.key, value)) entry handle param
      commands

/-- The handle of an address of the subnet 10.0.0.0, by its last number. -/
def subnet_address (ip : String) : UInt32 :=
  UInt32.ofNat (0x0A + 0x1000000 * (ip.toList.drop 7).foldl (fun n digit => 10 * n + (digit.toNat - 48)) 0)

/-- The entry of one lidar of the subnet. -/
noncomputable def subnet_entry (i : Nat) : Value ℝ :=
  .object [("ip", .string ("10.0.0." ++ toString i)), ("pcl_data_type", .int 1)]

theorem report_alters {ip_string_to_num : String → UInt32} {entries : List (Value ℝ)}
    {entry : Value ℝ} {handle : UInt32} {param : ConfigParam} {value : Int32}
    (hvalue : entry.param_value param = some value)
    (h : ∃ commands ∈ (first_report ip_string_to_num entries handle).toOption,
      ∀ command ∈ commands, param_of command.call = some param →
        ¬ (command.call.key_value fun _ => [0, 0, 0, 0]).Carries param.key value) :
    ReportAlters ip_string_to_num entries entry handle param := by
  obtain ⟨commands, hrun, hcommands⟩ := h
  refine ⟨commands, ?_, fun hsends => ?_⟩
  · cases hresult : first_report ip_string_to_num entries handle with
    | error fault => simp [hresult, Except.toOption] at hrun
    | ok result => simpa [hresult, Except.toOption] using hrun
  · obtain ⟨command, hmem, hparam⟩ := hsends.sent_iff.mpr (by simp [hvalue])
    have hcarries := (hsends.carries command hmem hparam).2 value hvalue
    exact hcommands command hmem hparam hcarries

/-- The data type 0 goes out under the key of the IMU with the value 1; an entry
that a later one of its address replaces, and one for which there is no slot
left, do not go out at all. -/
theorem first_report_alters :
    ReportAlters (fun _ => 0x6401A8C0) [lidar_entry [("pcl_data_type", .int 0)]]
      (lidar_entry [("pcl_data_type", .int 0)]) 0x6401A8C0 .pcl_data_type ∧
    ReportAlters (fun _ => 0x6401A8C0) [lidar_entry [("pcl_data_type", .int 1)], lidar_entry []]
      (lidar_entry [("pcl_data_type", .int 1)]) 0x6401A8C0 .pcl_data_type ∧
    ReportAlters subnet_address ((List.range 33).map subnet_entry) (subnet_entry 32) 0x2000000A
      .pcl_data_type := by
  refine ⟨@report_alters _ _ _ _ _ 0 rfl ?_, @report_alters _ _ _ _ _ 1 rfl ?_,
    @report_alters _ _ _ _ _ 1 rfl ?_⟩
  all_goals decide +kernel

end livox_ros
