import Livox.CallBack.Session

open checked execution livox_lidar

namespace livox_ros

namespace Session

variable {F : Type}

/-- A configured lidar that is sampling has taken every parameter that its
configuration sets. -/
def SampledOnceAccepted (user_configs : List (UserLivoxLidarConfig F)) (s : Session F) : Prop :=
  ∀ handle ∈ user_handles user_configs,
    ∀ config ∈ LdsLidar.last_config user_configs handle, ∀ device ∈ s.lds.device_of handle,
      device.connect_state = .kConnectStateSampling →
        ∀ param, config.sets param = true → s.Accepted handle param

/-- The guard: what the library reports as a success has been taken by the
lidar, whose return code the callbacks do not look at. -/
def SuccessAccepted (user_configs : List (UserLivoxLidarConfig F)) (s : Session F) :
    SessionEvent → Prop
  | .info_change _ => True
  | .response position status response =>
    ∀ command ∈ s.outstanding[position]?, ∀ param ∈ param_of command.call,
      command.handle ∈ user_handles user_configs → status = .kLivoxLidarStatusSuccess →
        (∃ answer ∈ response, answer.ret_code = 0) ∨ s.Accepted command.handle param

instance (s : Session F) (handle : UInt32) (param : ConfigParam) :
    Decidable (s.Accepted handle param) :=
  List.decidableBEx _ s.answered

instance (user_configs : List (UserLivoxLidarConfig F)) (s : Session F) :
    Decidable (s.SampledOnceAccepted user_configs) :=
  List.decidableBAll _ (user_handles user_configs)

instance (user_configs : List (UserLivoxLidarConfig F)) (s : Session F) :
    ∀ event, Decidable (s.SuccessAccepted user_configs event)
  | .info_change _ => .isTrue trivial
  | .response position _ response =>
    inferInstanceAs (Decidable (∀ command ∈ s.outstanding[position]?,
      ∀ param ∈ param_of command.call, _ → _ → (∃ answer ∈ response, _) ∨ _))

theorem Accepted.answer {s : Session F} {handle : UInt32} {param : ConfigParam}
    (h : s.Accepted handle param) (position : Nat) (reply : Answer F) :
    (s.answer position reply).Accepted handle param := by
  obtain ⟨earlier, hmem, hrest⟩ := h
  exact ⟨earlier, List.mem_append_left _ hmem, hrest⟩

/-- Under the guard, an answer that clears a bit makes its parameter accepted. -/
theorem accepted_of_success {user_configs : List (UserLivoxLidarConfig F)} {s : Session F}
    {position : Nat} {reply : Answer F} {param : ConfigParam}
    (hguard : s.SuccessAccepted user_configs (.response position reply.status reply.response))
    (hposition : s.outstanding[position]? = some reply.command)
    (hparam : param_of reply.command.call = some param)
    (huser : reply.command.handle ∈ user_handles user_configs)
    (hstatus : reply.status = .kLivoxLidarStatusSuccess) :
    (s.answer position reply).Accepted reply.command.handle param := by
  rcases hguard _ hposition param hparam huser hstatus with ⟨response, hresponse, hcode⟩ | hbefore
  · exact ⟨reply, List.mem_append_right _ (List.mem_singleton_self _), rfl, hparam, hstatus,
      response, hresponse, hcode⟩
  · exact hbefore.answer position reply

/-- The acceptance of one device: a parameter that is set and no longer waited
for has been accepted, once the lidar has been reported. -/
structure Acceptance (s : Session F) (handle : UInt32) (device : LidarDevice F)
    (waiting : Finset ConfigParam) : Prop where
  waits : device.WaitsFor waiting
  unreported : handle ∉ s.reported → device.connect_state ≠ .kConnectStateSampling
  reported : handle ∈ s.reported → ∀ param, device.livox_config.sets param = true →
    param ∈ waiting ∨ s.Accepted handle param
  sampling : device.connect_state = .kConnectStateSampling →
    ∀ param, device.livox_config.sets param = true → s.Accepted handle param

structure Accepting (user_configs : List (UserLivoxLidarConfig F)) (s : Session F) : Prop where
  reported : ∀ handle param, s.ParamOutstanding handle param → handle ∈ s.reported
  devices : ∀ handle ∈ user_handles user_configs, ∀ device, s.lds.device_of handle = some device →
    ∃ waiting, s.Acceptance handle device waiting

/-- The device of a lidar that the step leaves alone. -/
theorem Acceptance.frame {s t : Session F} {handle : UInt32} {device : LidarDevice F}
    {waiting : Finset ConfigParam} (h : s.Acceptance handle device waiting)
    (hreported : handle ∈ t.reported ↔ handle ∈ s.reported)
    (haccepted : ∀ param, s.Accepted handle param → t.Accepted handle param) :
    t.Acceptance handle device waiting where
  waits := h.waits
  unreported := fun hnot => h.unreported (mt hreported.mpr hnot)
  reported := fun hmem param hset =>
    (h.reported (hreported.mp hmem) param hset).imp_right (haccepted param)
  sampling := fun hstate param hset => haccepted param (h.sampling hstate param hset)

/-- After a report, every parameter that is set is waited for. -/
theorem Acceptance.report {s : Session F} {handle : UInt32} {device : LidarDevice F}
    {waiting : Finset ConfigParam} (h : s.Acceptance handle device waiting) (t : LdsLidar F)
    (commands : List (ApiCommand F)) :
    ((s.report handle).issue handle t commands).Acceptance handle (send_config device).1
      (device.livox_config.params ∪ waiting) := by
  obtain ⟨hwaits, hempty, hnonempty⟩ := send_config_spec h.waits
  have hsets := (send_config_same device).sets
  refine ⟨hwaits, fun hnot => ?_, fun _ param hset => ?_, fun hstate param hset => ?_⟩
  · exact absurd (List.mem_append_right _ (List.mem_singleton_self handle)) hnot
  · rw [hsets] at hset
    exact Or.inl (Finset.mem_union_left _ (mem_params.mpr hset))
  · rw [hsets] at hset
    have hne : device.livox_config.params ∪ waiting ≠ ∅ :=
      Finset.ne_empty_of_mem (Finset.mem_union_left _ (mem_params.mpr hset))
    rw [hnonempty hne] at hstate
    exact h.sampling hstate param hset

/-- The bit that a success clears is that of an accepted parameter. -/
theorem Acceptance.clear {s : Session F} {position : Nat} {reply : Answer F} {param : ConfigParam}
    {device : LidarDevice F} {waiting : Finset ConfigParam}
    (h : s.Acceptance reply.command.handle device waiting)
    (hreported : reply.command.handle ∈ s.reported)
    (haccepted : (s.answer position reply).Accepted reply.command.handle param) (t : LdsLidar F) :
    ((s.answer position reply).issue reply.command.handle t []).Acceptance reply.command.handle
      (device.set_bits_clear param.code_bit).check_sampling (waiting.erase param) := by
  obtain ⟨hwaits, hempty, hnonempty⟩ := clear_param_spec h.waits param
  have hsets := (clear_param_same device param).sets
  have hremaining : ∀ other, device.livox_config.sets other = true →
      other ∈ waiting.erase param ∨ (s.answer position reply).Accepted reply.command.handle other := by
    intro other hset
    by_cases heq : other = param
    · exact Or.inr (heq ▸ haccepted)
    · exact (h.reported hreported other hset).imp (fun hmem => Finset.mem_erase.mpr ⟨heq, hmem⟩)
        fun hbefore => hbefore.answer position reply
  refine ⟨hwaits, fun hnot => absurd hreported hnot, fun _ other hset => ?_,
    fun hstate other hset => ?_⟩
  · rw [hsets] at hset
    exact hremaining other hset
  · rw [hsets] at hset
    by_cases hnothing : waiting.erase param = ∅
    · apply (hremaining other hset).resolve_left
      intro hmem
      simp [hnothing] at hmem
    · rw [hnonempty hnothing] at hstate
      exact (h.sampling hstate other hset).answer position reply

theorem start_accepting [Zero F] {user_configs : List (UserLivoxLidarConfig F)} {lds : LdsLidar F}
    (h : lds.Filled user_configs) (hbits : ∀ config ∈ user_configs, config.set_bits = 0) :
    (start lds).Accepting user_configs where
  reported := by
    rintro handle param ⟨command, hmem, _⟩
    cases hmem
  devices := by
    intro handle _ device hdevice
    obtain ⟨config, hconfig, rfl⟩ := h.device handle device hdevice
    have hoff : (LdsLidar.fill_in config (LidarDevice.zero F)).connect_state ≠
        .kConnectStateSampling := by
      intro hstate
      cases hstate
    refine ⟨∅, ?_, fun _ => hoff, (fun hmem => nomatch hmem), fun hstate => absurd hstate hoff⟩
    rw [LidarDevice.WaitsFor, (code_bits_eq_zero_iff ∅).mpr rfl]
    exact hbits config (LdsLidar.last_config_mem hconfig).1

theorem Accepting.sampled [Zero F] {user_configs : List (UserLivoxLidarConfig F)} {s : Session F}
    (hserved : s.Served user_configs) (h : s.Accepting user_configs) :
    s.SampledOnceAccepted user_configs := by
  intro handle huser config hconfig device hdevice hstate param hset
  obtain ⟨found, hfound, hsame⟩ := hserved.config handle huser device hdevice
  obtain rfl : found = config := Option.some.inj (hfound.symm.trans hconfig)
  obtain ⟨waiting, hacceptance⟩ := h.devices handle huser device hdevice
  apply hacceptance.sampling hstate param
  rw [hsame.sets]
  exact hset

section Steps

variable {user_configs : List (UserLivoxLidarConfig F)} {s : Session F}
  (h : s.Accepting user_configs)
include h

/-- A report with whatever it issues to that lidar, as long as its device, if
the lidar is configured, is tracked. -/
theorem Accepting.report {handle : UInt32} {t : LdsLidar F} {commands : List (ApiCommand F)}
    (hcommands : ∀ command ∈ commands, (param_of command.call).isSome = true →
      command.handle = handle)
    (hothers : ∀ other, other ≠ handle → t.device_of other = s.lds.device_of other)
    (hown : handle ∈ user_handles user_configs → ∀ device, t.device_of handle = some device →
      ∃ waiting, ((s.report handle).issue handle t commands).Acceptance handle device waiting) :
    ((s.report handle).issue handle t commands).Accepting user_configs where
  reported := by
    intro other param houtstanding
    rcases paramOutstanding_issue_iff.mp houtstanding with hold | ⟨command, hmem, rfl, hparam⟩
    · exact List.mem_append_left _ (h.reported other param hold)
    · rw [hcommands command hmem (by simp [hparam])]
      exact List.mem_append_right _ (List.mem_singleton_self _)
  devices := by
    intro other huser device hdevice
    by_cases heq : other = handle
    · subst heq
      exact hown huser device hdevice
    · simp only [Session.issue, hothers other heq] at hdevice
      obtain ⟨waiting, hacceptance⟩ := h.devices other huser device hdevice
      refine ⟨waiting, hacceptance.frame ?_ fun param hbefore => hbefore⟩
      simp [Session.issue, Session.report, heq]

/-- An answer that leaves the table alone and may retry its command. -/
theorem Accepting.answer {position : Nat} {reply : Answer F} {commands : List (ApiCommand F)}
    (hposition : s.outstanding[position]? = some reply.command)
    (hcommands : ∀ command ∈ commands, (param_of command.call).isSome = true →
      command.handle = reply.command.handle ∧ (param_of reply.command.call).isSome = true) :
    ((s.answer position reply).issue reply.command.handle s.lds commands).Accepting user_configs where
  reported := by
    intro handle param houtstanding
    rcases paramOutstanding_issue_iff.mp houtstanding with hold | ⟨command, hmem, rfl, hparam⟩
    · exact h.reported handle param hold.of_answer
    · obtain ⟨hsame, hanswered⟩ := hcommands command hmem (by simp [hparam])
      obtain ⟨earlier, hearlier⟩ := Option.isSome_iff_exists.mp hanswered
      rw [hsame]
      exact h.reported _ earlier ⟨_, List.mem_of_getElem? hposition, rfl, hearlier⟩
  devices := by
    intro handle huser device hdevice
    obtain ⟨waiting, hacceptance⟩ := h.devices handle huser device hdevice
    exact ⟨waiting, hacceptance.frame Iff.rfl fun param hbefore => hbefore.answer position reply⟩

/-- An accepted success clears its bit in its own lidar's device. -/
theorem Accepting.clear [Zero F] {position : Nat} {reply : Answer F} {param : ConfigParam}
    {device : LidarDevice F} {t : LdsLidar F}
    (hposition : s.outstanding[position]? = some reply.command)
    (hparam : param_of reply.command.call = some param)
    (hdevice : s.lds.device_of reply.command.handle = some device)
    (hstored : s.lds.Stored reply.command.handle
      (device.set_bits_clear param.code_bit).check_sampling t)
    (haccepted : reply.command.handle ∈ user_handles user_configs →
      (s.answer position reply).Accepted reply.command.handle param) :
    ((s.answer position reply).issue reply.command.handle t []).Accepting user_configs where
  reported := by
    intro handle other houtstanding
    rcases paramOutstanding_issue_iff.mp houtstanding with hold | ⟨command, hmem, _⟩
    · exact h.reported handle other hold.of_answer
    · cases hmem
  devices := by
    intro handle huser found hfound
    simp only [Session.issue, hstored.device_of] at hfound
    split at hfound
    · rename_i heq
      subst heq
      obtain rfl := Option.some.inj hfound
      obtain ⟨waiting, hacceptance⟩ := h.devices _ huser device hdevice
      have hreported := h.reported _ param ⟨_, List.mem_of_getElem? hposition, rfl, hparam⟩
      exact ⟨_, hacceptance.clear hreported (haccepted huser) t⟩
    · obtain ⟨waiting, hacceptance⟩ := h.devices handle huser found hfound
      exact ⟨waiting, hacceptance.frame Iff.rfl fun other hbefore => hbefore.answer position reply⟩

end Steps

variable [Zero F]

theorem Effect.accepting {user_configs : List (UserLivoxLidarConfig F)} {s t : Session F}
    {event : SessionEvent} (hserved : s.Served user_configs) (h : s.Accepting user_configs)
    (hguard : s.SuccessAccepted user_configs event) (heffect : Effect s event t) :
    t.Accepting user_configs := by
  cases heffect with
  | @configured handle device t hdevice hstored =>
    refine h.report ?_ (fun other hne => by rw [hstored.device_of, if_neg hne]) ?_
    · intro command hmem hsome
      obtain ⟨param, hparam⟩ := Option.isSome_iff_exists.mp hsome
      rw [send_config_calls, mem_config_commands_param hparam] at hmem
      rw [hmem.2]
    · intro huser found hfound
      rw [hstored.device_of, if_pos rfl] at hfound
      obtain rfl := Option.some.inj hfound
      obtain ⟨waiting, hacceptance⟩ := h.devices handle huser device hdevice
      exact ⟨_, hacceptance.report t _⟩
  | @admitted handle t hnew hroom hstored =>
    refine h.report ?_ (fun other hne => by rw [hstored.device_of, if_neg hne]) ?_
    · intro command hmem hsome
      rw [param_of_start_commands hmem] at hsome
      cases hsome
    · exact fun huser => absurd huser (hserved.not_configured hnew hroom)
  | @refused handle hnew hfull =>
    refine h.report (by simp) (fun _ _ => rfl) fun _ device hdevice => ?_
    exact absurd (hnew.symm.trans hdevice) (by simp)
  | absent hposition => exact h
  | unrouted hposition hparam hnone => exact h.answer hposition (by simp)
  | cleared hposition hparam hdevice hstatus hstored =>
    exact h.clear hposition hparam hdevice hstored fun huser =>
      accepted_of_success hguard hposition hparam huser hstatus
  | retried hposition hparam hdevice hstatus => exact h.answer hposition (by simp [hparam])
  | failed hposition hparam hsuccess htimeout => exact h.answer hposition (by simp)
  | other hposition hparam hcommands =>
    apply h.answer hposition
    intro command hmem hsome
    simp [(hcommands command hmem).1] at hsome

end Session

/-- After the registration of configurations that wait for nothing, no
configured lidar samples with a parameter that it has not accepted, in any run
in which every reported success carries the return code zero. -/
theorem sampled_lidars_accepted {F : Type} [Zero F] (user_configs : List (UserLivoxLidarConfig F))
    (hbits : ∀ config ∈ user_configs, config.set_bits = 0) :
    ∃ lds lidar_params, LdsLidar.new.init_livox_lidar user_configs = .ok (lds, lidar_params) ∧
      ∀ events : List SessionEvent,
        StepsSatisfy Session.step (Session.SuccessAccepted user_configs) (.start lds) events →
          StatesSatisfy Session.step (Session.SampledOnceAccepted user_configs) (.start lds) events := by
  obtain ⟨lds, lidar_params, hinit, hfilled⟩ := LdsLidar.init_livox_lidar_filled user_configs
  refine ⟨lds, lidar_params, hinit, fun events hguard => ?_⟩
  have hstep := Session.Served.step fun (s : Session F) event t (hserved : s.Served user_configs)
    (h : s.Accepting user_configs) (hguard : s.SuccessAccepted user_configs event)
    (heffect : s.Effect event t) => heffect.accepting hserved h hguard
  have hinv := StepsSatisfy.invariant hstep
    ⟨Session.start_served hfilled, Session.start_accepting hfilled hbits⟩ hguard
  exact hinv.mono fun s h => h.2.sampled h.1

/-- The configuration of the lidar 192.168.1.100 with its data type alone. -/
noncomputable def pcl_data_type_config : UserLivoxLidarConfig ℝ :=
  { (LidarDevice.zero ℝ).livox_config with
    handle := 0x6401A8C0
    pcl_data_type := 1
    pattern_mode := -1
    blind_spot_set := -1
    dual_emit_en := -1 }

theorem sampled_lidars_accepted_one_lidar :
    ∃ lds lidar_params,
      LdsLidar.new.init_livox_lidar [pcl_data_type_config] = .ok (lds, lidar_params) ∧
      StatesSatisfy Session.step (Session.SampledOnceAccepted [pcl_data_type_config]) (.start lds)
        [.info_change 0x6401A8C0,
          .response 0 .kLivoxLidarStatusSuccess (some { ret_code := 0, error_key := 0 })] := by
  obtain ⟨lds, lidar_params, hinit, hruns⟩ :=
    sampled_lidars_accepted [pcl_data_type_config] (by simp [pcl_data_type_config, LidarDevice.zero])
  have hguard : ∀ start ∈ (LdsLidar.new.init_livox_lidar [pcl_data_type_config]).toOption,
      StepsSatisfy Session.step (Session.SuccessAccepted [pcl_data_type_config]) (.start start.1)
        [.info_change 0x6401A8C0,
          .response 0 .kLivoxLidarStatusSuccess (some { ret_code := 0, error_key := 0 })] := by
    decide +kernel
  exact ⟨lds, lidar_params, hinit, hruns _ (hguard (lds, lidar_params) (by rw [hinit]; rfl))⟩

/-- The lidar refuses its data type with the return code 1, in a response that
the library reports as a success, and is sampled all the same. -/
theorem refused_lidar_sampled :
    ∃ lds lidar_params,
      LdsLidar.new.init_livox_lidar [pcl_data_type_config] = .ok (lds, lidar_params) ∧
      ¬ StatesSatisfy Session.step (Session.SampledOnceAccepted [pcl_data_type_config]) (.start lds)
        [.info_change 0x6401A8C0,
          .response 0 .kLivoxLidarStatusSuccess (some { ret_code := 1, error_key := 0 })] :=
  ⟨_, _, rfl, by decide +kernel⟩

end livox_ros
