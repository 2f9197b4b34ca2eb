import Livox.CallBack.Session

open checked execution livox_lidar

namespace livox_ros

namespace Session

variable {F : Type}

/-- A reported lidar without an unsettled parameter is sampling, so that its
queues are drained. -/
def SampledOnceSettled (s : Session F) : Prop :=
  ∀ handle ∈ s.reported, ∀ device ∈ s.lds.device_of handle,
    (∀ param, ¬ s.Unsettled handle param) → device.connect_state = .kConnectStateSampling

instance (s : Session F) : Decidable s.SampledOnceSettled :=
  List.decidableBAll _ s.reported

/-- The progress of one device: before the first report it waits for nothing,
and afterwards it waits only for parameters that are unsettled. -/
structure Progress (s : Session F) (handle : UInt32) (device : LidarDevice F)
    (waiting : Finset ConfigParam) : Prop where
  waits : device.WaitsFor waiting
  unreported : handle ∉ s.reported → waiting = ∅
  reported : handle ∈ s.reported → device.connect_state = .kConnectStateSampling ∨
    waiting.Nonempty ∧ ∀ param ∈ waiting, s.Unsettled handle param

structure Progressing (s : Session F) : Prop where
  registered : ∀ handle param, s.Unsettled handle param → s.lds.device_of handle ≠ none
  devices : ∀ handle device, s.lds.device_of handle = some device →
    ∃ waiting, s.Progress handle device waiting

theorem Progressing.sampled {s : Session F} (h : s.Progressing) : s.SampledOnceSettled := by
  intro handle hreported device hdevice hsettled
  obtain ⟨waiting, hprogress⟩ := h.devices handle device hdevice
  apply (hprogress.reported hreported).resolve_right
  rintro ⟨⟨param, hparam⟩, hunsettled⟩
  exact hsettled param (hunsettled param hparam)

/-- The device of another lidar, when the step leaves it alone. -/
theorem Progress.frame {s t : Session F} {handle : UInt32} {device : LidarDevice F}
    {waiting : Finset ConfigParam} (h : s.Progress handle device waiting)
    (hreported : handle ∈ t.reported ↔ handle ∈ s.reported)
    (hunsettled : ∀ param ∈ waiting, s.Unsettled handle param → t.Unsettled handle param) :
    t.Progress handle device waiting where
  waits := h.waits
  unreported := fun hnot => h.unreported (mt hreported.mpr hnot)
  reported := fun hmem => (h.reported (hreported.mp hmem)).imp_right fun hwaiting =>
    ⟨hwaiting.1, fun param hparam => hunsettled param hparam (hwaiting.2 param hparam)⟩

theorem unsettled_start_iff {s : Session F} {handle other : UInt32} {lds : LdsLidar F}
    {param : ConfigParam} :
    (s.issue handle lds (start_commands handle)).Unsettled other param ↔ s.Unsettled other param := by
  rw [unsettled_issue_iff, or_iff_left]
  rintro ⟨command, hmem, _, hparam⟩
  simp [param_of_start_commands hmem] at hparam

/-- A configuration unsettles the parameters that it sets. -/
theorem unsettled_config_iff {s : Session F} {handle other : UInt32} {lds : LdsLidar F}
    {device : LidarDevice F} {param : ConfigParam} :
    (s.issue handle lds
        (config_commands handle device.livox_config (send_config device).2)).Unsettled other param ↔
      s.Unsettled other param ∨ handle = other ∧ param ∈ device.livox_config.params := by
  rw [unsettled_issue_iff, send_config_calls]
  refine or_congr_right ⟨?_, ?_⟩
  · rintro ⟨command, hmem, rfl, hparam⟩
    obtain ⟨hset, rfl⟩ := (mem_config_commands_param hparam).mp hmem
    exact ⟨rfl, hset⟩
  · rintro ⟨rfl, hset⟩
    have hparam := param_of_api_call device.livox_config param
    exact ⟨_, (mem_config_commands_param hparam).mpr ⟨hset, rfl⟩, rfl, hparam⟩

/-- A report of a lidar sends and marks every parameter that is set. -/
theorem Progress.report {s : Session F} {handle : UInt32} {device : LidarDevice F}
    {waiting : Finset ConfigParam} (h : s.Progress handle device waiting) (t : LdsLidar F) :
    ((s.report handle).issue handle t
        (config_commands handle device.livox_config (send_config device).2)).Progress handle
      (send_config device).1 (device.livox_config.params ∪ waiting) := by
  obtain ⟨hwaits, hempty, hnonempty⟩ := send_config_spec h.waits
  refine ⟨hwaits, fun hnot => absurd (List.mem_append_right _ (List.mem_singleton_self handle)) hnot,
    fun _ => ?_⟩
  by_cases hnothing : device.livox_config.params ∪ waiting = ∅
  · exact Or.inl (hempty hnothing)
  · rw [hnonempty hnothing]
    by_cases hsampling : device.connect_state = .kConnectStateSampling
    · exact Or.inl hsampling
    · refine Or.inr ⟨Finset.nonempty_iff_ne_empty.mpr hnothing, fun param hparam => ?_⟩
      rw [unsettled_config_iff]
      rcases Finset.mem_union.mp hparam with hset | hwaiting
      · exact Or.inr ⟨rfl, hset⟩
      · have hreported : handle ∈ s.reported := by
          by_contra hnot
          simp [h.unreported hnot] at hwaiting
        exact Or.inl (((h.reported hreported).resolve_left hsampling).2 param hwaiting)

/-- A success takes its parameter out, and the last one starts the sampling. -/
theorem Progress.clear {s : Session F} {position : Nat} {answer : Answer F} {param : ConfigParam}
    {device : LidarDevice F} {waiting : Finset ConfigParam}
    (h : s.Progress answer.command.handle device waiting)
    (hposition : s.outstanding[position]? = some answer.command)
    (hparam : param_of answer.command.call = some param) (t : LdsLidar F) :
    ((s.answer position answer).issue answer.command.handle t []).Progress answer.command.handle
      (device.set_bits_clear param.code_bit).check_sampling (waiting.erase param) := by
  obtain ⟨hwaits, hempty, hnonempty⟩ := clear_param_spec h.waits param
  refine ⟨hwaits, fun hnot => by rw [h.unreported hnot, Finset.erase_empty], fun hreported => ?_⟩
  by_cases hnothing : waiting.erase param = ∅
  · exact Or.inl (hempty hnothing)
  · rw [hnonempty hnothing]
    refine (h.reported hreported).imp_right fun ⟨_, hunsettled⟩ => ?_
    refine ⟨Finset.nonempty_iff_ne_empty.mpr hnothing, fun other hother => ?_⟩
    obtain ⟨hne, hmem⟩ := Finset.mem_erase.mp hother
    rw [unsettled_issue_iff]
    refine Or.inl (((hunsettled other hmem).answer hposition).resolve_right ?_)
    rintro ⟨_, hsame⟩
    exact hne (Option.some.inj (hsame.symm.trans hparam))

/-- The guard: no report admits a lidar to the table, as happens to one without
a configuration while there is a free slot. -/
def AdmitsNone [Zero F] (s : Session F) : SessionEvent → Prop
  | .info_change handle =>
    s.lds.device_of handle ≠ none ∨ s.lds.cache_index.free_slot = none
  | .response _ _ _ => True

theorem start_progressing [Zero F] {user_configs : List (UserLivoxLidarConfig F)} {lds : LdsLidar F}
    (h : lds.Filled user_configs) (hbits : ∀ config ∈ user_configs, config.set_bits = 0) :
    (start lds).Progressing where
  registered := by
    rintro handle param (⟨command, hmem, _⟩ | ⟨answer, hmem, _⟩)
    · cases hmem
    · cases hmem
  devices := by
    intro handle device hdevice
    obtain ⟨config, hconfig, rfl⟩ := h.device handle device hdevice
    refine ⟨∅, ?_, fun _ => rfl, fun hmem => by cases hmem⟩
    rw [LidarDevice.WaitsFor, (code_bits_eq_zero_iff ∅).mpr rfl]
    exact hbits config (LdsLidar.last_config_mem hconfig).1

section Answered

variable {s : Session F} {position : Nat} {reply : Answer F}
  (hposition : s.outstanding[position]? = some reply.command)
include hposition

/-- An answer that leaves the table alone, with what its callback has issued. -/
theorem Progressing.answer (h : s.Progressing) {commands : List (ApiCommand F)}
    (hcommands : ∀ command ∈ commands, (param_of command.call).isSome = true →
      command.handle = reply.command.handle ∧ (param_of reply.command.call).isSome = true)
    (hunsettled : ∀ param, param_of reply.command.call = some param →
      s.lds.device_of reply.command.handle ≠ none →
        ((s.answer position reply).issue reply.command.handle s.lds commands).Unsettled
          reply.command.handle param) :
    ((s.answer position reply).issue reply.command.handle s.lds commands).Progressing where
  registered := by
    intro handle param hafter
    rw [unsettled_issue_iff] at hafter
    rcases hafter with hold | ⟨command, hmem, rfl, hparam⟩
    · obtain ⟨earlier, hearlier⟩ := unsettled_of_answer hposition hold
      exact h.registered handle earlier hearlier
    · obtain ⟨hsame, hanswered⟩ := hcommands command hmem (by simp [hparam])
      obtain ⟨earlier, hearlier⟩ := Option.isSome_iff_exists.mp hanswered
      rw [hsame]
      exact h.registered _ earlier (Or.inl ⟨_, List.mem_of_getElem? hposition, rfl, hearlier⟩)
  devices := by
    intro handle device hdevice
    obtain ⟨waiting, hprogress⟩ := h.devices handle device hdevice
    refine ⟨waiting, hprogress.frame Iff.rfl fun param _ hbefore => ?_⟩
    rcases hbefore.answer hposition with hkept | ⟨rfl, hparam⟩
    · exact unsettled_issue_iff.mpr (Or.inl hkept)
    · exact hunsettled param hparam (fun hnone => absurd (hdevice.symm.trans hnone) (by simp))

/-- A success clears the bit of its parameter in its own lidar's device. -/
theorem Progressing.clear [Zero F] (h : s.Progressing) {param : ConfigParam}
    (hparam : param_of reply.command.call = some param) {device : LidarDevice F} {t : LdsLidar F}
    (hdevice : s.lds.device_of reply.command.handle = some device)
    (hstored : s.lds.Stored reply.command.handle
      (device.set_bits_clear param.code_bit).check_sampling t) :
    ((s.answer position reply).issue reply.command.handle t []).Progressing where
  registered := by
    intro handle other hafter
    rw [unsettled_issue_iff] at hafter
    rcases hafter with hold | ⟨command, hmem, _⟩
    · obtain ⟨earlier, hearlier⟩ := unsettled_of_answer hposition hold
      have hbefore := h.registered handle earlier hearlier
      simp only [Session.issue, hstored.device_of]
      split
      · simp
      · exact hbefore
    · cases hmem
  devices := by
    intro handle found hfound
    simp only [Session.issue, hstored.device_of] at hfound
    split at hfound
    · rename_i heq
      subst heq
      obtain rfl := Option.some.inj hfound
      obtain ⟨waiting, hprogress⟩ := h.devices _ device hdevice
      exact ⟨waiting.erase param, hprogress.clear hposition hparam t⟩
    · rename_i hne
      obtain ⟨waiting, hprogress⟩ := h.devices handle found hfound
      refine ⟨waiting, hprogress.frame Iff.rfl fun other _ hbefore => ?_⟩
      refine unsettled_issue_iff.mpr (Or.inl ((hbefore.answer hposition).resolve_right ?_))
      exact fun hanswered => hne hanswered.1.symm

end Answered

/-- A report of a lidar in the table. -/
theorem Progressing.report [Zero F] {s : Session F} (h : s.Progressing) {handle : UInt32}
    {device : LidarDevice F} {t : LdsLidar F} (hdevice : s.lds.device_of handle = some device)
    (hstored : s.lds.Stored handle (send_config device).1 t) :
    ((s.report handle).issue handle t
      (config_commands handle device.livox_config (send_config device).2)).Progressing where
  registered := by
    intro other param hafter
    rw [unsettled_config_iff] at hafter
    simp only [Session.issue, hstored.device_of]
    split
    · simp
    · rename_i hne
      exact h.registered other param (hafter.resolve_right fun hnew => hne hnew.1.symm)
  devices := by
    intro other found hfound
    simp only [Session.issue, hstored.device_of] at hfound
    split at hfound
    · rename_i heq
      subst heq
      obtain rfl := Option.some.inj hfound
      obtain ⟨waiting, hprogress⟩ := h.devices _ device hdevice
      exact ⟨_, hprogress.report t⟩
    · rename_i hne
      obtain ⟨waiting, hprogress⟩ := h.devices other found hfound
      refine ⟨waiting, hprogress.frame ?_ fun param _ hbefore => ?_⟩
      · simp [Session.issue, Session.report, hne]
      · exact unsettled_config_iff.mpr (Or.inl hbefore)

theorem Progressing.refuse {s : Session F} (h : s.Progressing) {handle : UInt32}
    (hnew : s.lds.device_of handle = none) :
    ((s.report handle).issue handle s.lds []).Progressing where
  registered := by
    intro other param hafter
    rw [unsettled_issue_iff] at hafter
    rcases hafter with hbefore | ⟨command, hmem, _⟩
    · exact h.registered other param hbefore
    · cases hmem
  devices := by
    intro other device hdevice
    have hne : other ≠ handle := by
      rintro rfl
      exact absurd (hnew.symm.trans hdevice) (by simp)
    obtain ⟨waiting, hprogress⟩ := h.devices other device hdevice
    refine ⟨waiting, hprogress.frame ?_ fun param _ hbefore => unsettled_issue_iff.mpr (Or.inl hbefore)⟩
    simp [Session.issue, Session.report, hne]

variable [Zero F]

theorem Effect.progressing {s t : Session F} {event : SessionEvent} (h : s.Progressing)
    (hguard : AdmitsNone s event) (heffect : Effect s event t) : t.Progressing := by
  cases heffect with
  | configured hdevice hstored => exact h.report hdevice hstored
  | admitted hnew hroom hstored => exact absurd hguard (not_or.mpr ⟨not_not.mpr hnew, hroom⟩)
  | refused hnew hfull => exact h.refuse hnew
  | absent hposition => exact h
  | unrouted hposition hparam hnone =>
    exact h.answer hposition (by simp) fun _ _ hdevice => absurd hnone hdevice
  | cleared hposition hparam hdevice hstatus hstored => exact h.clear hposition hparam hdevice hstored
  | @retried position reply param device hposition hparam hdevice hstatus =>
    apply h.answer hposition (by simp [hparam])
    intro other hother _
    obtain rfl := Option.some.inj (hparam.symm.trans hother)
    exact unsettled_issue_iff.mpr (Or.inr ⟨_, List.mem_singleton_self _, rfl, param_of_api_call _ _⟩)
  | @failed position reply param hposition hparam hsuccess htimeout =>
    apply h.answer hposition (by simp)
    intro other _ _
    have hfailed : (s.answer position reply).ParamFailed reply.command.handle :=
      ⟨reply, List.mem_append_right _ (List.mem_singleton_self _), rfl, by simp [hparam], hsuccess,
        htimeout⟩
    exact unsettled_issue_iff.mpr (Or.inl (Or.inr hfailed))
  | other hposition hparam hcommands =>
    refine h.answer hposition (fun command hmem hsome => ?_) fun param hsome _ => ?_
    · simp [(hcommands command hmem).1] at hsome
    · simp [hparam] at hsome

/-- A lidar that is admitted is neither sampling nor waits for anything. -/
theorem admission_not_sampled {s : Session F} (hregistry : s.lds.Registry) (h : s.Progressing)
    {event : SessionEvent} (hguard : ¬ AdmitsNone s event) :
    ∃ t, s.step event = .ok t ∧ ¬ t.SampledOnceSettled := by
  cases event with
  | response position status response => exact absurd trivial hguard
  | info_change handle =>
    obtain ⟨hnew, hroom⟩ := not_or.mp hguard
    rw [not_not] at hnew
    obtain ⟨lds, hcallback, hstored⟩ := info_change_of_new hregistry hnew hroom
    refine ⟨(s.report handle).issue handle lds (start_commands handle),
      by simp only [step, hcallback, ok_bind], fun hsampled => ?_⟩
    have hdevice : lds.device_of handle = some (admitted_device F) := by
      rw [hstored.device_of, if_pos rfl]
    have hreported : handle ∈ ((s.report handle).issue handle lds (start_commands handle)).reported :=
      List.mem_append_right _ (List.mem_singleton_self _)
    have hsettled : ∀ param,
        ¬ ((s.report handle).issue handle lds (start_commands handle)).Unsettled handle param := by
      intro param hafter
      have hbefore : (s.report handle).Unsettled handle param := unsettled_start_iff.mp hafter
      exact h.registered handle param hbefore hnew
    cases hsampled handle hreported (admitted_device F) hdevice hsettled

end Session

/-- After the registration of configurations that wait for nothing, every lidar
samples once its commands are settled in exactly the runs in which no report
admits a lidar that the user has not configured. -/
theorem settled_lidars_sample_iff {F : Type} [Zero F] (user_configs : List (UserLivoxLidarConfig F))
    (hbits : ∀ config ∈ user_configs, config.set_bits = 0) :
    ∃ lds lidar_params, LdsLidar.new.init_livox_lidar user_configs = .ok (lds, lidar_params) ∧
      ∀ events : List SessionEvent,
        StatesSatisfy Session.step Session.SampledOnceSettled (.start lds) events ↔
          StepsSatisfy Session.step Session.AdmitsNone (.start lds) events := by
  obtain ⟨lds, lidar_params, hinit, hfilled⟩ := LdsLidar.init_livox_lidar_filled user_configs
  refine ⟨lds, lidar_params, hinit, ?_⟩
  have hstep := Session.Served.step fun (s : Session F) event t
    (_ : s.Served user_configs) (h : s.Progressing) (hguard : s.AdmitsNone event)
    (heffect : s.Effect event t) => heffect.progressing h hguard
  exact statesSatisfy_iff_stepsSatisfy (fun s h => h.2.sampled) hstep
    (fun s event h hguard => Session.admission_not_sampled h.1.registry h.2 hguard)
    ⟨Session.start_served hfilled, Session.start_progressing hfilled hbits⟩

theorem settled_lidars_sample_iff_one_lidar :
    ∃ lds lidar_params,
      LdsLidar.new.init_livox_lidar
          [{ (LidarDevice.zero ℝ).livox_config with handle := 0x6401A8C0 }] =
        .ok (lds, lidar_params) ∧
      ∀ events : List SessionEvent,
        StatesSatisfy Session.step Session.SampledOnceSettled (.start lds) events ↔
          StepsSatisfy Session.step Session.AdmitsNone (.start lds) events :=
  settled_lidars_sample_iff _ (by simp [LidarDevice.zero])

/-- Without any configuration, the first report of the lidar 192.168.1.100
issues no parameter command and leaves the lidar switched off. -/
theorem first_report_leaves_lidar_off :
    ∃ lds, LdsLidar.new.init_livox_lidar ([] : List (UserLivoxLidarConfig ℝ)) = .ok (lds, []) ∧
      ¬ StatesSatisfy Session.step Session.SampledOnceSettled (.start lds)
        [.info_change 0x6401A8C0] :=
  ⟨_, rfl, by decide +kernel⟩

end livox_ros
