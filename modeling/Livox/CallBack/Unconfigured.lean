import Livox.CallBack.Session

open checked execution livox_lidar

namespace livox_ros

namespace Session

variable {F : Type}

/-- Every command so far that configures a lidar was issued by a callback for a
lidar of the user's, and to that lidar. -/
def OnlyUserLidars (user_configs : List (UserLivoxLidarConfig F)) (s : Session F) : Prop :=
  ∀ entry ∈ s.issued, configures entry.2.call = true →
    entry.1 ∈ user_handles user_configs ∧ entry.2.handle = entry.1

/-- The commands that may still be retried are confined to the user's lidars as
well. -/
structure Confined (user_configs : List (UserLivoxLidarConfig F)) (s : Session F) : Prop where
  issued : s.OnlyUserLidars user_configs
  outstanding : ∀ command ∈ s.outstanding, configures command.call = true →
    command.handle ∈ user_handles user_configs

instance (user_configs : List (UserLivoxLidarConfig F)) (s : Session F) :
    Decidable (s.OnlyUserLidars user_configs) :=
  inferInstanceAs (Decidable (∀ entry ∈ s.issued, _))

theorem start_confined (user_configs : List (UserLivoxLidarConfig F)) (lds : LdsLidar F) :
    (start lds).Confined user_configs where
  issued := by simp [OnlyUserLidars, start]
  outstanding := by simp [start]

theorem Confined.report {user_configs : List (UserLivoxLidarConfig F)} {s : Session F}
    (h : s.Confined user_configs) (handle : UInt32) : (s.report handle).Confined user_configs :=
  ⟨h.issued, h.outstanding⟩

theorem Confined.answer {user_configs : List (UserLivoxLidarConfig F)} {s : Session F}
    (h : s.Confined user_configs) (position : Nat) (answer : Answer F) :
    (s.answer position answer).Confined user_configs where
  issued := h.issued
  outstanding := fun command hmem => h.outstanding command (List.mem_of_mem_eraseIdx hmem)

theorem Confined.issue {user_configs : List (UserLivoxLidarConfig F)} {s : Session F}
    (h : s.Confined user_configs) {handle : UInt32} {lds : LdsLidar F}
    {commands : List (ApiCommand F)}
    (hcommands : ∀ command ∈ commands, configures command.call = true →
      handle ∈ user_handles user_configs ∧ command.handle = handle) :
    (s.issue handle lds commands).Confined user_configs where
  issued := by
    intro entry hmem hconfigures
    rcases List.mem_append.mp hmem with hold | hnew
    · exact h.issued entry hold hconfigures
    · obtain ⟨command, hcommand, rfl⟩ := List.mem_map.mp hnew
      exact hcommands command hcommand hconfigures
  outstanding := by
    intro command hmem hconfigures
    rcases List.mem_append.mp hmem with hold | hnew
    · exact h.outstanding command hold hconfigures
    · obtain ⟨huser, heq⟩ := hcommands command hnew hconfigures
      rwa [heq]

/-- The start of a lidar does not configure it. -/
theorem start_commands_configure_nothing {handle : UInt32} {command : ApiCommand F}
    (hmem : command ∈ start_commands handle) : configures command.call = false := by
  simp only [start_commands, List.mem_cons, List.not_mem_nil, or_false] at hmem
  rcases hmem with rfl | rfl <;> rfl

theorem config_commands_handle {handle : UInt32} {config : UserLivoxLidarConfig F}
    {calls : List (ApiCall F)} (hhandle : config.handle = handle) {command : ApiCommand F}
    (hmem : command ∈ config_commands handle config calls) : command.handle = handle := by
  simp only [config_commands, start_commands, List.mem_append, List.mem_map, List.mem_cons,
    List.not_mem_nil, or_false] at hmem
  rcases hmem with (⟨call, _, rfl⟩ | rfl) | rfl | rfl
  · rfl
  · exact hhandle
  · rfl
  · rfl

variable [Zero F]

/-- The reports that keep configuration to the user's lidars: those of a lidar
of the user's, and the first one of any other. -/
def KnownOrNew (user_configs : List (UserLivoxLidarConfig F)) (s : Session F) :
    SessionEvent → Prop
  | .info_change handle => handle ∈ user_handles user_configs ∨ s.lds.device_of handle = none
  | .response _ _ _ => True

theorem Effect.confined {user_configs : List (UserLivoxLidarConfig F)} {s t : Session F}
    {event : SessionEvent} (hserved : s.Served user_configs) (h : s.Confined user_configs)
    (hguard : KnownOrNew user_configs s event) (heffect : Effect s event t) :
    t.Confined user_configs := by
  cases heffect with
  | @configured handle device t hdevice hstored =>
    have huser : handle ∈ user_handles user_configs :=
      hguard.elim id fun hnone => absurd (hnone.symm.trans hdevice) (by simp)
    refine (h.report handle).issue fun command hmem _ => ⟨huser, ?_⟩
    exact config_commands_handle (hserved.handle huser hdevice) hmem
  | @admitted handle t hnew hroom hstored =>
    apply (h.report handle).issue
    intro command hmem hconfigures
    rw [start_commands_configure_nothing hmem] at hconfigures
    cases hconfigures
  | refused hnew hfull => exact (h.report _).issue (by simp)
  | absent hposition => exact h
  | unrouted hposition hparam hnone => exact (h.answer _ _).issue (by simp)
  | cleared hposition hparam hdevice hstatus hstored => exact (h.answer _ _).issue (by simp)
  | @retried position answer param device hposition hparam hdevice hstatus =>
    apply (h.answer _ _).issue
    intro command hmem _
    obtain rfl := List.mem_singleton.mp hmem
    exact ⟨h.outstanding _ (List.mem_of_getElem? hposition) (configures_of_param hparam), rfl⟩
  | failed hposition hparam hsuccess htimeout => exact (h.answer _ _).issue (by simp)
  | @other position answer commands hposition hparam hcommands =>
    apply (h.answer _ _).issue
    intro command hmem hconfigures
    obtain ⟨_, hfrom⟩ := hcommands command hmem
    obtain ⟨hretry, device, hdevice, hhandle⟩ := hfrom hconfigures
    have huser := h.outstanding _ (List.mem_of_getElem? hposition) hretry
    exact ⟨huser, hhandle.trans (hserved.handle huser hdevice)⟩

/-- The second report of a lidar that the user does not configure sends it an
attitude. -/
theorem known_report_configures {user_configs : List (UserLivoxLidarConfig F)} {s : Session F}
    (hserved : s.Served user_configs) {event : SessionEvent}
    (hguard : ¬ KnownOrNew user_configs s event) :
    ∃ t, s.step event = .ok t ∧ ¬ t.OnlyUserLidars user_configs := by
  cases event with
  | response position status response => exact absurd trivial hguard
  | info_change handle =>
    obtain ⟨hunconfigured, hknown⟩ := not_or.mp hguard
    obtain ⟨device, hdevice⟩ := Option.ne_none_iff_exists'.mp hknown
    obtain ⟨lds, hcallback, _⟩ := info_change_of_device hserved.registry hdevice
    refine ⟨_, by simp only [step, hcallback, ok_bind]; rfl, fun honly => hunconfigured ?_⟩
    have hmem : (handle, ApiCommand.mk device.livox_config.handle
          (.set_livox_lidar_install_attitude device.livox_config.attitude)) ∈
        ((s.report handle).issue handle lds
          (config_commands handle device.livox_config (send_config device).2)).issued := by
      simp [Session.issue, config_commands]
    exact (honly _ hmem rfl).1

end Session

/-- After any registration, the callbacks configure nothing but the user's
lidars in exactly the runs in which no other lidar is reported again once it
has been admitted. -/
theorem only_user_lidars_configured_iff {F : Type} [Zero F]
    (user_configs : List (UserLivoxLidarConfig F)) :
    ∃ lds lidar_params, LdsLidar.new.init_livox_lidar user_configs = .ok (lds, lidar_params) ∧
      ∀ events : List SessionEvent,
        StatesSatisfy Session.step (Session.OnlyUserLidars user_configs) (.start lds) events ↔
          StepsSatisfy Session.step (Session.KnownOrNew user_configs) (.start lds) events := by
  obtain ⟨lds, lidar_params, hinit, hfilled⟩ := LdsLidar.init_livox_lidar_filled user_configs
  refine ⟨lds, lidar_params, hinit, ?_⟩
  have hstep := Session.Served.step fun (s : Session F) event t (hserved : s.Served user_configs)
    (h : s.Confined user_configs) (hguard : s.KnownOrNew user_configs event)
    (heffect : s.Effect event t) => heffect.confined hserved h hguard
  exact statesSatisfy_iff_stepsSatisfy (fun s h => h.2.issued) hstep
    (fun s event h hguard => Session.known_report_configures h.1 hguard)
    ⟨Session.start_served hfilled, Session.start_confined user_configs lds⟩

/-- Without any configuration, the second report of the lidar 192.168.1.100
sends an attitude, to the address 0.0.0.0. -/
theorem second_report_sends_attitude :
    ∃ lds, LdsLidar.new.init_livox_lidar ([] : List (UserLivoxLidarConfig ℝ)) = .ok (lds, []) ∧
      ¬ StatesSatisfy Session.step (Session.OnlyUserLidars []) (.start lds)
        [.info_change 0x6401A8C0, .info_change 0x6401A8C0] :=
  ⟨_, rfl, by decide +kernel⟩

end livox_ros
