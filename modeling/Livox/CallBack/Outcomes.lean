import Livox.CallBack.Acceptance
import Livox.Sdk.GeneralCommandHandler.Commands

open checked execution livox_lidar

namespace livox_lidar.general_command_handler

/-- What the library passes to a callback: a success comes with a response, a timeout and a failure
to send come with none. -/
def Callback.Outcome (call : Callback) : Prop :=
  call.status = .kLivoxLidarStatusSuccess ∧ call.answer.isSome = true ∨
    (call.status = .kLivoxLidarStatusTimeout ∨ call.status = .kLivoxLidarStatusSendFailed) ∧
      call.answer = none

/-- The response points into the packet of the answer, whatever bytes it has, and is null without
an answer. -/
def Callback.Passes (call : Callback) (response : Option LivoxLidarAsyncControlResponse) : Prop :=
  response.isSome = call.answer.isSome

/-- Every callback that a step calls has one of the outcomes. -/
theorem step_outcomes {s t : State} {e : Event} (h : ∀ call ∈ s.calls, call.Outcome)
    (hstep : s.step e = .ok t) : ∀ call ∈ t.calls, call.Outcome := by
  intro call hcall
  cases State.stepped_of_step hstep with
  | failed =>
    rcases List.mem_cons.mp hcall with rfl | hold
    · exact .inr ⟨.inr rfl, rfl⟩
    · exact h call hold
  | acknowledged =>
    rcases List.mem_cons.mp hcall with rfl | hold
    · exact .inl ⟨rfl, rfl⟩
    · exact h call hold
  | timed_out now =>
    rw [State.commands_handle, State.foldl_call] at hcall
    rcases List.mem_append.mp hcall with hnew | hold
    · obtain ⟨command, -, rfl⟩ := List.mem_map.mp (List.mem_reverse.mp hnew)
      exact .inr ⟨.inl rfl, rfl⟩
    · exact h call hold
  | _ => exact h call hcall

theorem run_outcomes {handlers : List UInt8} {events : List Event} {s : State}
    (hrun : exec State.step (.start handlers) events = .ok s) : ∀ call ∈ s.calls, call.Outcome :=
  exec_invariant (fun _ _ _ h hstep => step_outcomes h hstep) (by simp [State.start]) hrun

end livox_lidar.general_command_handler

open livox_lidar.general_command_handler

namespace livox_ros

/-- The waited-for parameters and the connection of the devices are the same in both tables. -/
def LdsLidar.SameProgress {F : Type} [Zero F] (lds t : LdsLidar F) : Prop :=
  ∀ handle, (t.device_of handle).map (fun device =>
      (device.livox_config.set_bits, device.connect_state)) =
    (lds.device_of handle).map fun device => (device.livox_config.set_bits, device.connect_state)

/-- The callback of a call returns, and a failure leaves the progress of every lidar as it is. -/
def Survives {F : Type} [Zero F] (lds : LdsLidar F) (api_call : ApiCall F)
    (status : LivoxLidarStatus) (handle : UInt32)
    (response : Option LivoxLidarAsyncControlResponse) : Prop :=
  ∃ t commands, callback_of api_call lds status handle response = .ok (t, commands) ∧
    (status ≠ .kLivoxLidarStatusSuccess → lds.SameProgress t)

section Survives

variable {F : Type} [Zero F] {lds : LdsLidar F} {api_call : ApiCall F} {param : ConfigParam}
  {handle : UInt32} {response : Option LivoxLidarAsyncControlResponse}

theorem survives_success (h : lds.Registry) (hparam : param_of api_call = some param) :
    Survives lds api_call .kLivoxLidarStatusSuccess handle response := by
  unfold Survives
  rw [callback_of_param hparam]
  cases hdevice : lds.device_of handle with
  | none => exact ⟨lds, [], param_callback_without_device h hdevice _, by simp⟩
  | some device =>
    obtain ⟨t, hcallback, -⟩ := param_callback_success h param
      (fun config => config.api_call param) response hdevice
    exact ⟨t, [], hcallback, by simp⟩

theorem survives_timeout (h : lds.Registry) (hparam : param_of api_call = some param) :
    Survives lds api_call .kLivoxLidarStatusTimeout handle response := by
  unfold Survives
  rw [callback_of_param hparam]
  cases hdevice : lds.device_of handle with
  | none => exact ⟨lds, [], param_callback_without_device h hdevice _, fun _ _ => rfl⟩
  | some device => exact ⟨lds, _, param_callback_timeout h hdevice, fun _ _ => rfl⟩

/-- The callback prints the response of a failed sending, which is null. -/
theorem survives_send_failed_iff (h : lds.Registry) (hparam : param_of api_call = some param) :
    Survives lds api_call .kLivoxLidarStatusSendFailed handle none ↔ lds.device_of handle = none := by
  unfold Survives
  rw [callback_of_param hparam]
  cases hdevice : lds.device_of handle with
  | none => exact iff_of_true ⟨lds, [], param_callback_without_device h hdevice _, fun _ _ => rfl⟩ rfl
  | some device =>
    obtain ⟨index, hindex⟩ := h.index_of_device hdevice
    simp [set_param_callback, hindex]

end Survives

/-- In every state that the driver reaches, for every callback that the library calls in any run of
its own and every lidar: a parameter callback survives exactly when it is not told that its command
could not be sent, or the table has no device of the lidar. -/
theorem param_callbacks_survive_iff {F : Type} [Zero F]
    {user_configs : List (UserLivoxLidarConfig F)} {lds : LdsLidar F}
    {lidar_params : List (LidarExtParameter F)} {events : List SessionEvent} {session : Session F}
    (hinit : LdsLidar.new.init_livox_lidar user_configs = .ok (lds, lidar_params))
    (hsession : exec Session.step (.start lds) events = .ok session)
    {handlers : List UInt8} {sdk_events : List Event} {sdk : State}
    (hsdk : exec State.step (.start handlers) sdk_events = .ok sdk) {call : Callback}
    (hcall : call ∈ sdk.calls) {response : Option LivoxLidarAsyncControlResponse}
    (hresponse : call.Passes response) {api_call : ApiCall F} {param : ConfigParam}
    (hparam : param_of api_call = some param) (handle : UInt32) :
    Survives session.lds api_call call.status handle response ↔
      call.status ≠ .kLivoxLidarStatusSendFailed ∨ session.lds.device_of handle = none := by
  have hregistry : session.lds.Registry := by
    obtain ⟨filled, params, hfill, hfilled⟩ := LdsLidar.init_livox_lidar_filled user_configs
    obtain ⟨rfl, rfl⟩ : filled = lds ∧ params = lidar_params := by
      simpa [hfill] using hinit
    exact (exec_invariant (fun s event t (h : s.Served user_configs) hstep =>
      (Session.effect_of_step h.registry hstep).served h) (Session.start_served hfilled)
      hsession).registry
  rcases run_outcomes hsdk call hcall with ⟨hstatus, -⟩ | ⟨htimeout | hfailed, hanswer⟩
  · rw [hstatus]
    exact iff_of_true (survives_success hregistry hparam) (.inl (by simp))
  · rw [htimeout]
    exact iff_of_true (survives_timeout hregistry hparam) (.inl (by simp))
  · obtain rfl : response = none := by simpa [Callback.Passes, hanswer] using hresponse
    rw [hfailed]
    simpa using survives_send_failed_iff hregistry hparam

/-- A command to the Mid360 192.168.1.100 that is not answered. -/
def unanswered_run : List Event :=
  [.detected 0x6401A8C0 9, .send_command 0x6401A8C0 0x0100, .proceed 0 true 0, .proceed 0 true 0,
    .commands_handle 2000]

theorem param_callbacks_survive_iff_timeout :
    ∃ lds lidar_params session sdk,
      LdsLidar.new.init_livox_lidar [pcl_data_type_config] = .ok (lds, lidar_params) ∧
      exec Session.step (.start lds) [.info_change 0x6401A8C0] = .ok session ∧
      exec State.step (.start [9]) unanswered_run = .ok sdk ∧
      ∃ call ∈ sdk.calls, call.status = .kLivoxLidarStatusTimeout ∧
        Survives session.lds (.set_livox_lidar_pcl_data_type 1) call.status 0x6401A8C0 none := by
  obtain ⟨lds, lidar_params, hinit⟩ : ∃ lds lidar_params,
      LdsLidar.new.init_livox_lidar [pcl_data_type_config] = .ok (lds, lidar_params) := ⟨_, _, rfl⟩
  obtain ⟨session, hsession⟩ : ∃ session : Session ℝ,
      exec Session.step (.start lds) [.info_change 0x6401A8C0] = .ok session := by
    cases hinit
    exact ⟨_, rfl⟩
  obtain ⟨sdk, hsdk, call, hcall, hstatus, hanswer⟩ : ∃ sdk,
      exec State.step (.start [9]) unanswered_run = .ok sdk ∧
      ∃ call ∈ sdk.calls, call.status = .kLivoxLidarStatusTimeout ∧ call.answer = none :=
    ⟨_, rfl, _, List.mem_cons_self, rfl, rfl⟩
  have hpasses : call.Passes none := by simp [Callback.Passes, hanswer]
  refine ⟨lds, lidar_params, session, sdk, hinit, hsession, hsdk, call, hcall, hstatus, ?_⟩
  exact (param_callbacks_survive_iff hinit hsession hsdk hcall hpasses rfl 0x6401A8C0).mpr
    (.inl (by simp [hstatus]))

/-- A command to it whose datagram could not be sent. -/
def unsent_run : List Event :=
  [.detected 0x6401A8C0 9, .send_command 0x6401A8C0 0x0100, .proceed 0 false 0]

theorem unsent_command_dereferences_null :
    ∃ lds lidar_params session sdk,
      LdsLidar.new.init_livox_lidar [pcl_data_type_config] = .ok (lds, lidar_params) ∧
      exec Session.step (.start lds) [.info_change 0x6401A8C0] = .ok session ∧
      exec State.step (.start [9]) unsent_run = .ok sdk ∧
      ∃ call ∈ sdk.calls, call.Passes none ∧
        set_data_type_callback session.lds call.status 0x6401A8C0 none = .error .nullDereference :=
  ⟨_, _, _, _, rfl, rfl, rfl, _, List.mem_cons_self, rfl, rfl⟩

end livox_ros
