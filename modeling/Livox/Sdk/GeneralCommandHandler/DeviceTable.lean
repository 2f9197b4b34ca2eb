import Livox.Sdk.GeneralCommandHandler.Detection

open checked execution ordered_map

namespace livox_lidar

namespace general_command_handler

namespace State

variable {s t : State} {command : Command} {e : Event}

/-- The step takes the command out without the callback that it was made for: another command is
registered with its number, or another device's ACK completes it. A call that is still running
registers it again. -/
def Loses (s : State) (e : Event) (command : Command) : Prop :=
  match e with
  | .proceed id _ _ =>
    match s.sending[id]? with
    | some (running, .add_command :: _) =>
      s.Registered command ∧ running.seq_num = command.seq_num ∧ running ≠ command ∧
        ¬ s.BeingSent command
    | _ => False
  | e =>
    match s.looked_up e with
    | some (seq, handle, _) =>
      s.Registered command ∧ seq = command.seq_num ∧ handle ≠ command.handle ∧
        ¬ s.BeingSent command
    | none => False

theorem loses_proceed_iff {id : Nat} {sent : Bool} {now : Nat} :
    s.Loses (.proceed id sent now) command ↔
      ∃ entry ∈ s.sending[id]?, entry.2.head? = some .add_command ∧ s.Registered command ∧
        entry.1.seq_num = command.seq_num ∧ entry.1 ≠ command ∧ ¬ s.BeingSent command := by
  simp only [Loses]
  rcases s.sending[id]? with _ | ⟨running, _ | ⟨op, rest⟩⟩
  · simp
  · simp
  · cases op <;> simp

theorem loses_looked_up_iff (hproceed : ∀ id sent now, e ≠ .proceed id sent now) :
    s.Loses e command ↔
      ∃ looked ∈ s.looked_up e, s.Registered command ∧ looked.1 = command.seq_num ∧
        looked.2.1 ≠ command.handle ∧ ¬ s.BeingSent command := by
  unfold Loses
  split
  · exact absurd rfl (hproceed _ _ _)
  · rcases s.looked_up e with _ | ⟨seq, handle, packet⟩ <;> simp

instance (s : State) (e : Event) (command : Command) : Decidable (s.Loses e command) :=
  match e with
  | .proceed _ _ _ => decidable_of_iff _ loses_proceed_iff.symm
  | .commands_handle _ | .detected _ _ | .send_command _ _ | .send_other_command _ _ _
  | .handler _ _ _ | .handler_of_type _ _ _ _ =>
    decidable_of_iff _ (loses_looked_up_iff (by simp)).symm

theorem new_calls_of_append (row : List Callback) (h : t.calls = row ++ s.calls) :
    s.new_calls t = row := by
  simp [new_calls, h]

theorem loses_acknowledged {seq handle : UInt32} {packet : Packet}
    (hlooked : s.looked_up e = some (seq, handle, packet)) :
    s.Loses e command ↔ s.Registered command ∧ seq = command.seq_num ∧ handle ≠ command.handle ∧
      ¬ s.BeingSent command := by
  cases e with
  | handler handle lidar_port packet | handler_of_type dev_type handle lidar_port packet =>
    simp only [Loses, hlooked]
  | _ => cases hlooked

/-- A command that a step does not lose stays, or its callback is called for its device. -/
theorem Tracked.live_or_called (h : s.Tracked) (hcommand : command ∈ s.submitted)
    (hgeneral : command.general = true) (hlive : s.Live command) (hnot : ¬ s.Loses e command)
    (hstep : s.step e = .ok t) :
    t.Live command ∨ ∃ call ∈ s.new_calls t, call.command = command ∧
      call.handle = command.handle := by
  cases stepped_of_step hstep with
  | detected | refused | unmatched => exact .inl hlive
  | submitted handle cmd_id type =>
    exact .inl ((submit_keeps h handle cmd_id true type.program hcommand).1.mpr hlive)
  | other_submitted handle cmd_id program =>
    exact .inl ((submit_keeps h handle cmd_id false program hcommand).1.mpr hlive)
  | registered id now sent running rest hentry =>
    obtain ⟨rfl, _⟩ := h.running _ _ _ hentry
    have halone : s.LeavesAlone command (.proceed running.id sent now) := by
      simp only [LeavesAlone, Loses, hentry] at hnot ⊢
      intro hreg hnum
      by_contra hneither
      push Not at hneither
      exact hnot ⟨hreg, hnum, hneither.1, hneither.2⟩
    exact .inl ((add_command_keeps h hentry halone hcommand).1.mpr hlive)
  | sent id now running rest hentry =>
    obtain ⟨rfl, _⟩ := h.running _ _ _ hentry
    exact .inl ((send_datagram_live h hentry hcommand hgeneral).mpr hlive)
  | failed id now running rest hentry =>
    obtain ⟨rfl, _⟩ := h.running _ _ _ hentry
    exact .inl ((send_datagram_live h hentry hcommand hgeneral).mpr hlive)
  | acknowledged _ seq handle packet found deadline hlooked hentry =>
    by_cases hsent : s.BeingSent command
    · exact .inl (.inr hsent)
    · by_cases hfound : found = command
      · subst hfound
        obtain ⟨rfl, _⟩ := h.keyed _ _ _ hentry
        right
        refine ⟨⟨found, .kLivoxLidarStatusSuccess, some (handle, packet)⟩, ?_, rfl, ?_⟩
        · rw [new_calls_of_append [_] rfl]
          exact List.mem_singleton.mpr rfl
        · by_contra hforeign
          exact hnot ((loses_acknowledged hlooked).mpr
            ⟨registered_iff.mpr ⟨deadline, hentry⟩, rfl, hforeign, hsent⟩)
      · obtain hkeeps | ⟨_, _, hcount⟩ := acknowledged_effect h hentry .kLivoxLidarStatusSuccess
          (some (handle, packet)) fun _ _ => hsent
        · exact .inl (hkeeps.1.mpr hlive)
        · simp [invoked, State.call, hfound] at hcount
  | timed_out now =>
    by_cases hexpired : command ∈ s.expired now
    · right
      refine ⟨⟨command, .kLivoxLidarStatusTimeout, none⟩, ?_, rfl, rfl⟩
      rw [new_calls_of_append _ (by rw [State.commands_handle, foldl_call])]
      exact List.mem_reverse.mpr (List.mem_map.mpr ⟨command, hexpired, rfl⟩)
    · left
      obtain hkeeps | ⟨_, _, hcount⟩ := commands_handle_effect h fun hlate => absurd hlate hexpired
      · exact hkeeps.1.mpr hlive
      · rw [State.commands_handle, invoked_foldl_call, List.count_eq_zero_of_not_mem hexpired] at hcount
        simp [invoked] at hcount

/-- A step loses no two commands. -/
theorem loses_unique {other : Command} (hfirst : s.Loses e command) (hsecond : s.Loses e other) :
    command = other := by
  have hregistered : ∀ {seq : UInt32}, s.Registered command → s.Registered other →
      seq = command.seq_num → seq = other.seq_num → command = other := by
    rintro seq hone htwo rfl hnum
    obtain ⟨deadline, hentry⟩ := registered_iff.mp hone
    obtain ⟨later, hother⟩ := registered_iff.mp htwo
    rw [← hnum, hentry] at hother
    cases hother
    rfl
  cases e with
  | proceed id sent now =>
    simp only [Loses] at hfirst hsecond
    split at hfirst
    · rename_i running rest hentry
      simp only [hentry] at hsecond
      exact hregistered hfirst.1 hsecond.1 hfirst.2.1 hsecond.2.1
    · exact hfirst.elim
  | handler handle lidar_port packet | handler_of_type dev_type handle lidar_port packet =>
    simp only [Loses] at hfirst hsecond
    split at hfirst
    · rename_i hlooked
      simp only [hlooked] at hsecond
      exact hregistered hfirst.1 hsecond.1 hfirst.2.1 hsecond.2.1
    · exact hfirst.elim
  | _ => cases hfirst

/-- The command that a step makes. -/
theorem new_command (hstep : s.step e = .ok t) (hcommand : command ∈ t.submitted)
    (hnew : command ∉ s.submitted) : command.id = s.submitted.length ∧
      ∀ handle cmd_id, e = .send_command handle cmd_id →
        command.general = true ∧ command.handle = handle := by
  cases stepped_of_step hstep with
  | submitted handle cmd_id type =>
    obtain rfl | hold := List.mem_cons.mp hcommand
    · refine ⟨rfl, fun other cmd heq => ⟨rfl, ?_⟩⟩
      cases heq
      rfl
    · exact absurd hold hnew
  | other_submitted handle cmd_id program =>
    obtain rfl | hold := List.mem_cons.mp hcommand
    · exact ⟨rfl, by simp⟩
    · exact absurd hold hnew
  | timed_out now =>
    rw [State.commands_handle, foldl_call] at hcommand
    exact absurd hcommand hnew
  | _ => exact absurd hcommand hnew

/-- No handler is taken away. -/
theorem handlers_of_step {dev_type : UInt8} (hstep : s.step e = .ok t)
    (h : dev_type ∈ s.lidars_command_handler) : dev_type ∈ t.lidars_command_handler := by
  cases stepped_of_step hstep with
  | detected handle detected =>
    simp only [detect]
    split
    · exact h
    · split
      · exact List.mem_cons_of_mem _ h
      · exact h
  | timed_out now =>
    rw [State.commands_handle, foldl_call]
    exact h
  | _ => exact h

/-- The types of the devices are recorded when they are detected. -/
theorem device_dev_type_of_step (hstep : s.step e = .ok t)
    (hdetected : ∀ handle dev_type, e ≠ .detected handle dev_type) :
    t.device_dev_type = s.device_dev_type := by
  cases stepped_of_step hstep with
  | detected handle dev_type => exact absurd rfl (hdetected handle dev_type)
  | timed_out now => rw [State.commands_handle, foldl_call]
  | _ => rfl

/-- A step has no meaning only when it is one of a call that is not running. -/
theorem step_error {fault : Fault} (hstep : s.step e = .error fault) : fault = .precondition := by
  cases e with
  | proceed id sent now =>
    simp only [step, proceed] at hstep
    split at hstep
    · cases hstep
      rfl
    · cases hstep
      rfl
    · split at hstep <;> cases hstep
  | handler handle lidar_port packet | handler_of_type dev_type handle lidar_port packet =>
    simp only [step] at hstep
    split at hstep <;> cases hstep
  | _ => cases hstep

end State

namespace Detection

variable {s t : Detection}

/-- The device has been recorded, and its firmware type is not known yet. -/
def Awaits (s : Detection) (handle : UInt32) : Prop :=
  s.fw_types.devices[handle]?.map DeviceInfo.is_get_loader_mode = some false

/-- A query of the firmware type of the device is on its way: its command is registered or being
sent, or its callback has been called and will send it again or set the type. -/
def Queried (s : Detection) (handle : UInt32) : Prop :=
  (∃ command ∈ s.general.submitted, s.callbacks command.id = .query_fw_type_callback ∧
      command.handle = handle ∧ s.general.Live command) ∨
    ∃ call ∈ s.returned, s.callbacks call.command.id = .query_fw_type_callback ∧
      call.handle = handle

/-- There is a query of the firmware type of the same device beside this one. -/
def QueriedBesides (s : Detection) (command : Command) : Prop :=
  (∃ other ∈ s.general.submitted, other ≠ command ∧
      s.callbacks other.id = .query_fw_type_callback ∧ other.handle = command.handle ∧
      s.general.Live other) ∨
    ∃ call ∈ s.returned, s.callbacks call.command.id = .query_fw_type_callback ∧
      call.handle = command.handle

instance (s : Detection) (handle : UInt32) : Decidable (s.Awaits handle) :=
  inferInstanceAs (Decidable (_ = _))

instance (s : Detection) (handle : UInt32) : Decidable (s.Queried handle) :=
  inferInstanceAs (Decidable (_ ∨ _))

instance (s : Detection) (command : Command) : Decidable (s.QueriedBesides command) :=
  inferInstanceAs (Decidable (_ ∨ _))

/-- The step dereferences no null command handler and copies nothing past its field. It may end in the
read of the framework configuration that the view does not have, or be none of the system's. -/
def Tolerated {α : Type} (mode : SdkMode) (x : Checked α) : Prop :=
  ∀ fault, x = .error fault →
    fault = .precondition ∨ mode.is_view = true ∧ fault = null_framework_cfg

/-- The SDK can serve the devices. A device that is detected is not one of the PA, of which there is no
handler; a new one has a serial number that ends in its field, and for the master SDK a type that it
has a handler for. The commands lose no query of a type that is awaited, unless there is another one.
A configuration is taken by a device that has been detected. -/
def Supported (s : Detection) : DetectionEvent → Prop
  | .handle_detection_data handle detection_data _ =>
    detection_data.ret_code = 0 → verify_net_segment s.mode detection_data = .ok true →
      (s.mode.is_view = false → detection_data.dev_type ≠ kLivoxLidarTypePA) ∧
        (s.fw_types.devices[handle]? = none → 0 ∈ detection_data.sn.toList ∧
          (s.mode = .configured true → (handler_type detection_data.dev_type).isSome))
  | .commands e =>
    s.mode = .configured true → ∀ command ∈ s.general.submitted,
      s.callbacks command.id = .query_fw_type_callback → s.Awaits command.handle →
        s.general.Loses e command → s.QueriedBesides command
  | .query_fw_type_callback _ _ => True
  | .update_lidar_callback call type response =>
    s.mode = .configured true → call.status = .kLivoxLidarStatusSuccess →
      ∀ answer : LivoxLidarAsyncControlResponse, answer ∈ response →
        answer.ret_code = 0 ∧ answer.error_key = 0 ∨ type = .hap →
          s.fw_types.devices[call.handle]?.isSome

instance (s : Detection) (e : DetectionEvent) : Decidable (s.Supported e) := by
  unfold Supported
  split <;> infer_instance

/-- What the maps and the records of the state say of each other. -/
structure Sound (s : Detection) : Prop where
  tracked : s.general.Tracked
  returned : ∀ call ∈ s.returned, call.command ∈ s.general.submitted
  queries : ∀ command ∈ s.general.submitted,
    s.callbacks command.id = .query_fw_type_callback → command.general = true
  handlers : s.mode.is_view = false → ∀ dev_type, (handler_type dev_type).isSome →
    dev_type ∈ s.general.lidars_command_handler
  fits : ∀ (handle : UInt32) (device_info : DeviceInfo),
    s.fw_types.devices[handle]? = some device_info → device_info.Fits
  known : s.mode = .configured true → ∀ (handle : UInt32) (device_info : DeviceInfo),
    s.fw_types.devices[handle]? = some device_info → s.general.Known handle
  typed : ∀ (handle : UInt32) (dev_type : UInt8),
    s.general.device_dev_type[handle]? = some dev_type → s.fw_types.devices[handle]?.isSome

section Commands

theorem run_commands_eq_ok_iff {e : Event} {callback : CommandCallback} :
    s.run_commands e callback = .ok t ↔ ∃ general, s.general.step e = .ok general ∧
      { s with
        general
        callbacks := Function.update s.callbacks s.general.submitted.length callback
        returned := s.general.new_calls general ++ s.returned } = t := by
  rw [run_commands, bind_eq_ok_iff]
  simp only [Except.ok.injEq]

/-- A command that was there keeps its callback. -/
theorem Sound.callback_kept (h : s.Sound) {command : Command}
    (hcommand : command ∈ s.general.submitted) (callback : CommandCallback) :
    Function.update s.callbacks s.general.submitted.length callback command.id =
      s.callbacks command.id :=
  Function.update_of_ne (h.tracked.fresh command hcommand).ne _ _

theorem Sound.run_commands (h : s.Sound) {e : Event} {callback : CommandCallback}
    (hquery : callback = .query_fw_type_callback → ∃ handle cmd_id, e = .send_command handle cmd_id)
    (hdetected : ∀ handle dev_type, e ≠ .detected handle dev_type)
    (hrun : s.run_commands e callback = .ok t) : t.Sound := by
  obtain ⟨general, hstep, rfl⟩ := run_commands_eq_ok_iff.mp hrun
  have htracked := h.tracked.step hstep
  refine ⟨htracked, ?_, ?_, ?_, h.fits, ?_, ?_⟩
  · intro call hcall
    obtain hnew | hold := List.mem_append.mp hcall
    · exact htracked.called call (List.mem_of_mem_take hnew)
    · exact State.submitted_of_step hstep (h.returned call hold)
  · intro command hcommand hcallback
    by_cases hold : command ∈ s.general.submitted
    · exact h.queries command hold ((h.callback_kept hold callback).symm.trans hcallback)
    · obtain ⟨hid, hgeneral⟩ := State.new_command hstep hcommand hold
      simp only [hid, Function.update_self] at hcallback
      obtain ⟨handle, cmd_id, rfl⟩ := hquery hcallback
      exact (hgeneral handle cmd_id rfl).1
  · intro hview dev_type htype
    exact State.handlers_of_step hstep (h.handlers hview dev_type htype)
  · intro hmaster handle device_info hlookup
    exact (h.known hmaster handle device_info hlookup).step hstep
  · intro handle dev_type hlookup
    simp only [State.device_dev_type_of_step hstep hdetected] at hlookup
    exact h.typed handle dev_type hlookup

/-- A query that is on its way stays, unless the step loses it and there is no other one. -/
theorem Queried.run_commands {handle : UInt32} (hqueried : s.Queried handle) (h : s.Sound) {e : Event}
    {callback : CommandCallback}
    (hkept : ∀ command ∈ s.general.submitted, s.callbacks command.id = .query_fw_type_callback →
      command.handle = handle → s.general.Loses e command → s.QueriedBesides command)
    (hrun : s.run_commands e callback = .ok t) : t.Queried handle := by
  obtain ⟨general, hstep, rfl⟩ := run_commands_eq_ok_iff.mp hrun
  -- a query that the step does not lose
  have hsafe : ∀ command ∈ s.general.submitted,
      s.callbacks command.id = .query_fw_type_callback → command.handle = handle →
        s.general.Live command → ¬ s.general.Loses e command →
          Queried { s with
            general
            callbacks := Function.update s.callbacks s.general.submitted.length callback
            returned := s.general.new_calls general ++ s.returned } handle := by
    rintro command hcommand hcallback rfl hlive hnot
    obtain hstays | ⟨call, hcall, hcalled, hhandle⟩ :=
      h.tracked.live_or_called hcommand (h.queries command hcommand hcallback) hlive hnot hstep
    · refine .inl ⟨command, State.submitted_of_step hstep hcommand, ?_, rfl, hstays⟩
      rw [← hcallback]
      exact h.callback_kept hcommand callback
    · refine .inr ⟨call, List.mem_append_left _ hcall, ?_, hhandle⟩
      rw [hcalled, ← hcallback]
      exact h.callback_kept hcommand callback
  have hreturned : ∀ call ∈ s.returned,
      s.callbacks call.command.id = .query_fw_type_callback → call.handle = handle →
          Queried { s with
            general
            callbacks := Function.update s.callbacks s.general.submitted.length callback
            returned := s.general.new_calls general ++ s.returned } handle := by
    intro call hcall hcallback hhandle
    refine .inr ⟨call, List.mem_append_right _ hcall, ?_, hhandle⟩
    rw [← hcallback]
    exact h.callback_kept (h.returned call hcall) callback
  obtain ⟨command, hcommand, hcallback, rfl, hlive⟩ | ⟨call, hcall, hcallback, hhandle⟩ := hqueried
  · by_cases hloses : s.general.Loses e command
    · obtain ⟨other, hother, hne, hsame, hhandle, hlives⟩ | ⟨call, hcall, hsame, hhandle⟩ :=
        hkept command hcommand hcallback rfl hloses
      · exact hsafe other hother hsame hhandle hlives fun hlost =>
          hne (State.loses_unique hlost hloses)
      · exact hreturned call hcall hsame hhandle
    · exact hsafe command hcommand hcallback rfl hlive hloses
  · exact hreturned call hcall hcallback hhandle

end Commands

/-- The way from one state to another: a type that is awaited then is queried, or was awaited before
and is queried if it was so. -/
structure Preserves (s t : Detection) : Prop where
  sound : t.Sound
  mode : t.mode = s.mode
  recorded : ∀ handle : UInt32, s.fw_types.devices[handle]?.isSome →
    t.fw_types.devices[handle]?.isSome
  awaits : s.mode = .configured true → ∀ handle, t.Awaits handle →
    t.Queried handle ∨ s.Awaits handle ∧ (s.Queried handle → t.Queried handle)

theorem Sound.refl (h : s.Sound) : s.Preserves s :=
  ⟨h, rfl, fun _ => id, fun _ _ hawaits => .inr ⟨hawaits, id⟩⟩

theorem Preserves.trans {u : Detection} (h : s.Preserves t) (hnext : t.Preserves u) :
    s.Preserves u where
  sound := hnext.sound
  mode := hnext.mode.trans h.mode
  recorded := fun handle hrecorded => hnext.recorded handle (h.recorded handle hrecorded)
  awaits := by
    intro hmaster handle hawaits
    obtain hqueried | ⟨hbefore, hkept⟩ := hnext.awaits (h.mode.trans hmaster) handle hawaits
    · exact .inl hqueried
    · obtain hqueried | ⟨hfirst, hstays⟩ := h.awaits hmaster handle hbefore
      · exact .inl (hkept hqueried)
      · exact .inr ⟨hfirst, fun hqueried => hkept (hstays hqueried)⟩

/-- A function whose faults are tolerated, and that preserves what the state has to have. -/
def Serves (s : Detection) (x : Checked Detection) : Prop :=
  Tolerated s.mode x ∧ ∀ t, x = .ok t → s.Preserves t

theorem serves_ok (h : s.Preserves t) : s.Serves (.ok t) := by
  constructor
  · intro fault hfault
    cases hfault
  · intro after hafter
    cases hafter
    exact h

theorem Serves.bind {x : Checked Detection} {f : Detection → Checked Detection} (h : s.Serves x)
    (hnext : ∀ t, x = .ok t → s.Preserves t → t.Serves (f t)) : s.Serves (x >>= f) := by
  cases hx : x with
  | error fault =>
    constructor
    · intro other hother
      cases hother
      exact h.1 fault hx
    · intro t ht
      cases ht
  | ok t =>
    have hpreserves := h.2 t hx
    obtain ⟨htolerated, hafter⟩ := hnext t hx hpreserves
    rw [Tolerated, hpreserves.mode] at htolerated
    exact ⟨htolerated, fun u hu => hpreserves.trans (hafter u hu)⟩

/-- Commands are sent, and the device of a query for its type is queried when it has a handler. -/
theorem Sound.send (h : s.Sound) (e : Event) (callback : CommandCallback) {general : State}
    (hquery : callback = .query_fw_type_callback → ∃ handle cmd_id, e = .send_command handle cmd_id)
    (hdetected : ∀ handle dev_type, e ≠ .detected handle dev_type)
    (hloses : ∀ command, ¬ s.general.Loses e command) (hstep : s.general.step e = .ok general) :
    ∃ t, s.run_commands e callback = .ok t ∧ s.Preserves t ∧ t.general = general ∧
      ∀ handle, t.Awaits handle ↔ s.Awaits handle := by
  obtain ⟨t, hrun⟩ : ∃ t, s.run_commands e callback = .ok t :=
    ⟨_, run_commands_eq_ok_iff.mpr ⟨general, hstep, rfl⟩⟩
  have hsound := h.run_commands hquery hdetected hrun
  have hqueried : ∀ handle, s.Queried handle → t.Queried handle := fun handle hqueried =>
    hqueried.run_commands h (fun command _ _ _ hlost => absurd hlost (hloses command)) hrun
  obtain ⟨_, hstep', rfl⟩ := run_commands_eq_ok_iff.mp hrun
  obtain rfl := Except.ok.inj (hstep.symm.trans hstep')
  exact ⟨_, hrun, ⟨hsound, rfl, fun _ => id, fun _ handle hawaits =>
    .inr ⟨hawaits, hqueried handle⟩⟩, rfl, fun _ => Iff.rfl⟩

theorem Sound.query_fw_type (h : s.Sound) (handle : UInt32) :
    ∃ t, s.query_fw_type handle = .ok t ∧ s.Preserves t ∧
      (∀ other, t.Awaits other ↔ s.Awaits other) ∧ (s.general.Known handle → t.Queried handle) := by
  obtain ⟨t, hrun, hpreserves, hgeneral, hawaits⟩ :=
    h.send (.send_command handle kCommandIDLidarGetInternalInfo) .query_fw_type_callback
      (fun _ => ⟨_, _, rfl⟩) (by simp) (fun _ hlost => hlost) rfl
  refine ⟨t, hrun, hpreserves, hawaits, fun hknown => .inl ?_⟩
  obtain ⟨command, hsubmitted, _, hnew, _, _, hlive, _⟩ :=
    hknown.send_command h.tracked kCommandIDLidarGetInternalInfo
  have hmem : command ∈ (s.general.send_command handle kCommandIDLidarGetInternalInfo).submitted := by
    rw [hsubmitted]
    exact List.mem_cons_self
  have hstep : s.general.step (.send_command handle kCommandIDLidarGetInternalInfo) =
      .ok (s.general.send_command handle kCommandIDLidarGetInternalInfo) := rfl
  obtain ⟨hid, hcommand⟩ := State.new_command hstep hmem hnew
  obtain ⟨_, _, rfl⟩ := run_commands_eq_ok_iff.mp hrun
  simp only at hgeneral
  subst hgeneral
  refine ⟨command, hmem, ?_, (hcommand _ _ rfl).2, hlive⟩
  simp only [hid, Function.update_self]

section Parts

/-- The handlers that there are beside those that there were. -/
theorem Sound.with_handlers (h : s.Sound) {handlers : List UInt8}
    (hmore : ∀ dev_type ∈ s.general.lidars_command_handler, dev_type ∈ handlers) :
    s.Preserves { s with general := { s.general with lidars_command_handler := handlers } } where
  sound :=
    { h with
      tracked := ⟨h.tracked.keyed, h.tracked.running, h.tracked.fresh, h.tracked.distinct,
        h.tracked.called⟩
      handlers := fun hview dev_type htype => hmore _ (h.handlers hview dev_type htype)
      known := by
        intro hmaster handle device_info hlookup
        obtain ⟨dev_type, htyped, hmem, hsome⟩ :=
          State.known_iff.mp (h.known hmaster handle device_info hlookup)
        exact State.known_iff.mpr ⟨dev_type, htyped, hmore _ hmem, hsome⟩ }
  mode := rfl
  recorded := fun _ => id
  awaits := fun _ _ hawaits => .inr ⟨hawaits, id⟩

theorem Sound.create_command_handler (h : s.Sound) {dev_type : UInt8}
    (hpa : s.mode.is_view = false → dev_type ≠ kLivoxLidarTypePA) :
    ∃ handlers, create_command_handler s.mode s.general dev_type =
        .ok { s.general with lidars_command_handler := handlers } ∧
      (∀ other ∈ s.general.lidars_command_handler, other ∈ handlers) ∧
      ((handler_type dev_type).isSome → dev_type ∈ handlers) := by
  have hhandlers := h.handlers
  cases hmode : s.mode with
  | configured master_sdk =>
    rw [hmode] at hpa hhandlers
    refine ⟨s.general.lidars_command_handler, ?_, fun _ hmem => hmem, hhandlers rfl dev_type⟩
    simp only [Detection.create_command_handler]
    split
    · rename_i hlisted
      rw [if_pos (hhandlers rfl dev_type (hlisted.resolve_left (hpa rfl)))]
    · rfl
  | view host_ip =>
    simp only [Detection.create_command_handler]
    split
    · rename_i hmem
      exact ⟨_, rfl, fun _ hother => hother, fun _ => hmem⟩
    · split
      · exact ⟨_, rfl, fun _ hother => List.mem_cons_of_mem _ hother, fun _ => List.mem_cons_self⟩
      · rename_i hnone
        exact ⟨_, rfl, fun _ hother => hother, fun hsome => absurd hsome hnone⟩

/-- Other information on the devices, which is on the same ones for the master SDK. -/
theorem Sound.with_fw_types (h : s.Sound) {fw_types : FwTypes}
    (hfits : ∀ (handle : UInt32) (device_info : DeviceInfo),
      fw_types.devices[handle]? = some device_info → device_info.Fits)
    (hmore : ∀ handle : UInt32, s.fw_types.devices[handle]?.isSome →
      fw_types.devices[handle]?.isSome)
    (hsame : s.mode = .configured true → ∀ handle : UInt32, fw_types.devices[handle]?.isSome →
      s.fw_types.devices[handle]?.isSome) :
    Sound { s with fw_types } :=
  { h with
    fits := hfits
    known := by
      intro hmaster handle device_info hlookup
      obtain ⟨before, hbefore⟩ :=
        Option.isSome_iff_exists.mp (hsame hmaster handle (Option.isSome_of_eq_some hlookup))
      exact h.known hmaster handle before hbefore
    typed := fun handle dev_type htyped => hmore handle (h.typed handle dev_type htyped) }

theorem Sound.livox_lidar_info_change (h : s.Sound) {handle : UInt32}
    (hrecorded : s.mode = .configured true → s.fw_types.devices[handle]?.isSome) :
    s.Serves (s.livox_lidar_info_change handle) := by
  have hfits : (s.fw_types.devices[handle]?.getD DeviceInfo.default).Fits := by
    cases hlookup : s.fw_types.devices[handle]? with
    | none => exact DeviceInfo.default_fits
    | some device_info => exact h.fits handle device_info hlookup
  obtain ⟨after, told, hrun, hafter⟩ := s.fw_types.devices.livox_lidar_info_change_spec handle hfits
  rw [Detection.livox_lidar_info_change, hrun, ok_bind]
  have hmore : ∀ other : UInt32, s.fw_types.devices[other]?.isSome → after[other]?.isSome := by
    intro other hother
    rw [hafter]
    split
    · rfl
    · exact hother
  have hsound : Sound { s with fw_types := { s.fw_types with devices := after } } := by
    refine h.with_fw_types ?_ hmore ?_
    · intro other device_info hlookup
      simp only [hafter] at hlookup
      split at hlookup
      · cases hlookup
        exact hfits
      · exact h.fits other device_info hlookup
    · intro hmaster other hother
      simp only [hafter] at hother
      split at hother
      · rename_i heq
        rw [← heq]
        exact hrecorded hmaster
      · exact hother
  refine serves_ok ⟨{ hsound with }, rfl, hmore, fun hmaster other hawaits => .inr ⟨?_, id⟩⟩
  simp only [Awaits, set_devices, hafter] at hawaits
  split at hawaits
  · rename_i heq
    obtain ⟨device_info, hlookup⟩ := Option.isSome_iff_exists.mp (hrecorded hmaster)
    rw [Awaits, ← heq, hlookup]
    simpa [hlookup] using hawaits
  · exact hawaits

theorem Sound.device_manager_handle_detection_data (h : s.Sound) {handle : UInt32}
    (hrecorded : s.fw_types.devices[handle]?.isSome) (detection_data : DetectionData)
    (is_get_loader_mode is_load_mode : Bool) :
    s.Serves (s.device_manager_handle_detection_data handle detection_data is_get_loader_mode
      is_load_mode) := by
  have hchange := h.livox_lidar_info_change fun _ => hrecorded
  unfold Detection.device_manager_handle_detection_data
  split
  · exact serves_ok h.refl
  · split
    · split
      · exact hchange
      · exact serves_ok h.refl
    · split
      · split
        · exact serves_ok h.refl
        · split
          · exact hchange
          · exact serves_ok h.refl
      · have hnext : s.Preserves
            { s with lidars_dev_type := s.lidars_dev_type.insert handle detection_data.dev_type } :=
          ⟨{ h with }, rfl, fun _ => id, fun _ _ hawaits => .inr ⟨hawaits, id⟩⟩
        have hchanged := @Sound.livox_lidar_info_change _ hnext.sound handle fun _ => hrecorded
        split
        · exact ⟨hchanged.1, fun t ht => hnext.trans (hchanged.2 t ht)⟩
        · exact serves_ok hnext

/-- What is done when the framework configuration has been read. -/
theorem serves_master_sdk {f : Bool → Checked Detection}
    (h : ∀ master_sdk, s.mode = .configured master_sdk → s.Serves (f master_sdk)) :
    s.Serves (s.mode.master_sdk >>= f) := by
  cases hmode : s.mode with
  | view host_ip =>
    rw [Serves, hmode]
    constructor
    · intro fault hfault
      cases hfault
      exact .inr ⟨rfl, rfl⟩
    · intro t ht
      cases ht
  | configured master_sdk => exact h master_sdk hmode

theorem Sound.update_lidar_cfg (h : s.Sound) (dev_type : UInt8) (handle : UInt32)
    (custom_lidar : Bool) : s.Serves (s.update_lidar_cfg dev_type handle custom_lidar) := by
  unfold Detection.update_lidar_cfg
  split
  · exact serves_ok h.refl
  · rename_i type _
    apply serves_master_sdk
    intro master_sdk _
    split
    · exact serves_ok h.refl
    · split
      · exact serves_ok h.refl
      · split
        · exact serves_ok h.refl
        · obtain ⟨t, hrun, hpreserves, _⟩ := h.send
            (.send_other_command handle kCommandIDLidarWorkModeControl [.add_command, .send_datagram])
            (.update_lidar_callback type) (by simp) (by simp) (fun _ hlost => hlost) rfl
          rw [hrun]
          exact serves_ok hpreserves

theorem Sound.detect_again (h : s.Sound) {handle : UInt32} {device_info : DeviceInfo}
    (hlookup : s.fw_types.devices[handle]? = some device_info) (detection_data : DetectionData)
    (custom_lidar : Bool) :
    s.Serves (s.detect_again handle detection_data custom_lidar device_info) := by
  have hrecorded : s.fw_types.devices[handle]?.isSome := Option.isSome_of_eq_some hlookup
  unfold Detection.detect_again
  split
  · refine (h.update_lidar_cfg _ _ _).bind fun t _ hpreserves => ?_
    exact hpreserves.sound.device_manager_handle_detection_data
      (hpreserves.recorded handle hrecorded) _ _ _
  · exact h.device_manager_handle_detection_data hrecorded _ _ _

section NewDevice

/-- A device that is new, with its information and its type. -/
def with_device (s : Detection) (devices : Devices) (handle : UInt32) (dev_type : UInt8) :
    Detection :=
  { s.set_devices devices with
    general :=
      { s.general with
        device_dev_type := s.general.device_dev_type.insertIfNew handle dev_type } }

variable {devices : Devices} {handle : UInt32} {dev_type : UInt8} {device_info : DeviceInfo}

/-- A device that is not recorded has no type. -/
theorem Sound.untyped (h : s.Sound) (hnew : s.fw_types.devices[handle]? = none) :
    s.general.device_dev_type[handle]? = none := by
  cases htyped : s.general.device_dev_type[handle]? with
  | none => rfl
  | some dev_type =>
    have hsome := h.typed handle dev_type htyped
    rw [hnew] at hsome
    cases hsome

theorem Sound.with_device (h : s.Sound) (hnew : s.fw_types.devices[handle]? = none)
    (hlookup : ∀ other : UInt32, devices[other]? =
      if handle = other then some device_info else s.fw_types.devices[other]?)
    (hfits : device_info.Fits)
    (htype : s.mode = .configured true → dev_type ∈ s.general.lidars_command_handler ∧
      (handler_type dev_type).isSome) : (s.with_device devices handle dev_type).Sound := by
  have huntyped := h.untyped hnew
  refine ⟨⟨h.tracked.keyed, h.tracked.running, h.tracked.fresh, h.tracked.distinct,
    h.tracked.called⟩, h.returned, h.queries, h.handlers, ?_, ?_, ?_⟩
  · intro other device_info hother
    simp only [Detection.with_device, set_devices, hlookup] at hother
    split at hother
    · cases hother
      exact hfits
    · exact h.fits other device_info hother
  · intro hmaster other device_info hother
    obtain ⟨hmem, hsome⟩ := htype hmaster
    rw [State.known_iff]
    simp only [Detection.with_device, set_devices, hlookup, lookup_insertIfNew huntyped] at hother ⊢
    by_cases heq : handle = other
    · simp only [if_pos heq]
      exact ⟨_, rfl, hmem, hsome⟩
    · simp only [if_neg heq] at hother ⊢
      exact State.known_iff.mp (h.known hmaster other device_info hother)
  · intro other dev_type htyped
    simp only [Detection.with_device, set_devices, hlookup, lookup_insertIfNew huntyped] at htyped ⊢
    by_cases heq : handle = other
    · rw [if_pos heq]
      rfl
    · rw [if_neg heq] at htyped ⊢
      exact h.typed other dev_type htyped

/-- The other devices are awaited as before. -/
theorem with_device_awaits (hlookup : ∀ other : UInt32, devices[other]? =
      if handle = other then some device_info else s.fw_types.devices[other]?) {other : UInt32}
    (hne : handle ≠ other) :
    (s.with_device devices handle dev_type).Awaits other ↔ s.Awaits other := by
  simp only [Awaits, with_device, set_devices, hlookup, if_neg hne]

theorem with_device_recorded (hlookup : ∀ other : UInt32, devices[other]? =
      if handle = other then some device_info else s.fw_types.devices[other]?) (other : UInt32)
    (hrecorded : s.fw_types.devices[other]?.isSome) :
    (s.with_device devices handle dev_type).fw_types.devices[other]?.isSome := by
  simp only [with_device, set_devices, hlookup]
  split
  · rfl
  · exact hrecorded

end NewDevice

/-- A new device is recorded with the type that it has a handler for, and its firmware type is
queried. -/
theorem Sound.detect_first (h : s.Sound) {handle : UInt32} {detection_data : DetectionData}
    (hnew : s.fw_types.devices[handle]? = none) (hsn : 0 ∈ detection_data.sn.toList)
    (htype : s.mode = .configured true → detection_data.dev_type ∈ s.general.lidars_command_handler ∧
      (handler_type detection_data.dev_type).isSome) :
    s.Serves (s.detect_first handle detection_data) := by
  obtain ⟨sn, hread, hlength⟩ := DetectionData.sn_string_of_mem hsn
  rw [Detection.detect_first, hread, ok_bind]
  simp only
  generalize hdevices : s.fw_types.devices.record handle detection_data sn = devices
  have hlookup : ∀ other : UInt32, devices[other]? =
      if handle = other then
        some { DeviceInfo.default with
          sn, lidar_ip := detection_data.lidar_ip_string, dev_type := detection_data.dev_type }
      else s.fw_types.devices[other]? := by
    intro other
    rw [← hdevices, Devices.record, Devices.store_lookup, hnew]
    split <;> rfl
  have hsound := h.with_device hnew hlookup ⟨hlength, detection_data.lidar_ip_string_length⟩ htype
  have hrecorded := @with_device_recorded s devices handle detection_data.dev_type _ hlookup
  change s.Serves ((s.with_device devices handle detection_data.dev_type).get_firmware_type handle _)
  rw [get_firmware_type, hlookup, if_pos rfl]
  apply serves_master_sdk (s := s)
  intro master_sdk hmode
  cases master_sdk with
  | false =>
    refine serves_ok ⟨hsound, rfl, hrecorded, fun hmaster => ?_⟩
    rw [hmode] at hmaster
    cases hmaster
  | true =>
    obtain ⟨t, hrun, hpreserves, hsame, hqueried⟩ := hsound.query_fw_type handle
    have hknown : (s.with_device devices handle detection_data.dev_type).general.Known handle := by
      apply hsound.known hmode handle
      simp only [Detection.with_device, set_devices, hlookup, if_true]
      rfl
    simp only [Option.getD_some, not_true_eq_false, if_false, hrun]
    refine serves_ok ⟨hpreserves.sound, hpreserves.mode, fun other hother =>
      hpreserves.recorded other (hrecorded other hother), fun hmaster other hother => ?_⟩
    by_cases heq : handle = other
    · rw [← heq]
      exact .inl (hqueried hknown)
    · have hbefore := (with_device_awaits hlookup heq).mp ((hsame other).mp hother)
      obtain hthere | ⟨_, hkept⟩ := hpreserves.awaits hmaster other hother
      · exact .inl hthere
      · exact .inr ⟨hbefore, hkept⟩

theorem verify_net_segment_error {mode : SdkMode} {detection_data : DetectionData} {fault : Fault}
    (h : verify_net_segment mode detection_data = .error fault) : fault = .precondition := by
  unfold verify_net_segment at h
  split at h
  · cases h
  · split at h
    · cases h
    · split at h <;> cases h
      rfl

theorem Sound.handle_detection_data (h : s.Sound) {handle : UInt32} {detection_data : DetectionData}
    {custom_lidar : Bool}
    (hguard : s.Supported (.handle_detection_data handle detection_data custom_lidar)) :
    s.Serves (s.handle_detection_data handle detection_data custom_lidar) := by
  unfold Detection.handle_detection_data
  split
  · exact serves_ok h.refl
  · rename_i hcode
    cases hverify : verify_net_segment s.mode detection_data with
    | error fault =>
      constructor
      · intro other hother
        cases hother
        exact .inl (verify_net_segment_error hverify)
      · intro t ht
        cases ht
    | ok verified =>
      rw [ok_bind]
      split
      · exact serves_ok h.refl
      · rename_i hverified
        simp only [not_not] at hcode hverified
        rw [hverified] at hverify
        obtain ⟨hpa, hfirst⟩ := hguard hcode hverify
        obtain ⟨handlers, hcreate, hmore, hlisted⟩ := h.create_command_handler hpa
        have hpreserves := h.with_handlers hmore
        rw [hcreate, ok_bind]
        simp only
        cases hlookup : s.fw_types.devices[handle]? with
        | some device_info =>
          have hserves := hpreserves.sound.detect_again hlookup detection_data custom_lidar
          exact ⟨hserves.1, fun t ht => hpreserves.trans (hserves.2 t ht)⟩
        | none =>
          obtain ⟨hsn, htype⟩ := hfirst hlookup
          have hserves := hpreserves.sound.detect_first hlookup hsn
            fun hmaster => ⟨hlisted (htype hmaster), htype hmaster⟩
          exact ⟨hserves.1, fun t ht => hpreserves.trans (hserves.2 t ht)⟩

/-- A callback that has been called is run; the queries that are on their way for other devices are
so still. -/
theorem Queried.erase {handle : UInt32} {call : Callback} (h : s.Queried handle)
    (hother : s.callbacks call.command.id = .query_fw_type_callback → call.handle ≠ handle)
    (fw_types : FwTypes) :
    Queried { s with returned := s.returned.erase call, fw_types } handle := by
  obtain hcommand | ⟨other, hmem, hcallback, hhandle⟩ := h
  · exact .inl hcommand
  · refine .inr ⟨other, ?_, hcallback, hhandle⟩
    apply (List.mem_erase_of_ne ?_).mpr hmem
    rintro rfl
    exact hother hcallback hhandle

theorem Sound.erase (h : s.Sound) (call : Callback) :
    Sound { s with returned := s.returned.erase call } :=
  { h with returned := fun other hother => h.returned other (List.mem_of_mem_erase hother) }

/-- The type is set, as it is reported or when there have been too many failures. -/
theorem Sound.update_fw_type (h : s.Sound) (call : Callback) (fw_type : UInt8) (count : Int8) :
    s.Preserves
      { s with
        returned := s.returned.erase call
        fw_types := { devices := s.fw_types.devices.update_fw_type call.handle fw_type, count } } where
  sound := by
    refine (h.erase call).with_fw_types ?_ ?_ ?_
    · intro handle device_info hlookup
      simp only [Devices.update_fw_type_lookup] at hlookup
      split at hlookup
      · obtain ⟨before, hbefore, rfl⟩ := Option.map_eq_some_iff.mp hlookup
        exact h.fits _ before hbefore
      · exact h.fits _ device_info hlookup
    · intro handle hsome
      simpa only [Devices.update_fw_type_isSome] using hsome
    · intro _ handle hsome
      simpa only [Devices.update_fw_type_isSome] using hsome
  mode := rfl
  recorded := by
    intro handle hsome
    simpa only [Devices.update_fw_type_isSome] using hsome
  awaits := by
    intro _ handle hawaits
    simp only [Awaits, Devices.update_fw_type_lookup] at hawaits
    split at hawaits
    · cases hlookup : s.fw_types.devices[call.handle]? <;> simp [hlookup] at hawaits
    · rename_i hne
      exact .inr ⟨hawaits, fun hqueried => hqueried.erase (fun _ => hne) _⟩

theorem Sound.query_fw_type_callback (h : s.Sound) (call : Callback)
    (response : Option LivoxLidarDiagInternalInfoResponse) :
    s.Serves ({ s with returned := s.returned.erase call }.query_fw_type_callback call response) := by
  obtain ⟨fw_type, hset⟩ | hfailed :=
    s.fw_types.query_fw_type_callback_cases call.handle call.status response
  · simp only [Detection.query_fw_type_callback, hset]
    exact serves_ok (h.update_fw_type call fw_type 0)
  · simp only [Detection.query_fw_type_callback, hfailed, if_true]
    -- the query is sent again
    have hsound : Sound
        { s with
          returned := s.returned.erase call
          fw_types := { s.fw_types with count := s.fw_types.count + 1 } } :=
      (h.erase call).with_fw_types h.fits (fun _ => id) fun _ _ => id
    obtain ⟨t, hrun, hpreserves, hsame, hqueried⟩ := hsound.query_fw_type call.handle
    rw [hrun]
    refine serves_ok ⟨hpreserves.sound, hpreserves.mode, hpreserves.recorded,
      fun hmaster handle hawaits => ?_⟩
    have hbefore : s.Awaits handle := (hsame handle).mp hawaits
    by_cases heq : call.handle = handle
    · obtain ⟨device_info, hlookup, _⟩ := Option.map_eq_some_iff.mp hbefore
      rw [← heq] at hlookup ⊢
      exact .inl (hqueried (h.known hmaster _ device_info hlookup))
    · obtain hthere | ⟨_, hkept⟩ := hpreserves.awaits hmaster handle hawaits
      · exact .inl hthere
      · exact .inr ⟨hbefore, fun hqueried => hkept (hqueried.erase (fun _ => heq) _)⟩

theorem Sound.update_lidar_callback (h : s.Sound) {call : Callback} {type : HandlerType}
    {response : Option LivoxLidarAsyncControlResponse}
    (hcallback : s.callbacks call.command.id = .update_lidar_callback type)
    (hguard : s.Supported (.update_lidar_callback call type response)) :
    s.Serves ({ s with returned := s.returned.erase call }.update_lidar_callback call type
      response) := by
  have herased : s.Preserves { s with returned := s.returned.erase call } := by
    refine ⟨h.erase call, rfl, fun _ => id, fun _ handle hawaits => .inr ⟨hawaits, ?_⟩⟩
    intro hqueried
    refine hqueried.erase (fun hquery => ?_) s.fw_types
    rw [hcallback] at hquery
    cases hquery
  unfold Detection.update_lidar_callback
  split
  · exact serves_ok herased
  · rename_i hstatus
    simp only [not_not] at hstatus
    split
    · exact serves_ok herased
    · rename_i answer
      split
      · rename_i htaken
        have hupdated : s.Preserves
            { s with
              returned := s.returned.erase call
              updated := (type, call.handle) :: s.updated } :=
          herased.trans ⟨{ herased.sound with }, rfl, fun _ => id,
            fun _ _ hawaits => .inr ⟨hawaits, id⟩⟩
        have hserves := @Sound.livox_lidar_info_change _ hupdated.sound call.handle fun hmaster =>
          hguard hmaster hstatus answer rfl (.inl htaken)
        exact ⟨hserves.1, fun t ht => hupdated.trans (hserves.2 t ht)⟩
      · split
        · rename_i htype
          have hserves := @Sound.livox_lidar_info_change _ herased.sound call.handle fun hmaster =>
            hguard hmaster hstatus answer rfl (.inr htype)
          exact ⟨hserves.1, fun t ht => herased.trans (hserves.2 t ht)⟩
        · exact serves_ok herased

theorem Sound.commands (h : s.Sound) {e : Event} (hguard : s.Supported (.commands e))
    (hdetected : ∀ handle dev_type, e ≠ .detected handle dev_type) :
    s.Serves (s.run_commands e .user) := by
  constructor
  · intro fault hfault
    cases hstep : s.general.step e with
    | error other =>
      rw [Detection.run_commands, hstep] at hfault
      cases hfault
      exact .inl (State.step_error hstep)
    | ok general =>
      rw [Detection.run_commands, hstep] at hfault
      cases hfault
  · intro t hrun
    have hsound := h.run_commands (by simp) hdetected hrun
    have hsame : t.mode = s.mode ∧ t.fw_types = s.fw_types := by
      obtain ⟨general, _, rfl⟩ := run_commands_eq_ok_iff.mp hrun
      exact ⟨rfl, rfl⟩
    refine ⟨hsound, hsame.1, fun handle => by rw [hsame.2]; exact id, fun hmaster handle hawaits => ?_⟩
    rw [Awaits, hsame.2] at hawaits
    refine .inr ⟨hawaits, fun hqueried => hqueried.run_commands h ?_ hrun⟩
    rintro command hcommand hcallback rfl hloses
    exact hguard hmaster command hcommand hcallback hawaits hloses

end Parts

theorem step_commands {e : Event} (hdetected : ∀ handle dev_type, e ≠ .detected handle dev_type) :
    s.step (.commands e) = s.run_commands e .user := by
  cases e with
  | detected handle dev_type => exact absurd rfl (hdetected handle dev_type)
  | _ => rfl

theorem Sound.precondition : s.Serves (.error .precondition) := by
  constructor
  · intro fault hfault
    cases hfault
    exact .inl rfl
  · intro t ht
    cases ht

theorem Sound.step (h : s.Sound) {e : DetectionEvent} (hguard : s.Supported e) :
    s.Serves (s.step e) := by
  cases e with
  | handle_detection_data handle detection_data custom_lidar => exact h.handle_detection_data hguard
  | commands e =>
    by_cases hdetected : ∀ handle dev_type, e ≠ .detected handle dev_type
    · rw [step_commands hdetected]
      exact h.commands hguard hdetected
    · push Not at hdetected
      obtain ⟨handle, dev_type, rfl⟩ := hdetected
      exact Sound.precondition
  | query_fw_type_callback call response =>
    simp only [Detection.step]
    split
    · exact h.query_fw_type_callback call response
    · exact Sound.precondition
  | update_lidar_callback call type response =>
    simp only [Detection.step]
    split
    · rename_i hcall
      exact h.update_lidar_callback hcall.2 hguard
    · exact Sound.precondition

theorem start_sound (mode : SdkMode) : (start mode).Sound where
  tracked := State.start_tracked _
  returned := by simp [start]
  queries := by simp [start, State.start]
  handlers := by
    intro hview dev_type htype
    have hview : mode.is_view = false := hview
    simp only [start, State.start, hview]
    unfold handler_type at htype
    split at htype
    · simp [*]
    · split at htype
      · simp [*]
      · split at htype
        · simp [*]
        · split at htype
          · simp [*]
          · cases htype
  fits := by simp [start]
  known := by simp [start]
  typed := by simp [start, State.start]

end Detection

/-- A lidar of some type, as it answers the broadcast. -/
def detected_lidar (dev_type : UInt8) : DetectionData where
  ret_code := 0
  dev_type := dev_type
  sn := (Vector.replicate 16 0).set 0 0x33
  lidar_ip := default_lidar_ip
  cmd_port := 56100
  behind := []

end general_command_handler

end livox_lidar
