import Livox.CallBack.Spec

open checked execution livox_lidar

namespace livox_ros

/-- A command with what the library has reported of it. -/
structure Answer (F : Type) where
  command : ApiCommand F
  status : LivoxLidarStatus
  response : Option LivoxLidarAsyncControlResponse

/-- The driver from the first report on: the table, the commands without an
answer, and what has happened so far. `issued` has next to each command the
handle that the callback which issued it was called for. -/
structure Session (F : Type) where
  lds : LdsLidar F
  outstanding : List (ApiCommand F)
  issued : List (UInt32 × ApiCommand F)
  answered : List (Answer F)
  reported : List UInt32

/-- The library reports a lidar, or answers the command at a position of
`outstanding`; answers come in any order. -/
inductive SessionEvent where
  | info_change (handle : UInt32)
  | response (position : Nat) (status : LivoxLidarStatus)
      (response : Option LivoxLidarAsyncControlResponse)

namespace Session

variable {F : Type}

def start (lds : LdsLidar F) : Session F :=
  { lds, outstanding := [], issued := [], answered := [], reported := [] }

/-- The library has reported the lidar. -/
def report (s : Session F) (handle : UInt32) : Session F :=
  { s with reported := s.reported ++ [handle] }

/-- The command at the position has got this answer. -/
def answer (s : Session F) (position : Nat) (answer : Answer F) : Session F :=
  { s with
    outstanding := s.outstanding.eraseIdx position
    answered := s.answered ++ [answer] }

/-- A callback that was called for the handle leaves this table and has issued
these commands. -/
def issue (s : Session F) (handle : UInt32) (lds : LdsLidar F) (commands : List (ApiCommand F)) :
    Session F :=
  { s with
    lds
    outstanding := s.outstanding ++ commands
    issued := s.issued ++ commands.map (Prod.mk handle) }

def step (s : Session F) : SessionEvent → Checked (Session F)
  | .info_change handle => do
    let (lds, commands) ← lidar_info_change_callback s.lds handle
    .ok ((s.report handle).issue handle lds commands)
  | .response position status response =>
    match s.outstanding[position]? with
    | none => .ok s
    | some command => do
      let (lds, commands) ← callback_of command.call s.lds status command.handle response
      .ok ((s.answer position { command, status, response }).issue command.handle lds commands)

/-- The lidar's parameter command that waits for its answer. -/
def ParamOutstanding (s : Session F) (handle : UInt32) (param : ConfigParam) : Prop :=
  ∃ command ∈ s.outstanding, command.handle = handle ∧ param_of command.call = some param

/-- The lidar has taken the parameter. -/
def Accepted (s : Session F) (handle : UInt32) (param : ConfigParam) : Prop :=
  ∃ answer ∈ s.answered, answer.command.handle = handle ∧
    param_of answer.command.call = some param ∧ answer.status = .kLivoxLidarStatusSuccess ∧
    ∃ response, answer.response = some response ∧ response.ret_code = 0

/-- A parameter command of the lidar has failed for another reason than time. -/
def ParamFailed (s : Session F) (handle : UInt32) : Prop :=
  ∃ answer ∈ s.answered, answer.command.handle = handle ∧
    (param_of answer.command.call).isSome = true ∧ answer.status ≠ .kLivoxLidarStatusSuccess ∧
    answer.status ≠ .kLivoxLidarStatusTimeout

/-- The lidar has not taken the parameter yet, or a command has failed. -/
def Unsettled (s : Session F) (handle : UInt32) (param : ConfigParam) : Prop :=
  s.ParamOutstanding handle param ∨ s.ParamFailed handle

instance (s : Session F) (handle : UInt32) (param : ConfigParam) :
    Decidable (s.Unsettled handle param) :=
  inferInstanceAs (Decidable ((∃ command ∈ s.outstanding, _ ∧ _) ∨ ∃ answer ∈ s.answered, _))

theorem paramOutstanding_issue_iff {s : Session F} {handle other : UInt32} {lds : LdsLidar F}
    {commands : List (ApiCommand F)} {param : ConfigParam} :
    (s.issue handle lds commands).ParamOutstanding other param ↔
      s.ParamOutstanding other param ∨
        ∃ command ∈ commands, command.handle = other ∧ param_of command.call = some param := by
  simp only [ParamOutstanding, issue, List.mem_append, or_and_right, exists_or]

theorem ParamOutstanding.of_answer {s : Session F} {position : Nat} {answer : Answer F}
    {handle : UInt32} {param : ConfigParam}
    (h : (s.answer position answer).ParamOutstanding handle param) :
    s.ParamOutstanding handle param := by
  obtain ⟨command, hmem, hrest⟩ := h
  exact ⟨command, List.mem_of_mem_eraseIdx hmem, hrest⟩

theorem unsettled_issue_iff {s : Session F} {handle other : UInt32} {lds : LdsLidar F}
    {commands : List (ApiCommand F)} {param : ConfigParam} :
    (s.issue handle lds commands).Unsettled other param ↔
      s.Unsettled other param ∨
        ∃ command ∈ commands, command.handle = other ∧ param_of command.call = some param := by
  have hfailed : (s.issue handle lds commands).ParamFailed other ↔ s.ParamFailed other := Iff.rfl
  rw [Unsettled, Unsettled, paramOutstanding_issue_iff, hfailed]
  exact or_right_comm

/-- An answer settles at most the parameter of its command. -/
theorem Unsettled.answer {s : Session F} {position : Nat} {answer : Answer F}
    (hposition : s.outstanding[position]? = some answer.command) {handle : UInt32}
    {param : ConfigParam} (h : s.Unsettled handle param) :
    (s.answer position answer).Unsettled handle param ∨
      answer.command.handle = handle ∧ param_of answer.command.call = some param := by
  rcases h with ⟨command, hmem, hhandle, hparam⟩ | ⟨earlier, hmem, hfailed⟩
  · obtain ⟨i, hi, hget⟩ := List.mem_iff_getElem.mp hmem
    by_cases heq : i = position
    · subst heq
      rw [List.getElem?_eq_getElem hi, hget] at hposition
      obtain rfl := Option.some.inj hposition
      exact Or.inr ⟨hhandle, hparam⟩
    · have hkept : command ∈ s.outstanding.eraseIdx position :=
        List.mem_eraseIdx_iff_getElem.mpr ⟨i, hi, heq, hget⟩
      exact Or.inl (Or.inl ⟨command, hkept, hhandle, hparam⟩)
  · exact Or.inl (Or.inr ⟨earlier, List.mem_append_left _ hmem, hfailed⟩)

/-- What is unsettled after an answer concerns a lidar with an unsettled
parameter before it. -/
theorem unsettled_of_answer {s : Session F} {position : Nat} {answer : Answer F}
    (hposition : s.outstanding[position]? = some answer.command) {handle : UInt32}
    {param : ConfigParam} (h : (s.answer position answer).Unsettled handle param) :
    ∃ earlier, s.Unsettled handle earlier := by
  rcases h with houtstanding | ⟨found, hmem, hhandle, hsome, hfailed⟩
  · exact ⟨param, Or.inl houtstanding.of_answer⟩
  · rcases List.mem_append.mp hmem with hold | hnew
    · exact ⟨param, Or.inr ⟨found, hold, hhandle, hsome, hfailed⟩⟩
    · obtain rfl := List.mem_singleton.mp hnew
      obtain ⟨earlier, hearlier⟩ := Option.isSome_iff_exists.mp hsome
      exact ⟨earlier, Or.inl ⟨_, List.mem_of_getElem? hposition, hhandle, hearlier⟩⟩

section Effect

variable [Zero F]

/-- What a step does to the session, in terms of the devices of the lidars. -/
inductive Effect (s : Session F) : SessionEvent → Session F → Prop where
  /-- A lidar of the table is reported and its stored configuration is sent. -/
  | configured {handle : UInt32} {device : LidarDevice F} {t : LdsLidar F}
      (hdevice : s.lds.device_of handle = some device)
      (hstored : s.lds.Stored handle (send_config device).1 t) :
      Effect s (.info_change handle) ((s.report handle).issue handle t
        (config_commands handle device.livox_config (send_config device).2))
  /-- A new lidar is reported and takes a free slot. -/
  | admitted {handle : UInt32} {t : LdsLidar F} (hnew : s.lds.device_of handle = none)
      (hroom : s.lds.cache_index.free_slot ≠ none)
      (hstored : s.lds.Stored handle (admitted_device F) t) :
      Effect s (.info_change handle) ((s.report handle).issue handle t (start_commands handle))
  /-- A new lidar is reported to a full table. -/
  | refused {handle : UInt32} (hnew : s.lds.device_of handle = none)
      (hfull : s.lds.cache_index.free_slot = none) :
      Effect s (.info_change handle) ((s.report handle).issue handle s.lds [])
  /-- No command waits at the position. -/
  | absent {position : Nat} {status : LivoxLidarStatus}
      {response : Option LivoxLidarAsyncControlResponse}
      (hposition : s.outstanding[position]? = none) : Effect s (.response position status response) s
  /-- A parameter command of a lidar without a device is answered. -/
  | unrouted {position : Nat} {answer : Answer F} {param : ConfigParam}
      (hposition : s.outstanding[position]? = some answer.command)
      (hparam : param_of answer.command.call = some param)
      (hnone : s.lds.device_of answer.command.handle = none) :
      Effect s (.response position answer.status answer.response)
        ((s.answer position answer).issue answer.command.handle s.lds [])
  /-- A parameter command succeeds and its bit is cleared. -/
  | cleared {position : Nat} {answer : Answer F} {param : ConfigParam} {device : LidarDevice F}
      {t : LdsLidar F} (hposition : s.outstanding[position]? = some answer.command)
      (hparam : param_of answer.command.call = some param)
      (hdevice : s.lds.device_of answer.command.handle = some device)
      (hstatus : answer.status = .kLivoxLidarStatusSuccess)
      (hstored : s.lds.Stored answer.command.handle
        (device.set_bits_clear param.code_bit).check_sampling t) :
      Effect s (.response position answer.status answer.response)
        ((s.answer position answer).issue answer.command.handle t [])
  /-- A parameter command runs out of time and the stored value is sent again. -/
  | retried {position : Nat} {answer : Answer F} {param : ConfigParam} {device : LidarDevice F}
      (hposition : s.outstanding[position]? = some answer.command)
      (hparam : param_of answer.command.call = some param)
      (hdevice : s.lds.device_of answer.command.handle = some device)
      (hstatus : answer.status = .kLivoxLidarStatusTimeout) :
      Effect s (.response position answer.status answer.response)
        ((s.answer position answer).issue answer.command.handle s.lds
          [{ handle := answer.command.handle, call := device.livox_config.api_call param }])
  /-- A parameter command fails otherwise and nothing follows. -/
  | failed {position : Nat} {answer : Answer F} {param : ConfigParam}
      (hposition : s.outstanding[position]? = some answer.command)
      (hparam : param_of answer.command.call = some param)
      (hsuccess : answer.status ≠ .kLivoxLidarStatusSuccess)
      (htimeout : answer.status ≠ .kLivoxLidarStatusTimeout) :
      Effect s (.response position answer.status answer.response)
        ((s.answer position answer).issue answer.command.handle s.lds [])
  /-- Another command is answered. -/
  | other {position : Nat} {answer : Answer F} {commands : List (ApiCommand F)}
      (hposition : s.outstanding[position]? = some answer.command)
      (hparam : param_of answer.command.call = none)
      (hcommands : ∀ command ∈ commands, param_of command.call = none ∧
        (configures command.call = true → configures answer.command.call = true ∧
          ∃ device, s.lds.device_of answer.command.handle = some device ∧
            command.handle = device.livox_config.handle)) :
      Effect s (.response position answer.status answer.response)
        ((s.answer position answer).issue answer.command.handle s.lds commands)

theorem effect_of_response {s : Session F} (h : s.lds.Registry) {position : Nat}
    (answer : Answer F) {lds : LdsLidar F} {commands : List (ApiCommand F)}
    (hposition : s.outstanding[position]? = some answer.command)
    (hcallback : callback_of answer.command.call s.lds answer.status answer.command.handle
      answer.response = .ok (lds, commands)) :
    Effect s (.response position answer.status answer.response)
      ((s.answer position answer).issue answer.command.handle lds commands) := by
  cases hparam : param_of answer.command.call with
  | none =>
    obtain ⟨rfl, hcommands⟩ := other_callback_spec h hparam hcallback
    exact .other hposition hparam hcommands
  | some param =>
    rw [callback_of_param hparam] at hcallback
    cases hdevice : s.lds.device_of answer.command.handle with
    | none =>
      rw [param_callback_without_device h hdevice] at hcallback
      cases hcallback
      exact .unrouted hposition hparam hdevice
    | some device =>
      by_cases hsuccess : answer.status = .kLivoxLidarStatusSuccess
      · obtain ⟨t, hcleared, hstored⟩ := param_callback_success h param
          (fun config => config.api_call param) answer.response hdevice
        rw [hsuccess, hcleared] at hcallback
        cases hcallback
        exact .cleared hposition hparam hdevice hsuccess hstored
      · by_cases htimeout : answer.status = .kLivoxLidarStatusTimeout
        · rw [htimeout, param_callback_timeout h hdevice] at hcallback
          cases hcallback
          exact .retried hposition hparam hdevice htimeout
        · obtain ⟨rfl, rfl⟩ := param_callback_failure hsuccess htimeout hcallback
          exact .failed hposition hparam hsuccess htimeout

/-- Every step has one of these effects. -/
theorem effect_of_step {s t : Session F} {event : SessionEvent} (h : s.lds.Registry)
    (hstep : s.step event = .ok t) : Effect s event t := by
  cases event with
  | info_change handle =>
    simp only [step] at hstep
    cases hdevice : s.lds.device_of handle with
    | some device =>
      obtain ⟨lds, hcallback, hstored⟩ := info_change_of_device h hdevice
      simp only [hcallback, ok_bind] at hstep
      cases hstep
      exact .configured hdevice hstored
    | none =>
      by_cases hfull : s.lds.cache_index.free_slot = none
      · simp only [info_change_of_full h hdevice hfull, ok_bind] at hstep
        cases hstep
        exact .refused hdevice hfull
      · obtain ⟨lds, hcallback, hstored⟩ := info_change_of_new h hdevice hfull
        simp only [hcallback, ok_bind] at hstep
        cases hstep
        exact .admitted hdevice hfull hstored
  | response position status response =>
    simp only [step] at hstep
    cases hposition : s.outstanding[position]? with
    | none =>
      simp only [hposition] at hstep
      cases hstep
      exact .absent hposition
    | some command =>
      simp only [hposition] at hstep
      obtain ⟨⟨lds, commands⟩, hcallback, hrest⟩ := bind_eq_ok_iff.mp hstep
      cases hrest
      exact effect_of_response h ⟨command, status, response⟩ hposition hcallback

/-- The handles of the user's `lidar_configs`. -/
def user_handles (user_configs : List (UserLivoxLidarConfig F)) : List UInt32 :=
  user_configs.map UserLivoxLidarConfig.handle

omit [Zero F] in
theorem mem_user_handles {user_configs : List (UserLivoxLidarConfig F)} {handle : UInt32}
    {config : UserLivoxLidarConfig F} (h : LdsLidar.last_config user_configs handle = some config) :
    handle ∈ user_handles user_configs := by
  obtain ⟨hmem, rfl⟩ := LdsLidar.last_config_mem h
  exact List.mem_map_of_mem hmem

/-- What the registration at start-up has established and no callback changes:
a configured lidar without a device came too late for a slot, and one with a
device has its own configuration stored in it. -/
structure Served (user_configs : List (UserLivoxLidarConfig F)) (s : Session F) : Prop where
  registry : s.lds.Registry
  config : ∀ handle ∈ user_handles user_configs, ∀ device, s.lds.device_of handle = some device →
    ∃ config, LdsLidar.last_config user_configs handle = some config ∧
      (LdsLidar.fill_in config (LidarDevice.zero F)).SameConfig device
  present : ∀ handle ∈ user_handles user_configs,
    s.lds.device_of handle ≠ none ∨ s.lds.cache_index.free_slot = none

theorem start_served {user_configs : List (UserLivoxLidarConfig F)} {lds : LdsLidar F}
    (h : lds.Filled user_configs) : (start lds).Served user_configs where
  registry := h.registry
  config := by
    intro handle _ device hdevice
    obtain ⟨config, hconfig, rfl⟩ := h.device handle device hdevice
    exact ⟨config, hconfig, .refl _⟩
  present := by
    intro handle hmem
    obtain ⟨config, hconfig, rfl⟩ := List.mem_map.mp hmem
    exact h.present config hconfig

theorem Served.handle {user_configs : List (UserLivoxLidarConfig F)} {s : Session F}
    (h : s.Served user_configs) {handle : UInt32} (huser : handle ∈ user_handles user_configs)
    {device : LidarDevice F} (hdevice : s.lds.device_of handle = some device) :
    device.livox_config.handle = handle := by
  obtain ⟨config, hconfig, hsame⟩ := h.config handle huser device hdevice
  exact hsame.handle.trans (LdsLidar.last_config_mem hconfig).2

/-- Storing for a lidar a device that keeps its configuration. -/
theorem Served.stored {user_configs : List (UserLivoxLidarConfig F)} {s : Session F}
    (h : s.Served user_configs) {handle : UInt32} {before after : LidarDevice F} {t : Session F}
    (hbefore : s.lds.device_of handle = some before) (hsame : before.SameConfig after)
    (hstored : s.lds.Stored handle after t.lds) : t.Served user_configs where
  registry := hstored.registry
  config := by
    intro other hmem device hdevice
    rw [hstored.device_of] at hdevice
    split at hdevice
    · rename_i heq
      subst heq
      obtain rfl := Option.some.inj hdevice
      obtain ⟨config, hconfig, hstart⟩ := h.config other hmem before hbefore
      exact ⟨config, hconfig, hstart.trans hsame⟩
    · exact h.config other hmem device hdevice
  present := by
    intro other hmem
    rw [hstored.device_of]
    split
    · exact Or.inl (by simp)
    · exact (h.present other hmem).imp_right hstored.full

/-- A lidar that is admitted has no configuration of the user. -/
theorem Served.not_configured {user_configs : List (UserLivoxLidarConfig F)} {s : Session F}
    (h : s.Served user_configs) {handle : UInt32} (hnew : s.lds.device_of handle = none)
    (hroom : s.lds.cache_index.free_slot ≠ none) : handle ∉ user_handles user_configs :=
  fun hmem => (h.present handle hmem).elim (fun hdevice => hdevice hnew) hroom

theorem Served.admitted {user_configs : List (UserLivoxLidarConfig F)} {s t : Session F}
    (h : s.Served user_configs) {handle : UInt32} {device : LidarDevice F}
    (hunconfigured : handle ∉ user_handles user_configs)
    (hstored : s.lds.Stored handle device t.lds) : t.Served user_configs where
  registry := hstored.registry
  config := by
    intro other hmem found hfound
    have hne : other ≠ handle := fun heq => hunconfigured (heq ▸ hmem)
    rw [hstored.device_of, if_neg hne] at hfound
    exact h.config other hmem found hfound
  present := by
    intro other hmem
    have hne : other ≠ handle := fun heq => hunconfigured (heq ▸ hmem)
    rw [hstored.device_of, if_neg hne]
    exact (h.present other hmem).imp_right hstored.full

theorem Effect.served {user_configs : List (UserLivoxLidarConfig F)} {s t : Session F}
    {event : SessionEvent} (h : s.Served user_configs) (heffect : Effect s event t) :
    t.Served user_configs := by
  cases heffect with
  | configured hdevice hstored => exact h.stored hdevice (send_config_same _) hstored
  | admitted hnew hroom hstored => exact h.admitted (h.not_configured hnew hroom) hstored
  | cleared hposition hparam hdevice hstatus hstored =>
    exact h.stored hdevice (clear_param_same _ _) hstored
  | refused hnew hfull => exact ⟨h.registry, h.config, h.present⟩
  | absent hposition => exact h
  | unrouted hposition hparam hnone => exact ⟨h.registry, h.config, h.present⟩
  | retried hposition hparam hdevice hstatus => exact ⟨h.registry, h.config, h.present⟩
  | failed hposition hparam hsuccess htimeout => exact ⟨h.registry, h.config, h.present⟩
  | other hposition hparam hcommands => exact ⟨h.registry, h.config, h.present⟩

/-- A step keeps the registration, and every invariant that its effects keep
under the guard. -/
theorem Served.step {user_configs : List (UserLivoxLidarConfig F)} {inv : Session F → Prop}
    {guard : Session F → SessionEvent → Prop}
    (hinv : ∀ s event t, s.Served user_configs → inv s → guard s event → Effect s event t → inv t)
    (s : Session F) (event : SessionEvent) (t : Session F) (h : s.Served user_configs ∧ inv s)
    (hguard : guard s event) (hstep : s.step event = .ok t) : t.Served user_configs ∧ inv t := by
  have heffect := effect_of_step h.1.registry hstep
  exact ⟨heffect.served h.1, hinv s event t h.1 h.2 hguard heffect⟩

end Effect

end Session

end livox_ros
