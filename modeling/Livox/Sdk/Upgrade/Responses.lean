import Livox.Sdk.Upgrade.LivoxLidarUpgrader

namespace livox_lidar

/-- The state in which the upgrader waits for the answer to a request. -/
def Request.state : Request → LivoxLidarFsmState
  | livox_lidar_start_upgrade _ | livox_lidar_start_upgrade_v3 _ => .kLivoxLidarUpgradeRequest
  | livox_lidar_xfer_firmware _ => .kLivoxLidarUpgradeXferFirmware
  | livox_lidar_complete_xfer_firmware _ => .kLivoxLidarUpgradeCompleteXferFirmware
  | livox_lidar_get_upgrade_progress => .kLivoxLidarUpgradeGetUpgradeProgress
  | livox_lidar_request_reboot _ => .kLivoxLidarUpgradeComplete

/-- The event handler that makes the request. -/
def Request.handler : Request → FnFsmEvent
  | livox_lidar_start_upgrade _ | livox_lidar_start_upgrade_v3 _ => .start_upgrade
  | livox_lidar_xfer_firmware _ => .xfer_firmware
  | livox_lidar_complete_xfer_firmware _ => .complete_xfer_firmware
  | livox_lidar_get_upgrade_progress => .get_upgrade_progress
  | livox_lidar_request_reboot _ => .upgrade_complete

/-- The event with which the request is made again. -/
def Request.event : Request → LivoxLidarFsmEvent
  | livox_lidar_start_upgrade _ | livox_lidar_start_upgrade_v3 _ =>
    .kLivoxLidarEventRequestUpgrade
  | livox_lidar_xfer_firmware _ => .kLivoxLidarEventXferFirmware
  | livox_lidar_complete_xfer_firmware _ => .kLivoxLidarEventCompleteXferFirmware
  | livox_lidar_get_upgrade_progress => .kLivoxLidarEventGetUpgradeProgress
  | livox_lidar_request_reboot _ => .kLivoxLidarEventComplete

/-- How many times in a row the request may fail. -/
def Request.try_count_limit : Request → UInt32
  | livox_lidar_get_upgrade_progress => kGetProcessTryCountLimit
  | _ => kGeneralTryCountLimit

/-- Where the upgrade ends when the request has failed too often: the reboot is given up as
if it had been done. -/
def Request.given_up : Request → LivoxLidarFsmState
  | livox_lidar_request_reboot _ => .kLivoxLidarUpgradeIdle
  | _ => .kLivoxLidarUpgradeErr

namespace LivoxLidarUpgrader

/-- All that an answer can do to an upgrader that waits for it. -/
inductive Answered (u : LivoxLidarUpgrader) :
    Request → LivoxLidarStatus → Response → LivoxLidarUpgrader → Option Request → Prop where
  | retried {request status response} :
    status ≠ .kLivoxLidarStatusSuccess → u.try_count + 1 < request.try_count_limit →
      Answered u request status response { u with try_count := u.try_count + 1 } (some request)
  | given_up {request status response} :
    status ≠ .kLivoxLidarStatusSuccess → ¬ u.try_count + 1 < request.try_count_limit →
      Answered u request status response
        { u with try_count := 0, fsm_state := request.given_up } none
  | refused {request response} :
    response.ret_code ≠ 0 →
      (request.state = .kLivoxLidarUpgradeRequest →
        response.ret_code ≠ kSystemIsNotReady ∧ response.ret_code ≠ EraseFirmware) →
      Answered u request .kLivoxLidarStatusSuccess response
        { u with try_count := 0, fsm_state := .kLivoxLidarUpgradeErr } none
  | busy {request response} :
    response.ret_code = kSystemIsNotReady ∨ response.ret_code = EraseFirmware →
      request.state = .kLivoxLidarUpgradeRequest →
      Answered u request .kLivoxLidarStatusSuccess response { u with try_count := 0 } (some request)
  | granted {request response v} :
    response.ret_code = 0 → request.state = .kLivoxLidarUpgradeRequest →
      v = { u with try_count := 0, fsm_state := .kLivoxLidarUpgradeXferFirmware } →
      Answered u request .kLivoxLidarStatusSuccess response v.xfer_firmware.1 v.xfer_firmware.2
  | acked {chunk response v} :
    response.ret_code = 0 →
      v = { u with try_count := 0, read_offset := u.read_offset + u.read_length } →
      v.read_offset < v.firmware.header.firmware_length →
      Answered u (.livox_lidar_xfer_firmware chunk) .kLivoxLidarStatusSuccess response v
        (some (.livox_lidar_xfer_firmware v.xfer_firmware_request))
  | covered {chunk response v} :
    response.ret_code = 0 →
      v = { u with
        try_count := 0
        read_offset := u.read_offset + u.read_length
        fsm_state := .kLivoxLidarUpgradeCompleteXferFirmware } →
      ¬ v.read_offset < v.firmware.header.firmware_length →
      Answered u (.livox_lidar_xfer_firmware chunk) .kLivoxLidarStatusSuccess response v
        (some (.livox_lidar_complete_xfer_firmware v.complete_xfer_firmware_request))
  | completed {checksum response} :
    response.ret_code = 0 →
      Answered u (.livox_lidar_complete_xfer_firmware checksum) .kLivoxLidarStatusSuccess response
        { u with try_count := 0, fsm_state := .kLivoxLidarUpgradeGetUpgradeProgress }
        (some .livox_lidar_get_upgrade_progress)
  | progressing {response} :
    response.ret_code = 0 → response.progress < 100 →
      Answered u .livox_lidar_get_upgrade_progress .kLivoxLidarStatusSuccess response
        { u with try_count := 0 } (some .livox_lidar_get_upgrade_progress)
  | upgraded {response} :
    response.ret_code = 0 → ¬ response.progress < 100 →
      Answered u .livox_lidar_get_upgrade_progress .kLivoxLidarStatusSuccess response
        { u with try_count := 0, fsm_state := .kLivoxLidarUpgradeComplete }
        (some (.livox_lidar_request_reboot { timeout := 100 }))
  | rebooted {reboot response} :
    response.ret_code = 0 →
      Answered u (.livox_lidar_request_reboot reboot) .kLivoxLidarStatusSuccess response
        { u with try_count := 0, fsm_state := .kLivoxLidarUpgradeIdle } none

variable {u : LivoxLidarUpgrader} {request : Request} {status : LivoxLidarStatus}
  {response : Response}

/-- The upgrader waits for the answer to the request: to make it once more would change
nothing, and give the same request. -/
def Awaits (u : LivoxLidarUpgrader) (request : Request) : Prop :=
  u.fsm_state = request.state ∧ u.call (some request.handler) = (u, some request)

section Table

/-- An event of the table in its state. -/
theorem fsm_event_handler_of_mem {state next : LivoxLidarFsmState} {event : LivoxLidarFsmEvent}
    {handler : Option FnFsmEvent} (hrow : ⟨state, event, handler, next⟩ ∈ upgrade_event_table)
    (hstate : u.fsm_state = state) (progress : UInt8) :
    u.fsm_event_handler event progress =
      ⟨({ u with fsm_state := next }.call handler).1, ({ u with fsm_state := next }.call handler).2,
        ⟨event, progress⟩⟩ := by
  subst hstate
  simp only [upgrade_event_table, List.mem_cons, FsmEventTable.mk.injEq, List.not_mem_nil,
    or_false] at hrow
  rcases hrow with ⟨hstate, rfl, rfl, rfl⟩ | ⟨hstate, rfl, rfl, rfl⟩ | ⟨hstate, rfl, rfl, rfl⟩ |
    ⟨hstate, rfl, rfl, rfl⟩ | ⟨hstate, rfl, rfl, rfl⟩ | ⟨hstate, rfl, rfl, rfl⟩ |
    ⟨hstate, rfl, rfl, rfl⟩ | ⟨hstate, rfl, rfl, rfl⟩ | ⟨hstate, rfl, rfl, rfl⟩ |
    ⟨hstate, rfl, rfl, rfl⟩ | ⟨hstate, rfl, rfl, rfl⟩
  all_goals simp [fsm_event_handler, upgrade_event_table, hstate]

/-- An error ends the upgrade in every state. -/
theorem fsm_event_handler_err (u : LivoxLidarUpgrader) (progress : UInt8) :
    u.fsm_event_handler .kLivoxLidarEventErr progress =
      ⟨{ u with fsm_state := .kLivoxLidarUpgradeErr }, none,
        ⟨.kLivoxLidarEventErr, progress⟩⟩ := by
  simp [fsm_event_handler, livox_lidar_fsm_state_change, LivoxLidarFsmEvent.as_state,
    upgrade_event_table]

/-- No event handler changes the state. -/
theorem call_fsm_state (u : LivoxLidarUpgrader) (handler : Option FnFsmEvent) :
    (u.call handler).1.fsm_state = u.fsm_state := by
  cases handler with
  | none => rfl
  | some handler =>
    cases handler with
    | xfer_firmware =>
      simp only [call, xfer_firmware]
      split <;> rfl
    | start_upgrade | complete_xfer_firmware | get_upgrade_progress | upgrade_complete => rfl

/-- Only the last row of the table leads back to where the upgrade began. -/
theorem reinit_of_next_idle : ∀ row ∈ upgrade_event_table,
    row.next_state = .kLivoxLidarUpgradeIdle →
      row.state = .kLivoxLidarUpgradeComplete ∧ row.event = .kLivoxLidarEventReinit := by
  decide

/-- An event that leaves the upgrade complete found it so, or reinitialises it. -/
theorem complete_of_fsm_event_handler {event : LivoxLidarFsmEvent} {progress : UInt8}
    (hcomplete : (u.fsm_event_handler event progress).upgrader.IsUpgradeComplete) :
    u.IsUpgradeComplete ∨
      u.fsm_state = .kLivoxLidarUpgradeComplete ∧ event = .kLivoxLidarEventReinit := by
  unfold IsUpgradeComplete fsm_event_handler at *
  by_cases hfail : event = .kLivoxLidarEventTimeout ∨ event = .kLivoxLidarEventErr
  · obtain rfl | rfl := hfail <;>
      simp [livox_lidar_fsm_state_change, LivoxLidarFsmEvent.as_state, upgrade_event_table]
        at hcomplete
  · simp only [if_neg hfail] at hcomplete
    split at hcomplete
    · exact Or.inl hcomplete
    · rename_i row hfind
      have hmatches : u.fsm_state = row.state ∧ event = row.event := by
        simpa using List.find?_some hfind
      rw [call_fsm_state] at hcomplete
      have hrow := reinit_of_next_idle row (List.mem_of_find?_eq_some hfind) hcomplete
      exact Or.inr ⟨hmatches.1.trans hrow.1, hmatches.2.trans hrow.2⟩

theorem observed_of_fsm_event_handler (u : LivoxLidarUpgrader) (event : LivoxLidarFsmEvent)
    (progress : UInt8) : (u.fsm_event_handler event progress).observed = ⟨event, progress⟩ := by
  unfold fsm_event_handler
  dsimp only
  split <;> rfl

end Table

/-- An upgrader that waits has not come to its end. -/
theorem Awaits.not_ended (h : u.Awaits request) : ¬ u.IsUpgradeComplete ∧ ¬ u.IsUpgradeError := by
  unfold IsUpgradeComplete IsUpgradeError
  rw [h.1]
  cases request <;> simp [Request.state]

section Again

/-- The counter plays no part in the requests. -/
theorem call_with_try_count (u : LivoxLidarUpgrader) (try_count : UInt32)
    (handler : Option FnFsmEvent) :
    ({ u with try_count } : LivoxLidarUpgrader).call handler =
      ({ (u.call handler).1 with try_count }, (u.call handler).2) := by
  cases handler with
  | none => rfl
  | some handler =>
    cases handler with
    | xfer_firmware =>
      simp only [call, xfer_firmware]
      split <;> rfl
    | start_upgrade | complete_xfer_firmware | get_upgrade_progress | upgrade_complete => rfl

theorem Awaits.with_try_count (h : u.Awaits request) (try_count : UInt32) :
    ({ u with try_count } : LivoxLidarUpgrader).Awaits request := by
  refine ⟨h.1, ?_⟩
  rw [call_with_try_count, h.2]

theorem again_mem (request : Request) :
    ⟨request.state, request.event, some request.handler, request.state⟩ ∈ upgrade_event_table := by
  cases request <;> simp [upgrade_event_table, Request.state, Request.event, Request.handler]

theorem Awaits.again (h : u.Awaits request) (progress : UInt8) :
    u.fsm_event_handler request.event progress = ⟨u, some request, ⟨request.event, progress⟩⟩ := by
  have hsame : ({ u with fsm_state := request.state } : LivoxLidarUpgrader) = u := by
    rw [← h.1]
  rw [fsm_event_handler_of_mem (again_mem request) h.1, hsame, h.2]

/-- Where an upgrader waits that has just made a request. -/
theorem awaits_start (hstate : u.fsm_state = .kLivoxLidarUpgradeRequest) :
    u.start_upgrade.1.Awaits u.start_upgrade_request := by
  unfold Awaits start_upgrade_request
  split
  · exact ⟨hstate, by simp [call, start_upgrade, start_upgrade_request, Request.handler, *]⟩
  · exact ⟨hstate, by simp [call, start_upgrade, start_upgrade_request, Request.handler, *]⟩

theorem start_upgrade_request_state (u : LivoxLidarUpgrader) :
    u.start_upgrade_request.state = .kLivoxLidarUpgradeRequest := by
  unfold start_upgrade_request
  split <;> rfl

/-- The start thread makes the request to start. -/
theorem construct_starts (firmware : Firmware) (handle : UInt32) (progress : UInt8) :
    (construct firmware handle).fsm_event_handler .kLivoxLidarEventRequestUpgrade progress =
      ⟨{ construct firmware handle with fsm_state := .kLivoxLidarUpgradeRequest },
        some (construct firmware handle).start_upgrade_request,
        ⟨.kLivoxLidarEventRequestUpgrade, progress⟩⟩ := by
  have hrow : ⟨.kLivoxLidarUpgradeIdle, .kLivoxLidarEventRequestUpgrade, some .start_upgrade,
      .kLivoxLidarUpgradeRequest⟩ ∈ upgrade_event_table := by
    simp [upgrade_event_table]
  exact fsm_event_handler_of_mem hrow rfl progress

theorem construct_awaits (firmware : Firmware) (handle : UInt32) :
    ({ construct firmware handle with
      fsm_state := .kLivoxLidarUpgradeRequest } : LivoxLidarUpgrader).Awaits
        (construct firmware handle).start_upgrade_request :=
  @awaits_start { construct firmware handle with fsm_state := .kLivoxLidarUpgradeRequest } rfl

theorem awaits_xfer (hstate : u.fsm_state = .kLivoxLidarUpgradeXferFirmware)
    (hoffset : u.read_offset < u.firmware.header.firmware_length) :
    u.Awaits (.livox_lidar_xfer_firmware u.xfer_firmware_request) :=
  ⟨hstate, if_pos hoffset⟩

theorem awaits_complete_xfer (hstate : u.fsm_state = .kLivoxLidarUpgradeCompleteXferFirmware) :
    u.Awaits (.livox_lidar_complete_xfer_firmware u.complete_xfer_firmware_request) :=
  ⟨hstate, rfl⟩

theorem awaits_progress (hstate : u.fsm_state = .kLivoxLidarUpgradeGetUpgradeProgress) :
    u.Awaits .livox_lidar_get_upgrade_progress :=
  ⟨hstate, rfl⟩

theorem awaits_reboot (hstate : u.fsm_state = .kLivoxLidarUpgradeComplete) :
    u.Awaits (.livox_lidar_request_reboot { timeout := 100 }) :=
  ⟨hstate, rfl⟩

end Again

section Responses

/-- What the handlers do with a status that is not a success. -/
theorem respond_failed (u : LivoxLidarUpgrader) (request : Request) (response : Response)
    (hstatus : status ≠ .kLivoxLidarStatusSuccess) :
    ∃ progress give_up,
      (give_up = .kLivoxLidarEventErr ∧ request.given_up = .kLivoxLidarUpgradeErr ∨
        give_up = .kLivoxLidarEventReinit ∧ request.state = .kLivoxLidarUpgradeComplete ∧
          request.given_up = .kLivoxLidarUpgradeIdle) ∧
      u.respond request status response =
        if u.try_count + 1 < request.try_count_limit then
          ({ u with try_count := u.try_count + 1 } : LivoxLidarUpgrader).fsm_event_handler
            request.event progress
        else
          ({ u with try_count := 0 } : LivoxLidarUpgrader).fsm_event_handler give_up 100 := by
  cases request with
  | livox_lidar_request_reboot reboot =>
    exact ⟨_, _, Or.inr ⟨rfl, rfl, rfl⟩, if_neg hstatus⟩
  | livox_lidar_start_upgrade start | livox_lidar_start_upgrade_v3 start
  | livox_lidar_xfer_firmware chunk | livox_lidar_complete_xfer_firmware checksum
  | livox_lidar_get_upgrade_progress =>
    exact ⟨_, _, Or.inl ⟨rfl, rfl⟩, if_neg hstatus⟩

theorem Awaits.answered_failed (h : u.Awaits request) (response : Response)
    (hstatus : status ≠ .kLivoxLidarStatusSuccess) :
    u.Answered request status response (u.respond request status response).upgrader
      (u.respond request status response).request := by
  obtain ⟨progress, give_up, hgive, heq⟩ := respond_failed u request response hstatus
  rw [heq]
  split
  · rename_i hbelow
    rw [(h.with_try_count _).again]
    exact .retried hstatus hbelow
  · rename_i hlimit
    obtain ⟨rfl, hgiven⟩ | ⟨rfl, hstate, hgiven⟩ := hgive
    · rw [fsm_event_handler_err, ← hgiven]
      exact .given_up hstatus hlimit
    · have hrow : ⟨.kLivoxLidarUpgradeComplete, .kLivoxLidarEventReinit, none,
          .kLivoxLidarUpgradeIdle⟩ ∈ upgrade_event_table := by
        simp [upgrade_event_table]
      rw [fsm_event_handler_of_mem hrow ((h.with_try_count 0).1.trans hstate), ← hgiven]
      exact .given_up hstatus hlimit

theorem Awaits.answered_refused (h : u.Awaits request) (hcode : response.ret_code ≠ 0) :
    u.Answered request .kLivoxLidarStatusSuccess response
      (u.respond request .kLivoxLidarStatusSuccess response).upgrader
      (u.respond request .kLivoxLidarStatusSuccess response).request := by
  by_cases hstart : request.state = .kLivoxLidarUpgradeRequest ∧
      (response.ret_code = kSystemIsNotReady ∨ response.ret_code = EraseFirmware)
  · have heq : u.respond request .kLivoxLidarStatusSuccess response =
        ({ u with try_count := 0 } : LivoxLidarUpgrader).fsm_event_handler request.event 10 := by
      obtain ⟨hstate, hbusy⟩ := hstart
      cases request with
      | livox_lidar_start_upgrade start | livox_lidar_start_upgrade_v3 start =>
        simp only [respond, start_upgrade_response_handler, response_handler, if_true, if_pos hcode]
        obtain hready | herase := hbusy
        · rw [if_pos hready]
          rfl
        · rw [if_pos herase, ite_self]
          rfl
      | livox_lidar_xfer_firmware chunk | livox_lidar_complete_xfer_firmware checksum
      | livox_lidar_get_upgrade_progress | livox_lidar_request_reboot reboot => cases hstate
    rw [heq, (h.with_try_count 0).again]
    exact .busy hstart.2 hstart.1
  · have heq : u.respond request .kLivoxLidarStatusSuccess response =
        ({ u with try_count := 0 } : LivoxLidarUpgrader).fsm_event_handler .kLivoxLidarEventErr
          100 := by
      cases request with
      | livox_lidar_start_upgrade start | livox_lidar_start_upgrade_v3 start =>
        simp only [Request.state, true_and, not_or] at hstart
        simp only [respond, start_upgrade_response_handler, response_handler, if_true, if_pos hcode,
          if_neg hstart.1, if_neg hstart.2]
      | livox_lidar_xfer_firmware chunk | livox_lidar_complete_xfer_firmware checksum
      | livox_lidar_get_upgrade_progress | livox_lidar_request_reboot reboot =>
        exact if_pos hcode
    rw [heq, fsm_event_handler_err]
    exact .refused hcode fun hstate => not_or.mp fun hbusy => hstart ⟨hstate, hbusy⟩

theorem Awaits.answered_accepted (h : u.Awaits request) (hcode : response.ret_code = 0) :
    u.Answered request .kLivoxLidarStatusSuccess response
      (u.respond request .kLivoxLidarStatusSuccess response).upgrader
      (u.respond request .kLivoxLidarStatusSuccess response).request := by
  have hzero : ¬ response.ret_code ≠ 0 := not_not.mpr hcode
  cases request with
  | livox_lidar_start_upgrade start | livox_lidar_start_upgrade_v3 start =>
    have hrow : ⟨.kLivoxLidarUpgradeRequest, .kLivoxLidarEventXferFirmware, some .xfer_firmware,
        .kLivoxLidarUpgradeXferFirmware⟩ ∈ upgrade_event_table := by
      simp [upgrade_event_table]
    simp only [respond, start_upgrade_response_handler, response_handler, if_true, if_neg hzero]
    rw [fsm_event_handler_of_mem hrow (h.with_try_count 0).1]
    exact .granted hcode rfl rfl
  | livox_lidar_xfer_firmware chunk =>
    simp only [respond, xfer_firmware_response_handler, response_handler, if_true, if_neg hzero]
    have hstate : ({ u with
        read_offset := u.read_offset + u.read_length
        try_count := 0 } : LivoxLidarUpgrader).fsm_state = .kLivoxLidarUpgradeXferFirmware := h.1
    split
    · rename_i hmore
      have hrow : ⟨.kLivoxLidarUpgradeXferFirmware, .kLivoxLidarEventXferFirmware,
          some .xfer_firmware, .kLivoxLidarUpgradeXferFirmware⟩ ∈ upgrade_event_table := by
        simp [upgrade_event_table]
      rw [fsm_event_handler_of_mem hrow hstate]
      simp only [call, xfer_firmware, if_pos hmore]
      exact .acked hcode (by rw [h.1]; rfl) hmore
    · rename_i hdone
      have hrow : ⟨.kLivoxLidarUpgradeXferFirmware, .kLivoxLidarEventCompleteXferFirmware,
          some .complete_xfer_firmware, .kLivoxLidarUpgradeCompleteXferFirmware⟩ ∈
            upgrade_event_table := by
        simp [upgrade_event_table]
      rw [fsm_event_handler_of_mem hrow hstate]
      exact .covered hcode rfl hdone
  | livox_lidar_complete_xfer_firmware checksum =>
    have hrow : ⟨.kLivoxLidarUpgradeCompleteXferFirmware, .kLivoxLidarEventGetUpgradeProgress,
        some .get_upgrade_progress, .kLivoxLidarUpgradeGetUpgradeProgress⟩ ∈
          upgrade_event_table := by
      simp [upgrade_event_table]
    simp only [respond, complete_xfer_firmware_response_handler, response_handler, if_true,
      if_neg hzero]
    rw [fsm_event_handler_of_mem hrow (h.with_try_count 0).1]
    exact .completed hcode
  | livox_lidar_get_upgrade_progress =>
    simp only [respond, get_progress_response_handler, response_handler, if_true, if_neg hzero]
    split
    · rename_i hless
      have hagain := (h.with_try_count 0).again (response.progress / 2 + 50)
      rw [Request.event] at hagain
      rw [hagain]
      exact .progressing hcode hless
    · rename_i hdone
      have hrow : ⟨.kLivoxLidarUpgradeGetUpgradeProgress, .kLivoxLidarEventComplete,
          some .upgrade_complete, .kLivoxLidarUpgradeComplete⟩ ∈ upgrade_event_table := by
        simp [upgrade_event_table]
      rw [fsm_event_handler_of_mem hrow (h.with_try_count 0).1]
      exact .upgraded hcode hdone
  | livox_lidar_request_reboot reboot =>
    have hrow : ⟨.kLivoxLidarUpgradeComplete, .kLivoxLidarEventReinit, none,
        .kLivoxLidarUpgradeIdle⟩ ∈ upgrade_event_table := by
      simp [upgrade_event_table]
    simp only [respond, upgrade_complete_response_handler, response_handler, if_true, if_neg hzero]
    rw [fsm_event_handler_of_mem hrow (h.with_try_count 0).1]
    exact .rebooted hcode

/-- Each answer to the request that the upgrader waits for does one of these. -/
theorem Awaits.answered (h : u.Awaits request) (status : LivoxLidarStatus) (response : Response) :
    u.Answered request status response (u.respond request status response).upgrader
      (u.respond request status response).request := by
  by_cases hstatus : status = .kLivoxLidarStatusSuccess
  · subst hstatus
    by_cases hcode : response.ret_code = 0
    · exact h.answered_accepted hcode
    · exact h.answered_refused hcode
  · exact h.answered_failed response hstatus

/-- A response handler handles one event, in the state in which it is called. -/
theorem respond_handles (u : LivoxLidarUpgrader) (request : Request) (status : LivoxLidarStatus)
    (response : Response) :
    ∃ (v : LivoxLidarUpgrader) (event : LivoxLidarFsmEvent) (progress : UInt8),
      v.fsm_state = u.fsm_state ∧
        u.respond request status response = v.fsm_event_handler event progress := by
  cases request
  all_goals
    simp only [respond, start_upgrade_response_handler, xfer_firmware_response_handler,
      complete_xfer_firmware_response_handler, get_progress_response_handler,
      upgrade_complete_response_handler, response_handler]
    split_ifs
    all_goals
      refine ⟨_, _, _, ?_, rfl⟩
      rfl

/-- An answer that leaves the upgrade complete found it so, or reinitialises it. -/
theorem complete_of_respond
    (hcomplete : (u.respond request status response).upgrader.IsUpgradeComplete) :
    u.IsUpgradeComplete ∨ u.fsm_state = .kLivoxLidarUpgradeComplete ∧
      (u.respond request status response).observed.state = .kLivoxLidarEventReinit := by
  obtain ⟨v, event, progress, hstate, heq⟩ := respond_handles u request status response
  rw [heq] at hcomplete ⊢
  rw [observed_of_fsm_event_handler, ← hstate]
  obtain hbefore | hreinit := complete_of_fsm_event_handler hcomplete
  · exact Or.inl (hstate.symm.trans hbefore)
  · exact Or.inr hreinit

end Responses

section Answers

variable {v : LivoxLidarUpgrader} {next : Option Request}

/-- A request to start has set the upgrader back. -/
theorem Awaits.read_offset_of_start (h : u.Awaits request)
    (hstate : request.state = .kLivoxLidarUpgradeRequest) : u.read_offset = 0 := by
  have hcall : u.start_upgrade.1 = u := by
    cases request with
    | livox_lidar_start_upgrade start | livox_lidar_start_upgrade_v3 start =>
      exact congrArg Prod.fst h.2
    | livox_lidar_xfer_firmware chunk | livox_lidar_complete_xfer_firmware checksum
    | livox_lidar_get_upgrade_progress | livox_lidar_request_reboot reboot => cases hstate
  rw [← hcall]
  rfl

/-- A chunk that has been sent lies before the end of the image. -/
theorem Awaits.chunk {chunk : LivoxLidarXferFirmwareResquest}
    (h : u.Awaits (.livox_lidar_xfer_firmware chunk)) :
    u.read_offset < u.firmware.header.firmware_length ∧ chunk = u.xfer_firmware_request := by
  have hcall : u.xfer_firmware = (u, some (.livox_lidar_xfer_firmware chunk)) := h.2
  unfold xfer_firmware at hcall
  split at hcall
  · rename_i hoffset
    cases hcall
    exact ⟨hoffset, rfl⟩
  · cases hcall

/-- No answer changes the firmware, the handle or the length of the chunks. -/
theorem Answered.same (ha : u.Answered request status response v next) :
    v.firmware = u.firmware ∧ v.handle = u.handle ∧ v.read_length = u.read_length := by
  cases ha with
  | granted _ _ hv =>
    subst hv
    unfold xfer_firmware
    split <;> exact ⟨rfl, rfl, rfl⟩
  | acked _ hv _ | covered _ hv _ =>
    subst hv
    exact ⟨rfl, rfl, rfl⟩
  | retried | given_up | refused | busy | completed | progressing | upgraded | rebooted =>
    exact ⟨rfl, rfl, rfl⟩

/-- A request that is made after one that failed is that one again, and counted. -/
theorem Answered.repeats {made : Request}
    (ha : u.Answered request status response v (some made))
    (hstatus : status ≠ .kLivoxLidarStatusSuccess) :
    made = request ∧ v.try_count = u.try_count + 1 ∧ v.try_count < request.try_count_limit := by
  generalize hnext : some made = next at ha
  cases ha with
  | retried _ hbelow =>
    cases hnext
    exact ⟨rfl, rfl, hbelow⟩
  | given_up => cases hnext
  | refused | busy | granted | acked | covered | completed | progressing | upgraded | rebooted =>
    exact absurd rfl hstatus

/-- A success resets the counter. -/
theorem Answered.try_count_reset
    (ha : u.Answered request .kLivoxLidarStatusSuccess response v next) : v.try_count = 0 := by
  generalize hstatus : LivoxLidarStatus.kLivoxLidarStatusSuccess = status at ha
  cases ha with
  | retried hfailed | given_up hfailed => exact absurd hstatus.symm hfailed
  | granted _ _ hv =>
    subst hv
    unfold xfer_firmware
    split <;> rfl
  | acked _ hv | covered _ hv => rw [hv]
  | refused | busy | completed | progressing | upgraded | rebooted => rfl

/-- A request that is made after an answer is waited for. -/
theorem Answered.awaits (ha : u.Answered request status response v next) (h : u.Awaits request)
    {made : Request} (hmade : next = some made) : v.Awaits made := by
  cases ha with
  | retried | busy =>
    cases hmade
    exact h.with_try_count _
  | given_up | refused | rebooted => cases hmade
  | granted _ _ hv =>
    unfold xfer_firmware at hmade ⊢
    split at hmade
    · rename_i hoffset
      cases hmade
      rw [if_pos hoffset]
      exact awaits_xfer (by rw [hv]) hoffset
    · cases hmade
  | acked _ hv hoffset =>
    cases hmade
    exact awaits_xfer (by rw [hv]; exact h.1) hoffset
  | covered _ hv _ =>
    cases hmade
    exact awaits_complete_xfer (by rw [hv])
  | completed =>
    cases hmade
    exact awaits_progress rfl
  | progressing =>
    cases hmade
    exact h.with_try_count 0
  | upgraded =>
    cases hmade
    exact awaits_reboot rfl

/-- The device lets the upgrade of a firmware start that has nothing to transfer. -/
def Stalls (u : LivoxLidarUpgrader) (request : Request) (status : LivoxLidarStatus)
    (response : Response) : Prop :=
  request.state = .kLivoxLidarUpgradeRequest ∧ status = .kLivoxLidarStatusSuccess ∧
    response.ret_code = 0 ∧ u.firmware.header.firmware_length = 0

/-- Without a further request the upgrade has ended, but in that one case. -/
theorem Answered.ended (ha : u.Answered request status response v none) (h : u.Awaits request)
    (hstalls : ¬ u.Stalls request status response) : v.IsUpgradeComplete ∨ v.IsUpgradeError := by
  generalize hnext : (none : Option Request) = next at ha
  cases ha with
  | retried | busy | acked | covered | completed | progressing | upgraded => cases hnext
  | given_up =>
    cases request with
    | livox_lidar_request_reboot reboot => exact Or.inl rfl
    | livox_lidar_start_upgrade start | livox_lidar_start_upgrade_v3 start
    | livox_lidar_xfer_firmware chunk | livox_lidar_complete_xfer_firmware checksum
    | livox_lidar_get_upgrade_progress => exact Or.inr (Or.inr rfl)
  | refused => exact Or.inr (Or.inr rfl)
  | granted hcode hstate hv =>
    exfalso
    unfold xfer_firmware at hnext
    split at hnext
    · cases hnext
    · rename_i hoffset
      refine hstalls ⟨hstate, rfl, hcode, ?_⟩
      rw [hv, h.read_offset_of_start hstate] at hoffset
      exact UInt32.le_antisymm (UInt32.not_lt.mp hoffset) (UInt32.zero_le)
  | rebooted => exact Or.inl rfl

/-- In that case the upgrader waits for nothing. -/
theorem Answered.stalled (ha : u.Answered request status response v next) (h : u.Awaits request)
    (hstalls : u.Stalls request status response) :
    next = none ∧ ¬ v.IsUpgradeComplete ∧ ¬ v.IsUpgradeError := by
  obtain ⟨hstate, rfl, hcode, hlength⟩ := hstalls
  cases ha with
  | retried hstatus | given_up hstatus => exact absurd rfl hstatus
  | refused hrefused => exact absurd hcode hrefused
  | busy hbusy =>
    rw [hcode] at hbusy
    obtain hready | herase := hbusy
    · cases hready
    · cases herase
  | @granted _ _ w _ _ hv =>
    have hoffset : ¬ w.read_offset < w.firmware.header.firmware_length := by
      rw [hv, h.read_offset_of_start hstate]
      show ¬ (0 : UInt32) < u.firmware.header.firmware_length
      rw [hlength]
      decide
    unfold xfer_firmware
    rw [if_neg hoffset]
    simp [hv, IsUpgradeComplete, IsUpgradeError]
  | acked | covered | completed | progressing | upgraded | rebooted => cases hstate

end Answers

end LivoxLidarUpgrader

end livox_lidar
